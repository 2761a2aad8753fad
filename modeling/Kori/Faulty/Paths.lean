import Mathlib.Init

/-! # Paths, compared by their components -/

namespace Faulty

/-- One component of a path. -/
inductive Component where
  | rootDir
  | curDir
  | parentDir
  | normal (name : List Char)
deriving DecidableEq

/-- The component between two slashes: none between doubled ones, and none for a dot inside a path. -/
def Component.ofPiece (piece : List Char) : Option Component :=
  if piece = [] ∨ piece = ['.'] then none
  else if piece = ['.', '.'] then some parentDir
  else some (normal piece)

/-- The components of a path. A dot counts where a path begins with it. -/
def components (path : String) : List Component :=
  let pieces := path.toList.splitOn '/'
  let start := if path.toList.head? = some '/' then [.rootDir] else if pieces.head? = some ['.'] then [.curDir] else []
  start ++ pieces.filterMap Component.ofPiece

/-- Two paths are equal when their components are, however they are spelled. -/
def SamePath (path other : String) : Prop := components path = components other

instance (path other : String) : Decidable (SamePath path other) := inferInstanceAs (Decidable (_ = _))

@[simp] theorem SamePath.refl (path : String) : SamePath path path := rfl

/-- A slash at the end of a path, doubled slashes and inner dots are not seen. -/
example : SamePath "/home/a/loop.gif" "/home//a/./loop.gif/" := by decide

end Faulty
