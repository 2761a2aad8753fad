import Mathlib.Data.List.Basic

/-! # A file on a drive, and what a power loss brings back -/

namespace Faulty

variable {Raw : Type}

/-- The contents of a file, and whether they were flushed since they were written. -/
structure Inode (Raw : Type) where
  raw : Raw
  flushed : Bool
deriving DecidableEq

/-- What a name stood for when its directory was last flushed, and everything it stood for since; and the temporary
file beside it. -/
structure Drive (Raw : Type) where
  settled : Option (Inode Raw)
  since : List (Option (Inode Raw))
  temporary : Option (Inode Raw)
deriving DecidableEq

namespace Drive

variable (drive : Drive Raw)

/-- Everything the name may stand for after a power loss, the latest last. -/
def named : List (Option (Inode Raw)) := drive.settled :: drive.since

/-- What the name stands for while the system runs. -/
def current : Option (Inode Raw) := drive.since.getLast?.getD drive.settled

def contents : Option Raw := drive.current.map Inode.raw

/-- From now on the name stands for something else. -/
def rename (entry : Option (Inode Raw)) : Drive Raw := { drive with since := drive.since ++ [entry] }

/-- The directory is flushed. -/
def flush : Drive Raw := { drive with settled := drive.current, since := [] }

/-- A drive on which everything was flushed. -/
def holding (file : Option Raw) : Drive Raw :=
  { settled := file.map fun raw => ⟨raw, true⟩, since := [], temporary := none }

/-- A power loss brings back something the name stood for at the last flush or since. Contents that were not flushed
come back as anything. -/
def Returns (file : Option Raw) : Prop :=
  ∃ entry ∈ drive.named, match entry with
    | none => file = none
    | some inode => ∃ raw, file = some raw ∧ (inode.flushed = true → raw = inode.raw)

variable {drive}

@[simp] theorem named_rename (entry : Option (Inode Raw)) : (drive.rename entry).named = drive.named ++ [entry] := rfl

@[simp] theorem contents_rename (entry : Option (Inode Raw)) :
    (drive.rename entry).contents = entry.map Inode.raw := by
  simp [contents, current, rename]

@[simp] theorem named_flush : drive.flush.named = [drive.current] := rfl

@[simp] theorem contents_flush : drive.flush.contents = drive.contents := rfl

@[simp] theorem named_holding (file : Option Raw) : (holding file).named = [file.map fun raw => ⟨raw, true⟩] := rfl

@[simp] theorem contents_holding (file : Option Raw) : (holding file).contents = file := by
  cases file <;> rfl

theorem getLast?_named : drive.named.getLast? = some drive.current := List.getLast?_cons

theorem current_of_named (front : List (Option (Inode Raw))) {entry : Option (Inode Raw)}
    (h : drive.named = front ++ [entry]) : drive.current = entry := by
  have hlast := drive.getLast?_named
  rw [h, List.getLast?_concat] at hlast
  exact (Option.some.inj hlast).symm

end Drive

end Faulty
