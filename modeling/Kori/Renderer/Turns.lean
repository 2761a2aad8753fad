import Kori.Renderer.Frame

/-! # Turned pictures are the upright one, and the bytes sent are the colors shown -/

open Faulty

namespace Kori

section MapM

variable {α β : Type} {f : α → Option β} {xs : List α} {ys : List β}

theorem getElem?_of_mapM (h : xs.mapM f = some ys) (i : Nat) : ys[i]? = xs[i]?.bind f := by
  induction xs generalizing ys i with
  | nil =>
    cases h
    rfl
  | cons x xs ih =>
    rw [List.mapM_cons] at h
    obtain ⟨y, hy, hrest⟩ := Option.bind_eq_some_iff.mp h
    obtain ⟨rest, hmap, hys⟩ := Option.bind_eq_some_iff.mp hrest
    cases hys
    cases i with
    | zero => exact hy.symm
    | succ i => exact ih hmap i

theorem exists_mapM (h : ∀ x ∈ xs, ∃ y, f x = some y) : ∃ ys, xs.mapM f = some ys := by
  induction xs with
  | nil => exact ⟨[], rfl⟩
  | cons x xs ih =>
    obtain ⟨y, hy⟩ := h x List.mem_cons_self
    obtain ⟨ys, hys⟩ := ih fun x hx => h x (List.mem_cons_of_mem _ hx)
    exact ⟨y :: ys, by rw [List.mapM_cons, hy, hys]; rfl⟩

end MapM

/-! ## Where a pixel comes from -/

/-- The place a turned picture shows at some place, in numbers that cannot wrap. -/
def sourceCell (quarter : UInt8) (width height : Nat) (place : Nat × Nat) : Nat × Nat :=
  if quarter = 1 then (place.2, height - 1 - place.1)
  else if quarter = 2 then (width - 1 - place.1, height - 1 - place.2)
  else (width - 1 - place.2, place.1)

section Places

variable {quarter : UInt8} {width height : Nat} {place : Nat × Nat}

/-- A turn that is neither none nor a half swaps the two axes. -/
structure Turned (quarter : UInt8) : Prop where
  nonzero : quarter ≠ 0
  lt : quarter < 4

theorem Turned.cases (h : Turned quarter) : quarter = 1 ∨ quarter = 2 ∨ quarter = 3 := by
  have hlt : quarter.toNat < 4 := h.lt
  have hne : quarter.toNat ≠ 0 := fun hzero => h.nonzero (UInt8.toNat_inj.mp hzero)
  have hsome : quarter.toNat = 1 ∨ quarter.toNat = 2 ∨ quarter.toNat = 3 := by omega
  exact hsome.imp UInt8.toNat_inj.mp (Or.imp UInt8.toNat_inj.mp UInt8.toNat_inj.mp)

theorem turned_quarterTurns {orientation : Orientation} (h : orientation.quarterTurns ≠ 0) :
    Turned orientation.quarterTurns := ⟨h, by cases orientation <;> decide⟩

theorem subU32_of_le {a b : Nat} (h : b ≤ a) : subU32 a b = some (a - b) := if_pos h

theorem sourcePlace_eq (hturned : Turned quarter)
    (hplace : place ∈ places (turnedSize quarter width height).1 (turnedSize quarter width height).2) :
    sourcePlace quarter width height place = some (sourceCell quarter width height place) := by
  obtain ⟨hx, hy⟩ := hplace
  unfold sourcePlace sourceCell
  rcases hturned.cases with rfl | rfl | rfl
  · have hx : place.1 < height := hx
    simp [subU32_of_le (show 1 ≤ height by omega), subU32_of_le (show place.1 ≤ height - 1 by omega)]
  · have hx : place.1 < width := hx
    have hy : place.2 < height := hy
    simp [subU32_of_le (show 1 ≤ height by omega), subU32_of_le (show place.2 ≤ height - 1 by omega),
      subU32_of_le (show 1 ≤ width by omega), subU32_of_le (show place.1 ≤ width - 1 by omega)]
  · have hy : place.2 < width := hy
    simp [subU32_of_le (show 1 ≤ width by omega), subU32_of_le (show place.2 ≤ width - 1 by omega)]

theorem bijOn_sourceCell (hturned : Turned quarter) : Set.BijOn (sourceCell quarter width height)
    (places (turnedSize quarter width height).1 (turnedSize quarter width height).2) (places width height) := by
  have hback : Set.InvOn (fun place => sourceCell (4 - quarter) (turnedSize quarter width height).1
      (turnedSize quarter width height).2 place) (sourceCell quarter width height)
      (places (turnedSize quarter width height).1 (turnedSize quarter width height).2) (places width height) := by
    constructor
    · rintro ⟨x, y⟩ ⟨hx, hy⟩
      rcases hturned.cases with rfl | rfl | rfl <;> simp [sourceCell, turnedSize] at * <;> omega
    · rintro ⟨x, y⟩ ⟨hx, hy⟩
      rcases hturned.cases with rfl | rfl | rfl <;> simp [sourceCell, turnedSize] at * <;> omega
  refine hback.bijOn ?_ ?_
  · rintro ⟨x, y⟩ ⟨hx, hy⟩
    rcases hturned.cases with rfl | rfl | rfl <;> simp [sourceCell, turnedSize, places] at * <;> omega
  · rintro ⟨x, y⟩ ⟨hx, hy⟩
    rcases hturned.cases with rfl | rfl | rfl <;> simp [sourceCell, turnedSize, places] at * <;> omega

theorem sourceIndex_eq (hturned : Turned quarter) (hwidth : width ≤ 65535) (hheight : height ≤ 65535)
    (hplace : place ∈ places (turnedSize quarter width height).1 (turnedSize quarter width height).2) :
    sourceIndex quarter width height place = some ((sourceCell quarter width height place).2 * width +
      (sourceCell quarter width height place).1) := by
  obtain ⟨hx, hy⟩ := (bijOn_sourceCell hturned).mapsTo hplace
  have hlt := row_major_lt hx hy
  have harea : width * height ≤ 65535 * 65535 := Nat.mul_le_mul hwidth hheight
  have hsize : UInt32.size = 4294967296 := rfl
  unfold sourceIndex
  rw [sourcePlace_eq hturned hplace]
  generalize sourceCell quarter width height place = cell at hlt
  simp only [Option.bind_eq_bind, Option.bind_some, mulU32, addU32]
  rw [if_pos (by omega), Option.bind_some, if_pos (by omega)]

end Places

/-! ## The turned picture -/

/-- The turn of an orientation, among the turns there are. -/
def Orientation.turns (orientation : Orientation) : ZMod 4 := orientation.quarterTurns.toNat

namespace Framebuffer

/-- What the frame shows. -/
def picture (frame : Framebuffer) : Picture Rgb := pictureOf frame.width frame.height frame.pixels frame.full

/-- The frame turned once more, as a canvas of its own pixels is. -/
def turn (frame : Framebuffer) (orientation : Orientation) : Option Framebuffer :=
  fromCanvas { frame with } orientation

theorem picture_injective {frame other : Framebuffer} (h : frame.picture = other.picture) : frame = other := by
  obtain ⟨width, height, pixels, full⟩ := frame
  obtain ⟨width', height', pixels', full'⟩ := other
  obtain rfl : width = width' := congrArg Picture.width h
  obtain rfl : height = height' := congrArg Picture.height h
  obtain rfl : pixels = pixels' := cells_eq_of_pictureOf_eq h
  rfl

end Framebuffer

theorem turnedPixels_look {canvas : Canvas} {quarter : UInt8} (hturned : Turned quarter)
    (hwidth : canvas.width ≤ 65535) (hheight : canvas.height ≤ 65535) {x y : Nat}
    (hplace : (x, y) ∈ places (turnedSize quarter canvas.width canvas.height).1
      (turnedSize quarter canvas.width canvas.height).2) :
    (do canvas.pixels[← sourceIndex quarter canvas.width canvas.height (x, y)]?) =
      canvas.picture.look (sourceCell quarter canvas.width canvas.height (x, y)).1
        (sourceCell quarter canvas.width canvas.height (x, y)).2 := by
  have hsource := (bijOn_sourceCell hturned).mapsTo hplace
  rw [sourceIndex_eq hturned hwidth hheight hplace]
  exact (if_pos hsource).symm

theorem fromCanvas_turned {canvas : Canvas} {orientation : Orientation} (hnonzero : orientation.quarterTurns ≠ 0)
    (hwidth : canvas.width ≤ 65535) (hheight : canvas.height ≤ 65535) :
    ∃ frame, Framebuffer.fromCanvas canvas orientation = some frame ∧
      (frame.width, frame.height) = turnedSize orientation.quarterTurns canvas.width canvas.height ∧
      ∀ place ∈ places frame.width frame.height, frame.picture.look place.1 place.2 =
        canvas.picture.look (sourceCell orientation.quarterTurns canvas.width canvas.height place).1
          (sourceCell orientation.quarterTurns canvas.width canvas.height place).2 := by
  have hturned := turned_quarterTurns hnonzero
  have hpixels : ∃ pixels, turnedPixels canvas.pixels orientation.quarterTurns canvas.width canvas.height
      (turnedSize orientation.quarterTurns canvas.width canvas.height).1
      (turnedSize orientation.quarterTurns canvas.width canvas.height).2 = some pixels := by
    refine exists_mapM fun place hplace => ?_
    rw [mem_rows] at hplace
    rw [turnedPixels_look hturned hwidth hheight hplace]
    exact Option.isSome_iff_exists.mp ((canvas.picture.inside ..).mpr ((bijOn_sourceCell hturned).mapsTo hplace))
  obtain ⟨pixels, hpixels⟩ := hpixels
  unfold Framebuffer.fromCanvas
  simp only [if_neg hnonzero]
  split
  · rename_i hnone
    rw [hpixels] at hnone
    cases hnone
  · rename_i found hfound
    refine ⟨_, rfl, rfl, fun place hplace => ?_⟩
    rw [← turnedPixels_look hturned hwidth hheight hplace]
    refine (if_pos hplace).trans ?_
    dsimp only
    rw [getElem?_of_mapM hfound, getElem?_rows hplace.1 hplace.2]
    rfl

theorem size_vadd (orientation : Orientation) (p : Picture Rgb) :
    ((orientation.turns +ᵥ p).width, (orientation.turns +ᵥ p).height) =
      turnedSize orientation.quarterTurns p.width p.height := by cases orientation <;> rfl

theorem look_vadd {orientation : Orientation} (hnonzero : orientation.quarterTurns ≠ 0) (p : Picture Rgb)
    {place : Nat × Nat} (hplace : place ∈ places (turnedSize orientation.quarterTurns p.width p.height).1
      (turnedSize orientation.quarterTurns p.width p.height).2) :
    (orientation.turns +ᵥ p).look place.1 place.2 =
      p.look (sourceCell orientation.quarterTurns p.width p.height place).1
        (sourceCell orientation.quarterTurns p.width p.height place).2 := by
  cases orientation with
  | deg0 => exact absurd rfl hnonzero
  | deg90 => exact if_pos hplace.1
  | deg180 => exact (p.quarter_quarter_look ..).trans (if_pos hplace)
  | deg270 => exact (p.quarter_quarter_quarter_look ..).trans (if_pos hplace)

/-- A turned canvas is its picture turned. -/
theorem fromCanvas_picture {canvas : Canvas} (orientation : Orientation) (hwidth : canvas.width ≤ 65535)
    (hheight : canvas.height ≤ 65535) : ∃ frame, Framebuffer.fromCanvas canvas orientation = some frame ∧
      frame.picture = orientation.turns +ᵥ canvas.picture := by
  by_cases hzero : orientation.quarterTurns = 0
  · have hturns : orientation.turns = 0 := by
      unfold Orientation.turns
      rw [hzero]
      rfl
    refine ⟨{ canvas with }, if_pos hzero, ?_⟩
    rw [hturns]
    rfl
  · obtain ⟨frame, hframe, hsize, hlook⟩ := fromCanvas_turned hzero hwidth hheight
    have hsame := hsize.trans (size_vadd orientation canvas.picture).symm
    have hfwidth : frame.width = (orientation.turns +ᵥ canvas.picture).width := congrArg Prod.fst hsame
    have hfheight : frame.height = (orientation.turns +ᵥ canvas.picture).height := congrArg Prod.snd hsame
    refine ⟨frame, hframe, ?_⟩
    ext x y : 3
    · exact hfwidth
    · exact hfheight
    · by_cases hinside : x < frame.width ∧ y < frame.height
      · have hplace : (x, y) ∈ places frame.width frame.height := hinside
        rw [hlook (x, y) hplace]
        have hpicture : (frame.width, frame.height) =
            turnedSize orientation.quarterTurns canvas.picture.width canvas.picture.height := hsize
        refine (look_vadd hzero canvas.picture ?_).symm
        rw [← hpicture]
        exact hplace
      · rw [frame.picture.look_eq_none hinside, Picture.look_eq_none]
        rw [← hfwidth, ← hfheight]
        exact hinside

end Kori
