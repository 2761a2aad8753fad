import Mathlib.Algebra.Group.Action.Defs
import Mathlib.Data.List.GetD
import Mathlib.Data.Set.Function
import Mathlib.Data.ZMod.Basic
import Mathlib.Dynamics.PeriodicPts.Defs

/-! # Pictures, their quarter turns, and the order in which rows are laid out -/

namespace Faulty

variable {α : Type*}

/-- The places of a grid, each a column and a row. -/
def places (width height : ℕ) : Set (ℕ × ℕ) := {p | p.1 < width ∧ p.2 < height}

/-- A picture: what is at each of its places, and nothing outside. -/
@[ext] structure Picture (α : Type*) where
  width : ℕ
  height : ℕ
  look : ℕ → ℕ → Option α
  inside : ∀ x y, (look x y).isSome ↔ x < width ∧ y < height

namespace Picture

variable (p : Picture α)

theorem look_eq_none {x y : ℕ} (h : ¬ (x < p.width ∧ y < p.height)) : p.look x y = none := by
  rw [← p.inside] at h
  exact Option.not_isSome_iff_eq_none.mp h

/-- One quarter turn, clockwise. -/
def quarter : Picture α where
  width := p.height
  height := p.width
  look x y := if x < p.height then p.look y (p.height - 1 - x) else none
  inside x y := by
    split
    · rw [p.inside]
      omega
    · simp only [Option.isSome_none, Bool.false_eq_true, false_iff]
      omega

theorem quarter_quarter_look (x y : ℕ) : p.quarter.quarter.look x y =
    if x < p.width ∧ y < p.height then p.look (p.width - 1 - x) (p.height - 1 - y) else none := by
  change (if x < p.width then if y < p.height then _ else none else none) = _
  rw [ite_and]
  rfl

theorem quarter_quarter_quarter_look (x y : ℕ) : p.quarter.quarter.quarter.look x y =
    if x < p.height ∧ y < p.width then p.look (p.width - 1 - y) x else none := by
  change (if x < p.height then p.quarter.quarter.look y (p.height - 1 - x) else none) = _
  rw [quarter_quarter_look]
  by_cases hx : x < p.height
  · have hback : p.height - 1 - x < p.height := by omega
    have hsame : p.height - 1 - (p.height - 1 - x) = x := by omega
    simp only [hback, hsame, hx, and_true, true_and, if_true]
  · simp only [hx, if_false, false_and]

theorem quarter_four : p.quarter.quarter.quarter.quarter = p := by
  ext x y : 3
  · rfl
  · rfl
  · rw [quarter_quarter_look, quarter_quarter_look]
    by_cases h : x < p.width ∧ y < p.height
    · have hx : p.width - 1 - (p.width - 1 - x) = x := by omega
      have hy : p.height - 1 - (p.height - 1 - y) = y := by omega
      have hback : p.width - 1 - x < p.width ∧ p.height - 1 - y < p.height := by omega
      change (if x < p.width ∧ y < p.height then
        (if p.width - 1 - x < p.width ∧ p.height - 1 - y < p.height then _ else none) else none) = _
      rw [if_pos h, if_pos hback]
      exact congrArg₂ p.look hx hy
    · rw [p.look_eq_none h]
      exact if_neg h

theorem isPeriodicPt_quarter : Function.IsPeriodicPt quarter 4 p := p.quarter_four

/-- Turns are the cyclic group of order four. -/
instance : AddAction (ZMod 4) (Picture α) where
  vadd n p := quarter^[n.val] p
  zero_vadd p := rfl
  add_vadd m n p := by
    change quarter^[(m + n).val] p = quarter^[m.val] (quarter^[n.val] p)
    rw [← Function.iterate_add_apply, ZMod.val_add, p.isPeriodicPt_quarter.iterate_mod_apply]

end Picture

/-! ## Rows -/

/-- The places of a grid, row after row. -/
def rows (width height : ℕ) : List (ℕ × ℕ) :=
  (List.range height).flatMap fun y => (List.range width).map fun x => (x, y)

theorem rows_eq (width height : ℕ) :
    rows width height = (List.range (width * height)).map fun i => (i % width, i / width) := by
  unfold rows
  induction height with
  | zero => rfl
  | succ height ih =>
    rw [List.range_succ, List.flatMap_append, ih, Nat.mul_succ, List.range_add, List.map_append, List.map_map]
    congr 1
    rw [List.flatMap_singleton]
    refine List.map_congr_left fun x hx => ?_
    have hlt := List.mem_range.mp hx
    simp only [Function.comp_apply, Nat.mul_add_mod, Nat.mod_eq_of_lt hlt, Nat.mul_add_div (Nat.zero_lt_of_lt hlt),
      Nat.div_eq_of_lt hlt, Nat.add_zero]

@[simp] theorem length_rows (width height : ℕ) : (rows width height).length = width * height := by
  rw [rows_eq, List.length_map, List.length_range]

theorem row_major_lt {width height x y : ℕ} (hx : x < width) (hy : y < height) : y * width + x < width * height :=
  calc y * width + x < y * width + width := Nat.add_lt_add_left hx _
    _ = width * (y + 1) := by rw [Nat.mul_succ, Nat.mul_comm]
    _ ≤ width * height := Nat.mul_le_mul_left width hy

theorem getElem?_rows {width height x y : ℕ} (hx : x < width) (hy : y < height) :
    (rows width height)[y * width + x]? = some (x, y) := by
  have hmod : (y * width + x) % width = x := by
    rw [Nat.add_comm, Nat.add_mul_mod_self_right, Nat.mod_eq_of_lt hx]
  have hdiv : (y * width + x) / width = y := by
    rw [Nat.add_comm, Nat.add_mul_div_right _ _ (Nat.zero_lt_of_lt hx), Nat.div_eq_of_lt hx, Nat.zero_add]
  rw [rows_eq, List.getElem?_map, List.getElem?_range (row_major_lt hx hy), Option.map_some, hmod, hdiv]

theorem mem_rows {width height : ℕ} {p : ℕ × ℕ} : p ∈ rows width height ↔ p ∈ places width height := by
  unfold rows places
  simp only [List.mem_flatMap, List.mem_range, List.mem_map, Set.mem_ofPred_eq]
  constructor
  · rintro ⟨y, hy, x, hx, rfl⟩
    exact ⟨hx, hy⟩
  · rintro ⟨hx, hy⟩
    exact ⟨p.2, hy, p.1, hx, rfl⟩

/-- What a list laid out row after row shows. -/
def pictureOf (width height : ℕ) (cells : List α) (full : cells.length = width * height) : Picture α where
  width
  height
  look x y := if x < width ∧ y < height then cells[y * width + x]? else none
  inside x y := by
    split
    · rename_i h
      have hlt := row_major_lt h.1 h.2
      rw [← full] at hlt
      rw [List.getElem?_eq_getElem hlt]
      simp [h]
    · rename_i h
      simp [h]

theorem cells_eq_of_pictureOf_eq {width height : ℕ} {cells others : List α} {full : cells.length = width * height}
    {full' : others.length = width * height}
    (h : pictureOf width height cells full = pictureOf width height others full') : cells = others := by
  refine List.ext_getElem? fun i => ?_
  by_cases hi : i < width * height
  · have hwidth : 0 < width := Nat.pos_of_ne_zero fun hzero => by simp [hzero] at hi
    have hx : i % width < width := Nat.mod_lt _ hwidth
    have hy : i / width < height := Nat.div_lt_of_lt_mul hi
    have hlook := congrFun (congrFun (congrArg Picture.look h) (i % width)) (i / width)
    have hindex : i / width * width + i % width = i := by rw [Nat.mul_comm, Nat.div_add_mod]
    simp only [pictureOf, hx, hy, and_self, if_true, hindex] at hlook
    exact hlook
  · rw [List.getElem?_eq_none (by omega), List.getElem?_eq_none (by omega)]

end Faulty
