import Mathlib.Algebra.GroupWithZero.Nat
import Mathlib.Data.List.Pairwise

/-! # Records: what is past everything before it -/

namespace Faulty

variable {α : Type} (key : α → Nat)

/-- What is past the mark is kept, and becomes the mark. -/
def recordsAfter (mark : Option Nat) : List α → List α
  | [] => []
  | a :: rest =>
    if mark.all fun m => m < key a then a :: recordsAfter (some (key a)) rest else recordsAfter mark rest

/-- Each item with the one after it. -/
def pairs (items : List α) : List (α × α) := items.zip items.tail

variable {key} {mark : Option Nat} {items : List α}

theorem recordsAfter_cons_of_past {a : α} (h : ∀ m ∈ mark, m < key a) :
    recordsAfter key mark (a :: items) = a :: recordsAfter key (some (key a)) items :=
  if_pos (Option.all_eq_true _ _ |>.mpr fun m hm => decide_eq_true (h m hm))

theorem recordsAfter_cons_of_not_past {a : α} {m : Nat} (h : key a ≤ m) :
    recordsAfter key (some m) (a :: items) = recordsAfter key (some m) items :=
  if_neg (by simpa using h)

theorem lt_of_mem_recordsAfter {m : Nat} {a : α} (h : a ∈ recordsAfter key (some m) items) : m < key a := by
  induction items generalizing m with
  | nil => cases h
  | cons b rest ih =>
    by_cases hpast : m < key b
    · rw [recordsAfter_cons_of_past (by simpa using hpast)] at h
      rcases List.mem_cons.mp h with rfl | h
      · exact hpast
      · exact Nat.lt_trans hpast (ih h)
    · rw [recordsAfter_cons_of_not_past (Nat.le_of_not_lt hpast)] at h
      exact ih h

theorem recordsAfter_pairwise (items : List α) :
    (recordsAfter key mark items).Pairwise fun a b => key a < key b := by
  induction items generalizing mark with
  | nil => exact List.Pairwise.nil
  | cons a rest ih =>
    unfold recordsAfter
    split
    · exact List.Pairwise.cons (fun b hb => lt_of_mem_recordsAfter hb) ih
    · exact ih

theorem rel_of_mem_pairs {R : α → α → Prop} (h : items.Pairwise R) {pair : α × α} (hmem : pair ∈ pairs items) :
    R pair.1 pair.2 := by
  induction items with
  | nil => cases hmem
  | cons first rest ih =>
    obtain ⟨hfirst, hrest⟩ := List.pairwise_cons.mp h
    cases rest with
    | nil => cases hmem
    | cons second rest =>
      rcases List.mem_cons.mp hmem with rfl | hmem
      · exact hfirst second List.mem_cons_self
      · exact ih hrest hmem

theorem sum_pairs {first last : α} (h : (first :: items).Pairwise fun a b => key a < key b)
    (hlast : (first :: items).getLast? = some last) :
    ((pairs (first :: items)).map fun pair => key pair.2 - key pair.1).sum = key last - key first := by
  induction items generalizing first with
  | nil =>
    cases hlast
    simp [pairs]
  | cons second rest ih =>
    obtain ⟨hfirst, hrest⟩ := List.pairwise_cons.mp h
    rw [List.getLast?_cons_cons] at hlast
    have hsecond := hfirst second List.mem_cons_self
    have hend := hfirst last (List.mem_of_getLast? hlast)
    have hle : key second ≤ key last := by
      rcases List.mem_cons.mp (List.mem_of_getLast? hlast) with rfl | hmem
      · exact Nat.le_refl _
      · exact Nat.le_of_lt ((List.pairwise_cons.mp hrest).1 last hmem)
    have hsum := ih hrest hlast
    have hcons : pairs (first :: second :: rest) = (first, second) :: pairs (second :: rest) := rfl
    rw [hcons, List.map_cons, List.sum_cons, hsum]
    dsimp only
    omega

end Faulty
