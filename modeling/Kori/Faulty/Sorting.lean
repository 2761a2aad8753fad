import Mathlib.Data.List.Destutter
import Mathlib.Data.List.Sort

/-! # Stable sorting -/

namespace Faulty

variable {α : Type} {le : α → α → Bool}

theorem filter_mergeSort (htrans : ∀ a b c, le a b = true → le b c = true → le a c = true)
    (htotal : ∀ a b, (le a b || le b a) = true) {p : α → Bool} (hp : ∀ a b, p a = true → p b = true → le a b = true)
    (items : List α) : (items.mergeSort le).filter p = items.filter p := by
  have hsorted : (items.filter p).Pairwise fun a b => le a b = true := by
    refine List.Pairwise.imp_of_mem (fun ha hb _ => ?_)
      (List.pairwise_of_forall (R := fun _ _ => True) fun _ _ => trivial)
    exact hp _ _ (List.mem_filter.mp ha).2 (List.mem_filter.mp hb).2
  have hsublist : (items.filter p).Sublist (items.mergeSort le) :=
    List.sublist_mergeSort htrans htotal hsorted List.filter_sublist
  have hlength : (items.filter p).length = ((items.mergeSort le).filter p).length :=
    ((List.mergeSort_perm items le).filter p).length_eq.symm
  have hfiltered := hsublist.filter p
  rw [List.filter_filter] at hfiltered
  simp only [Bool.and_self] at hfiltered
  exact (hfiltered.eq_of_length hlength).symm

theorem find?_mergeSort (htrans : ∀ a b c, le a b = true → le b c = true → le a c = true)
    (htotal : ∀ a b, (le a b || le b a) = true) {p : α → Bool} (hp : ∀ a b, p a = true → p b = true → le a b = true)
    (items : List α) : (items.mergeSort le).find? p = items.find? p := by
  rw [← List.head?_filter, filter_mergeSort htrans htotal hp, List.head?_filter]

/-! ## Each item once -/

theorem mem_destutter'_ne {β : Type} [DecidableEq β] {items : List β} {first b : β} :
    b ∈ items.destutter' (· ≠ ·) first ↔ b = first ∨ b ∈ items := by
  induction items generalizing first with
  | nil => simp
  | cons item items ih =>
    rw [List.destutter'_cons]
    split
    · rw [List.mem_cons, ih, List.mem_cons]
    · rename_i hsame
      obtain rfl := not_not.mp hsame
      rw [ih, List.mem_cons]
      tauto

theorem mem_destutter_ne {β : Type} [DecidableEq β] {items : List β} {b : β} :
    b ∈ items.destutter (· ≠ ·) ↔ b ∈ items := by
  cases items with
  | nil => rfl
  | cons item items => rw [List.destutter_cons', mem_destutter'_ne, List.mem_cons]

theorem pairwise_destutter_mergeSort {β : Type} [LinearOrder β] (items : List β) :
    ((items.mergeSort fun a b => a ≤ b).destutter (· ≠ ·)).Pairwise (· < ·) := by
  have hsorted : ((items.mergeSort fun a b => a ≤ b).destutter (· ≠ ·)).Pairwise (· ≤ ·) :=
    (List.pairwise_mergeSort' (· ≤ ·) items).sublist (List.destutter_sublist ..)
  have hchain := List.isChain_destutter (R := (· ≠ ·)) (items.mergeSort fun a b => a ≤ b)
  rw [List.isChain_iff_getElem] at hchain
  rw [← List.isChain_iff_pairwise, List.isChain_iff_getElem]
  intro i hi
  exact lt_of_le_of_ne (List.pairwise_iff_getElem.mp hsorted _ _ _ hi (Nat.lt_succ_self i)) (hchain i hi)

end Faulty
