import Mathlib.Logic.Relation

/-! # Walks that keep on a stack what is left to visit -/

namespace Faulty

open Relation

/-- What is found at a place, and where a visit goes on to, in the order in which it is put on the stack. -/
structure Walk (α β : Type) where
  found : α → List β
  next : α → List α

namespace Walk

variable {α β : Type} (walk : Walk α β)

/-- Visits what is on the stack, the top first, as long as the fuel lasts. -/
def run : Nat → List α → List β → Option (List β)
  | _, [], found => some found
  | 0, _ :: _, _ => none
  | fuel + 1, place :: stack, found => run fuel ((walk.next place).reverse ++ stack) (found ++ walk.found place)

/-- A visit of the one goes on to the other. -/
def Leads (place other : α) : Prop := other ∈ walk.next place

/-- No walk from here goes on for ever. -/
def Ends (place : α) : Prop := Acc (fun below above => walk.Leads above below) place

/-- Some fuel takes the walk through these places and everything they lead to, and to these findings. -/
def Passes (places : List α) (found : List β) : Prop :=
  ∃ cost, ∀ fuel stack before, walk.run (fuel + cost) (places ++ stack) before = walk.run fuel stack (before ++ found)

variable {walk}

theorem Passes.nil : walk.Passes [] [] := ⟨0, fun fuel stack before => by rw [List.append_nil]; rfl⟩

theorem Passes.append {places others : List α} {found more : List β} (h : walk.Passes places found)
    (hother : walk.Passes others more) : walk.Passes (places ++ others) (found ++ more) := by
  obtain ⟨cost, hcost⟩ := h
  obtain ⟨extra, hextra⟩ := hother
  refine ⟨extra + cost, fun fuel stack before => ?_⟩
  rw [List.append_assoc, ← Nat.add_assoc, hcost, hextra, List.append_assoc]

theorem Passes.visit {place : α} {found : List β} (h : walk.Passes (walk.next place).reverse found) :
    walk.Passes [place] (walk.found place ++ found) := by
  obtain ⟨cost, hcost⟩ := h
  refine ⟨cost + 1, fun fuel stack before => ?_⟩
  rw [← Nat.add_assoc, List.singleton_append, run, hcost, List.append_assoc]

theorem passes_all {places : List α}
    (h : ∀ place ∈ places, ∃ found, walk.Passes [place] found ∧
      ∀ b, b ∈ found ↔ ∃ other, ReflTransGen walk.Leads place other ∧ b ∈ walk.found other) :
    ∃ found, walk.Passes places found ∧
      ∀ b, b ∈ found ↔ ∃ place ∈ places, ∃ other, ReflTransGen walk.Leads place other ∧ b ∈ walk.found other := by
  induction places with
  | nil => exact ⟨[], .nil, fun b => by simp⟩
  | cons place places ih =>
    obtain ⟨first, hfirst, hmem⟩ := h place List.mem_cons_self
    obtain ⟨rest, hrest, hmemRest⟩ := ih fun other hother => h other (List.mem_cons_of_mem _ hother)
    refine ⟨first ++ rest, hfirst.append hrest, fun b => ?_⟩
    rw [List.mem_append, hmem, hmemRest]
    simp only [List.mem_cons, exists_eq_or_imp]

theorem passes_of_ends {place : α} (h : walk.Ends place) :
    ∃ found, walk.Passes [place] found ∧
      ∀ b, b ∈ found ↔ ∃ other, ReflTransGen walk.Leads place other ∧ b ∈ walk.found other := by
  induction h with
  | intro place _ ih =>
    obtain ⟨found, hfound, hmem⟩ := passes_all fun other hother => ih other (List.mem_reverse.mp hother)
    refine ⟨walk.found place ++ found, hfound.visit, fun b => ?_⟩
    rw [List.mem_append, hmem]
    constructor
    · rintro (hhere | ⟨other, hother, last, hpath, hlast⟩)
      · exact ⟨place, .refl, hhere⟩
      · exact ⟨last, .head (List.mem_reverse.mp hother) hpath, hlast⟩
    · rintro ⟨last, hpath, hlast⟩
      rcases hpath.cases_head with rfl | ⟨other, hother, hrest⟩
      · exact .inl hlast
      · exact .inr ⟨other, List.mem_reverse.mpr hother, last, hrest, hlast⟩

/-- With enough fuel a walk that ends finds what there is to find at every place it leads to, and nothing else. -/
theorem run_spec {place : α} (h : walk.Ends place) :
    ∃ enough, ∀ fuel, enough ≤ fuel → ∃ found, walk.run fuel [place] [] = some found ∧
      ∀ b, b ∈ found ↔ ∃ other, ReflTransGen walk.Leads place other ∧ b ∈ walk.found other := by
  obtain ⟨found, ⟨cost, hcost⟩, hmem⟩ := passes_of_ends h
  refine ⟨cost, fun fuel hfuel => ⟨found, ?_, hmem⟩⟩
  have hrun := hcost (fuel - cost) [] []
  rw [Nat.sub_add_cancel hfuel, List.append_nil, List.nil_append] at hrun
  rw [hrun]
  cases fuel - cost <;> rfl

theorem ends_of_rank (rank : α → Nat) (h : ∀ place other, walk.Leads place other → rank other < rank place)
    (place : α) : walk.Ends place :=
  Subrelation.accessible (fun {below above} hleads => h above below hleads)
    (InvImage.accessible rank (Nat.lt_wfRel.wf.apply _))

end Walk

end Faulty
