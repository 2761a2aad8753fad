import Mathlib.Data.List.Induction
import Mathlib.Data.List.Nodup
import Mathlib.Logic.Function.Basic

/-! # A map that is observed again and again, and the log of its changes -/

namespace Faulty

variable {K V : Type}

/-- What a key was found to hold from then on. -/
abbrev Change (K V : Type) := K × Option V

/-- What a log of changes comes to, from some map. -/
def replay [DecidableEq K] (log : List (Change K V)) (start : K → Option V) : K → Option V :=
  log.foldl (fun map change => Function.update map change.1 change.2) start

/-- The changes from one map to the next: every value that is new, then every key that is gone. -/
def changes [DecidableEq V] (keys : List K) (old new : K → Option V) : List (Change K V) :=
  (keys.filterMap fun key => (new key).bind fun value =>
    if old key ≠ some value then some (key, some value) else none) ++
  keys.filterMap fun key => if (old key).isSome ∧ (new key).isNone then some (key, none) else none

/-- The changes of a whole run of maps, one list for each. -/
def history [DecidableEq V] (keys : List K) : (K → Option V) → List (K → Option V) → List (List (Change K V))
  | _, [] => []
  | old, new :: rest => changes keys old new :: history keys new rest

/-- The map a step of a run starts from. -/
def before (old : K → Option V) (maps : List (K → Option V)) (i : Nat) : K → Option V :=
  ((maps.take i).getLast?).getD old

theorem before_succ (old new : K → Option V) (maps : List (K → Option V)) (i : Nat) :
    before old (new :: maps) (i + 1) = before new maps i := by
  unfold before
  rw [List.take_succ_cons, List.getLast?_cons]
  rfl

/-! ## One step -/

variable {keys : List K} {old new : K → Option V} {log more : List (Change K V)}

theorem sublist_filterMap {f : K → Option (Change K V)} (hf : ∀ key change, f key = some change → change.1 = key)
    (keys : List K) : ((keys.filterMap f).map Prod.fst).Sublist keys := by
  induction keys with
  | nil => exact .slnil
  | cons key keys ih =>
    rw [List.filterMap_cons]
    cases hkey : f key with
    | none => exact ih.cons key
    | some change =>
      rw [List.map_cons, hf key change hkey]
      exact ih.cons_cons key

section Step

variable [DecidableEq V]

theorem mem_changes {key : K} {value : Option V} :
    (key, value) ∈ changes keys old new ↔ key ∈ keys ∧ new key = value ∧ old key ≠ value := by
  unfold changes
  simp only [List.mem_append, List.mem_filterMap]
  constructor
  · rintro (⟨found, hmem, hfound⟩ | ⟨found, hmem, hfound⟩)
    · obtain ⟨v, hnew, hsome⟩ := Option.bind_eq_some_iff.mp hfound
      split at hsome
      · cases hsome
        exact ⟨hmem, hnew, by assumption⟩
      · cases hsome
    · split at hfound
      · rename_i hgone
        cases hfound
        exact ⟨hmem, Option.isNone_iff_eq_none.mp hgone.2, Option.isSome_iff_ne_none.mp hgone.1⟩
      · cases hfound
  · rintro ⟨hmem, hnew, hold⟩
    cases value with
    | some v => exact .inl ⟨key, hmem, by rw [hnew, Option.bind_some, if_pos hold]⟩
    | none =>
      exact .inr ⟨key, hmem, if_pos ⟨Option.isSome_iff_ne_none.mpr hold, Option.isNone_iff_eq_none.mpr hnew⟩⟩

theorem nodup_changes (hkeys : keys.Nodup) (old new : K → Option V) :
    ((changes keys old new).map Prod.fst).Nodup := by
  unfold changes
  rw [List.map_append, List.nodup_append]
  refine ⟨(sublist_filterMap ?_ keys).nodup hkeys, (sublist_filterMap ?_ keys).nodup hkeys, ?_⟩
  · intro key change h
    obtain ⟨value, -, hsome⟩ := Option.bind_eq_some_iff.mp h
    split at hsome <;> cases hsome
    rfl
  · intro key change h
    split at h <;> cases h
    rfl
  -- what is new holds a value, and what is gone holds none
  · intro key hnew other hgone heq
    subst heq
    obtain ⟨change, hchange, rfl⟩ := List.mem_map.mp hnew
    obtain ⟨gone, hgone, hsame⟩ := List.mem_map.mp hgone
    obtain ⟨found, -, hfound⟩ := List.mem_filterMap.mp hchange
    obtain ⟨lost, -, hlost⟩ := List.mem_filterMap.mp hgone
    obtain ⟨value, hvalue, hsome⟩ := Option.bind_eq_some_iff.mp hfound
    split at hsome <;> cases hsome
    split at hlost <;> cases hlost
    rename_i hnone
    cases hsame
    rw [hvalue] at hnone
    exact absurd hnone.2 (by simp)

@[simp] theorem length_history (keys : List K) (old : K → Option V) (maps : List (K → Option V)) :
    (history keys old maps).length = maps.length := by
  induction maps generalizing old with
  | nil => rfl
  | cons new maps ih => exact congrArg (· + 1) (ih new)

theorem getElem?_history (keys : List K) (old : K → Option V) (maps : List (K → Option V)) (i : Nat) :
    (history keys old maps)[i]? = maps[i]?.map fun new => changes keys (before old maps i) new := by
  induction maps generalizing old i with
  | nil => rfl
  | cons new maps ih =>
    cases i with
    | zero => rfl
    | succ i =>
      rw [before_succ]
      exact ih new i

end Step

/-! ## Replaying -/

section Replay

variable [DecidableEq K]

theorem replay_append (start : K → Option V) : replay (log ++ more) start = replay more (replay log start) :=
  List.foldl_append

theorem replay_of_notMem {key : K} (h : key ∉ log.map Prod.fst) (start : K → Option V) :
    replay log start key = start key := by
  induction log generalizing start with
  | nil => rfl
  | cons change log ih =>
    obtain ⟨hne, hrest⟩ := not_or.mp (mt List.mem_cons.mpr h)
    exact (ih hrest _).trans (Function.update_of_ne hne ..)

theorem replay_of_mem {key : K} {value : Option V} (hnodup : (log.map Prod.fst).Nodup) (h : (key, value) ∈ log)
    (start : K → Option V) : replay log start key = value := by
  induction log generalizing start with
  | nil => cases h
  | cons change log ih =>
    obtain ⟨hfresh, hnodup⟩ := List.nodup_cons.mp hnodup
    rcases List.mem_cons.mp h with rfl | h
    · exact (replay_of_notMem hfresh _).trans (Function.update_self ..)
    · exact ih hnodup h _

theorem exists_of_replay {key : K} {value : V} (h : replay log (fun _ => none) key = some value) :
    ∃ before since, log = before ++ (key, some value) :: since ∧ key ∉ since.map Prod.fst := by
  induction log using List.reverseRecOn with
  | nil => cases h
  | append_singleton log change ih =>
    obtain ⟨changed, found⟩ := change
    rw [replay_append] at h
    change Function.update (replay log fun _ => none) changed found key = some value at h
    by_cases hkey : key = changed
    · subst hkey
      rw [Function.update_self] at h
      subst h
      exact ⟨log, [], rfl, List.not_mem_nil⟩
    · rw [Function.update_of_ne hkey] at h
      obtain ⟨before, since, rfl, hsince⟩ := ih h
      refine ⟨before, since ++ [(changed, found)], List.append_assoc .., ?_⟩
      simp [hkey, hsince]

/-! ## Nothing goes that was not there -/

/-- Every key a log says is gone held something until then. -/
def GoneWereThere (start : K → Option V) (log : List (Change K V)) : Prop :=
  ∀ before key since, log = before ++ (key, none) :: since → replay before start key ≠ none

theorem GoneWereThere.append {start : K → Option V} (h : GoneWereThere start log)
    (hmore : GoneWereThere (replay log start) more) : GoneWereThere start (log ++ more) := by
  intro before key since heq
  rcases List.append_eq_append_iff.mp heq with ⟨rest, rfl, hrest⟩ | ⟨rest, rfl, hrest⟩
  · rw [replay_append]
    exact hmore rest key since hrest
  · cases rest with
    | nil =>
      have hthere := hmore [] key since hrest.symm
      rw [List.append_nil] at hthere
      exact hthere
    | cons first rest =>
      cases hrest
      exact h before key rest rfl

end Replay

section Run

variable [DecidableEq K] [DecidableEq V]

/-- The changes lead from the one map to the other. -/
theorem replay_changes (hkeys : keys.Nodup) (hall : ∀ key, key ∈ keys) :
    replay (changes keys old new) old = new := by
  funext key
  by_cases hsame : old key = new key
  · rw [replay_of_notMem, hsame]
    intro hmem
    obtain ⟨⟨_, value⟩, hchange, rfl⟩ := List.mem_map.mp hmem
    obtain ⟨-, hnew, hold⟩ := mem_changes.mp hchange
    exact hold (hsame.trans hnew)
  · exact replay_of_mem (nodup_changes hkeys old new) (mem_changes.mpr ⟨hall key, rfl, hsame⟩) old

theorem goneWereThere_changes (hkeys : keys.Nodup) (old new : K → Option V) :
    GoneWereThere old (changes keys old new) := by
  intro before key since heq
  have hmem : (key, none) ∈ changes keys old new := by
    rw [heq]
    exact List.mem_append_right _ List.mem_cons_self
  have hnodup := nodup_changes hkeys old new
  rw [heq, List.map_append, List.map_cons, List.nodup_append] at hnodup
  have hfresh : key ∉ before.map Prod.fst := fun hbefore =>
    hnodup.2.2 key hbefore key List.mem_cons_self rfl
  rw [replay_of_notMem hfresh]
  exact (mem_changes.mp hmem).2.2

/-! ## A run -/

theorem replay_history (hkeys : keys.Nodup) (hall : ∀ key, key ∈ keys) (old : K → Option V)
    (maps : List (K → Option V)) (i : Nat) :
    replay ((history keys old maps).take i).flatten old = before old maps i := by
  induction maps generalizing old i with
  | nil =>
    rw [history, List.take_nil]
    unfold before
    rw [List.take_nil]
    rfl
  | cons new maps ih =>
    cases i with
    | zero => rfl
    | succ i =>
      rw [history, List.take_succ_cons, List.flatten_cons, replay_append, replay_changes hkeys hall, ih, before_succ]

theorem goneWereThere_history (hkeys : keys.Nodup) (hall : ∀ key, key ∈ keys) (old : K → Option V)
    (maps : List (K → Option V)) : GoneWereThere old (history keys old maps).flatten := by
  induction maps generalizing old with
  | nil =>
    intro before key since heq
    simp [history] at heq
  | cons new maps ih =>
    refine (goneWereThere_changes hkeys old new).append ?_
    rw [replay_changes hkeys hall]
    exact ih new

end Run

end Faulty
