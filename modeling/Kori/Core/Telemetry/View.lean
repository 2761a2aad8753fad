import Kori.Core.Telemetry
import Mathlib.Data.List.Induction
import Mathlib.Data.Nat.Dist

/-!
# How a sampled metric ages

The last valid value stays on show until it is stale, and is dropped after that. Stamps come from
the wall clock, which can be set back.
-/

namespace Kori

/-- Age at which a retained value is presented as stale. -/
def STALE_AFTER_MS : Nat := 2000
/-- Age at which a retained value is dropped. -/
def DROP_AFTER_MS : Nat := 10000

/-- How a retained metric presents. -/
inductive MetricView (α : Type) where
  | fresh (value : α)
  | stale (value : α) (ageMs : Nat)
  | unavailable (cause : Option Unavailable)
deriving DecidableEq, Repr

def MetricView.value {α : Type} : MetricView α → Option α
  | fresh value => some value
  | stale value _ => some value
  | unavailable _ => none

/-- The last valid value of one metric with its stamp, and the failure since. -/
structure Tracked (α : Type) where
  lastValid : Option (α × Nat)
  cause : Option Unavailable
deriving DecidableEq, Repr

namespace Tracked

variable {α : Type}

def new : Tracked α := { lastValid := none, cause := none }

/-- Folds one reading in, stamped with the time it was sampled. -/
def observe (tracked : Tracked α) (reading : Reading α) (atUnixMs : Nat) : Tracked α :=
  match reading with
  | .valid value =>
    -- A sample older than the one held is ignored.
    if tracked.lastValid.any fun held => atUnixMs < held.2 then tracked
    else { lastValid := some (value, atUnixMs), cause := none }
  | .unavailable cause => { tracked with cause := some cause }

def view (tracked : Tracked α) (nowUnixMs : Nat) : MetricView α :=
  match tracked.lastValid with
  | none => .unavailable tracked.cause
  | some (value, at_) =>
    let ageMs := nowUnixMs - at_
    if DROP_AFTER_MS ≤ ageMs then .unavailable tracked.cause
    else if STALE_AFTER_MS ≤ ageMs then .stale value ageMs
    else .fresh value

/-- Everything one metric was told, oldest first. -/
def observeAll (samples : List (Reading α × Nat)) : Tracked α :=
  samples.foldl (fun tracked sample => tracked.observe sample.1 sample.2) new

/-! ## What is held -/

/-- The held value is a valid sample, and no valid sample is stamped later. -/
def Holds (tracked : Tracked α) (samples : List (Reading α × Nat)) : Prop :=
  (∀ value stamp, tracked.lastValid = some (value, stamp) →
    (.valid value, stamp) ∈ samples ∧
      ∀ other later, (.valid other, later) ∈ samples → later ≤ stamp) ∧
  (tracked.lastValid = none → ∀ value stamp, (.valid value, stamp) ∉ samples)

theorem holds_observe {tracked : Tracked α} {samples : List (Reading α × Nat)}
    (h : Holds tracked samples) (reading : Reading α) (atUnixMs : Nat) :
    Holds (tracked.observe reading atUnixMs) (samples ++ [(reading, atUnixMs)]) := by
  obtain ⟨hheld, hnone⟩ := h
  cases reading with
  | unavailable cause =>
    refine ⟨fun value stamp hvalue => ?_, fun hempty value stamp hmem => ?_⟩
    · obtain ⟨hmem, hle⟩ := hheld value stamp hvalue
      refine ⟨List.mem_append_left _ hmem, fun other later hother => ?_⟩
      rcases List.mem_append.mp hother with hother | hother
      · exact hle other later hother
      · simp at hother
    · rcases List.mem_append.mp hmem with hmem | hmem
      · exact hnone hempty value stamp hmem
      · simp at hmem
  | valid value =>
    unfold observe
    dsimp only
    split
    · -- Older than what is held.
      rename_i hold
      obtain ⟨held, hlast, hlt⟩ := Option.any_eq_true .. |>.mp hold
      obtain ⟨hmem, hle⟩ := hheld held.1 held.2 hlast
      refine ⟨fun kept stamp hkept => ?_, fun hempty => ?_⟩
      · rw [hlast] at hkept
        cases hkept
        refine ⟨List.mem_append_left _ hmem, fun other later hother => ?_⟩
        rcases List.mem_append.mp hother with hother | hother
        · exact hle other later hother
        · simp only [List.mem_singleton, Prod.mk.injEq] at hother
          simp only [decide_eq_true_eq] at hlt
          omega
      · rw [hlast] at hempty
        cases hempty
    · rename_i hnew
      refine ⟨fun kept stamp hkept => ?_, fun hempty => nomatch hempty⟩
      cases hkept
      refine ⟨by simp, fun other later hother => ?_⟩
      rcases List.mem_append.mp hother with hother | hother
      · cases hlast : tracked.lastValid with
        | none => exact absurd hother (hnone hlast other later)
        | some held =>
          have hle := (hheld held.1 held.2 hlast).2 other later hother
          simp only [hlast, Option.any_some, decide_eq_true_eq] at hnew
          omega
      · simp only [List.mem_singleton, Prod.mk.injEq] at hother
        omega

theorem holds_observeAll (samples : List (Reading α × Nat)) :
    Holds (observeAll samples) samples := by
  induction samples using List.reverseRecOn with
  | nil =>
    refine ⟨fun value stamp h => ?_, fun _ value stamp h => ?_⟩
    · cases h
    · cases h
  | append_singleton samples sample ih =>
    unfold observeAll
    rw [List.foldl_append]
    exact holds_observe ih sample.1 sample.2

/-! ## What is shown -/

/-- Fresh, stale and gone, each by the distance between the reader's clock and a valid sample. -/
def ShownByDistance (samples : List (Reading α × Nat)) (now : Nat) : Prop :=
  (∀ value, (observeAll samples).view now = .fresh value →
    ∃ stamp, (.valid value, stamp) ∈ samples ∧ Nat.dist stamp now < STALE_AFTER_MS) ∧
  (∀ value ageMs, (observeAll samples).view now = .stale value ageMs →
    (.valid value, now - ageMs) ∈ samples ∧ Nat.dist (now - ageMs) now = ageMs ∧
      STALE_AFTER_MS ≤ ageMs ∧ ageMs < DROP_AFTER_MS) ∧
  ((∃ cause, (observeAll samples).view now = .unavailable cause) ↔
    ∀ value stamp, (.valid value, stamp) ∈ samples → DROP_AFTER_MS ≤ Nat.dist stamp now)

/-- No valid sample is stamped ahead of the reader by the age of a stale one, save where the value
on show was sampled close to the reader's clock as well. -/
def NotAhead (samples : List (Reading α × Nat)) (now : Nat) : Prop :=
  (∀ value stamp, (.valid value, stamp) ∈ samples → stamp < now + STALE_AFTER_MS) ∨
  ∃ value ahead stamp, (observeAll samples).lastValid = some (value, ahead) ∧
    (.valid value, stamp) ∈ samples ∧ Nat.dist stamp now < STALE_AFTER_MS

theorem view_cases (tracked : Tracked α) (now : Nat) :
    (tracked.lastValid = none ∧ tracked.view now = .unavailable tracked.cause) ∨
    ∃ value stamp, tracked.lastValid = some (value, stamp) ∧
      ((DROP_AFTER_MS ≤ now - stamp ∧ tracked.view now = .unavailable tracked.cause) ∨
        (STALE_AFTER_MS ≤ now - stamp ∧ now - stamp < DROP_AFTER_MS ∧
          tracked.view now = .stale value (now - stamp)) ∨
        (now - stamp < STALE_AFTER_MS ∧ tracked.view now = .fresh value)) := by
  unfold view
  cases hlast : tracked.lastValid with
  | none => exact .inl ⟨rfl, rfl⟩
  | some held =>
    refine .inr ⟨held.1, held.2, rfl, ?_⟩
    by_cases hdrop : DROP_AFTER_MS ≤ now - held.2
    · exact .inl ⟨hdrop, if_pos hdrop⟩
    · by_cases hstale : STALE_AFTER_MS ≤ now - held.2
      · refine .inr (.inl ⟨hstale, Nat.not_le.mp hdrop, ?_⟩)
        simp only [if_neg hdrop, if_pos hstale]
      · refine .inr (.inr ⟨Nat.not_le.mp hstale, ?_⟩)
        simp only [if_neg hdrop, if_neg hstale]

theorem shown_of_notAhead {samples : List (Reading α × Nat)} {now : Nat}
    (h : NotAhead samples now) : ShownByDistance samples now := by
  have hstale : STALE_AFTER_MS = 2000 := rfl
  have hdrop : DROP_AFTER_MS = 10000 := rfl
  obtain ⟨hheld, hnone⟩ := holds_observeAll samples
  rcases view_cases (observeAll samples) now with ⟨hlast, hview⟩ | ⟨value, stamp, hlast, hview⟩
  · rw [ShownByDistance, hview]
    refine ⟨fun _ h => (nomatch h), fun _ _ h => (nomatch h), fun _ value stamp hmem => ?_,
      fun _ => ⟨_, rfl⟩⟩
    exact absurd hmem (hnone hlast value stamp)
  obtain ⟨hmem, hle⟩ := hheld value stamp hlast
  rcases hview with ⟨hage, hview⟩ | ⟨hage, hshort, hview⟩ | ⟨hage, hview⟩
  · rw [ShownByDistance, hview]
    refine ⟨fun _ h => (nomatch h), fun _ _ h => (nomatch h), fun _ other later hother => ?_,
      fun _ => ⟨_, rfl⟩⟩
    have hlater := hle other later hother
    rw [Nat.dist_eq_sub_of_le (by omega)]
    omega
  · rw [ShownByDistance, hview]
    refine ⟨fun _ h => (nomatch h), fun _ _ h => ?_, fun ⟨_, h⟩ => (nomatch h), fun hall => ?_⟩
    · cases h
      have hback : now - (now - stamp) = stamp := by omega
      rw [hback]
      exact ⟨hmem, Nat.dist_eq_sub_of_le (by omega), hage, hshort⟩
    · have hfar := hall value stamp hmem
      rw [Nat.dist_eq_sub_of_le (by omega)] at hfar
      omega
  · -- What is fresh by the age is close by the distance too.
    have hclose : ∃ close, (.valid value, close) ∈ samples ∧ Nat.dist close now < STALE_AFTER_MS := by
      rcases h with h | ⟨kept, ahead, close, hkept, hclose⟩
      · have hahead := h value stamp hmem
        refine ⟨stamp, hmem, ?_⟩
        unfold Nat.dist
        omega
      · rw [hlast] at hkept
        cases hkept
        exact ⟨close, hclose⟩
    rw [ShownByDistance, hview]
    refine ⟨fun _ h => ?_, fun _ _ h => (nomatch h), fun ⟨_, h⟩ => (nomatch h), fun hall => ?_⟩
    · cases h
      exact hclose
    · obtain ⟨close, hmem, hclose⟩ := hclose
      have hfar := hall value close hmem
      omega

theorem notAhead_of_shown {samples : List (Reading α × Nat)} {now : Nat}
    (h : ShownByDistance samples now) : NotAhead samples now := by
  have hstale : STALE_AFTER_MS = 2000 := rfl
  have hdrop : DROP_AFTER_MS = 10000 := rfl
  obtain ⟨hheld, hnone⟩ := holds_observeAll samples
  rcases view_cases (observeAll samples) now with ⟨hlast, -⟩ | ⟨value, stamp, hlast, hview⟩
  · exact .inl fun value stamp hmem => absurd hmem (hnone hlast value stamp)
  obtain ⟨-, hle⟩ := hheld value stamp hlast
  rcases hview with ⟨hage, -⟩ | ⟨hage, -, -⟩ | ⟨-, hview⟩
  · refine .inl fun other later hother => ?_
    have hlater := hle other later hother
    omega
  · refine .inl fun other later hother => ?_
    have hlater := hle other later hother
    omega
  · obtain ⟨close, hclose⟩ := h.1 value hview
    exact .inr ⟨value, stamp, close, hlast, hclose⟩

theorem observeAll_unavailable (samples : List (Reading α × Nat)) (cause : Unavailable)
    (stamp : Nat) :
    observeAll (samples ++ [(.unavailable cause, stamp)]) =
      { observeAll samples with cause := some cause } := by
  unfold observeAll
  rw [List.foldl_append]
  rfl

/-- Views go by distance exactly where no sample is ahead of the reader, and a failure extends
nothing. -/
theorem shown_by_distance_iff :
    (∀ (samples : List (Reading α × Nat)) now,
      ShownByDistance samples now ↔ NotAhead samples now) ∧
    ∀ (samples : List (Reading α × Nat)) cause stamp now,
      let failed := observeAll (samples ++ [(.unavailable cause, stamp)])
      (∀ value, failed.view now = .fresh value ↔ (observeAll samples).view now = .fresh value) ∧
      ∀ value ageMs, failed.view now = .stale value ageMs ↔
        (observeAll samples).view now = .stale value ageMs := by
  refine ⟨fun samples now => ⟨notAhead_of_shown, shown_of_notAhead⟩, ?_⟩
  intro samples cause stamp now failed
  have hfailed : failed = { observeAll samples with cause := some cause } :=
    observeAll_unavailable samples cause stamp
  rw [hfailed]
  unfold view
  dsimp only
  cases (observeAll samples).lastValid with
  | none => simp
  | some held =>
    dsimp only
    split
    · simp
    · split
      · simp
      · simp

/-- A sample from before the clock was set back is shown as current, and the one taken since is
not. -/
theorem ahead_shown_fresh :
    (observeAll [(.valid 42, 100000), (.valid 50, 1000)]).view 1000 = .fresh 42 ∧
      ¬ ShownByDistance [(.valid 42, 100000), (.valid 50, 1000)] 1000 := by
  have hview : (observeAll [(.valid 42, 100000), (.valid 50, 1000)]).view 1000 = .fresh 42 := by
    decide
  refine ⟨hview, fun h => ?_⟩
  obtain ⟨stamp, hmem, hdist⟩ := h.1 42 hview
  simp only [List.mem_cons, Prod.mk.injEq, Reading.valid.injEq, List.not_mem_nil, or_false,
    true_and] at hmem
  rcases hmem with rfl | ⟨hvalue, -⟩
  · revert hdist
    decide
  · cases hvalue

end Tracked

end Kori
