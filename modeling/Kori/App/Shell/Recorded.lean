import Kori.App.Shell.InFlight

/-! # The program the window records as running, and the answer it records it on -/

open Faulty

namespace Kori.App

/-- The turn sends a cooling program while another one is not answered yet, or its outcome not taken. -/
def Overlaps (past : List AppTurn) (t : AppTurn) : Prop :=
  ∃ command ∈ sent t, command.subject = .cooling ∧
    ((∃ other ∈ t.before.feed.unpublished, other.subject = .cooling ∧ other ≠ command) ∨
      ∃ u ∈ past, ∃ answered ∈ u.answer.published,
        t.before.unseen = some answered.outcome ∧ answered.command.subject = .cooling ∧ answered.command ≠ command)

instance (past : List AppTurn) : DecidablePred (Overlaps past) := fun _ =>
  inferInstanceAs (Decidable (∃ command ∈ _, _ ∧ (_ ∨ _)))

/-- No turn so far sent a cooling program over another one. -/
def Apart (past : List AppTurn) : Prop := Since (fun earlier t => ¬ Overlaps earlier t) [] past

instance : DecidablePred Apart := Since.decide _ []

variable {interval : Duration} {app : App} {event : Event} {past : List AppTurn} {t : AppTurn}

/-- What is in the slot was published for a command of the past. -/
def Sourced (past : List AppTurn) (app : App) : Prop :=
  ∀ outcome ∈ app.feed.shared.outcome,
    ∃ u ∈ past, ∃ answered ∈ u.answer.published, answered.outcome = outcome ∧ answered.Reported

/-- While a program is in flight, the cooling writes that are not settled carry it. -/
def Tied (past : List AppTurn) (app : App) : Prop :=
  ∀ program ∈ app.shell.sent,
    (∀ command ∈ app.feed.unpublished, command.subject = .cooling → command = .apply program) ∧
      ∀ outcome ∈ app.unseen, outcome.subject = .cooling →
        ∃ u ∈ past, ∃ answered ∈ u.answer.published, answered.outcome = outcome ∧ answered.Reported ∧
          answered.command = .apply program

theorem opened_sourced (lcd : Option DisplayPreset) : Sourced [] (opened lcd) := fun _ h => (nomatch h)

theorem opened_tied (lcd : Option DisplayPreset) : Tied [] (opened lcd) := fun _ h => (nomatch h)

theorem sourced_snoc (h : Sourced past app) :
    Sourced (past ++ [turn (step interval) app event]) (turn (step interval) app event).after := by
  have hearlier : ∀ outcome ∈ app.feed.shared.outcome, ∃ u ∈ past ++ [turn (step interval) app event],
      ∃ answered ∈ u.answer.published, answered.outcome = outcome ∧ answered.Reported := by
    intro outcome hmem
    obtain ⟨u, hu, hanswered⟩ := h outcome hmem
    exact ⟨u, List.mem_append_left _ hu, hanswered⟩
  intro outcome hmem
  have hlast : turn (step interval) app event ∈ past ++ [turn (step interval) app event] := by simp
  have hstepped := @step_stepped interval app event
  unfold turn at hmem hlast hearlier ⊢
  dsimp only at hmem
  generalize step interval event app = r at hmem hlast hearlier hstepped ⊢
  cases hstepped with
  | window action hevent hacted hfeed hpublished =>
    rw [hfeed] at hmem
    exact hearlier outcome hmem
  | work replies hevent hmoved hshell hsent hrecorded =>
    cases hmoved with
    | kept hpublished hunpublished hslot hsequence =>
      rw [hslot] at hmem
      exact hearlier outcome hmem
    | dropped command hpublished hunpublished hslot hsequence =>
      rw [hslot] at hmem
      exact hearlier outcome hmem
    | published answered hpublished hfirst hunpublished hslot hsequence hcount hreported =>
      rw [hslot] at hmem
      cases hmem
      exact ⟨_, hlast, answered, hpublished, rfl, hreported⟩
  | stopped hevent hnoted hshell hunpublished hshared hsequence =>
    rw [hshared] at hmem
    exact hearlier outcome hmem

theorem tied_snoc (hsourced : Sourced past app) (h : Tied past app)
    (hapart : ¬ Overlaps past (turn (step interval) app event)) :
    Tied (past ++ [turn (step interval) app event]) (turn (step interval) app event).after := by
  have hearlier : ∀ outcome, ∀ program, (∃ u ∈ past, ∃ answered ∈ u.answer.published, answered.outcome = outcome ∧
      answered.Reported ∧ answered.command = .apply program) →
      ∃ u ∈ past ++ [turn (step interval) app event], ∃ answered ∈ u.answer.published, answered.outcome = outcome ∧
        answered.Reported ∧ answered.command = .apply program := by
    rintro outcome program ⟨u, hu, hanswered⟩
    exact ⟨u, List.mem_append_left _ hu, hanswered⟩
  have hlast : turn (step interval) app event ∈ past ++ [turn (step interval) app event] := by simp
  have hstepped := @step_stepped interval app event
  unfold Overlaps sent turn at hapart
  unfold turn at hlast hearlier ⊢
  dsimp only at hapart ⊢
  generalize step interval event app = r at hapart hlast hearlier hstepped ⊢
  intro program hsome
  cases hstepped with
  | window action hevent hacted hfeed hpublished =>
    have hslot : r.2.feed.shared = app.feed.shared := by
      rw [hfeed]
      rfl
    rw [hfeed, Feed.sendAll_unpublished]
    cases hacted with
    | flushed hflushed hrecorded htaken =>
      obtain ⟨houtcome, hflushed⟩ := hflushed
      rw [unseen_congr (congrArg _ hslot) houtcome]
      rcases hflushed with ⟨hsent, hquiet⟩ | ⟨sending, hnone, hsending, hmem, honly⟩
      · rw [hsent] at hsome
        obtain ⟨hunpublished, hunseen⟩ := h program hsome
        constructor
        · intro command hmem hcooling
          rcases List.mem_append.mp hmem with hmem | hmem
          · exact hunpublished command hmem hcooling
          · exact absurd hcooling (hquiet command hmem)
        · exact fun outcome hmem hcooling => hearlier _ _ (hunseen outcome hmem hcooling)
      · rw [hsending] at hsome
        cases hsome
        constructor
        · intro command hmem' hcooling
          rcases List.mem_append.mp hmem' with hmem' | hmem'
          · by_contra hne
            exact hapart ⟨_, hmem, rfl, .inl ⟨command, hmem', hcooling, hne⟩⟩
          · exact honly command hmem' hcooling
        · intro outcome hmem' hcooling
          obtain ⟨u, hu, answered, hanswered, rfl, hreported⟩ := hsourced outcome (mem_unseen hmem')
          refine hearlier _ _ ⟨u, hu, answered, hanswered, rfl, hreported, ?_⟩
          by_contra hne
          exact hapart ⟨_, hmem, rfl, .inr ⟨u, hu, answered, hanswered, hmem', hreported.1.symm.trans hcooling, hne⟩⟩
    | reverted hsent houtcome hcommands hrecorded hrevert =>
      rw [hsent] at hsome
      cases hsome
    | adopted outcome hunseen houtcome hcommands hadopt hsettled =>
      rcases hsettled with ⟨-, hnone, -⟩ | ⟨-, hsent, -⟩
      · rw [hnone] at hsome
        cases hsome
      · rw [hsent] at hsome
        rw [hcommands, List.append_nil]
        rw [unseen_taken ((congrArg _ hslot).trans (mem_unseen hunseen)) houtcome]
        exact ⟨(h program hsome).1, fun _ hmem => (nomatch hmem)⟩
  | work replies hevent hmoved hshell hsent hrecorded =>
    rw [hshell] at hsome
    obtain ⟨hunpublished, hunseen⟩ := h program hsome
    cases hmoved with
    | kept hpublished hsame hslot hsequence =>
      rw [hsame, unseen_congr hslot (congrArg _ hshell)]
      exact ⟨hunpublished, fun outcome hmem hcooling => hearlier _ _ (hunseen outcome hmem hcooling)⟩
    | dropped command hpublished hfirst hslot hsequence =>
      rw [unseen_congr hslot (congrArg _ hshell)]
      rw [hfirst] at hunpublished
      exact ⟨(List.forall_mem_cons.mp hunpublished).2, fun outcome hmem hcooling => hearlier _ _ (hunseen outcome hmem hcooling)⟩
    | published answered hpublished hfirst hheld hslot hsequence hcount hreported =>
      rw [hfirst] at hunpublished
      obtain ⟨hcommand, hrest⟩ := List.forall_mem_cons.mp hunpublished
      rw [hheld]
      refine ⟨hrest, fun outcome hmem hcooling => ?_⟩
      obtain rfl := Option.some.inj (hslot.symm.trans (mem_unseen hmem))
      exact ⟨_, hlast, answered, hpublished, rfl, hreported, hcommand (hreported.1.symm.trans hcooling)⟩
  | stopped hevent hnoted hshell hsame hshared hsequence =>
    rw [hshell] at hsome
    obtain ⟨hunpublished, hunseen⟩ := h program hsome
    rw [hsame, unseen_congr (congrArg _ hshared) (congrArg _ hshell)]
    exact ⟨hunpublished, fun outcome hmem hcooling => hearlier _ _ (hunseen outcome hmem hcooling)⟩

theorem apart_snoc (hsourced : Sourced past app) (h : Apart past → Tied past app) :
    Apart (past ++ [turn (step interval) app event]) →
      Tied (past ++ [turn (step interval) app event]) (turn (step interval) app event).after := by
  intro hall
  obtain ⟨hpast, hlast, -⟩ := since_append_iff.mp hall
  exact tied_snoc hsourced (h hpast) hlast

theorem step_recorded {program : CoolingProgram} (h : (step interval event app).1.recorded = some program) :
    app.shell.sent = some program ∧
      ∃ outcome, app.unseen = some outcome ∧ outcome.subject = .cooling ∧ outcome.severity = .confirmed := by
  have hstepped := @step_stepped interval app event
  generalize step interval event app = r at h hstepped
  cases hstepped with
  | window action hevent hacted hfeed hpublished =>
    cases hacted with
    | flushed hflushed hrecorded htaken =>
      rw [hrecorded] at h
      cases h
    | reverted hsent houtcome hcommands hrecorded hrevert =>
      rw [hrecorded] at h
      cases h
    | adopted outcome hunseen houtcome hcommands hadopt hsettled =>
      rcases hsettled with ⟨hcooling, -, hrecorded⟩ | ⟨-, -, hrecorded⟩
      · rw [hrecorded] at h
        split at h
        · exact ⟨h, outcome, hunseen, hcooling, ‹_›⟩
        · cases h
      · rw [hrecorded] at h
        cases h
  | work replies hevent hmoved hshell hsent hrecorded =>
    rw [hrecorded] at h
    cases h
  | stopped hevent hnoted hshell hunpublished hshared hsequence =>
    rw [hnoted] at h
    cases h

/-- As long as no cooling program was sent over another one, a program is recorded on the daemon's own
answer to the command that carried it, and that answer was confirmed. -/
theorem recorded_on_its_answer (interval : Duration) (lcd : Option DisplayPreset) (events : List Event) (event : Event)
    (hapart : Apart (turns (step interval) (opened lcd) events)) :
    let past := turns (step interval) (opened lcd) events
    let t := turn (step interval) (afterAll (step interval) (opened lcd) events) event
    ∀ program, t.answer.recorded = some program →
      ∃ u ∈ past, ∃ answered ∈ u.answer.published, answered.command = .apply program ∧
        t.before.feed.shared.outcome = some answered.outcome ∧
        ∃ outcome, answered.answer = .ok (.applied outcome) ∧
          (outcome.hardware = .confirmed ∨ outcome.hardware = .onboard) := by
  intro past t program hrecorded
  obtain ⟨-, htied⟩ := @says_afterAll _ _ _ (step interval)
    (fun past app => Sourced past app ∧ (Apart past → Tied past app))
    (fun past app event h => ⟨sourced_snoc h.1, apart_snoc h.1 h.2⟩) _ [] events
    ⟨opened_sourced lcd, fun _ => opened_tied lcd⟩
  obtain ⟨hsent, outcome, hunseen, hcooling, hconfirmed⟩ := step_recorded hrecorded
  obtain ⟨-, hties⟩ := htied hapart program hsent
  obtain ⟨u, hu, answered, hanswered, rfl, hreported, hcommand⟩ := hties outcome hunseen hcooling
  refine ⟨u, hu, answered, hanswered, hcommand, mem_unseen hunseen, ?_⟩
  rw [hreported.2, hcommand] at hconfirmed
  exact Feed.execute_apply_confirmed hconfirmed

/-! ## A revert over an unanswered write -/

/-- A fixed duty is written, and the daemon confirms it. -/
def fixedDuty (between : List Event) : List Event :=
  [.work present, .work present, .window .takeLink, .window (.edit (.setMode .fixed) 0),
      .window (.flushWrites COOLING_QUIET)] ++ between ++
    [.work present, .work present, .work present, .work appliedReplies]

/-- The operator reverts before the answer, and what the revert schedules leaves as a write of its own. -/
def revertBetween : List Event :=
  [.window (.revert COOLING_QUIET), .window (.flushWrites (2 * COOLING_QUIET))]

/-- The curves the screen opens on. -/
def startingCurves : CoolingProgram := .curve CurveNodes.startingRamp.interpolate CurveNodes.startingRamp.interpolate

theorem fixed_duty_recorded :
    ∃ u ∈ turns (step 1000000000) (opened none) (fixedDuty []), ∃ answered ∈ u.answer.published,
      answered.command = fixedWrite := by
  have hrecorded : (turn (step 1000000000) (afterAll (step 1000000000) (opened none) (fixedDuty []))
      (.window .adoptOutcome)).answer.recorded = some (.fixed (dutyFromPercent 70) (dutyFromPercent 50)) := by
    decide +kernel
  obtain ⟨u, hu, answered, hanswered, hcommand, -⟩ :=
    recorded_on_its_answer 1000000000 none (fixedDuty []) (.window .adoptOutcome) (by decide +kernel) _ hrecorded
  exact ⟨u, hu, answered, hanswered, hcommand⟩

/-- The curves are recorded on the answer to the fixed duty, the only one there is. -/
theorem revert_misrecords :
    let past := turns (step 1000000000) (opened none) (fixedDuty revertBetween)
    let t := turn (step 1000000000) (afterAll (step 1000000000) (opened none) (fixedDuty revertBetween)) (.window .adoptOutcome)
    past.flatMap sent = [fixedWrite, .apply startingCurves] ∧ past.flatMap published = [fixedWrite] ∧
      t.answer.recorded = some startingCurves ∧
      ¬ ∃ u ∈ past, ∃ answered ∈ u.answer.published, answered.command = .apply startingCurves := by
  decide +kernel

end Kori.App
