import Kori.Daemon.Lighting
import Kori.Faulty.Runs

/-! # The record of the lighting, and the pace of its reports -/

open Faulty

namespace Kori

/-! ## The calls -/

structure LightingCall where
  now : Instant
  command : LightingCommand

abbrev LightingRig := Rig LightingExecutor (List Report) Report Empty Unit RgbController.Fault
abbrev LightingStep :=
  Step LightingCall LightingOutcome LightingExecutor (List Report) Report Empty Unit RgbController.Fault

def LightingCall.handle (call : LightingCall) (executor : LightingExecutor) :
    RgbController.Io (LightingOutcome × LightingExecutor) := executor.apply call.now call.command

/-- A controller that answered its topology, or none. -/
def LightingExecutor.probed : Option (List ChannelReport) → LightingExecutor
  | none => absent
  | some channels => connected channels

def lightingSteps (found : Option (List ChannelReport)) (world : RgbController.Outside)
    (calls : List LightingCall) : List LightingStep :=
  Rig.steps RgbController.device LightingCall.handle ⟨.probed found, world⟩ calls

/-- The step tried a report, that went through or failed. -/
def Attempts (step : LightingStep) (report : Report) (ok : Bool) : Prop :=
  ∃ met left, .issued report ok met left ∈ step.after.world.log

/-- The step tried a report on a channel. -/
def AttemptsOn (step : LightingStep) (channel : UInt8) : Prop :=
  step.call.command.channel = channel ∧ ∃ report ok, Attempts step report ok

/-- The last report tried on a channel was a program's own and went through, and none has failed
since. -/
def RecordedBy (past : List LightingStep) (channel : UInt8) (program : LightingProgram) : Prop :=
  ∃ earlier step later report, past = earlier ++ step :: later ∧
    step.call.command.channel = channel ∧ RgbController.encode channel program = .ok report ∧
    Attempts step report true ∧
    ∀ s ∈ later, ¬ AttemptsOn s channel ∧ ∀ report', ¬ Attempts s report' false

/-! ## One call -/

/-- The record does not hold the program, and the channel's stamp has been waited out. -/
def Due (before : LightingExecutor) (now : Instant) (command : LightingCommand) : Prop :=
  before.committed command.channel ≠ some command.program ∧
    ∀ t, before.lastSent command.channel = some t → t + milliseconds MIN_COMMAND_INTERVAL_MS ≤ now

/-- What one call may come to. -/
inductive Lit (before : LightingExecutor) (now : Instant) (command : LightingCommand)
    (w : RgbController.Outside) : (LightingOutcome × LightingExecutor) × RgbController.Outside → Prop where
  /-- The record holds the program. -/
  | held (h : before.committed command.channel = some command.program) :
    Lit before now command w ((LightingExecutor.answer command .confirmed 0, before), w)
  /-- It came too soon, or there is no controller. -/
  | declined (reason : String) (h : before.committed command.channel ≠ some command.program) :
    Lit before now command w ((LightingExecutor.answer command (.notApplied reason) 0, before), w)
  | unencodable (error : RgbError) (hdue : Due before now command) :
    Lit before now command w ((LightingExecutor.answer command (.uncertain error.display) 0,
      { before with
        lastSent := Function.update before.lastSent command.channel (some now)
        committed := fun _ => none }), w)
  | sent (report : Report) (hreport : RgbController.encode command.channel command.program = .ok report) (hdue : Due before now command) :
    Lit before now command w ((LightingExecutor.answer command .confirmed 1,
      { before with
        lastSent := Function.update before.lastSent command.channel (some now)
        committed := Function.update before.committed command.channel (some command.program) }),
      w.spent (w.issued report true (w.state ++ [report])))
  | failed (report : Report) (fault : RgbController.Fault)
    (hreport : RgbController.encode command.channel command.program = .ok report) (hdue : Due before now command) :
    Lit before now command w ((LightingExecutor.answer command (.uncertain fault.detail) 0,
      { before with
        lastSent := Function.update before.lastSent command.channel (some now)
        committed := fun _ => none }),
      w.spent (w.issued report false (if fault.landed then w.state ++ [report] else w.state)))

namespace LightingExecutor

variable {self : LightingExecutor} {now : Instant} {command : LightingCommand}

theorem refuseForCadence_some {outcome : LightingOutcome} (h : self.refuseForCadence now command = some outcome) :
    ∃ reason, outcome = answer command (.notApplied reason) 0 := by
  unfold refuseForCadence at h
  obtain ⟨last, -, hrefusal⟩ := Option.bind_eq_some_iff.mp h
  dsimp only at hrefusal
  split at hrefusal
  · cases hrefusal
  · exact ⟨_, (Option.some.inj hrefusal).symm⟩

theorem refuseForCadence_none (h : self.refuseForCadence now command = none) {t : Instant}
    (ht : self.lastSent command.channel = some t) : t + milliseconds MIN_COMMAND_INTERVAL_MS ≤ now := by
  unfold refuseForCadence at h
  rw [ht] at h
  have hpos : 0 < milliseconds MIN_COMMAND_INTERVAL_MS := by decide
  have helapsed : milliseconds MIN_COMMAND_INTERVAL_MS ≤ now - t := by
    by_contra hsoon
    dsimp only [Bind.bind, Option.bind] at h
    rw [if_neg hsoon] at h
    cases h
  have hle : t ≤ now := Nat.le_of_lt (Nat.lt_of_sub_pos (Nat.lt_of_lt_of_le hpos helapsed))
  calc t + milliseconds MIN_COMMAND_INTERVAL_MS ≤ t + (now - t) := Nat.add_le_add_left helapsed t
    _ = now := Nat.add_sub_cancel' hle

theorem apply_lit (w : RgbController.Outside) :
    Lit self now command w ((self.apply now command).run RgbController.device w) := by
  unfold apply
  by_cases hheld : self.committed command.channel = some command.program
  · rw [if_pos hheld]
    exact .held hheld
  rw [if_neg hheld]
  cases hcadence : self.refuseForCadence now command with
  | some refusal =>
    obtain ⟨reason, rfl⟩ := refuseForCadence_some hcadence
    exact .declined reason hheld
  | none =>
    have hdue : Due self now command := ⟨hheld, fun t => @refuseForCadence_none self now command hcadence t⟩
    dsimp only
    by_cases htransport : self.transport = true
    · rw [if_neg (not_not.mpr htransport), run_bind]
      unfold RgbController.apply
      cases hreport : RgbController.encode command.channel command.program with
      | error error => exact .unencodable error hdue
      | ok report =>
        dsimp only
        rw [run_bind]
        simp only [issue, Prog.run]
        cases w.faults 0 with
        | none => exact .sent report hreport hdue
        | some fault => exact .failed report fault hreport hdue
    · rw [if_pos htransport]
      exact .declined _ hheld

end LightingExecutor

/-! ## The run -/

variable {rig : LightingRig} {call : LightingCall} {past : List LightingStep} {channel : UInt8}
  {program : LightingProgram}

theorem step_lit {P : LightingStep → Prop}
    (h : ∀ r, Lit rig.owner call.now call.command rig.world.fresh r →
      P { before := rig, call, answer := r.1.1, after := ⟨r.1.2, r.2⟩ }) :
    P (rig.step RgbController.device LightingCall.handle call) :=
  h _ (LightingExecutor.apply_lit _)

theorem RecordedBy.last {step : LightingStep} {report : Report} (hchannel : step.call.command.channel = channel)
    (hreport : RgbController.encode channel program = .ok report) (hsent : Attempts step report true) :
    RecordedBy (past ++ [step]) channel program :=
  ⟨past, step, [], report, rfl, hchannel, hreport, hsent, by simp⟩

theorem RecordedBy.quiet {step : LightingStep} (h : RecordedBy past channel program)
    (hother : ¬ AttemptsOn step channel) (hok : ∀ report, ¬ Attempts step report false) :
    RecordedBy (past ++ [step]) channel program := by
  obtain ⟨earlier, sent, later, report, rfl, hchannel, hreport, hsent, hlater⟩ := h
  refine ⟨earlier, sent, later ++ [step], report, by simp, hchannel, hreport, hsent, ?_⟩
  intro s hs
  rcases List.mem_append.mp hs with hs | hs
  · exact hlater s hs
  · rw [List.mem_singleton.mp hs]
    exact ⟨hother, hok⟩

theorem RecordedBy.silent {step : LightingStep} (h : RecordedBy past channel program)
    (hlog : step.after.world.log = []) : RecordedBy (past ++ [step]) channel program := by
  have hnone : ∀ report ok, ¬ Attempts step report ok := by
    rintro report ok ⟨met, left, hmem⟩
    rw [hlog] at hmem
    cases hmem
  exact h.quiet (fun ⟨_, report, ok, hattempt⟩ => hnone report ok hattempt) fun report => hnone report false

theorem step_records
    (h : ∀ channel program, rig.owner.committed channel = some program → RecordedBy past channel program) :
    ∀ channel program,
      (rig.step RgbController.device LightingCall.handle call).after.owner.committed channel = some program →
      RecordedBy (past ++ [rig.step RgbController.device LightingCall.handle call]) channel program := by
  apply step_lit (P := fun step => ∀ channel program,
    step.after.owner.committed channel = some program → RecordedBy (past ++ [step]) channel program)
  intro r hlit
  cases hlit with
  | held => exact fun channel program hprogram => (h channel program hprogram).silent rfl
  | declined => exact fun channel program hprogram => (h channel program hprogram).silent rfl
  | unencodable => exact fun channel program hprogram => nomatch hprogram
  | failed => exact fun channel program hprogram => nomatch hprogram
  | sent report hreport =>
    intro channel program hprogram
    by_cases hsame : channel = call.command.channel
    · subst hsame
      have hown := (Function.update_self ..).symm.trans hprogram
      cases hown
      exact .last rfl hreport ⟨_, _, List.mem_cons_self⟩
    · have hold := (Function.update_of_ne hsame ..).symm.trans hprogram
      refine (h channel program hold).quiet (fun hattempt => hsame hattempt.1.symm) ?_
      rintro report' ⟨met, left, hmem⟩
      cases List.mem_singleton.mp hmem

theorem lightingStep_stamped (rig : LightingRig) (call : LightingCall) :
    (rig.step RgbController.device LightingCall.handle call).after.world.log = [] ∧
      (rig.step RgbController.device LightingCall.handle call).after.owner = rig.owner ∨
    (rig.step RgbController.device LightingCall.handle call).after.owner.lastSent =
        Function.update rig.owner.lastSent call.command.channel (some call.now) ∧
      Due rig.owner call.now call.command := by
  apply step_lit (P := fun step => step.after.world.log = [] ∧ step.after.owner = rig.owner ∨
    step.after.owner.lastSent = Function.update rig.owner.lastSent call.command.channel (some call.now) ∧
      Due rig.owner call.now call.command)
  intro r hlit
  cases hlit with
  | held => exact .inl ⟨rfl, rfl⟩
  | declined => exact .inl ⟨rfl, rfl⟩
  | unencodable error hdue => exact .inr ⟨rfl, hdue⟩
  | sent report hreport hdue => exact .inr ⟨rfl, hdue⟩
  | failed report fault hreport hdue => exact .inr ⟨rfl, hdue⟩

theorem not_attemptsOn_of_silent {step : LightingStep} (h : step.after.world.log = []) :
    ¬ AttemptsOn step channel := by
  rintro ⟨-, report, ok, met, left, hmem⟩
  rw [h] at hmem
  cases hmem

/-- Two reports tried on one channel are a minimum interval apart. -/
def Paced (earlier later : LightingStep) : Prop :=
  ∀ channel, AttemptsOn earlier channel → AttemptsOn later channel →
    earlier.call.now + milliseconds MIN_COMMAND_INTERVAL_MS ≤ later.call.now

theorem steps_paced (rig : LightingRig) (calls : List LightingCall) :
    (rig.steps RgbController.device LightingCall.handle calls).Pairwise Paced := by
  -- A report's channel keeps a stamp no older than the report.
  refine Rig.steps_pairwise (fun earlier rig => ∀ channel, AttemptsOn earlier channel →
    ∃ t, rig.owner.lastSent channel = some t ∧ earlier.call.now ≤ t) ?_ ?_ rig calls
  · intro rig call channel hattempt
    obtain ⟨hlog, -⟩ | ⟨hstamp, -⟩ := lightingStep_stamped rig call
    · exact absurd hattempt (not_attemptsOn_of_silent hlog)
    · obtain ⟨rfl, -⟩ := hattempt
      exact ⟨call.now, by rw [hstamp]; exact Function.update_self .., Nat.le_refl _⟩
  · intro earlier rig call hkeeps
    obtain ⟨hlog, howner⟩ | ⟨hstamp, -, hpace⟩ := lightingStep_stamped rig call
    · rw [howner]
      exact ⟨fun channel _ hattempt => absurd hattempt (not_attemptsOn_of_silent hlog), hkeeps⟩
    · refine ⟨fun channel hbefore hattempt => ?_, fun channel hbefore => ?_⟩
      · obtain ⟨rfl, -⟩ := hattempt
        obtain ⟨t, ht, hle⟩ := hkeeps _ hbefore
        exact Nat.le_trans (Nat.add_le_add_right hle _) (hpace t ht)
      · obtain ⟨t, ht, hle⟩ := hkeeps channel hbefore
        rw [hstamp]
        by_cases hsame : channel = call.command.channel
        · subst hsame
          have hlate := Nat.le_trans (Nat.le_add_right _ _) (hpace t ht)
          exact ⟨call.now, Function.update_self .., Nat.le_trans hle hlate⟩
        · exact ⟨t, (Function.update_of_ne hsame ..).trans ht, hle⟩

/-- What one answer says of what the call did. -/
def Silent (step : LightingStep) : Prop :=
  ((∃ reason, step.answer.hardware = .notApplied reason) ∨ step.answer.deduplicated = true →
    step.after.world.log = [] ∧ step.after.owner = step.before.owner) ∧
  (step.before.owner.committed step.call.command.channel = some step.call.command.program →
    step.answer.hardware = .confirmed ∧ step.answer.deduplicated = true)

theorem step_silent (rig : LightingRig) (call : LightingCall) :
    Silent (rig.step RgbController.device LightingCall.handle call) := by
  apply step_lit
  intro r hlit
  cases hlit with
  | held => exact ⟨fun _ => ⟨rfl, rfl⟩, fun _ => ⟨rfl, rfl⟩⟩
  | declined reason hdiffers => exact ⟨fun _ => ⟨rfl, rfl⟩, fun hheld => absurd hheld hdiffers⟩
  | unencodable error hdue =>
    exact ⟨fun h => h.elim (fun ⟨_, h⟩ => nomatch h) (fun h => nomatch h), fun hheld => absurd hheld hdue.1⟩
  | sent report hreport hdue =>
    exact ⟨fun h => h.elim (fun ⟨_, h⟩ => nomatch h) (fun h => nomatch h), fun hheld => absurd hheld hdue.1⟩
  | failed report fault hreport hdue =>
    exact ⟨fun h => h.elim (fun ⟨_, h⟩ => nomatch h) (fun h => nomatch h), fun hheld => absurd hheld hdue.1⟩

/-- The record of a channel is what its last report said, its reports keep their distance, and
a call that came to nothing did nothing. -/
theorem lighting_record_holds (found : Option (List ChannelReport)) (world : RgbController.Outside)
    (calls : List LightingCall) :
    (∀ channel program,
      (Rig.afterAll RgbController.device LightingCall.handle ⟨LightingExecutor.probed found, world⟩
        calls).owner.committed channel = some program →
      RecordedBy (lightingSteps found world calls) channel program) ∧
    (lightingSteps found world calls).Pairwise Paced ∧
    ∀ step ∈ lightingSteps found world calls, Silent step := by
  refine ⟨?_, steps_paced _ calls, Rig.steps_forall step_silent _ calls⟩
  refine Rig.steps_history (fun past rig => ∀ channel program,
    rig.owner.committed channel = some program → RecordedBy past channel program) ?_ calls ?_
  · exact fun past rig call h => step_records h
  · intro channel program h
    cases found <;> cases h

end Kori
