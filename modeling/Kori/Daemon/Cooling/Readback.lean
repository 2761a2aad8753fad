import Kori.Daemon.Cooling.Cadence

/-! # What is read before a channel left unconfirmed is written again -/

open Faulty

namespace Kori

/-- The mode of a channel was read. -/
def ReadsMode (channel : Channel) (log : List HwEvent) : Prop :=
  ∃ contents, .looked (.mode channel) (some contents) ∈ log ∧
    (contents.parsed Text.parseU8).bind PwmMode.fromKernel ≠ none

theorem ReadsMode.mono {channel : Channel} {log log' : List HwEvent} (h : ReadsMode channel log)
    (hle : log <+: log') : ReadsMode channel log' := by
  obtain ⟨contents, hmem, hmode⟩ := h
  exact ⟨contents, hle.subset hmem, hmode⟩

/-- Reading the mode of a channel would succeed as the next operation. -/
def ModeReads (channel : Channel) (w : HwWorld) : Prop :=
  w.state.mode channel ≠ none ∧ w.faults 0 = none

theorem ModeReads.run {channel : Channel} {w : HwWorld} (h : ModeReads channel w) (hwmon : KrakenHwmon) :
    ReadsMode channel ((hwmon.mode channel).run hwmonDevice w).2.log := by
  obtain ⟨hmode, hfault⟩ := h
  rw [run_mode, hfault]
  exact ⟨w.state (.mode channel), by simp, hmode⟩

namespace CoolingExecutor

variable (executor : CoolingExecutor) (control : CoolingControl) (targets : List (Channel × Target))

/-- The device once the snapshots that come before a channel's are taken. -/
def worldAtSnapshot (w : HwWorld) : Channel → HwWorld
  | .pump => w
  | .fan => ((control.snapshot .pump).run hwmonDevice w).2

/-- The device once a program has read what it reads before its first channel. -/
def worldAtFirst (w : HwWorld) : List (Option ChannelReadback) × HwWorld :=
  (executor.settledChannels control targets).run hwmonDevice
    ((executor.snapshots control targets).run hwmonDevice w).2

/-- The channel a program writes first, with its target. -/
def firstWritten (settled : List (Option ChannelReadback)) : Option (Channel × Target) :=
  ((targets.zip settled).find? fun x => x.2.isNone).map Prod.fst

end CoolingExecutor

/-- Whether a call either writes nothing or reads the mode of a channel first: by the snapshot, or, on
the way out of curve mode, when the channel is the first one written. -/
def ReadsModeFirst (channel : Channel) (rig : CoolingRig) : CoolingCall → Prop
  | .apply located now program =>
    match program.targets, (rig.owner.resolve located).control with
    | some targets, some control =>
      let executor := rig.owner.resolve located
      let w := rig.world.fresh
      let first := executor.worldAtFirst control targets w
      (∃ t, executor.lastWrite = some t ∧ now - t < milliseconds MIN_PROGRAM_INTERVAL_MS) ∨
      ModeReads channel (CoolingExecutor.worldAtSnapshot control w channel) ∨
      (ModeReads channel first.2 ∧
        ∃ curve, CoolingExecutor.firstWritten targets first.1 = some (channel, .curve curve))
    | _, _ => True
  | _ => True

/-- In a log the mode of a channel is read before anything is written or tried. -/
def ReadBeforeWritten (channel : Channel) (log : List HwEvent) : Prop :=
  ∀ done e rest, log = done ++ e :: rest → e.isIssued = true → ReadsMode channel done

theorem ReadBeforeWritten.of_read {channel : Channel} {log l : List HwEvent} (h : l <+: log)
    (hquiet : ∀ x ∈ l, x.isIssued = false) (hread : ReadsMode channel l) :
    ReadBeforeWritten channel log := by
  intro done e rest hlog he
  rw [hlog] at h
  exact hread.mono (prefix_of_issued h hquiet he)

theorem ReadBeforeWritten.of_quiet {channel : Channel} {log : List HwEvent}
    (h : ∀ x ∈ log, x.isIssued = false) : ReadBeforeWritten channel log := by
  intro done e rest hlog he
  have hno := h e (by simp [hlog])
  rw [he] at hno
  cases hno

namespace CoolingExecutor

variable {control : CoolingControl} {channel : Channel}

theorem write_curve_reads (c : TemperatureCurve) (w : HwWorld) :
    ((control.hwmon.mode channel).run hwmonDevice w).2.log <+:
      ((write control channel (.curve c)).run.run hwmonDevice w).2.log := by
  have hleave : ((control.hwmon.mode channel).run hwmonDevice w).2.log <+:
      ((control.leaveCurve channel c).run.run hwmonDevice w).2.log := by
    rw [CoolingControl.leaveCurve, run_run_lift_bind]
    exact run_log_grows _
  exact hleave.trans ((run_run_bind_log_grows ..).trans (run_run_bind_log_grows ..))

theorem writeChannels_reads_first (now : Instant) (targets : List (Channel × Target))
    (snapshots : List ChannelSnapshot) (c : TemperatureCurve)
    (l : List ((Channel × Target) × Option ChannelReadback)) (self : CoolingExecutor) (writes : Nat)
    (readback : List ChannelReadback) (w : HwWorld)
    (h : (l.find? fun x => x.2.isNone).map Prod.fst = some (channel, .curve c)) :
    ((control.hwmon.mode channel).run hwmonDevice w).2.log <+:
      ((writeChannels control now targets snapshots self writes readback l).run hwmonDevice w).2.log := by
  induction l generalizing readback with
  | nil => cases h
  | cons x rest ih =>
    obtain ⟨⟨channel', target⟩, settled⟩ := x
    cases settled with
    | some current =>
      rw [List.find?_cons_of_neg (by simp)] at h
      exact ih _ h
    | none =>
      rw [List.find?_cons_of_pos (by simp)] at h
      cases h
      unfold writeChannels
      exact (write_curve_reads c w).trans (run_bind_log_grows ..)

theorem snapshot_reads {w : HwWorld} (h : ModeReads channel w) :
    ReadsMode channel ((control.snapshot channel).run hwmonDevice w).2.log :=
  (h.run control.hwmon).mono (run_bind_log_grows ..)

theorem snapshots_read (self : CoolingExecutor) (targets : List (Channel × Target))
    (hchannels : targets.map Prod.fst = [.pump, .fan]) (w : HwWorld)
    (h : ModeReads channel (worldAtSnapshot control w channel)) :
    ReadsMode channel ((self.snapshots control targets).run hwmonDevice w).2.log := by
  obtain ⟨⟨c₁, pump⟩, rest, rfl, rfl, hrest⟩ := List.map_eq_cons_iff.mp hchannels
  obtain ⟨⟨c₂, fan⟩, rest, rfl, rfl, -⟩ := List.map_eq_cons_iff.mp hrest
  unfold snapshots
  cases channel with
  | pump => exact (snapshot_reads h).mono (run_bind_log_grows ..)
  | fan =>
    rw [run_bind]
    refine (@snapshot_reads control .fan _ h).mono ?_
    exact List.IsPrefix.trans (run_bind_log_grows ..) (run_bind_log_grows ..)

theorem refuseForCadence_soon {self : CoolingExecutor} {now t : Instant}
    {settled : List (Option ChannelReadback)} (ht : self.lastWrite = some t)
    (hsoon : now - t < milliseconds MIN_PROGRAM_INTERVAL_MS)
    (h : self.refuseForCadence now settled = none) : ∀ r ∈ settled, r ≠ none := by
  rintro r hr rfl
  have hfloor := refuseForCadence_floor h hr t ht
  exact absurd (Nat.le_sub_of_add_le' hfloor) (Nat.not_le_of_lt hsoon)

theorem transact_reads_first (self : CoolingExecutor) (now : Instant)
    (targets : List (Channel × Target)) (hchannels : targets.map Prod.fst = [.pump, .fan])
    (w : HwWorld) (hlog : w.log = [])
    (h : (∃ t, self.lastWrite = some t ∧ now - t < milliseconds MIN_PROGRAM_INTERVAL_MS) ∨
      ModeReads channel (worldAtSnapshot control w channel) ∨
      (ModeReads channel (self.worldAtFirst control targets w).2 ∧
        ∃ c, firstWritten targets (self.worldAtFirst control targets w).1 = some (channel, .curve c))) :
    ReadBeforeWritten channel ((self.transact control now targets).run hwmonDevice w).2.log := by
  have hquiet1 := (wp_run w (wp_looks (D := hwmonDevice) (@snapshots_looks control self targets))).2
  set first := self.worldAtFirst control targets w with hfirst
  have hquiet2 : Quiet w.toSeen first.2.toSeen := hquiet1.trans
    (wp_run _ (wp_looks (D := hwmonDevice) (@settledChannels_looks control self targets))).2
  have hno : ∀ x ∈ first.2.log, x.isIssued = false := hquiet2.log (by simp [hlog])
  rw [transact, run_bind, run_bind]
  split
  · exact .of_quiet hno
  · rename_i hrefuse
    rcases h with ⟨t, ht, hsoon⟩ | hread | ⟨hread, c, hwritten⟩
    · have hsettled := refuseForCadence_soon ht hsoon hrefuse
      obtain ⟨readback, heq⟩ := @writeChannels_settled control now targets
        ((self.snapshots control targets).run hwmonDevice w).1 (targets.zip first.1) self 0 []
        fun x hx => hsettled x.2 (List.of_mem_zip hx).2
      change ReadBeforeWritten channel ((writeChannels control now targets
        ((self.snapshots control targets).run hwmonDevice w).1 self 0 [] (targets.zip first.1)).run
          hwmonDevice first.2).2.log
      rw [heq, run_pure]
      exact .of_quiet hno
    · have hfirstLog : ReadsMode channel first.2.log :=
        (snapshots_read self targets hchannels w hread).mono (run_log_grows _)
      exact .of_read (run_log_grows _) hno hfirstLog
    · refine .of_read (l := ((control.hwmon.mode channel).run hwmonDevice first.2).2.log) ?_ ?_
        (hread.run control.hwmon)
      · exact writeChannels_reads_first now targets _ c _ self 0 [] first.2 hwritten
      · exact (wp_run first.2 (wp_looks (D := hwmonDevice) mode_looks)).2.log hno

end CoolingExecutor

theorem handle_reads_first (channel : Channel) (rig : CoolingRig) (call : CoolingCall)
    (h : ReadsModeFirst channel rig call) :
    ReadBeforeWritten channel ((call.handle rig.owner).run hwmonDevice rig.world.fresh).2.log := by
  cases call with
  | apply located now program =>
    have hlog : (((CoolingCall.apply located now program).handle rig.owner).run hwmonDevice
        rig.world.fresh).2.log =
        ((rig.owner.apply located now program).run hwmonDevice rig.world.fresh).2.log := by
      rw [CoolingCall.handle, run_bind]
      rfl
    rw [hlog]
    unfold CoolingExecutor.apply
    cases htargets : program.targets with
    | none => exact .of_quiet (by simp)
    | some targets =>
      dsimp only
      cases hcontrol : (rig.owner.resolve located).control with
      | none => exact .of_quiet (by simp)
      | some control =>
        simp only [ReadsModeFirst, htargets, hcontrol] at h
        exact CoolingExecutor.transact_reads_first _ now targets
          (CoolingExecutor.targets_channels htargets) _ rfl h
  | verifyCurves kraken nowUnixMs => exact .of_quiet (by simp [CoolingCall.handle])
  | forget => exact .of_quiet (by simp [CoolingCall.handle])

/-! ## Runs -/

/-- `later` comes after a step that answered `Uncertain` and kept no record of the channel, with
`between` in the middle. -/
def LeftUnconfirmed (steps : List CoolingStep) (channel : Channel) (between : List CoolingStep)
    (later : CoolingStep) : Prop :=
  ∃ past step rest outcome, steps = past ++ step :: (between ++ later :: rest) ∧
    step.answer = .applied outcome ∧ outcome.hardware.isUncertain ∧
    step.after.owner.committedTarget channel = none

/-- What was done over some steps, oldest first. -/
def logOf (steps : List CoolingStep) : List HwEvent := steps.flatMap fun step => step.after.world.log

/-- Once a channel is left unconfirmed, nothing is written or tried before its mode has been read. -/
def AwaitsReadback (steps : List CoolingStep) (channel : Channel) : Prop :=
  ∀ between later, LeftUnconfirmed steps channel between later →
    ∀ done e rest, later.after.world.log = done ++ e :: rest → e.isIssued = true →
      ReadsMode channel (logOf between ++ done)

/-- In every run, a channel left unconfirmed awaits its readback when each later program that finds
its mode still unread either writes nothing or gets to read it first. -/
theorem uncertain_awaits_readback (located : Option KrakenHwmon) (world : HwWorld)
    (calls : List CoolingCall) (channel : Channel)
    (h : ∀ between later, LeftUnconfirmed (coolingSteps located world calls) channel between later →
      ¬ ReadsMode channel (logOf between) → ReadsModeFirst channel later.before later.call) :
    AwaitsReadback (coolingSteps located world calls) channel := by
  have hsteps : ∀ step ∈ coolingSteps located world calls,
      ReadsModeFirst channel step.before step.call →
      ReadBeforeWritten channel step.after.world.log :=
    Rig.steps_forall (fun rig call => handle_reads_first channel rig call) _ calls
  intro between later hleft done e rest hlog he
  by_cases hread : ReadsMode channel (logOf between)
  · exact hread.mono (List.prefix_append _ _)
  · have hmem : later ∈ coolingSteps located world calls := by
      obtain ⟨past, step, rest, outcome, hsteps, -⟩ := hleft
      rw [hsteps]
      simp
    obtain ⟨contents, hcontents, hmode⟩ := hsteps later hmem (h between later hleft hread) done e rest hlog he
    exact ⟨contents, List.mem_append_right _ hcontents, hmode⟩

theorem later_of_two {α : Type} {a b x y : α} {past between rest : List α}
    (h : [a, b] = past ++ x :: (between ++ y :: rest)) : y = b := by
  rcases past with _ | ⟨p, _ | ⟨p', past⟩⟩
  · rcases between with _ | ⟨q, between⟩ <;> simp_all
  · simp_all
  · simp_all

/-- Everything fails in the first program, and nothing in the second. -/
theorem uncertain_awaits_readback_second :
    AwaitsReadback (coolingSteps none (benchWorld ['0'] (· < 9))
      [.apply (some benchInstance) 0 (.fixed 180 90),
       .apply (some benchInstance) (milliseconds 200) (.fixed 180 90)]) .pump := by
  refine uncertain_awaits_readback none (benchWorld ['0'] (· < 9)) _ .pump ?_
  rintro between later ⟨past, step, rest, outcome, hsteps, -⟩ -
  obtain rfl := later_of_two hsteps
  exact .inr (.inl ⟨by decide +kernel, by decide +kernel⟩)

def unanswered : HwEvent → Bool
  | .looked _ (some _) => false
  | _ => true

theorem not_awaits_of_unanswered {channel : Channel} {a b : CoolingStep} {outcome : ApplyOutcome} (n : Nat)
    (hanswer : a.answer = .applied outcome) (huncertain : outcome.hardware.isUncertain = true)
    (hrecord : a.after.owner.committedTarget channel = none)
    (hwrite : b.after.world.log[n]?.map Event.isIssued = some true)
    (hunread : (b.after.world.log.take n).all unanswered = true) :
    ¬ AwaitsReadback [a, b] channel := by
  intro hawaits
  obtain ⟨e, he, hissued⟩ := Option.map_eq_some_iff.mp hwrite
  obtain ⟨hlt, rfl⟩ := List.getElem?_eq_some_iff.mp he
  have hsplit : b.after.world.log = b.after.world.log.take n ++ b.after.world.log[n] ::
      b.after.world.log.drop (n + 1) := by
    rw [← List.drop_eq_getElem_cons, List.take_append_drop]
  obtain ⟨contents, hmem, -⟩ := hawaits [] b ⟨[], a, [], outcome, rfl, hanswer, huncertain, hrecord⟩
    _ _ _ hsplit hissued
  exact Bool.noConfusion (List.all_eq_true.mp hunread _ hmem)

/-- Every read fails up to the second program's first write, which lands. -/
theorem uncertain_writes_unread :
    ¬ AwaitsReadback (coolingSteps none (benchWorld ['0'] (· < 15))
      [.apply (some benchInstance) 0 (.fixed 180 90),
       .apply (some benchInstance) (milliseconds 200) (.fixed 180 90)]) .pump := by
  refine not_awaits_of_unanswered 6 rfl ?_ ?_ ?_ ?_
  · decide +kernel
  · decide +kernel
  · decide +kernel
  · decide +kernel

end Kori
