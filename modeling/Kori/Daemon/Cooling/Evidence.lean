import Kori.Daemon.Cooling.Verified
import Kori.Daemon.Telemetry.Health

/-! # How old the sample is that a curve is judged by -/

open Faulty

namespace Kori

/-! ## The daemon and its collectors -/

/-- The daemon, and the sections its collectors published last. -/
structure Monitored (Raw : Type) where
  machine : Machine Raw
  sampler : SamplerState

/-- The sample every call of the daemon reads is the one the sampler holds. -/
def Surroundings.sampling (state : SamplerState) (around : Surroundings) : Surroundings :=
  { around with snapshot := state.snapshot around.snapshot.atUnixMs }

def Machine.Call.sampling (state : SamplerState) : Machine.Call → Machine.Call
  | request around asked => .request (around.sampling state) asked
  | tick around => .tick (around.sampling state)
  | other => other

namespace Monitored

variable {Raw : Type} (toml : Toml Raw)

/-- One pass of a collector, which may have panicked, or one call of the daemon. A collector that
stalls makes no pass. -/
inductive Event where
  | collect (collector : Collector) (outcome : Except String Section)
  | call (call : Machine.Call)

def step : Event → StateM (Monitored Raw) Unit
  | .collect collector outcome => fun monitored =>
    ((), { monitored with sampler := monitored.sampler.publish collector outcome })
  | .call call => fun monitored =>
    ((), { monitored with
      machine := (Machine.serve toml (call.sampling monitored.sampler) monitored.machine).2 })

abbrev MonitoredTurn (Raw : Type) := Turn (Monitored Raw) Event Unit

/-! ## What a turn says of a channel -/

/-- The daemon's clock runs, and the latest sample saw the cooler. -/
def Checks (t : MonitoredTurn Raw) : Prop :=
  (∃ around, t.call = .call (.tick around)) ∧ t.before.sampler.kraken.present = true

/-- The channel is logged as diverged. -/
def Reports (channel : Channel) (t : MonitoredTurn Raw) : Prop :=
  ∃ events, t.after.machine.daemon.diagnostics = t.before.machine.daemon.diagnostics ++ events ∧
    ∃ liquid expected reported, .curveDiverged channel liquid expected reported ∈ events

/-- The record of the channel is dropped. -/
def Uncommits (channel : Channel) (t : MonitoredTurn Raw) : Prop :=
  t.before.machine.daemon.cooling.committed channel ≠ none ∧
    t.after.machine.daemon.cooling.committed channel = none

/-- A channel the check reports or drops was committed long enough before the sample was taken. -/
def JudgesFresh (t : MonitoredTurn Raw) : Prop :=
  Checks t → ∀ channel, Reports channel t ∨ Uncommits channel t →
    ∃ commit, t.before.machine.daemon.cooling.committed channel = some commit ∧
      commit.atUnixMs + CURVE_SETTLE_MS ≤ t.before.sampler.kraken.atUnixMs

/-- A channel committed to a curve that has settled by the clock but not by the sample, which shows a
duty the curve does not have there. -/
def Outdated (cooling : CoolingExecutor) (kraken : KrakenTelemetry) (nowUnixMs : Nat) (channel : Channel) : Prop :=
  ∃ commit curve liquid reported, cooling.committed channel = some commit ∧ commit.target = .curve curve ∧
    CURVE_SETTLE_MS ≤ nowUnixMs - commit.atUnixMs ∧ kraken.atUnixMs < commit.atUnixMs + CURVE_SETTLE_MS ∧
    kraken.liquidTemperatureC.copied = some liquid ∧ (kraken.channel channel).mode.copied = some .curve ∧
    (kraken.channel channel).duty.copied = some reported ∧
    CoolingExecutor.acceptsDuty curve liquid reported = false

/-- No check meets such a channel. -/
def NoneOutdated (t : MonitoredTurn Raw) : Prop :=
  Checks t → ∀ channel, ¬ Outdated t.before.machine.daemon.cooling t.before.sampler.kraken
    (t.before.machine.cooler.times 0) channel

end Monitored

/-! ## What a check does -/

/-- The channel an event says has diverged. -/
def EventKind.diverged : EventKind → Option Channel
  | curveDiverged channel .. => some channel
  | _ => none

/-- How a divergence is logged. -/
def CurveDivergence.event (d : CurveDivergence) : EventKind :=
  .curveDiverged d.channel d.liquidTemperatureMc d.expected d.reported

namespace CoolingExecutor

variable {self : CoolingExecutor} {kraken : KrakenTelemetry} {nowUnixMs : Nat} {channel : Channel}

theorem dutyAt_of_refused {curve : TemperatureCurve} {liquid : F32} {reported : UInt8}
    (h : acceptsDuty curve liquid reported = false) : ∃ expected, curve.dutyAt liquid = some expected := by
  unfold acceptsDuty at h
  unfold TemperatureCurve.dutyAt
  cases hcenter : TemperatureCurve.pointIndexFor liquid with
  | none =>
    rw [hcenter] at h
    cases h
  | some center => exact ⟨_, rfl⟩

theorem divergence_of_refused {commit : Commit} {curve : TemperatureCurve} {liquid : F32} {reported : UInt8}
    (hcommit : self.committed channel = some commit) (htarget : commit.target = .curve curve)
    (hsettled : CURVE_SETTLE_MS ≤ nowUnixMs - commit.atUnixMs)
    (hmode : (kraken.channel channel).mode.copied = some .curve)
    (hduty : (kraken.channel channel).duty.copied = some reported)
    (hrefused : acceptsDuty curve liquid reported = false) :
    ∃ found, self.divergence kraken nowUnixMs liquid channel = some found ∧ found.channel = channel := by
  obtain ⟨expected, hexpected⟩ := dutyAt_of_refused hrefused
  unfold divergence
  rw [hcommit, Option.bind_eq_bind, Option.bind_some, htarget]
  dsimp only
  rw [if_neg (Nat.not_lt.mpr hsettled), if_neg (not_not.mpr hmode), hduty, hexpected]
  simp only [Option.bind_eq_bind, Option.bind_some, hrefused]
  exact ⟨_, rfl, rfl⟩

theorem mode_of_divergence {liquid : F32} {found : CurveDivergence}
    (h : self.divergence kraken nowUnixMs liquid channel = some found) :
    (kraken.channel channel).mode.copied = some .curve := by
  unfold divergence at h
  obtain ⟨commit, -, h⟩ := Option.bind_eq_some_iff.mp h
  split at h
  · cases h
  · split at h
    · cases h
    · dsimp only at h
      split at h
      · cases h
      · rename_i hmode
        exact not_not.mp hmode

theorem mem_reportedChannels_iff :
    channel ∈ self.reportedChannels kraken nowUnixMs ↔ ∃ commit curve liquid reported,
      self.committed channel = some commit ∧ commit.target = .curve curve ∧
      CURVE_SETTLE_MS ≤ nowUnixMs - commit.atUnixMs ∧
      kraken.liquidTemperatureC.copied = some liquid ∧ (kraken.channel channel).mode.copied = some .curve ∧
      (kraken.channel channel).duty.copied = some reported ∧ acceptsDuty curve liquid reported = false := by
  constructor
  · intro h
    obtain ⟨liquid, hliquid, found, hfound⟩ := mem_reportedChannels h
    obtain ⟨-, commit, curve, reported, hcommit, htarget, hsettled, hduty, hrefused⟩ := divergence_eq_some hfound
    exact ⟨commit, curve, liquid, reported, hcommit, htarget, hsettled, hliquid, mode_of_divergence hfound, hduty,
      hrefused⟩
  · rintro ⟨commit, curve, liquid, reported, hcommit, htarget, hsettled, hliquid, hmode, hduty, hrefused⟩
    obtain ⟨found, hfound, rfl⟩ := divergence_of_refused hcommit htarget hsettled hmode hduty hrefused
    unfold reportedChannels verifyCurves
    rw [hliquid]
    refine List.mem_map_of_mem (List.mem_filterMap.mpr ⟨found.channel, ?_, hfound⟩)
    cases found.channel <;> decide

end CoolingExecutor

namespace Machine

variable {Raw : Type} {around : Surroundings}

/-- Nothing is recorded of the cooler, and no divergence is logged. -/
def SparesCurves (before after : Machine Raw) : Prop :=
  after.daemon.cooling = before.daemon.cooling ∧
    ∃ events, after.daemon.diagnostics = before.daemon.diagnostics ++ events ∧ ∀ event ∈ events, event.diverged = none

theorem reconcile_present {snapshot : TelemetrySnapshot} (h : snapshot.kraken.present = true) (machine : Machine Raw) :
    let checked := machine.daemon.cooling.verifyCurves snapshot.kraken (machine.cooler.times 0)
    let after := (reconcile snapshot machine).2
    after.daemon.cooling = checked.2 ∧ ∃ events, after.daemon.diagnostics =
      machine.daemon.diagnostics ++ checked.1.map CurveDivergence.event ++ events ∧
        ∀ event ∈ events, event.diverged = none := by
  unfold reconcile
  rw [if_neg (by rw [h]; decide)]
  simp only [bind_apply, cool_apply, noteAll_apply, recordCollectorHealth_apply]
  refine ⟨rfl, _, rfl, fun event hevent => ?_⟩
  obtain ⟨⟨collector, detail⟩, -, rfl⟩ := List.mem_map.mp hevent
  cases detail <;> rfl

theorem tick_present (h : around.snapshot.kraken.present = true) (machine : Machine Raw) :
    let checked := machine.daemon.cooling.verifyCurves around.snapshot.kraken (machine.cooler.times 0)
    let after := (tick around machine).2
    after.daemon.cooling = checked.2 ∧ ∃ events, after.daemon.diagnostics =
      machine.daemon.diagnostics ++ checked.1.map CurveDivergence.event ++ events ∧
        ∀ event ∈ events, event.diverged = none := by
  intro checked after
  obtain ⟨hcooling, events, hlog, hquiet⟩ := reconcile_present h machine
  have hrest : SparesCurves (reconcile around.snapshot machine).2 after := by
    change SparesCurves _ (tick around machine).2
    unfold tick
    rw [bind_apply]
    generalize (reconcile around.snapshot machine).2 = reconciled
    rw [if_neg (by rw [h]; decide)]
    simp only [bind_apply, get_apply]
    cases reconciled.daemon.display.active with
    | none => exact ⟨rfl, [], (List.append_nil _).symm, by simp⟩
    | some preset =>
      dsimp only
      rw [bind_apply, draw_apply]
      cases ((reconciled.daemon.display.refresh around.renderer (preset.samples around.snapshot)).run lcd
          reconciled.panel).1.1 with
      | none => exact ⟨rfl, [], (List.append_nil _).symm, by simp⟩
      | some outcome =>
        dsimp only
        split
        · exact ⟨rfl, [_], rfl, by simp [EventKind.diverged]⟩
        · exact ⟨rfl, [], (List.append_nil _).symm, by simp⟩
  obtain ⟨hkept, more, hmore, hspared⟩ := hrest
  refine ⟨hkept.trans hcooling, events ++ more, ?_, ?_⟩
  · rw [hmore, hlog, List.append_assoc]
  · exact List.forall_mem_append.mpr ⟨hquiet, hspared⟩

end Machine

namespace Monitored

variable {Raw : Type} {toml : Toml Raw}

/-- The channels a check reports, at the sampler's sample and by the daemon's clock. -/
def reported (monitored : Monitored Raw) : List Channel :=
  monitored.machine.daemon.cooling.reportedChannels monitored.sampler.kraken (monitored.machine.cooler.times 0)

theorem reports_iff {monitored : Monitored Raw} {event : Event} {channel : Channel}
    (h : Checks (turn (step toml) monitored event)) :
    Reports channel (turn (step toml) monitored event) ↔ channel ∈ monitored.reported := by
  obtain ⟨⟨around, hcall⟩, hpresent⟩ := h
  change event = .call (.tick around) at hcall
  subst hcall
  obtain ⟨-, events, hlog, hquiet⟩ :=
    @Machine.tick_present _ (around.sampling monitored.sampler) hpresent monitored.machine
  rw [List.append_assoc] at hlog
  constructor
  · rintro ⟨logged, hlogged, liquid, expected, duty, hmem⟩
    rw [List.append_cancel_left (hlogged.symm.trans hlog)] at hmem
    rcases List.mem_append.mp hmem with hdiverged | hother
    · obtain ⟨found, hfound, hevent⟩ := List.mem_map.mp hdiverged
      cases hevent
      exact List.mem_map_of_mem hfound
    · cases hquiet _ hother
  · intro hmem
    obtain ⟨found, hfound, rfl⟩ := List.mem_map.mp hmem
    exact ⟨_, hlog, found.liquidTemperatureMc, found.expected, found.reported,
      List.mem_append_left _ (List.mem_map_of_mem (f := CurveDivergence.event) hfound)⟩

theorem uncommits_iff {monitored : Monitored Raw} {event : Event} {channel : Channel}
    (h : Checks (turn (step toml) monitored event)) :
    Uncommits channel (turn (step toml) monitored event) ↔ channel ∈ monitored.reported := by
  obtain ⟨⟨around, hcall⟩, hpresent⟩ := h
  change event = .call (.tick around) at hcall
  subst hcall
  obtain ⟨hcooling, -⟩ :=
    @Machine.tick_present _ (around.sampling monitored.sampler) hpresent monitored.machine
  have hafter : (turn (step toml) monitored (.call (.tick around))).after.machine.daemon.cooling.committed channel =
      if channel ∈ monitored.reported then none else monitored.machine.daemon.cooling.committed channel := by
    unfold reported
    rw [← CoolingExecutor.verifyCurves_committed]
    exact congrArg (fun cooling : CoolingExecutor => cooling.committed channel) hcooling
  unfold Uncommits
  rw [hafter]
  constructor
  · rintro ⟨hbefore, hnone⟩
    by_contra hmem
    rw [if_neg hmem] at hnone
    exact hbefore hnone
  · intro hmem
    obtain ⟨commit, -, -, -, hcommit, -⟩ := CoolingExecutor.mem_reportedChannels_iff.mp hmem
    refine ⟨?_, if_pos hmem⟩
    change monitored.machine.daemon.cooling.committed channel ≠ none
    rw [hcommit]
    exact Option.some_ne_none _

theorem judgesFresh_iff (monitored : Monitored Raw) (event : Event) :
    JudgesFresh (turn (step toml) monitored event) ↔ NoneOutdated (turn (step toml) monitored event) := by
  unfold JudgesFresh NoneOutdated
  refine forall_congr' fun hchecks => forall_congr' fun channel => ?_
  rw [reports_iff hchecks, uncommits_iff hchecks, or_self, reported, CoolingExecutor.mem_reportedChannels_iff]
  constructor
  · rintro hfresh ⟨commit, curve, liquid, reported, hcommit, htarget, hsettled, hstale, hrest⟩
    obtain ⟨commit', hcommit', hold⟩ := hfresh ⟨commit, curve, liquid, reported, hcommit, htarget, hsettled, hrest⟩
    cases hcommit.symm.trans hcommit'
    exact Nat.not_lt_of_le hold hstale
  · rintro hnone ⟨commit, curve, liquid, reported, hcommit, htarget, hsettled, hrest⟩
    refine ⟨commit, hcommit, Nat.le_of_not_lt fun hstale => ?_⟩
    exact hnone ⟨commit, curve, liquid, reported, hcommit, htarget, hsettled, hstale, hrest⟩

theorem judged_outdated {monitored : Monitored Raw} {event : Event} {channel : Channel}
    (hchecks : Checks (turn (step toml) monitored event))
    (h : Outdated monitored.machine.daemon.cooling monitored.sampler.kraken (monitored.machine.cooler.times 0) channel) :
    ¬ JudgesFresh (turn (step toml) monitored event) ∧ Reports channel (turn (step toml) monitored event) ∧
      Uncommits channel (turn (step toml) monitored event) := by
  have hreported : channel ∈ monitored.reported := by
    obtain ⟨commit, curve, liquid, duty, hcommit, htarget, hsettled, -, hrest⟩ := h
    exact CoolingExecutor.mem_reportedChannels_iff.mpr ⟨commit, curve, liquid, duty, hcommit, htarget, hsettled, hrest⟩
  refine ⟨fun hfresh => ?_, (reports_iff hchecks).mpr hreported, (uncommits_iff hchecks).mpr hreported⟩
  exact (judgesFresh_iff monitored event).mp hfresh hchecks channel h

/-- In every run, curves are judged on samples taken after they settled exactly when no check meets a
sample that is too old and shows another duty. -/
theorem curves_judged_fresh_iff (toml : Toml Raw) (monitored : Monitored Raw) (events : List Event) :
    (∀ t ∈ turns (step toml) monitored events, JudgesFresh t) ↔
      ∀ t ∈ turns (step toml) monitored events, NoneOutdated t := by
  refine forall₂_congr fun t ht => ?_
  have hturn := @judgesFresh_iff _ toml t.before t.call
  rwa [eq_of_mem_turns ht] at hturn

/-! ## A collector that panics after a new curve is written -/

/-- A cooler that runs some curve, and may be given another. -/
def benchCurves : Monitored ConfigDocument :=
  let kraken : DeviceRecord :=
    { benchKraken with capabilities := [.pumpCurve, .fanCurve].map fun id => ⟨id, .available true "pwm1"⟩ }
  let outside := benchOutside (fun _ => false) fun _ => false
  { machine := .start plainToml configPath (benchSurroundings true true) { benchFound with capabilities := ⟨[kraken]⟩ }
      { outside with cooler := { benchWorld ['2'] fun _ => false with
          times := fun n => if n < 3 then 1000 else 7000 } }
    sampler := .new 0 }

/-- Sampled at 500: both channels run a curve at duty 2. -/
def benchSampled : KrakenTelemetry :=
  let entry (channel : Channel) : ChannelTelemetry :=
    { channel, rpm := .valid 900, duty := .valid 2, mode := .valid .curve }
  { atUnixMs := 500, present := true, liquidTemperatureC := .valid (.finite 30), pump := entry .pump, fan := entry .fan }

/-- Sampled once, and another curve committed at 1000. No other sample comes. -/
def benchRewritten : List Event :=
  [.collect .kraken (.ok (.kraken benchSampled [])),
    .call (.request (benchSurroundings true true) (.applyProgram (.curve (.flat 120) (.flat 120)))),
    .collect .kraken (.error "index out of bounds")]

theorem benchRewritten_leaves :
    let monitored := afterAll (step plainToml) benchCurves benchRewritten
    monitored.sampler.kraken = benchSampled ∧
      monitored.machine.daemon.cooling.committed .pump = some ⟨.curve (.flat 120), 1000⟩ ∧
      monitored.machine.cooler.times 0 = 7000 := by
  refine ⟨?_, ?_, ?_⟩
  · decide +kernel
  · decide +kernel
  · decide +kernel

/-- The clock checks at 7000, and the new curve is reported and dropped for a duty read before it was
written. -/
theorem curve_judged_on_older_sample :
    ∃ t ∈ turns (step plainToml) benchCurves (benchRewritten ++ [.call (.tick (benchSurroundings true true))]),
      ¬ JudgesFresh t ∧ Reports .pump t ∧ Uncommits .pump t ∧
      ∃ commit, t.before.machine.daemon.cooling.committed .pump = some commit ∧
        t.before.sampler.kraken.atUnixMs < commit.atUnixMs := by
  obtain ⟨hkraken, hcommit, hclock⟩ := benchRewritten_leaves
  rw [turns_append]
  generalize afterAll (step plainToml) benchCurves benchRewritten = monitored at hkraken hcommit hclock
  have houtdated : Outdated monitored.machine.daemon.cooling monitored.sampler.kraken
      (monitored.machine.cooler.times 0) .pump := by
    rw [hkraken, hclock]
    exact ⟨_, .flat 120, .finite 30, 2, hcommit, rfl, by decide, by decide, rfl, rfl, rfl, by decide +kernel⟩
  have hchecks : Checks (turn (step plainToml) monitored (.call (.tick (benchSurroundings true true)))) :=
    ⟨⟨_, rfl⟩, congrArg KrakenTelemetry.present hkraken⟩
  obtain ⟨hstale, hreports, huncommits⟩ := judged_outdated hchecks houtdated
  refine ⟨_, List.mem_append_right _ List.mem_cons_self, hstale, hreports, huncommits, _, hcommit, ?_⟩
  change monitored.sampler.kraken.atUnixMs < 1000
  rw [hkraken]
  decide

end Monitored

end Kori
