import Kori.App.Cooling.Held
import Kori.App.Shell.Pending

/-! # When going back to the hardware writes nothing -/

open Faulty

namespace Kori

namespace CoolingEditor

variable {editor : CoolingEditor} {kraken : KrakenTelemetry}

/-- The sample tells the mode and the duty of both channels. -/
def Readable (kraken : KrakenTelemetry) : Prop :=
  ∀ channel, (kraken.channel channel).mode.copied.isSome ∧ (kraken.channel channel).duty.copied.isSome

/-- The editor has a program for what the sample reports: duties it may set on both channels, or curves
it can draw and saw confirmed. -/
def CanShow (kraken : KrakenTelemetry) (editor : CoolingEditor) : Prop :=
  match kraken.pump.mode.copied with
  | some .fixed => kraken.fan.mode.copied = some .fixed ∧
      ∀ channel, ∀ duty ∈ (kraken.channel channel).duty.copied, channel.minDuty ≤ duty
  | some .curve => kraken.fan.mode.copied = some .curve ∧
      ∃ pump fan : CurveNodes, editor.applied = some (.curve pump.interpolate fan.interpolate)
  | _ => True

/-! ## What reverting leaves -/

theorem applied_restoreCurves : editor.restoreCurves.applied = editor.applied := by
  unfold restoreCurves
  split
  · split <;> rfl
  · rfl

theorem curve_restoreCurves_iff :
    editor.applied = some (.curve editor.restoreCurves.pumpCurve.interpolate editor.restoreCurves.fanCurve.interpolate) ↔
      ∃ pump fan : CurveNodes, editor.applied = some (.curve pump.interpolate fan.interpolate) := by
  constructor
  · intro h
    exact ⟨_, _, h⟩
  · rintro ⟨pump, fan, h⟩
    unfold restoreCurves
    rw [h]
    dsimp only
    rw [CurveNodes.fromCurve_interpolate, CurveNodes.fromCurve_interpolate]

theorem applied_cancel : (editor.cancel (some kraken)).applied = editor.applied := by
  unfold cancel
  dsimp only
  rw [applied_loadDuty, applied_loadDuty, applied_restoreCurves]

theorem curve_cancel (channel : Channel) :
    (editor.cancel (some kraken)).curve channel = editor.restoreCurves.curve channel := by
  have hloaded : ((editor.restoreCurves.loadDuty .pump kraken.pump.duty.copied).loadDuty .fan
      kraken.fan.duty.copied).curve channel = editor.restoreCurves.curve channel := by
    rw [curve_loadDuty, curve_loadDuty]
  cases channel <;> exact hloaded

theorem duty_cancel {channel : Channel} {duty : UInt8} (h : (kraken.channel channel).duty.copied = some duty) :
    (editor.cancel (some kraken)).duty channel = max duty channel.minDuty := by
  have hloaded : ((editor.restoreCurves.loadDuty .pump kraken.pump.duty.copied).loadDuty .fan
      kraken.fan.duty.copied).duty channel = max duty channel.minDuty := by
    cases channel with
    | pump =>
      have hpump : kraken.pump.duty.copied = some duty := h
      rw [duty_loadDuty, if_neg (by simp), duty_loadDuty, if_pos rfl, hpump]
      rfl
    | fan =>
      have hfan : kraken.fan.duty.copied = some duty := h
      rw [duty_loadDuty, if_pos rfl, hfan]
      rfl
  cases channel <;> exact hloaded

theorem mode_cancel : (editor.cancel (some kraken)).mode =
    match kraken.pump.mode.copied with
    | some .fixed => .fixed
    | some .curve => .curve
    | _ => .onboard := rfl

/-! ## What is still to be written -/

theorem pending_onboard (h : editor.mode = .onboard) : editor.pending (some kraken) = false := by
  unfold pending program
  rw [h]

theorem pending_fixed (h : editor.mode = .fixed) : editor.pending (some kraken) = false ↔
    ∀ channel, (kraken.channel channel).mode.copied = some .fixed ∧
      (kraken.channel channel).duty.copied = some (editor.duty channel) := by
  unfold pending program
  rw [h, Channel.forall_iff]
  simp [confirmsFixed, duty]

theorem pending_curve (h : editor.mode = .curve) : editor.pending (some kraken) = false ↔
    editor.applied = some (.curve editor.pumpCurve.interpolate editor.fanCurve.interpolate) ∧
      ∀ channel, (kraken.channel channel).mode.copied = some .curve := by
  have hprogram : editor.program = .curve editor.pumpCurve.interpolate editor.fanCurve.interpolate := by
    unfold program
    rw [h]
  unfold pending
  rw [hprogram, Channel.forall_iff]
  simp [confirmsMode, and_assoc]

theorem max_eq_self_iff {duty floor : UInt8} : max duty floor = duty ↔ floor ≤ duty :=
  ⟨fun h => h ▸ le_max_floor duty floor, max_of_floor⟩

theorem pending_cancel_iff (hread : Readable kraken) :
    (editor.cancel (some kraken)).pending (some kraken) = false ↔ editor.CanShow kraken := by
  have hmode := @mode_cancel editor kraken
  unfold CanShow
  split
  · rename_i hpump
    rw [hpump] at hmode
    rw [pending_fixed hmode]
    have hduty : ∀ channel, (kraken.channel channel).duty.copied = some ((editor.cancel (some kraken)).duty channel) ↔
        ∀ duty ∈ (kraken.channel channel).duty.copied, channel.minDuty ≤ duty := by
      intro channel
      obtain ⟨duty, hduty⟩ := Option.isSome_iff_exists.mp (hread channel).2
      rw [duty_cancel hduty, hduty, Option.some.injEq, eq_comm, max_eq_self_iff]
      simp
    rw [forall_and, forall_congr' hduty, Channel.forall_iff]
    have hfixed : (kraken.channel .pump).mode.copied = some .fixed := hpump
    simp only [hfixed, true_and]
    rfl
  · rename_i hpump
    rw [hpump] at hmode
    rw [pending_curve hmode, applied_cancel, Channel.forall_iff]
    have hcurve : (kraken.channel .pump).mode.copied = some .curve := hpump
    have hpumpCurve : (editor.cancel (some kraken)).pumpCurve = editor.restoreCurves.pumpCurve := curve_cancel .pump
    have hfanCurve : (editor.cancel (some kraken)).fanCurve = editor.restoreCurves.fanCurve := curve_cancel .fan
    rw [hpumpCurve, hfanCurve, curve_restoreCurves_iff]
    simp only [hcurve, true_and]
    exact and_comm
  · rename_i hfixed hcurve
    have honboard : (editor.cancel (some kraken)).mode = .onboard := by
      rw [hmode]
      split
      · exact absurd ‹_› hfixed
      · exact absurd ‹_› hcurve
      · rfl
    exact iff_of_true (pending_onboard honboard) trivial

end CoolingEditor

namespace Shell

variable {shell : Shell} {now : Duration}

/-! ## The write that the button schedules -/

theorem flushTarget_held (hheld : shell.alreadyHeld .cooling = true) (target : WriteTarget) {x : Command}
    (hx : x ∈ (flushTarget now target shell).1) : x.subject ≠ .cooling := by
  cases target with
  | lighting row =>
    rw [(flushTarget_sends _ hx).1]
    cases row <;> simp [WriteTarget.subject]
  | cooling =>
    unfold flushTarget at hx
    split at hx
    · cases hx
    · dsimp only at hx
      unfold sendCooling at hx
      have hpending : shell.cooling.pending shell.kraken = false := by simpa [alreadyHeld] using hheld
      rw [if_pos (.inl (by simp [hpending]))] at hx
      cases hx

theorem flushTargets_cons (first : WriteTarget) (rest : List WriteTarget) :
    (flushTargets now (first :: rest) shell).1 =
      (flushTarget now first shell).1 ++ (flushTargets now rest (flushTarget now first shell).2).1 := rfl

theorem flushTargets_held (hheld : shell.alreadyHeld .cooling = true) (targets : List WriteTarget) {x : Command}
    (hx : x ∈ (flushTargets now targets shell).1) : x.subject ≠ .cooling := by
  induction targets generalizing shell with
  | nil => cases hx
  | cons first rest ih =>
    rw [flushTargets_cons] at hx
    rcases List.mem_append.mp hx with hx | hx
    · exact flushTarget_held hheld first hx
    · refine ih ?_ hx
      rw [(flushTarget_same first).alreadyHeld, hheld]

theorem mem_flushTargets {target : WriteTarget} {command : Command} {targets : List WriteTarget}
    (hmem : target ∈ targets) (hcommand : shell.pendingCommand target = some command)
    (hfree : shell.isHeldBack target = false) (hheld : shell.alreadyHeld target = false) :
    command ∈ (flushTargets now targets shell).1 := by
  induction targets generalizing shell with
  | nil => cases hmem
  | cons first rest ih =>
    rw [flushTargets_cons]
    refine List.mem_append.mpr ?_
    by_cases hfirst : first = target
    · rw [hfirst]
      exact .inl (mem_flushTarget hcommand hfree hheld)
    · have hrest : target ∈ rest := (List.mem_cons.mp hmem).resolve_left fun h => hfirst h.symm
      have hsame := @flushTarget_same shell now first
      refine .inr (ih hrest ?_ ?_ ?_)
      · rw [hsame.pendingCommand, hcommand]
      · rw [isHeldBack_flushTarget hfirst, hfree]
      · rw [hsame.alreadyHeld, hheld]

theorem pendingCommand_of_pending (hpending : shell.cooling.pending shell.kraken = true) (h : shell.cooling.Sound) :
    shell.pendingCommand .cooling = some (.apply shell.cooling.program) := by
  have hvalid : shell.cooling.validationError = none := by
    unfold CoolingEditor.validationError
    rw [h.accepted]
  unfold pendingCommand
  refine if_neg (not_or.mpr ⟨fun honboard => ?_, by simp [hvalid]⟩)
  unfold CoolingEditor.pending at hpending
  rw [honboard] at hpending
  cases hpending

theorem mem_takeDue_revert {later : Duration} (hdue : now + COOLING_QUIET ≤ later) :
    .cooling ∈ ((shell.revert now).due.takeDue later).1 := by
  have hdeadline : ∃ entry ∈ (shell.revert now).due.due, entry.1 = .cooling ∧ entry.2 = now + COOLING_QUIET := by
    unfold revert scheduleWrite WriteSchedule.touch
    dsimp only
    split
    · rename_i hpending
      obtain ⟨entry, hmem, hentry⟩ := List.any_eq_true.mp hpending
      exact ⟨_, List.mem_map.mpr ⟨entry, hmem, rfl⟩, by simp_all, by simp_all [WriteTarget.quiet]⟩
    · exact ⟨_, List.mem_append_right _ (List.mem_singleton_self _), rfl, rfl⟩
  obtain ⟨entry, hmem, htarget, hdeadline⟩ := hdeadline
  exact List.mem_map.mpr ⟨entry, List.mem_filter.mpr ⟨hmem, by simpa [hdeadline] using hdue⟩, htarget⟩

theorem flush_revert_iff {later : Duration} (h : shell.cooling.Sound) (hdrag : shell.drag.any Drag.isCooling = false)
    (hdue : now + COOLING_QUIET ≤ later) :
    (∀ program, .apply program ∉ (flushWrites later (shell.revert now)).1) ↔
      (shell.cooling.cancel shell.kraken).pending shell.kraken = false := by
  have hfree : ∀ due, ({ shell.revert now with due } : Shell).isHeldBack .cooling = shell.drag.any Drag.isCooling :=
    fun due => Bool.or_false _
  have hheld : ∀ due, ({ shell.revert now with due } : Shell).alreadyHeld .cooling =
      !(shell.cooling.cancel shell.kraken).pending shell.kraken := fun due => rfl
  unfold flushWrites
  constructor
  · intro hnone
    refine Bool.eq_false_iff.mpr fun hpending => hnone (shell.revert now).cooling.program ?_
    have hcommand := @pendingCommand_of_pending (shell.revert now) hpending (h.cancel shell.kraken)
    refine mem_flushTargets (mem_takeDue_revert hdue) hcommand ?_ ?_
    · rw [hfree, hdrag]
    · rw [hheld, hpending, Bool.not_true]
  · intro hshown program hmem
    refine flushTargets_held ?_ _ hmem rfl
    rw [hheld, hshown, Bool.not_false]

/-- Going back to the hardware writes nothing just when the editor can show what the sample reports. -/
theorem revert_writes_nothing_iff {editor : CoolingEditor} {earlier : List CoolingEditor}
    (h : CoolingEditor.Held (editor :: earlier)) {kraken : KrakenTelemetry} (hread : CoolingEditor.Readable kraken) :
    ((editor.cancel (some kraken)).pending (some kraken) = false ↔ editor.CanShow kraken) ∧
      ∀ (shell : Shell) now later, shell.cooling = editor → shell.kraken = some kraken →
        shell.drag.any Drag.isCooling = false → now + COOLING_QUIET ≤ later →
        ((∀ program, .apply program ∉ (flushWrites later (shell.revert now)).1) ↔ editor.CanShow kraken) := by
  have hpending := @CoolingEditor.pending_cancel_iff editor kraken hread
  refine ⟨hpending, fun shell now later hcooling hkraken hdrag hdue => ?_⟩
  have hsound : shell.cooling.Sound := hcooling ▸ h.sound editor List.mem_cons_self
  rw [flush_revert_iff hsound hdrag hdue, hcooling, hkraken, hpending]

def noReading : Reading F32 := .unavailable (.noDevice "not collected")

/-- A sample of a cooler whose channels are both in one mode. -/
def reporting (mode : PwmMode) (pump fan : UInt8) : KrakenTelemetry :=
  { atUnixMs := 1000, present := true, liquidTemperatureC := noReading
    pump := { channel := .pump, rpm := .valid 2970, duty := .valid pump, mode := .valid mode }
    fan := { channel := .fan, rpm := .valid 1764, duty := .valid fan, mode := .valid mode } }

/-- The window as it opens on a daemon that has committed nothing. -/
def openedOn (kraken : KrakenTelemetry) : Shell :=
  { opened none with
    link := .connected
      { daemonVersion := "0.1.0", protocolVersion := 1, access := .readWrite, devices := []
        activeProfile := SAFE_PROFILE_NAME, config := .defaults, cooling := none, lighting := []
        display := { panel := none, committed := none, streaming := false, faulted := none, droppedFrames := 0 }
        socketPath := "/run/kori/kori.sock" }
      ⟨[]⟩ [] (some { sequence := 1, atUnixMs := 1000, kraken, failed := []
                      system := { cpuLoadPercent := noReading, cpuTemperatureC := noReading }
                      gpu := { temperatureC := noReading, loadPercent := noReading } }) }

theorem revert_writes_nothing_reported :
    (CoolingEditor.new.cancel (some (reporting .fixed 180 90))).pending (some (reporting .fixed 180 90)) = false ∧
      ∀ program, .apply program ∉
        (flushWrites COOLING_QUIET ((openedOn (reporting .fixed 180 90)).revert 0)).1 := by
  have hread : CoolingEditor.Readable (reporting .fixed 180 90) := fun channel => by cases channel <;> exact ⟨rfl, rfl⟩
  have hshow : CoolingEditor.new.CanShow (reporting .fixed 180 90) := by
    refine ⟨rfl, fun channel duty hduty => ?_⟩
    cases channel <;> cases hduty <;> decide
  obtain ⟨hpending, hflush⟩ := revert_writes_nothing_iff .new hread
  exact ⟨hpending.mpr hshow, (hflush (openedOn (reporting .fixed 180 90)) 0 _ rfl rfl rfl (Nat.zero_add _).le).mpr hshow⟩

/-- A window that saw no curve confirmed writes its starting ramp to a device that runs another curve. -/
theorem revert_writes_the_starting_ramp :
    let kraken := reporting .curve 180 90
    let shell := openedOn kraken
    CoolingEditor.Held [shell.cooling] ∧ CoolingEditor.Readable kraken ∧ shell.kraken = some kraken ∧
      (shell.cooling.cancel (some kraken)).pending (some kraken) = true ∧
      .apply (.curve CurveNodes.startingRamp.interpolate CurveNodes.startingRamp.interpolate) ∈
        (flushWrites COOLING_QUIET (shell.revert 0)).1 := by
  intro kraken shell
  have hpending : (shell.cooling.cancel (some kraken)).pending (some kraken) = true := rfl
  have hsound : (shell.revert 0).cooling.Sound := CoolingEditor.sound_new.cancel (some kraken)
  have hcommand := @pendingCommand_of_pending (shell.revert 0) hpending hsound
  refine ⟨.new, fun channel => by cases channel <;> exact ⟨rfl, rfl⟩, rfl, hpending, ?_⟩
  exact mem_flushTargets (mem_takeDue_revert (Nat.zero_add _).le) hcommand rfl (congrArg not hpending)

end Shell

end Kori
