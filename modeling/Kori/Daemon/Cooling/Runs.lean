import Kori.Daemon.Cooling.Record

/-! # Runs of the cooling executor -/

open Faulty

namespace Kori

inductive CoolingCall where
  | apply (located : Option KrakenHwmon) (now : Instant) (program : CoolingProgram)
  | verifyCurves (kraken : KrakenTelemetry) (nowUnixMs : Nat)
  | forget

inductive CoolingAnswer where
  | applied (outcome : ApplyOutcome)
  | diverged (divergences : List CurveDivergence)
  | forgotten
deriving DecidableEq

def CoolingCall.handle : CoolingCall → CoolingExecutor → Hw (CoolingAnswer × CoolingExecutor)
  | apply located now program, executor => do
    let (outcome, executor) ← executor.apply located now program
    return (.applied outcome, executor)
  | verifyCurves kraken nowUnixMs, executor =>
    let (divergences, executor) := executor.verifyCurves kraken nowUnixMs
    return (.diverged divergences, executor)
  | forget, executor => return (.forgotten, executor.forget)

abbrev CoolingRig := Rig CoolingExecutor Attributes AttributeWrite Attribute Contents IoError
abbrev CoolingStep :=
  Step CoolingCall CoolingAnswer CoolingExecutor Attributes AttributeWrite Attribute Contents IoError

/-- A freshly opened executor over any device, driven call after call under any faults. -/
def coolingSteps (located : Option KrakenHwmon) (world : HwWorld) (calls : List CoolingCall) :
    List CoolingStep :=
  Rig.steps hwmonDevice CoolingCall.handle ⟨.opened located, world⟩ calls

/-- A device with one text in every attribute, and what fails of the operations on it. -/
def benchWorld (chars : List Char) (fails : Nat → Bool) : HwWorld :=
  { state := fun _ => .text chars, log := [],
    faults := fun n => if fails n then some ⟨.other, "EIO"⟩ else none, times := fun _ => 0 }

def benchInstance : KrakenHwmon := ⟨"/sys/class/hwmon/hwmon4"⟩

/-! ## The record over a run -/

/-- Both channels of the device run a program. -/
def CoolingProgram.RunsOn (s : Attributes) (program : CoolingProgram) : Prop :=
  ∀ x ∈ program.targets.getD [], Target.RunsOn s x.1 x.2

/-- What one call of the executor answers for. -/
def Answers (before : Attributes) : CoolingCall → CoolingAnswer → CoolingExecutor → Attributes → Prop
  | .apply _ _ program, .applied outcome, executor, after =>
    CoolingExecutor.Accounts (program.targets.getD []) before outcome executor after
  | .apply .., _, _, _ => False
  | _, _, _, _ => True

theorem handle_spec {s : HwSeen} (call : CoolingCall) (executor : CoolingExecutor)
    (hsound : executor.Sound s.state) :
    wp hwmonDevice (call.handle executor) (fun r s' => r.2.Sound s'.state ∧
      Answers s.state call r.1 r.2 s'.state) s := by
  cases call with
  | apply located now program =>
    refine wp_step (CoolingExecutor.apply_spec located now program hsound) ?_
    rintro ⟨outcome, executor'⟩ s' h
    exact ⟨h.sound, h⟩
  | verifyCurves kraken nowUnixMs => exact ⟨hsound.verifyCurves kraken nowUnixMs, trivial⟩
  | forget => exact ⟨CoolingExecutor.sound_of_forget executor s.state, trivial⟩

theorem coolingSteps_spec (located : Option KrakenHwmon) (world : HwWorld) (calls : List CoolingCall) :
    ∀ step ∈ coolingSteps located world calls,
      step.before.owner.Sound step.before.world.state ∧
      step.after.owner.Sound step.after.world.state ∧
      Answers step.before.world.state step.call step.answer step.after.owner step.after.world.state := by
  refine Rig.steps_of_step (fun rig : CoolingRig => rig.owner.Sound rig.world.state)
    (fun _ _ => True) ?_ calls (CoolingExecutor.sound_opened _ _) (by simp)
  intro rig call hsound _
  have hwp := handle_spec (s := rig.world.fresh.toSeen) call rig.owner hsound
  exact Rig.step_of_wp (P := fun answer executor s' => executor.Sound s'.state ∧
    Answers rig.world.state call answer executor s'.state) hwp

/-- Whatever the calls and whatever fails, the record is sound after each call, and a program
answered as confirmed is the one both channels run. -/
theorem committed_record_sound (located : Option KrakenHwmon) (world : HwWorld)
    (calls : List CoolingCall) : ∀ step ∈ coolingSteps located world calls,
      step.after.owner.Sound step.after.world.state ∧
      ∀ located' now program outcome, step.call = .apply located' now program →
        step.answer = .applied outcome → outcome.hardware = .confirmed →
        program.RunsOn step.after.world.state := by
  intro step hstep
  obtain ⟨-, hsound, hanswers⟩ := coolingSteps_spec located world calls step hstep
  refine ⟨hsound, fun located' now program outcome hcall hanswer hconfirmed => ?_⟩
  rw [hcall, hanswer] at hanswers
  exact hanswers.confirmed hconfirmed

theorem committed_record_sound_fixed :
    ∃ step ∈ coolingSteps none (benchWorld ['0'] fun _ => false)
      [.apply (some benchInstance) 0 (.fixed 180 90)],
      (CoolingProgram.fixed 180 90).RunsOn step.after.world.state := by
  refine ⟨_, List.mem_cons_self, ?_⟩
  refine (committed_record_sound none (benchWorld ['0'] fun _ => false)
    [.apply (some benchInstance) 0 (.fixed 180 90)] _ List.mem_cons_self).2 _ _ _ _ rfl rfl ?_
  decide +kernel

/-! ## A failed transaction -/

theorem Target.RunsOn.of_sameBehavior {s t : Attributes} {channel : Channel} {target : Target}
    (h : target.RunsOn t channel) (hsame : s.SameBehavior channel t) : target.RunsOn s channel := by
  cases target with
  | fixed duty =>
    have hmode := hsame.mode.symm.trans h.1
    exact ⟨hmode, (hsame.duty hmode).symm.trans h.2⟩
  | curve c =>
    have hmode := hsame.mode.symm.trans h.1
    exact ⟨hmode, fun i => (hsame.point hmode i).symm.trans (h.2 i)⟩

/-- A transaction that answers `NotApplied` left every channel on the behavior it had, and the
record names that behavior or nothing. One that answers anything but `Confirmed` after changing a
channel's behavior answers `Uncertain`, and the record says nothing of that channel. -/
theorem failed_transaction_atomic (located : Option KrakenHwmon) (world : HwWorld)
    (calls : List CoolingCall) : ∀ step ∈ coolingSteps located world calls,
      ∀ located' now program outcome, step.call = .apply located' now program →
        step.answer = .applied outcome →
        (outcome.hardware.isNotApplied → ∀ channel,
          step.before.world.state.SameBehavior channel step.after.world.state ∧
          ∀ target, step.after.owner.committedTarget channel = some target →
            target.RunsOn step.before.world.state channel) ∧
        (outcome.hardware ≠ .confirmed → ∀ channel,
          ¬ step.before.world.state.SameBehavior channel step.after.world.state →
          outcome.hardware.isUncertain ∧ step.after.owner.committedTarget channel = none) := by
  intro step hstep located' now program outcome hcall hanswer
  obtain ⟨-, hsound, hanswers⟩ := coolingSteps_spec located world calls step hstep
  rw [hcall, hanswer] at hanswers
  refine ⟨fun hnot channel => ?_, hanswers.differs⟩
  have hsame := hanswers.notApplied hnot channel
  exact ⟨hsame, fun target htarget => (hsound channel target htarget).of_sameBehavior hsame⟩

/-- The first write to the fan fails, and the pump is put back. -/
theorem failed_transaction_atomic_fan :
    ∃ step ∈ coolingSteps none (benchWorld ['0'] (· == 88))
      [.apply (some benchInstance) 0 (.fixed 180 90)],
      ∀ channel, step.before.world.state.SameBehavior channel step.after.world.state := by
  refine ⟨_, List.mem_cons_self, fun channel => ?_⟩
  refine ((failed_transaction_atomic none (benchWorld ['0'] (· == 88))
    [.apply (some benchInstance) 0 (.fixed 180 90)] _ List.mem_cons_self _ _ _ _ rfl rfl).1 ?_ channel).1
  decide +kernel

end Kori
