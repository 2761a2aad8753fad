import Kori.Daemon.Cooling.Cadence

/-! # The pump and its floor -/

open Faulty

namespace Kori

namespace Attributes

/-- The pump is in direct mode below its floor. -/
def PumpBelowFloor (s : Attributes) : Prop :=
  s.mode .pump = some .fixed ∧ ∃ duty, s.duty .pump = some duty ∧ duty < Channel.pump.minDuty

instance (s : Attributes) : Decidable s.PumpBelowFloor :=
  decidable_of_iff (s.mode .pump = some .fixed ∧ (s.duty .pump).any (· < Channel.pump.minDuty) = true)
    (by simp [PumpBelowFloor, Option.any_eq_true])

/-- Whatever the mode, the duty of the pump is not below its floor. -/
def DutyAboveFloor (s : Attributes) : Prop :=
  ∀ duty, s.duty .pump = some duty → Channel.pump.minDuty ≤ duty

theorem DutyAboveFloor.not_below {s : Attributes} (h : s.DutyAboveFloor) : ¬ s.PumpBelowFloor := by
  rintro ⟨-, duty, hduty, hlt⟩
  exact UInt8.not_lt.mpr (h duty hduty) hlt

theorem not_below_of_mode {s : Attributes} (h : s.mode .pump ≠ some .fixed) : ¬ s.PumpBelowFloor :=
  fun hbelow => h hbelow.1

theorem mode_put (s : Attributes) (channel : Channel) (value : UInt8) :
    (s.put (.mode channel) value).mode channel = PwmMode.fromKernel value := by
  simp only [Attributes.mode, put, Function.update_self, parsed_decimal, Option.bind_some]

theorem mode_put_of_ne (s : Attributes) {attr : Attribute} {channel : Channel} (value : UInt8)
    (h : attr ≠ .mode channel) : (s.put attr value).mode channel = s.mode channel := by
  simp only [Attributes.mode, put_of_ne s value h.symm]

theorem duty_put_of_ne (s : Attributes) {attr : Attribute} {channel : Channel} (value : UInt8)
    (h : attr ≠ .duty channel) : (s.put attr value).duty channel = s.duty channel := by
  simp only [Attributes.duty, put_of_ne s value h.symm]

end Attributes

/-- After a write the pump is not below its floor, and no point of its curve was written below it. -/
def AboveFloor : HwEvent → Prop
  | .issued write _ _ left => ¬ left.PumpBelowFloor ∧
      ∀ i, write.attr = .point .pump i → Channel.pump.minDuty ≤ write.value
  | .looked .. => True

instance : DecidablePred AboveFloor
  | .issued write _ _ left => inferInstanceAs (Decidable (¬ left.PumpBelowFloor ∧
      ∀ i, write.attr = .point .pump i → Channel.pump.minDuty ≤ write.value))
  | .looked .. => isTrue trivial

/-! ## Writes that keep the pump up -/

/-- No duty and no point of the pump is written below the floor. -/
structure Gentle (write : AttributeWrite) : Prop where
  duty : write.attr = .duty .pump → Channel.pump.minDuty ≤ write.value
  point : ∀ i, write.attr = .point .pump i → Channel.pump.minDuty ≤ write.value

/-- The pump is not put in direct mode, and no point of it is written below the floor. -/
structure Indirect (write : AttributeWrite) : Prop where
  mode : write.attr = .mode .pump → PwmMode.fromKernel write.value ≠ some .fixed
  point : ∀ i, write.attr = .point .pump i → Channel.pump.minDuty ≤ write.value

theorem gentle_of_fan {write : AttributeWrite} (h : write.attr.channel = some .fan) : Gentle write := by
  refine ⟨fun hattr => ?_, fun i hattr => ?_⟩
  · rw [hattr] at h
    cases h
  · rw [hattr] at h
    cases h

theorem indirect_of_fan {write : AttributeWrite} (h : write.attr.channel = some .fan) :
    Indirect write := by
  refine ⟨fun hattr => ?_, fun i hattr => ?_⟩
  · rw [hattr] at h
    cases h
  · rw [hattr] at h
    cases h

section

variable {α : Type} {p : Hw α} {s : HwSeen}

theorem wp_gentle (hp : Issues Gentle p) (h : s.state.DutyAboveFloor) :
    wp hwmonDevice p (fun _ s' => s'.state.DutyAboveFloor ∧ s.Adds AboveFloor s') s := by
  refine wp_events hp Attributes.DutyAboveFloor AboveFloor (fun _ _ => trivial) ?_ ?_ h
  · intro write t hwrite ht
    have hkept : (t.put write.attr write.value).DutyAboveFloor := by
      intro duty hduty
      by_cases hattr : write.attr = .duty .pump
      · rw [hattr, Attributes.duty_put_duty] at hduty
        cases hduty
        exact hwrite.duty hattr
      · rw [Attributes.duty_put_of_ne t write.value hattr] at hduty
        exact ht duty hduty
    exact ⟨hkept, hkept.not_below, hwrite.point⟩
  · exact fun _ write t hwrite ht => ⟨ht, ht.not_below, hwrite.point⟩

theorem wp_indirect (hp : Issues Indirect p) (h : s.state.mode .pump ≠ some .fixed) :
    wp hwmonDevice p (fun _ s' => s'.state.mode .pump ≠ some .fixed ∧ s.Adds AboveFloor s') s := by
  refine wp_events hp (fun t => t.mode .pump ≠ some .fixed) AboveFloor (fun _ _ => trivial) ?_ ?_ h
  · intro write t hwrite ht
    have hkept : (t.put write.attr write.value).mode .pump ≠ some .fixed := by
      by_cases hattr : write.attr = .mode .pump
      · rw [hattr, Attributes.mode_put]
        exact hwrite.mode hattr
      · rwa [Attributes.mode_put_of_ne t write.value hattr]
    exact ⟨hkept, Attributes.not_below_of_mode hkept, hwrite.point⟩
  · exact fun _ write t hwrite ht => ⟨ht, Attributes.not_below_of_mode ht, hwrite.point⟩

theorem wp_indirect_safe (hp : Issues (fun write => Indirect write ∧ write.attr ≠ .duty .pump) p)
    (h : ¬ s.state.PumpBelowFloor) :
    wp hwmonDevice p (fun _ s' => ¬ s'.state.PumpBelowFloor ∧ s.Adds AboveFloor s') s := by
  refine wp_events hp (fun t => ¬ t.PumpBelowFloor) AboveFloor (fun _ _ => trivial) ?_ ?_ h
  · rintro write t ⟨hwrite, hduty⟩ ht
    have hkept : ¬ (t.put write.attr write.value).PumpBelowFloor := by
      by_cases hattr : write.attr = .mode .pump
      · refine Attributes.not_below_of_mode ?_
        rw [hattr, Attributes.mode_put]
        exact hwrite.mode hattr
      · rw [Attributes.PumpBelowFloor, Attributes.mode_put_of_ne t write.value hattr,
          Attributes.duty_put_of_ne t write.value hduty]
        exact ht
    exact ⟨hkept, hkept, hwrite.point⟩
  · exact fun _ write t hwrite ht => ⟨ht, ht, hwrite.1.point⟩

end

/-! ## One channel -/

/-- Nothing a target asks of a channel is below its floor. -/
def Target.AboveFloor (channel : Channel) : Target → Prop
  | fixed duty => channel.minDuty ≤ duty
  | curve c => ∀ i, channel.minDuty ≤ c.points.get i

theorem targets_aboveFloor {program : CoolingProgram} {targets : List (Channel × Target)}
    (hvalid : validateProgram program = .ok ()) (h : program.targets = some targets) :
    ∀ x ∈ targets, x.2.AboveFloor x.1 := by
  cases program with
  | onboard => cases h
  | fixed pump fan =>
    cases h
    simp only [validateProgram] at hvalid
    cases hpump : validateDuty .pump pump with
    | error e =>
      rw [hpump] at hvalid
      cases hvalid
    | ok =>
      rw [hpump] at hvalid
      simpa [Target.AboveFloor] using ⟨validateDuty_ok hpump, validateDuty_ok hvalid⟩
  | curve pump fan =>
    cases h
    simp only [validateProgram] at hvalid
    cases hpump : validateCurve .pump pump with
    | error e =>
      rw [hpump] at hvalid
      cases hvalid
    | ok =>
      rw [hpump] at hvalid
      simpa [Target.AboveFloor] using ⟨validateCurve_ok hpump, validateCurve_ok hvalid⟩

/-- A write of the log did not land. -/
def HasFailed (log : List HwEvent) : Prop := ∃ write met left, .issued write false met left ∈ log

theorem HasFailed.mono {log log' : List HwEvent} (h : HasFailed log) (hle : log <+: log') :
    HasFailed log' := by
  obtain ⟨write, met, left, hmem⟩ := h
  exact ⟨write, met, left, hle.subset hmem⟩

/-- A transaction that errs because a write of its did not land. -/
structure FailsLoudly {α : Type} (x : Transaction α) : Prop where
  error : ∀ s : HwSeen, wp hwmonDevice x.run (fun r s' => ∀ e, r = .error e → HasFailed s'.log) s

namespace FailsLoudly

variable {α β : Type}

theorem bind {x : Transaction α} {f : α → Transaction β} (hx : FailsLoudly x)
    (hf : ∀ a, FailsLoudly (f a)) : FailsLoudly (x >>= f) := by
  refine ⟨fun s => wp_run_step (hx.error s) ?_ fun a s' _ => (hf a).error s'⟩
  exact fun e _ h _ _ => h e rfl

theorem pure (a : α) : FailsLoudly (Pure.pure a : Transaction α) := ⟨fun _ => by simp⟩

theorem lift (p : Hw α) : FailsLoudly (liftM p : Transaction α) := by
  refine ⟨fun s => ?_⟩
  rw [wp_run_lift]
  exact wp_mono wp_true fun _ _ _ => by simp

theorem forM {ι : Type} (l : List ι) {body : ι → Transaction PUnit} (h : ∀ i, FailsLoudly (body i)) :
    FailsLoudly (l.forM body) := by
  induction l with
  | nil => exact pure _
  | cons i rest ih => exact (h i).bind fun _ => ih

theorem write (control : CoolingControl) (attr : Attribute) (value : UInt8) :
    FailsLoudly (control.write attr value) := by
  refine ⟨fun s => CoolingControl.wp_write (fun failure e _ => ?_) (by simp)⟩
  exact ⟨⟨attr, value⟩, s.state, s.state, by simp⟩

end FailsLoudly

namespace CoolingControl

variable {s : HwSeen} {control : CoolingControl} {channel : Channel}

theorem applyFixed_failsLoudly (duty : UInt8) : FailsLoudly (control.applyFixed channel duty) :=
  (FailsLoudly.write ..).bind fun _ => (FailsLoudly.write ..).bind fun _ =>
    (FailsLoudly.lift _).bind fun _ => .pure _

theorem stageCurve_failsLoudly (c : TemperatureCurve) : FailsLoudly (control.stageCurve channel c) := by
  refine FailsLoudly.bind ?_ fun _ => (FailsLoudly.forM _ fun _ => FailsLoudly.write ..).bind
    fun _ => .pure _
  refine (FailsLoudly.lift _).bind fun mode => ?_
  split
  · exact (FailsLoudly.lift _).bind fun _ => (FailsLoudly.write ..).bind fun _ =>
      (FailsLoudly.write ..).bind fun _ => .pure _
  · exact .pure _

theorem applyCurve_failsLoudly (c : TemperatureCurve) : FailsLoudly (control.applyCurve channel c) :=
  (stageCurve_failsLoudly c).bind fun _ => (FailsLoudly.write ..).bind fun _ =>
    (FailsLoudly.lift _).bind fun _ => (FailsLoudly.lift _).bind fun _ => .pure _

/-! ## Putting a channel on a target -/

theorem applyCurve_rule {φ : AttributeWrite → Prop} {S : Attributes → Prop} {P : HwEvent → Prop}
    {c : TemperatureCurve}
    (hkeep : ∀ {α : Type} {p : Hw α} {t : HwSeen}, Issues φ p → S t.state →
      wp hwmonDevice p (fun _ t' => S t'.state ∧ t.Adds P t') t)
    (hpoint : ∀ i, φ ⟨.point channel i, c.points.get i⟩)
    (hmode : φ ⟨.mode channel, PwmMode.curve.toKernel⟩)
    (hleave : wp hwmonDevice (control.leaveCurve channel c).run
      (fun _ s' => S s'.state ∧ s.Adds P s') s) :
    wp hwmonDevice (control.applyCurve channel c).run (fun _ s' => S s'.state ∧ s.Adds P s') s := by
  have hrest : ∀ {α : Type} {p : Hw α} {t : HwSeen}, Issues φ p → S t.state ∧ s.Adds P t →
      wp hwmonDevice p (fun _ t' => S t'.state ∧ s.Adds P t') t := by
    intro α p t hp ht
    exact wp_mono (hkeep hp ht.1) fun _ _ h => ⟨h.1, ht.2.trans h.2⟩
  have hpoints : ∀ writes : Nat, Issues φ (do
      (List.finRange CURVE_POINT_COUNT).forM fun index =>
        control.write (.point channel index) (c.points.get index)
      return writes + CURVE_POINT_COUNT : Transaction Nat).run := fun writes =>
    issues_run_bind (issues_run_forM fun i _ => write_issues (hpoint i)) fun _ => trivial
  refine wp_run_step (M := fun _ s' => S s'.state ∧ s.Adds P s') ?_ (fun _ _ h => h) fun writes s1 h1 => ?_
  · exact wp_run_step hleave (fun _ _ h => h) fun writes s1 h1 => hrest (hpoints writes) h1
  · refine hrest (issues_run_bind (write_issues hmode) fun _ => ?_) h1
    refine issues_run_bind (issues_run_lift (issues_mono readBack_looks fun _ h => h.elim)) fun _ => ?_
    exact issues_run_bind (issues_run_lift (issues_mono curve_looks fun _ h => h.elim)) fun _ => trivial

theorem indirect_point {c : TemperatureCurve} (hc : ∀ i, Channel.pump.minDuty ≤ c.points.get i)
    (i : Fin CURVE_POINT_COUNT) : Indirect ⟨.point .pump i, c.points.get i⟩ :=
  ⟨by simp, fun j h => hc i⟩

theorem indirect_mode {channel : Channel} {mode : PwmMode} (h : mode ≠ .fixed) :
    Indirect ⟨.mode channel, mode.toKernel⟩ := by
  refine ⟨fun _ => ?_, by simp⟩
  rw [PwmMode.fromKernel_toKernel]
  simpa using h

theorem duty_first {α : Type} {duty : UInt8} {f : Unit → Transaction α}
    (hduty : Channel.pump.minDuty ≤ duty) (hf : Issues Gentle (f ()).run)
    (h : ¬ s.state.PumpBelowFloor) :
    wp hwmonDevice (control.write (.duty .pump) duty >>= f).run
      (fun _ s' => ¬ s'.state.PumpBelowFloor ∧ s.Adds AboveFloor s') s := by
  refine write_step (fun _ => ⟨h, Seen.adds_issued ⟨h, by simp⟩⟩) ?_
  have hput : (s.state.put (.duty .pump) duty).DutyAboveFloor := by
    intro d hd
    rw [Attributes.duty_put_duty] at hd
    cases hd
    exact hduty
  refine wp_mono (wp_gentle hf hput) fun _ s' h' => ⟨h'.1.not_below, ?_⟩
  exact (Seen.adds_issued ⟨hput.not_below, by simp⟩).trans h'.2

theorem leaveCurve_safe (c : TemperatureCurve) (h : ¬ s.state.PumpBelowFloor) :
    wp hwmonDevice (control.leaveCurve .pump c).run
      (fun _ s' => ¬ s'.state.PumpBelowFloor ∧ s.Adds AboveFloor s') s := by
  unfold leaveCurve
  have hlooks : ∀ {α : Type} {p : Hw α} {t : HwSeen}, Looks p →
      ¬ t.state.PumpBelowFloor ∧ s.Adds AboveFloor t →
      wp hwmonDevice p (fun _ t' => ¬ t'.state.PumpBelowFloor ∧ s.Adds AboveFloor t') t := by
    intro α p t hp ht
    refine wp_mono (wp_indirect_safe (issues_mono hp fun _ h => h.elim) ht.1) fun _ t' h' => ?_
    exact ⟨h'.1, ht.2.trans h'.2⟩
  refine wp_run_lift_step (hlooks mode_looks ⟨h, .refl⟩) fun mode s1 h1 => ?_
  split
  · refine wp_run_lift_step (wp_and (hlooks (transitionDuty_looks c) h1)
      (wp_returns (transitionDuty_returns c))) ?_
    rintro holding s2 ⟨h2, hduty⟩
    have hf : Issues Gentle (do
        control.write (.mode .pump) PwmMode.fixed.toKernel
        return 2 : Transaction Nat).run :=
      issues_run_bind (write_issues ⟨by simp, by simp⟩) fun _ => trivial
    exact wp_mono (duty_first hduty hf h2.1) fun _ _ h' => ⟨h'.1, h2.2.trans h'.2⟩
  · exact h1

end CoolingControl

/-! ## A whole target -/

namespace CoolingExecutor

variable {s : HwSeen} {control : CoolingControl} {channel : Channel}

theorem write_gentle {target : Target} (h : target.AboveFloor channel) :
    Issues Gentle (write control channel target).run := by
  cases target with
  | fixed duty =>
    refine CoolingControl.applyFixed_issues ⟨?_, by simp⟩ ⟨by simp, by simp⟩
    rintro ⟨⟩
    exact h
  | curve c =>
    refine CoolingControl.applyCurve_issues (fun duty hduty => ⟨?_, by simp⟩) ⟨by simp, by simp⟩
      ⟨by simp, by simp⟩ fun i => ⟨by simp, ?_⟩
    · rintro ⟨⟩
      exact hduty
    · rintro j ⟨⟩
      exact h i

theorem write_safe {target : Target} (htarget : target.AboveFloor channel)
    (h : ¬ s.state.PumpBelowFloor) :
    wp hwmonDevice (write control channel target).run
      (fun _ s' => ¬ s'.state.PumpBelowFloor ∧ s.Adds AboveFloor s') s := by
  cases channel with
  | fan =>
    refine wp_indirect_safe (issues_mono (write_staysOn target) fun write hwrite => ?_) h
    refine ⟨indirect_of_fan hwrite, fun hattr => ?_⟩
    rw [hattr] at hwrite
    cases hwrite
  | pump =>
    cases target with
    | fixed duty =>
      refine CoolingControl.duty_first htarget ?_ h
      refine issues_run_bind (CoolingControl.write_issues ⟨by simp, by simp⟩) fun _ => ?_
      refine issues_run_bind (issues_run_lift ?_) fun _ => trivial
      exact issues_mono CoolingControl.readBack_looks fun _ h => h.elim
    | curve c =>
      refine CoolingControl.applyCurve_rule (S := fun t => ¬ t.PumpBelowFloor) (P := AboveFloor)
        (fun hp ht => wp_indirect_safe hp ht) (fun i => ?_) ?_ (CoolingControl.leaveCurve_safe c h)
      · exact ⟨CoolingControl.indirect_point htarget i, by simp⟩
      · exact ⟨CoolingControl.indirect_mode (by simp), by simp⟩

theorem write_failsLoudly (target : Target) : FailsLoudly (write control channel target) := by
  cases target with
  | fixed duty => exact CoolingControl.applyFixed_failsLoudly duty
  | curve c => exact CoolingControl.applyCurve_failsLoudly c

theorem write_curve_indirect {c : TemperatureCurve} (hc : ∀ i, Channel.pump.minDuty ≤ c.points.get i)
    (hfixed : s.state.mode .pump ≠ some .fixed) (hcurve : s.state.mode .pump ≠ some .curve) :
    wp hwmonDevice (write control .pump (.curve c)).run
      (fun _ s' => s'.state.mode .pump ≠ some .fixed ∧ s.Adds AboveFloor s') s := by
  refine CoolingControl.applyCurve_rule (S := fun t => t.mode .pump ≠ some .fixed) (P := AboveFloor)
    (fun hp ht => wp_indirect hp ht) (CoolingControl.indirect_point hc) (CoolingControl.indirect_mode (by simp)) ?_
  unfold CoolingControl.leaveCurve
  refine wp_run_lift_step (M := fun mode s' => mode ≠ some .curve ∧
    s'.state.mode .pump ≠ some .fixed ∧ s.Adds AboveFloor s') ?_ ?_
  · exact wp_mode ⟨by simp, hfixed, Seen.adds_noted trivial⟩ ⟨hcurve, hfixed, Seen.adds_noted trivial⟩
  · rintro mode s' ⟨hmode, h⟩
    rw [if_neg hmode]
    exact h

/-! ## The transaction -/

theorem writeChannels_rule {now : Instant} {targets : List (Channel × Target)}
    {snapshots : List ChannelSnapshot} {Q A : HwSeen → Prop}
    (I : List ((Channel × Target) × Option ChannelReadback) → HwSeen → Prop)
    (hskip : ∀ x rest t, I (x :: rest) t → x.2 ≠ none → I rest t)
    (hwrite : ∀ channel target rest t, I (((channel, target), none) :: rest) t →
      wp hwmonDevice (write control channel target).run (fun r t' => match r with
        | .ok _ => I rest t'
        | .error _ => A t') t)
    (habort : ∀ (self : CoolingExecutor) failure writes readback t, A t →
      wp hwmonDevice (self.abort control snapshots failure writes readback) (fun _ => Q) t)
    (hdone : ∀ t, I [] t → Q t) (l : List ((Channel × Target) × Option ChannelReadback))
    (self : CoolingExecutor) (writes : Nat) (readback : List ChannelReadback) (h : I l s) :
    wp hwmonDevice (writeChannels control now targets snapshots self writes readback l)
      (fun _ => Q) s := by
  induction l generalizing s self writes readback with
  | nil => exact hdone s h
  | cons x rest ih =>
    obtain ⟨⟨channel, target⟩, settled⟩ := x
    cases settled with
    | some current =>
      unfold writeChannels
      exact ih self writes _ (hskip _ rest s h (by simp))
    | none =>
      unfold writeChannels
      refine wp_step (hwrite channel target rest s h) ?_
      rintro (failure | applied) t ht
      · exact habort _ failure writes readback t ht
      · exact fun atUnixMs => ih _ _ _ ht

theorem restoreChannel_issues {φ : AttributeWrite → Prop} {self : CoolingExecutor}
    {snapshot : ChannelSnapshot} (h : Issues φ (control.restore snapshot).run) :
    Issues φ (self.restoreChannel control snapshot) := by
  unfold restoreChannel
  refine issues_bind h ?_
  rintro (e | _ | _)
  · trivial
  · trivial
  · dsimp only
    split
    · exact fun _ => trivial
    · exact fun _ => trivial
    · trivial

theorem abort_issues {φ : AttributeWrite → Prop} {self : CoolingExecutor}
    {snapshots : List ChannelSnapshot} {failure : WriteFailure} {writes : Nat}
    {readback : List ChannelReadback}
    (h : ∀ snapshot ∈ snapshots, Issues φ (control.restore snapshot).run) :
    Issues φ (self.abort control snapshots failure writes readback) := by
  have hrestore : ∀ (self : CoolingExecutor) (details : List String),
      Issues φ (restoreChannels control self details snapshots) := by
    induction snapshots with
    | nil => exact fun _ _ => trivial
    | cons snapshot rest ih =>
      intro self details
      unfold restoreChannels
      refine issues_bind (restoreChannel_issues (h snapshot (by simp))) fun r => ?_
      exact ih (fun other hother => h other (by simp [hother])) r.1 _
  exact issues_bind (hrestore self []) fun _ => trivial

/-- A curve the pump is running is not below the floor. -/
def CurveAboveFloor (s : Attributes) : Prop :=
  s.mode .pump = some .curve → ∀ c, s.Holds .pump c → ∀ i, Channel.pump.minDuty ≤ c.points.get i

theorem restore_gentle {snapshot : ChannelSnapshot} {s₀ : Attributes}
    (hcapture : CoolingControl.Captures snapshot s₀) (hduty : s₀.DutyAboveFloor)
    (hcurve : CurveAboveFloor s₀) : Issues Gentle (control.restore snapshot).run := by
  cases hchannel : snapshot.channel with
  | fan =>
    refine issues_mono CoolingControl.restore_staysOn fun write hwrite => gentle_of_fan ?_
    rw [hwrite, hchannel]
  | pump =>
    refine CoolingControl.restore_issues (fun c hmode hc => ?_) (fun duty h => ⟨?_, by simp⟩)
      fun mode _ => ⟨by simp, by simp⟩
    · have hpoints := hcapture.curve c hc
      have hcurving := hcapture.mode .curve hmode
      rw [hchannel] at hpoints hcurving ⊢
      refine CoolingControl.stageCurve_issues (fun d hd => ⟨fun _ => hd, by simp⟩) ⟨by simp, by simp⟩
        fun i => ⟨by simp, ?_⟩
      rintro j ⟨⟩
      exact hcurve hcurving c hpoints i
    · intro _
      have hcaptured := hcapture.duty duty h
      rw [hchannel] at hcaptured
      exact hduty duty hcaptured

theorem restore_indirect {snapshot : ChannelSnapshot} {s₀ : Attributes}
    (hcapture : CoolingControl.Captures snapshot s₀) (hfixed : s₀.mode .pump ≠ some .fixed)
    (hcurve : s₀.mode .pump ≠ some .curve) : Issues Indirect (control.restore snapshot).run := by
  cases hchannel : snapshot.channel with
  | fan =>
    refine issues_mono CoolingControl.restore_staysOn fun write hwrite => indirect_of_fan ?_
    rw [hwrite, hchannel]
  | pump =>
    have hmode : ∀ mode, snapshot.mode = some mode → s₀.mode .pump = some mode := by
      intro mode h
      rw [← hchannel]
      exact hcapture.mode mode h
    refine CoolingControl.restore_issues (fun c h _ => absurd (hmode .curve h) hcurve)
      (fun duty _ => ⟨by simp, by simp⟩) fun mode h => CoolingControl.indirect_mode ?_
    rintro rfl
    exact hfixed (hmode .fixed h)

section

variable {base : HwSeen} {now : Instant} {targets : List (Channel × Target)}
  {snapshots : List ChannelSnapshot} (self : CoolingExecutor) (writes : Nat)
  (readback : List ChannelReadback) {l : List ((Channel × Target) × Option ChannelReadback)}

theorem writeChannels_loud (hl : ∀ x ∈ l, x.1.2.AboveFloor x.1.1)
    (h : ¬ s.state.PumpBelowFloor ∧ base.Adds AboveFloor s) :
    wp hwmonDevice (writeChannels control now targets snapshots self writes readback l)
      (fun _ s' => (¬ s'.state.PumpBelowFloor ∧ base.Adds AboveFloor s') ∨ HasFailed s'.log) s := by
  refine writeChannels_rule (A := fun t => HasFailed t.log)
    (fun l t => (∀ x ∈ l, x.1.2.AboveFloor x.1.1) ∧ ¬ t.state.PumpBelowFloor ∧ base.Adds AboveFloor t)
    ?_ ?_ ?_ (fun t ht => .inl ht.2) l self writes readback ⟨hl, h⟩
  · rintro x rest t ⟨htargets, ht⟩ -
    exact ⟨fun y hy => htargets y (by simp [hy]), ht⟩
  · rintro channel target rest t ⟨htargets, hsafe, hadds⟩
    refine wp_mono (wp_and (write_safe (htargets _ List.mem_cons_self) hsafe)
      ((write_failsLoudly target).error t)) ?_
    rintro (e | a) t' ⟨⟨hsafe', hadds'⟩, hfailed⟩
    · exact hfailed e rfl
    · exact ⟨fun y hy => htargets y (by simp [hy]), hsafe', hadds.trans hadds'⟩
  · exact fun _ _ _ _ t ht => wp_mono wp_log_grows fun _ _ hgrows => .inr (ht.mono hgrows)

theorem writeChannels_gentle (hl : ∀ x ∈ l, x.1.2.AboveFloor x.1.1)
    (hrestore : ∀ snapshot ∈ snapshots, Issues Gentle (control.restore snapshot).run)
    (h : s.state.DutyAboveFloor ∧ base.Adds AboveFloor s) :
    wp hwmonDevice (writeChannels control now targets snapshots self writes readback l)
      (fun _ s' => ¬ s'.state.PumpBelowFloor ∧ base.Adds AboveFloor s') s := by
  have hkept : ∀ {α : Type} {p : Hw α} {t : HwSeen}, Issues Gentle p →
      t.state.DutyAboveFloor ∧ base.Adds AboveFloor t →
      wp hwmonDevice p (fun _ t' => t'.state.DutyAboveFloor ∧ base.Adds AboveFloor t') t := by
    intro α p t hp ht
    exact wp_mono (wp_gentle hp ht.1) fun _ _ h' => ⟨h'.1, ht.2.trans h'.2⟩
  refine writeChannels_rule (A := fun t => t.state.DutyAboveFloor ∧ base.Adds AboveFloor t)
    (fun l t => (∀ x ∈ l, x.1.2.AboveFloor x.1.1) ∧ t.state.DutyAboveFloor ∧ base.Adds AboveFloor t)
    ?_ ?_ ?_ (fun t ht => ⟨ht.2.1.not_below, ht.2.2⟩) l self writes readback ⟨hl, h⟩
  · rintro x rest t ⟨htargets, ht⟩ -
    exact ⟨fun y hy => htargets y (by simp [hy]), ht⟩
  · rintro channel target rest t ⟨htargets, ht⟩
    refine wp_mono (hkept (write_gentle (htargets _ List.mem_cons_self)) ht) ?_
    rintro (e | a) t' ht'
    · exact ht'
    · exact ⟨fun y hy => htargets y (by simp [hy]), ht'⟩
  · intro _ _ _ _ t ht
    exact wp_mono (hkept (abort_issues hrestore) ht) fun _ _ h' => ⟨h'.1.not_below, h'.2⟩

theorem writeChannels_indirect
    (hl : ∀ x ∈ l, x.1.2.AboveFloor x.1.1 ∧ ∃ c, x.1.2 = .curve c)
    (hnodup : (l.map fun x => x.1.1).Nodup)
    (hrestore : ∀ snapshot ∈ snapshots, Issues Indirect (control.restore snapshot).run)
    (h : s.state.mode .pump ≠ some .fixed ∧ base.Adds AboveFloor s)
    (hcurve : s.state.mode .pump ≠ some .curve) :
    wp hwmonDevice (writeChannels control now targets snapshots self writes readback l)
      (fun _ s' => ¬ s'.state.PumpBelowFloor ∧ base.Adds AboveFloor s') s := by
  refine writeChannels_rule
    (A := fun t => t.state.mode .pump ≠ some .fixed ∧ base.Adds AboveFloor t)
    (fun l t => (∀ x ∈ l, x.1.2.AboveFloor x.1.1 ∧ ∃ c, x.1.2 = .curve c) ∧
      (l.map fun x => x.1.1).Nodup ∧
      (t.state.mode .pump ≠ some .fixed ∧ base.Adds AboveFloor t) ∧
      ((.pump ∈ l.map fun x => x.1.1) → t.state.mode .pump ≠ some .curve))
    ?_ ?_ ?_ (fun t ht => ⟨Attributes.not_below_of_mode ht.2.2.1.1, ht.2.2.1.2⟩) l self writes readback
    ⟨hl, hnodup, h, fun _ => hcurve⟩
  · rintro x rest t ⟨htargets, hnodup, ht, hpump⟩ -
    rw [List.map_cons, List.nodup_cons] at hnodup
    exact ⟨fun y hy => htargets y (by simp [hy]), hnodup.2, ht, fun hmem => hpump (by simp [hmem])⟩
  · rintro channel target rest t ⟨htargets, hnodup, ht, hpump⟩
    rw [List.map_cons, List.nodup_cons] at hnodup
    have hrest : ∀ y ∈ rest, y.1.2.AboveFloor y.1.1 ∧ ∃ c, y.1.2 = .curve c :=
      fun y hy => htargets y (by simp [hy])
    obtain ⟨hfloor, c, hc⟩ := htargets _ List.mem_cons_self
    dsimp only at hfloor hc
    subst hc
    cases channel with
    | pump =>
      refine wp_mono (write_curve_indirect hfloor ht.1 (hpump (by simp))) ?_
      rintro (e | a) t' ⟨hmode, hadds⟩
      · exact ⟨hmode, ht.2.trans hadds⟩
      · exact ⟨hrest, hnodup.2, ⟨hmode, ht.2.trans hadds⟩, fun hmem => absurd hmem hnodup.1⟩
    | fan =>
      have hstays := @write_staysOn control .fan (.curve c)
      refine wp_mono (wp_and (wp_indirect (issues_mono hstays fun _ => indirect_of_fan) ht.1)
        (CoolingControl.wp_staysOn hstays)) ?_
      rintro (e | a) t' ⟨⟨hmode, hadds⟩, hframe⟩
      · exact ⟨hmode, ht.2.trans hadds⟩
      · refine ⟨hrest, hnodup.2, ⟨hmode, ht.2.trans hadds⟩, fun hmem => ?_⟩
        rw [(hframe.sameChannel (by simp : Channel.pump ≠ .fan)).mode]
        exact hpump (by simp [hmem])
  · intro _ _ _ _ t ht
    refine wp_mono (wp_indirect (abort_issues hrestore) ht.1) fun _ _ h' => ?_
    exact ⟨Attributes.not_below_of_mode h'.1, ht.2.trans h'.2⟩

end

/-- What the restoration of every channel would write, from the state a program meets, leaves the
pump above its floor: its duty is, or it is put on a curve from neither of the two modes; and so is
any curve it runs. -/
def RestoresAboveFloor (targets : List (Channel × Target)) (s : Attributes) : Prop :=
  (s.DutyAboveFloor ∨ ((∀ x ∈ targets, ∃ c, x.2 = .curve c) ∧ s.mode .pump ≠ some .curve)) ∧
    CurveAboveFloor s

theorem transact_floor {self : CoolingExecutor} {now : Instant} {targets : List (Channel × Target)}
    (hnodup : (targets.map Prod.fst).Nodup) (hsound : self.Sound s.state)
    (hsafe : ¬ s.state.PumpBelowFloor) (htargets : ∀ x ∈ targets, x.2.AboveFloor x.1) :
    wp hwmonDevice (self.transact control now targets) (fun _ s' =>
      ((¬ s'.state.PumpBelowFloor ∧ s.Adds AboveFloor s') ∨ HasFailed s'.log) ∧
      (RestoresAboveFloor targets s.state → ¬ s'.state.PumpBelowFloor ∧ s.Adds AboveFloor s')) s := by
  have hlooks : ∀ {α : Type} {p : Hw α} {t : HwSeen}, Looks p → s.Adds AboveFloor t →
      wp hwmonDevice p (fun _ t' => s.Adds AboveFloor t') t := by
    intro α p t hp ht
    refine wp_mono (wp_looks hp) fun _ t' h => ht.trans (h.2.mono fun e he => ?_)
    cases e with
    | looked => trivial
    | issued => cases he
  unfold transact
  refine wp_step (wp_and (snapshots_spec targets hsound) (hlooks (snapshots_looks self targets) .refl)) ?_
  rintro snapshots s1 ⟨⟨h1, -, hcapture⟩, hadds1⟩
  refine wp_step (wp_and (settledChannels_spec targets)
    (hlooks (settledChannels_looks self targets) hadds1)) ?_
  rintro settled s2 ⟨⟨h2, hlength, -⟩, hadds⟩
  have hs2 : s2.state = s.state := h2.trans h1
  cases self.refuseForCadence now settled with
  | some refusal =>
    rw [← hs2] at hsafe
    exact ⟨.inl ⟨hsafe, hadds⟩, fun _ => ⟨hsafe, hadds⟩⟩
  | none =>
    have hmem : ∀ x ∈ targets.zip settled, x.1 ∈ targets := fun x hx => (List.of_mem_zip hx).1
    have hl : ∀ x ∈ targets.zip settled, x.1.2.AboveFloor x.1.1 := fun x hx => htargets x.1 (hmem x hx)
    refine wp_and (writeChannels_loud self 0 [] hl ⟨by rwa [hs2], hadds⟩) (wp_forall ?_)
    rintro ⟨hduty | ⟨hcurves, hcurve⟩, hheld⟩
    · exact writeChannels_gentle self 0 [] hl
        (fun snapshot hsnapshot => restore_gentle (hcapture snapshot hsnapshot) hduty hheld)
        ⟨by rwa [hs2], hadds⟩
    · by_cases hfixed : s.state.mode .pump = some .fixed
      · -- In direct mode and not below its floor, the duty of the pump is above it.
        have hduty : s.state.DutyAboveFloor := fun duty hd =>
          UInt8.not_lt.mp fun hlt => hsafe ⟨hfixed, duty, hd, hlt⟩
        exact writeChannels_gentle self 0 [] hl
          (fun snapshot hsnapshot => restore_gentle (hcapture snapshot hsnapshot) hduty hheld)
          ⟨by rwa [hs2], hadds⟩
      · refine writeChannels_indirect self 0 [] (fun x hx => ⟨hl x hx, hcurves x.1 (hmem x hx)⟩)
          (by rwa [zip_channels hlength])
          (fun snapshot hsnapshot => restore_indirect (hcapture snapshot hsnapshot) hfixed hcurve)
          ⟨by rwa [hs2], hadds⟩ (by rwa [hs2])

theorem apply_floor {self : CoolingExecutor} (located : Option KrakenHwmon) (now : Instant)
    {program : CoolingProgram} (hvalid : validateProgram program = .ok ()) (hsound : self.Sound s.state)
    (hsafe : ¬ s.state.PumpBelowFloor) :
    wp hwmonDevice (self.apply located now program) (fun _ s' =>
      ((¬ s'.state.PumpBelowFloor ∧ s.Adds AboveFloor s') ∨ HasFailed s'.log) ∧
      (RestoresAboveFloor (program.targets.getD []) s.state →
        ¬ s'.state.PumpBelowFloor ∧ s.Adds AboveFloor s')) s := by
  unfold apply
  cases htargets : program.targets with
  | none => exact ⟨.inl ⟨hsafe, .refl⟩, fun _ => ⟨hsafe, .refl⟩⟩
  | some targets =>
    have hsound' := hsound.resolve located
    dsimp only [Option.getD_some]
    cases (self.resolve located).control with
    | none => exact ⟨.inl ⟨hsafe, .refl⟩, fun _ => ⟨hsafe, .refl⟩⟩
    | some control =>
      refine transact_floor ?_ hsound' hsafe (targets_aboveFloor hvalid htargets)
      rw [targets_channels htargets]
      decide

end CoolingExecutor

/-! ## Runs -/

/-- A program passes its checks before it is applied. -/
def CoolingCall.Valid : CoolingCall → Prop
  | apply _ _ program => validateProgram program = .ok ()
  | _ => True

def CoolingCall.RestoresAboveFloor (s : Attributes) : CoolingCall → Prop
  | apply _ _ program => CoolingExecutor.RestoresAboveFloor (program.targets.getD []) s
  | _ => True

/-- What a call needs so that the pump stays above its floor: that none of its writes fails, or that
what it would put back does no harm. -/
def KeepsPumpUp (step : CoolingStep) : Prop :=
  ¬ HasFailed step.after.world.log ∨ step.call.RestoresAboveFloor step.before.world.state

theorem handle_floor {s : HwSeen} (call : CoolingCall) (executor : CoolingExecutor)
    (hvalid : call.Valid) (hsound : executor.Sound s.state) (hsafe : ¬ s.state.PumpBelowFloor) :
    wp hwmonDevice (call.handle executor) (fun r s' => r.2.Sound s'.state ∧
      ((¬ s'.state.PumpBelowFloor ∧ s.Adds AboveFloor s') ∨
        HasFailed s'.log ∧ ¬ call.RestoresAboveFloor s.state)) s := by
  refine wp_and (wp_mono (handle_spec call executor hsound) fun _ _ h => h.1) ?_
  cases call with
  | apply located now program =>
    refine wp_step (CoolingExecutor.apply_floor located now hvalid hsound hsafe) ?_
    rintro r s' ⟨hloud, hrestores⟩
    by_cases h : (CoolingCall.apply located now program).RestoresAboveFloor s.state
    · exact .inl (hrestores h)
    · exact hloud.imp_right fun hfailed => ⟨hfailed, h⟩
  | verifyCurves kraken nowUnixMs => exact .inl ⟨hsafe, .refl⟩
  | forget => exact .inl ⟨hsafe, .refl⟩

/-- In every run whose calls each keep the pump up, every write leaves the pump above its floor and
writes no point of it below. -/
theorem pump_stays_above_floor (located : Option KrakenHwmon) (world : HwWorld)
    (calls : List CoolingCall) (hinit : ¬ world.state.PumpBelowFloor)
    (hvalid : ∀ call ∈ calls, call.Valid)
    (hkeeps : ∀ step ∈ coolingSteps located world calls, KeepsPumpUp step) :
    ∀ step ∈ coolingSteps located world calls, ∀ e ∈ step.after.world.log, AboveFloor e := by
  have hstep : ∀ (rig : CoolingRig) call,
      rig.owner.Sound rig.world.state ∧ ¬ rig.world.state.PumpBelowFloor →
      call.Valid ∧ KeepsPumpUp (rig.step hwmonDevice CoolingCall.handle call) →
      let after := (rig.step hwmonDevice CoolingCall.handle call).after
      (after.owner.Sound after.world.state ∧ ¬ after.world.state.PumpBelowFloor) ∧
        ∀ e ∈ after.world.log, AboveFloor e := by
    rintro rig call ⟨hsound, hsafe⟩ ⟨hvalid, hkeeps⟩
    have hwp := handle_floor (s := rig.world.fresh.toSeen) call rig.owner hvalid hsound hsafe
    obtain ⟨hsound', ⟨hsafe', hadds⟩ | ⟨hfailed, hharms⟩⟩ := wp_run rig.world.fresh hwp
    · exact ⟨⟨hsound', hsafe'⟩, hadds.log (by simp)⟩
    · exact (hkeeps.elim (fun h => h hfailed) hharms).elim
  have hrun : ∀ step ∈ coolingSteps located world calls,
      (step.before.owner.Sound step.before.world.state ∧ ¬ step.before.world.state.PumpBelowFloor) ∧
      (step.after.owner.Sound step.after.world.state ∧ ¬ step.after.world.state.PumpBelowFloor) ∧
      ∀ e ∈ step.after.world.log, AboveFloor e := by
    refine Rig.steps_of_step
      (fun rig : CoolingRig => rig.owner.Sound rig.world.state ∧ ¬ rig.world.state.PumpBelowFloor)
      (fun rig call => call.Valid ∧ KeepsPumpUp (rig.step hwmonDevice CoolingCall.handle call))
      hstep calls ⟨CoolingExecutor.sound_opened _ _, hinit⟩ fun step hmem => ?_
    rw [Rig.eq_of_mem_steps hmem]
    exact ⟨hvalid _ (Rig.call_mem_of_mem_steps hmem), hkeeps step hmem⟩
  exact fun step hmem => (hrun step hmem).2.2

/-- The first write to the fan fails, and the pump gets a duty of 80 back. -/
theorem pump_stays_above_floor_restored : ∃ step ∈ coolingSteps none (benchWorld ['8', '0'] (· == 88))
    [.apply (some benchInstance) 0 (.fixed 180 90)], ∀ e ∈ step.after.world.log, AboveFloor e := by
  refine ⟨_, List.mem_cons_self, pump_stays_above_floor none (benchWorld ['8', '0'] (· == 88))
    [.apply (some benchInstance) 0 (.fixed 180 90)] (by decide +kernel) ?_ ?_ _ List.mem_cons_self⟩
  · intro call hcall
    rw [List.mem_singleton.mp hcall]
    exact rfl
  · intro step hstep
    rw [coolingSteps, Rig.steps, Rig.steps, List.mem_singleton] at hstep
    subst hstep
    have hduty : (benchWorld ['8', '0'] (· == 88)).state.duty .pump = some 80 := by decide +kernel
    have hmode : (benchWorld ['8', '0'] (· == 88)).state.mode .pump = none := by decide +kernel
    refine .inr ⟨.inl fun duty h => ?_, fun h => ?_⟩
    · obtain rfl := Option.some.inj (hduty.symm.trans h)
      decide
    · cases hmode.symm.trans h

/-- The first write to the fan fails, and the pump gets its old duty back while still in direct
mode. -/
theorem pump_below_floor : ¬ (benchWorld ['0'] (· == 88)).state.PumpBelowFloor ∧
    validateProgram (.fixed 180 90) = .ok () ∧
    ∃ step ∈ coolingSteps none (benchWorld ['0'] (· == 88))
      [.apply (some benchInstance) 0 (.fixed 180 90)], ∃ e ∈ step.after.world.log, ¬ AboveFloor e := by
  refine ⟨by decide +kernel, rfl, _, List.mem_cons_self, ?_⟩
  decide +kernel

end Kori
