import Kori.Hardware.Rules

/-! # What a transaction and a restoration leave on a channel -/

open Faulty

namespace Kori

namespace Attributes

/-- Between `s` and `t` a channel keeps its behavior: its mode, its duty in direct mode, its points
in curve mode. -/
structure SameBehavior (channel : Channel) (s t : Attributes) : Prop where
  mode : t.mode channel = s.mode channel
  duty : s.mode channel = some .fixed → t.duty channel = s.duty channel
  point : s.mode channel = some .curve → ∀ i, t.point channel i = s.point channel i

theorem SameBehavior.refl (channel : Channel) (s : Attributes) : SameBehavior channel s s :=
  ⟨rfl, fun _ => rfl, fun _ _ => rfl⟩

/-- Every attribute of a channel is the same. -/
def SameChannel (channel : Channel) (s t : Attributes) : Prop :=
  ∀ a, a.channel = some channel → t a = s a

theorem Frame.sameChannel {channel other : Channel} {s t : Attributes} (h : Frame channel s t)
    (hne : other ≠ channel) : SameChannel other s t :=
  fun a ha => h a (by rw [ha]; simpa using hne)

namespace SameChannel

variable {channel : Channel} {s t u : Attributes}

theorem trans (h : SameChannel channel s t) (h' : SameChannel channel t u) :
    SameChannel channel s u := fun a ha => (h' a ha).trans (h a ha)

theorem mode (h : SameChannel channel s t) : t.mode channel = s.mode channel := by
  simp only [Attributes.mode, h (.mode channel) rfl]

theorem duty (h : SameChannel channel s t) : t.duty channel = s.duty channel := by
  simp only [Attributes.duty, h (.duty channel) rfl]

theorem point (h : SameChannel channel s t) (i : Fin CURVE_POINT_COUNT) :
    t.point channel i = s.point channel i := by
  simp only [Attributes.point, h (.point channel i) rfl]

theorem sameBehavior (h : SameChannel channel s t) : SameBehavior channel s t :=
  ⟨h.mode, fun _ => h.duty, fun _ => h.point⟩

end SameChannel

end Attributes

variable {s : HwSeen} {control : CoolingControl} {channel : Channel}

namespace CoolingControl

/-! ## What each program may write -/

section Issues

variable {φ : AttributeWrite → Prop}

theorem applyFixed_issues {duty : UInt8} (hduty : φ ⟨.duty channel, duty⟩)
    (hmode : φ ⟨.mode channel, PwmMode.fixed.toKernel⟩) :
    Issues φ (control.applyFixed channel duty).run := by
  refine issues_run_bind (write_issues hduty) fun _ => ?_
  refine issues_run_bind (write_issues hmode) fun _ => ?_
  refine issues_run_bind (issues_run_lift ?_) fun _ => trivial
  exact issues_mono (issues_bind mode_looks fun _ => issues_bind duty_looks fun _ => trivial)
    fun _ h => h.elim

theorem transitionDuty_looks (curve : TemperatureCurve) :
    Looks (control.transitionDuty channel curve) := by
  refine issues_bind duty_looks ?_
  rintro (_ | duty)
  · exact issues_bind liquidTemperatureC_looks fun _ => trivial
  · trivial

theorem transitionDuty_returns (curve : TemperatureCurve) :
    Returns (fun duty => channel.minDuty ≤ duty) (control.transitionDuty channel curve) := by
  refine returns_bind ?_
  rintro (_ | duty)
  · exact returns_bind fun _ => le_max_floor _ _
  · exact le_max_floor duty _

theorem leaveCurve_issues {curve : TemperatureCurve}
    (hduty : ∀ duty, channel.minDuty ≤ duty → φ ⟨.duty channel, duty⟩)
    (hmode : φ ⟨.mode channel, PwmMode.fixed.toKernel⟩) :
    Issues φ (control.leaveCurve channel curve).run := by
  refine issues_run_bind (issues_run_lift (issues_mono mode_looks fun _ h => h.elim)) fun mode => ?_
  split
  · refine issues_run_lift_bind (issues_mono (transitionDuty_looks curve) fun _ h => h.elim)
      (transitionDuty_returns curve) fun duty h => ?_
    refine issues_run_bind (write_issues (hduty duty h)) fun _ => ?_
    exact issues_run_bind (write_issues hmode) fun _ => trivial
  · trivial

theorem stageCurve_issues {curve : TemperatureCurve}
    (hduty : ∀ duty, channel.minDuty ≤ duty → φ ⟨.duty channel, duty⟩)
    (hmode : φ ⟨.mode channel, PwmMode.fixed.toKernel⟩)
    (hpoint : ∀ i, φ ⟨.point channel i, curve.points.get i⟩) :
    Issues φ (control.stageCurve channel curve).run := by
  refine issues_run_bind (leaveCurve_issues hduty hmode) fun _ => ?_
  exact issues_run_bind (issues_run_forM fun i _ => write_issues (hpoint i)) fun _ => trivial

theorem snapshot_looks : Looks (control.snapshot channel) :=
  issues_bind mode_looks fun _ => issues_bind duty_looks fun _ => issues_bind curve_looks fun _ => trivial

theorem readBack_looks : Looks (control.readBack channel) :=
  issues_bind mode_looks fun _ => issues_bind duty_looks fun _ => trivial

theorem applyCurve_issues {curve : TemperatureCurve}
    (hduty : ∀ duty, channel.minDuty ≤ duty → φ ⟨.duty channel, duty⟩)
    (hfixed : φ ⟨.mode channel, PwmMode.fixed.toKernel⟩)
    (hcurve : φ ⟨.mode channel, PwmMode.curve.toKernel⟩)
    (hpoint : ∀ i, φ ⟨.point channel i, curve.points.get i⟩) :
    Issues φ (control.applyCurve channel curve).run := by
  refine issues_run_bind (stageCurve_issues hduty hfixed hpoint) fun _ => ?_
  refine issues_run_bind (write_issues hcurve) fun _ => ?_
  refine issues_run_bind (issues_run_lift (issues_mono readBack_looks fun _ h => h.elim)) fun _ => ?_
  exact issues_run_bind (issues_run_lift (issues_mono curve_looks fun _ h => h.elim)) fun _ => trivial

theorem curveHolds_looks (snapshot : ChannelSnapshot) : Looks (control.curveHolds snapshot) := by
  refine issues_bind curve_looks fun _ => ?_
  split <;> trivial

theorem confirmRestored_looks (snapshot : ChannelSnapshot) :
    Looks (control.confirmRestored snapshot) := by
  refine issues_bind ?_ fun _ => issues_bind ?_ fun _ => issues_bind ?_ fun _ => trivial
  · rw [modeHolds]
    split
    · exact issues_bind mode_looks fun _ => trivial
    · trivial
  · exact curveHolds_looks _
  · rw [dutyHolds]
    split
    · exact issues_bind duty_looks fun _ => trivial
    · trivial

theorem restoreCurve_issues {snapshot : ChannelSnapshot}
    (h : ∀ curve, snapshot.mode = some .curve → snapshot.curve = some curve →
      Issues φ (control.stageCurve snapshot.channel curve).run) :
    Issues φ (control.restoreCurve snapshot).run := by
  rw [restoreCurve]
  split
  · exact issues_run_bind (h _ ‹_› ‹_›) fun _ => trivial
  · trivial

theorem restoreDuty_issues {snapshot : ChannelSnapshot}
    (h : ∀ duty, snapshot.duty = some duty → φ ⟨.duty snapshot.channel, duty⟩) :
    Issues φ (control.restoreDuty snapshot).run := by
  rw [restoreDuty]
  split
  · refine issues_run_bind (issues_run_lift (issues_mono duty_looks fun _ h => h.elim)) fun _ => ?_
    split
    · exact write_issues (h _ ‹_›)
    · trivial
  · trivial

theorem restoreMode_issues {snapshot : ChannelSnapshot}
    (h : ∀ mode, snapshot.mode = some mode → φ ⟨.mode snapshot.channel, mode.toKernel⟩) :
    Issues φ (control.restoreMode snapshot).run := by
  rw [restoreMode]
  split
  · refine issues_run_bind (issues_run_lift (issues_mono mode_looks fun _ h => h.elim)) fun _ => ?_
    split
    · exact write_issues (h _ ‹_›)
    · trivial
  · trivial

theorem restore_issues {snapshot : ChannelSnapshot}
    (hcurve : ∀ curve, snapshot.mode = some .curve → snapshot.curve = some curve →
      Issues φ (control.stageCurve snapshot.channel curve).run)
    (hduty : ∀ duty, snapshot.duty = some duty → φ ⟨.duty snapshot.channel, duty⟩)
    (hmode : ∀ mode, snapshot.mode = some mode → φ ⟨.mode snapshot.channel, mode.toKernel⟩) :
    Issues φ (control.restore snapshot).run := by
  refine issues_run_bind (restoreCurve_issues hcurve) fun _ => ?_
  refine issues_run_bind (restoreDuty_issues hduty) fun _ => ?_
  refine issues_run_bind (restoreMode_issues hmode) fun _ => ?_
  exact issues_run_lift (issues_mono (confirmRestored_looks _) fun _ h => h.elim)

end Issues

/-! ## Every program stays on its channel -/

/-- Only attributes of one channel are written. -/
abbrev StaysOn {α : Type} (channel : Channel) (p : Hw α) : Prop :=
  Issues (fun write => write.attr.channel = some channel) p

theorem applyFixed_staysOn {duty : UInt8} : StaysOn channel (control.applyFixed channel duty).run :=
  applyFixed_issues rfl rfl

theorem stageCurve_staysOn {curve : TemperatureCurve} :
    StaysOn channel (control.stageCurve channel curve).run :=
  stageCurve_issues (fun _ _ => rfl) rfl fun _ => rfl

theorem applyCurve_staysOn {curve : TemperatureCurve} :
    StaysOn channel (control.applyCurve channel curve).run :=
  applyCurve_issues (fun _ _ => rfl) rfl rfl fun _ => rfl

theorem restore_staysOn {snapshot : ChannelSnapshot} :
    StaysOn snapshot.channel (control.restore snapshot).run :=
  restore_issues (fun _ _ _ => stageCurve_staysOn) (fun _ _ => rfl) fun _ _ => rfl

theorem wp_staysOn {α : Type} {p : Hw α} (h : StaysOn channel p) :
    wp hwmonDevice p (fun _ s' => s.state.Frame channel s'.state) s := by
  refine wp_frame h (fun t => s.state.Frame channel t) ?_ (fun _ _ _ _ ht => ht)
    (Attributes.Frame.refl _ _)
  intro write t hwrite ht a ha
  refine (Attributes.put_of_ne t write.value ?_).trans (ht a ha)
  rintro rfl
  exact ha hwrite

/-! ## What success means -/

theorem applyFixed_spec (duty : UInt8) :
    wp hwmonDevice (control.applyFixed channel duty).run (fun r s' => ∀ a, r = .ok a →
      s'.state.mode channel = some .fixed ∧ s'.state.duty channel = some duty) s := by
  refine write_step (fun _ => by simp) ?_
  refine write_step (fun _ => by simp) ?_
  refine wp_run_lift_step (wp_looks readBack_looks) ?_
  rintro readback s' ⟨hs', -⟩ a -
  rw [hs']
  refine ⟨Attributes.mode_put_mode _ _ _, ?_⟩
  rw [Seen.issued_state, Attributes.duty_put_mode]
  exact Attributes.duty_put_duty _ _ _

theorem stageCurve_spec (curve : TemperatureCurve) :
    wp hwmonDevice (control.stageCurve channel curve).run (fun r s' => ∀ n, r = .ok n →
      s'.state.Holds channel curve) s := by
  refine wp_run_step wp_true (fun _ _ _ => by simp) fun n s' _ => ?_
  rw [wp_run_bind]
  refine wp_run_forM _ _ (fun past t => ∀ i ∈ past,
      t.state.point channel i = some (curve.points.get i)) _ ?_ ?_ (by simp)
  · intro past i t _ ht
    refine wp_write (fun _ => by simp) ?_
    intro j hj
    by_cases h : j = i
    · subst h
      exact Attributes.point_put_point _ _ _ _
    · exact (Attributes.point_put_point_of_ne _ _ _ h).trans (ht j (by simpa [h] using hj))
  · intro t ht n _ i
    exact ht i (List.mem_finRange i)

theorem applyCurve_spec (curve : TemperatureCurve) :
    wp hwmonDevice (control.applyCurve channel curve).run (fun r s' => ∀ a, r = .ok a →
      s'.state.mode channel = some .curve ∧ s'.state.Holds channel curve) s := by
  refine wp_run_step (stageCurve_spec curve) (fun _ _ _ => by simp) fun n s1 h1 => ?_
  refine write_step (fun _ => by simp) ?_
  refine wp_run_lift_step (wp_looks readBack_looks) ?_
  rintro readback s2 ⟨h2, -⟩
  refine wp_run_lift_step (wp_looks curve_looks) ?_
  rintro written s3 ⟨h3, -⟩ a -
  rw [h3, h2]
  refine ⟨Attributes.mode_put_mode _ _ _, fun i => ?_⟩
  rw [Seen.issued_state, Attributes.point_put_mode]
  exact h1 n rfl i

/-! ## Restoration -/

/-- A channel runs what a snapshot captured of it. -/
structure Restored (snapshot : ChannelSnapshot) (t : Attributes) : Prop where
  mode : ∃ mode, snapshot.mode = some mode ∧ t.mode snapshot.channel = some mode
  duty : snapshot.mode = some .fixed →
    ∃ duty, snapshot.duty = some duty ∧ t.duty snapshot.channel = some duty
  curve : snapshot.mode = some .curve →
    ∃ curve, snapshot.curve = some curve ∧ t.Holds snapshot.channel curve

/-- A restoration that stages a curve leaves its points in the device. -/
def Staged (snapshot : ChannelSnapshot) (t : Attributes) : Prop :=
  snapshot.mode = some .curve → ∀ curve, snapshot.curve = some curve → t.Holds snapshot.channel curve

theorem restoreCurve_spec (snapshot : ChannelSnapshot) :
    wp hwmonDevice (control.restoreCurve snapshot).run (fun r s' => r = .ok () →
      Staged snapshot s'.state) s := by
  rw [restoreCurve]
  split
  · rename_i curve hmode hcurve
    refine wp_run_step (stageCurve_spec curve) (fun _ _ _ => by simp) ?_
    intro n s' h' _ _ c hc
    cases hcurve.symm.trans hc
    exact h' n rfl
  · rename_i hnone
    intro _ hmode curve hcurve
    exact absurd hcurve (hnone curve hmode)

theorem staged_frame {p : Transaction Unit} {snapshot : ChannelSnapshot}
    (hp : Issues (fun write => ∀ c i, write.attr ≠ .point c i) p.run) (h : Staged snapshot s.state) :
    wp hwmonDevice p.run (fun _ s' => Staged snapshot s'.state) s := by
  refine wp_frame hp (Staged snapshot) ?_ (fun _ _ _ _ ht => ht) h
  intro write t hwrite ht hmode curve hcurve i
  rw [← ht hmode curve hcurve i, Attributes.point]
  exact congrArg _ (Attributes.put_of_ne t write.value (hwrite _ _).symm)

theorem modeHolds_spec (snapshot : ChannelSnapshot) :
    wp hwmonDevice (control.modeHolds snapshot) (fun r s' => s'.state = s.state ∧ (r = true →
      ∀ mode, snapshot.mode = some mode → s.state.mode snapshot.channel = some mode)) s := by
  rw [modeHolds]
  split
  · rename_i mode hmode
    rw [wp_bind]
    refine wp_mode ⟨rfl, by simp⟩ ⟨rfl, fun hr m hm => ?_⟩
    cases hmode.symm.trans hm
    exact of_decide_eq_true hr
  · rename_i hmode
    exact ⟨rfl, fun _ m hm => by simp [hmode] at hm⟩

theorem dutyHolds_spec (snapshot : ChannelSnapshot) :
    wp hwmonDevice (control.dutyHolds snapshot) (fun r s' => s'.state = s.state ∧ (r = true →
      snapshot.mode = some .fixed → ∀ duty, snapshot.duty = some duty →
        s.state.duty snapshot.channel = some duty)) s := by
  rw [dutyHolds]
  split
  · rename_i duty _ hduty
    rw [wp_bind]
    refine wp_duty ⟨rfl, by simp⟩ ⟨rfl, fun hr _ d hd => ?_⟩
    cases hduty.symm.trans hd
    exact of_decide_eq_true hr
  · rename_i hnone
    exact ⟨rfl, fun _ hmode duty hduty => absurd hduty (hnone duty hmode)⟩

theorem confirmRestored_spec (snapshot : ChannelSnapshot) (h : Staged snapshot s.state) :
    wp hwmonDevice (control.confirmRestored snapshot) (fun r s' => r = true →
      Restored snapshot s'.state) s := by
  refine wp_step (modeHolds_spec snapshot) ?_
  rintro modeHolds s1 ⟨hs1, hmode⟩
  refine wp_step (wp_looks (curveHolds_looks snapshot)) ?_
  rintro curveHolds s2 ⟨hs2, -⟩
  refine wp_step (dutyHolds_spec snapshot) ?_
  rintro dutyHolds s3 ⟨hs3, hduty⟩ hr
  rw [hs2, hs1] at hs3 hduty
  simp only [Bool.and_eq_true] at hr
  obtain ⟨⟨⟨hbehavior, hm⟩, -⟩, hd⟩ := hr
  rw [hs3]
  -- The behavior is restorable only when what the mode needs was captured.
  rw [ChannelSnapshot.restoresBehavior] at hbehavior
  refine ⟨?_, fun hfixed => ?_, fun hcurve => ?_⟩
  · cases hsnap : snapshot.mode with
    | none => simp [hsnap] at hbehavior
    | some mode => exact ⟨mode, rfl, hmode hm mode hsnap⟩
  · rw [hfixed] at hbehavior
    obtain ⟨duty, hduty'⟩ := Option.isSome_iff_exists.mp hbehavior
    exact ⟨duty, hduty', hduty hd hfixed duty hduty'⟩
  · rw [hcurve] at hbehavior
    obtain ⟨curve, hcurve'⟩ := Option.isSome_iff_exists.mp hbehavior
    exact ⟨curve, hcurve', h hcurve curve hcurve'⟩

theorem restore_spec (snapshot : ChannelSnapshot) :
    wp hwmonDevice (control.restore snapshot).run (fun r s' => r = .ok true →
      Restored snapshot s'.state) s := by
  refine wp_run_step (restoreCurve_spec snapshot) (fun _ _ _ => by simp) fun _ s1 h1 => ?_
  refine wp_run_step (staged_frame (restoreDuty_issues fun _ _ _ _ => by simp) (h1 rfl))
    (fun _ _ _ => by simp) fun _ s2 h2 => ?_
  refine wp_run_step (staged_frame (restoreMode_issues fun _ _ _ _ => by simp) h2)
    (fun _ _ _ => by simp) fun _ s3 h3 => ?_
  rw [wp_run_lift]
  refine wp_mono (confirmRestored_spec snapshot h3) ?_
  intro r s4 h4 hr
  exact h4 (by simpa using hr)

end CoolingControl

end Kori
