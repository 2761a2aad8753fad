import Kori.Hardware.Transactions

/-! # No curve point is written into a channel that is running a curve -/

open Faulty

namespace Kori

/-- A point attribute took a value while its channel was in curve mode, which costs the firmware a
transfer of the whole curve. -/
def PointIntoCurve : HwEvent → Prop
  | .issued write true met _ => ∃ channel i, write.attr = .point channel i ∧
      met.mode channel = some .curve
  | _ => False

/-- No event of a log is such a write. -/
def NoBurst (log : List HwEvent) : Prop := ∀ e ∈ log, ¬ PointIntoCurve e

namespace CoolingControl

variable {s : HwSeen} (control : CoolingControl) (channel : Channel) (curve : TemperatureCurve)

theorem wp_no_point {α : Type} {p : Hw α}
    (hp : Issues (fun write => ∀ c i, write.attr ≠ .point c i) p) :
    wp hwmonDevice p (fun _ s' => s.Adds (fun e => ¬ PointIntoCurve e) s') s := by
  refine wp_mono (wp_events hp (fun _ => True) _ (fun _ _ => id) ?_ (fun _ _ _ _ _ => ⟨trivial, id⟩)
    trivial) fun _ _ h => h.2
  exact fun write t hwrite _ => ⟨trivial, fun ⟨c, i, hattr, _⟩ => hwrite c i hattr⟩

theorem points_no_burst (l : List (Fin CURVE_POINT_COUNT)) (h : s.state.mode channel ≠ some .curve) :
    wp hwmonDevice (l.forM fun i => control.write (.point channel i) (curve.points.get i)).run
      (fun _ s' => s.Adds (fun e => ¬ PointIntoCurve e) s') s := by
  refine wp_run_forM l _ (fun _ t => t.state.mode channel ≠ some .curve ∧
    s.Adds (fun e => ¬ PointIntoCurve e) t) _ ?_ (fun _ ht => ht.2) ⟨h, .refl⟩
  intro past i t _ ⟨ht, hadds⟩
  refine wp_write (fun _ => hadds.trans (Seen.adds_issued id)) ⟨?_, hadds.trans (Seen.adds_issued ?_)⟩
  · rwa [Seen.issued_state, Attributes.mode_put_point]
  · rintro ⟨c, j, hattr, hc⟩
    cases hattr
    exact ht hc

theorem leave_spec :
    wp hwmonDevice (do
        let holding ← control.transitionDuty channel curve
        control.write (.duty channel) holding
        control.write (.mode channel) PwmMode.fixed.toKernel
        return 2 : Transaction Nat).run
      (fun r s' => s.Adds (fun e => ¬ PointIntoCurve e) s' ∧ ∀ n, r = .ok n →
        s'.state.mode channel ≠ some .curve) s := by
  refine wp_and (wp_no_point ?_) ?_
  · refine issues_run_lift_bind (issues_mono (transitionDuty_looks curve) fun _ h => h.elim)
      (transitionDuty_returns curve) fun duty _ => ?_
    refine issues_run_bind (write_issues (by simp)) fun _ => ?_
    exact issues_run_bind (write_issues (by simp)) fun _ => trivial
  · refine wp_run_lift_step wp_true fun holding s1 _ => ?_
    refine write_step (fun _ => by simp) ?_
    refine write_step (fun _ => by simp) fun n _ => ?_
    rw [Seen.issued_state, Attributes.mode_put_mode]
    simp

theorem leaveCurve_run (w : HwWorld)
    (h : w.state.mode channel ≠ some .curve ∨ w.faults 0 = none) :
    let r := (control.leaveCurve channel curve).run.run hwmonDevice w
    w.toSeen.Adds (fun e => ¬ PointIntoCurve e) r.2.toSeen ∧
      ∀ n, r.1 = .ok n → r.2.state.mode channel ≠ some .curve := by
  simp only [leaveCurve]
  rw [run_run_lift_bind, run_mode]
  cases hfault : w.faults 0 with
  | none =>
    by_cases hmode : w.state.mode channel = some .curve
    · simp only [hmode, if_true]
      have := wp_run (w.spent (w.noted (.mode channel) (some (w.state (.mode channel)))))
        (leave_spec control channel curve)
      exact ⟨(Seen.adds_noted id).trans this.1, this.2⟩
    · simp only [hmode, if_false]
      exact ⟨Seen.adds_noted id, fun _ _ => hmode⟩
  | some f =>
    have hmode : w.state.mode channel ≠ some .curve := by simpa [hfault] using h
    exact ⟨Seen.adds_noted id, fun _ _ => hmode⟩

theorem run_no_point {α : Type} {p : Hw α} (w : HwWorld)
    (hp : Issues (fun write => ∀ c i, write.attr ≠ .point c i) p) :
    w.toSeen.Adds (fun e => ¬ PointIntoCurve e) (p.run hwmonDevice w).2.toSeen :=
  wp_run w (wp_no_point hp)

theorem stageCurve_no_burst (w : HwWorld)
    (h : w.state.mode channel ≠ some .curve ∨ w.faults 0 = none) :
    w.toSeen.Adds (fun e => ¬ PointIntoCurve e)
      ((control.stageCurve channel curve).run.run hwmonDevice w).2.toSeen := by
  have hleave := leaveCurve_run control channel curve w h
  refine run_adds_bind hleave.1 fun n w' hr => ?_
  rw [hr] at hleave
  exact run_adds_bind (wp_run w' (points_no_burst control channel curve _ (hleave.2 n rfl))) fun _ _ _ => .refl

theorem applyCurve_no_burst (w : HwWorld)
    (h : w.state.mode channel ≠ some .curve ∨ w.faults 0 = none) :
    w.toSeen.Adds (fun e => ¬ PointIntoCurve e)
      ((control.applyCurve channel curve).run.run hwmonDevice w).2.toSeen := by
  refine run_adds_bind (stageCurve_no_burst control channel curve w h) fun n w' _ => run_no_point w' ?_
  refine issues_run_bind (write_issues (by simp)) fun _ => ?_
  refine issues_run_bind (issues_run_lift (issues_mono readBack_looks fun _ h => h.elim)) fun _ => ?_
  exact issues_run_bind (issues_run_lift (issues_mono curve_looks fun _ h => h.elim)) fun _ => trivial

/-! ## A running curve whose mode does not read -/

theorem points_run_in_curve (i : Fin CURVE_POINT_COUNT) (rest : List (Fin CURVE_POINT_COUNT))
    (w : HwWorld) (hmode : w.state.mode channel = some .curve) :
    let r := ((i :: rest).forM fun i => control.write (.point channel i) (curve.points.get i)).run.run
      hwmonDevice w
    (w.faults 0 = none → ∃ e ∈ r.2.log, PointIntoCurve e) ∧
      (w.faults 0 ≠ none → (∃ failure, r.1 = .error failure) ∧
        w.toSeen.Adds (fun e => ¬ PointIntoCurve e) r.2.toSeen) := by
  intro r
  have hr : r = (control.write (.point channel i) (curve.points.get i) >>= fun _ =>
    rest.forM fun i => control.write (.point channel i) (curve.points.get i)).run.run hwmonDevice w := rfl
  rw [run_run_bind, run_write] at hr
  cases hfault : w.faults 0 with
  | none =>
    rw [hfault] at hr
    refine ⟨fun _ => ?_, by simp⟩
    refine ⟨.issued ⟨.point channel i, curve.points.get i⟩ true w.state
      (w.state.put (.point channel i) (curve.points.get i)), ?_, channel, i, rfl, hmode⟩
    rw [hr]
    exact (run_log_grows _).subset (by simp)
  | some f =>
    rw [hfault] at hr
    rw [hr]
    exact ⟨by simp, fun _ => ⟨⟨_, rfl⟩, Seen.adds_issued id⟩⟩

/-- A transaction on a running curve whose mode does not read: it either bursts or stops at the
first point. -/
def BurstsOrStops {α : Type} (x : Transaction α) (w : HwWorld) : Prop :=
  (w.faults 1 = none → ∃ e ∈ (x.run.run hwmonDevice w).2.log, PointIntoCurve e) ∧
    (w.faults 1 ≠ none → (∃ failure, (x.run.run hwmonDevice w).1 = .error failure) ∧
      w.toSeen.Adds (fun e => ¬ PointIntoCurve e) (x.run.run hwmonDevice w).2.toSeen)

theorem BurstsOrStops.bind {α β : Type} {x : Transaction α} {w : HwWorld} (h : BurstsOrStops x w)
    (f : α → Transaction β) : BurstsOrStops (x >>= f) w := by
  rw [BurstsOrStops, run_run_bind]
  obtain ⟨hland, hfail⟩ := h
  rcases hr : x.run.run hwmonDevice w with ⟨e | a, w'⟩
  · rw [hr] at hland hfail
    exact ⟨hland, fun h1 => ⟨⟨e, rfl⟩, (hfail h1).2⟩⟩
  · rw [hr] at hland hfail
    refine ⟨fun h1 => ?_, fun h1 => ?_⟩
    · obtain ⟨e, he, hP⟩ := hland h1
      exact ⟨e, (run_log_grows w').subset he, hP⟩
    · obtain ⟨⟨failure, hr⟩, -⟩ := hfail h1
      cases hr

theorem stageCurve_run_blind (w : HwWorld) (hmode : w.state.mode channel = some .curve)
    (h0 : w.faults 0 ≠ none) : BurstsOrStops (control.stageCurve channel curve) w := by
  obtain ⟨f, hf⟩ := Option.ne_none_iff_exists'.mp h0
  have hleave : (control.leaveCurve channel curve).run.run hwmonDevice w =
      (.ok 0, w.spent (w.noted (.mode channel) none)) := by
    rw [leaveCurve, run_run_lift_bind, run_mode, hf]
    rfl
  obtain ⟨i, rest, hrange⟩ : ∃ i rest, List.finRange CURVE_POINT_COUNT = i :: rest :=
    List.exists_cons_of_ne_nil (by simp [CURVE_POINT_COUNT])
  have hpoints := points_run_in_curve control channel curve i rest
    (w.spent (w.noted (.mode channel) none)) hmode
  have hnoted : w.toSeen.Adds (fun e => ¬ PointIntoCurve e) (w.noted (.mode channel) none) :=
    Seen.adds_noted id
  simp only [stageCurve, hrange]
  rw [BurstsOrStops, run_run_bind, hleave]
  simp only [run_run_bind]
  generalize (((i :: rest).forM fun i => control.write (.point channel i)
    (curve.points.get i)).run.run hwmonDevice (w.spent (w.noted (.mode channel) none))) = r at hpoints ⊢
  obtain ⟨hland, hfail⟩ := hpoints
  rcases r with ⟨e | a, w'⟩
  · exact ⟨hland, fun h1 => ⟨⟨e, rfl⟩, hnoted.trans (hfail h1).2⟩⟩
  · refine ⟨hland, fun h1 => ?_⟩
    obtain ⟨⟨failure, hr⟩, -⟩ := hfail h1
    cases hr

/-! ## The traces of `applyCurve` and of `restore` -/

/-- When the points of a channel go in without a burst, from the state and the faults the
transaction meets: the channel is not running a curve, or its mode reads, or the first point does
not land. -/
def Stageable (channel : Channel) (w : HwWorld) : Prop :=
  w.state.mode channel ≠ some .curve ∨ w.faults 0 = none ∨ w.faults 1 ≠ none

instance (channel : Channel) (w : HwWorld) : Decidable (Stageable channel w) :=
  inferInstanceAs (Decidable (_ ∨ _ ∨ _))

theorem noBurst_iff_stageable {α : Type} {x : Transaction α} {channel : Channel} {w : HwWorld}
    (hread : w.state.mode channel ≠ some .curve ∨ w.faults 0 = none →
      w.fresh.toSeen.Adds (fun e => ¬ PointIntoCurve e) (x.run.run hwmonDevice w.fresh).2.toSeen)
    (hblind : w.state.mode channel = some .curve → w.faults 0 ≠ none → BurstsOrStops x w.fresh) :
    NoBurst (x.run.run hwmonDevice w.fresh).2.log ↔ Stageable channel w := by
  by_cases h : w.state.mode channel ≠ some .curve ∨ w.faults 0 = none
  · exact ⟨fun _ => h.elim .inl fun h0 => .inr (.inl h0), fun _ => (hread h).log (by simp)⟩
  · rw [not_or, not_not] at h
    obtain ⟨hland, hfail⟩ := hblind h.1 h.2
    constructor
    · intro hno
      by_contra hstage
      simp only [Stageable, not_or, not_not] at hstage
      obtain ⟨e, he, hP⟩ := hland hstage.2.2
      exact hno e he hP
    · rintro (hmode | h0 | h1)
      · exact absurd h.1 hmode
      · exact absurd h0 h.2
      · exact (hfail h1).2.log (by simp)

theorem restore_rest_no_point (snapshot : ChannelSnapshot) :
    Issues (fun write => ∀ c i, write.attr ≠ .point c i) (do
      control.restoreDuty snapshot
      control.restoreMode snapshot
      control.confirmRestored snapshot : Transaction Bool).run := by
  refine issues_run_bind (restoreDuty_issues fun _ _ _ _ => by simp) fun _ => ?_
  refine issues_run_bind (restoreMode_issues fun _ _ _ _ => by simp) fun _ => ?_
  exact issues_run_lift (issues_mono (confirmRestored_looks _) fun _ h => h.elim)

end CoolingControl

/-- Whether a snapshot's restoration stages a curve. -/
def ChannelSnapshot.stagesCurve (snapshot : ChannelSnapshot) : Prop :=
  snapshot.mode = some .curve ∧ snapshot.curve ≠ none

open CoolingControl in
/-- No point lands in a channel that is running a curve, exactly when the channel is `Stageable` or
the restoration stages none. -/
theorem no_point_into_curve_iff (control : CoolingControl) :
    (∀ (channel : Channel) (curve : TemperatureCurve) (w : HwWorld),
      NoBurst ((control.applyCurve channel curve).run.run hwmonDevice w.fresh).2.log ↔
        Stageable channel w) ∧
    (∀ (snapshot : ChannelSnapshot) (w : HwWorld),
      NoBurst ((control.restore snapshot).run.run hwmonDevice w.fresh).2.log ↔
        ¬ snapshot.stagesCurve ∨ Stageable snapshot.channel w) := by
  refine ⟨fun channel curve w => ?_, fun snapshot w => ?_⟩
  · refine noBurst_iff_stageable (applyCurve_no_burst control channel curve w.fresh) fun hmode h0 => ?_
    exact (stageCurve_run_blind control channel curve w.fresh hmode h0).bind _
  by_cases hstages : snapshot.stagesCurve
  · obtain ⟨hmode, hne⟩ := hstages
    obtain ⟨curve, hcurve⟩ := Option.ne_none_iff_exists'.mp hne
    have hrestore : control.restoreCurve snapshot =
        (control.stageCurve snapshot.channel curve >>= fun _ => pure ()) := by
      rw [restoreCurve, hmode, hcurve]
      rfl
    rw [or_iff_right (not_not_intro ⟨hmode, hne⟩), restore, hrestore]
    refine noBurst_iff_stageable (fun h => ?_) fun hcurving h0 => ?_
    · refine run_adds_bind ?_ fun _ w' _ => run_no_point w' (restore_rest_no_point control snapshot)
      exact run_adds_bind (stageCurve_no_burst control _ curve w.fresh h) fun _ _ _ => .refl
    · exact ((stageCurve_run_blind control _ curve w.fresh hcurving h0).bind _).bind _
  · have hrestore : control.restoreCurve snapshot = pure () := by
      rw [restoreCurve]
      split
      · exact absurd ⟨‹_›, by simp [*]⟩ hstages
      · rfl
    refine iff_of_true ?_ (.inl hstages)
    refine Seen.Adds.log (run_no_point w.fresh ?_) (by simp)
    rw [restore, hrestore]
    exact issues_run_bind trivial fun _ => restore_rest_no_point control snapshot

/-- The pump runs a curve, the read of its mode fails, and its first point lands in curve mode. -/
theorem point_into_running_curve : ∃ (control : CoolingControl) (curve : TemperatureCurve) (w : HwWorld),
    ¬ NoBurst ((control.applyCurve .pump curve).run.run hwmonDevice w.fresh).2.log := by
  refine ⟨⟨⟨"/sys/class/hwmon/hwmon4"⟩⟩, .flat 128,
    { state := fun a => .text (if a = .mode .pump then ['2'] else ['8', '0']), log := [],
      faults := fun n => if n = 0 then some ⟨.other, "EIO"⟩ else none, times := fun _ => 0 }, ?_⟩
  intro hno
  refine hno (.issued ⟨.point .pump ⟨0, by decide⟩, 128⟩ true _ _) (List.mem_of_getElem? (i := 1) rfl) ?_
  exact ⟨.pump, ⟨0, by decide⟩, rfl, by decide +kernel⟩

end Kori
