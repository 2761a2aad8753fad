import Kori.Daemon.Cooling
import Kori.Faulty.Runs
import Kori.Hardware.Transactions

/-! # The committed record is sound, and a failed transaction says what it left -/

open Faulty

namespace Kori

/-- A channel of the device runs a target. -/
def Target.RunsOn (s : Attributes) (channel : Channel) : Target → Prop
  | fixed duty => s.mode channel = some .fixed ∧ s.duty channel = some duty
  | curve c => s.mode channel = some .curve ∧ s.Holds channel c

theorem Target.RunsOn.of_same {s t : Attributes} {channel : Channel} {target : Target}
    (h : target.RunsOn s channel) (hsame : s.SameChannel channel t) : target.RunsOn t channel := by
  cases target with
  | fixed duty => exact ⟨hsame.mode.trans h.1, hsame.duty.trans h.2⟩
  | curve c => exact ⟨hsame.mode.trans h.1, fun i => (hsame.point i).trans (h.2 i)⟩

namespace CoolingControl

/-- A snapshot says what was so. -/
structure Captures (snapshot : ChannelSnapshot) (s : Attributes) : Prop where
  mode : ∀ mode, snapshot.mode = some mode → s.mode snapshot.channel = some mode
  duty : ∀ duty, snapshot.duty = some duty → s.duty snapshot.channel = some duty
  curve : ∀ curve, snapshot.curve = some curve → s.Holds snapshot.channel curve

theorem Restored.sameBehavior {snapshot : ChannelSnapshot} {s t : Attributes}
    (hs : Captures snapshot s) (ht : Restored snapshot t) :
    Attributes.SameBehavior snapshot.channel s t := by
  obtain ⟨mode, hmode, htmode⟩ := ht.mode
  have hsmode := hs.mode mode hmode
  refine ⟨htmode.trans hsmode.symm, fun hfixed => ?_, fun hcurve i => ?_⟩
  · have hsnap : snapshot.mode = some .fixed := hmode.trans (hsmode.symm.trans hfixed)
    obtain ⟨duty, hduty, htduty⟩ := ht.duty hsnap
    rw [htduty, hs.duty duty hduty]
  · have hsnap : snapshot.mode = some .curve := hmode.trans (hsmode.symm.trans hcurve)
    obtain ⟨curve, hcurve, htcurve⟩ := ht.curve hsnap
    rw [htcurve i, hs.curve curve hcurve i]

theorem Restored.of_same {snapshot : ChannelSnapshot} {s t : Attributes} (h : Restored snapshot s)
    (hsame : s.SameChannel snapshot.channel t) : Restored snapshot t := by
  refine ⟨?_, fun hfixed => ?_, fun hcurve => ?_⟩
  · obtain ⟨mode, hmode, hs⟩ := h.mode
    exact ⟨mode, hmode, hsame.mode.trans hs⟩
  · obtain ⟨duty, hduty, hs⟩ := h.duty hfixed
    exact ⟨duty, hduty, hsame.duty.trans hs⟩
  · obtain ⟨c, hc, hs⟩ := h.curve hcurve
    exact ⟨c, hc, fun i => (hsame.point i).trans (hs i)⟩

theorem snapshot_spec {s : HwSeen} (control : CoolingControl) (channel : Channel) :
    wp hwmonDevice (control.snapshot channel) (fun snapshot s' => s'.state = s.state ∧
      snapshot.channel = channel ∧ Captures snapshot s.state) s := by
  unfold snapshot
  refine wp_step (M := fun mode s' => s'.state = s.state ∧
    ∀ m, mode = some m → s.state.mode channel = some m) ?_ ?_
  · exact wp_mode ⟨rfl, by simp⟩ ⟨rfl, fun _ h => h⟩
  rintro mode s1 ⟨h1, hmode⟩
  refine wp_step (M := fun duty s' => s'.state = s.state ∧
    ∀ d, duty = some d → s.state.duty channel = some d) ?_ ?_
  · refine wp_duty ⟨h1, by simp⟩ ⟨h1, fun d hd => ?_⟩
    rwa [h1] at hd
  rintro duty s2 ⟨h2, hduty⟩
  refine wp_step curve_spec ?_
  rintro curve s3 ⟨h3, hcurve⟩
  rw [h2] at h3 hcurve
  exact ⟨h3, rfl, hmode, hduty, hcurve⟩

end CoolingControl

namespace CoolingExecutor

variable {s : HwSeen} {control : CoolingControl} {channel : Channel}

/-! ## The record -/

/-- Everything the record says of a channel is what the channel runs. -/
def Sound (self : CoolingExecutor) (s : Attributes) : Prop :=
  ∀ channel target, self.committedTarget channel = some target → target.RunsOn s channel

theorem sound_of_forget (self : CoolingExecutor) (s : Attributes) : self.forget.Sound s := by
  intro channel target h
  simp [forget, committedTarget] at h

theorem sound_opened (located : Option KrakenHwmon) (s : Attributes) : (opened located).Sound s := by
  intro channel target h
  simp [opened, committedTarget] at h

theorem committedTarget_resolve (self : CoolingExecutor) (located : Option KrakenHwmon) :
    (self.resolve located).committedTarget = self.committedTarget := by
  unfold resolve
  split <;> rfl

theorem committedTarget_uncommit (self : CoolingExecutor) (channel other : Channel) :
    (self.uncommit channel).committedTarget other =
      if other = channel then none else self.committedTarget other := by
  unfold uncommit committedTarget
  by_cases h : other = channel
  · simp [h]
  · simp [h]

theorem Sound.uncommit {self : CoolingExecutor} {s : Attributes} (h : self.Sound s)
    (channel : Channel) : (self.uncommit channel).Sound s := by
  intro other target htarget
  rw [committedTarget_uncommit] at htarget
  split at htarget
  · cases htarget
  · exact h other target htarget

theorem Sound.foldl_uncommit {α : Type} {self : CoolingExecutor} {s : Attributes} (h : self.Sound s)
    (channelOf : α → Channel) (l : List α) :
    (l.foldl (fun self a => self.uncommit (channelOf a)) self).Sound s := by
  induction l generalizing self with
  | nil => exact h
  | cons a rest ih => exact ih (h.uncommit _)

theorem committed_foldl_uncommit {α : Type} (self : CoolingExecutor) (channelOf : α → Channel) (l : List α)
    (channel : Channel) :
    (l.foldl (fun self a => self.uncommit (channelOf a)) self).committed channel =
      if channel ∈ l.map channelOf then none else self.committed channel := by
  induction l generalizing self with
  | nil => simp
  | cons a rest ih =>
    rw [List.foldl_cons, ih, uncommit]
    by_cases h : channel = channelOf a
    · simp [h]
    · simp [h]

theorem wp_commit {self : CoolingExecutor} {target : Target} {Q : CoolingExecutor → HwSeen → Prop}
    (h : ∀ self', self'.committedTarget = Function.update self.committedTarget channel (some target) →
      self'.lastWrite = self.lastWrite → self'.control = self.control → Q self' s) :
    wp hwmonDevice (self.commit channel target) Q s := by
  intro atUnixMs
  refine h _ (funext fun other => ?_) rfl rfl
  unfold committedTarget
  by_cases hother : other = channel
  · subst hother
    simp
  · simp [hother]

/-! ## One channel -/

theorem write_staysOn (target : Target) :
    CoolingControl.StaysOn channel (write control channel target).run := by
  cases target with
  | fixed duty => exact CoolingControl.applyFixed_staysOn
  | curve c => exact CoolingControl.applyCurve_staysOn

theorem write_spec (target : Target) :
    wp hwmonDevice (write control channel target).run (fun r s' => s.state.Frame channel s'.state ∧
      ∀ a, r = .ok a → target.RunsOn s'.state channel) s := by
  refine wp_and (CoolingControl.wp_staysOn (write_staysOn target)) ?_
  cases target with
  | fixed duty => exact CoolingControl.applyFixed_spec duty
  | curve c => exact CoolingControl.applyCurve_spec c

theorem alreadyApplied_looks (self : CoolingExecutor) (target : Target) :
    Looks (self.alreadyApplied control channel target) := by
  unfold alreadyApplied
  split
  · trivial
  refine issues_bind mode_looks ?_
  rintro (_ | mode)
  · trivial
  dsimp only
  split
  · trivial
  refine issues_bind duty_looks fun duty => ?_
  cases target with
  | fixed expected =>
    dsimp only
    split <;> trivial
  | curve c => trivial

theorem alreadyApplied_spec (self : CoolingExecutor) (target : Target) :
    wp hwmonDevice (self.alreadyApplied control channel target) (fun r s' => s'.state = s.state ∧
      (r.isSome → self.committedTarget channel = some target)) s := by
  refine wp_mono (wp_and (wp_looks (alreadyApplied_looks self target)) ?_) fun r s' h => ⟨h.1.1, h.2⟩
  unfold alreadyApplied
  by_cases h : self.committedTarget channel = some target
  · exact wp_mono wp_true fun _ _ _ _ => h
  · rw [if_pos h]
    simp

/-! ## Restoring the channels -/

/-- What is true of a channel once its restoration was tried: the record is sound there, and either
the channel is back on its program or the record says nothing of it. -/
structure Tried (snapshot : ChannelSnapshot) (executor : CoolingExecutor) (s : Attributes)
    (proven : Prop) : Prop where
  sound : ∀ target, executor.committedTarget snapshot.channel = some target →
    target.RunsOn s snapshot.channel
  restored : CoolingControl.Restored snapshot s ∨
    (¬ proven ∧ executor.committedTarget snapshot.channel = none)

theorem restoreChannel_spec (self : CoolingExecutor) (snapshot : ChannelSnapshot) :
    wp hwmonDevice (self.restoreChannel control snapshot) (fun r s' =>
      s.state.Frame snapshot.channel s'.state ∧
      (∀ other, other ≠ snapshot.channel → r.1.committedTarget other = self.committedTarget other) ∧
      Tried snapshot r.1 s'.state (r.2 = none)) s := by
  unfold restoreChannel
  refine wp_step (wp_and (CoolingControl.wp_staysOn CoolingControl.restore_staysOn)
    (CoolingControl.restore_spec snapshot)) ?_
  have huncommit : ∀ other, other ≠ snapshot.channel →
      (self.uncommit snapshot.channel).committedTarget other = self.committedTarget other := by
    intro other hne
    rw [committedTarget_uncommit, if_neg hne]
  have hgone : (self.uncommit snapshot.channel).committedTarget snapshot.channel = none := by
    rw [committedTarget_uncommit, if_pos rfl]
  rintro (e | _ | _) s' ⟨hframe, hrestored⟩
  · exact ⟨hframe, huncommit, by simp [hgone], .inr ⟨by simp, hgone⟩⟩
  · exact ⟨hframe, huncommit, by simp [hgone], .inr ⟨by simp, hgone⟩⟩
  have hrestored := hrestored rfl
  have hcommit : ∀ (target : Target) (self' : CoolingExecutor),
      self'.committedTarget = Function.update self.committedTarget snapshot.channel (some target) →
      target.RunsOn s'.state snapshot.channel →
      (∀ other, other ≠ snapshot.channel → self'.committedTarget other = self.committedTarget other) ∧
        Tried snapshot self' s'.state True := by
    intro target self' hself hruns
    refine ⟨fun other hne => by rw [hself, Function.update_of_ne hne], fun t ht => ?_, .inl hrestored⟩
    rw [hself, Function.update_self] at ht
    cases ht
    exact hruns
  obtain ⟨mode, hmode, hsmode⟩ := hrestored.mode
  cases mode with
  | fullSpeed =>
    simp only [hmode]
    exact ⟨hframe, huncommit, by simp [hgone], .inl hrestored⟩
  | fixed =>
    obtain ⟨duty, hduty, hsduty⟩ := hrestored.duty hmode
    simp only [hmode, hduty]
    rw [wp_bind]
    refine wp_commit fun self' hself _ _ => ?_
    have h := hcommit (.fixed duty) self' hself ⟨hsmode, hsduty⟩
    exact ⟨hframe, h.1, h.2.sound, h.2.restored.imp id fun h => absurd trivial h.1⟩
  | curve =>
    obtain ⟨c, hc, hsc⟩ := hrestored.curve hmode
    simp only [hmode, hc]
    rw [wp_bind]
    refine wp_commit fun self' hself _ _ => ?_
    have h := hcommit (.curve c) self' hself ⟨hsmode, hsc⟩
    exact ⟨hframe, h.1, h.2.sound, h.2.restored.imp id fun h => absurd trivial h.1⟩

theorem Tried.of_same {snapshot : ChannelSnapshot} {e e' : CoolingExecutor} {s t : Attributes}
    {p q : Prop} (h : Tried snapshot e s p) (hsame : s.SameChannel snapshot.channel t)
    (hrecord : e'.committedTarget snapshot.channel = e.committedTarget snapshot.channel)
    (hpq : q → p) : Tried snapshot e' t q := by
  refine ⟨fun target htarget => ?_, ?_⟩
  · rw [hrecord] at htarget
    exact (h.sound target htarget).of_same hsame
  · rcases h.restored with hrestored | ⟨hp, hnone⟩
    · exact .inl (hrestored.of_same hsame)
    · exact .inr ⟨fun hq => hp (hpq hq), hrecord.trans hnone⟩

theorem restoreChannels_spec (self : CoolingExecutor) (details : List String)
    (snapshots : List ChannelSnapshot) (hnodup : (snapshots.map ChannelSnapshot.channel).Nodup) :
    wp hwmonDevice (restoreChannels control self details snapshots) (fun r s' =>
      (∀ channel, channel ∉ snapshots.map ChannelSnapshot.channel →
        s.state.SameChannel channel s'.state ∧
          r.1.committedTarget channel = self.committedTarget channel) ∧
      ∃ added, r.2 = details ++ added ∧
        ∀ snapshot ∈ snapshots, Tried snapshot r.1 s'.state (added = [])) s := by
  induction snapshots generalizing self details s with
  | nil => exact ⟨fun _ _ => ⟨fun _ _ => rfl, rfl⟩, [], by simp, by simp⟩
  | cons snapshot rest ih =>
    rw [List.map_cons, List.nodup_cons] at hnodup
    unfold restoreChannels
    refine wp_step (restoreChannel_spec self snapshot) ?_
    rintro ⟨self1, detail⟩ s1 ⟨hframe, hrecord, htried⟩
    refine wp_mono (ih self1 (details ++ detail.toList) hnodup.2) ?_
    rintro ⟨self2, details2⟩ s2 ⟨hothers, added, hadded, hrest⟩
    refine ⟨fun channel hchannel => ?_, detail.toList ++ added, by rw [hadded, List.append_assoc], ?_⟩
    · rw [List.map_cons, List.mem_cons, not_or] at hchannel
      obtain ⟨hsame, hrec⟩ := hothers channel hchannel.2
      exact ⟨(hframe.sameChannel hchannel.1).trans hsame, hrec.trans (hrecord channel hchannel.1)⟩
    · intro other hother
      rw [List.mem_cons] at hother
      rcases hother with rfl | hother
      · obtain ⟨hsame, hrec⟩ := hothers _ hnodup.1
        refine htried.of_same hsame hrec fun h => ?_
        simpa using (List.append_eq_nil_iff.mp h).1
      · exact (hrest other hother).of_same (fun _ _ => rfl) rfl fun h => (List.append_eq_nil_iff.mp h).2

/-! ## The transaction -/

/-- What a transaction that started from `s₀` answers for. -/
structure Accounts (targets : List (Channel × Target)) (s₀ : Attributes) (outcome : ApplyOutcome)
    (executor : CoolingExecutor) (s : Attributes) : Prop where
  sound : executor.Sound s
  recorded : outcome.hardware = .confirmed → ∀ x ∈ targets, executor.committedTarget x.1 = some x.2
  notApplied : outcome.hardware.isNotApplied → ∀ channel, s₀.SameBehavior channel s
  differs : outcome.hardware ≠ .confirmed → ∀ channel, ¬ s₀.SameBehavior channel s →
    outcome.hardware.isUncertain ∧ executor.committedTarget channel = none

theorem Accounts.confirmed {targets : List (Channel × Target)} {s₀ s : Attributes} {outcome : ApplyOutcome}
    {executor : CoolingExecutor} (h : Accounts targets s₀ outcome executor s) (hconfirmed : outcome.hardware = .confirmed) :
    ∀ x ∈ targets, x.2.RunsOn s x.1 := fun x hx => h.sound _ _ (h.recorded hconfirmed x hx)

theorem abort_spec {self : CoolingExecutor} {targets : List (Channel × Target)}
    {snapshots : List ChannelSnapshot} {failure : WriteFailure} {writes : Nat}
    {readback : List ChannelReadback} {s₀ : Attributes}
    (hnodup : (snapshots.map ChannelSnapshot.channel).Nodup)
    (hcover : ∀ channel, channel ∈ snapshots.map ChannelSnapshot.channel)
    (hcapture : ∀ snapshot ∈ snapshots, CoolingControl.Captures snapshot s₀) :
    wp hwmonDevice (self.abort control snapshots failure writes readback)
      (fun r s' => Accounts targets s₀ r.1 r.2 s'.state) s := by
  unfold abort
  refine wp_step (restoreChannels_spec self [] snapshots hnodup) ?_
  rintro ⟨self', details⟩ s' ⟨-, added, hadded, htried⟩
  rw [List.nil_append] at hadded
  subst hadded
  have hchannel : ∀ channel, ∃ snapshot ∈ snapshots, snapshot.channel = channel :=
    fun channel => List.mem_map.mp (hcover channel)
  have hrestored : ∀ channel, s₀.SameBehavior channel s'.state ∨
      (¬ details = [] ∧ self'.committedTarget channel = none) := by
    intro channel
    obtain ⟨snapshot, hmem, rfl⟩ := hchannel channel
    exact (htried snapshot hmem).restored.imp_left fun h => h.sameBehavior (hcapture snapshot hmem)
  refine ⟨?_, ?_, ?_, ?_⟩
  · intro channel target htarget
    obtain ⟨snapshot, hmem, rfl⟩ := hchannel channel
    exact (htried snapshot hmem).sound target htarget
  · intro h
    dsimp only at h
    split at h <;> cases h
  · intro h channel
    dsimp only at h
    split at h
    · exact (hrestored channel).resolve_right fun h' => h'.1 ‹_›
    · cases h
  · intro _ channel hdiffers
    obtain ⟨hdetails, hnone⟩ := (hrestored channel).resolve_left hdiffers
    exact ⟨by simp [hdetails, HardwareState.isUncertain], hnone⟩

theorem settle_spec {self : CoolingExecutor} {targets : List (Channel × Target)} {writes : Nat}
    {readback : List ChannelReadback} {s₀ s : Attributes} (hsound : self.Sound s)
    (hcover : ∀ channel, channel ∈ targets.map Prod.fst)
    (hrecorded : ∀ x ∈ targets, self.committedTarget x.1 = some x.2) :
    Accounts targets s₀ (self.settle targets writes readback).1
      (self.settle targets writes readback).2 s := by
  unfold settle
  dsimp only
  split
  · exact ⟨hsound, fun _ => hrecorded, by simp [HardwareState.isNotApplied], by simp⟩
  · refine ⟨hsound.foldl_uncommit _ _, by simp, by simp [HardwareState.isNotApplied], ?_⟩
    intro _ channel _
    refine ⟨rfl, ?_⟩
    rw [committedTarget, committed_foldl_uncommit, if_pos (hcover channel)]
    rfl

theorem writeChannels_spec {targets : List (Channel × Target)} {snapshots : List ChannelSnapshot}
    {now : Instant} {s₀ : Attributes}
    (hnodup : (snapshots.map ChannelSnapshot.channel).Nodup)
    (hcover : ∀ channel, channel ∈ snapshots.map ChannelSnapshot.channel)
    (hcapture : ∀ snapshot ∈ snapshots, CoolingControl.Captures snapshot s₀)
    (htargets : ∀ channel, channel ∈ targets.map Prod.fst)
    (rest : List ((Channel × Target) × Option ChannelReadback)) (self : CoolingExecutor)
    (writes : Nat) (readback : List ChannelReadback) (hsound : self.Sound s.state)
    (hrest : (rest.map fun x => x.1.1).Nodup)
    (hsettled : ∀ x ∈ rest, x.2.isSome → self.committedTarget x.1.1 = some x.1.2)
    (hdone : ∀ x ∈ targets, x ∈ rest.map Prod.fst ∨
      (x.1 ∉ rest.map fun x => x.1.1) ∧ self.committedTarget x.1 = some x.2) :
    wp hwmonDevice (writeChannels control now targets snapshots self writes readback rest)
      (fun r s' => Accounts targets s₀ r.1 r.2 s'.state) s := by
  induction rest generalizing self writes readback s with
  | nil =>
    refine settle_spec hsound htargets fun x hx => ?_
    simpa using hdone x hx
  | cons x rest ih =>
    obtain ⟨⟨channel, target⟩, settled⟩ := x
    simp only [List.map_cons, List.nodup_cons] at hrest
    have hdone' : ∀ self' : CoolingExecutor, self'.committedTarget channel = some target →
        (∀ other, other ≠ channel → self'.committedTarget other = self.committedTarget other) →
        ∀ x ∈ targets, x ∈ rest.map Prod.fst ∨
          (x.1 ∉ rest.map fun x => x.1.1) ∧ self'.committedTarget x.1 = some x.2 := by
      intro self' hown hother x hx
      have hx' := hdone x hx
      simp only [List.map_cons, List.mem_cons, not_or] at hx'
      rcases hx' with (rfl | hx') | ⟨⟨hne, hx'⟩, hrecorded⟩
      · exact .inr ⟨hrest.1, hown⟩
      · exact .inl hx'
      · exact .inr ⟨hx', (hother x.1 hne).trans hrecorded⟩
    cases settled with
    | some current =>
      unfold writeChannels
      have hown := hsettled ((channel, target), some current) (by simp) rfl
      exact ih self writes _ hsound hrest.2 (fun x hx => hsettled x (by simp [hx])) (hdone' self hown fun _ _ => rfl)
    | none =>
      unfold writeChannels
      refine wp_step (write_spec target) ?_
      rintro (failure | applied) s1 ⟨hframe, hwritten⟩
      · exact abort_spec hnodup hcover hcapture
      have hruns : target.RunsOn s1.state channel := hwritten applied rfl
      dsimp only
      rw [wp_bind]
      refine wp_commit fun self' hself _ _ => ?_
      have hother : ∀ other, other ≠ channel →
          self'.committedTarget other = self.committedTarget other := by
        intro other hne
        rw [hself, Function.update_of_ne hne]
        rfl
      refine ih self' _ _ ?_ hrest.2 ?_ (hdone' self' (by rw [hself, Function.update_self]) hother)
      · intro other t ht
        by_cases hne : other = channel
        · subst hne
          rw [hself, Function.update_self] at ht
          cases ht
          exact hruns
        · rw [hother other hne] at ht
          exact (hsound other t ht).of_same (hframe.sameChannel hne)
      · intro x hx hsome
        rw [hother]
        · exact hsettled x (by simp [hx]) hsome
        · rintro rfl
          exact hrest.1 (List.mem_map.mpr ⟨x, hx, rfl⟩)

theorem captures_withCurve {snapshot : ChannelSnapshot} {s : Attributes}
    {curve : Option TemperatureCurve} (h : CoolingControl.Captures snapshot s)
    (hcurve : ∀ c, curve = some c → s.Holds snapshot.channel c) :
    CoolingControl.Captures (snapshot.withCurve curve) s := by
  unfold ChannelSnapshot.withCurve
  split
  · exact ⟨h.mode, h.duty, hcurve⟩
  · exact h

theorem withCurve_channel (snapshot : ChannelSnapshot) (curve : Option TemperatureCurve) :
    (snapshot.withCurve curve).channel = snapshot.channel := by
  unfold ChannelSnapshot.withCurve
  split <;> rfl

theorem Sound.holds {self : CoolingExecutor} {s : Attributes} (h : self.Sound s) {c : TemperatureCurve}
    (hc : self.committedCurve channel = some c) : s.Holds channel c := by
  unfold committedCurve at hc
  split at hc
  · rename_i hcommitted
    cases hc
    have hruns : Target.RunsOn s channel (.curve c) := h channel (.curve c) hcommitted
    exact hruns.2
  · cases hc

theorem snapshots_spec {self : CoolingExecutor} (targets : List (Channel × Target))
    (hsound : self.Sound s.state) :
    wp hwmonDevice (self.snapshots control targets) (fun snapshots s' => s'.state = s.state ∧
      snapshots.map ChannelSnapshot.channel = targets.map Prod.fst ∧
      ∀ snapshot ∈ snapshots, CoolingControl.Captures snapshot s.state) s := by
  induction targets generalizing s with
  | nil => exact ⟨rfl, rfl, by simp⟩
  | cons x rest ih =>
    obtain ⟨channel, target⟩ := x
    unfold snapshots
    refine wp_step (CoolingControl.snapshot_spec control channel) ?_
    rintro snapshot s1 ⟨h1, hchannel, hcapture⟩
    refine wp_step (ih (by rwa [h1])) ?_
    rintro others s2 ⟨h2, hchannels, hcaptures⟩
    rw [h1] at h2 hcaptures
    refine ⟨h2, ?_, ?_⟩
    · rw [List.map_cons, withCurve_channel, hchannel, hchannels]
      rfl
    · intro snapshot' hmem
      rw [List.mem_cons] at hmem
      rcases hmem with rfl | hmem
      · refine captures_withCurve hcapture fun c hc => ?_
        rw [hchannel]
        exact hsound.holds hc
      · exact hcaptures snapshot' hmem

theorem settledChannels_spec {self : CoolingExecutor} (targets : List (Channel × Target)) :
    wp hwmonDevice (self.settledChannels control targets) (fun settled s' => s'.state = s.state ∧
      settled.length = targets.length ∧
      ∀ x ∈ targets.zip settled, x.2.isSome → self.committedTarget x.1.1 = some x.1.2) s := by
  induction targets generalizing s with
  | nil => exact ⟨rfl, rfl, by simp⟩
  | cons x rest ih =>
    obtain ⟨channel, target⟩ := x
    unfold settledChannels
    refine wp_step (alreadyApplied_spec self target) ?_
    rintro current s1 ⟨h1, hcurrent⟩
    refine wp_step ih ?_
    rintro others s2 ⟨h2, hlength, hothers⟩
    refine ⟨h2.trans h1, by simp [hlength], ?_⟩
    intro x hx
    rw [List.zip_cons_cons, List.mem_cons] at hx
    rcases hx with rfl | hx
    · exact hcurrent
    · exact hothers x hx

theorem accounts_untouched {self : CoolingExecutor} {targets : List (Channel × Target)}
    {hardware : HardwareState} {s : Attributes} (hsound : self.Sound s)
    (hne : hardware ≠ .confirmed) : Accounts targets s (.untouched hardware) self s :=
  ⟨hsound, fun h => absurd h hne, fun _ channel => .refl channel s,
    fun _ channel h => absurd (.refl channel s) h⟩

theorem refuseForCadence_eq {self : CoolingExecutor} {now : Instant}
    {settled : List (Option ChannelReadback)} {refusal : ApplyOutcome}
    (h : self.refuseForCadence now settled = some refusal) :
    ∃ elapsed, refusal = cadenceRefusal elapsed := by
  unfold refuseForCadence at h
  split at h
  · cases h
  split at h
  · cases h
  dsimp only at h
  split at h
  · cases h
  · exact ⟨_, (Option.some.inj h).symm⟩

theorem refuseForCadence_of_settled {self : CoolingExecutor} {now : Instant}
    {settled : List (Option ChannelReadback)} (h : none ∉ settled) : self.refuseForCadence now settled = none := by
  have hall : settled.all Option.isSome = true := by
    rw [List.all_eq_true]
    intro r hr
    exact Option.isSome_iff_ne_none.mpr fun hnone => h (hnone ▸ hr)
  rw [refuseForCadence, if_pos hall]

section Zip

variable {targets : List (Channel × Target)} {settled : List (Option ChannelReadback)}

theorem zip_channels (h : settled.length = targets.length) :
    ((targets.zip settled).map fun x => x.1.1) = targets.map Prod.fst := by
  have hfst : (targets.zip settled).map Prod.fst = targets := List.map_fst_zip (by omega)
  calc (targets.zip settled).map (fun x => x.1.1)
      = ((targets.zip settled).map Prod.fst).map Prod.fst := by rw [List.map_map]; rfl
    _ = targets.map Prod.fst := by rw [hfst]

theorem exists_left_of_zip (h : settled.length = targets.length) (hnone : none ∈ settled) :
    ∃ x ∈ targets.zip settled, x.2 = none := by
  have hsnd : (targets.zip settled).map Prod.snd = settled := List.map_snd_zip (by omega)
  rw [← hsnd, List.mem_map] at hnone
  exact hnone

end Zip

theorem transact_spec {self : CoolingExecutor} {now : Instant} {targets : List (Channel × Target)}
    (hnodup : (targets.map Prod.fst).Nodup) (hcover : ∀ channel, channel ∈ targets.map Prod.fst)
    (hsound : self.Sound s.state) :
    wp hwmonDevice (self.transact control now targets)
      (fun r s' => Accounts targets s.state r.1 r.2 s'.state) s := by
  unfold transact
  refine wp_step (snapshots_spec targets hsound) ?_
  rintro snapshots s1 ⟨h1, hchannels, hcapture⟩
  refine wp_step (settledChannels_spec targets) ?_
  rintro settled s2 ⟨h2, hlength, hsettled⟩
  have hs2 : s2.state = s.state := h2.trans h1
  rw [← hs2] at hsound
  cases hrefuse : self.refuseForCadence now settled with
  | some refusal =>
    obtain ⟨elapsed, rfl⟩ := refuseForCadence_eq hrefuse
    rw [← hs2]
    exact accounts_untouched hsound (by simp)
  | none =>
    refine writeChannels_spec (by rwa [hchannels]) (by rwa [hchannels]) hcapture hcover _ self 0 []
      hsound (by rwa [zip_channels hlength]) hsettled fun x hx => ?_
    rw [List.map_fst_zip (by omega)]
    exact .inl hx

theorem targets_channels {program : CoolingProgram} {targets : List (Channel × Target)}
    (h : program.targets = some targets) : targets.map Prod.fst = [.pump, .fan] := by
  cases program <;> cases h <;> rfl

theorem Sound.resolve {self : CoolingExecutor} {s : Attributes} (h : self.Sound s) (located : Option KrakenHwmon) :
    (self.resolve located).Sound s := by
  intro channel target htarget
  rw [committedTarget_resolve] at htarget
  exact h channel target htarget

theorem apply_spec {self : CoolingExecutor} (located : Option KrakenHwmon) (now : Instant)
    (program : CoolingProgram) (hsound : self.Sound s.state) :
    wp hwmonDevice (self.apply located now program)
      (fun r s' => Accounts (program.targets.getD []) s.state r.1 r.2 s'.state) s := by
  unfold apply
  cases htargets : program.targets with
  | none => exact accounts_untouched hsound (by simp)
  | some targets =>
    have hchannels := targets_channels htargets
    have hsound' := hsound.resolve located
    dsimp only [Option.getD_some]
    cases (self.resolve located).control with
    | none => exact accounts_untouched hsound' (by simp)
    | some control =>
      refine transact_spec ?_ (fun channel => ?_) hsound'
      · rw [hchannels]
        decide
      · rw [hchannels]
        cases channel <;> decide

theorem Sound.verifyCurves {self : CoolingExecutor} {s : Attributes} (h : self.Sound s)
    (kraken : KrakenTelemetry) (nowUnixMs : Nat) : (self.verifyCurves kraken nowUnixMs).2.Sound s := by
  unfold CoolingExecutor.verifyCurves
  split
  · exact h
  · exact h.foldl_uncommit _ _

end CoolingExecutor

end Kori
