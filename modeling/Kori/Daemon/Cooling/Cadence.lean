import Kori.Daemon.Cooling.Runs

/-! # The firmware is given its interval between programs -/

open Faulty

namespace Kori

/-! ## What a call did and read -/

/-- Something was written, or tried. -/
def Attempted (log : List HwEvent) : Prop := ∃ e ∈ log, e.isIssued = true

/-- From `s` to `t` nothing was written or tried. -/
abbrev Quiet (s t : HwSeen) : Prop := s.Adds (fun e => e.isIssued = false) t

theorem Quiet.not_attempted {s t : HwSeen} (h : Quiet s t) (hs : s.log = []) : ¬ Attempted t.log := by
  rintro ⟨e, he, hissued⟩
  have hno := h.log (by simp [hs]) e he
  simp [hno] at hissued

def answerTo (a : Attribute) : HwEvent → Option (Option Contents)
  | .looked q answer => if q = a then some answer else none
  | .issued .. => none

/-- The answers to the reads of one attribute, oldest first. -/
def answersTo (log : List HwEvent) (a : Attribute) : List (Option Contents) := log.filterMap (answerTo a)

/-- What a program reads back of an attribute. The first read is the snapshot's, the second is made
to tell whether the channel already holds its target. -/
def readbackOf (log : List HwEvent) (a : Attribute) : Option Contents := ((answersTo log a)[1]?).join

def readbackMode (log : List HwEvent) (channel : Channel) : Option PwmMode :=
  ((readbackOf log (.mode channel)).bind (Contents.parsed Text.parseU8)).bind PwmMode.fromKernel

def readbackDuty (log : List HwEvent) (channel : Channel) : Option UInt8 :=
  (readbackOf log (.duty channel)).bind (Contents.parsed Text.parseU8)

/-- A channel reads back as being on a target. -/
def Target.ReadsBack (log : List HwEvent) (channel : Channel) : Target → Prop
  | fixed duty => readbackMode log channel = some .fixed ∧ readbackDuty log channel = some duty
  | curve _ => readbackMode log channel = some .curve

theorem Target.ReadsBack.mode {log : List HwEvent} {channel : Channel} {target : Target}
    (h : target.ReadsBack log channel) : readbackMode log channel = some target.mode := by
  cases target with
  | fixed duty => exact h.1
  | curve c => exact h

@[simp] theorem answersTo_nil (a : Attribute) : answersTo [] a = [] := rfl

@[simp] theorem answersTo_append (log log' : List HwEvent) (a : Attribute) :
    answersTo (log ++ log') a = answersTo log a ++ answersTo log' a := List.filterMap_append

@[simp] theorem answersTo_looked (q a : Attribute) (answer : Option Contents) (rest : List HwEvent) :
    answersTo (.looked q answer :: rest) a =
      if q = a then answer :: answersTo rest a else answersTo rest a := by
  unfold answersTo
  by_cases h : q = a <;> simp [answerTo, h]

theorem readbackOf_eq {log log' : List HwEvent} {a : Attribute} {answer : Option Contents}
    (h : log <+: log') (hone : ∃ first, answersTo log a = [first, answer]) :
    readbackOf log' a = answer := by
  obtain ⟨rest, rfl⟩ := h
  obtain ⟨first, hfirst⟩ := hone
  rw [readbackOf, answersTo_append, hfirst]
  rfl

namespace CoolingExecutor

variable {s : HwSeen} {control : CoolingControl} {channel : Channel}

/-! ## Which reads are which -/

theorem curveFrom_answers (rest : List (Fin CURVE_POINT_COUNT))
    (points : Vector UInt8 CURVE_POINT_COUNT) {a : Attribute} (ha : ∀ c i, a ≠ .point c i) :
    wp hwmonDevice (KrakenHwmon.curveFrom channel rest points)
      (fun _ s' => answersTo s'.log a = answersTo s.log a) s := by
  induction rest generalizing points s with
  | nil => rfl
  | cons index rest ih =>
    rw [KrakenHwmon.curveFrom, wp_bind]
    have hne : Attribute.point channel index ≠ a := (ha channel index).symm
    refine wp_readParsed (by simp [hne]) ?_
    cases (s.state (.point channel index)).parsed Text.parseU8 with
    | none => simp [hne]
    | some value =>
      refine wp_mono (ih (s := s.noted _ _) _) fun _ s' h => ?_
      rw [h]
      simp [hne]

theorem snapshot_answers (c : Channel) :
    wp hwmonDevice (control.snapshot channel) (fun _ s' =>
      (answersTo s'.log (.mode c)).length =
        (answersTo s.log (.mode c)).length + [channel].count c ∧
      (answersTo s'.log (.duty c)).length =
        (answersTo s.log (.duty c)).length + [channel].count c) s := by
  unfold CoolingControl.snapshot
  have hcurve : ∀ t : HwSeen, wp hwmonDevice (control.hwmon.curve channel) (fun _ s' =>
      answersTo s'.log (.mode c) = answersTo t.log (.mode c) ∧
      answersTo s'.log (.duty c) = answersTo t.log (.duty c)) t := fun t =>
    wp_and (curveFrom_answers _ _ (by simp)) (curveFrom_answers _ _ (by simp))
  have hrest : ∀ mode duty (x y : Option Contents),
      wp hwmonDevice (do
        let curve ← control.hwmon.curve channel
        return ({ channel, mode, duty, curve } : ChannelSnapshot)) (fun _ s' =>
          (answersTo s'.log (.mode c)).length =
            (answersTo s.log (.mode c)).length + [channel].count c ∧
          (answersTo s'.log (.duty c)).length =
            (answersTo s.log (.duty c)).length + [channel].count c)
        ((s.noted (.mode channel) x).noted (.duty channel) y) := by
    intro mode duty x y
    refine wp_step (hcurve _) ?_
    rintro curve s' ⟨hmode, hduty⟩
    rw [wp_pure, hmode, hduty]
    by_cases h : channel = c <;> simp [h]
  rw [wp_bind]
  refine wp_mode ?_ ?_ <;> rw [wp_bind] <;> exact wp_duty (hrest _ _ _ _) (hrest _ _ _ _)

theorem snapshots_answers (self : CoolingExecutor) (targets : List (Channel × Target)) (c : Channel) :
    wp hwmonDevice (self.snapshots control targets) (fun _ s' =>
      (answersTo s'.log (.mode c)).length =
        (answersTo s.log (.mode c)).length + (targets.map Prod.fst).count c ∧
      (answersTo s'.log (.duty c)).length =
        (answersTo s.log (.duty c)).length + (targets.map Prod.fst).count c) s := by
  induction targets generalizing s with
  | nil => exact ⟨rfl, rfl⟩
  | cons x rest ih =>
    obtain ⟨channel, target⟩ := x
    unfold snapshots
    refine wp_step (snapshot_answers c) ?_
    rintro snapshot s1 ⟨hmode1, hduty1⟩
    refine wp_step ih ?_
    rintro others s2 ⟨hmode2, hduty2⟩
    rw [wp_pure, hmode2, hduty2, hmode1, hduty1]
    simp only [List.map_cons, List.count_cons, List.count_nil]
    omega

theorem alreadyApplied_answers (self : CoolingExecutor) (target : Target)
    (hrecord : self.committedTarget channel = some target)
    (hmode : (answersTo s.log (.mode channel)).length = 1)
    (hduty : (answersTo s.log (.duty channel)).length = 1) :
    wp hwmonDevice (self.alreadyApplied control channel target) (fun r s' =>
      r = none → ∀ log, s'.log <+: log → ¬ target.ReadsBack log channel) s := by
  obtain ⟨mode₁, hmode⟩ := List.length_eq_one_iff.mp hmode
  obtain ⟨duty₁, hduty⟩ := List.length_eq_one_iff.mp hduty
  unfold alreadyApplied
  rw [if_neg (not_not_intro hrecord), wp_bind]
  have hreadMode : ∀ (answer : Option Contents) (log : List HwEvent),
      (s.noted (.mode channel) answer).log <+: log → readbackOf log (.mode channel) = answer :=
    fun answer log h => readbackOf_eq h ⟨mode₁, by simp [hmode]⟩
  have hfailed : ∀ (answer : Option Contents) (t : HwSeen),
      (s.noted (.mode channel) answer).log <+: t.log →
      (answer.bind (Contents.parsed Text.parseU8)).bind PwmMode.fromKernel ≠ some target.mode →
      ∀ log, t.log <+: log → ¬ target.ReadsBack log channel := by
    intro answer t ht hne log hlog h
    have hread := h.mode
    rw [readbackMode, hreadMode answer log (ht.trans hlog)] at hread
    exact hne hread
  refine wp_mode (fun _ => hfailed none _ List.prefix_rfl (by simp)) ?_
  cases hread : s.state.mode channel with
  | none =>
    refine fun _ => hfailed (some (s.state (.mode channel))) _ List.prefix_rfl ?_
    rw [Option.bind_some, ← Attributes.mode, hread]
    simp
  | some mode =>
    dsimp only
    split
    · rename_i hne
      refine fun _ => hfailed (some (s.state (.mode channel))) _ List.prefix_rfl ?_
      rw [Option.bind_some, ← Attributes.mode, hread]
      simpa using hne
    · rw [wp_bind]
      have hreadDuty : ∀ (answer : Option Contents) (log : List HwEvent),
          ((s.noted (.mode channel) (some (s.state (.mode channel)))).noted (.duty channel) answer).log
            <+: log → readbackOf log (.duty channel) = answer :=
        fun answer log h => readbackOf_eq h ⟨duty₁, by simp [hduty]⟩
      cases target with
      | curve c => exact wp_duty (by simp) (by simp)
      | fixed expected =>
        refine wp_duty ?_ ?_
        · rintro - log hlog ⟨-, h⟩
          rw [readbackDuty, hreadDuty none log hlog] at h
          cases h
        · dsimp only
          split
          · rename_i hne
            rintro - log hlog ⟨-, h⟩
            rw [readbackDuty, hreadDuty _ log hlog] at h
            exact hne h
          · simp

theorem alreadyApplied_otherAnswers (self : CoolingExecutor) (target : Target) {c : Channel}
    (hne : c ≠ channel) :
    wp hwmonDevice (self.alreadyApplied control channel target) (fun _ s' =>
      answersTo s'.log (.mode c) = answersTo s.log (.mode c) ∧
      answersTo s'.log (.duty c) = answersTo s.log (.duty c)) s := by
  unfold alreadyApplied
  split
  · exact ⟨rfl, rfl⟩
  have hkept : ∀ answer : Option Contents,
      answersTo (s.noted (.mode channel) answer).log (.mode c) = answersTo s.log (.mode c) ∧
      answersTo (s.noted (.mode channel) answer).log (.duty c) = answersTo s.log (.duty c) := by
    intro answer
    simp [hne.symm]
  rw [wp_bind]
  refine wp_mode (hkept _) ?_
  cases s.state.mode channel with
  | none => exact hkept _
  | some mode =>
    dsimp only
    split
    · exact hkept _
    rw [wp_bind]
    have hkept' : ∀ answer answer' : Option Contents, ∀ r : Option ChannelReadback,
        wp hwmonDevice (pure r : Hw _) (fun _ s' =>
          answersTo s'.log (.mode c) = answersTo s.log (.mode c) ∧
          answersTo s'.log (.duty c) = answersTo s.log (.duty c))
          ((s.noted (.mode channel) answer).noted (.duty channel) answer') := by
      intro answer answer' r
      rw [wp_pure]
      simp [hne.symm]
    refine wp_duty ?_ ?_ <;> cases target <;> dsimp only <;> (try split) <;> exact hkept' _ _ _

theorem settledChannels_answers (self : CoolingExecutor) (targets : List (Channel × Target))
    (hnodup : (targets.map Prod.fst).Nodup)
    (hone : ∀ c ∈ targets.map Prod.fst, (answersTo s.log (.mode c)).length = 1 ∧
      (answersTo s.log (.duty c)).length = 1) :
    wp hwmonDevice (self.settledChannels control targets) (fun settled s' =>
      none ∈ settled → ∃ x ∈ targets, self.committedTarget x.1 = some x.2 →
        ∀ log, s'.log <+: log → ¬ x.2.ReadsBack log x.1) s := by
  induction targets generalizing s with
  | nil => simp [settledChannels]
  | cons x rest ih =>
    obtain ⟨channel, target⟩ := x
    rw [List.map_cons, List.nodup_cons] at hnodup
    unfold settledChannels
    have hfirst : wp hwmonDevice (self.alreadyApplied control channel target) (fun r s' =>
        (r = none → self.committedTarget channel = some target →
          ∀ log, s'.log <+: log → ¬ target.ReadsBack log channel) ∧
        ∀ c ∈ rest.map Prod.fst, (answersTo s'.log (.mode c)).length = 1 ∧
          (answersTo s'.log (.duty c)).length = 1) s := by
      refine wp_and ?_ ?_
      · obtain ⟨hmode, hduty⟩ := hone channel (by simp)
        by_cases hrecord : self.committedTarget channel = some target
        · exact wp_mono (alreadyApplied_answers self target hrecord hmode hduty)
            fun _ _ h hnone _ => h hnone
        · exact wp_mono wp_true fun _ _ _ _ h => absurd h hrecord
      · refine wp_forall fun c => wp_forall fun hc => ?_
        have hne : c ≠ channel := fun h => hnodup.1 (h ▸ hc)
        refine wp_mono (alreadyApplied_otherAnswers self target hne) ?_
        rintro _ s' ⟨hmode, hduty⟩
        rw [hmode, hduty]
        exact hone c (by simp [hc])
    refine wp_step hfirst ?_
    rintro current s1 ⟨hcurrent, hrest⟩
    refine wp_step (wp_and (ih hnodup.2 hrest) wp_log_grows) ?_
    rintro others s2 ⟨hothers, hgrows⟩ hnone
    rw [List.mem_cons] at hnone
    rcases hnone with hnone | hnone
    · exact ⟨(channel, target), by simp, fun hrecord log hlog =>
        hcurrent hnone.symm hrecord log (hgrows.trans hlog)⟩
    · obtain ⟨x, hx, h⟩ := hothers hnone
      exact ⟨x, by simp [hx], h⟩

/-! ## The stamp -/

/-- An answer the cadence gives and nothing else does. -/
def RefusedForCadence (outcome : ApplyOutcome) : Prop := ∃ elapsed, outcome = cadenceRefusal elapsed

theorem isNotApplied_of_refused {outcome : ApplyOutcome} (h : RefusedForCadence outcome) :
    outcome.hardware.isNotApplied = true := by
  obtain ⟨elapsed, rfl⟩ := h
  rfl

theorem restoreChannel_lastWrite (self : CoolingExecutor) (snapshot : ChannelSnapshot) :
    Returns (fun r => r.1.lastWrite = self.lastWrite) (self.restoreChannel control snapshot) := by
  unfold restoreChannel
  refine returns_bind ?_
  rintro (e | _ | _)
  · rfl
  · rfl
  · dsimp only
    split
    · exact fun _ => rfl
    · exact fun _ => rfl
    · rfl

theorem restoreChannels_lastWrite (self : CoolingExecutor) (details : List String)
    (snapshots : List ChannelSnapshot) :
    Returns (fun r => r.1.lastWrite = self.lastWrite)
      (restoreChannels control self details snapshots) := by
  induction snapshots generalizing self details with
  | nil => rfl
  | cons snapshot rest ih =>
    unfold restoreChannels
    refine returns_step (restoreChannel_lastWrite self snapshot) ?_
    rintro ⟨self', detail⟩ h
    rw [← h]
    exact ih self' _

theorem abort_returns (self : CoolingExecutor) (snapshots : List ChannelSnapshot)
    (failure : WriteFailure) (writes : Nat) (readback : List ChannelReadback) :
    Returns (fun r => r.2.lastWrite = self.lastWrite ∧ ¬ RefusedForCadence r.1)
      (self.abort control snapshots failure writes readback) := by
  unfold abort
  refine returns_step (restoreChannels_lastWrite self [] snapshots) ?_
  rintro ⟨self', details⟩ h
  refine ⟨h, ?_⟩
  rintro ⟨elapsed, hrefused⟩
  have hhardware := congrArg ApplyOutcome.hardware hrefused
  simp only [cadenceRefusal, ApplyOutcome.untouched] at hhardware
  split at hhardware
  · -- The two reasons differ in their first letter.
    have hletter := congrArg (fun reason => reason.toList.head?) (HardwareState.notApplied.inj hhardware)
    simp [String.toList_append, toString] at hletter
  · cases hhardware

theorem lastWrite_foldl_uncommit {α : Type} (self : CoolingExecutor) (channelOf : α → Channel)
    (l : List α) :
    (l.foldl (fun self a => self.uncommit (channelOf a)) self).lastWrite = self.lastWrite := by
  induction l generalizing self with
  | nil => rfl
  | cons a rest ih => exact ih (self.uncommit (channelOf a))

theorem verifyCurves_lastWrite (self : CoolingExecutor) (kraken : KrakenTelemetry) (nowUnixMs : Nat) :
    (self.verifyCurves kraken nowUnixMs).2.lastWrite = self.lastWrite := by
  unfold verifyCurves
  split
  · rfl
  · exact lastWrite_foldl_uncommit self CurveDivergence.channel _

theorem settle_lastWrite (self : CoolingExecutor) (targets : List (Channel × Target)) (writes : Nat)
    (readback : List ChannelReadback) : (self.settle targets writes readback).2.lastWrite = self.lastWrite := by
  unfold settle
  dsimp only
  split
  · rfl
  · exact lastWrite_foldl_uncommit self Prod.fst targets

theorem settle_not_notApplied (self : CoolingExecutor) (targets : List (Channel × Target)) (writes : Nat)
    (readback : List ChannelReadback) :
    (self.settle targets writes readback).1.hardware.isNotApplied = false := by
  unfold settle
  dsimp only
  split <;> rfl

theorem writeChannels_returns (now : Instant) (targets : List (Channel × Target))
    (snapshots : List ChannelSnapshot) (l : List ((Channel × Target) × Option ChannelReadback))
    (self : CoolingExecutor) (writes : Nat) (readback : List ChannelReadback)
    (h : self.lastWrite = some now ∨ ∃ x ∈ l, x.2 = none) :
    Returns (fun r => r.2.lastWrite = some now ∧ ¬ RefusedForCadence r.1)
      (writeChannels control now targets snapshots self writes readback l) := by
  induction l generalizing self writes readback with
  | nil =>
    refine ⟨(settle_lastWrite ..).trans (by simpa using h), fun hrefused => ?_⟩
    have hnot := settle_not_notApplied self targets writes readback
    rw [isNotApplied_of_refused hrefused] at hnot
    cases hnot
  | cons x rest ih =>
    obtain ⟨⟨channel, target⟩, settled⟩ := x
    cases settled with
    | some current =>
      unfold writeChannels
      exact ih self writes _ (by simpa using h)
    | none =>
      unfold writeChannels
      refine returns_bind ?_
      rintro (failure | applied)
      · exact abort_returns { self with lastWrite := some now } ..
      · exact fun atUnixMs => ih _ _ _ (.inl rfl)

/-! ## One program -/

/-- What one program does to the stamp, from what it met. -/
structure Paced (targets : List (Channel × Target)) (now : Instant) (before : CoolingExecutor)
    (s : HwSeen) (outcome : ApplyOutcome) (after : CoolingExecutor) (s' : HwSeen) : Prop where
  stamped : (Quiet s s' ∧ after.lastWrite = before.lastWrite) ∨
    (after.lastWrite = some now ∧
      ∀ t, before.lastWrite = some t → t + milliseconds MIN_PROGRAM_INTERVAL_MS ≤ now)
  refused : RefusedForCadence outcome →
    Quiet s s' ∧ after.committed = before.committed ∧ after.lastWrite = before.lastWrite
  settled : s.log = [] →
    (∀ x ∈ targets, before.committedTarget x.1 = some x.2 ∧ x.2.ReadsBack s'.log x.1) →
    outcome.hardware.isNotApplied = false ∧ Quiet s s'

theorem snapshots_looks (self : CoolingExecutor) (targets : List (Channel × Target)) :
    Looks (self.snapshots control targets) := by
  induction targets with
  | nil => trivial
  | cons x rest ih => exact issues_bind CoolingControl.snapshot_looks fun _ => issues_bind ih fun _ => trivial

theorem settledChannels_looks (self : CoolingExecutor) (targets : List (Channel × Target)) :
    Looks (self.settledChannels control targets) := by
  induction targets with
  | nil => trivial
  | cons x rest ih => exact issues_bind (alreadyApplied_looks self x.2) fun _ => issues_bind ih fun _ => trivial

theorem writeChannels_settled (now : Instant) (targets : List (Channel × Target))
    (snapshots : List ChannelSnapshot) (l : List ((Channel × Target) × Option ChannelReadback))
    (self : CoolingExecutor) (writes : Nat) (readback : List ChannelReadback)
    (h : ∀ x ∈ l, x.2 ≠ none) : ∃ readback',
      writeChannels control now targets snapshots self writes readback l =
        pure (self.settle targets writes readback') := by
  induction l generalizing readback with
  | nil => exact ⟨readback, rfl⟩
  | cons x rest ih =>
    obtain ⟨⟨channel, target⟩, settled⟩ := x
    cases settled with
    | none => exact absurd rfl (h _ List.mem_cons_self)
    | some current => exact ih _ fun x hx => h x (by simp [hx])

theorem refuseForCadence_floor {self : CoolingExecutor} {now : Instant}
    {settled : List (Option ChannelReadback)} (h : self.refuseForCadence now settled = none)
    (hnone : none ∈ settled) :
    ∀ t, self.lastWrite = some t → t + milliseconds MIN_PROGRAM_INTERVAL_MS ≤ now := by
  intro t ht
  unfold refuseForCadence at h
  have hall : settled.all Option.isSome = false := by
    rw [List.all_eq_false]
    exact ⟨none, hnone, by simp⟩
  simp only [hall, ht, Bool.false_eq_true, if_false] at h
  split at h
  · rename_i helapsed
    have hpos : 0 < milliseconds MIN_PROGRAM_INTERVAL_MS := by decide
    have hlt : t < now := Nat.lt_of_sub_pos (Nat.lt_of_lt_of_le hpos helapsed)
    exact Nat.add_le_of_le_sub' (Nat.le_of_lt hlt) helapsed
  · cases h

theorem transact_paced (self : CoolingExecutor) (now : Instant) (targets : List (Channel × Target))
    (hnodup : (targets.map Prod.fst).Nodup) :
    wp hwmonDevice (self.transact control now targets)
      (fun r s' => Paced targets now self s r.1 r.2 s') s := by
  unfold transact
  have hsnapshots : wp hwmonDevice (self.snapshots control targets) (fun _ s' => Quiet s s' ∧
      (s.log = [] → ∀ c ∈ targets.map Prod.fst, (answersTo s'.log (.mode c)).length = 1 ∧
        (answersTo s'.log (.duty c)).length = 1)) s := by
    refine wp_and (wp_mono (wp_looks (snapshots_looks self targets)) fun _ _ h => h.2) ?_
    refine wp_forall fun hlog => wp_forall fun c => wp_forall fun hc => ?_
    refine wp_mono (snapshots_answers self targets c) ?_
    rintro _ s' ⟨hmode, hduty⟩
    rw [hmode, hduty, hlog, hnodup.count, if_pos hc]
    exact ⟨rfl, rfl⟩
  refine wp_step hsnapshots ?_
  rintro snapshots s1 ⟨hquiet1, hone⟩
  have hsettled : wp hwmonDevice (self.settledChannels control targets) (fun settled s' =>
      Quiet s s' ∧ settled.length = targets.length ∧ (s.log = [] → none ∈ settled →
        ∃ x ∈ targets, self.committedTarget x.1 = some x.2 →
          ∀ log, s'.log <+: log → ¬ x.2.ReadsBack log x.1)) s1 := by
    refine wp_and (wp_mono (wp_looks (settledChannels_looks self targets))
      fun _ _ h => hquiet1.trans h.2) (wp_and ?_ ?_)
    · exact wp_mono (settledChannels_spec targets) fun _ _ h => h.2.1
    · refine wp_forall fun hlog => ?_
      exact settledChannels_answers self targets hnodup (hone hlog)
  refine wp_step hsettled ?_
  rintro settled s2 ⟨hquiet2, hlength, hanswers⟩
  by_cases hnone : none ∈ settled
  · -- Something is left to write, which the readbacks of this call cannot contradict.
    have hleft : ∀ s' : HwSeen, s2.log <+: s'.log → s.log = [] →
        ¬ ∀ x ∈ targets, self.committedTarget x.1 = some x.2 ∧ x.2.ReadsBack s'.log x.1 := by
      intro s' hgrows hlog hall
      obtain ⟨x, hx, h⟩ := hanswers hlog hnone
      exact h (hall x hx).1 s'.log hgrows (hall x hx).2
    cases hrefuse : self.refuseForCadence now settled with
    | some refusal =>
      exact ⟨.inl ⟨hquiet2, rfl⟩, fun _ => ⟨hquiet2, rfl, rfl⟩,
        fun hlog h => absurd h (hleft s2 List.prefix_rfl hlog)⟩
    | none =>
      obtain ⟨x, hx, hxnone⟩ := exists_left_of_zip hlength hnone
      refine wp_mono (wp_and (wp_returns (writeChannels_returns now targets snapshots _ self 0 []
        (.inr ⟨x, hx, hxnone⟩))) wp_log_grows) ?_
      rintro r s' ⟨⟨hstamp, hnot⟩, hgrows⟩
      exact ⟨.inr ⟨hstamp, refuseForCadence_floor hrefuse hnone⟩, fun h => absurd h hnot,
        fun hlog h => absurd h (hleft s' hgrows hlog)⟩
  · rw [refuseForCadence_of_settled hnone]
    obtain ⟨readback, heq⟩ := @writeChannels_settled control now targets snapshots
      (targets.zip settled) self 0 [] fun x hx h => hnone (h ▸ (List.of_mem_zip hx).2)
    dsimp only
    rw [heq, wp_pure]
    have hnot := settle_not_notApplied self targets 0 readback
    refine ⟨.inl ⟨hquiet2, settle_lastWrite ..⟩, fun h => ?_, fun _ _ => ⟨hnot, hquiet2⟩⟩
    rw [isNotApplied_of_refused h] at hnot
    cases hnot

theorem committed_resolve (self : CoolingExecutor) (located : Option KrakenHwmon) :
    (self.resolve located).committed = self.committed := by
  unfold resolve
  split <;> rfl

theorem lastWrite_resolve (self : CoolingExecutor) (located : Option KrakenHwmon) :
    (self.resolve located).lastWrite = self.lastWrite := by
  unfold resolve
  split <;> rfl

theorem apply_paced (self : CoolingExecutor) (located : Option KrakenHwmon) (now : Instant)
    (program : CoolingProgram) :
    wp hwmonDevice (self.apply located now program) (fun r s' =>
      (∀ targets, program.targets = some targets → Paced targets now self s r.1 r.2 s') ∧
      (program.targets = none → r = (.untouched .onboard, self) ∧ Quiet s s')) s := by
  unfold apply
  cases htargets : program.targets with
  | none => exact ⟨by simp, fun _ => ⟨rfl, .refl⟩⟩
  | some targets =>
    have hchannels := targets_channels htargets
    dsimp only
    cases (self.resolve located).control with
    | none =>
      refine ⟨fun targets' h => ?_, by simp⟩
      cases h
      refine ⟨.inl ⟨.refl, lastWrite_resolve ..⟩,
        fun _ => ⟨.refl, committed_resolve .., lastWrite_resolve ..⟩, fun hlog hall => ?_⟩
      -- Nothing was read, so nothing reads back.
      obtain ⟨x, hx, -⟩ : ∃ x ∈ targets, x.1 = .pump := by
        rw [← List.mem_map, hchannels]
        exact List.mem_cons_self
      have hread := (hall x hx).2.mode
      rw [readbackMode, readbackOf, hlog] at hread
      cases hread
    | some control =>
      refine wp_mono (transact_paced (self.resolve located) now targets ?_) fun r s' h => ⟨?_, by simp⟩
      · rw [hchannels]
        decide
      · rintro targets' ⟨⟩
        obtain ⟨hstamped, hrefused, hsettled⟩ := h
        rw [lastWrite_resolve] at hstamped hrefused
        rw [committed_resolve] at hrefused
        rw [committedTarget_resolve] at hsettled
        exact ⟨hstamped, hrefused, hsettled⟩

end CoolingExecutor

/-! ## Runs -/

def CoolingCall.instant : CoolingCall → Option Instant
  | apply _ now _ => some now
  | _ => none

/-- A call that attempts nothing keeps the stamp, and one that may have sets it, in time. -/
def Stamps (call : CoolingCall) (before after : CoolingExecutor) (log : List HwEvent) : Prop :=
  (¬ Attempted log ∧ after.lastWrite = before.lastWrite) ∨
  ∃ now, call.instant = some now ∧ after.lastWrite = some now ∧
    ∀ t, before.lastWrite = some t → t + milliseconds MIN_PROGRAM_INTERVAL_MS ≤ now

theorem handle_stamped {s : HwSeen} (hs : s.log = []) (call : CoolingCall) (executor : CoolingExecutor) :
    wp hwmonDevice (call.handle executor) (fun r s' => Stamps call executor r.2 s'.log) s := by
  cases call with
  | apply located now program =>
    refine wp_step (CoolingExecutor.apply_paced executor located now program) ?_
    rintro ⟨outcome, executor'⟩ s' ⟨hpaced, honboard⟩
    cases htargets : program.targets with
    | none =>
      obtain ⟨heq, hquiet⟩ := honboard htargets
      cases heq
      exact .inl ⟨hquiet.not_attempted hs, rfl⟩
    | some targets =>
      refine (hpaced targets htargets).stamped.imp ?_ ?_
      · exact fun h => ⟨Quiet.not_attempted h.1 hs, h.2⟩
      · exact fun h => ⟨now, rfl, h⟩
  | verifyCurves kraken nowUnixMs =>
    exact .inl ⟨by simp [hs, Attempted], executor.verifyCurves_lastWrite kraken nowUnixMs⟩
  | forget => exact .inl ⟨by simp [hs, Attempted], rfl⟩

theorem step_stamped (rig : CoolingRig) (call : CoolingCall) :
    let step := rig.step hwmonDevice CoolingCall.handle call
    Stamps call rig.owner step.after.owner step.after.world.log :=
  Rig.step_of_wp (P := fun _ executor s' => Stamps call rig.owner executor s'.log)
    (handle_stamped rfl call rig.owner)

/-- Two calls that attempt a write are at least the interval apart, whatever happens between them. -/
theorem attempts_spaced (located : Option KrakenHwmon) (world : HwWorld) (calls : List CoolingCall) :
    (coolingSteps located world calls).Pairwise fun earlier later =>
      Attempted earlier.after.world.log → Attempted later.after.world.log →
      ∃ t t', earlier.call.instant = some t ∧ later.call.instant = some t' ∧
        t + milliseconds MIN_PROGRAM_INTERVAL_MS ≤ t' := by
  -- What stays behind an attempt is a stamp no older than it.
  refine Rig.steps_pairwise (fun earlier rig => Attempted earlier.after.world.log →
    ∃ t t', earlier.call.instant = some t ∧ rig.owner.lastWrite = some t' ∧ t ≤ t') ?_ ?_ _ calls
  · intro rig call hattempted
    obtain ⟨hno, -⟩ | ⟨now, hnow, hstamp, -⟩ := step_stamped rig call
    · exact absurd hattempted hno
    · exact ⟨now, now, hnow, hstamp, Nat.le_refl _⟩
  · intro earlier rig call hkeeps
    obtain ⟨hno, hsame⟩ | ⟨now, hnow, hstamp, hfloor⟩ := step_stamped rig call
    · refine ⟨fun _ hattempted => absurd hattempted hno, fun hattempted => ?_⟩
      obtain ⟨t, t', ht, ht', hle⟩ := hkeeps hattempted
      exact ⟨t, t', ht, hsame.trans ht', hle⟩
    · have hlate : Attempted earlier.after.world.log → ∃ t, earlier.call.instant = some t ∧
          t + milliseconds MIN_PROGRAM_INTERVAL_MS ≤ now := by
        intro hattempted
        obtain ⟨t, t', ht, ht', hle⟩ := hkeeps hattempted
        exact ⟨t, ht, Nat.le_trans (Nat.add_le_add_right hle _) (hfloor t' ht')⟩
      refine ⟨fun hattempted _ => ?_, fun hattempted => ?_⟩
      · obtain ⟨t, ht, hle⟩ := hlate hattempted
        exact ⟨t, now, ht, hnow, hle⟩
      · obtain ⟨t, ht, hle⟩ := hlate hattempted
        exact ⟨t, now, ht, hstamp, Nat.le_trans (Nat.le_add_right _ _) hle⟩

/-- What a program answers for, besides the stamp. -/
def Unhurried (before : CoolingExecutor) :
    CoolingCall → CoolingAnswer → CoolingExecutor → List HwEvent → Prop
  | .apply _ _ program, .applied outcome, after, log =>
    (CoolingExecutor.RefusedForCadence outcome → ¬ Attempted log ∧
      after.committed = before.committed ∧ after.lastWrite = before.lastWrite) ∧
    ((∀ x ∈ program.targets.getD [],
        before.committedTarget x.1 = some x.2 ∧ x.2.ReadsBack log x.1) →
      outcome.hardware.isNotApplied = false ∧ ¬ Attempted log)
  | _, _, _, _ => True

theorem handle_unhurried {s : HwSeen} (hs : s.log = []) (call : CoolingCall)
    (executor : CoolingExecutor) :
    wp hwmonDevice (call.handle executor) (fun r s' => Unhurried executor call r.1 r.2 s'.log) s := by
  cases call with
  | apply located now program =>
    refine wp_step (CoolingExecutor.apply_paced executor located now program) ?_
    rintro ⟨outcome, executor'⟩ s' ⟨hpaced, honboard⟩
    unfold Unhurried
    cases htargets : program.targets with
    | none =>
      obtain ⟨heq, hquiet⟩ := honboard htargets
      cases heq
      have hno := hquiet.not_attempted hs
      exact ⟨fun _ => ⟨hno, rfl, rfl⟩, fun _ => ⟨rfl, hno⟩⟩
    | some targets =>
      obtain ⟨-, hrefused, hsettled⟩ := hpaced targets htargets
      refine ⟨fun h => ?_, fun h => ?_⟩
      · obtain ⟨hquiet, hrecord, hstamp⟩ := hrefused h
        exact ⟨hquiet.not_attempted hs, hrecord, hstamp⟩
      · rw [htargets, Option.getD_some] at h
        obtain ⟨hnot, hquiet⟩ := hsettled hs h
        exact ⟨hnot, hquiet.not_attempted hs⟩
  | verifyCurves kraken nowUnixMs => trivial
  | forget => trivial

/-- Over every run: calls that attempt a write are at least the interval apart; a program refused
for the cadence attempts nothing and leaves the record and the stamp; and the safe program, or one
that both channels hold by record and by readback, is never refused and attempts nothing. -/
theorem cadence_floor (located : Option KrakenHwmon) (world : HwWorld) (calls : List CoolingCall) :
    ((coolingSteps located world calls).Pairwise fun earlier later =>
      Attempted earlier.after.world.log → Attempted later.after.world.log →
      ∃ t t', earlier.call.instant = some t ∧ later.call.instant = some t' ∧
        t + milliseconds MIN_PROGRAM_INTERVAL_MS ≤ t') ∧
    ∀ step ∈ coolingSteps located world calls,
      ∀ located' now program outcome, step.call = .apply located' now program →
        step.answer = .applied outcome →
        (CoolingExecutor.RefusedForCadence outcome → ¬ Attempted step.after.world.log ∧
          step.after.owner.committed = step.before.owner.committed ∧
          step.after.owner.lastWrite = step.before.owner.lastWrite) ∧
        ((∀ x ∈ program.targets.getD [], step.before.owner.committedTarget x.1 = some x.2 ∧
            x.2.ReadsBack step.after.world.log x.1) →
          outcome.hardware.isNotApplied = false ∧ ¬ Attempted step.after.world.log) := by
  refine ⟨attempts_spaced located world calls, ?_⟩
  intro step hstep located' now program outcome hcall hanswer
  have hunhurried : ∀ step ∈ coolingSteps located world calls,
      Unhurried step.before.owner step.call step.answer step.after.owner step.after.world.log := by
    refine Rig.steps_forall (fun rig call => ?_) _ calls
    exact Rig.step_of_wp
      (P := fun answer executor s' => Unhurried rig.owner call answer executor s'.log)
      (handle_unhurried rfl call rig.owner)
  have h := hunhurried step hstep
  rw [hcall, hanswer] at h
  exact h

/-- A second program 100 ms after the first is refused. -/
theorem cadence_floor_second :
    ∃ step ∈ coolingSteps none (benchWorld ['0'] fun _ => false)
      [.apply (some benchInstance) 0 (.fixed 180 90),
       .apply (some benchInstance) (milliseconds 100) (.fixed 200 90)],
      ¬ Attempted step.after.world.log := by
  refine ⟨_, List.mem_cons_of_mem _ List.mem_cons_self, ?_⟩
  refine (((cadence_floor none (benchWorld ['0'] fun _ => false)
    [.apply (some benchInstance) 0 (.fixed 180 90),
     .apply (some benchInstance) (milliseconds 100) (.fixed 200 90)]).2 _
    (List.mem_cons_of_mem _ List.mem_cons_self) _ _ _ _ rfl rfl).1 ⟨milliseconds 100, ?_⟩).1
  decide +kernel

end Kori
