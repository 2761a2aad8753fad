import Kori.Daemon.Cooling.Cadence
import Kori.Faulty.Tally

/-! # What a program says it wrote -/

open Faulty

namespace Kori

variable {base s : HwSeen} {n : Nat}

/-! ## Transactions -/

namespace CoolingControl

variable {control : CoolingControl} {channel : Channel}

theorem write_tally {attr : Attribute} {value : UInt8} (h : base.Lands n s) :
    wp hwmonDevice (control.write attr value).run (base.Tallies fun _ => n + 1) s :=
  wp_write (fun _ => h.stops (Seen.stops_issued _ _)) (h.trans (Seen.lands_issued _ _))

@[simp] theorem applied_writes (readback : ChannelReadback) (mismatches : List String) (writes : Nat) :
    (applied readback mismatches writes).writes = writes := by
  unfold applied
  split <;> rfl

theorem applyFixed_tally (duty : UInt8) (h : base.Lands n s) :
    wp hwmonDevice (control.applyFixed channel duty).run (base.Tallies fun a => n + a.writes) s := by
  unfold applyFixed
  refine tally_bind (write_tally h) fun _ t ht => ?_
  refine tally_bind (write_tally ht) fun _ u hu => ?_
  refine tally_look readBack_looks hu fun readback v hv => ?_
  rw [wp_run_pure, Seen.Tallies, applied_writes]
  exact hv

theorem leaveCurve_tally (curve : TemperatureCurve) (h : base.Lands n s) :
    wp hwmonDevice (control.leaveCurve channel curve).run (base.Tallies fun m => n + m) s := by
  unfold leaveCurve
  refine tally_look mode_looks h fun mode t ht => ?_
  split
  · refine tally_look (transitionDuty_looks curve) ht fun holding u hu => ?_
    refine tally_bind (write_tally hu) fun _ v hv => ?_
    refine tally_bind (write_tally hv) fun _ w hw => ?_
    exact hw
  · exact ht

theorem stageCurve_tally (curve : TemperatureCurve) (h : base.Lands n s) :
    wp hwmonDevice (control.stageCurve channel curve).run (base.Tallies fun m => n + m) s := by
  unfold stageCurve
  refine tally_bind (leaveCurve_tally curve h) fun writes t ht => ?_
  refine tally_bind (tally_forM _ _ ht fun i k u hu => write_tally hu) fun _ u hu => ?_
  rw [List.length_finRange, Nat.add_assoc] at hu
  exact hu

theorem applyCurve_tally (curve : TemperatureCurve) (h : base.Lands n s) :
    wp hwmonDevice (control.applyCurve channel curve).run (base.Tallies fun a => n + a.writes) s := by
  unfold applyCurve
  refine tally_bind (stageCurve_tally curve h) fun writes t ht => ?_
  refine tally_bind (write_tally ht) fun _ u hu => ?_
  refine tally_look readBack_looks hu fun readback v hv => ?_
  refine tally_look curve_looks hv fun written w hw => ?_
  rw [wp_run_pure, Seen.Tallies, applied_writes]
  exact hw

end CoolingControl

/-! ## Where the writes of a log went -/

def HwEvent.channel : HwEvent → Option Channel
  | .looked query _ => query.channel
  | .issued write .. => write.attr.channel

/-- What landed of a log before its first refused write landed on other channels than the refused
one's, and nothing landed after it. -/
def NothingStranded (log : List HwEvent) : Prop :=
  ∀ refused ∈ (fromRefusal log).head?,
    (∀ e ∈ beforeRefusal log, e.isLanded = true → HwEvent.channel e ≠ HwEvent.channel refused) ∧
    ∀ e ∈ (fromRefusal log).tail, e.isLanded = false

instance (log : List HwEvent) : Decidable (NothingStranded log) :=
  inferInstanceAs (Decidable (∀ refused ∈ (fromRefusal log).head?, _))

theorem nothingStranded_of_clean {log : List HwEvent} (h : ∀ e ∈ log, e.isRefused = false) :
    NothingStranded log := by
  unfold NothingStranded
  simp [fromRefusal_of_none h]

namespace CoolingExecutor

variable {control : CoolingControl} {channel : Channel}

theorem write_tally (target : Target) (h : base.Lands n s) :
    wp hwmonDevice (write control channel target).run (base.Tallies fun a => n + a.writes) s := by
  cases target with
  | fixed duty => exact CoolingControl.applyFixed_tally duty h
  | curve c => exact CoolingControl.applyCurve_tally c h

theorem write_adds (target : Target) :
    wp hwmonDevice (write control channel target).run (fun _ s' =>
      s.Adds (fun e => e.isIssued = true → HwEvent.channel e = some channel) s') s := by
  have hlooked : ∀ (q : Attribute) (a : Option Contents),
      (.looked q a : HwEvent).isIssued = true → HwEvent.channel (.looked q a) = some channel := by
    intro q a h
    cases h
  refine wp_mono (wp_events (write_staysOn target) (fun _ => True)
    (fun e => e.isIssued = true → HwEvent.channel e = some channel) hlooked ?_ ?_ trivial) ?_
  · exact fun write t hwrite _ => ⟨trivial, fun _ => hwrite⟩
  · exact fun f write t hwrite _ => ⟨trivial, fun _ => hwrite⟩
  · exact fun _ _ h => h.2

theorem write_pos (target : Target) :
    wp hwmonDevice (write control channel target).run (fun r _ => ∀ a, r = .ok a → 0 < a.writes) s := by
  unfold write
  cases target with
  | fixed duty =>
    refine CoolingControl.write_step (fun _ => by simp) ?_
    refine CoolingControl.write_step (fun _ => by simp) ?_
    refine wp_run_lift_step wp_true fun readback t _ => ?_
    rw [wp_run_pure]
    rintro a ⟨⟩
    rw [CoolingControl.applied_writes]
    decide
  | curve c =>
    refine wp_run_step wp_true (fun _ _ _ => by simp) fun writes t _ => ?_
    refine CoolingControl.write_step (fun _ => by simp) ?_
    refine wp_run_lift_step wp_true fun readback t _ => ?_
    refine wp_run_lift_step wp_true fun written t _ => ?_
    rw [wp_run_pure]
    rintro a ⟨⟩
    rw [CoolingControl.applied_writes]
    exact Nat.succ_pos writes

/-! ## Every channel of a program -/

theorem landed_eq_iff {past added after : List HwEvent} {last : HwEvent} {c : Channel}
    (hpast : ∀ e ∈ past, e.isRefused = false) (hadded : ∀ e ∈ added, e.isRefused = false)
    (hlast : last.isRefused = true) (helse : ∀ e ∈ past, e.isLanded = true → HwEvent.channel e ≠ some c)
    (hon : ∀ e ∈ added ++ [last], e.isIssued = true → HwEvent.channel e = some c) :
    landed past = landed (past ++ (added ++ [last]) ++ after) ↔
      NothingStranded (past ++ (added ++ [last]) ++ after) := by
  have hclean : ∀ e ∈ past ++ added, e.isRefused = false := by
    simpa [or_imp, forall_and] using ⟨hpast, hadded⟩
  have hlog : past ++ (added ++ [last]) ++ after = (past ++ added) ++ last :: after := by simp
  have hnot := Event.issued_of_refused hlast
  have hchannel : HwEvent.channel last = some c := hon last (by simp) hnot.1
  have hcount : landed past = landed (past ++ (added ++ [last]) ++ after) ↔
      landed added = 0 ∧ landed after = 0 := by
    rw [hlog, landed_append, landed_append, landed_cons, hnot.2]
    simp only [Bool.false_eq_true, if_false]
    omega
  rw [hcount, hlog, NothingStranded, fromRefusal_append hclean after hlast,
    beforeRefusal_append hclean after hlast, landed_eq_zero, landed_eq_zero]
  simp only [List.head?_cons, Option.mem_some_iff, forall_eq', List.tail_cons, hchannel]
  refine and_congr_left fun _ => ⟨fun hnone e he hlanded => ?_, fun hother e he => ?_⟩
  · rw [List.mem_append] at he
    rcases he with he | he
    · exact helse e he hlanded
    · rw [hnone e he] at hlanded
      cases hlanded
  · by_contra hlanded
    rw [Bool.not_eq_false] at hlanded
    exact hother e (by simp [he]) hlanded (hon e (by simp [he]) (Event.isIssued_of_landed hlanded))

theorem abort_reports (self : CoolingExecutor) (snapshots : List ChannelSnapshot)
    (failure : WriteFailure) (writes : Nat) (readback : List ChannelReadback) :
    Returns (fun r => r.1.writes = writes ∧ r.1.deduplicated = false)
      (self.abort control snapshots failure writes readback) := by
  unfold abort
  exact returns_bind fun _ => ⟨rfl, rfl⟩

@[simp] theorem settle_writes (self : CoolingExecutor) (targets : List (Channel × Target))
    (writes : Nat) (readback : List ChannelReadback) :
    (self.settle targets writes readback).1.writes = writes := by
  unfold settle
  dsimp only
  split <;> rfl

@[simp] theorem settle_deduplicated (self : CoolingExecutor) (targets : List (Channel × Target))
    (writes : Nat) (readback : List ChannelReadback) :
    (self.settle targets writes readback).1.deduplicated = (writes == 0) := by
  unfold settle
  dsimp only
  split <;> rfl

theorem writeChannels_counted (now : Instant) (targets : List (Channel × Target))
    (snapshots : List ChannelSnapshot) (l : List ((Channel × Target) × Option ChannelReadback))
    (self : CoolingExecutor) (writes : Nat) (readback : List ChannelReadback)
    (hclean : ∀ e ∈ s.log, e.isRefused = false) (hlanded : landed s.log = writes)
    (hnodup : (l.map fun x => x.1.1).Nodup)
    (helse : ∀ e ∈ s.log, e.isLanded = true → ∀ c ∈ l.map fun x => x.1.1, HwEvent.channel e ≠ some c) :
    wp hwmonDevice (writeChannels control now targets snapshots self writes readback l)
      (fun r s' => (r.1.writes = landed s'.log ↔ NothingStranded s'.log) ∧
        (0 < writes ∨ (∃ x ∈ l, x.2 = none) → r.1.deduplicated = false)) s := by
  induction l generalizing self writes readback s with
  | nil =>
    refine ⟨iff_of_true ?_ ?_, ?_⟩
    · rw [settle_writes, hlanded]
    · exact nothingStranded_of_clean hclean
    · rintro (hpos | ⟨x, hx, -⟩)
      · rw [settle_deduplicated]
        simp only [beq_eq_false_iff_ne]
        omega
      · cases hx
  | cons x rest ih =>
    obtain ⟨⟨channel, target⟩, settled⟩ := x
    rw [List.map_cons, List.nodup_cons] at hnodup
    have hrest : ∀ e ∈ s.log, e.isLanded = true →
        ∀ c ∈ rest.map fun x => x.1.1, HwEvent.channel e ≠ some c :=
      fun e he hl c hc => helse e he hl c (List.mem_cons_of_mem _ hc)
    unfold writeChannels
    cases settled with
    | some current =>
      refine wp_mono (ih self writes _ hclean hlanded hnodup.2 hrest) fun r s' h => ⟨h.1, fun hleft => ?_⟩
      exact h.2 (by simpa using hleft)
    | none =>
      refine wp_step (wp_and (write_tally target Seen.Lands.refl)
        (wp_and (write_adds target) (write_pos target))) ?_
      rintro (failure | a) t ⟨htally, ⟨l', hl', hon⟩, hpos⟩
      · -- The write stopped midway, and what the restoration lands comes after.
        obtain ⟨added, last, hlog, hadded, hlast⟩ := htally
        have hsame : l' = added ++ [last] := List.append_cancel_left (hl'.symm.trans hlog)
        subst hsame
        refine wp_mono (wp_and (wp_returns (abort_reports _ snapshots failure writes readback))
          wp_log_grows) ?_
        rintro r s' ⟨⟨hwrites, hdedup⟩, ⟨after, hafter⟩⟩
        refine ⟨?_, fun _ => hdedup⟩
        rw [hwrites, ← hlanded, ← hafter, hlog]
        exact landed_eq_iff hclean hadded hlast
          (fun e he hl => helse e he hl channel List.mem_cons_self) hon
      · obtain ⟨added, hlog, hadded, hcost⟩ := htally
        have hsame : l' = added := List.append_cancel_left (hl'.symm.trans hlog)
        subst hsame
        intro atUnixMs
        refine wp_mono (ih _ (writes + a.writes) _ ?_ ?_ hnodup.2 ?_) fun r s' h => ⟨h.1, fun _ => ?_⟩
        · rw [hlog]
          simpa [or_imp, forall_and] using ⟨hclean, hadded⟩
        · simp only [hlog, landed_append, hlanded, hcost, Nat.zero_add]
        · intro e he hl c hc
          rw [hlog, List.mem_append] at he
          rcases he with he | he
          · exact hrest e he hl c hc
          · rw [hon e he (Event.isIssued_of_landed hl)]
            rintro ⟨⟩
            exact hnodup.1 hc
        · exact h.2 (.inl (Nat.add_pos_right _ (hpos a rfl)))

/-! ## What already holds -/

theorem alreadyApplied_holds (self : CoolingExecutor) (target : Target)
    (hmode : (answersTo s.log (.mode channel)).length = 1)
    (hduty : (answersTo s.log (.duty channel)).length = 1) :
    wp hwmonDevice (self.alreadyApplied control channel target) (fun r s' => r ≠ none →
      self.committedTarget channel = some target ∧
      ∀ log, s'.log <+: log → target.ReadsBack log channel) s := by
  obtain ⟨mode₁, hmode⟩ := List.length_eq_one_iff.mp hmode
  obtain ⟨duty₁, hduty⟩ := List.length_eq_one_iff.mp hduty
  unfold alreadyApplied
  split
  · exact fun h => absurd rfl h
  rename_i hrecord
  rw [not_not] at hrecord
  rw [wp_bind]
  refine wp_mode (fun h => absurd rfl h) ?_
  cases hread : s.state.mode channel with
  | none => exact fun h => absurd rfl h
  | some mode =>
    dsimp only
    split
    · exact fun h => absurd rfl h
    rename_i htarget
    rw [not_not] at htarget
    have hreadMode : ∀ (answer : Option Contents) (log : List HwEvent),
        ((s.noted (.mode channel) (some (s.state (.mode channel)))).noted (.duty channel) answer).log
          <+: log → readbackMode log channel = some target.mode := by
      intro answer log hlog
      have hanswer : readbackOf log (.mode channel) = some (s.state (.mode channel)) :=
        readbackOf_eq hlog ⟨mode₁, by simp [hmode]⟩
      rw [readbackMode, hanswer, Option.bind_some, ← Attributes.mode, hread, htarget]
    rw [wp_bind]
    cases target with
    | curve c => exact wp_duty (fun _ => ⟨hrecord, hreadMode _⟩) (fun _ => ⟨hrecord, hreadMode _⟩)
    | fixed expected =>
      refine wp_duty (fun h => absurd rfl h) ?_
      dsimp only
      split
      · exact fun h => absurd rfl h
      · rename_i hexpected
        rw [not_not] at hexpected
        refine fun _ => ⟨hrecord, fun log hlog => ⟨hreadMode _ log hlog, ?_⟩⟩
        have hanswer : readbackOf log (.duty channel) = some (s.state (.duty channel)) :=
          readbackOf_eq hlog ⟨duty₁, by simp [hduty]⟩
        rw [readbackDuty, hanswer, Option.bind_some]
        exact hexpected

theorem settledChannels_hold (self : CoolingExecutor) (targets : List (Channel × Target))
    (hnodup : (targets.map Prod.fst).Nodup)
    (hone : ∀ c ∈ targets.map Prod.fst, (answersTo s.log (.mode c)).length = 1 ∧
      (answersTo s.log (.duty c)).length = 1) :
    wp hwmonDevice (self.settledChannels control targets) (fun settled s' =>
      none ∉ settled → ∀ x ∈ targets, self.committedTarget x.1 = some x.2 ∧
        ∀ log, s'.log <+: log → x.2.ReadsBack log x.1) s := by
  induction targets generalizing s with
  | nil => simp [settledChannels]
  | cons x rest ih =>
    obtain ⟨channel, target⟩ := x
    rw [List.map_cons, List.nodup_cons] at hnodup
    unfold settledChannels
    have hrest : wp hwmonDevice (self.alreadyApplied control channel target) (fun _ s' =>
        ∀ c ∈ rest.map Prod.fst, (answersTo s'.log (.mode c)).length = 1 ∧
          (answersTo s'.log (.duty c)).length = 1) s := by
      refine wp_forall fun c => wp_forall fun hc => ?_
      have hne : c ≠ channel := fun h => hnodup.1 (h ▸ hc)
      refine wp_mono (alreadyApplied_otherAnswers self target hne) ?_
      rintro _ s' ⟨hmode, hduty⟩
      rw [hmode, hduty]
      exact hone c (by simp [hc])
    obtain ⟨hmode, hduty⟩ := hone channel (by simp)
    refine wp_step (wp_and (alreadyApplied_holds self target hmode hduty) hrest) ?_
    rintro current s1 ⟨hcurrent, hrest⟩
    refine wp_step (wp_and (ih hnodup.2 hrest) wp_log_grows) ?_
    rintro others s2 ⟨hothers, hgrows⟩ hnone x hx
    rw [List.mem_cons, not_or] at hnone
    rw [List.mem_cons] at hx
    rcases hx with rfl | hx
    · obtain ⟨hrecord, hreads⟩ := hcurrent (Ne.symm hnone.1)
      exact ⟨hrecord, fun log hlog => hreads log (hgrows.trans hlog)⟩
    · exact hothers hnone.2 x hx

/-! ## One program -/

/-- Both channels hold a program: the record names its targets, and this call read them back. -/
def Holds (self : CoolingExecutor) (log : List HwEvent) (targets : List (Channel × Target)) : Prop :=
  ∀ x ∈ targets, self.committedTarget x.1 = some x.2 ∧ x.2.ReadsBack log x.1

theorem refuseForCadence_untouched {self : CoolingExecutor} {now : Instant}
    {settled : List (Option ChannelReadback)} {refusal : ApplyOutcome}
    (h : self.refuseForCadence now settled = some refusal) :
    refusal.writes = 0 ∧ refusal.deduplicated = false := by
  obtain ⟨elapsed, rfl⟩ := refuseForCadence_eq h
  exact ⟨rfl, rfl⟩

/-- What the outcome of a program says of what it wrote, against the log of the call. -/
structure Counted (program : CoolingProgram) (executor : CoolingExecutor) (outcome : ApplyOutcome)
    (log : List HwEvent) : Prop where
  writes : outcome.writes = landed log
  deduplicated : outcome.deduplicated = true ↔
    ∃ targets, program.targets = some targets ∧ executor.Holds log targets ∧ ¬ Attempted log

theorem transact_counted (self : CoolingExecutor) (now : Instant) (targets : List (Channel × Target))
    (hnodup : (targets.map Prod.fst).Nodup) (hs : s.log = []) :
    wp hwmonDevice (self.transact control now targets) (fun r s' =>
      (r.1.writes = landed s'.log ↔ NothingStranded s'.log) ∧
      (r.1.deduplicated = true ↔ self.Holds s'.log targets ∧ ¬ Attempted s'.log)) s := by
  unfold transact
  have hsnapshots : wp hwmonDevice (self.snapshots control targets) (fun _ s' => Quiet s s' ∧
      ∀ c ∈ targets.map Prod.fst, (answersTo s'.log (.mode c)).length = 1 ∧
        (answersTo s'.log (.duty c)).length = 1) s := by
    refine wp_and (wp_mono (wp_looks (snapshots_looks self targets)) fun _ _ h => h.2) ?_
    refine wp_forall fun c => wp_forall fun hc => ?_
    refine wp_mono (snapshots_answers self targets c) ?_
    rintro _ s' ⟨hmode, hduty⟩
    rw [hmode, hduty, hs, hnodup.count, if_pos hc]
    exact ⟨rfl, rfl⟩
  refine wp_step hsnapshots ?_
  rintro snapshots s1 ⟨hquiet1, hone⟩
  refine wp_step (wp_and (wp_looks (settledChannels_looks self targets))
    (wp_and (settledChannels_spec targets) (wp_and (settledChannels_answers self targets hnodup hone)
      (settledChannels_hold self targets hnodup hone)))) ?_
  rintro settled s2 ⟨⟨-, hquiet⟩, ⟨-, hlength, -⟩, hleft, hhold⟩
  have hquiet2 : Quiet s s2 := hquiet1.trans hquiet
  obtain ⟨looked, hlog, hclean, hlanded⟩ := Seen.Adds.lands hquiet2
  rw [hs, List.nil_append] at hlog
  subst hlog
  have hstranded : NothingStranded s2.log := nothingStranded_of_clean hclean
  have hidle : ¬ Attempted s2.log := hquiet2.not_attempted hs
  by_cases hnone : none ∈ settled
  · -- A channel that is left to write is not held, whatever is read later.
    have hnot : ∀ log, s2.log <+: log → ¬ self.Holds log targets := by
      intro log hlog hholds
      obtain ⟨x, hx, h⟩ := hleft hnone
      exact h (hholds x hx).1 log hlog (hholds x hx).2
    cases hrefuse : self.refuseForCadence now settled with
    | some refusal =>
      obtain ⟨hwrites, hdedup⟩ := refuseForCadence_untouched hrefuse
      refine ⟨iff_of_true (hwrites.trans hlanded.symm) hstranded, ?_⟩
      simp [hdedup, hnot s2.log List.prefix_rfl]
    | none =>
      obtain ⟨x, hx, hxnone⟩ := exists_left_of_zip hlength hnone
      have helse : ∀ e ∈ s2.log, e.isLanded = true →
          ∀ c ∈ (targets.zip settled).map fun x => x.1.1, HwEvent.channel e ≠ some c := by
        intro e he hl
        rw [landed_eq_zero.mp hlanded e he] at hl
        cases hl
      refine wp_mono (wp_and (writeChannels_counted now targets snapshots _ self 0 [] hclean hlanded
        (zip_channels hlength ▸ hnodup) helse) wp_log_grows) ?_
      rintro r s' ⟨⟨hcount, hdedup⟩, hgrows⟩
      refine ⟨hcount, ?_⟩
      rw [hdedup (.inr ⟨x, hx, hxnone⟩)]
      simp [hnot s'.log hgrows]
  · obtain ⟨readback, heq⟩ := @writeChannels_settled control now targets snapshots
      (targets.zip settled) self 0 [] fun x hx h => hnone (h ▸ (List.of_mem_zip hx).2)
    have hholds : self.Holds s2.log targets := fun x hx =>
      ⟨(hhold hnone x hx).1, (hhold hnone x hx).2 s2.log List.prefix_rfl⟩
    rw [refuseForCadence_of_settled hnone]
    dsimp only
    rw [heq, wp_pure, settle_writes, settle_deduplicated]
    exact ⟨iff_of_true hlanded.symm hstranded, iff_of_true rfl ⟨hholds, hidle⟩⟩

theorem apply_counted (self : CoolingExecutor) (located : Option KrakenHwmon) (now : Instant)
    (program : CoolingProgram) (hs : s.log = []) :
    wp hwmonDevice (self.apply located now program) (fun r s' =>
      Counted program self r.1 s'.log ↔ NothingStranded s'.log) s := by
  have hempty : NothingStranded s.log := nothingStranded_of_clean (by simp [hs])
  unfold apply
  cases htargets : program.targets with
  | none =>
    refine iff_of_true ⟨by simp [hs, ApplyOutcome.untouched], ?_⟩ hempty
    simp [htargets, ApplyOutcome.untouched]
  | some targets =>
    have hchannels := targets_channels htargets
    have hdedup : ∀ {outcome : ApplyOutcome} {log : List HwEvent},
        (outcome.deduplicated = true ↔ self.Holds log targets ∧ ¬ Attempted log) →
        (Counted program self outcome log ↔ outcome.writes = landed log) := by
      intro outcome log h
      refine ⟨Counted.writes, fun hwrites => ⟨hwrites, ?_⟩⟩
      simpa [htargets] using h
    dsimp only
    cases (self.resolve located).control with
    | none =>
      rw [wp_pure, hdedup]
      · exact iff_of_true (by simp [hs, ApplyOutcome.untouched]) hempty
      · refine iff_of_false (by simp [ApplyOutcome.untouched]) ?_
        rintro ⟨hholds, -⟩
        -- Nothing was read, so nothing reads back.
        obtain ⟨x, hx, -⟩ : ∃ x ∈ targets, x.1 = .pump := by
          rw [← List.mem_map, hchannels]
          exact List.mem_cons_self
        have hread := (hholds x hx).2.mode
        rw [readbackMode, readbackOf, hs] at hread
        cases hread
    | some control =>
      have hnodup : (targets.map Prod.fst).Nodup := by
        rw [hchannels]
        decide
      refine wp_mono (transact_counted (self.resolve located) now targets hnodup hs) ?_
      rintro r s' ⟨hcount, hheld⟩
      have hholds : (self.resolve located).Holds s'.log targets ↔ self.Holds s'.log targets := by
        unfold Holds
        rw [committedTarget_resolve]
      rw [hdedup (by rw [hheld, hholds]), hcount]

end CoolingExecutor

/-! ## Runs -/

/-- What a call of the executor answers for, of its count. -/
def CountsUnlessStranded (before : CoolingExecutor) :
    CoolingCall → CoolingAnswer → List HwEvent → Prop
  | .apply _ _ program, .applied outcome, log =>
    CoolingExecutor.Counted program before outcome log ↔ NothingStranded log
  | _, _, _ => True

theorem handle_counted (hs : s.log = []) (call : CoolingCall) (executor : CoolingExecutor) :
    wp hwmonDevice (call.handle executor) (fun r s' => CountsUnlessStranded executor call r.1 s'.log)
      s := by
  cases call with
  | apply located now program =>
    refine wp_step (CoolingExecutor.apply_counted executor located now program hs) ?_
    exact fun r s' h => h
  | verifyCurves kraken nowUnixMs => trivial
  | forget => trivial

/-- Over every run, a program's outcome counts the writes that landed, and says it was deduplicated
exactly when both channels held the program and no write was tried, if and only if no refused write
left landed ones stranded on its channel or was followed by any. -/
theorem outcome_counts_iff (located : Option KrakenHwmon) (world : HwWorld)
    (calls : List CoolingCall) : ∀ step ∈ coolingSteps located world calls,
      ∀ located' now program outcome, step.call = .apply located' now program →
        step.answer = .applied outcome →
        (CoolingExecutor.Counted program step.before.owner outcome step.after.world.log ↔
          NothingStranded step.after.world.log) := by
  intro step hstep located' now program outcome hcall hanswer
  have hcounts : ∀ step ∈ coolingSteps located world calls,
      CountsUnlessStranded step.before.owner step.call step.answer step.after.world.log := by
    refine Rig.steps_forall (fun rig call => ?_) _ calls
    exact Rig.step_of_wp
      (P := fun answer _ s' => CountsUnlessStranded rig.owner call answer s'.log)
      (handle_counted rfl call rig.owner)
  have h := hcounts step hstep
  rw [hcall, hanswer] at h
  exact h

theorem outcome_counts_fixed :
    ∃ step ∈ coolingSteps none (benchWorld ['0'] fun _ => false)
      [.apply (some benchInstance) 0 (.fixed 180 90)],
      ∃ outcome, step.answer = .applied outcome ∧
        CoolingExecutor.Counted (.fixed 180 90) step.before.owner outcome step.after.world.log := by
  refine ⟨_, List.mem_cons_self, _, rfl, ?_⟩
  refine (outcome_counts_iff none (benchWorld ['0'] fun _ => false)
    [.apply (some benchInstance) 0 (.fixed 180 90)] _ List.mem_cons_self _ _ _ _ rfl rfl).mpr ?_
  decide +kernel

/-- The pump refuses its mode after taking its duty: two writes land, and none is counted. -/
theorem half_written_pump_uncounted :
    ∃ step ∈ coolingSteps none (benchWorld ['0'] (· == 85))
      [.apply (some benchInstance) 0 (.fixed 180 90)],
      ∃ outcome, step.answer = .applied outcome ∧ outcome.writes = 0 ∧
        landed step.after.world.log = 2 ∧
        ¬ CoolingExecutor.Counted (.fixed 180 90) step.before.owner outcome step.after.world.log := by
  refine ⟨_, List.mem_cons_self, _, rfl, ?_⟩
  refine ⟨by decide +kernel, by decide +kernel, fun hcounted => ?_⟩
  exact absurd hcounted.writes (by decide +kernel)

end Kori
