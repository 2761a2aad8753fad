import Kori.Core.Telemetry
import Mathlib.Data.List.Induction

/-! # What an operator has to be told at once, from the stream of samples -/

namespace Kori

/-- Liquid temperature at which the firmware failsafe owns the cooler. -/
def LIQUID_CRITICAL_C : ℚ := 60
/-- Consecutive zero-RPM samples that turn a commanded channel into an alert. -/
def STALL_SAMPLE_COUNT : UInt8 := 3

inductive SafetyAlert where
  | liquidCritical (temperatureC thresholdC : ℚ)
  | channelStalled (channel : Channel) (commandedDuty samples : UInt8) (rpm : Nat)
deriving DecidableEq, Repr

/-- The consecutive zero-RPM samples of each channel. -/
structure AlertTracker where
  pumpZeroSamples : UInt8
  fanZeroSamples : UInt8
deriving DecidableEq, Repr

/-- The duty a channel is being told to run at. The firmware failsafe commands all of it. -/
def commandedDuty (entry : ChannelTelemetry) : Option UInt8 :=
  match entry.mode.copied with
  | none => none
  | some .fullSpeed => some 255
  | some .fixed => entry.duty.copied
  | some .curve => entry.duty.copied

/-- `u8::saturating_add` of one. -/
def saturatingSucc (n : UInt8) : UInt8 := if n = 255 then 255 else n + 1

namespace AlertTracker

def new : AlertTracker := { pumpZeroSamples := 0, fanZeroSamples := 0 }

/-- One channel of a sample against its counter. An unreadable one neither advances the streak nor
clears it. -/
def observeChannel (channel : Channel) (entry : ChannelTelemetry) (counter : UInt8) :
    List SafetyAlert × UInt8 :=
  match commandedDuty entry, entry.rpm.copied with
  | some duty, some rpm =>
    if rpm = 0 ∧ 0 < duty then
      let counter := saturatingSucc counter
      (if STALL_SAMPLE_COUNT ≤ counter then [.channelStalled channel duty counter 0] else [], counter)
    else ([], 0)
  | none, _ => ([], counter)
  | some _, none => ([], counter)

/-- Folds one sample in and returns every alert that is active. -/
def observe (tracker : AlertTracker) (telemetry : KrakenTelemetry) : List SafetyAlert × AlertTracker :=
  let critical := match telemetry.liquidTemperatureC.copied with
    | some (.finite temperature) =>
      if LIQUID_CRITICAL_C ≤ temperature then [.liquidCritical temperature LIQUID_CRITICAL_C] else []
    | _ => []
  let pump := observeChannel .pump telemetry.pump tracker.pumpZeroSamples
  let fan := observeChannel .fan telemetry.fan tracker.fanZeroSamples
  (critical ++ pump.1 ++ fan.1, { pumpZeroSamples := pump.2, fanZeroSamples := fan.2 })

/-! ## A counter is a streak -/

/-- A channel that is commanded to turn and reports that it does not. -/
def Stalled (entry : ChannelTelemetry) : Bool :=
  (commandedDuty entry).any (0 < ·) && entry.rpm.copied == some 0

/-- A sample that says whether a channel turns. -/
def Tells (entry : ChannelTelemetry) : Bool := (commandedDuty entry).isSome && entry.rpm.copied.isSome

/-- The stalled samples at the end, past the ones that tell nothing. -/
def streak (entries : List ChannelTelemetry) : Nat :=
  ((entries.filter Tells).reverse.takeWhile Stalled).length

/-- The counter after so many samples. -/
def countAll (channel : Channel) (entries : List ChannelTelemetry) : UInt8 :=
  entries.foldl (fun counter entry => (observeChannel channel entry counter).2) 0

theorem toNat_saturatingSucc (n : UInt8) : (saturatingSucc n).toNat = min 255 (n.toNat + 1) := by
  unfold saturatingSucc
  split
  · rename_i h
    rw [h]
    rfl
  · rename_i h
    have hlt : n.toNat < 256 := n.toNat_lt
    have hne : n.toNat ≠ 255 := fun heq => h (UInt8.toNat_inj.mp heq)
    rw [UInt8.toNat_add]
    change (n.toNat + 1) % 256 = _
    omega

theorem observeChannel_counter (channel : Channel) (entry : ChannelTelemetry) (counter : UInt8) :
    (observeChannel channel entry counter).2 =
      if Tells entry then (if Stalled entry then saturatingSucc counter else 0) else counter := by
  unfold observeChannel Tells Stalled
  cases commandedDuty entry with
  | none => simp
  | some duty =>
    cases entry.rpm.copied with
    | none => simp
    | some rpm => by_cases hrpm : rpm = 0 <;> by_cases hduty : 0 < duty <;> simp [hrpm, hduty]

theorem countAll_eq_streak (channel : Channel) (entries : List ChannelTelemetry) :
    (countAll channel entries).toNat = min 255 (streak entries) := by
  induction entries using List.reverseRecOn with
  | nil => rfl
  | append_singleton entries entry ih =>
    unfold countAll streak at ih ⊢
    rw [List.foldl_append, List.foldl_cons, List.foldl_nil, observeChannel_counter, List.filter_append]
    by_cases htells : Tells entry
    · by_cases hstalled : Stalled entry
      · rw [if_pos htells, if_pos hstalled, toNat_saturatingSucc, ih]
        simp only [List.filter_cons, htells, if_true, List.filter_nil, List.reverse_append,
          List.reverse_singleton, List.singleton_append, List.takeWhile_cons, hstalled, List.length_cons]
        omega
      · rw [if_pos htells, if_neg hstalled]
        simp [htells, hstalled]
    · rw [if_neg htells, ih]
      simp [htells]

theorem stalled_alert_iff (channel : Channel) (entries : List ChannelTelemetry) (entry : ChannelTelemetry) :
    (observeChannel channel entry (countAll channel entries)).1 ≠ [] ↔
      Tells entry = true ∧ Stalled entry = true ∧ STALL_SAMPLE_COUNT.toNat ≤ streak (entries ++ [entry]) := by
  have hcount := countAll_eq_streak channel (entries ++ [entry])
  have hlast : countAll channel (entries ++ [entry]) =
      (observeChannel channel entry (countAll channel entries)).2 := by
    simp [countAll]
  rw [hlast, observeChannel_counter] at hcount
  by_cases h : Tells entry = true ∧ Stalled entry = true
  · rw [if_pos h.1, if_pos h.2] at hcount
    have hreached : STALL_SAMPLE_COUNT ≤ saturatingSucc (countAll channel entries) ↔
        STALL_SAMPLE_COUNT.toNat ≤ streak (entries ++ [entry]) := by
      have hthree : STALL_SAMPLE_COUNT.toNat = 3 := rfl
      rw [UInt8.le_iff_toNat_le, hcount, hthree]
      omega
    rw [and_iff_right h.1, and_iff_right h.2, ← hreached]
    unfold Tells Stalled at h
    unfold observeChannel
    cases hduty : commandedDuty entry with
    | none => simp [hduty] at h
    | some duty =>
      cases hrpm : entry.rpm.copied with
      | none => simp [hrpm] at h
      | some rpm =>
        simp only [hduty, hrpm, Option.any_some, Bool.and_eq_true, decide_eq_true_eq, beq_iff_eq,
          Option.some.injEq] at h
        simp [h.2.1, h.2.2]
  · refine iff_of_false (fun hne => hne ?_) fun hall => h ⟨hall.1, hall.2.1⟩
    unfold Tells Stalled at h
    unfold observeChannel
    cases hduty : commandedDuty entry with
    | none => rfl
    | some duty =>
      cases hrpm : entry.rpm.copied with
      | none => rfl
      | some rpm =>
        simp only [hduty, hrpm, Option.isSome_some, Bool.and_self, Option.any_some, Bool.and_eq_true,
          decide_eq_true_eq, beq_iff_eq, Option.some.injEq, true_and] at h
        simp only
        rw [if_neg fun hboth => h ⟨hboth.2, hboth.1⟩]

/-! ## The alerts of a whole stream -/

/-- Whether the alerts say that a channel has stalled. -/
def reports (alerts : List SafetyAlert) (channel : Channel) : Bool :=
  alerts.any fun
    | .channelStalled about _ _ _ => about == channel
    | .liquidCritical _ _ => false

/-- The tracker after a stream. -/
def observeAll (samples : List KrakenTelemetry) : AlertTracker :=
  samples.foldl (fun tracker sample => (tracker.observe sample).2) new

/-- The alerts active after the last sample of a stream. -/
def alertsAfter (before : List KrakenTelemetry) (sample : KrakenTelemetry) : List SafetyAlert :=
  ((observeAll before).observe sample).1

/-- What a stream says of one channel. -/
def entries (channel : Channel) (samples : List KrakenTelemetry) : List ChannelTelemetry :=
  samples.map (·.channel channel)

/-- Enough samples tell something of the channel, and the last of them all show it stalled. -/
def StalledWindow (told : List ChannelTelemetry) : Prop :=
  STALL_SAMPLE_COUNT.toNat ≤ (told.filter Tells).length ∧
    ∀ entry ∈ (told.filter Tells).drop ((told.filter Tells).length - STALL_SAMPLE_COUNT.toNat),
      Stalled entry = true

instance (told : List ChannelTelemetry) : Decidable (StalledWindow told) := inferInstanceAs (Decidable (_ ∧ _))

/-- The stall alerts of a stream follow their definition, sample after sample. -/
structure Follows (samples : List KrakenTelemetry) : Prop where
  window : ∀ before sample, before ++ [sample] <+: samples → ∀ channel,
    (reports (alertsAfter before sample) channel = true ↔
      StalledWindow (entries channel (before ++ [sample])))
  untold : ∀ before last sample, before ++ [last] ++ [sample] <+: samples → ∀ channel,
    Tells (sample.channel channel) = false →
      reports (alertsAfter (before ++ [last]) sample) channel = reports (alertsAfter before last) channel
  separate : ∀ before sample, before ++ [sample] <+: samples → ∀ channel others other,
    entries channel others = entries channel before → other.channel channel = sample.channel channel →
      reports (alertsAfter others other) channel = reports (alertsAfter before sample) channel

theorem length_takeWhile_ge_iff {α : Type} (p : α → Bool) (l : List α) (n : Nat) :
    n ≤ (l.takeWhile p).length ↔ n ≤ l.length ∧ ∀ a ∈ l.take n, p a = true := by
  induction l generalizing n with
  | nil => simp
  | cons a l ih =>
    cases n with
    | zero => simp
    | succ n =>
      rw [List.takeWhile_cons, List.take_succ_cons]
      by_cases ha : p a = true
      · rw [if_pos ha, List.length_cons, List.length_cons, Nat.succ_le_succ_iff, ih, List.forall_mem_cons]
        simp [ha]
      · simp [ha]

theorem streak_ge_iff (told : List ChannelTelemetry) :
    STALL_SAMPLE_COUNT.toNat ≤ streak told ↔ StalledWindow told := by
  unfold streak StalledWindow
  rw [length_takeWhile_ge_iff, List.length_reverse, List.take_reverse]
  simp only [List.mem_reverse]

theorem observeAll_concat (samples : List KrakenTelemetry) (sample : KrakenTelemetry) :
    observeAll (samples ++ [sample]) = ((observeAll samples).observe sample).2 := by
  simp [observeAll]

theorem countAll_concat (channel : Channel) (told : List ChannelTelemetry) (entry : ChannelTelemetry) :
    countAll channel (told ++ [entry]) = (observeChannel channel entry (countAll channel told)).2 := by
  simp [countAll]

theorem entries_concat (channel : Channel) (samples : List KrakenTelemetry) (sample : KrakenTelemetry) :
    entries channel (samples ++ [sample]) = entries channel samples ++ [sample.channel channel] := by
  simp [entries]

theorem observeAll_counter (samples : List KrakenTelemetry) :
    (observeAll samples).pumpZeroSamples = countAll .pump (entries .pump samples) ∧
      (observeAll samples).fanZeroSamples = countAll .fan (entries .fan samples) := by
  induction samples using List.reverseRecOn with
  | nil => exact ⟨rfl, rfl⟩
  | append_singleton samples sample ih =>
    rw [observeAll_concat, entries_concat, entries_concat, countAll_concat, countAll_concat, ← ih.1, ← ih.2]
    exact ⟨rfl, rfl⟩

theorem reports_observeChannel (channel about : Channel) (entry : ChannelTelemetry) (counter : UInt8) :
    reports (observeChannel about entry counter).1 channel =
      (about == channel && decide ((observeChannel about entry counter).1 ≠ [])) := by
  unfold observeChannel
  split
  · split
    · dsimp only
      split <;> simp [reports]
    · simp [reports]
  · simp [reports]
  · simp [reports]

theorem reports_append (alerts more : List SafetyAlert) (channel : Channel) :
    reports (alerts ++ more) channel = (reports alerts channel || reports more channel) :=
  List.any_append

theorem reports_alertsAfter (before : List KrakenTelemetry) (sample : KrakenTelemetry) (channel : Channel) :
    reports (alertsAfter before sample) channel = true ↔
      Tells (sample.channel channel) = true ∧ Stalled (sample.channel channel) = true ∧
        StalledWindow (entries channel (before ++ [sample])) := by
  have hcritical : ∀ reading : Option F32, reports (match reading with
      | some (.finite temperature) =>
        if LIQUID_CRITICAL_C ≤ temperature then [SafetyAlert.liquidCritical temperature LIQUID_CRITICAL_C]
        else []
      | _ => []) channel = false := by
    intro reading
    split
    · split <;> rfl
    · rfl
  rw [← streak_ge_iff, entries_concat, ← stalled_alert_iff channel]
  unfold alertsAfter observe
  simp only [reports_append, hcritical, reports_observeChannel, Bool.false_or, (observeAll_counter before).1,
    (observeAll_counter before).2]
  cases channel with
  | pump =>
    rw [beq_self_eq_true, Bool.true_and, show (Channel.fan == Channel.pump) = false from rfl, Bool.false_and,
      Bool.or_false, decide_eq_true_eq]
    rfl
  | fan =>
    rw [beq_self_eq_true, Bool.true_and, show (Channel.pump == Channel.fan) = false from rfl, Bool.false_and,
      Bool.false_or, decide_eq_true_eq]
    rfl

theorem stalledWindow_untold {channel : Channel} {sample : KrakenTelemetry} (before : List KrakenTelemetry)
    (huntold : Tells (sample.channel channel) = false) :
    StalledWindow (entries channel (before ++ [sample])) ↔ StalledWindow (entries channel before) := by
  unfold StalledWindow
  rw [entries_concat, List.filter_append, List.filter_cons_of_neg (by simp [huntold]), List.filter_nil,
    List.append_nil]

theorem stalled_of_window {channel : Channel} {sample : KrakenTelemetry} {before : List KrakenTelemetry}
    (htells : Tells (sample.channel channel) = true)
    (hwindow : StalledWindow (entries channel (before ++ [sample]))) :
    Stalled (sample.channel channel) = true := by
  rw [← streak_ge_iff, entries_concat, streak, List.filter_append, List.filter_cons_of_pos htells,
    List.filter_nil, List.reverse_append, List.reverse_singleton, List.singleton_append,
    List.takeWhile_cons] at hwindow
  by_contra hturns
  rw [if_neg hturns] at hwindow
  exact absurd hwindow (by decide)

theorem reports_eq_of_entries {channel : Channel} {before others : List KrakenTelemetry}
    {sample other : KrakenTelemetry} (hbefore : entries channel others = entries channel before)
    (hlast : other.channel channel = sample.channel channel) :
    reports (alertsAfter others other) channel = reports (alertsAfter before sample) channel := by
  rw [Bool.eq_iff_iff, reports_alertsAfter, reports_alertsAfter, entries_concat, entries_concat, hbefore, hlast]

/-- The alerts follow their definition exactly when no sample that tells nothing of a channel comes
while its stall is active. -/
theorem follows_iff_told_while_stalled (samples : List KrakenTelemetry) :
    Follows samples ↔ ∀ before sample, before ++ [sample] <+: samples → ∀ channel,
      StalledWindow (entries channel before) → Tells (sample.channel channel) = true := by
  constructor
  · intro hfollows before sample hpre channel hwindow
    by_contra htells
    rw [Bool.not_eq_true] at htells
    have hraised := (hfollows.window before sample hpre channel).mpr
      ((stalledWindow_untold before htells).mpr hwindow)
    rw [((reports_alertsAfter before sample channel).mp hraised).1] at htells
    exact Bool.noConfusion htells
  · intro htold
    have hwindow : ∀ before sample, before ++ [sample] <+: samples → ∀ channel,
        (reports (alertsAfter before sample) channel = true ↔
          StalledWindow (entries channel (before ++ [sample]))) := by
      intro before sample hpre channel
      rw [reports_alertsAfter]
      refine ⟨fun h => h.2.2, fun h => ?_⟩
      have htells : Tells (sample.channel channel) = true := by
        by_contra huntold
        rw [Bool.not_eq_true] at huntold
        rw [htold before sample hpre channel ((stalledWindow_untold before huntold).mp h)] at huntold
        exact Bool.noConfusion huntold
      exact ⟨htells, stalled_of_window htells h, h⟩
    refine ⟨hwindow, ?_, fun before sample _ channel others other => reports_eq_of_entries⟩
    intro before last sample hpre channel huntold
    have hearlier : before ++ [last] <+: samples := (List.prefix_append _ _).trans hpre
    rw [Bool.eq_iff_iff, hwindow _ sample hpre, hwindow _ last hearlier, stalledWindow_untold _ huntold]

/-- A pump that is told to run at 180 of 255 and does not turn, or cannot be read. -/
def benchStall (rpm : Reading Nat) : KrakenTelemetry :=
  let unread := .unavailable (.unreadable "EIO")
  { atUnixMs := 0, present := true, liquidTemperatureC := unread
    pump := { channel := .pump, rpm, duty := .valid 180, mode := .valid .fixed }
    fan := { channel := .fan, rpm := .valid 1700, duty := .valid 180, mode := .valid .fixed } }

/-- Three stalled samples raise the alert, and a sample that cannot be read takes it away. -/
theorem unreadable_sample_clears_stall :
    ¬ Follows [benchStall (.valid 0), benchStall (.valid 0), benchStall (.valid 0),
      benchStall (.unavailable (.unreadable "EIO"))] := by
  intro hfollows
  exact absurd (hfollows.untold [benchStall (.valid 0), benchStall (.valid 0)] (benchStall (.valid 0))
    (benchStall (.unavailable (.unreadable "EIO"))) ⟨[], rfl⟩ .pump rfl) (by decide)

end AlertTracker

end Kori
