import Kori.Daemon.State.Absence
import Kori.Daemon.Telemetry
import Mathlib.Data.List.Chain

/-! # Every disconnect between two sightings -/

open Faulty

namespace Kori

/-! ## The machine around the collector -/

/-- What is plugged in, and how many instances of the driver there have been. -/
structure Bus where
  root : Sysfs
  incarnation : Nat
deriving DecidableEq

namespace Bus

def bound (bus : Bus) : Option KrakenHwmon := KrakenHwmon.locate bus.root

/-- Something is plugged in or out. An instance that was not bound just before is a new one. -/
def change (bus : Bus) (root : Sysfs) : Bus :=
  { root, incarnation :=
      if (KrakenHwmon.locate root).isSome ∧ KrakenHwmon.locate root ≠ bus.bound then bus.incarnation + 1
      else bus.incarnation }

/-- Only the directory that is bound can be read. -/
def files (bus : Bus) (contents : String → Except IoError Contents) (gone : IoError) : Files :=
  fun directory name => if bus.bound = some ⟨directory⟩ then contents name else .error gone

end Bus

/-- What happens next: something is plugged in or out, or the collector makes a pass, in which the
bound instance answers `contents` and a directory that is gone answers `gone`. -/
inductive BusEvent where
  | change (root : Sysfs)
  | pass (now : Nat) (contents : String → Except IoError Contents) (gone : IoError)

/-- One pass: what was bound, what the collector held before, and what it published. -/
structure Pass where
  bus : Bus
  held : Option KrakenHwmon
  published : KrakenTelemetry
deriving DecidableEq

/-- The collector and the section it publishes. -/
structure Collecting where
  bus : Bus
  collector : KrakenCollector
  state : SamplerState

namespace Collecting

/-- A collector that starts now. -/
def start (bus : Bus) (now : Nat) : Collecting :=
  { bus, collector := .spawn bus.root, state := .new now }

variable (debug : List Char → String)

/-- One pass, published. -/
def pass (c : Collecting) (now : Nat) (contents : String → Except IoError Contents) (gone : IoError) :
    Collecting :=
  let r := c.collector.sample debug c.bus.root (c.bus.files contents gone) now
  { c with collector := r.2, state := c.state.publish .kraken (.ok r.1) }

/-- Every pass of a run, in order. -/
def passes : Collecting → List BusEvent → List Pass
  | _, [] => []
  | c, .change root :: rest => passes { c with bus := c.bus.change root } rest
  | c, .pass now contents gone :: rest =>
    let after := c.pass debug now contents gone
    ⟨c.bus, c.collector.hwmon, after.state.kraken⟩ :: passes after rest

/-! ## One pass -/

variable {debug} {c : Collecting} {now : Nat} {contents : String → Except IoError Contents} {gone : IoError}

theorem present_eq_false_iff :
    (c.pass debug now contents gone).state.kraken.present = false ↔
      c.collector.hwmon = none ∧ c.bus.bound = none := by
  unfold pass KrakenCollector.sample Bus.bound
  cases c.collector.hwmon with
  | some held => simp [SamplerState.publish, Files.telemetry]
  | none =>
    cases KrakenHwmon.locate c.bus.root with
    | some found => simp [SamplerState.publish, Files.telemetry]
    | none => simp [SamplerState.publish, KrakenTelemetry.absent]

theorem hwmon_of_blind (h : (c.pass debug now contents gone).state.kraken.Blind = true) :
    (c.pass debug now contents gone).collector.hwmon = none := by
  have hsome : ∀ held : KrakenHwmon, ((c.bus.files contents gone).telemetry debug held now).Blind = true →
      (if ((c.bus.files contents gone).telemetry debug held now).liquidTemperatureC.copied.isNone ∧
        ((c.bus.files contents gone).telemetry debug held now).pump.rpm.copied.isNone ∧
        ((c.bus.files contents gone).telemetry debug held now).fan.rpm.copied.isNone
      then none else some held) = none := by
    intro held hblind
    simp only [KrakenTelemetry.Blind, Bool.and_eq_true] at hblind
    rw [if_pos ⟨hblind.1.1.1, hblind.1.1.2⟩]
  unfold pass KrakenCollector.sample at h ⊢
  cases hheld : c.collector.hwmon with
  | some held =>
    simp only [hheld, SamplerState.publish] at h ⊢
    exact hsome held h
  | none =>
    cases hfound : KrakenHwmon.locate c.bus.root with
    | some found =>
      simp only [hheld, hfound, SamplerState.publish] at h ⊢
      exact hsome found h
    | none => rfl

/-! ## Every run -/

theorem passes_spec (debug : List Char → String) (c : Collecting) (events : List BusEvent) :
    (∀ p ∈ c.passes debug events, p.published.present = false ↔ p.held = none ∧ p.bus.bound = none) ∧
    (c.passes debug events).IsChain (fun p q => p.published.Blind = true → q.held = none) ∧
    ∀ p ∈ (c.passes debug events).head?, p.held = c.collector.hwmon := by
  induction events generalizing c with
  | nil => exact ⟨by simp [passes], by simp [passes], by simp [passes]⟩
  | cons event rest ih =>
    cases event with
    | change root => exact ih { c with bus := c.bus.change root }
    | pass now contents gone =>
      obtain ⟨hpresent, hchain, hhead⟩ := ih (c.pass debug now contents gone)
      refine ⟨?_, ?_, by simp [passes]⟩
      · rw [passes, List.forall_mem_cons]
        exact ⟨present_eq_false_iff, hpresent⟩
      · rw [passes, List.isChain_cons]
        refine ⟨fun q hq hblind => ?_, hchain⟩
        rw [hhead q hq]
        exact hwmon_of_blind hblind

end Collecting

/-! ## Disconnects -/

/-- The instance of that number is not there any more. -/
def Pass.Missing (p : Pass) (incarnation : Nat) : Prop :=
  p.bus.bound = none ∨ p.bus.incarnation ≠ incarnation

/-- A disconnect the collector observed. Between two samples read from different instances every pass
came back empty, and at one of these the first instance was not there any more. -/
structure Disconnect (passes : List Pass) (old : Pass) (gap : List Pass) (new : Pass) : Prop where
  within : ∃ before after, passes = before ++ old :: (gap ++ new :: after)
  sighted : old.published.Blind = false
  returned : new.published.Blind = false
  replaced : new.bus.incarnation ≠ old.bus.incarnation
  blind : ∀ p ∈ gap, p.published.Blind = true
  observed : ∃ p ∈ gap, p.Missing old.bus.incarnation

/-- A daemon whose clock reads this sample keeps no record of the cooler or of the panel. -/
def DropsRecords (kraken : KrakenTelemetry) : Prop :=
  ∀ {Raw : Type} (machine : Machine Raw) (around : Surroundings), around.snapshot.kraken = kraken →
    (Machine.tick around machine).2.daemon.cooling = machine.daemon.cooling.forget ∧
      (Machine.tick around machine).2.daemon.display = machine.daemon.display.forget

/-- A sample says that the cooler is absent. -/
def Announced (gap : List Pass) : Prop :=
  ∃ p ∈ gap, p.published.present = false ∧ DropsRecords p.published

/-- Nothing is bound at some pass after the first that came back empty, or at the first, if the
collector held no directory by then. -/
def StaysAway (gap : List Pass) : Prop :=
  (∃ p ∈ gap.tail, p.bus.bound = none) ∨ ∃ p ∈ gap.head?, p.held = none ∧ p.bus.bound = none

/-- Neither executor's record changed. -/
def SameRecords {Raw : Type} (before after : Machine Raw) : Prop :=
  after.daemon.cooling = before.daemon.cooling ∧ after.daemon.display = before.daemon.display

instance {Raw : Type} : IsPreorder (Machine Raw) SameRecords where
  refl _ := ⟨rfl, rfl⟩
  trans _ _ _ h h' := ⟨h'.1.trans h.1, h'.2.trans h.2⟩

theorem dropsRecords {kraken : KrakenTelemetry} (h : kraken.present = false) : DropsRecords kraken := by
  intro Raw machine around hsample
  have habsent : around.snapshot.kraken.present = false := hsample ▸ h
  have hhealth : Keeps (@SameRecords Raw) (Machine.recordCollectorHealth around.snapshot) :=
    Machine.keeps_recordCollectorHealth (fun _ _ => ⟨rfl, rfl⟩) (fun _ _ => ⟨rfl, rfl⟩) _
  unfold Machine.tick Machine.reconcile
  simp only [habsent, Bool.false_eq_true, not_false_eq_true, if_true, bind_apply, pure_apply]
  exact hhealth _

/-! ## When a disconnect is announced -/

theorem held_of_tail {gap : List Pass} (hblind : ∀ p ∈ gap, p.published.Blind = true)
    (hchain : gap.IsChain fun p q => p.published.Blind = true → q.held = none) :
    ∀ p ∈ gap.tail, p.held = none := by
  induction gap with
  | nil => simp
  | cons first rest ih =>
    rw [List.forall_mem_cons] at hblind
    rw [List.isChain_cons] at hchain
    cases rest with
    | nil => simp
    | cons second rest =>
      have hsecond : second.held = none := hchain.1 second rfl hblind.1
      rw [List.tail_cons, List.forall_mem_cons]
      exact ⟨hsecond, ih hblind.2 hchain.2⟩

/-- In every run, a disconnect that the collector observed is announced before the first sample read
from the new instance exactly when the cooler stays away for a pass at which the collector holds no
directory any more. -/
theorem disconnect_announced_iff (debug : List Char → String) (c : Collecting) (events : List BusEvent)
    {old new : Pass} {gap : List Pass} (h : Disconnect (c.passes debug events) old gap new) :
    Announced gap ↔ StaysAway gap := by
  obtain ⟨hpresent, hchain, -⟩ := Collecting.passes_spec debug c events
  obtain ⟨before, after, hwithin⟩ := h.within
  have hgapped : gap <:+: c.passes debug events := ⟨before ++ [old], new :: after, by simp [hwithin]⟩
  have hgap : ∀ p ∈ gap, p.published.present = false ↔ p.held = none ∧ p.bus.bound = none :=
    fun p hp => hpresent p (hgapped.subset hp)
  have hheld : ∀ p ∈ gap.tail, p.held = none := held_of_tail h.blind <| List.IsChain.infix hchain hgapped
  have hannounced : Announced gap ↔ ∃ p ∈ gap, p.held = none ∧ p.bus.bound = none := by
    constructor
    · rintro ⟨p, hp, habsent, -⟩
      exact ⟨p, hp, (hgap p hp).mp habsent⟩
    · rintro ⟨p, hp, haway⟩
      have habsent := (hgap p hp).mpr haway
      exact ⟨p, hp, habsent, dropsRecords habsent⟩
  rw [hannounced]
  unfold StaysAway
  cases gap with
  | nil => simp
  | cons first rest =>
    constructor
    · rintro ⟨p, hp, haway⟩
      rcases List.mem_cons.mp hp with rfl | hrest
      · exact .inr ⟨p, rfl, haway⟩
      · exact .inl ⟨p, hrest, haway.2⟩
    · rintro (⟨p, hrest, hbound⟩ | ⟨p, hfirst, haway⟩)
      · exact ⟨p, List.mem_cons_of_mem _ hrest, hheld p hrest, hbound⟩
      · exact ⟨p, List.mem_of_mem_head? hfirst, haway⟩

/-! ## A cooler pulled out and plugged back in -/

/-- A machine with the cooler bound at these directories. -/
def benchRoot (directories : List String) : Sysfs :=
  { usb := [KRAKEN_BASE]
    hwmon := directories.map fun path => ⟨some KRAKEN_DRIVER, some KRAKEN_BASE, path, []⟩ }

/-- A pass at which every attribute of the bound instance reads `1`. -/
def benchPass (now : Nat) : BusEvent :=
  .pass now (fun _ => .ok (.text ['1'])) ⟨.notFound, "No such file or directory (os error 2)"⟩

def benchCollecting : Collecting := .start ⟨benchRoot ["/sys/class/hwmon/hwmon4"], 0⟩ 0

/-- Away for two passes, and back at another directory. -/
def benchAway : List BusEvent :=
  [benchPass 0, .change (benchRoot []), benchPass 1000, benchPass 2000,
    .change (benchRoot ["/sys/class/hwmon/hwmon5"]), benchPass 3000]

/-- Back at another directory before the first pass that finds the old one gone. -/
def benchMoved : List BusEvent :=
  [benchPass 0, .change (benchRoot []), .change (benchRoot ["/sys/class/hwmon/hwmon5"]), benchPass 1000,
    benchPass 2000]

theorem disconnect_announced_away :
    ∃ old gap new, Disconnect (benchCollecting.passes String.ofList benchAway) old gap new ∧
      Announced gap := by
  have hdisconnect : ∃ old gap new, Disconnect (benchCollecting.passes String.ofList benchAway) old gap new ∧
      StaysAway gap := by
    refine ⟨_, [_, _], _, ⟨⟨[], [], rfl⟩, by decide +kernel, by decide +kernel, by decide +kernel,
      by decide +kernel, _, List.mem_cons_self, .inl (by decide +kernel)⟩, .inl ⟨_, List.mem_cons_self, ?_⟩⟩
    decide +kernel
  obtain ⟨old, gap, new, h, haway⟩ := hdisconnect
  exact ⟨old, gap, new, h,
    (disconnect_announced_iff String.ofList benchCollecting benchAway h).mpr haway⟩

/-- The pass that finds the old directory gone publishes the cooler as present, and the next one
already reads the new instance. -/
theorem moved_unannounced :
    ∃ old gap new, Disconnect (benchCollecting.passes String.ofList benchMoved) old gap new ∧
      (∀ p ∈ gap, p.published.present = true) ∧ ¬ Announced gap := by
  have hdisconnect : ∃ old gap new, Disconnect (benchCollecting.passes String.ofList benchMoved) old gap new ∧
      ∀ p ∈ gap, p.published.present = true := by
    refine ⟨_, [_], _, ⟨⟨[], [], rfl⟩, by decide +kernel, by decide +kernel, by decide +kernel,
      by decide +kernel, _, List.mem_cons_self, .inr (by decide +kernel)⟩, ?_⟩
    decide +kernel
  obtain ⟨old, gap, new, h, hpresent⟩ := hdisconnect
  refine ⟨old, gap, new, h, hpresent, ?_⟩
  rintro ⟨p, hp, habsent, -⟩
  rw [hpresent p hp] at habsent
  cases habsent

end Kori
