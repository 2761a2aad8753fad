import Kori.Core.Telemetry.Alerts
import Kori.Hardware.Sample

/-! # The collectors, each publishing its own section -/

namespace Kori

/-- The latest section of every collector. -/
structure SamplerState where
  sequence : Nat
  kraken : KrakenTelemetry
  alerts : List SafetyAlert
  system : SystemTelemetry
  gpu : GpuTelemetry
  failures : List CollectorFailure
deriving DecidableEq

/-- What one collector produces. -/
inductive Section where
  | kraken (telemetry : KrakenTelemetry) (alerts : List SafetyAlert)
  | system (telemetry : SystemTelemetry)
  | gpu (telemetry : GpuTelemetry)
deriving DecidableEq

def Collector.label : Collector → String
  | kraken => "Kraken"
  | cpu => "CPU"
  | gpu => "GPU"
  | memory => "Memory"

namespace SamplerState

def new (atUnixMs : Nat) : SamplerState :=
  let waiting : Unavailable := .unreadable "The first sample has not completed yet."
  { sequence := 0, kraken := .absent atUnixMs waiting, alerts := [],
    system := { cpuLoadPercent := .unavailable waiting, cpuTemperatureC := .unavailable waiting },
    gpu := { temperatureC := .unavailable waiting, loadPercent := .unavailable waiting }, failures := [] }

variable (state : SamplerState)

/-- Records or clears a collector's failure, keeping one entry per collector. -/
def setFailure (collector : Collector) (detail : Option String) : SamplerState :=
  { state with
    failures := (state.failures.filter fun failure => failure.collector ≠ collector) ++
      (detail.map fun detail => CollectorFailure.mk collector detail).toList }

/-- What the loop of a collector does with one pass, which may have panicked. -/
def publish (collector : Collector) (outcome : Except String Section) : SamplerState :=
  match outcome with
  | .ok produced =>
    let state := state.setFailure collector none
    let state := match produced with
      | .kraken telemetry alerts => { state with kraken := telemetry, alerts }
      | .system telemetry => { state with system := telemetry }
      | .gpu telemetry => { state with gpu := telemetry }
    { state with sequence := state.sequence + 1 }
  | .error detail =>
    state.setFailure collector (some (s!"The {collector.label} collector panicked and was isolated: " ++
      detail ++ ". Its readings age out while every other collector keeps running."))

/-- The current snapshot, from whatever each collector last published. -/
def snapshot (atUnixMs : Nat) : TelemetrySnapshot :=
  { sequence := state.sequence, atUnixMs, kraken := state.kraken, system := state.system, gpu := state.gpu,
    failed := state.failures }

end SamplerState

/-! ## The cooler's collector -/

/-- What the cooler's collector keeps from one pass to the next. -/
structure KrakenCollector where
  hwmon : Option KrakenHwmon
  tracker : AlertTracker
deriving DecidableEq

namespace KrakenCollector

def spawn (root : Sysfs) : KrakenCollector := { hwmon := KrakenHwmon.locate root, tracker := .new }

/-- One pass. -/
def sample (debug : List Char → String) (root : Sysfs) (files : Files) (now : Nat)
    (collector : KrakenCollector) : Section × KrakenCollector :=
  -- A collector that holds no directory looks for one first, so that a device can come back.
  let hwmon := match collector.hwmon with
    | some instance_ => some instance_
    | none => KrakenHwmon.locate root
  match hwmon with
  | none =>
    (.kraken (.absent now (.noDevice "No kraken2023 hwmon instance is bound to an allowlisted device.")) [],
      { collector with hwmon := none })
  | some instance_ =>
    let telemetry := files.telemetry debug instance_ now
    -- A device without a single one of these has gone away.
    let gone := telemetry.liquidTemperatureC.copied.isNone ∧ telemetry.pump.rpm.copied.isNone ∧
      telemetry.fan.rpm.copied.isNone
    let (alerts, tracker) := collector.tracker.observe telemetry
    (.kraken telemetry alerts, { hwmon := if gone then none else some instance_, tracker })

end KrakenCollector

end Kori
