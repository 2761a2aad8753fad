import Kori.Core.Curve

/-! # The telemetry vocabulary: a missing reading is never a zero -/

namespace Kori

/-- Why a reading has no value. -/
inductive Unavailable where
  | absent (detail : String)
  | unreadable (detail : String)
  | unparsable (detail : String)
  | noDevice (detail : String)
deriving DecidableEq, Repr

/-- One sampled metric. -/
inductive Reading (α : Type) where
  | valid (value : α)
  | unavailable (cause : Unavailable)
deriving DecidableEq, Repr

def Reading.copied {α : Type} : Reading α → Option α
  | valid value => some value
  | unavailable _ => none

/-- Control mode of one kernel PWM channel, the `pwmN_enable` ABI. -/
inductive PwmMode where
  | fullSpeed
  | fixed
  | curve
deriving DecidableEq, Repr

namespace PwmMode

def fromKernel : UInt8 → Option PwmMode
  | 0 => some fullSpeed
  | 1 => some fixed
  | 2 => some curve
  | _ => none

def toKernel : PwmMode → UInt8
  | fullSpeed => 0
  | fixed => 1
  | curve => 2

def label : PwmMode → String
  | fullSpeed => "100% failsafe"
  | fixed => "Fixed"
  | curve => "Curve"

theorem fromKernel_toKernel (mode : PwmMode) : fromKernel mode.toKernel = some mode := by
  cases mode <;> rfl

end PwmMode

structure ChannelTelemetry where
  channel : Channel
  rpm : Reading Nat
  duty : Reading UInt8
  mode : Reading PwmMode
deriving DecidableEq

structure KrakenTelemetry where
  atUnixMs : Nat
  present : Bool
  liquidTemperatureC : Reading F32
  pump : ChannelTelemetry
  fan : ChannelTelemetry
deriving DecidableEq

def KrakenTelemetry.channel (kraken : KrakenTelemetry) : Channel → ChannelTelemetry
  | .pump => kraken.pump
  | .fan => kraken.fan

structure GpuTelemetry where
  temperatureC : Reading F32
  loadPercent : Reading F32
deriving DecidableEq

structure SystemTelemetry where
  cpuLoadPercent : Reading F32
  cpuTemperatureC : Reading F32
deriving DecidableEq

inductive Collector where
  | kraken
  | cpu
  | gpu
  | memory
deriving DecidableEq, Repr

structure CollectorFailure where
  collector : Collector
  detail : String
deriving DecidableEq

/-- One complete pass of every collector. -/
structure TelemetrySnapshot where
  sequence : Nat
  atUnixMs : Nat
  kraken : KrakenTelemetry
  system : SystemTelemetry
  gpu : GpuTelemetry
  failed : List CollectorFailure
deriving DecidableEq

end Kori
