import Mathlib.Algebra.Group.Nat.Defs
import Mathlib.Data.List.Basic

/-! # What an allowlisted device exposes, and whether it may be written -/

namespace Kori

/-- Vendor and product identifiers of a USB device. -/
structure DeviceId where
  vendor : UInt16
  product : UInt16
deriving DecidableEq, Repr

namespace DeviceId

/-- Four lowercase hexadecimal digits. -/
def hex4 (n : UInt16) : String :=
  String.ofList ([12, 8, 4, 0].map fun shift => Nat.digitChar (n.toNat / 2 ^ shift % 16))

def display (id : DeviceId) : String := hex4 id.vendor ++ ":" ++ hex4 id.product

end DeviceId

def KRAKEN_BASE : DeviceId := ⟨0x1e71, 0x300e⟩
def RGB_CONTROLLER : DeviceId := ⟨0x1e71, 0x2021⟩

example : KRAKEN_BASE.display = "1e71:300e" := by decide

/-- A value that is either observed with its evidence, or explicitly unknown. -/
inductive Evidenced (α : Type) where
  | known (value : α) (source : String)
  | unknown (reason source : String)
deriving DecidableEq, Repr

namespace Evidenced

variable {α : Type}

def value : Evidenced α → Option α
  | known value _ => some value
  | unknown .. => none

def isKnown (evidence : Evidenced α) : Bool := evidence.value.isSome

/-- Why the value is missing. -/
def reason : Evidenced α → Option String
  | known .. => none
  | unknown reason _ => some reason

end Evidenced

/-- A capability a control needs, under a stable identifier. -/
inductive CapabilityId where
  | liquidTemperature
  | pumpSpeed
  | fanSpeed
  | pumpDuty
  | fanDuty
  | pumpCurve
  | fanCurve
  | rgbFixedColor
  | rgbEffects
  | lcdFrame
  | lcdDisplayControl
deriving DecidableEq, Repr

def CapabilityId.label : CapabilityId → String
  | liquidTemperature => "Liquid temperature"
  | pumpSpeed => "Pump speed"
  | fanSpeed => "Fan speed"
  | pumpDuty => "Pump duty"
  | fanDuty => "Fan duty"
  | pumpCurve => "Pump curve"
  | fanCurve => "Fan curve"
  | rgbFixedColor => "RGB fixed color"
  | rgbEffects => "RGB effects"
  | lcdFrame => "LCD frame transfer"
  | lcdDisplayControl => "LCD display control"

/-- How far a capability may be exercised right now. -/
inductive CapabilityState where
  | available (writable : Bool) (source : String)
  | unvalidated (reason : String)
  | unavailable (reason : String)
deriving DecidableEq, Repr

namespace CapabilityState

def isWritable : CapabilityState → Bool
  | available writable _ => writable
  | _ => false

/-- Why a control is disabled; nothing for a capability that may be written. -/
def blockedReason : CapabilityState → Option String
  | available true _ => none
  | available false source => some ("Read-only: no write permission on " ++ source ++ ".")
  | unvalidated reason => some reason
  | unavailable reason => some reason

theorem blockedReason_eq_none_iff (state : CapabilityState) :
    state.blockedReason = none ↔ state.isWritable = true := by
  rcases state with (_ | _) | _ | _ <;> simp [blockedReason, isWritable]

end CapabilityState

structure Capability where
  id : CapabilityId
  state : CapabilityState
deriving DecidableEq, Repr

inductive LcdPanelShape where
  | circular
  | square
deriving DecidableEq, Repr

/-- Geometry and pixel format one frame must match exactly. -/
structure LcdPanel where
  width : UInt16
  height : UInt16
  shape : LcdPanelShape
  pixelFormat : String
  frameBytes : UInt32
  bulkEndpoint : UInt8
  bulkInterface : UInt8
deriving DecidableEq

/-- What the panel says it is set to, the orientation in quarter turns. -/
structure LcdDisplaySettings where
  brightnessPercent : UInt8
  quarterTurns : UInt8
deriving DecidableEq, Repr

/-- What the Kraken answered about its panel, and the geometry the product asserts. -/
structure LcdTopology where
  hidNode : Evidenced String
  bulkNode : Evidenced String
  firmware : Evidenced String
  panel : Evidenced LcdPanel
  display : Evidenced LcdDisplaySettings
deriving DecidableEq

/-- The report only a panel can answer was answered. -/
def LcdTopology.answered (topology : LcdTopology) : Bool := topology.display.isKnown

/-- One accessory the controller detected on a channel. -/
structure RgbAccessory where
  id : UInt8
  name : String
deriving DecidableEq, Repr

/-- One addressable lighting channel, its index one-based. -/
structure RgbChannel where
  index : UInt8
  accessories : List RgbAccessory
  ledCount : Evidenced UInt16
deriving DecidableEq, Repr

/-- What the RGB controller answered about itself. -/
structure RgbTopology where
  node : Evidenced String
  firmware : Evidenced String
  channels : Evidenced (List RgbChannel)
deriving DecidableEq, Repr

/-- The channels reported; a count no channel byte could address is no count. -/
def RgbTopology.channelCount (topology : RgbTopology) : Option UInt8 := do
  let channels ← topology.channels.value
  if channels.length < 256 then some (UInt8.ofNat channels.length) else none

/-- One attribute of an `hwmon` directory. -/
structure HwmonAttribute where
  name : String
  path : String
  readable : Bool
  writable : Bool
deriving DecidableEq, Repr

/-- The curve points one temperature channel exposes. -/
structure CurveChannel where
  tempIndex : UInt8
  pointCount : UInt16
  writable : Bool
deriving DecidableEq, Repr

/-- The `hwmon` surface of a device bound to a kernel driver. -/
structure HwmonCapabilities where
  path : String
  attributes : List HwmonAttribute
  curvePoints : List CurveChannel
deriving DecidableEq, Repr

def HwmonCapabilities.attribute (hwmon : HwmonCapabilities) (name : String) : Option HwmonAttribute :=
  hwmon.attributes.find? fun a => a.name = name

inductive SupportState where
  | supported
  | unsupported (reason : String)
deriving DecidableEq, Repr

/-- What the probe established about one device. -/
structure DeviceRecord where
  support : SupportState
  id : DeviceId
  hwmon : Option HwmonCapabilities := none
  rgb : Option RgbTopology := none
  lcd : Option LcdTopology := none
  capabilities : List Capability
deriving DecidableEq

namespace DeviceRecord

def isSupported (device : DeviceRecord) : Bool := device.support = .supported

def capability (device : DeviceRecord) (id : CapabilityId) : Option Capability :=
  device.capabilities.find? fun c => c.id = id

def canWrite (device : DeviceRecord) (id : CapabilityId) : Bool :=
  device.isSupported && (device.capability id).any fun c => c.state.isWritable

end DeviceRecord

/-- The capability record for the whole machine. -/
structure CapabilityRecord where
  devices : List DeviceRecord
deriving DecidableEq

namespace CapabilityRecord

def device (record : CapabilityRecord) (id : DeviceId) : Option DeviceRecord :=
  record.devices.find? fun d => d.id = id

def supported (record : CapabilityRecord) : List DeviceRecord :=
  record.devices.filter fun d => d.isSupported

end CapabilityRecord

end Kori
