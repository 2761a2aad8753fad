import Kori.Hardware.Gates
import Kori.Hardware.Hwmon

/-! # The capability record the probe assembles -/

namespace Kori

def ALLOWLIST : List DeviceId := [KRAKEN_BASE, RGB_CONTROLLER]

def isAllowlisted (id : DeviceId) : Bool := ALLOWLIST.contains id

/-! ## What the machine exposes -/

/-- One entry of an `hwmon` directory, and what `access` permits on it. -/
structure SysfsFile where
  name : String
  isFile : Bool
  readable : Bool
  writable : Bool
deriving DecidableEq, Repr

/-- One `hwmon` instance: the text of its name, the USB device it resolves to, its canonical
directory, and the entries there in name order. -/
structure HwmonEntry where
  name : Option String
  owner : Option DeviceId
  path : String
  files : List SysfsFile
deriving DecidableEq, Repr

/-- The USB identities sysfs exposes, in bus order, and the `hwmon` instances, in name order. -/
structure Sysfs where
  usb : List DeviceId
  hwmon : List HwmonEntry
deriving DecidableEq, Repr

/-! ## `hwmon` discovery -/

def KRAKEN_DRIVER : String := "kraken2023"

/-- A `hwmon` instance that resolves to a USB device. -/
structure HwmonInstance where
  device : DeviceId
  driver : String
  path : String
  files : List SysfsFile
deriving DecidableEq, Repr

namespace HwmonInstance

def discover (root : Sysfs) : List HwmonInstance :=
  root.hwmon.filterMap fun entry => do
    let driver ← entry.name
    let device ← entry.owner
    return { device, driver, path := entry.path, files := entry.files }

/-- The `kraken2023` instance the writes go to. -/
def locate (root : Sysfs) : Option HwmonInstance :=
  (discover root).find? fun found => found.device = KRAKEN_BASE ∧ found.driver = KRAKEN_DRIVER

/-- A file of the directory existed and could be written. -/
def canWrite (found : HwmonInstance) (name : String) : Bool :=
  found.files.any fun file => file.name = name && file.writable

def exposes (found : HwmonInstance) (name : String) : Bool :=
  found.files.any fun file => file.name = name

end HwmonInstance

/-- The temperature channel of a `tempN_auto_pointM_pwm` name. -/
def parseCurvePoint (name : String) : Option UInt8 := do
  let rest ← name.toList.dropPrefix? "temp".toList
  let (index, rest) ← Text.splitOnce "_auto_point".toList rest
  let point ← rest.dropSuffix? "_pwm".toList
  let _ ← Text.parseU16 point
  Text.parseU8 index

/-- Counts one more curve point into its channel. -/
def countPoint (index : UInt8) (writable : Bool) : List CurveChannel → List CurveChannel
  | [] => [{ tempIndex := index, pointCount := 1, writable }]
  | channel :: rest =>
    if channel.tempIndex = index then
      { channel with pointCount := channel.pointCount + 1, writable := channel.writable && writable } :: rest
    else channel :: countPoint index writable rest

/-- The curve points exposed per temperature channel. -/
def curveChannels (files : List SysfsFile) : List CurveChannel :=
  let channels := files.foldl (fun channels file =>
    match parseCurvePoint file.name with
    | none => channels
    | some index => countPoint index file.writable channels) []
  channels.mergeSort fun a b => a.tempIndex ≤ b.tempIndex

def curveIsComplete (channel : CurveChannel) : Bool := channel.pointCount.toNat = CURVE_POINT_COUNT

/-- Reads every attribute of one instance. Curve points are summarized per channel instead of listed
one by one. -/
def readCapabilities (found : HwmonInstance) : HwmonCapabilities :=
  { path := found.path
    attributes := found.files.filterMap fun file =>
      if ¬ file.isFile ∨ file.name = "uevent" then none
      else if (Text.splitOnce "auto_point".toList file.name.toList).isSome then none
      else some
        { name := file.name, path := found.path ++ "/" ++ file.name,
          readable := file.readable, writable := file.writable }
    curvePoints := curveChannels found.files }

/-! ## The capabilities of a device -/

/-- A reading is never writable, whatever the file mode says. -/
def readingState (hwmon : HwmonCapabilities) (attr : String) : CapabilityState :=
  match hwmon.attribute attr with
  | some entry =>
    if entry.readable then .available false entry.path
    else .unavailable (entry.path ++ " is present but not readable.")
  | none => .unavailable (attr ++ " is absent from " ++ hwmon.path ++ ".")

def controlState (hwmon : HwmonCapabilities) (attr : String) : CapabilityState :=
  match hwmon.attribute attr with
  | some entry => .available entry.writable entry.path
  | none => .unavailable (attr ++ " is absent from " ++ hwmon.path ++ ".")

def curveState (hwmon : HwmonCapabilities) (tempIndex : UInt8) : CapabilityState :=
  match hwmon.curvePoints.find? fun channel => channel.tempIndex = tempIndex with
  | some channel =>
    if curveIsComplete channel then
      .available channel.writable (hwmon.path ++ s!"/temp{tempIndex.toNat}_auto_point*_pwm")
    else .unavailable (s!"temp{tempIndex.toNat} exposes {channel.pointCount.toNat} curve points, not " ++
      "the 40 the ABI requires.")
  | none => .unavailable s!"temp{tempIndex.toNat} exposes no curve points."

/-- The capabilities of the thermal path, in the order of the record. -/
def THERMAL_CAPABILITIES : List CapabilityId :=
  [.liquidTemperature, .pumpSpeed, .fanSpeed, .pumpDuty, .fanDuty, .pumpCurve, .fanCurve]

def krakenCapabilities (hwmon : Option HwmonCapabilities) : List Capability :=
  match hwmon with
  | none => THERMAL_CAPABILITIES.map fun id =>
      ⟨id, .unavailable s!"No {KRAKEN_DRIVER} hwmon instance is bound to this device."⟩
  | some hwmon =>
    [⟨.liquidTemperature, readingState hwmon "temp1_input"⟩,
     ⟨.pumpSpeed, readingState hwmon "fan1_input"⟩,
     ⟨.fanSpeed, readingState hwmon "fan2_input"⟩,
     ⟨.pumpDuty, controlState hwmon "pwm1"⟩,
     ⟨.fanDuty, controlState hwmon "pwm2"⟩,
     ⟨.pumpCurve, curveState hwmon 1⟩,
     ⟨.fanCurve, curveState hwmon 2⟩]

/-- Every capability of one allowlisted device. The surfaces that need an answer of the device start
from no topology. -/
def capabilitiesFor (id : DeviceId) (hwmon : Option HwmonCapabilities) : List Capability :=
  if id = KRAKEN_BASE then krakenCapabilities hwmon ++ lcdCapabilities none
  else if id = RGB_CONTROLLER then rgbCapabilities none
  else []

/-- The record of one discovered device. -/
def probeDevice (root : Sysfs) (id : DeviceId) : DeviceRecord :=
  let hwmon := ((HwmonInstance.discover root).find? fun found => found.device = id).map readCapabilities
  { support := .supported, id, hwmon, capabilities := capabilitiesFor id hwmon }

/-- A complete read-only probe of the machine. -/
def probe (root : Sysfs) : CapabilityRecord :=
  { devices := (root.usb.filter fun id => isAllowlisted id).map (probeDevice root) }

end Kori
