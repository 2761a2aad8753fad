import Kori.Core.Capability

/-! # The capability record as the probe fills it in -/

namespace Kori.Probed

/-- One endpoint of a USB interface, as sysfs describes it. -/
structure UsbEndpoint where
  address : UInt8
  direction : String
  transfer : String
  maxPacketSize : UInt16
  interval : UInt8

/-- A USB interface of a probed device, with the driver the kernel bound to it. -/
structure UsbInterface where
  number : UInt8
  classCode : UInt8
  subclass : UInt8
  protocol : UInt8
  driver : Evidenced String
  endpoints : List UsbEndpoint

/-- Stable identity of a probed USB device. -/
structure UsbIdentity where
  id : DeviceId
  manufacturer : Evidenced String
  product : Evidenced String
  serial : Evidenced String
  firmware : Evidenced String
  sysfsPath : String

structure HwmonAttribute extends Kori.HwmonAttribute where
  label : Evidenced String

structure HwmonCapabilities where
  driver : String
  path : String
  attributes : List HwmonAttribute
  curvePoints : List CurveChannel

structure DeviceRecord where
  support : SupportState
  usb : UsbIdentity
  interfaces : List UsbInterface
  hwmon : Option HwmonCapabilities
  rgb : Option RgbTopology
  lcd : Option LcdTopology
  capabilities : List Capability

/-- Context of the machine the probe ran on. -/
structure ProbeContext where
  kernelRelease : Evidenced String
  probedAtUnixMs : Nat

/-- A device seen during enumeration and deliberately left untouched. -/
structure RejectedDevice where
  id : DeviceId
  sysfsPath : String
  reason : String

structure CapabilityRecord where
  schemaVersion : UInt32
  context : ProbeContext
  devices : List DeviceRecord
  rejected : List RejectedDevice

/-! ## What controls read of a record -/

def HwmonCapabilities.view (hwmon : HwmonCapabilities) : Kori.HwmonCapabilities :=
  { path := hwmon.path, attributes := hwmon.attributes.map (·.toHwmonAttribute), curvePoints := hwmon.curvePoints }

def DeviceRecord.view (device : DeviceRecord) : Kori.DeviceRecord :=
  { support := device.support, id := device.usb.id, hwmon := device.hwmon.map (·.view), rgb := device.rgb
    lcd := device.lcd, capabilities := device.capabilities }

def CapabilityRecord.view (record : CapabilityRecord) : Kori.CapabilityRecord := ⟨record.devices.map (·.view)⟩

/-! ## Serial numbers -/

def DeviceRecord.withSerial (device : DeviceRecord) (serial : Evidenced String) : DeviceRecord :=
  { device with usb := { device.usb with serial } }

namespace CapabilityRecord

def redactSerials (record : CapabilityRecord) : CapabilityRecord :=
  { record with
    devices := record.devices.map fun device =>
      device.withSerial (.unknown "redacted" "policy:redact-serials") }

/-- The record of the same machine, whose devices answer other serial numbers. -/
def withSerials (record : CapabilityRecord) (serial : DeviceRecord → Evidenced String) : CapabilityRecord :=
  { record with devices := record.devices.map fun device => device.withSerial (serial device) }

variable (record : CapabilityRecord)

theorem redactSerials_withSerials (serial : DeviceRecord → Evidenced String) :
    (record.withSerials serial).redactSerials = record.redactSerials := by
  unfold redactSerials withSerials
  rw [List.map_map]
  rfl

theorem serial_redactSerials {device : DeviceRecord} (h : device ∈ record.redactSerials.devices) :
    device.usb.serial = .unknown "redacted" "policy:redact-serials" := by
  obtain ⟨_, -, rfl⟩ := List.mem_map.mp h
  rfl

end CapabilityRecord

end Kori.Probed
