import Kori.Core.Capability
import Kori.Hardware.Lcd
import Kori.Hardware.Rgb

/-! # What decides whether a write is permitted -/

namespace Kori

/-- Swaps some of a device's capabilities for a freshly resolved set. -/
def replaceCapabilities (device : DeviceRecord) (replaced : List CapabilityId)
    (fresh : List Capability) : DeviceRecord :=
  { device with
    capabilities := (device.capabilities.filter fun c => !replaced.contains c.id) ++ fresh }

/-- The last two rungs both ladders share: a firmware, and a validated one. The answer is the
refusal, when there is one. -/
def firmwareGate (firmware : Evidenced String) (isValidated : String → Bool) (subject : String) :
    Option CapabilityState :=
  match firmware.value with
  | none => some (.unvalidated (s!"The {subject} did not report a firmware revision, so its command " ++
      "set cannot be matched against a validated one."))
  | some firmware =>
    if isValidated firmware then none
    else some (.unvalidated s!"Firmware {firmware} is not validated for this operation.")

/-! ## The panel -/

def lcdState (topology : Option LcdTopology) : CapabilityState :=
  match topology with
  | none => .unvalidated "The panel transport is not recorded yet."
  | some topology =>
    match topology.hidNode.value with
    | none => .unavailable (topology.hidNode.reason.getD "The device exposes no usable node.")
    | some node =>
      if ¬ topology.answered then
        .unvalidated ("The panel did not answer, so this unit may carry no display. " ++
          topology.display.reason.getD "No reason was recorded.")
      else
        -- Another generation is refused by name, before the revision is asked about.
        match topology.firmware.value.filter
            (LcdLink.firmwareMajor · ≠ some LcdLink.SUPPORTED_FIRMWARE_MAJOR) with
        | some firmware => .unvalidated (s!"Firmware {firmware} is not the " ++
            s!"{LcdLink.SUPPORTED_FIRMWARE_MAJOR.toNat}.x generation this transfer sequence was written for.")
        | none =>
          (firmwareGate topology.firmware LcdLink.isValidatedFirmware "panel").getD (.available true node)

/-- A frame needs the bulk interface besides what the brightness needs. -/
def lcdFrameState (topology : Option LcdTopology) : CapabilityState :=
  match lcdState topology, topology with
  | .available writable source, some topology =>
    if topology.bulkNode.isKnown then .available writable source
    else .unavailable (topology.bulkNode.reason.getD "The bulk interface could not be claimed.")
  | state, _ => state

def lcdCapabilities (topology : Option LcdTopology) : List Capability :=
  [⟨.lcdFrame, lcdFrameState topology⟩, ⟨.lcdDisplayControl, lcdState topology⟩]

/-! ## The lighting controller -/

def rgbState (topology : Option RgbTopology) : CapabilityState :=
  match topology with
  | none => .unvalidated "The channel topology and packet format are not recorded yet."
  | some topology =>
    match topology.node.value with
    | none => .unavailable (topology.node.reason.getD "The controller exposes no usable node.")
    | some node =>
      match topology.channels.reason with
      | some reason => .unvalidated ("The channel topology is not readable. " ++ reason)
      | none =>
        if topology.channelCount.getD 0 = 0 then
          .unvalidated "The controller reported zero lighting channels."
        else
          (firmwareGate topology.firmware RgbController.isValidatedFirmware "controller").getD
            (.available true node)

def rgbCapabilities (topology : Option RgbTopology) : List Capability :=
  [CapabilityId.rgbFixedColor, .rgbEffects].map fun id => ⟨id, rgbState topology⟩

/-! ## Folding an answer into the record -/

def LCD_CAPABILITIES : List CapabilityId := [.lcdFrame, .lcdDisplayControl]
def RGB_CAPABILITIES : List CapabilityId := [.rgbFixedColor, .rgbEffects]

namespace DeviceRecord

def withLcd (device : DeviceRecord) (topology : LcdTopology) : DeviceRecord :=
  { replaceCapabilities device LCD_CAPABILITIES (lcdCapabilities (some topology)) with
    lcd := some topology }

def withRgb (device : DeviceRecord) (topology : RgbTopology) : DeviceRecord :=
  { replaceCapabilities device RGB_CAPABILITIES (rgbCapabilities (some topology)) with
    rgb := some topology }

end DeviceRecord

/-- Changes the first device with an identifier, when there is one. -/
def updateDevice (id : DeviceId) (change : DeviceRecord → DeviceRecord) :
    List DeviceRecord → List DeviceRecord
  | [] => []
  | device :: rest =>
    if device.id = id then change device :: rest else device :: updateDevice id change rest

namespace CapabilityRecord

def attachLcdTopology (record : CapabilityRecord) (topology : LcdTopology) : CapabilityRecord :=
  { record with devices := updateDevice KRAKEN_BASE (·.withLcd topology) record.devices }

def attachRgbTopology (record : CapabilityRecord) (topology : RgbTopology) : CapabilityRecord :=
  { record with devices := updateDevice RGB_CONTROLLER (·.withRgb topology) record.devices }

end CapabilityRecord

end Kori
