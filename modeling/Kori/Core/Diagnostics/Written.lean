import Kori.Core.Diagnostics
import Kori.Core.Diagnostics.Probed
import Kori.Faulty.Codec

/-! # How records and refusals are written -/

open Faulty

namespace Kori

/-! ## Names -/

def CapabilityId.spelling : CapabilityId → String
  | liquidTemperature => "liquid_temperature"
  | pumpSpeed => "pump_speed"
  | fanSpeed => "fan_speed"
  | pumpDuty => "pump_duty"
  | fanDuty => "fan_duty"
  | pumpCurve => "pump_curve"
  | fanCurve => "fan_curve"
  | rgbFixedColor => "rgb_fixed_color"
  | rgbEffects => "rgb_effects"
  | lcdFrame => "lcd_frame"
  | lcdDisplayControl => "lcd_display_control"

def CapabilityId.codec : Codec CapabilityId :=
  .named spelling [liquidTemperature, pumpSpeed, fanSpeed, pumpDuty, fanDuty, pumpCurve, fanCurve, rgbFixedColor,
    rgbEffects, lcdFrame, lcdDisplayControl] fun id => by cases id <;> rfl

def Channel.codec : Codec Channel :=
  .named (fun | .pump => "pump" | .fan => "fan") [.pump, .fan] fun channel => by cases channel <;> rfl

def Collector.codec : Codec Collector :=
  .named (fun | .kraken => "kraken" | .cpu => "cpu" | .gpu => "gpu" | .memory => "memory")
    [.kraken, .cpu, .gpu, .memory] fun collector => by cases collector <;> rfl

def LcdPanelShape.codec : Codec LcdPanelShape :=
  .named (fun | .circular => "circular" | .square => "square") [.circular, .square] fun shape => by cases shape <;> rfl

/-! ## The capability record -/

def DeviceId.codec : Codec DeviceId :=
  .object (.as (.both (.field "vendor" .word) (.field "product" .word)) (fun p => ⟨p.1, p.2⟩) fun id =>
    (id.vendor, id.product))

namespace Evidenced

variable {α : Type}

def kind : Evidenced α → String
  | known .. => "known"
  | unknown .. => "unknown"

def variants (codec : Codec α) : List (Variant "state" (@kind α)) := [
  .of "known" (.both (.field "value" codec) (.text "source") (show ∀ name ∈ ["value"], name ∉ ["source"] by decide))
    (fun p => known p.1 p.2)
    (fun
      | known value source => some (value, source)
      | _ => none)
    (show "state" ∉ ["value", "source"] by decide),
  .of "unknown" (.both (.text "reason") (.text "source")) (fun p => unknown p.1 p.2) fun
    | unknown reason source => some (reason, source)
    | _ => none]

def codec (inner : Codec α) : Codec (Evidenced α) :=
  .object (.tagged "state" kind (variants inner) fun evidence => by cases evidence <;> exact ⟨_, _, rfl, rfl⟩)

end Evidenced

def Evidenced.text : Codec (Evidenced String) := codec .text

namespace CapabilityState

def kind : CapabilityState → String
  | available .. => "available"
  | unvalidated _ => "unvalidated"
  | unavailable _ => "unavailable"

def variants : List (Variant "state" kind) := [
  .of "available" (.both (.flag "writable") (.text "source")) (fun p => available p.1 p.2) fun
    | available writable source => some (writable, source)
    | _ => none,
  .of "unvalidated" (.text "reason") unvalidated fun
    | unvalidated reason => some reason
    | _ => none,
  .of "unavailable" (.text "reason") unavailable fun
    | unavailable reason => some reason
    | _ => none]

def codec : Codec CapabilityState :=
  .object (.tagged "state" kind variants fun state => by cases state <;> exact ⟨_, _, rfl, rfl⟩)

end CapabilityState

namespace SupportState

def kind : SupportState → String
  | supported => "supported"
  | unsupported _ => "unsupported"

def variants : List (Variant "state" kind) := [
  .of "supported" .empty (fun _ => supported) fun
    | supported => some ()
    | _ => none,
  .of "unsupported" (.text "reason") unsupported fun
    | unsupported reason => some reason
    | _ => none]

def codec : Codec SupportState :=
  .object (.tagged "state" kind variants fun state => by cases state <;> exact ⟨_, _, rfl, rfl⟩)

end SupportState

namespace HardwareState

def kind : HardwareState → String
  | onboard => "onboard"
  | confirmed => "confirmed"
  | notApplied _ => "not_applied"
  | uncertain _ => "uncertain"

def variants : List (Variant "state" kind) := [
  .of "onboard" .empty (fun _ => onboard) fun
    | onboard => some ()
    | _ => none,
  .of "confirmed" .empty (fun _ => confirmed) fun
    | confirmed => some ()
    | _ => none,
  .of "not_applied" (.text "reason") notApplied fun
    | notApplied reason => some reason
    | _ => none,
  .of "uncertain" (.text "reason") uncertain fun
    | uncertain reason => some reason
    | _ => none]

def codec : Codec HardwareState :=
  .object (.tagged "state" kind variants fun hardware => by cases hardware <;> exact ⟨_, _, rfl, rfl⟩)

end HardwareState

def Capability.codec : Codec Capability :=
  .object (.as (.both (.field "id" CapabilityId.codec) (.field "state" CapabilityState.codec)) (fun p => ⟨p.1, p.2⟩)
    fun capability => (capability.id, capability.state))

def LcdPanel.codec : Codec LcdPanel :=
  .object (.as (.both (.field "width" .word) (.both (.field "height" .word) (.both (.field "shape" LcdPanelShape.codec)
    (.both (.text "pixel_format") (.both (.field "frame_bytes" .doubleWord) (.both (.byte "bulk_endpoint")
      (.byte "bulk_interface"))))))) (fun ⟨width, height, shape, format, bytes, endpoint, interface⟩ =>
        ⟨width, height, shape, format, bytes, endpoint, interface⟩)
    fun panel => (panel.width, panel.height, panel.shape, panel.pixelFormat, panel.frameBytes, panel.bulkEndpoint,
      panel.bulkInterface))

def LcdDisplaySettings.codec : Codec LcdDisplaySettings :=
  .object (.as (.both (.byte "brightness_percent") (.byte "quarter_turns")) (fun p => ⟨p.1, p.2⟩) fun settings =>
    (settings.brightnessPercent, settings.quarterTurns))

def LcdTopology.codec : Codec LcdTopology :=
  .object (.as (.both (.field "hid_node" Evidenced.text) (.both (.field "bulk_node" Evidenced.text)
    (.both (.field "firmware" Evidenced.text) (.both (.field "panel" (Evidenced.codec LcdPanel.codec))
      (.field "display" (Evidenced.codec LcdDisplaySettings.codec))))))
    (fun ⟨hidNode, bulkNode, firmware, panel, display⟩ => ⟨hidNode, bulkNode, firmware, panel, display⟩)
    fun topology => (topology.hidNode, topology.bulkNode, topology.firmware, topology.panel, topology.display))

def RgbAccessory.codec : Codec RgbAccessory :=
  .object (.as (.both (.byte "id") (.text "name")) (fun p => ⟨p.1, p.2⟩) fun accessory => (accessory.id, accessory.name))

def RgbChannel.codec : Codec RgbChannel :=
  .object (.as (.both (.byte "index") (.both (.field "accessories" (.list RgbAccessory.codec))
    (.field "led_count" (Evidenced.codec .word)))) (fun ⟨index, accessories, ledCount⟩ => ⟨index, accessories, ledCount⟩)
    fun channel => (channel.index, channel.accessories, channel.ledCount))

def RgbTopology.codec : Codec RgbTopology :=
  .object (.as (.both (.field "node" Evidenced.text) (.both (.field "firmware" Evidenced.text)
    (.field "channels" (Evidenced.codec (.list RgbChannel.codec))))) (fun ⟨node, firmware, channels⟩ =>
      ⟨node, firmware, channels⟩)
    fun topology => (topology.node, topology.firmware, topology.channels))

def CurveChannel.codec : Codec CurveChannel :=
  .object (.as (.both (.byte "temp_index") (.both (.field "point_count" .word) (.flag "writable")))
    (fun ⟨tempIndex, pointCount, writable⟩ => ⟨tempIndex, pointCount, writable⟩)
    fun channel => (channel.tempIndex, channel.pointCount, channel.writable))

namespace Probed

def UsbEndpoint.codec : Codec UsbEndpoint :=
  .object (.as (.both (.byte "address") (.both (.text "direction") (.both (.text "transfer")
    (.both (.field "max_packet_size" .word) (.byte "interval")))))
    (fun ⟨address, direction, transfer, maxPacketSize, interval⟩ =>
      ⟨address, direction, transfer, maxPacketSize, interval⟩)
    fun endpoint => (endpoint.address, endpoint.direction, endpoint.transfer, endpoint.maxPacketSize, endpoint.interval))

def UsbInterface.codec : Codec UsbInterface :=
  .object (.as (.both (.byte "number") (.both (.byte "class") (.both (.byte "subclass") (.both (.byte "protocol")
    (.both (.field "driver" Evidenced.text) (.field "endpoints" (.list UsbEndpoint.codec)))))))
    (fun ⟨number, classCode, subclass, protocol, driver, endpoints⟩ =>
      ⟨number, classCode, subclass, protocol, driver, endpoints⟩)
    fun interface => (interface.number, interface.classCode, interface.subclass, interface.protocol, interface.driver,
      interface.endpoints))

def UsbIdentity.codec : Codec UsbIdentity :=
  .object (.as (.both (.field "id" DeviceId.codec) (.both (.field "manufacturer" Evidenced.text)
    (.both (.field "product" Evidenced.text) (.both (.field "serial" Evidenced.text)
      (.both (.field "firmware" Evidenced.text) (.text "sysfs_path"))))))
    (fun ⟨id, manufacturer, product, serial, firmware, sysfsPath⟩ =>
      ⟨id, manufacturer, product, serial, firmware, sysfsPath⟩)
    fun usb => (usb.id, usb.manufacturer, usb.product, usb.serial, usb.firmware, usb.sysfsPath))

def HwmonAttribute.codec : Codec HwmonAttribute :=
  .object (.as (.both (.text "name") (.both (.text "path") (.both (.flag "readable") (.both (.flag "writable")
    (.field "label" Evidenced.text)))))
    (fun ⟨name, path, readable, writable, label⟩ => ⟨⟨name, path, readable, writable⟩, label⟩)
    fun file => (file.name, file.path, file.readable, file.writable, file.label))

def HwmonCapabilities.codec : Codec HwmonCapabilities :=
  .object (.as (.both (.text "driver") (.both (.text "path") (.both (.field "attributes" (.list HwmonAttribute.codec))
    (.field "curve_points" (.list CurveChannel.codec)))))
    (fun ⟨driver, path, attributes, curvePoints⟩ => ⟨driver, path, attributes, curvePoints⟩)
    fun hwmon => (hwmon.driver, hwmon.path, hwmon.attributes, hwmon.curvePoints))

def DeviceRecord.codec : Codec DeviceRecord :=
  .object (.as (.both (.field "support" SupportState.codec) (.both (.field "usb" UsbIdentity.codec)
    (.both (.field "interfaces" (.list UsbInterface.codec))
      (.both (.optional "hwmon" HwmonCapabilities.codec fun _ h => nomatch h)
        (.both (.optional "rgb" RgbTopology.codec fun _ h => nomatch h)
          (.both (.optional "lcd" LcdTopology.codec fun _ h => nomatch h)
            (.field "capabilities" (.list Capability.codec))))))))
    (fun ⟨support, usb, interfaces, hwmon, rgb, lcd, capabilities⟩ =>
      ⟨support, usb, interfaces, hwmon, rgb, lcd, capabilities⟩)
    fun device => (device.support, device.usb, device.interfaces, device.hwmon, device.rgb, device.lcd,
      device.capabilities))

def ProbeContext.codec : Codec ProbeContext :=
  .object (.as (.both (.field "kernel_release" Evidenced.text) (.natural "probed_at_unix_ms")) (fun p => ⟨p.1, p.2⟩)
    fun context => (context.kernelRelease, context.probedAtUnixMs))

def RejectedDevice.codec : Codec RejectedDevice :=
  .object (.as (.both (.field "id" DeviceId.codec) (.both (.text "sysfs_path") (.text "reason")))
    (fun ⟨id, sysfsPath, reason⟩ => ⟨id, sysfsPath, reason⟩) fun device => (device.id, device.sysfsPath, device.reason))

def CapabilityRecord.codec : Codec CapabilityRecord :=
  .object (.as (.both (.field "schema_version" .doubleWord) (.both (.field "context" ProbeContext.codec)
    (.both (.field "devices" (.list DeviceRecord.codec)) (.field "rejected" (.list RejectedDevice.codec)))))
    (fun ⟨schemaVersion, context, devices, rejected⟩ => ⟨schemaVersion, context, devices, rejected⟩)
    fun record => (record.schemaVersion, record.context, record.devices, record.rejected))

end Probed

end Kori
