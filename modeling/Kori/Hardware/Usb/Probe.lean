import Kori.Hardware.Usb

/-! # The whole record of the probe -/

namespace Kori

/-- Version of the record's schema. -/
def CAPABILITY_SCHEMA_VERSION : UInt32 := 3

namespace SysfsTree

variable (tree : SysfsTree)

/-- The driver-published label of a reading, when it publishes one. -/
def labelFor (directory : SysPath) (name : String) : Evidenced String :=
  match name.toList.dropSuffix? "_input".toList with
  | none => .unknown "attribute has no label" (name ++ " (no label)")
  | some base =>
    let labelFile := String.ofList base ++ "_label"
    match tree.readAttribute directory labelFile with
    | some label => .known (String.ofList label) (directory.display ++ "/" ++ labelFile)
    | none => .unknown "driver publishes no label for this reading" (directory.display ++ "/" ++ labelFile)

/-- A `hwmon` instance that resolves to a USB device, with its canonical directory. -/
def instanceAt (entry : SysPath) : Option (SysPath × HwmonInstance) := do
  let found := tree.hwmonEntry entry
  let driver ← found.name
  let device ← found.owner
  return ((tree.canonical entry).getD entry, { device, driver, path := found.path, files := found.files })

/-- Every attribute of one instance, with its label. -/
def hwmonCapabilities (directory : SysPath) (found : HwmonInstance) : Probed.HwmonCapabilities :=
  let read := readCapabilities found
  { driver := found.driver, path := read.path,
    attributes := read.attributes.map fun entry => { entry with label := tree.labelFor directory entry.name }
    curvePoints := read.curvePoints }

/-- The record of one allowlisted device. -/
def deviceRecord (device : DiscoveredDevice) : Probed.DeviceRecord :=
  let hwmon := (((tree.sortedEntries tree.hwmon).filterMap tree.instanceAt).find? fun found =>
    found.2.device = device.id).map fun found => tree.hwmonCapabilities found.1 found.2
  { support := .supported, usb := tree.identity device.id device.path, interfaces := tree.interfaces device.path, hwmon,
    rgb := none, lcd := none, capabilities := capabilitiesFor device.id (hwmon.map Probed.HwmonCapabilities.view) }

/-- A complete read-only probe. -/
def probe (context : Probed.ProbeContext) : Probed.CapabilityRecord :=
  let (devices, rejected) := tree.enumerate.partition fun device => isAllowlisted device.id
  { schemaVersion := CAPABILITY_SCHEMA_VERSION, context, devices := devices.map tree.deviceRecord,
    rejected := rejected.map fun device =>
      { id := device.id, sysfsPath := device.path.display,
        reason := "Device is not on the validated allowlist. Nothing was opened." } }

/-! ## What controls read of it -/

theorem view_hwmonCapabilities (directory : SysPath) (found : HwmonInstance) :
    (tree.hwmonCapabilities directory found).view = readCapabilities found := by
  unfold hwmonCapabilities Probed.HwmonCapabilities.view
  dsimp only
  rw [List.map_map]
  exact congrArg (fun attributes => { readCapabilities found with attributes }) (List.map_id _)

theorem map_instanceAt : ((tree.sortedEntries tree.hwmon).filterMap tree.instanceAt).map Prod.snd =
    HwmonInstance.discover tree.sysfs := by
  unfold HwmonInstance.discover sysfs
  rw [List.filterMap_map, List.map_filterMap]
  congr 1
  funext entry
  unfold instanceAt
  simp only [Function.comp_apply]
  cases (tree.hwmonEntry entry).name with
  | none => rfl
  | some driver =>
    cases (tree.hwmonEntry entry).owner with
    | none => rfl
    | some device => rfl

theorem view_deviceRecord (device : DiscoveredDevice) :
    (tree.deviceRecord device).view = probeDevice tree.sysfs device.id := by
  have hhwmon : ((((tree.sortedEntries tree.hwmon).filterMap tree.instanceAt).find? fun found =>
      found.2.device = device.id).map fun found => tree.hwmonCapabilities found.1 found.2).map
        Probed.HwmonCapabilities.view =
      ((HwmonInstance.discover tree.sysfs).find? fun found => found.device = device.id).map readCapabilities := by
    rw [← map_instanceAt, List.find?_map, Option.map_map, Option.map_map]
    congr 1
    exact funext fun found => tree.view_hwmonCapabilities found.1 found.2
  unfold deviceRecord Probed.DeviceRecord.view probeDevice
  dsimp only
  rw [hhwmon]
  rfl

/-- Every device found is in the record exactly once, by bus path, among the ones read or the ones left alone; and what
controls read of it is what the sensors and the bus are read for. -/
theorem probe_accounts (context : Probed.ProbeContext) :
    let record := tree.probe context
    record.view = Kori.probe tree.sysfs ∧
      record.devices.map (fun device => device.usb.id) = (tree.enumerate.map DiscoveredDevice.id).filter isAllowlisted ∧
      record.rejected.map (fun device => device.id) =
        (tree.enumerate.map DiscoveredDevice.id).filter fun id => !isAllowlisted id := by
  intro record
  have hdevices : record.devices = (tree.enumerate.filter fun device => isAllowlisted device.id).map tree.deviceRecord := by
    change (tree.enumerate.partition fun device => isAllowlisted device.id).1.map tree.deviceRecord = _
    rw [List.partition_eq_filter_filter]
  have hrejected : record.rejected.map (fun device => device.id) =
      (tree.enumerate.filter fun device => !isAllowlisted device.id).map DiscoveredDevice.id := by
    change ((tree.enumerate.partition fun device => isAllowlisted device.id).2.map _).map _ = _
    rw [List.partition_eq_filter_filter, List.map_map]
    rfl
  refine ⟨?_, ?_, ?_⟩
  · unfold Probed.CapabilityRecord.view
    rw [hdevices, List.map_map]
    have hview : (fun device => Probed.DeviceRecord.view device) ∘ tree.deviceRecord =
        probeDevice tree.sysfs ∘ DiscoveredDevice.id := funext tree.view_deviceRecord
    rw [hview, ← List.map_map]
    unfold Kori.probe
    rw [sysfs, List.filter_map]
    rfl
  · rw [hdevices, List.map_map, List.filter_map]
    rfl
  · rw [hrejected, List.filter_map]
    rfl

end SysfsTree

end Kori
