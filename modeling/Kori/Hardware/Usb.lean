import Kori.Core.Diagnostics.Probed
import Kori.Daemon.Startup
import Kori.Hardware.Sample
import Mathlib.Data.String.Basic

/-! # The devices on the bus, walked through sysfs, and the claim of an interface -/

namespace Kori

/-- A path, innermost component first. -/
abbrev SysPath := List String

def SysPath.display (path : SysPath) : String := "/" ++ String.intercalate "/" path.reverse

namespace Text

/-- `u16::from_str_radix` in base 16, as for `u32`. -/
def parseHexU16 (text : List Char) : Option UInt16 := do
  let n ← hexDigits (match text with | '+' :: rest => rest | _ => text)
  if n < 65536 then some (UInt16.ofNat n) else none

/-- `u8::from_str_radix`, in the same way. -/
def parseHexU8 (text : List Char) : Option UInt8 := do
  let n ← hexDigits (match text with | '+' :: rest => rest | _ => text)
  if n < 256 then some (UInt8.ofNat n) else none

end Text

/-- What the file system answers about the tree: what a file reads as, what a directory lists and in which order, where a
link points, what a path resolves to, which entries are directories themselves, and what may be done to a file. -/
structure SysfsTree where
  root : SysPath
  files : Files
  names : SysPath → List String
  link : SysPath → Option SysPath
  canonical : SysPath → Option SysPath
  directory : SysPath → Bool
  isFile : SysPath → Bool
  readable : SysPath → Bool
  writable : SysPath → Bool

/-- A USB device found on the bus, before the allowlist is consulted. -/
structure DiscoveredDevice where
  id : DeviceId
  path : SysPath
deriving DecidableEq

namespace SysfsTree

variable (tree : SysfsTree)

def usbDevices : SysPath := "devices" :: "usb" :: "bus" :: tree.root

def hwmon : SysPath := "hwmon" :: "class" :: tree.root

/-- Directory entries, sorted by name. -/
def sortedEntries (path : SysPath) : List SysPath :=
  ((tree.names path).mergeSort fun a b => a ≤ b).map fun name => name :: path

def readAttribute (directory : SysPath) (name : String) : Option (List Char) :=
  (tree.files.readAttributeDetailed directory.display name).toOption

def readHexU16 (directory : SysPath) (name : String) : Option UInt16 :=
  (tree.readAttribute directory name).bind Text.parseHexU16

def readHexU8 (directory : SysPath) (name : String) : Option UInt8 :=
  (tree.readAttribute directory name).bind Text.parseHexU8

/-- The kernel driver bound to a directory, from its `driver` link. -/
def boundDriver (path : SysPath) : Option String := (tree.link ("driver" :: path)).bind List.head?

/-! ## Devices -/

/-- Both identifiers of a directory, where it publishes them. -/
def identifiers (path : SysPath) : Option DeviceId := do
  let vendor ← tree.readHexU16 path "idVendor"
  let product ← tree.readHexU16 path "idProduct"
  return { vendor, product }

/-- Every USB device, by bus path. -/
def enumerate : List DiscoveredDevice :=
  (tree.sortedEntries tree.usbDevices).filterMap fun path =>
    (tree.identifiers path).map fun id => { id, path }

/-- The identity of a device directory. -/
def identity (id : DeviceId) (path : SysPath) : Probed.UsbIdentity :=
  let source := path.display
  let field (name : String) : Evidenced String :=
    match tree.readAttribute path name with
    | some value => .known (String.ofList value) (source ++ "/" ++ name)
    | none => .unknown (name ++ " is not exposed by the device") (source ++ "/" ++ name)
  { id, manufacturer := field "manufacturer", product := field "product", serial := field "serial",
    firmware := field "bcdDevice", sysfsPath := source }

/-- Interface directories of a device, in name order: `<device>:<config>.<interface>`. -/
def interfaceDirs (device : SysPath) : List SysPath :=
  match device.head? with
  | none => []
  | some name =>
    (tree.sortedEntries device).filter fun entry => entry.head?.any fun found => (name ++ ":").isPrefixOf found

/-- The kernel driver bound to one interface of a device. -/
def interfaceDriver (device : SysPath) (interface : UInt8) : Option String :=
  ((tree.interfaceDirs device).find? fun entry => tree.readHexU8 entry "bInterfaceNumber" = some interface).bind
    tree.boundDriver

/-- Endpoints published by one interface, in address order. -/
def endpoints (interface : SysPath) : List Probed.UsbEndpoint :=
  let found := ((tree.sortedEntries interface).filter fun entry => entry.head?.any fun name => "ep_".isPrefixOf name)
    |>.filterMap fun entry => do
      let address ← tree.readHexU8 entry "bEndpointAddress"
      return { address, direction := String.ofList ((tree.readAttribute entry "direction").getD []),
               transfer := String.ofList ((tree.readAttribute entry "type").getD []),
               maxPacketSize := (tree.readHexU16 entry "wMaxPacketSize").getD 0,
               interval := (tree.readHexU8 entry "bInterval").getD 0 }
  found.mergeSort fun a b => a.address ≤ b.address

/-- What the record says of one interface directory; a directory without a number is not one. -/
def interface (entry : SysPath) : Option Probed.UsbInterface := do
  let number ← tree.readHexU8 entry "bInterfaceNumber"
  let source := entry.display
  return { number, classCode := (tree.readHexU8 entry "bInterfaceClass").getD 0xff,
           subclass := (tree.readHexU8 entry "bInterfaceSubClass").getD 0,
           protocol := (tree.readHexU8 entry "bInterfaceProtocol").getD 0,
           driver := match tree.boundDriver entry with
             | some driver => .known driver (source ++ "/driver")
             | none => .unknown "no kernel driver is bound to this interface" (source ++ "/driver"),
           endpoints := tree.endpoints entry }

/-- Interfaces of a device, with the kernel driver bound to each, by number. -/
def interfaces (device : SysPath) : List Probed.UsbInterface :=
  ((tree.interfaceDirs device).filterMap tree.interface).mergeSort fun a b => a.number ≤ b.number

/-- The `hidraw` node the kernel created for a device. -/
def hidrawNode (device : SysPath) : Option String :=
  (((tree.interfaceDirs device).flatMap tree.sortedEntries).flatMap fun entry => tree.sortedEntries ("hidraw" :: entry))
    |>.findSome? fun node => node.head?.bind fun name =>
      if "hidraw".isPrefixOf name then some ("/dev/" ++ name) else none

/-- Walks up to the directory that publishes both identifiers. The root itself is not looked at. -/
def ownerAbove : SysPath → Option (DeviceId × SysPath)
  | [] => none
  | name :: above =>
    match tree.identifiers (name :: above) with
    | some id => some (id, name :: above)
    | none => ownerAbove above

/-- The USB device directory that owns a path. -/
def owningDevice (start : SysPath) : Option (DeviceId × SysPath) := do
  let current ← tree.canonical start
  if current = [] then (tree.identifiers []).map fun id => (id, [])
  else tree.ownerAbove current

/-! ## What the probe starts from -/

/-- One entry of the sensors' class. -/
def hwmonEntry (entry : SysPath) : HwmonEntry :=
  let path := (tree.canonical entry).getD entry
  { name := (tree.readAttribute entry "name").map String.ofList
    owner := (tree.owningDevice ("device" :: entry)).map Prod.fst
    path := path.display
    files := (tree.sortedEntries path).filterMap fun file => file.head?.map fun name =>
      { name, isFile := tree.isFile file, readable := tree.readable file, writable := tree.writable file } }

def sysfs : Sysfs :=
  { usb := tree.enumerate.map DiscoveredDevice.id, hwmon := (tree.sortedEntries tree.hwmon).map tree.hwmonEntry }

/-- The directory of a device of the record. -/
def devicePath (id : DeviceId) : Option SysPath :=
  if isAllowlisted id then (tree.enumerate.find? fun device => device.id = id).map DiscoveredDevice.path else none

end SysfsTree

/-! ## The claim of an interface -/

/-- Why an interface could not be claimed. -/
inductive UsbfsError where
  | nodeAbsent (reason : String)
  | permissionDenied (path : String)
  | driverBound (interface : UInt8) (driver : String)
  | busy (interface : UInt8)
  | io (path detail : String)
deriving DecidableEq

inductive Errno where
  | access
  | perm
  | busy
  | other (detail : String)
deriving DecidableEq

namespace UsbfsError

def message : UsbfsError → String
  | nodeAbsent reason => s!"no usbfs node exists for the device: {reason}"
  | permissionDenied path => s!"permission denied on {path}. Check the installed udev rule."
  | driverBound interface driver => s!"interface {interface.toNat} is bound to {driver} and will not be claimed"
  | busy interface => s!"interface {interface.toNat} is already claimed by another process"
  | io path detail => s!"{path}: {detail}"

def ofIo (path : String) (error : IoError) : UsbfsError :=
  match error.kind with
  | .permissionDenied => .permissionDenied path
  | .notFound => .nodeAbsent (path ++ " does not exist")
  | .other => .io path error.detail

def ofErrno (path : String) (interface : UInt8) : Errno → UsbfsError
  | .access | .perm => .permissionDenied path
  | .busy => .busy interface
  | .other detail => .io path detail

end UsbfsError

/-- What the bus answers: the opening of a node, and the claim of an interface there. -/
structure Usbfs where
  root : String
  opened : String → Except IoError Unit
  claimed : String → UInt8 → Except Errno Unit

namespace Usbfs

/-- A number with at least three digits. -/
def threeDigits (n : UInt16) : String :=
  let digits := toString n.toNat
  String.ofList (List.replicate (3 - digits.length) '0') ++ digits

/-- The node of a device, from the bus and device numbers it publishes. -/
def nodeFor (usbfs : Usbfs) (tree : SysfsTree) (device : SysPath) : Option String := do
  let bus ← (tree.readAttribute device "busnum").bind Text.parseU16
  let address ← (tree.readAttribute device "devnum").bind Text.parseU16
  return usbfs.root ++ "/" ++ threeDigits bus ++ "/" ++ threeDigits address

/-- Claims an interface of a device; one that a kernel driver is bound to is refused outright. -/
def claim (usbfs : Usbfs) (tree : SysfsTree) (device : SysPath) (interface : UInt8) : Except UsbfsError String :=
  match tree.interfaceDriver device interface with
  | some driver => .error (.driverBound interface driver)
  | none =>
    match usbfs.nodeFor tree device with
    | none => .error (.nodeAbsent (device.display ++ " publishes no busnum/devnum pair"))
    | some path =>
      match usbfs.opened path with
      | .error error => .error (.ofIo path error)
      | .ok () =>
        match usbfs.claimed path interface with
        | .error errno => .error (.ofErrno path interface errno)
        | .ok () => .ok (path ++ s!" interface {interface.toNat}")

end Usbfs

/-! ## The nodes behind the record -/

/-- The framebuffer's interface of the panel. -/
def BULK_INTERFACE : UInt8 := 0

/-- What the start finds behind the devices of the tree. `opens` is what opening a `hidraw` node comes to. -/
def SysfsTree.nodes (tree : SysfsTree) (usbfs : Usbfs)
    (opens : String → Except String (List Report × Hid.HidLine)) : Nodes :=
  { hidraw := fun id => do
      let device ← tree.devicePath id
      let source ← tree.hidrawNode device
      return { source, opened := opens source }
    usbfs := match tree.devicePath KRAKEN_BASE with
      | some device => (usbfs.claim tree device BULK_INTERFACE).mapError UsbfsError.message
      | none => .error "the device publishes no usbfs node for its bulk interface" }

end Kori
