import Kori.Daemon.State
import Kori.Hardware.Hid
import Kori.Hardware.Probe

/-! # What the daemon asks the devices as it starts, and what it keeps of them -/

open Faulty

namespace Kori

/-! ## Topologies nothing answered -/

namespace RgbTopology

def unavailable (reason source : String) : RgbTopology :=
  { node := .unknown reason source, firmware := .unknown reason source, channels := .unknown reason source }

/-- The node resolved, and nothing answered at it. -/
def silent (node reason : String) : RgbTopology :=
  { node := .known node "sysfs", firmware := .unknown reason node, channels := .unknown reason node }

end RgbTopology

namespace LcdTopology

def unavailable (reason source : String) : LcdTopology :=
  { hidNode := .unknown reason source, bulkNode := .unknown reason source, firmware := .unknown reason source
    panel := .unknown reason source, display := .unknown reason source }

/-- The node resolved, and nothing answered at it. -/
def silent (hidNode : String) (bulkNode : Evidenced String) (reason : String) : LcdTopology :=
  { hidNode := .known hidNode "sysfs", bulkNode, firmware := .unknown reason hidNode, panel := .unknown reason hidNode
    display := .unknown reason hidNode }

end LcdTopology

/-! ## A node, and what is asked of it -/

namespace Hid

abbrev HidLine := Line Report Report String

def ANSWER_TIMEOUT_MS : Nat := 2000
/-- Reports a drain may discard. -/
def MAX_DRAINED_REPORTS : Nat := 64
def FIRMWARE_OFFSET : Nat := 0x11

def silence (what : String) : String := s!"the controller sent no {what} answer within {ANSWER_TIMEOUT_MS} ms"

/-- One field of a record, from an answer that may not have come. -/
def answered {α : Type} (value : Option α) (subject source : String) : Evidenced α :=
  match value with
  | some value => .known value source
  | none => .unknown (silence subject) source

def byteAt (report : Report) (offset : Nat) : UInt8 := report[offset]?.getD 0

/-- The firmware revision an answer carries. -/
def firmware (report : Report) : String :=
  s!"{(byteAt report FIRMWARE_OFFSET).toNat}.{(byteAt report (FIRMWARE_OFFSET + 1)).toNat}." ++
    s!"{(byteAt report (FIRMWARE_OFFSET + 2)).toNat}"

/-- A node: where it is, and what opening it comes to: the reports already queued there, and the line after them. -/
structure Node where
  source : String
  opened : Except String (List Report × HidLine)

/-- Discards what the device queued before this run, as far as the drain goes. -/
def drain (queued : List Report) (line : HidLine) : HidLine :=
  let left := queued.drop MAX_DRAINED_REPORTS
  { line with incoming := fun n => match left[n]? with
    | some report => .ok (some report)
    | none => line.incoming (n - left.length) }

end Hid

namespace RgbController

open Hid

def LIGHTING_REQUEST : Identifier := (0x20, 0x03)
def LIGHTING_ANSWER : Identifier := (0x21, 0x03)

def QUERY : List Hid.Exchange := [(FIRMWARE_REQUEST, FIRMWARE_ANSWER), (LIGHTING_REQUEST, LIGHTING_ANSWER)]

/-- Builds the record's lighting section from a controller that answered. -/
def inspect (source : String) (line : HidLine) : RgbTopology × HidLine :=
  match Hid.ask QUERY line with
  | (.error error, line) => (.silent source error, line)
  | (.ok received, line) =>
    ({ node := .known source "sysfs"
       firmware := Hid.answered (received[0]?.join.map firmware) "firmware" s!"{source} report 0x11 0x01"
       channels := Hid.answered (received[1]?.join.map channels) "lighting topology" s!"{source} report 0x21 0x03" },
     line)

/-- Opens the controller and asks it what it is; the line comes back only when it answered. -/
def connect : Option Node → RgbTopology × Option HidLine
  | none => (.unavailable "the kernel exposed no hidraw node for this controller" "sysfs", none)
  | some node =>
    match node.opened with
    | .error error => (.silent node.source error, none)
    | .ok (queued, line) =>
      let (topology, line) := inspect node.source (drain queued line)
      (topology, if topology.channels.isKnown then some line else none)

end RgbController

namespace LcdLink

open Hid

def DISPLAY_INFO_REQUEST : Identifier := (0x30, 0x01)
def DISPLAY_INFO_ANSWER : Identifier := (0x31, 0x01)
def BRIGHTNESS_OFFSET : Nat := 0x18
def ORIENTATION_OFFSET : Nat := 0x1a

def QUERY : List Hid.Exchange := [(FIRMWARE_REQUEST, FIRMWARE_ANSWER), (DISPLAY_INFO_REQUEST, DISPLAY_INFO_ANSWER)]

/-- The geometry this product would lay a frame out in. -/
def candidatePanel : LcdPanel :=
  { width := UInt16.ofNat PANEL_WIDTH, height := UInt16.ofNat PANEL_HEIGHT, shape := .square
    pixelFormat := "RGB565 big-endian", frameBytes := UInt32.ofNat FRAME_BYTES, bulkEndpoint := 0x02
    bulkInterface := 0 }

/-- The settings an answer carries, refused where one is out of range. -/
def displaySettings (report : Report) : Option LcdDisplaySettings :=
  let brightness := byteAt report BRIGHTNESS_OFFSET
  let quarterTurns := byteAt report ORIENTATION_OFFSET
  if brightness ≤ 100 ∧ quarterTurns ≤ 3 then some { brightnessPercent := brightness, quarterTurns } else none

def inspect (source : String) (bulkNode : Evidenced String) (line : HidLine) : LcdTopology × HidLine :=
  match Hid.ask QUERY line with
  | (.error error, line) => (.silent source bulkNode error, line)
  | (.ok received, line) =>
    let display := received[1]?.join.bind displaySettings
    ({ hidNode := .known source "sysfs"
       bulkNode
       firmware := Hid.answered (received[0]?.join.map firmware) "firmware" s!"{source} report 0x11 0x01"
       panel := match display with
         | some _ => .known candidatePanel ("candidate for 1e71:300e from liquidctl kraken3.py; this device reports " ++
             "no resolution of its own")
         | none => .unknown "the device did not answer the display report, so it may carry no panel"
             s!"{source} report 0x31 0x01"
       display := Hid.answered display "display settings" s!"{source} report 0x31 0x01" }, line)

/-- Opens both halves and asks the Kraken what it is. The claim of the bulk interface is where it goes, or why not. -/
def connect (claim : Option (Except String String)) : Option Node → LcdTopology × Option HidLine
  | none => (.unavailable "the kernel exposed no hidraw node for this device" "sysfs", none)
  | some node =>
    match node.opened with
    | .error error =>
      (.silent node.source (.unknown "not attempted: the display commands could not be opened first" "usbfs") error, none)
    | .ok (queued, line) =>
      let bulk := claim.getD (.error "the device publishes no usbfs node for its bulk interface")
      let bulkNode : Evidenced String := match bulk with
        | .ok source => .known source "usbfs"
        | .error reason => .unknown reason "usbfs"
      let (topology, line) := inspect node.source bulkNode (drain queued line)
      (topology, match bulk with
        | .ok _ => if topology.answered then some line else none
        | .error _ => none)

end LcdLink

/-! ## Starting -/

/-- How the controller is reached; a transport is supplied with its source. -/
inductive RgbBackend where
  | hidraw
  | transport (source : String) (line : Hid.HidLine)
  | none

/-- How the panel is reached; a link is supplied with the sources of its two halves. -/
inductive LcdBackend where
  | nodes
  | link (hidSource bulkSource : String) (line : Hid.HidLine)
  | none

/-- What there is behind the devices of a record: their nodes, and the claim of the panel's bulk interface. -/
structure Nodes where
  hidraw : DeviceId → Option Hid.Node
  usbfs : Except String String

namespace Startup

/-- A present allowlisted device. -/
def devicePath (record : CapabilityRecord) (id : DeviceId) : Option DeviceRecord :=
  (record.device id).filter DeviceRecord.isSupported

def hidrawNode (nodes : Nodes) (record : CapabilityRecord) (id : DeviceId) : Option Hid.Node := do
  let _ ← devicePath record id
  nodes.hidraw id

variable (nodes : Nodes)

/-- Asks the controller what it is, and folds the answer into the record. -/
def askRgb (record : CapabilityRecord) : (List RgbChannel × Option Hid.HidLine) × CapabilityRecord :=
  let (topology, link) := RgbController.connect (hidrawNode nodes record RGB_CONTROLLER)
  ((topology.channels.value.getD [], link), record.attachRgbTopology topology)

def reportsOf (channels : List RgbChannel) : List ChannelReport :=
  channels.map fun channel => { index := channel.index, accessories := channel.accessories.map (·.name) }

/-- The executor of a controller that answered at least one channel. -/
def lightingOf (channels : List RgbChannel) (transport : Option Hid.HidLine) : LightingExecutor :=
  if transport.isSome && !channels.isEmpty then .connected (reportsOf channels) else .absent

/-- Keeps the handle only when the controller answered. -/
def connectLighting (backend : RgbBackend) (record : CapabilityRecord) : LightingExecutor × CapabilityRecord :=
  match backend with
  | .none => (.absent, record)
  | .hidraw =>
    let ((channels, link), record) := askRgb nodes record
    (lightingOf channels link, record)
  | .transport source line =>
    let (topology, line) := RgbController.inspect source line
    (lightingOf (topology.channels.value.getD []) (if topology.channels.isKnown then some line else none),
      record.attachRgbTopology topology)

/-- Asks the Kraken what its panel is, and folds the answer into the record. -/
def askLcd (record : CapabilityRecord) : (Option LcdPanel × Option Hid.HidLine) × CapabilityRecord :=
  let device := devicePath record KRAKEN_BASE
  let (topology, link) := LcdLink.connect (device.map fun _ => nodes.usbfs) (hidrawNode nodes record KRAKEN_BASE)
  ((topology.panel.value, link), record.attachLcdTopology topology)

def displayOf : Option LcdPanel → Option Hid.HidLine → DisplayExecutor
  | some panel, some _ => .connected panel
  | _, _ => .absent

/-- Keeps the handle only when a panel answered and the bulk interface was claimed. -/
def connectDisplay (backend : LcdBackend) (record : CapabilityRecord) : DisplayExecutor × CapabilityRecord :=
  match backend with
  | .none => (.absent, record)
  | .nodes =>
    let ((panel, link), record) := askLcd nodes record
    (displayOf panel link, record)
  | .link hidSource bulkSource line =>
    let (topology, line) := LcdLink.inspect hidSource (.known bulkSource "usbfs") line
    (displayOf topology.panel.value (if topology.answered then some line else none), record.attachLcdTopology topology)

/-- What the daemon starts from: the record of the probe with both answers folded in, and a handle for each device that
gave one. -/
def found (root : Sysfs) (rgb : RgbBackend) (lcd : LcdBackend) (conflicts : List OwnershipConflict)
    (socketPath : String) : Found :=
  let (lighting, record) := connectLighting nodes rgb (probe root)
  let (display, record) := connectDisplay nodes lcd record
  { capabilities := record, conflicts, lighting, display, socketPath }

end Startup

end Kori
