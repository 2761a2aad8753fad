import Kori.Core.Diagnostics
import Kori.Daemon.Config
import Kori.Daemon.Display
import Kori.Daemon.Lighting

/-! # The daemon's authoritative state, and the handler for every request -/

open Faulty

namespace Kori

def DAEMON_VERSION : String := "0.1.1"

structure Daemon where
  capabilities : CapabilityRecord
  conflicts : List OwnershipConflict
  config : Configuration
  /-- The events recorded since the start, oldest first. -/
  diagnostics : List EventKind
  cooling : CoolingExecutor
  lighting : LightingExecutor
  display : DisplayExecutor
  /-- The failure each collector is currently reported under. -/
  reportedFailures : Collector → Option String
  socketPath : String

/-- Why this daemon cannot write, when it cannot. -/
inductive ReadOnly where
  | held (conflicts : List OwnershipConflict)
  | nothingWritable
deriving DecidableEq

namespace ReadOnly

/-- The wire form, where a missing permission borrows the conflict vocabulary. -/
def intoConflicts : ReadOnly → List OwnershipConflict
  | held conflicts => conflicts
  | nothingWritable =>
    [{ device := none, resource := "hwmon",
       detail := "No writable control attribute is available to this user. " ++
         "Check the installed udev rule." }]

def reason (cause : ReadOnly) : String :=
  String.intercalate " " (cause.intoConflicts.map OwnershipConflict.detail)

end ReadOnly

/-! ## The gates -/

/-- Refuses a capability the record does not carry as writable. -/
def requireWritable (device : DeviceRecord) (capability : CapabilityId) : Except IpcError Unit :=
  if device.canWrite capability then .ok ()
  else .error (.incompatible
    [⟨capability, ((device.capability capability).bind fun entry => entry.state.blockedReason).getD
      s!"{capability.label} is absent from the capability record."⟩])

def configError : ConfigError → IpcError
  | .invalidProfile _ source => .validation source
  | .missingActiveProfile name => .profileNotFound name
  | .duplicateProfile name => .profileNameUnavailable name
  | other => .io other.display

namespace Daemon

variable (self : Daemon)

def hasWritableCapability : Bool :=
  self.capabilities.supported.any fun device => device.capabilities.any fun c => c.state.isWritable

/-- What stands between this daemon and a write. -/
def readOnly : Option ReadOnly :=
  if self.conflicts ≠ [] then some (.held self.conflicts)
  else if self.hasWritableCapability then none
  else some .nothingWritable

def accessMode : AccessMode :=
  match self.readOnly with
  | none => .readWrite
  | some cause => .readOnly cause.intoConflicts

/-- The refusal every write path returns when this daemon is read-only. -/
def requireWriteAccess : Except IpcError Unit :=
  match self.readOnly with
  | none => .ok ()
  | some cause => .error (.readOnly cause.reason)

/-- The record for an allowlisted device that is actually present. -/
def supportedDevice (id : DeviceId) : Except IpcError DeviceRecord :=
  match (self.capabilities.device id).filter DeviceRecord.isSupported with
  | some device => .ok device
  | none => .error .noDevice

/-- What a cooling program must pass before the executor is reached. -/
def admitsProgram (program : CoolingProgram) : Except IpcError Unit := do
  (validateProgram program).mapError .validation
  -- Nothing is written, so no capability is required.
  if program = .onboard then return ()
  let details := programIncompatibilities program (← self.supportedDevice KRAKEN_BASE)
  if details ≠ [] then throw (.incompatible details)
  self.requireWriteAccess

/-- What a lighting command must pass before the executor is reached. -/
def admitsLighting (command : LightingCommand) : Except IpcError Unit := do
  (Lighting.validateCommand command self.lighting.channelCount).mapError .lighting
  requireWritable (← self.supportedDevice RGB_CONTROLLER) command.program.requiredCapability
  self.requireWriteAccess

/-- What a preset must pass before the executor is reached. -/
def admitsDisplay (preset : DisplayPreset) : Except IpcError Unit := do
  preset.validate.mapError .display
  let device ← self.supportedDevice KRAKEN_BASE
  requireWritable device .lcdFrame
  requireWritable device .lcdDisplayControl
  self.requireWriteAccess

/-- Devices a profile applies to: the one it is pinned to, or every device that exposes a capability
its program needs. -/
def targetsFor (profile : Profile) : List DeviceRecord :=
  self.capabilities.supported.filter fun device => match profile.device with
    | some id => decide (device.id = id)
    | none => profile.program.requiredCapabilities.any fun capability =>
      (device.capability capability).isSome

/-- What a profile must pass before it is selected. -/
def admitsActivation (profile : Profile) : Except IpcError Unit :=
  if profile.program = .onboard then .ok ()
  else
    let targets := self.targetsFor profile
    if targets = [] then .error .noDevice
    else
      let details := targets.flatMap fun device => incompatibilities profile device
      if details ≠ [] then .error (.incompatible details) else self.requireWriteAccess

/-! ## The status -/

def deviceStatus (device : DeviceRecord) : DeviceStatus :=
  { id := device.id, present := true,
    owned := self.conflicts.all fun conflict => conflict.device ≠ some device.id,
    writable := device.capabilities.filterMap fun capability =>
      if capability.state.blockedReason.isNone then some capability.id else none,
    blocked := device.capabilities.filterMap fun capability =>
      capability.state.blockedReason.map fun reason => ⟨capability.id, reason⟩ }

def status : DaemonStatus :=
  { daemonVersion := DAEMON_VERSION, protocolVersion := PROTOCOL_VERSION, access := self.accessMode,
    devices := self.capabilities.supported.map self.deviceStatus,
    activeProfile := self.config.document.activeProfile, config := self.config.state,
    cooling := self.cooling.committedProgram, lighting := self.lighting.state,
    display := self.display.state, socketPath := self.socketPath }

def note (event : EventKind) : Daemon := { self with diagnostics := self.diagnostics ++ [event] }

end Daemon

/-! ## The machine -/

/-- The daemon, and the devices and the disk it drives. -/
structure Machine (Raw : Type) where
  daemon : Daemon
  cooler : HwWorld
  store : DiskWorld Raw
  controller : RgbController.Outside
  panel : LcdWorld

/-- What surrounds one call: the instance discovery finds, the latest sample, and the renderer. -/
structure Surroundings where
  located : Option KrakenHwmon
  snapshot : TelemetrySnapshot
  renderer : Renderer

abbrev Act (Raw α : Type) := StateM (Machine Raw) α

namespace Machine

variable {Raw α : Type}

/-- One call of the cooling executor. -/
def cool (f : CoolingExecutor → Hw (α × CoolingExecutor)) : Act Raw α := fun machine =>
  let r := (f machine.daemon.cooling).run hwmonDevice machine.cooler
  (r.1.1, { machine with daemon := { machine.daemon with cooling := r.1.2 }, cooler := r.2 })

/-- One call of the lighting executor. -/
def light (f : LightingExecutor → RgbController.Io (α × LightingExecutor)) : Act Raw α := fun machine =>
  let r := (f machine.daemon.lighting).run RgbController.device machine.controller
  (r.1.1, { machine with daemon := { machine.daemon with lighting := r.1.2 }, controller := r.2 })

/-- One call of the display executor. -/
def draw (f : DisplayExecutor → LcdIo (α × DisplayExecutor)) : Act Raw α := fun machine =>
  let r := (f machine.daemon.display).run lcd machine.panel
  (r.1.1, { machine with daemon := { machine.daemon with display := r.1.2 }, panel := r.2 })

variable (toml : Toml Raw)

/-- One change of the configuration. -/
def configure (f : Configuration → DiskIo Raw (α × Configuration)) : Act Raw α := fun machine =>
  let r := (f machine.daemon.config).run (disk toml) machine.store
  (r.1.1, { machine with daemon := { machine.daemon with config := r.1.2 }, store := r.2 })

def note (event : EventKind) : Act Raw Unit := fun machine =>
  ((), { machine with daemon := machine.daemon.note event })

/-- Persists part of the committed state, without letting the disk speak for the hardware. -/
def remember (record : Configuration → DiskIo Raw (Except ConfigError Unit × Configuration)) :
    Act Raw Unit := do
  match ← configure toml record with
  | .ok () => return ()
  | .error error => note (.sessionNotRecorded error.display)

variable (around : Surroundings)

/-! ## What reaches a device -/

/-- Asks the cooling executor for one program, now. -/
def applyCooling (program : CoolingProgram) : Act Raw ApplyOutcome :=
  cool fun cooling => do cooling.apply around.located (← clock) program

/-- Gates a cooling program, then writes it. -/
def execute (program : CoolingProgram) : Act Raw (Except IpcError ApplyOutcome) := do
  match (← get).daemon.admitsProgram program with
  | .error error => return .error error
  | .ok () =>
    let outcome ← applyCooling around program
    if program = .onboard then return .ok outcome
    note (.programApplied outcome.hardware outcome.writes)
    if outcome.hardware = .confirmed then
      remember toml fun config => config.recordProgram toml program
    return .ok outcome

/-- Gates a lighting command, then sends it. -/
def illuminate (command : LightingCommand) : Act Raw (Except IpcError LightingOutcome) := do
  match (← get).daemon.admitsLighting command with
  | .error error => return .error error
  | .ok () =>
    let outcome ← light fun lighting => do lighting.apply (← clock) command
    note (.lightingApplied outcome.channel outcome.program.summary outcome.hardware outcome.writes)
    if outcome.hardware = .confirmed then
      remember toml fun config => config.recordLighting toml command
    return .ok outcome

/-- Gates a preset, then renders and sends it. -/
def «show» (preset : DisplayPreset) : Act Raw (Except IpcError DisplayOutcome) := do
  match (← get).daemon.admitsDisplay preset with
  | .error error => return .error error
  | .ok () =>
    match ← draw fun display => display.apply around.renderer preset (preset.samples around.snapshot) with
    | .error error => return .error (.display error)
    | .ok outcome =>
      note (.displayApplied preset.mode.key outcome.hardware outcome.frames)
      if outcome.hardware = .confirmed then
        remember toml fun config => config.recordDisplay toml preset
      return .ok outcome

/-- Puts a replayed program on the thermal path, and reports the act that asked for it. -/
def applyProgram (held : ProgramToRestore) : Act Raw ApplyOutcome := do
  let (outcome, unreported) := match ← execute toml around held.program with
    | .ok outcome => (outcome, none)
    | .error error =>
      let hardware : HardwareState := .notApplied error.message
      (ApplyOutcome.untouched hardware, some hardware)
  match held.profile, unreported with
  | some name, _ => note (.profileActivated name outcome.hardware)
  | none, some hardware => note (.programApplied hardware 0)
  | none, none => pure ()
  return outcome

/-- Puts the panel where a profile wants it, when the profile sets one. -/
def applyDisplay (preset : Option DisplayPreset) : Act Raw Unit :=
  match preset with
  | none => return ()
  | some preset => do
    match ← «show» toml around preset with
    | .ok _ => return ()
    | .error error => note (.displayApplied preset.mode.key (.notApplied error.message) 0)

/-- Puts every lighting channel a restore names where it wants it. -/
def applyLighting : List LightingCommand → Act Raw Unit
  | [] => return ()
  | command :: rest => do
    match ← illuminate toml command with
    | .ok _ => pure ()
    | .error error =>
      note (.lightingApplied command.channel command.program.summary (.notApplied error.message) 0)
    applyLighting rest

/-! ## Requests -/

def saveProfile (profile : Profile) : Act Raw Response := do
  match ← configure toml fun config => config.saveProfile toml profile with
  | .ok () =>
    note (.profileSaved profile.name)
    return .saved profile.name
  | .error error => return .error (configError error)

/-- Selects a profile, then puts it on the hardware. A write that fails leaves it selected. -/
def activateProfile (name : String) : Act Raw Response := do
  let daemon := (← get).daemon
  match daemon.config.profile name with
  | none => return .error (.profileNotFound name)
  | some profile =>
    match daemon.admitsActivation profile with
    | .error error => return .error error
    | .ok () =>
      match ← configure toml fun config => config.activate toml name with
      | .error error => return .error (configError error)
      | .ok profile =>
        applyLighting toml profile.lighting
        applyDisplay toml around profile.display
        let applied ← applyProgram toml around
          { program := profile.program, profile := some profile.name }
        return .activated { name := profile.name, hardware := applied.hardware, applied := some applied }

def deleteProfile (name : String) : Act Raw Response := do
  match ← configure toml fun config => config.deleteProfile toml name with
  | .ok activatedInstead =>
    note (.profileDeleted name)
    return .deleted name activatedInstead
  | .error error => return .error (configError error)

def dispatch (request : Request) : Act Raw Response :=
  match request with
  | .hello protocolVersion =>
    if protocolVersion ≠ PROTOCOL_VERSION then
      return .error (.unsupportedProtocol protocolVersion PROTOCOL_VERSION)
    else return .hello PROTOCOL_VERSION DAEMON_VERSION
  | .status => return .status (← get).daemon.status
  | .capabilities => return .capabilities (← get).daemon.capabilities
  | .profiles => do
    let config := (← get).daemon.config
    return .profiles config.document.activeProfile config.profiles
  | .saveProfile profile => saveProfile toml profile
  | .activateProfile name => activateProfile toml around name
  | .deleteProfile name => deleteProfile toml name
  | .telemetry => return .telemetry around.snapshot
  | .applyProgram program => do
    match ← execute toml around program with
    | .ok outcome => return .applied outcome
    | .error error => return .error error
  | .applyLighting command => do
    match ← illuminate toml command with
    | .ok outcome => return .lit outcome
    | .error error => return .error error
  | .applyDisplay preset => do
    match ← «show» toml around preset with
    | .ok outcome => return .shown outcome
    | .error error => return .error error
  | .diagnostics => do
    let daemon := (← get).daemon
    return .diagnostics DAEMON_VERSION daemon.capabilities (retained daemon.diagnostics)

/-- Handles one typed request. -/
def handle (request : Request) : Act Raw Response := do
  let response ← dispatch toml around request
  match response with
  | .error error => note (.requestRejected error)
  | _ => pure ()
  return response

/-! ## The daemon's own clock -/

/-- Notes one event for each element, in order. -/
def noteAll : List EventKind → Act Raw Unit
  | [] => return ()
  | event :: rest => do
    note event
    noteAll rest

/-- Every collector, in the order they are reported. -/
def collectors : List Collector := [.kraken, .cpu, .gpu, .memory]

/-- The failures of a sample, a later one of the same collector over an earlier one. -/
def currentFailures (snapshot : TelemetrySnapshot) : Collector → Option String :=
  snapshot.failed.foldl (fun failures failure =>
    Function.update failures failure.collector (some failure.detail)) fun _ => none

/-- Logs every collector that started failing and every one that stopped. -/
def recordCollectorHealth (snapshot : TelemetrySnapshot) : Act Raw Unit := do
  let current := currentFailures snapshot
  let reported := (← get).daemon.reportedFailures
  noteAll (collectors.filterMap fun collector => (current collector).bind fun detail =>
    if reported collector ≠ some detail then some (.collectorFailed collector detail) else none)
  noteAll (collectors.filterMap fun collector =>
    if (reported collector).isSome ∧ (current collector).isNone then some (.collectorRecovered collector)
    else none)
  modify fun machine => { machine with daemon := { machine.daemon with reportedFailures := current } }

/-- Brings the record of the hardware back in line with the latest sample. -/
def reconcile (snapshot : TelemetrySnapshot) : Act Raw Unit := do
  if ¬ snapshot.kraken.present then
    cool fun cooling => return ((), cooling.forget)
    draw fun display => return ((), display.forget)
  else
    let diverged ← cool fun cooling => do return cooling.verifyCurves snapshot.kraken (← clock)
    noteAll (diverged.map fun d =>
      .curveDiverged d.channel d.liquidTemperatureMc d.expected d.reported)
  recordCollectorHealth snapshot

/-- One pass of the daemon's own clock: settles what the hardware says, then redraws the panel. -/
def tick (around : Surroundings) : Act Raw Unit := do
  reconcile around.snapshot
  if ¬ around.snapshot.kraken.present then return ()
  match (← get).daemon.display.active with
  | none => return ()
  | some preset =>
    let samples := preset.samples around.snapshot
    match ← draw fun display => display.refresh around.renderer samples with
    | none => return ()
    | some outcome =>
      if 0 < outcome.frames then
        note (.displayApplied preset.mode.key outcome.hardware outcome.frames)

/-- Advances a playing animation, and says when its next frame is due. -/
def tickAnimation (now : Instant) : Act Raw (Option Instant) :=
  draw fun display => display.advanceAnimation now

/-! ## A start -/

/-- Puts back what the operator left running. -/
def restoreActiveProfile : Act Raw Unit := do
  let config := (← get).daemon.config
  applyLighting toml config.lightingToRestore
  let config := (← get).daemon.config
  applyDisplay toml around config.displayToRestore
  let config := (← get).daemon.config
  match config.programToRestore with
  | none => return ()
  | some held =>
    let _ ← applyProgram toml around held
    return ()

/-! ## Everything that can be asked of it -/

inductive Call where
  | request (around : Surroundings) (request : Request)
  | tick (around : Surroundings)
  | tickAnimation (now : Instant)
  | dropDisplayFrame

inductive Reply where
  | response (response : Response)
  | ticked
  | animated (due : Option Instant)
  | dropped

def serve : Call → Act Raw Reply
  | .request around request => .response <$> handle toml around request
  | .tick around => (fun _ => .ticked) <$> tick around
  | .tickAnimation now => .animated <$> tickAnimation now
  | .dropDisplayFrame => draw fun display => return (.dropped, display.dropFrame)

end Machine

/-- What a start finds: the probed record, who else holds the devices, and the executors bound to
what answered. -/
structure Found where
  capabilities : CapabilityRecord
  conflicts : List OwnershipConflict
  lighting : LightingExecutor
  display : DisplayExecutor
  socketPath : String

/-- The devices and the disk, before the daemon. -/
structure Outside (Raw : Type) where
  cooler : HwWorld
  store : DiskWorld Raw
  controller : RgbController.Outside
  panel : LcdWorld

def Machine.outside {Raw : Type} (machine : Machine Raw) : Outside Raw :=
  { cooler := machine.cooler, store := machine.store, controller := machine.controller, panel := machine.panel }

/-- Loads the configuration, then puts back on the hardware what the operator left running. -/
def Machine.start {Raw : Type} (toml : Toml Raw) (path : ConfigPath) (around : Surroundings)
    (found : Found) (outside : Outside Raw) : Machine Raw :=
  let loaded := (Configuration.load toml path).run (disk toml) outside.store
  let config := loaded.1
  let daemon : Daemon :=
    { capabilities := found.capabilities, conflicts := found.conflicts, config
      diagnostics := [.daemonStarted DAEMON_VERSION found.socketPath, match config.state with
        | .recovered detail preservedPath _ => .configRecovered detail preservedPath
        | _ => .configLoaded path.display]
      cooling := .opened around.located, lighting := found.lighting, display := found.display
      reportedFailures := fun _ => none, socketPath := found.socketPath }
  let mode : EventKind := .accessModeChanged daemon.readOnly.isSome
    ((daemon.readOnly.map ReadOnly.reason).getD "every supported capability is writable")
  let machine : Machine Raw :=
    { daemon := daemon.note mode, cooler := outside.cooler, store := loaded.2,
      controller := outside.controller, panel := outside.panel }
  (Machine.restoreActiveProfile toml around machine).2

/-- A machine some start leads to, through any calls. -/
inductive Machine.Reachable {Raw : Type} (toml : Toml Raw) : Machine Raw → Prop where
  | start (path : ConfigPath) (around : Surroundings) (found : Found) (outside : Outside Raw) :
    Reachable toml (start toml path around found outside)
  | call {machine : Machine Raw} (call : Machine.Call) (h : Reachable toml machine) :
    Reachable toml (serve toml call machine).2

end Kori
