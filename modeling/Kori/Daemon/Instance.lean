import Kori.Daemon.Ownership
import Kori.Daemon.State
import Kori.Faulty.Processes

/-! # The processes of one user: who binds the socket, and who takes which lock -/

open Faulty

namespace Kori

/-! ## Where everything is -/

def SOCKET_FILE_NAME : String := "kori.sock"
def APP_DIR : String := "kori"

structure Paths where
  runtimeDir : String
  configDir : String
  socket : String
deriving DecidableEq

/-- A non-empty environment variable read as a path. -/
def envPath (env : String → Option String) (key : String) : Option String := (env key).filter (· ≠ "")

/-- The runtime directory, from explicit inputs. -/
def runtimeDir (overrideDir xdgRuntimeDir home : Option String) : String :=
  match overrideDir, xdgRuntimeDir with
  | some path, _ => path
  | none, some path => s!"{path}/{APP_DIR}"
  | none, none => home.getD "." ++ s!"/.cache/{APP_DIR}"

def runtimeDirFromEnv (env : String → Option String) : String :=
  runtimeDir (envPath env "KORI_RUNTIME_DIR") (envPath env "XDG_RUNTIME_DIR") (envPath env "HOME")

def socketPathFromEnv (env : String → Option String) : String :=
  match envPath env "KORI_SOCKET" with
  | some path => path
  | none => s!"{runtimeDirFromEnv env}/{SOCKET_FILE_NAME}"

namespace Paths

def fromEnv (env : String → Option String) : Paths :=
  let configDir := match envPath env "KORI_CONFIG_DIR" with
    | some path => path
    | none => match envPath env "XDG_CONFIG_HOME" with
      | some path => s!"{path}/{APP_DIR}"
      | none => (envPath env "HOME").getD "." ++ s!"/.config/{APP_DIR}"
  { runtimeDir := runtimeDirFromEnv env, configDir, socket := socketPathFromEnv env }

/-- Explicit paths. -/
def new (runtimeDir configDir : String) : Paths :=
  { runtimeDir, configDir, socket := s!"{runtimeDir}/{SOCKET_FILE_NAME}" }

variable (self : Paths)

def configFile : ConfigPath := { directory := self.configDir, stem := "config", extension := "toml" }

def deviceLock (device : DeviceId) : String := Kori.deviceLock self.runtimeDir device

def instanceLock : String := s!"{self.runtimeDir}/kori.lock"

end Paths

/-! ## The files and the sockets of the machine -/

/-- What a path may lead to. -/
inductive Entry where
  /-- A lock file, what it says, and the process that holds its lock. -/
  | lock (content : String) (holder : Option UInt32)
  | socket (inode : Nat)
deriving DecidableEq

structure Host where
  files : String → Option Entry
  /-- The open listener of each process: the path it was bound at, and the socket it answers. -/
  listener : UInt32 → Option (String × Nat)
  nextInode : Nat

namespace Host

variable (host : Host)

/-- Who holds the lock of the file at a path. -/
def holder (path : String) : Option UInt32 :=
  match host.files path with
  | some (.lock _ holder) => holder
  | _ => none

/-- Whether who connects to a path reaches this process. -/
def Reaches (path : String) (process : UInt32) : Prop :=
  ∃ inode bound, host.files path = some (.socket inode) ∧ host.listener process = some (bound, inode)

def put (path : String) (entry : Option Entry) : Host :=
  { host with files := Function.update host.files path entry }

def listen (process : UInt32) (listener : Option (String × Nat)) : Host :=
  { host with listener := Function.update host.listener process listener }

/-- The lock files of the machine, rewritten by who holds them. -/
def release (process : UInt32) : Option Entry → Option Entry
  | some (.lock content holder) => some (.lock content (if holder = some process then none else holder))
  | entry => entry

end Host

/-! ## The calls of the two kinds of process -/

/-- What discovery finds, and what the two devices answered when they were asked what they are. -/
structure Discovered where
  capabilities : CapabilityRecord
  /-- The nodes under the directory of each supported device, by its place in the record. -/
  hidNodes : Nat → List String
  lighting : LightingExecutor
  display : DisplayExecutor
  idle : display.active = none ∧ display.animation = none

inductive LockAnswer where
  | taken
  | unopened (error : String)
  | refused (error : String)

inductive RemoveError where
  | notFound
  | other (error : String)

inductive Sys where
  | isRoot
  | ensure
  /-- Opens the lock file at a path, and tries to lock it. -/
  | openLock (path : String)
  | readLock (path : String)
  | truncate (path : String)
  | writePid (path : String)
  | unlock (path : String)
  | removeFile (path : String)
  | bind (path : String)
  | setPermissions (path : String)
  | closeListener
  /-- Lists the devices, and asks the controller and the panel what they are: the questions of a start
  precede every lock. -/
  | discover
  | processes
  /-- The devices, the disk and the latest sample, as a start meets them. -/
  | awaken
  | installSignals
  /-- Everything that is served before the stop. -/
  | incoming
  | accept (path : String)
  /-- What the client threads that outlive the listener still ask for; nothing when none does. -/
  | lateClients
  /-- Something is sent to a device, after the questions of discovery, by a process whose locks are in a directory. -/
  | reach (runtimeDir : String) (device : DeviceId)
  /-- How many reports a write probe sends, once its device answers. -/
  | connect

variable {Raw : Type}

abbrev Sys.Answer (Raw : Type) : Sys → Type
  | isRoot => Bool
  | ensure => Except String Unit
  | openLock _ => LockAnswer
  | readLock _ => Option String
  | truncate _ | writePid _ | unlock _ | closeListener | accept _ | reach _ _ => Unit
  | removeFile _ => Except RemoveError Unit
  | bind _ | setPermissions _ | installSignals => Except String Unit
  | discover => Discovered
  | processes => Option ProcessTable
  | awaken => Surroundings × Outside Raw
  | incoming => List (Machine.Call × Outside Raw)
  | lateClients => Option (List ((Surroundings × Request) × Outside Raw))
  | connect => Except String Nat

namespace Korid

abbrev Script (Raw : Type) := Faulty.Script Sys (Sys.Answer Raw)

/-- One call. -/
def sys (c : Sys) : Script Raw (c.Answer Raw) := request c

def refusedRoot : String := "refusing to run as root. Install the udev rule and run this as your own user."

/-! ## Locks -/

/-- Takes the exclusive lock on a file, and records the holder in it. -/
def lockExclusive (path : String) : Script Raw LockAttempt := do
  match ← sys (.openLock path) with
  | .unopened error => return .unopened error
  | .refused error => return .refused error (← sys (.readLock path))
  | .taken =>
    sys (.truncate path)
    sys (.writePid path)
    return .taken

/-- Tries to become the only daemon of the user. -/
def acquireInstance (paths : Paths) : LockAttempt → Except OwnershipConflict Unit
  | .taken => .ok ()
  | .unopened error =>
    .error { device := none, resource := paths.instanceLock, detail := s!"Lock file could not be opened: {error}" }
  | .refused error content =>
    let holder := trimmed (content.getD "")
    .error { device := none, resource := paths.instanceLock
             detail := if holder = "" then s!"Another process holds the daemon lock ({error})."
               else s!"Another instance holds the daemon lock (pid {holder})." }

def lockDevices (paths : Paths) : List DeviceRecord → Script Raw (List LockAttempt)
  | [] => return []
  | device :: rest => do
    let attempt ← lockExclusive (paths.deviceLock device.id)
    return attempt :: (← lockDevices paths rest)

def unlockAll (paths : Paths) : List DeviceId → Script Raw Unit
  | [] => return ()
  | device :: rest => do
    sys (.unlock (paths.deviceLock device))
    unlockAll paths rest

/-! ## The socket -/

/-- Binds the socket with owner-only permissions. A file already there was left by a dead daemon. -/
def bindSocket (path : String) : Script Raw (Except String Unit) := do
  match ← sys (.removeFile path) with
  | .error (.other error) => return .error error
  | _ =>
    match ← sys (.bind path) with
    | .error error => return .error error
    | .ok () => sys (.setPermissions path)

/-! ## What reaches the devices -/

end Korid

/-- The devices something was sent to, or asked of, since. -/
def Outside.reached (before after : Outside Raw) : List DeviceId :=
  (if before.cooler.log.length ≠ after.cooler.log.length ∨ before.panel.log.length ≠ after.panel.log.length
    then [KRAKEN_BASE] else []) ++
  if before.controller.log.length ≠ after.controller.log.length then [RGB_CONTROLLER] else []

namespace Machine

/-- The same daemon, over the devices and the disk as they are by now. -/
def meeting (machine : Machine Raw) (outside : Outside Raw) : Machine Raw :=
  { daemon := machine.daemon, cooler := outside.cooler, store := outside.store,
    controller := outside.controller, panel := outside.panel }

end Machine

namespace Korid

variable (toml : Toml Raw) (paths : Paths)

def reachAll : List DeviceId → Script Raw Unit
  | [] => return ()
  | device :: rest => do
    sys (.reach paths.runtimeDir device)
    reachAll rest

/-- One call of the daemon, under its mutex. -/
def serveOne (call : Machine.Call) (outside : Outside Raw) (machine : Machine Raw) :
    Script Raw (Machine Raw) := do
  let met := machine.meeting outside
  let after := (Machine.serve toml call met).2
  reachAll paths (met.outside.reached after.outside)
  return after

/-- What the accept loop and the ticker serve until the stop. -/
def serveAll : List (Machine.Call × Outside Raw) → Machine Raw → Script Raw (Machine Raw)
  | [], machine => return machine
  | (call, outside) :: rest, machine => do
    sys (.accept paths.socket)
    serveAll rest (← serveOne toml paths call outside machine)

/-- What the client threads still serve once nothing is accepted any more. -/
def serveLate : List ((Surroundings × Request) × Outside Raw) → Machine Raw → Script Raw Unit
  | [], _ => return ()
  | ((around, request), outside) :: rest, machine => do
    serveLate rest (← serveOne toml paths (.request around request) outside machine)

/-! ## The daemon -/

/-- Takes what ownership it can, then starts the daemon: its machine, and the locks it holds. The devices
were asked what they are before. -/
def startDaemon (ownPid : UInt32) : Script Raw (Machine Raw × List DeviceId) := do
  let found ← sys .discover
  let attempts ← lockDevices paths found.capabilities.supported
  let proc ← sys .processes
  let sites : Nat → Site := fun i =>
    { attempt := attempts.getD i (.unopened ""), hidNodes := found.hidNodes i }
  let (locks, conflicts, _) := takeOwnership paths.runtimeDir ownPid proc found.capabilities sites
  let (around, outside) ← sys .awaken
  let machine := Machine.start toml paths.configFile around
    { capabilities := found.capabilities, conflicts, lighting := found.lighting, display := found.display,
      socketPath := paths.socket } outside
  reachAll paths (outside.reached machine.outside)
  return (machine, locks)

/-- Serves until the stop, then gives everything back. The daemon, and with it the locks of its
devices, outlives the lock of the instance when a client thread still holds it. -/
def runServer (machine : Machine Raw) (locks : List DeviceId) : Script Raw (Except String Unit) := do
  let machine ← serveAll toml paths (← sys .incoming) machine
  let _ ← sys (.removeFile paths.socket)
  sys .closeListener
  match ← sys .lateClients with
  | none =>
    unlockAll paths locks
    sys (.unlock paths.instanceLock)
    return .ok ()
  | some late =>
    sys (.unlock paths.instanceLock)
    serveLate toml paths late machine
    return .ok ()

/-- The daemon, from its start to its end. -/
def serve (ownPid : UInt32) : Script Raw (Except String Unit) := do
  if ← sys .isRoot then return .error refusedRoot
  match ← sys .ensure with
  | .error error => return .error s!"could not create {paths.runtimeDir}: {error}"
  | .ok () =>
    match acquireInstance paths (← lockExclusive paths.instanceLock) with
    | .error conflict => return .error s!"could not start: {conflict.detail}"
    | .ok () =>
      match ← bindSocket paths.socket with
      | .error error => return .error s!"could not bind {paths.socket}: {error}"
      | .ok () =>
        match ← sys .ensure with
        | .error error => return .error s!"could not start: {error}"
        | .ok () =>
          let (machine, locks) ← startDaemon toml paths ownPid
          match ← sys .installSignals with
          | .error error => return .error s!"could not install the signal handler: {error}"
          | .ok () => runServer toml paths machine locks

/-! ## The write probes -/

/-- Everything both write probes do before and after the run itself. -/
def underDeviceLock (device : DeviceId) : Script Raw (Except String Unit) := do
  if ← sys .isRoot then return .error refusedRoot
  let found ← sys .discover
  if ((found.capabilities.device device).filter DeviceRecord.isSupported).isNone then
    return .error s!"{device.display} is not connected to this machine"
  else
    match ← sys .ensure with
    | .error error => return .error s!"could not prepare {paths.runtimeDir}: {error}"
    | .ok () =>
      match acquire paths.runtimeDir device (← lockExclusive (paths.deviceLock device)) with
      | .error conflict =>
        return .error s!"another process owns {device.display} ({conflict.detail}). Stop korid and try again."
      | .ok _ =>
        match ← sys .connect with
        | .error error => return .error error
        | .ok reports =>
          reachAll paths (List.replicate reports device)
          sys (.unlock (paths.deviceLock device))
          return .ok ()

end Korid

/-! ## The machine under them -/

/-- How a call goes where more than one answer is possible. -/
structure Luck (Raw : Type) where
  /-- The error of a call the machine could not serve. -/
  fault : Option String
  /-- The answer of a call that only the surroundings can answer. -/
  heard : (c : Sys) → c.Answer Raw

/-- The calls of the operating system, over its files and sockets. -/
def linux : Kernel UInt32 Sys (Sys.Answer Raw) (Luck Raw) Host where
  serve process
    | .openLock path, luck, host =>
      match luck.fault, host.files path with
      | some error, _ => (.unopened error, host)
      | none, some (.socket _) => (.unopened "No such device or address (os error 6)", host)
      | none, some (.lock _ (some _)) => (.refused "Resource temporarily unavailable (os error 11)", host)
      | none, some (.lock content none) => (.taken, host.put path (some (.lock content (some process))))
      | none, none => (.taken, host.put path (some (.lock "" (some process))))
    | .readLock path, luck, host =>
      match luck.fault, host.files path with
      | none, some (.lock content _) => (some content, host)
      | _, _ => (none, host)
    | .truncate path, luck, host =>
      if luck.fault.isSome ∨ host.holder path ≠ some process then ((), host)
      else ((), host.put path (some (.lock "" (some process))))
    | .writePid path, luck, host =>
      if luck.fault.isSome ∨ host.holder path ≠ some process then ((), host)
      else ((), host.put path (some (.lock s!"{process.toNat}\n" (some process))))
    | .unlock path, _, host =>
      if host.holder path = some process then ((), host.put path (Host.release process (host.files path)))
      else ((), host)
    | .removeFile path, luck, host =>
      match luck.fault, host.files path with
      | some error, _ => (.error (.other error), host)
      | none, none => (.error .notFound, host)
      | none, some _ => (.ok (), host.put path none)
    | .bind path, luck, host =>
      match luck.fault, host.files path with
      | some error, _ => (.error error, host)
      | none, some _ => (.error "Address already in use (os error 98)", host)
      | none, none =>
        (.ok (), { (host.put path (some (.socket host.nextInode))).listen process (some (path, host.nextInode)) with
          nextInode := host.nextInode + 1 })
    | .setPermissions _, luck, host => (match luck.fault with
      | some error => .error error
      | none => .ok (), host)
    | .closeListener, _, host => ((), host.listen process none)
    | .isRoot, luck, host => (luck.heard .isRoot, host)
    | .ensure, luck, host => (luck.heard .ensure, host)
    | .discover, luck, host => (luck.heard .discover, host)
    | .processes, luck, host => (luck.heard .processes, host)
    | .awaken, luck, host => (luck.heard .awaken, host)
    | .installSignals, luck, host => (luck.heard .installSignals, host)
    | .incoming, luck, host => (luck.heard .incoming, host)
    | .lateClients, luck, host => (luck.heard .lateClients, host)
    | .connect, luck, host => (luck.heard .connect, host)
    | .accept _, _, host => ((), host)
    | .reach _ _, _, host => ((), host)
  -- The kernel gives back every lock and closes every socket of a process, however it ends.
  ends process host :=
    { files := fun path => Host.release process (host.files path)
      listener := Function.update host.listener process none
      nextInode := host.nextInode }

end Kori
