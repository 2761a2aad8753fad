import Kori.Daemon.State

/-! # One writer per device, and who else holds one -/

namespace Kori

/-! ## The lock of a device -/

/-- What opening a lock file and locking it came to. -/
inductive LockAttempt where
  | taken
  | unopened (error : String)
  /-- Somebody holds it. The file says who, when it can be read. -/
  | refused (error : String) (content : Option String)
deriving DecidableEq

/-- `str::trim` of a text. -/
def trimmed (text : String) : String := String.ofList (Text.trim text.toList)

def deviceLock (runtimeDir : String) (device : DeviceId) : String := s!"{runtimeDir}/{device.display}.lock"

/-- Tries to become the single writer for a device: the path of its lock, or who stands in the way. -/
def acquire (runtimeDir : String) (device : DeviceId) : LockAttempt → Except OwnershipConflict String
  | .taken => .ok (deviceLock runtimeDir device)
  | .unopened error =>
    .error { device := some device, resource := deviceLock runtimeDir device
             detail := s!"Lock file could not be opened: {error}" }
  | .refused error content =>
    let holder := trimmed (content.getD "")
    .error { device := some device, resource := deviceLock runtimeDir device
             detail := if holder = "" then s!"Another process holds the device lock ({error})."
               else s!"Another instance holds the device lock (pid {holder})." }

/-! ## The processes that hold a node -/

/-- One entry of `/proc`. -/
structure ProcEntry where
  /-- What its name parses to; nothing for an entry that is no process. -/
  pid : Option UInt32
  comm : Option String
  /-- The target of each open descriptor, where it can be read; nothing for another user's process. -/
  descriptors : Option (List (Option String))
deriving DecidableEq

/-- The processes of the machine. -/
structure ProcessTable where
  entries : List ProcEntry
  distinct : entries.Pairwise fun entry other => ∀ pid, entry.pid = some pid → other.pid ≠ some pid

/-- The device a node belongs to. -/
def deviceOf (nodes : List (String × DeviceId)) (target : String) : Option DeviceId :=
  (nodes.find? fun node => Faulty.SamePath node.1 target).map Prod.snd

def heldDetail (pid : UInt32) (comm : Option String) : String :=
  let holder := (comm.map trimmed).getD "unknown"
  s!"Process {pid.toNat} ({holder}) already holds this device node."

/-- What a process is reported for: the first of its descriptors that is on a node. -/
def holder (ownPid : UInt32) (nodes : List (String × DeviceId)) (entry : ProcEntry) :
    Option OwnershipConflict := do
  let pid ← entry.pid
  if pid = ownPid then none
  else
    let descriptors ← entry.descriptors
    descriptors.findSome? fun descriptor => do
      let target ← descriptor
      let device ← deviceOf nodes target
      some { device := some device, resource := target, detail := heldDetail pid entry.comm }

/-- Processes other than this one that hold any of the nodes. -/
def observedHolders (ownPid : UInt32) (proc : Option ProcessTable) (nodes : List (String × DeviceId)) :
    List OwnershipConflict :=
  if nodes.isEmpty then []
  else match proc with
    | none => []
    | some table => table.entries.filterMap (holder ownPid nodes)

/-! ## Taking ownership at a start -/

/-- What a start meets at a device: its lock, and the nodes under its directory. -/
structure Site where
  attempt : LockAttempt
  hidNodes : List String

/-- Each supported device with what trying its lock came to. -/
def attempts (runtimeDir : String) (capabilities : CapabilityRecord) (sites : Nat → Site) :
    List (DeviceId × Except OwnershipConflict String) :=
  capabilities.supported.zipIdx.map fun (device, i) => (device.id, acquire runtimeDir device.id (sites i).attempt)

/-- The nodes of the supported devices, each with the device it belongs to. -/
def deviceNodes (capabilities : CapabilityRecord) (sites : Nat → Site) : List (String × DeviceId) :=
  capabilities.supported.zipIdx.flatMap fun (device, i) => (sites i).hidNodes.map fun node => (node, device.id)

/-- Takes the lock of every supported device and sees who is in the way: the locks, the conflicts and
the events recorded. -/
def takeOwnership (runtimeDir : String) (ownPid : UInt32) (proc : Option ProcessTable)
    (capabilities : CapabilityRecord) (sites : Nat → Site) :
    List DeviceId × List OwnershipConflict × List EventKind :=
  let attempts := attempts runtimeDir capabilities sites
  let acquired := attempts.filterMap fun (device, attempt) => match attempt with
    | .ok path => some (device, path)
    | .error _ => none
  let refused := attempts.filterMap fun (_, attempt) => match attempt with
    | .ok _ => none
    | .error conflict => some conflict
  let conflicts := refused ++ observedHolders ownPid proc (deviceNodes capabilities sites)
  (acquired.map Prod.fst, conflicts,
    (acquired.map fun (device, path) => .ownershipAcquired device path) ++
      conflicts.map fun conflict => .ownershipConflict conflict.device conflict.resource conflict.detail)

end Kori
