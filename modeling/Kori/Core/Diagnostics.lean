import Kori.Core.Ipc

/-! # The events the daemon keeps, and what it answers -/

namespace Kori

/-- A state transition or typed failure worth keeping. -/
inductive EventKind where
  | daemonStarted (version socketPath : String)
  | daemonStopping (reason : String)
  | deviceDiscovered (device : DeviceId) (sysfsPath : String)
  | deviceRejected (device : DeviceId) (reason : String)
  | capabilityResolved (device : DeviceId) (capability : CapabilityId) (state : String)
  | ownershipAcquired (device : DeviceId) (lockPath : String)
  | ownershipConflict (device : Option DeviceId) (resource detail : String)
  | accessModeChanged (readOnly : Bool) (reason : String)
  | clientAccepted (uid : Nat) (pid : Int)
  | clientRejected (reason : String)
  | clientDisconnected (detail : String)
  | requestRejected (error : IpcError)
  | profileActivated (name : String) (hardware : HardwareState)
  | profileSaved (name : String)
  | profileDeleted (name : String)
  | configLoaded (path : String)
  | configRecovered (detail preservedPath : String)
  | programApplied (hardware : HardwareState) (writes : Nat)
  | lightingApplied (channel : UInt8) (program : String) (hardware : HardwareState) (writes : Nat)
  | displayApplied (mode : String) (hardware : HardwareState) (frames : Nat)
  | curveDiverged (channel : Channel) (liquidTemperatureMc : Int) (expected reported : UInt8)
  | sessionNotRecorded (detail : String)
  | collectorFailed (collector : Collector) (detail : String)
  | collectorRecovered (collector : Collector)
deriving DecidableEq

/-- Events retained in memory. Older events are dropped first. -/
def DEFAULT_CAPACITY : Nat := 512

/-- What the ring still holds of the events recorded. -/
def retained (events : List EventKind) : List EventKind := events.drop (events.length - DEFAULT_CAPACITY)

inductive Response where
  | hello (protocolVersion : Nat) (daemonVersion : String)
  | status (status : DaemonStatus)
  | capabilities (record : CapabilityRecord)
  | profiles (active : String) (profiles : List Profile)
  | activated (outcome : ActivationOutcome)
  | saved (name : String)
  | deleted (name : String) (activatedInstead : Option String)
  | telemetry (snapshot : TelemetrySnapshot)
  | applied (outcome : ApplyOutcome)
  | lit (outcome : LightingOutcome)
  | shown (outcome : DisplayOutcome)
  | diagnostics (daemonVersion : String) (capabilities : CapabilityRecord) (events : List EventKind)
  | error (error : IpcError)
deriving DecidableEq

end Kori
