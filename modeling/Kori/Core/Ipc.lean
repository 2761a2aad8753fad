import Kori.Core.Profile

/-! # The typed protocol spoken over the daemon's socket -/

namespace Kori

def PROTOCOL_VERSION : Nat := 9

inductive Request where
  | hello (protocolVersion : Nat)
  | status
  | capabilities
  | profiles
  | saveProfile (profile : Profile)
  | activateProfile (name : String)
  | deleteProfile (name : String)
  | telemetry
  | applyProgram (program : CoolingProgram)
  | applyLighting (command : LightingCommand)
  | applyDisplay (preset : DisplayPreset)
  | diagnostics
deriving DecidableEq

/-- How much of the hardware state the daemon can vouch for. -/
inductive HardwareState where
  /-- The device is running its own firmware program and nothing was written. -/
  | onboard
  /-- The daemon wrote the program and read it back. -/
  | confirmed
  | notApplied (reason : String)
  /-- A write started and could not be confirmed. -/
  | uncertain (reason : String)
deriving DecidableEq, Repr

namespace HardwareState

def isUncertain : HardwareState → Bool
  | uncertain _ => true
  | _ => false

def isNotApplied : HardwareState → Bool
  | notApplied _ => true
  | _ => false

end HardwareState

/-- What one channel reported after a write. -/
structure ChannelReadback where
  channel : Channel
  mode : Option PwmMode
  duty : Option UInt8
  /-- Curve points that read back identical to what was written. -/
  curvePointsConfirmed : Option Nat
  /-- Set when the readback contradicts the value that was written. -/
  mismatch : Option String
deriving DecidableEq, Repr

def ChannelReadback.new (channel : Channel) : ChannelReadback :=
  { channel, mode := none, duty := none, curvePointsConfirmed := none, mismatch := none }

/-- The result of one cooling write, with the evidence behind it. -/
structure ApplyOutcome where
  hardware : HardwareState
  /-- Number of kernel attributes written. -/
  writes : Nat
  deduplicated : Bool
  readback : List ChannelReadback
deriving DecidableEq, Repr

/-- The outcome of a program that touches no hardware. -/
def ApplyOutcome.untouched (hardware : HardwareState) : ApplyOutcome :=
  { hardware, writes := 0, deduplicated := false, readback := [] }

structure LightingOutcome where
  channel : UInt8
  program : LightingProgram
  hardware : HardwareState
  writes : Nat
  deduplicated : Bool
deriving DecidableEq, Repr

structure DisplayOutcome where
  preset : DisplayPreset
  hardware : HardwareState
  frames : Nat
  deduplicated : Bool
  brightnessSent : Bool
deriving DecidableEq, Repr

/-- What the panel is showing, as far as the daemon knows. -/
structure DisplayState where
  panel : Option LcdPanel
  committed : Option DisplayPreset
  streaming : Bool
  faulted : Option String
  droppedFrames : Nat
deriving DecidableEq

/-- What one lighting channel is showing, as far as the daemon knows. -/
structure ChannelState where
  channel : UInt8
  accessories : List String
  committed : Option LightingProgram
deriving DecidableEq

structure ActivationOutcome where
  name : String
  hardware : HardwareState
  applied : Option ApplyOutcome
deriving DecidableEq

structure OwnershipConflict where
  device : Option DeviceId
  resource : String
  detail : String
deriving DecidableEq, Repr

/-- Whether the daemon may write at all. -/
inductive AccessMode where
  | readWrite
  | readOnly (conflicts : List OwnershipConflict)
deriving DecidableEq, Repr

structure BlockedCapability where
  capability : CapabilityId
  reason : String
deriving DecidableEq, Repr

structure DeviceStatus where
  id : DeviceId
  present : Bool
  owned : Bool
  writable : List CapabilityId
  blocked : List BlockedCapability
deriving DecidableEq

/-- How the on-disk configuration was resolved at startup. -/
inductive ConfigState where
  | defaults
  | loaded
  | recovered (detail preservedPath recoveryAction : String)
deriving DecidableEq, Repr

/-- Everything the client needs to decide what to enable. -/
structure DaemonStatus where
  daemonVersion : String
  protocolVersion : Nat
  access : AccessMode
  devices : List DeviceStatus
  activeProfile : String
  config : ConfigState
  cooling : Option CoolingProgram
  lighting : List ChannelState
  display : DisplayState
  socketPath : String
deriving DecidableEq

/-- Every way a request can be refused. -/
inductive IpcError where
  | unsupportedProtocol (requested supported : Nat)
  | malformed (detail : String)
  | frameTooLarge (maxBytes : Nat)
  | handshakeRequired
  | peerRejected (reason : String)
  | validation (source : ValidationError)
  | lighting (source : LightingError)
  | display (source : DisplayError)
  | readOnly (reason : String)
  | incompatible (details : List Incompatibility)
  | profileNotFound (name : String)
  | profileNameUnavailable (name : String)
  | noDevice
  | io (detail : String)
deriving DecidableEq, Repr

def IpcError.message : IpcError → String
  | unsupportedProtocol requested supported =>
    s!"Client protocol {requested} is not supported. This daemon speaks {supported}."
  | malformed detail => s!"Request could not be parsed: {detail}"
  | frameTooLarge maxBytes => s!"Request exceeds the {maxBytes} byte frame limit."
  | handshakeRequired => "Request rejected before the protocol handshake completed."
  | peerRejected reason => s!"Local peer rejected: {reason}"
  | validation source => source.message
  | lighting source => source.display
  | display source => source.display
  | readOnly reason => s!"Controls are read-only: {reason}"
  | incompatible _ => "Profile is incompatible with the connected hardware."
  | profileNotFound name => s!"No profile named {name}."
  | profileNameUnavailable name => s!"The name {name} is reserved for the built-in safe profile."
  | noDevice => "No supported device is present."
  | io detail => s!"Local operation failed: {detail}"

end Kori
