import Kori.Core.Diagnostics.Events
import Kori.Faulty.Json

/-! # How requests and answers are written -/

open Faulty

namespace Kori

/-- A value that may be missing. -/
def orNull {α : Type} (write : α → Value) (a : Option α) : Value := (a.map write).getD .null

def numeral (n : Nat) : Value := .number n

/-! ## Lighting -/

def Rgb.json (color : Rgb) : Value :=
  .object [("r", numeral color.r.toNat), ("g", numeral color.g.toNat), ("b", numeral color.b.toNat)]

def Brightness.json (brightness : Brightness) : Value := numeral brightness.percent.toNat

def LightingEffect.key : LightingEffect → String
  | breathing => "breathing"
  | spectrumWave => "spectrum_wave"

def EffectSpeed.key : EffectSpeed → String
  | slowest => "slowest"
  | slower => "slower"
  | normal => "normal"
  | faster => "faster"
  | fastest => "fastest"

def EffectDirection.key : EffectDirection → String
  | forward => "forward"
  | backward => "backward"

def LightingProgram.json : LightingProgram → Value
  | off => .object [("mode", .string "off")]
  | fixed color brightness =>
    .object [("mode", .string "fixed"), ("color", color.json), ("brightness", brightness.json)]
  | effect eff colors brightness speed direction =>
    .object [("mode", .string "effect"), ("effect", .string eff.key), ("colors", .array (colors.map Rgb.json)),
      ("brightness", brightness.json), ("speed", .string speed.key), ("direction", .string direction.key)]

def LightingCommand.json (command : LightingCommand) : Value :=
  .object [("channel", numeral command.channel.toNat), ("program", command.program.json)]

/-! ## The panel -/

def LcdMetric.key : LcdMetric → String
  | cpuTemperature => "cpu_temperature"
  | gpuTemperature => "gpu_temperature"
  | liquidTemperature => "liquid_temperature"
  | cpuLoad => "cpu_load"
  | gpuLoad => "gpu_load"

def Orientation.key : Orientation → String
  | deg0 => "deg0"
  | deg90 => "deg90"
  | deg180 => "deg180"
  | deg270 => "deg270"

def ReadingSlot.json (slot : ReadingSlot) : Value :=
  .object [("metric", .string slot.metric.key), ("reading", slot.reading.json),
    ("reading_end", orNull Rgb.json slot.readingEnd), ("text", slot.text.json)]

-- The logo is read, and never written.
def DisplayPreset.json (preset : DisplayPreset) : Value :=
  .object [("mode", .string preset.mode.key),
    ("readings", .array [preset.readings.1.json, preset.readings.2.json]),
    ("background", preset.background.json), ("orientation", .string preset.orientation.key),
    ("brightness", preset.brightness.json), ("image", orNull .string preset.image)]

/-! ## Profiles -/

def TemperatureCurve.json (curve : TemperatureCurve) : Value :=
  .object [("points", .array (curve.points.toList.map fun duty => numeral duty.toNat))]

def CoolingProgram.json : CoolingProgram → Value
  | onboard => .object [("mode", .string "onboard")]
  | fixed pump fan => .object [("mode", .string "fixed"), ("pump", numeral pump.toNat), ("fan", numeral fan.toNat)]
  | curve pump fan => .object [("mode", .string "curve"), ("pump", pump.json), ("fan", fan.json)]

def Profile.json (profile : Profile) : Value :=
  .object [("name", .string profile.name), ("program", profile.program.json),
    ("device", orNull DeviceId.codec.write profile.device),
    ("lighting", .array (profile.lighting.map LightingCommand.json)),
    ("display", orNull DisplayPreset.json profile.display)]

/-! ## What a write came to -/

def PwmMode.key : PwmMode → String
  | fullSpeed => "full_speed"
  | fixed => "fixed"
  | curve => "curve"

def ChannelReadback.json (readback : ChannelReadback) : Value :=
  .object [("channel", Channel.codec.write readback.channel),
    ("mode", orNull (fun mode => .string mode.key) readback.mode),
    ("duty", orNull (fun duty => numeral duty.toNat) readback.duty),
    ("curve_points_confirmed", orNull (fun points => numeral (UInt16.ofNat points).toNat) readback.curvePointsConfirmed),
    ("mismatch", orNull .string readback.mismatch)]

def ApplyOutcome.fields (outcome : ApplyOutcome) : Object :=
  [("hardware", HardwareState.codec.write outcome.hardware), ("writes", numeral (UInt32.ofNat outcome.writes).toNat),
    ("deduplicated", .bool outcome.deduplicated), ("readback", .array (outcome.readback.map ChannelReadback.json))]

def LightingOutcome.fields (outcome : LightingOutcome) : Object :=
  [("channel", numeral outcome.channel.toNat), ("program", outcome.program.json),
    ("hardware", HardwareState.codec.write outcome.hardware), ("writes", numeral (UInt32.ofNat outcome.writes).toNat),
    ("deduplicated", .bool outcome.deduplicated)]

def DisplayOutcome.fields (outcome : DisplayOutcome) : Object :=
  [("preset", outcome.preset.json), ("hardware", HardwareState.codec.write outcome.hardware),
    ("frames", numeral (UInt32.ofNat outcome.frames).toNat), ("deduplicated", .bool outcome.deduplicated),
    ("brightness_sent", .bool outcome.brightnessSent)]

def ActivationOutcome.fields (outcome : ActivationOutcome) : Object :=
  [("name", .string outcome.name), ("hardware", HardwareState.codec.write outcome.hardware),
    ("applied", orNull (fun applied => .object applied.fields) outcome.applied)]

/-! ## The status -/

def OwnershipConflict.json (conflict : OwnershipConflict) : Value :=
  .object [("device", orNull DeviceId.codec.write conflict.device), ("resource", .string conflict.resource),
    ("detail", .string conflict.detail)]

def AccessMode.json : AccessMode → Value
  | readWrite => .object [("mode", .string "read_write")]
  | readOnly conflicts =>
    .object [("mode", .string "read_only"), ("conflicts", .array (conflicts.map OwnershipConflict.json))]

def BlockedCapability.json (blocked : BlockedCapability) : Value :=
  .object [("capability", CapabilityId.codec.write blocked.capability), ("reason", .string blocked.reason)]

def DeviceStatus.json (status : DeviceStatus) : Value :=
  .object [("id", DeviceId.codec.write status.id), ("present", .bool status.present), ("owned", .bool status.owned),
    ("writable", .array (status.writable.map CapabilityId.codec.write)),
    ("blocked", .array (status.blocked.map BlockedCapability.json))]

def ConfigState.json : ConfigState → Value
  | defaults => .object [("state", .string "defaults")]
  | loaded => .object [("state", .string "loaded")]
  | recovered detail preservedPath recoveryAction =>
    .object [("state", .string "recovered"), ("detail", .string detail), ("preserved_path", .string preservedPath),
      ("recovery_action", .string recoveryAction)]

def ChannelState.json (state : ChannelState) : Value :=
  .object [("channel", numeral state.channel.toNat), ("accessories", .array (state.accessories.map .string)),
    ("committed", orNull LightingProgram.json state.committed)]

def DisplayState.json (state : DisplayState) : Value :=
  .object [("panel", orNull LcdPanel.codec.write state.panel), ("committed", orNull DisplayPreset.json state.committed),
    ("streaming", .bool state.streaming), ("faulted", orNull .string state.faulted),
    ("dropped_frames", numeral state.droppedFrames)]

def DaemonStatus.fields (status : DaemonStatus) : Object :=
  [("daemon_version", .string status.daemonVersion), ("protocol_version", numeral status.protocolVersion),
    ("access", status.access.json), ("devices", .array (status.devices.map DeviceStatus.json)),
    ("active_profile", .string status.activeProfile), ("config", status.config.json),
    ("cooling", orNull CoolingProgram.json status.cooling),
    ("lighting", .array (status.lighting.map ChannelState.json)), ("display", status.display.json),
    ("socket_path", .string status.socketPath)]

/-! ## Requests -/

def Request.tag : Request → String
  | hello _ => "hello"
  | status => "status"
  | capabilities => "capabilities"
  | profiles => "profiles"
  | saveProfile _ => "save_profile"
  | activateProfile _ => "activate_profile"
  | deleteProfile _ => "delete_profile"
  | telemetry => "telemetry"
  | applyProgram _ => "apply_program"
  | applyLighting _ => "apply_lighting"
  | applyDisplay _ => "apply_display"
  | diagnostics => "diagnostics"

def Request.fields : Request → Object
  | hello protocolVersion => [("protocol_version", numeral protocolVersion)]
  | saveProfile profile => [("profile", profile.json)]
  | activateProfile name => [("name", .string name)]
  | deleteProfile name => [("name", .string name)]
  | applyProgram program => [("program", program.json)]
  | applyLighting command => [("command", command.json)]
  | applyDisplay preset => [("preset", preset.json)]
  | _ => []

def Request.json (request : Request) : Value := .object (("request", .string request.tag) :: request.fields)

/-! ## Responses -/

/-- The documents of a capability record, of a sample and of the log, with all that the daemon's own
state does not say of them. -/
structure Documents where
  record : CapabilityRecord → Object
  sample : TelemetrySnapshot → Object
  generatedAtUnixMs : Nat
  redacted : CapabilityRecord → Value
  events : List EventKind → List Value

def Response.tag : Response → String
  | hello .. => "hello"
  | status _ => "status"
  | capabilities _ => "capabilities"
  | profiles .. => "profiles"
  | activated _ => "activated"
  | saved _ => "saved"
  | deleted .. => "deleted"
  | telemetry _ => "telemetry"
  | applied _ => "applied"
  | lit _ => "lit"
  | shown _ => "shown"
  | diagnostics .. => "diagnostics"
  | error _ => "error"

namespace Response

variable (documents : Documents)

def fields : Response → Object
  | hello protocolVersion daemonVersion =>
    [("protocol_version", numeral protocolVersion), ("daemon_version", .string daemonVersion)]
  | status current => current.fields
  | capabilities record => documents.record record
  | profiles active stored =>
    [("active", .string active), ("profiles", .array (stored.map Profile.json))]
  | activated outcome => outcome.fields
  | saved name => [("name", .string name)]
  | deleted name activatedInstead => [("name", .string name), ("activated_instead", orNull .string activatedInstead)]
  | telemetry snapshot => documents.sample snapshot
  | applied outcome => outcome.fields
  | lit outcome => outcome.fields
  | shown outcome => outcome.fields
  | diagnostics daemonVersion record events =>
    [("schema_version", numeral 1), ("generated_at_unix_ms", numeral documents.generatedAtUnixMs),
      ("daemon_version", .string daemonVersion), ("capabilities", documents.redacted record),
      ("events", .array (documents.events events))]
  | error refusal => (IpcError.codec.write refusal).fields

/-- The fields of a response stand side by side with its name. -/
def json (response : Response) : Value := .object (("response", .string response.tag) :: fields documents response)

end Response

end Kori
