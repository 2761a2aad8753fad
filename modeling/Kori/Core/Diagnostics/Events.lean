import Kori.Core.Diagnostics.Written

/-! # How refusals and events are written -/

open Faulty

namespace Kori

namespace LightingError

def kind : LightingError → String
  | colorDigits .. => "color_digits"
  | colorAlphabet _ => "color_alphabet"
  | brightnessOutOfRange .. => "brightness_out_of_range"
  | channelUnknown .. => "channel_unknown"
  | colorCount .. => "color_count"
  | directionUnsupported _ => "direction_unsupported"
  | cadenceTooFast .. => "cadence_too_fast"

def variants : List (Variant "kind" kind) := [
  .of "color_digits" (.both (.natural "expected") (.natural "actual")) (fun p => colorDigits p.1 p.2) fun
    | colorDigits expected actual => some (expected, actual)
    | _ => none,
  .of "color_alphabet" (.text "value") colorAlphabet fun
    | colorAlphabet value => some value
    | _ => none,
  .of "brightness_out_of_range" (.both (.byte "value") (.byte "max")) (fun p => brightnessOutOfRange p.1 p.2) fun
    | brightnessOutOfRange value max => some (value, max)
    | _ => none,
  .of "channel_unknown" (.both (.byte "channel") (.byte "available")) (fun p => channelUnknown p.1 p.2) fun
    | channelUnknown channel available => some (channel, available)
    | _ => none,
  .of "color_count" (.both (.text "effect") (.both (.natural "min") (.both (.natural "max") (.natural "actual"))))
    (fun p => colorCount p.1 p.2.1 p.2.2.1 p.2.2.2) fun
    | colorCount effect min max actual => some (effect, min, max, actual)
    | _ => none,
  .of "direction_unsupported" (.text "effect") directionUnsupported fun
    | directionUnsupported effect => some effect
    | _ => none,
  .of "cadence_too_fast" (.both (.byte "channel") (.both (.natural "minimum_interval_ms") (.natural "elapsed_ms")))
    (fun p => cadenceTooFast p.1 p.2.1 p.2.2) fun
    | cadenceTooFast channel minimumIntervalMs elapsedMs => some (channel, minimumIntervalMs, elapsedMs)
    | _ => none]

def fields : Fields LightingError :=
  .tagged "kind" kind variants fun error => by cases error <;> exact ⟨_, _, rfl, rfl⟩

end LightingError

namespace DisplayError

def kind : DisplayError → String
  | color .. => "color"
  | imagePathMissing => "image_path_missing"
  | imagePathTooLong .. => "image_path_too_long"
  | imageUndecodable .. => "image_undecodable"
  | imageTooLarge .. => "image_too_large"
  | imageTooManyPixels .. => "image_too_many_pixels"
  | animationTooLong _ => "animation_too_long"
  | panelUnknown => "panel_unknown"

def variants : List (Variant "kind" kind) := [
  .of "color" (.both (.text "field") (.field "source" (.object LightingError.fields))) (fun p => color p.1 p.2) fun
    | color field source => some (field, source)
    | _ => none,
  .of "image_path_missing" .empty (fun _ => imagePathMissing) fun
    | imagePathMissing => some ()
    | _ => none,
  .of "image_path_too_long" (.both (.natural "bytes") (.natural "max_bytes")) (fun p => imagePathTooLong p.1 p.2) fun
    | imagePathTooLong bytes maxBytes => some (bytes, maxBytes)
    | _ => none,
  .of "image_undecodable" (.both (.text "path") (.text "detail")) (fun p => imageUndecodable p.1 p.2) fun
    | imageUndecodable path detail => some (path, detail)
    | _ => none,
  .of "image_too_large" (.both (.natural "width") (.both (.natural "height") (.natural "max")))
    (fun p => imageTooLarge p.1 p.2.1 p.2.2) fun
    | imageTooLarge width height max => some (width, height, max)
    | _ => none,
  .of "image_too_many_pixels" (.both (.natural "pixels") (.natural "max")) (fun p => imageTooManyPixels p.1 p.2) fun
    | imageTooManyPixels pixels max => some (pixels, max)
    | _ => none,
  .of "animation_too_long" (.natural "max") animationTooLong fun
    | animationTooLong max => some max
    | _ => none,
  .of "panel_unknown" .empty (fun _ => panelUnknown) fun
    | panelUnknown => some ()
    | _ => none]

def fields : Fields DisplayError :=
  .tagged "kind" kind variants fun error => by cases error <;> exact ⟨_, _, rfl, rfl⟩

end DisplayError

namespace ValidationError

def kind : ValidationError → String
  | nameLength .. => "name_length"
  | nameBlank => "name_blank"
  | dutyOutOfRange .. => "duty_out_of_range"
  | curvePointCount .. => "curve_point_count"
  | curveDutyOutOfRange .. => "curve_duty_out_of_range"
  | lighting .. => "lighting"
  | display _ => "display"
  | curveNotMonotonic .. => "curve_not_monotonic"

def variants : List (Variant "kind" kind) := [
  .of "name_length" (.both (.natural "min") (.natural "max")) (fun p => nameLength p.1 p.2) fun
    | nameLength min max => some (min, max)
    | _ => none,
  .of "name_blank" .empty (fun _ => nameBlank) fun
    | nameBlank => some ()
    | _ => none,
  .of "duty_out_of_range"
    (.both (.field "channel" Channel.codec) (.both (.byte "value") (.both (.byte "min") (.byte "max"))))
    (fun p => dutyOutOfRange p.1 p.2.1 p.2.2.1 p.2.2.2) fun
    | dutyOutOfRange channel value min max => some (channel, value, min, max)
    | _ => none,
  .of "curve_point_count" (.both (.natural "expected") (.natural "actual")) (fun p => curvePointCount p.1 p.2) fun
    | curvePointCount expected actual => some (expected, actual)
    | _ => none,
  .of "curve_duty_out_of_range"
    (.both (.field "channel" Channel.codec) (.both (.byte "temperature_c") (.both (.byte "value") (.both (.byte "min")
      (.byte "max")))))
    (fun p => curveDutyOutOfRange p.1 p.2.1 p.2.2.1 p.2.2.2.1 p.2.2.2.2) fun
    | curveDutyOutOfRange channel temperatureC value min max => some (channel, temperatureC, value, min, max)
    | _ => none,
  .of "lighting" (.both (.byte "channel") (.field "source" (.object LightingError.fields)))
    (fun p => lighting p.1 p.2) fun
    | lighting channel source => some (channel, source)
    | _ => none,
  .of "display" (.field "source" (.object DisplayError.fields)) display fun
    | display source => some source
    | _ => none,
  .of "curve_not_monotonic"
    (.both (.field "channel" Channel.codec) (.both (.byte "previous") (.both (.byte "previous_temperature_c")
      (.both (.byte "value") (.byte "temperature_c")))))
    (fun p => curveNotMonotonic p.1 p.2.1 p.2.2.1 p.2.2.2.1 p.2.2.2.2) fun
    | curveNotMonotonic channel previous previousTemperatureC value temperatureC =>
      some (channel, previous, previousTemperatureC, value, temperatureC)
    | _ => none]

def fields : Fields ValidationError :=
  .tagged "kind" kind variants fun error => by cases error <;> exact ⟨_, _, rfl, rfl⟩

end ValidationError

def Incompatibility.codec : Codec Incompatibility :=
  .object (.as (.both (.field "capability" CapabilityId.codec) (.text "reason")) (fun p => ⟨p.1, p.2⟩)
    fun incompatibility => (incompatibility.capability, incompatibility.reason))

namespace IpcError

def kind : IpcError → String
  | unsupportedProtocol .. => "unsupported_protocol"
  | malformed _ => "malformed"
  | frameTooLarge _ => "frame_too_large"
  | handshakeRequired => "handshake_required"
  | peerRejected _ => "peer_rejected"
  | validation _ => "validation"
  | lighting _ => "lighting"
  | display _ => "display"
  | readOnly _ => "read_only"
  | incompatible _ => "incompatible"
  | profileNotFound _ => "profile_not_found"
  | profileNameUnavailable _ => "profile_name_unavailable"
  | noDevice => "no_device"
  | io _ => "io"

-- The fields of a refusal that wraps another one are those of the other, side by side with the tag.
def variants : List (Variant "error" kind) := [
  .of "unsupported_protocol" (.both (.natural "requested") (.natural "supported"))
    (fun p => unsupportedProtocol p.1 p.2) fun
    | unsupportedProtocol requested supported => some (requested, supported)
    | _ => none,
  .of "malformed" (.text "detail") malformed fun
    | malformed detail => some detail
    | _ => none,
  .of "frame_too_large" (.natural "max_bytes") frameTooLarge fun
    | frameTooLarge maxBytes => some maxBytes
    | _ => none,
  .of "handshake_required" .empty (fun _ => handshakeRequired) fun
    | handshakeRequired => some ()
    | _ => none,
  .of "peer_rejected" (.text "reason") peerRejected fun
    | peerRejected reason => some reason
    | _ => none,
  .of "validation" ValidationError.fields validation fun
    | validation source => some source
    | _ => none,
  .of "lighting" LightingError.fields lighting fun
    | lighting source => some source
    | _ => none,
  .of "display" DisplayError.fields display fun
    | display source => some source
    | _ => none,
  .of "read_only" (.text "reason") readOnly fun
    | readOnly reason => some reason
    | _ => none,
  .of "incompatible" (.field "details" (.list Incompatibility.codec)) incompatible fun
    | incompatible details => some details
    | _ => none,
  .of "profile_not_found" (.text "name") profileNotFound fun
    | profileNotFound name => some name
    | _ => none,
  .of "profile_name_unavailable" (.text "name") profileNameUnavailable fun
    | profileNameUnavailable name => some name
    | _ => none,
  .of "no_device" .empty (fun _ => noDevice) fun
    | noDevice => some ()
    | _ => none,
  .of "io" (.text "detail") io fun
    | io detail => some detail
    | _ => none]

def codec : Codec IpcError :=
  .object (.tagged "error" kind variants fun error => by cases error <;> exact ⟨_, _, rfl, rfl⟩)

end IpcError

namespace EventKind

def kind : EventKind → String
  | daemonStarted .. => "daemon_started"
  | daemonStopping _ => "daemon_stopping"
  | deviceDiscovered .. => "device_discovered"
  | deviceRejected .. => "device_rejected"
  | capabilityResolved .. => "capability_resolved"
  | ownershipAcquired .. => "ownership_acquired"
  | ownershipConflict .. => "ownership_conflict"
  | accessModeChanged .. => "access_mode_changed"
  | clientAccepted .. => "client_accepted"
  | clientRejected _ => "client_rejected"
  | clientDisconnected _ => "client_disconnected"
  | requestRejected _ => "request_rejected"
  | profileActivated .. => "profile_activated"
  | profileSaved _ => "profile_saved"
  | profileDeleted _ => "profile_deleted"
  | configLoaded _ => "config_loaded"
  | configRecovered .. => "config_recovered"
  | programApplied .. => "program_applied"
  | lightingApplied .. => "lighting_applied"
  | displayApplied .. => "display_applied"
  | curveDiverged .. => "curve_diverged"
  | sessionNotRecorded _ => "session_not_recorded"
  | collectorFailed .. => "collector_failed"
  | collectorRecovered _ => "collector_recovered"

def variants : List (Variant "event" kind) := [
  .of "daemon_started" (.both (.text "version") (.text "socket_path")) (fun p => daemonStarted p.1 p.2) fun
    | daemonStarted version socketPath => some (version, socketPath)
    | _ => none,
  .of "daemon_stopping" (.text "reason") daemonStopping fun
    | daemonStopping reason => some reason
    | _ => none,
  .of "device_discovered"
    (.both (.field "device" DeviceId.codec) (.text "sysfs_path"))
    (fun p => deviceDiscovered p.1 p.2) fun
    | deviceDiscovered device sysfsPath => some (device, sysfsPath)
    | _ => none,
  .of "device_rejected"
    (.both (.field "device" DeviceId.codec) (.text "reason"))
    (fun p => deviceRejected p.1 p.2) fun
    | deviceRejected device reason => some (device, reason)
    | _ => none,
  .of "capability_resolved"
    (.both (.field "device" DeviceId.codec) (.both (.field "capability" CapabilityId.codec) (.text "state")))
    (fun p => capabilityResolved p.1 p.2.1 p.2.2) fun
    | capabilityResolved device capability state => some (device, capability, state)
    | _ => none,
  .of "ownership_acquired"
    (.both (.field "device" DeviceId.codec) (.text "lock_path"))
    (fun p => ownershipAcquired p.1 p.2) fun
    | ownershipAcquired device lockPath => some (device, lockPath)
    | _ => none,
  .of "ownership_conflict"
    (.both (.optional "device" DeviceId.codec fun _ h => nomatch h) (.both (.text "resource") (.text "detail")))
    (fun p => ownershipConflict p.1 p.2.1 p.2.2) fun
    | ownershipConflict device resource detail => some (device, resource, detail)
    | _ => none,
  .of "access_mode_changed" (.both (.flag "read_only") (.text "reason")) (fun p => accessModeChanged p.1 p.2) fun
    | accessModeChanged readOnly reason => some (readOnly, reason)
    | _ => none,
  .of "client_accepted" (.both (.natural "uid") (.field "pid" .int)) (fun p => clientAccepted p.1 p.2) fun
    | clientAccepted uid pid => some (uid, pid)
    | _ => none,
  .of "client_rejected" (.text "reason") clientRejected fun
    | clientRejected reason => some reason
    | _ => none,
  .of "client_disconnected" (.text "detail") clientDisconnected fun
    | clientDisconnected detail => some detail
    | _ => none,
  .of "request_rejected" (.field "error" IpcError.codec) requestRejected fun
    | requestRejected error => some error
    | _ => none,
  .of "profile_activated"
    (.both (.text "name") (.field "hardware" HardwareState.codec))
    (fun p => profileActivated p.1 p.2) fun
    | profileActivated name hardware => some (name, hardware)
    | _ => none,
  .of "profile_saved" (.text "name") profileSaved fun
    | profileSaved name => some name
    | _ => none,
  .of "profile_deleted" (.text "name") profileDeleted fun
    | profileDeleted name => some name
    | _ => none,
  .of "config_loaded" (.text "path") configLoaded fun
    | configLoaded path => some path
    | _ => none,
  .of "config_recovered" (.both (.text "detail") (.text "preserved_path")) (fun p => configRecovered p.1 p.2) fun
    | configRecovered detail preservedPath => some (detail, preservedPath)
    | _ => none,
  .of "program_applied"
    (.both (.field "hardware" HardwareState.codec) (.natural "writes"))
    (fun p => programApplied p.1 p.2) fun
    | programApplied hardware writes => some (hardware, writes)
    | _ => none,
  .of "lighting_applied"
    (.both (.byte "channel") (.both (.text "program") (.both (.field "hardware" HardwareState.codec)
      (.natural "writes"))))
    (fun p => lightingApplied p.1 p.2.1 p.2.2.1 p.2.2.2) fun
    | lightingApplied channel program hardware writes => some (channel, program, hardware, writes)
    | _ => none,
  .of "display_applied"
    (.both (.text "mode") (.both (.field "hardware" HardwareState.codec) (.natural "frames")))
    (fun p => displayApplied p.1 p.2.1 p.2.2) fun
    | displayApplied mode hardware frames => some (mode, hardware, frames)
    | _ => none,
  .of "curve_diverged"
    (.both (.field "channel" Channel.codec) (.both (.field "liquid_temperature_mc" .int) (.both (.byte "expected")
      (.byte "reported"))))
    (fun p => curveDiverged p.1 p.2.1 p.2.2.1 p.2.2.2) fun
    | curveDiverged channel liquidTemperatureMc expected reported =>
      some (channel, liquidTemperatureMc, expected, reported)
    | _ => none,
  .of "session_not_recorded" (.text "detail") sessionNotRecorded fun
    | sessionNotRecorded detail => some detail
    | _ => none,
  .of "collector_failed"
    (.both (.field "collector" Collector.codec) (.text "detail"))
    (fun p => collectorFailed p.1 p.2) fun
    | collectorFailed collector detail => some (collector, detail)
    | _ => none,
  .of "collector_recovered" (.field "collector" Collector.codec) collectorRecovered fun
    | collectorRecovered collector => some collector
    | _ => none]

def fields : Fields EventKind :=
  .tagged "event" kind variants fun event => by cases event <;> exact ⟨_, _, rfl, rfl⟩

end EventKind

end Kori
