import Kori.Daemon.Cooling.Reported
import Kori.Daemon.State
import Mathlib.Algebra.Group.Action.Defs

/-! # How long the answers of the gates, of the disk and of the executors are

`n` bounds every text that comes from outside: a path, a reason of the probe, what a fault says.
-/

open Faulty

namespace Kori

variable {n : Nat}

/-! ## The gates -/

def IpcError.Within (n : Nat) (error : IpcError) : Prop := error.size ≤ 24 * n + 6100

/-- A refusal, in bytes and in words. -/
def IpcError.Short (n : Nat) (error : IpcError) : Prop := error.Within n ∧ textSize error.message ≤ 4 * n + 300

/-- The texts of the probe and of the scan for other holders, as the daemon keeps them, are short. -/
structure Daemon.Terse (n : Nat) (daemon : Daemon) : Prop where
  devices : daemon.capabilities.supported.length ≤ 8
  blocked : ∀ device ∈ daemon.capabilities.supported, ∀ capability ∈ device.capabilities, ∀ reason,
    capability.state.blockedReason = some reason → textSize reason ≤ n
  conflicts : ∀ cause, daemon.readOnly = some cause → textSize cause.reason ≤ 4 * n

theorem textSize_capability (capability : CapabilityId) : textSize capability.label ≤ 19 := by
  cases capability <;> decide

theorem textSize_absent (capability : CapabilityId) :
    textSize (capability.label ++ " is absent from the capability record.") ≤ 60 := by
  have hlabel := textSize_capability capability
  have habsent : textSize " is absent from the capability record." ≤ 40 := (textSize_literal rfl).trans_le (by decide)
  rw [textSize_append]
  omega

theorem within_incompatible {details : List Incompatibility} (hcount : details.length ≤ 24)
    (h : ∀ incompatibility ∈ details, textSize incompatibility.reason ≤ n + 200) :
    (IpcError.incompatible details).Within n := by
  have hsize := IpcError.size_incompatible h
  have hall := Nat.mul_le_mul_right (n + 200 + 49 + 1) hcount
  unfold IpcError.Within
  omega

theorem within_noDevice : IpcError.noDevice.Within n :=
  Nat.le_trans (show IpcError.noDevice.size ≤ 6100 by decide) (Nat.le_add_left _ _)

theorem capability_mem {device : DeviceRecord} {id : CapabilityId} {entry : Capability}
    (h : device.capability id = some entry) : entry ∈ device.capabilities := List.mem_of_find?_eq_some h

theorem either_requireWritable {daemon : Daemon} (h : daemon.Terse n) {device : DeviceRecord}
    (hdevice : device ∈ daemon.capabilities.supported) (capability : CapabilityId) :
    Either (IpcError.Within n) (fun _ => True) (requireWritable device capability) := by
  unfold requireWritable
  split
  · trivial
  · refine within_incompatible (show (1 : Nat) ≤ 24 by omega) fun incompatibility hmem => ?_
    obtain rfl := List.mem_singleton.mp hmem
    change textSize (Option.getD _ (capability.label ++ " is absent from the capability record.")) ≤ _
    have habsent := textSize_absent capability
    cases hreason : (device.capability capability).bind fun entry => entry.state.blockedReason with
    | none => exact Nat.le_trans habsent (by omega)
    | some reason =>
      obtain ⟨entry, hentry, hblocked⟩ := Option.bind_eq_some_iff.mp hreason
      exact Nat.le_trans (h.blocked device hdevice entry (capability_mem hentry) reason hblocked) (Nat.le_add_right _ _)

theorem either_supportedDevice (daemon : Daemon) (id : DeviceId) :
    Either (fun error => error = IpcError.noDevice) (fun device => device ∈ daemon.capabilities.supported)
      (daemon.supportedDevice id) := by
  unfold Daemon.supportedDevice
  split
  · rename_i device hdevice
    obtain ⟨hfound, hsupported⟩ := Option.filter_eq_some_iff.mp hdevice
    exact List.mem_filter.mpr ⟨List.mem_of_find?_eq_some hfound, hsupported⟩
  · exact rfl

theorem short_readOnly {daemon : Daemon} (h : daemon.Terse n) :
    Either (IpcError.Short n) (fun _ => True) daemon.requireWriteAccess := by
  unfold Daemon.requireWriteAccess
  split
  · trivial
  · rename_i cause hcause
    have hreason := h.conflicts cause hcause
    have hsize := IpcError.size_readOnly cause.reason
    have hcontrols : textSize "Controls are read-only: " = 24 := textSize_literal rfl
    refine ⟨?_, ?_⟩
    · unfold IpcError.Within
      omega
    · change textSize ("Controls are read-only: " ++ cause.reason) ≤ _
      rw [textSize_append]
      omega

theorem length_requiredCapabilities (program : CoolingProgram) : program.requiredCapabilities.length ≤ 2 := by
  cases program with
  | onboard => exact Nat.zero_le 2
  | fixed pump fan => exact Nat.le_refl 2
  | curve pump fan => exact Nat.le_refl 2

theorem length_programIncompatibilities (program : CoolingProgram) (device : DeviceRecord) :
    (programIncompatibilities program device).length ≤ 2 :=
  Nat.le_trans (List.length_filterMap_le _ _) (length_requiredCapabilities program)

theorem textSize_programIncompatibility {daemon : Daemon} (h : daemon.Terse n) {device : DeviceRecord}
    (hdevice : device ∈ daemon.capabilities.supported) {program : CoolingProgram} {incompatibility : Incompatibility}
    (hmem : incompatibility ∈ programIncompatibilities program device) :
    textSize incompatibility.reason ≤ n + 60 := by
  obtain ⟨capability, -, hentry⟩ := List.mem_filterMap.mp hmem
  split at hentry
  · rename_i entry hfound
    split at hentry
    · cases hentry
    · cases hentry
      cases hreason : entry.state.blockedReason with
      | none =>
        have hlabel := textSize_capability capability
        have hnot : textSize " is not writable." = 17 := textSize_literal rfl
        change textSize (capability.label ++ " is not writable.") ≤ _
        rw [textSize_append]
        omega
      | some reason =>
        exact Nat.le_trans (h.blocked device hdevice entry (capability_mem hfound) reason hreason) (Nat.le_add_right _ _)
  · cases hentry
    exact Nat.le_trans (textSize_absent capability) (Nat.le_add_left _ _)

theorem short_incompatible {details : List Incompatibility} (h : (IpcError.incompatible details).Within n) :
    (IpcError.incompatible details).Short n := by
  have hmessage : textSize "Profile is incompatible with the connected hardware." ≤ 300 :=
    (textSize_literal rfl).trans_le (by decide)
  exact ⟨h, Nat.le_trans hmessage (Nat.le_add_left _ _)⟩

theorem short_noDevice : IpcError.noDevice.Short n := by
  have hmessage : textSize IpcError.noDevice.message ≤ 300 := (textSize_literal rfl).trans_le (by decide)
  exact ⟨within_noDevice, Nat.le_trans hmessage (Nat.le_add_left _ _)⟩

theorem either_admitsProgram {daemon : Daemon} (h : daemon.Terse n) (program : CoolingProgram) :
    Either (IpcError.Short n) (fun _ => True) (daemon.admitsProgram program) := by
  unfold Daemon.admitsProgram
  refine either_bind (either_mapError (either_mono (either_validateProgram program) (fun source hsource => ?_)
    fun _ _ => trivial)) fun _ (_ : True) => ?_
  · have hsize := IpcError.size_validation source
    have hbytes := hsource.1
    refine ⟨?_, Nat.le_trans hsource.2 (by omega)⟩
    unfold IpcError.Within
    omega
  · split
    · trivial
    · have hdevice := either_mono (either_supportedDevice daemon KRAKEN_BASE) (fun e he => he ▸ @short_noDevice n)
        fun _ h => h
      refine either_bind hdevice fun device hmem => ?_
      dsimp only
      split
      · refine short_incompatible (within_incompatible ?_ fun _ hin =>
        Nat.le_trans (textSize_programIncompatibility h hmem hin) (by omega))
        exact Nat.le_trans (length_programIncompatibilities program device) (by omega)
      · exact short_readOnly h

theorem either_admitsLighting {daemon : Daemon} (h : daemon.Terse n) {command : LightingCommand}
    (hcount : Lighting.colorCount command.program < 10 ^ 20) :
    Either (IpcError.Within n) (fun _ => Lighting.validateProgram command.program = .ok ())
      (daemon.admitsLighting command) := by
  unfold Daemon.admitsLighting
  have hvalid := Lighting.either_validateCommand daemon.lighting.channelCount hcount
  cases hresult : Lighting.validateCommand command daemon.lighting.channelCount with
  | error source =>
    rw [hresult] at hvalid
    have hsize := IpcError.size_lighting source
    have hbytes : source.size ≤ 150 := hvalid
    change (IpcError.lighting source).size ≤ _
    omega
  | ok =>
    have hprogram : Lighting.validateProgram command.program = .ok () := by
      unfold Lighting.validateCommand at hresult
      split at hresult
      · cases hresult
      · exact hresult
    have hdevice := either_mono (either_supportedDevice daemon RGB_CONTROLLER) (fun e he => he ▸ @within_noDevice n)
      fun _ h => h
    refine either_bind (P := fun _ => True) trivial fun _ _ => either_bind hdevice fun device hmem => ?_
    refine either_bind (either_requireWritable h hmem _) fun _ _ => ?_
    exact either_mono (short_readOnly h) (fun _ hshort => hshort.1) fun _ _ => hprogram

theorem either_admitsDisplay {daemon : Daemon} (h : daemon.Terse n) {preset : DisplayPreset}
    (hpath : preset.pathBytes < 10 ^ 20) :
    Either (IpcError.Within n) (fun _ => True) (daemon.admitsDisplay preset) := by
  unfold Daemon.admitsDisplay
  refine either_bind (either_mapError (either_mono (preset.either_validate hpath) (fun source hsource => ?_)
    fun _ _ => trivial)) fun _ (_ : True) => ?_
  · have hsize := IpcError.size_display source
    unfold IpcError.Within
    omega
  · have hdevice := either_mono (either_supportedDevice daemon KRAKEN_BASE) (fun e he => he ▸ @within_noDevice n)
      fun _ h => h
    refine either_bind hdevice fun device hmem => ?_
    refine either_bind (either_requireWritable h hmem _) fun _ _ => ?_
    refine either_bind (either_requireWritable h hmem _) fun _ _ => ?_
    exact either_mono (short_readOnly h) (fun _ hshort => hshort.1) fun _ _ => trivial

theorem textSize_deviceId (id : DeviceId) : textSize id.display ≤ 54 := by
  have hlength : id.display.length = 9 := by
    simp only [DeviceId.display, DeviceId.hex4, String.length_append, String.length_ofList, List.length_map]
    rfl
  have hsize := textSize_le id.display
  omega

theorem length_incompatibilities (profile : Profile) (device : DeviceRecord) :
    (incompatibilities profile device).length ≤ 3 := by
  have hprogram := length_programIncompatibilities profile.program device
  unfold incompatibilities
  rw [List.length_append]
  split
  · split
    · rw [List.length_singleton]
      omega
    · rw [List.length_nil]
      omega
  · rw [List.length_nil]
    omega

theorem textSize_incompatibility {daemon : Daemon} (h : daemon.Terse n) {device : DeviceRecord}
    (hdevice : device ∈ daemon.capabilities.supported) {profile : Profile} {incompatibility : Incompatibility}
    (hmem : incompatibility ∈ incompatibilities profile device) : textSize incompatibility.reason ≤ n + 200 := by
  unfold incompatibilities at hmem
  rcases List.mem_append.mp hmem with hmem | hmem
  · split at hmem
    · rename_i expected hexpected
      split at hmem
      · obtain rfl := List.mem_singleton.mp hmem
        have htargets : textSize "Profile targets " = 16 := textSize_literal rfl
        have hbut : textSize " but the connected device is " = 29 := textSize_literal rfl
        have hdot : textSize "." = 1 := textSize_literal rfl
        have hexpected := textSize_deviceId expected
        have hconnected := textSize_deviceId device.id
        change textSize ("Profile targets " ++ expected.display ++ " but the connected device is " ++
          (device.id.display ++ ".")) ≤ _
        simp only [textSize_append]
        omega
      · cases hmem
    · cases hmem
  · exact Nat.le_trans (textSize_programIncompatibility h hdevice hmem) (by omega)

theorem either_admitsActivation {daemon : Daemon} (h : daemon.Terse n) (profile : Profile) :
    Either (IpcError.Within n) (fun _ => True) (daemon.admitsActivation profile) := by
  unfold Daemon.admitsActivation
  split
  · trivial
  · dsimp only
    split
    · exact within_noDevice
    · split
      · have htargets : ∀ device ∈ daemon.targetsFor profile, device ∈ daemon.capabilities.supported :=
          fun device hmem => (List.mem_filter.mp hmem).1
        have hcount : (daemon.targetsFor profile).length ≤ 8 := Nat.le_trans (List.length_filter_le _ _) h.devices
        refine within_incompatible ?_ fun incompatibility hmem => ?_
        · have hsum := List.sum_le_card_nsmul ((daemon.targetsFor profile).map fun device =>
            (incompatibilities profile device).length) 3 (List.forall_mem_map.mpr fun device _ =>
              length_incompatibilities profile device)
          rw [List.length_map, smul_eq_mul] at hsum
          rw [List.length_flatMap]
          omega
        · obtain ⟨device, hdevice, hin⟩ := List.mem_flatMap.mp hmem
          exact textSize_incompatibility h (htargets device hdevice) hin
      · exact either_mono (short_readOnly h) (fun _ hshort => hshort.1) fun _ _ => trivial

/-! ## The lighting executor -/

namespace LightingExecutor

variable {self : LightingExecutor} {command : LightingCommand}

/-- An answer about a command, its reason short. -/
def Answers (n : Nat) (command : LightingCommand) (r : LightingOutcome × LightingExecutor) : Prop :=
  r.1.program = command.program ∧ textSize r.1.hardware.reason ≤ n + 350

theorem textSize_tooManyColors {colors : Nat} (h : colors < 10 ^ 20) :
    textSize (RgbError.tooManyColors colors RgbController.MAX_COLORS).display ≤ 350 := by
  have hcarries : textSize "the program carries " = 20 := textSize_literal rfl
  have hholds : textSize " colors, and one report holds at most " = 38 := textSize_literal rfl
  have hlimit : textSize (toString RgbController.MAX_COLORS) = 2 := rfl
  have hcolors := textSize_toString (by omega) h
  change textSize ("the program carries " ++ toString colors ++ " colors, and one report holds at most " ++
    toString RgbController.MAX_COLORS) ≤ _
  simp only [textSize_append]
  omega

theorem textSize_encode {channel : UInt8} {program : LightingProgram} (hcount : Lighting.colorCount program < 10 ^ 20) :
    Either (fun error => textSize error.display ≤ 350) (fun _ => True) (RgbController.encode channel program) := by
  have hchannel : textSize "channel " = 8 := textSize_literal rfl
  have hnot : textSize " is not addressable on this controller" = 38 := textSize_literal rfl
  have hnumber := textSize_byte channel
  have hcolors : (RgbController.encoding program).colors.length < 10 ^ 20 := by
    cases program with
    | off => decide
    | fixed color brightness => exact (show 1 < 10 ^ 20 by decide)
    | effect effect colors brightness speed direction =>
      cases effect with
      | breathing => exact (List.length_map _).trans_lt hcount
      | spectrumWave => exact (show 1 < 10 ^ 20 by decide)
  unfold RgbController.encode
  split
  · change textSize ("channel " ++ toString channel.toNat ++ " is not addressable on this controller") ≤ _
    simp only [textSize_append]
    omega
  · unfold RgbController.colorCommand
    dsimp only
    split
    · exact textSize_tooManyColors hcolors
    · trivial

theorem answers_cadence {now : Instant} {refusal : LightingOutcome}
    (h : self.refuseForCadence now command = some refusal) : Answers n command (refusal, self) := by
  have hcommands : textSize "Commands to channel " = 20 := textSize_literal rfl
  have hlimited : textSize " are limited to one every " = 26 := textSize_literal rfl
  have hms : textSize " ms; " = 5 := textSize_literal rfl
  have hlast : textSize "the last one was " = 17 := textSize_literal rfl
  have hago : textSize " ms ago." = 8 := textSize_literal rfl
  have hagain : textSize " Nothing was sent. Try again in a moment." = 41 := textSize_literal rfl
  have hinterval : textSize (toString MIN_COMMAND_INTERVAL_MS) = 2 := rfl
  have hchannel := textSize_byte command.channel
  obtain ⟨sent, hsent, hrefused⟩ := Option.bind_eq_some_iff.mp h
  dsimp only at hrefused
  split at hrefused
  · cases hrefused
  · rename_i hearly
    cases hrefused
    have helapsed : (now - sent) / milliseconds 1 < 10 ^ 2 := by
      have hwait : milliseconds MIN_COMMAND_INTERVAL_MS = 50000000 := rfl
      exact Nat.div_lt_of_lt_mul (Nat.lt_trans (Nat.lt_of_not_le hearly) (by decide))
    have hnumber := @textSize_toString _ 2 (by omega) helapsed
    refine ⟨rfl, ?_⟩
    change textSize ("Commands to channel " ++ toString command.channel.toNat ++ " are limited to one every " ++
      toString MIN_COMMAND_INTERVAL_MS ++ " ms; " ++ ("the last one was " ++
        toString ((now - sent) / milliseconds 1) ++ " ms ago.") ++ " Nothing was sent. Try again in a moment.") ≤ _
    simp only [textSize_append]
    omega

theorem gives_apply (now : Instant) (hcount : Lighting.colorCount command.program < 10 ^ 20) :
    Gives (fun detail => textSize detail ≤ n) (Answers n command) (self.apply now command) := by
  have hnone : textSize "" = 0 := textSize_literal rfl
  have hunbound : textSize "No lighting controller is connected." ≤ 40 := (textSize_literal rfl).trans_le (by decide)
  unfold apply
  split
  · refine ⟨rfl, ?_⟩
    change textSize "" ≤ _
    omega
  · split
    · exact answers_cadence ‹_›
    · split
      · refine ⟨rfl, ?_⟩
        change textSize "No lighting controller is connected." ≤ _
        omega
      · have hencode := @textSize_encode command.channel command.program hcount
        unfold RgbController.apply
        cases hreport : RgbController.encode command.channel command.program with
        | error error =>
          rw [hreport] at hencode
          exact ⟨rfl, Nat.le_trans hencode (by omega)⟩
        | ok report =>
          refine ⟨⟨rfl, ?_⟩, fun detail hdetail => ⟨rfl, Nat.le_trans hdetail (by omega)⟩⟩
          change textSize "" ≤ _
          omega

end LightingExecutor

/-! ## The display executor -/

/-- What a renderer makes is counted in machine words, and what it says of a file is short. -/
structure Renderer.Terse (n : Nat) (renderer : Renderer) : Prop where
  render : ∀ preset samples panel, Either (fun error : DisplayError => error.size ≤ 2 * n + 500)
    (fun frame => frame.length < 10 ^ 20) (renderer.render preset samples panel)
  renderImageFrames : ∀ preset panel, Either (fun error : DisplayError => error.size ≤ 2 * n + 500)
    (fun frames => ∀ frame ∈ frames, frame.bytes.length < 10 ^ 20) (renderer.renderImageFrames preset panel)

namespace DisplayExecutor

variable {self : DisplayExecutor} {preset : DisplayPreset} {renderer : Renderer}

/-- An answer about a preset, its reason short. -/
def Answers (n : Nat) (preset : DisplayPreset) (outcome : DisplayOutcome) : Prop :=
  outcome.preset = preset ∧ textSize outcome.hardware.reason ≤ n + 350

theorem answers_confirmed {frames : Nat} {deduplicated brightnessSent : Bool} :
    Answers n preset { preset, hardware := .confirmed, frames, deduplicated, brightnessSent } := by
  have hnone : textSize "" = 0 := textSize_literal rfl
  refine ⟨rfl, ?_⟩
  change textSize "" ≤ _
  omega

theorem answers_absent : Answers n preset (absentOutcome preset) := by
  have habsent : textSize "No panel answered on this device." ≤ 40 := (textSize_literal rfl).trans_le (by decide)
  refine ⟨rfl, ?_⟩
  change textSize "No panel answered on this device." ≤ _
  omega

theorem answers_uncertain {error : LcdError} {brightnessSent : Bool} (h : textSize error.display ≤ n + 350) :
    Answers n preset (self.uncertain preset error brightnessSent).1 := ⟨rfl, h⟩

theorem gives_sendPicture {frame : Frame} (brightnessSent : Bool) (hframe : frame.length < 10 ^ 20) :
    Gives (fun error : LcdError => textSize error.display ≤ n) (fun r => Answers n preset r.1)
      (self.sendPicture preset frame brightnessSent) := by
  unfold sendPicture
  split
  · exact answers_confirmed
  · unfold LcdLink.sendFrame
    split
    · have his : textSize "the frame is " = 13 := textSize_literal rfl
      have htakes : textSize " bytes, and this panel takes exactly " = 37 := textSize_literal rfl
      have hexpected : textSize (toString FRAME_BYTES) = 6 := rfl
      have hactual := textSize_toString (by omega) hframe
      refine answers_uncertain ?_
      change textSize ("the frame is " ++ toString frame.length ++ " bytes, and this panel takes exactly " ++
        toString FRAME_BYTES) ≤ _
      simp only [textSize_append]
      omega
    · exact ⟨answers_confirmed, fun error herror => answers_uncertain (Nat.le_trans herror (by omega))⟩

theorem gives_sendBytes {frame : Frame} (hframe : frame.length < 10 ^ 20) :
    Gives (fun error : LcdError => textSize error.display ≤ n) (fun r => Answers n preset r.1)
      (self.sendBytes preset frame) := by
  unfold sendBytes
  split
  · exact answers_absent
  · split
    · exact ⟨gives_sendPicture true hframe, fun error herror => answers_uncertain (Nat.le_trans herror (by omega))⟩
    · exact gives_sendPicture false hframe

theorem gives_send (h : renderer.Terse n) (samples : MetricSample × MetricSample) :
    Gives (fun error : LcdError => textSize error.display ≤ n)
      (Either (fun error : DisplayError => error.size ≤ 2 * n + 500) fun r => Answers n preset r.1)
      (self.send renderer preset samples) := by
  unfold send
  split
  · exact answers_absent
  · rename_i panel _
    have hrender := h.render preset samples panel
    cases hpicture : renderer.render preset samples panel with
    | error error =>
      rw [hpicture] at hrender
      exact hrender
    | ok frame =>
      rw [hpicture] at hrender
      exact gives_step (gives_sendBytes hrender) fun r hr => hr

theorem gives_startImage (h : renderer.Terse n) :
    Gives (fun error : LcdError => textSize error.display ≤ n)
      (Either (fun error : DisplayError => error.size ≤ 2 * n + 500) fun r => Answers n preset r.1)
      (self.startImage renderer preset) := by
  unfold startImage
  split
  · exact answers_absent
  · rename_i panel _
    have hrender := h.renderImageFrames preset panel
    generalize renderer.renderImageFrames preset panel = pictures at hrender ⊢
    obtain error | _ | ⟨first, _ | ⟨second, rest⟩⟩ := pictures
    · exact hrender
    · exact answers_absent
    · exact gives_step (gives_sendBytes (hrender first List.mem_cons_self)) fun r hr => hr
    · refine gives_step (gives_sendBytes (hrender first List.mem_cons_self)) fun r hr => ?_
      exact gives_bind fun now => hr

/-- What the executor answers, when what the panel and the renderer report is short. -/
theorem gives_apply (h : renderer.Terse n) (samples : MetricSample × MetricSample) :
    Gives (fun error : LcdError => textSize error.display ≤ n)
      (fun r => Either (fun error : DisplayError => error.size ≤ 2 * n + 500) (Answers n preset) r.1)
      (self.apply renderer preset samples) := by
  unfold apply
  dsimp only
  split
  · refine gives_step (gives_startImage h) ?_
    rintro (error | ⟨outcome, after⟩) hr
    · exact hr
    · exact hr
  · refine gives_step (gives_send h samples) ?_
    rintro (error | ⟨outcome, after⟩) hr
    · exact hr
    · exact hr

end DisplayExecutor

/-! ## The configuration -/

/-- What the daemon answers for an error of the configuration is short. -/
def ConfigError.Within (n : Nat) (error : ConfigError) : Prop := (configError error).size ≤ n + 350

theorem within_io {detail : String} (h : textSize detail ≤ n) : (ConfigError.io detail).Within n := by
  have hsize := IpcError.size_io detail
  change (IpcError.io detail).size ≤ _
  omega

theorem within_encode {detail : String} (h : textSize detail ≤ n) : (ConfigError.encode detail).Within n := by
  have hencoded : textSize "configuration could not be encoded as TOML: " ≤ 50 :=
    (textSize_literal rfl).trans_le (by decide)
  have hsize := IpcError.size_io (ConfigError.encode detail).display
  have hdisplay : textSize (ConfigError.encode detail).display =
      textSize "configuration could not be encoded as TOML: " + textSize detail := textSize_append _ detail
  change (IpcError.io (ConfigError.encode detail).display).size ≤ _
  omega

section Disk

variable {Raw : Type} {toml : Toml Raw}

theorem gives_perform {command : DiskCommand Raw} {report : String → ConfigError}
    (h : ∀ detail, textSize detail ≤ n → (report detail).Within n) :
    Gives (fun detail => textSize detail ≤ n) (Either (ConfigError.Within n) fun _ => True)
      (perform command report).run := ⟨trivial, h⟩

theorem gives_writeAtomically (document : ConfigDocument) :
    Gives (fun detail => textSize detail ≤ n) (Either (ConfigError.Within n) fun _ => True)
      (writeAtomically toml document).run := by
  refine gives_run_step (gives_perform fun _ => within_encode) fun _ _ => ?_
  refine gives_run_step (gives_perform fun _ => within_io) fun _ _ => ?_
  refine gives_run_step (gives_perform fun _ => within_io) fun _ _ => ?_
  refine gives_run_step (gives_perform fun _ => within_io) fun _ _ => ?_
  refine gives_run_step (gives_perform fun _ => within_io) fun _ _ => ?_
  refine gives_run_step (gives_perform fun _ => within_io) fun _ _ => ?_
  refine ⟨⟨⟨trivial, fun _ _ => trivial⟩, fun _ _ => trivial⟩, fun detail hdetail => ?_⟩
  exact ⟨within_io hdetail, fun _ _ => within_io hdetail⟩

namespace Configuration

variable {self : Configuration}

theorem gives_commitChange {α : Type} (change : ConfigDocument → α × ConfigDocument) :
    Gives (fun detail => textSize detail ≤ n)
      (fun r => Either (ConfigError.Within n) (fun value => value = (change self.document).1) r.1)
      (self.commitChange toml change) := by
  have hcommit : ∀ other : Configuration, Gives (fun detail => textSize detail ≤ n)
      (fun r => Either (ConfigError.Within n) (fun _ => True) r.1) (other.commit toml) := by
    intro other
    refine gives_step (gives_writeAtomically _) ?_
    rintro (error | ⟨⟩) hr
    · exact hr
    · trivial
  refine gives_step (hcommit _) ?_
  rintro ⟨error | ⟨⟩, after⟩ hr
  · exact hr
  · exact rfl

theorem gives_saveProfile {profile : Profile} (h : profile.Counted) :
    Gives (fun detail => textSize detail ≤ n)
      (fun r => Either (ConfigError.Within n) (fun _ => profile.name.length ≤ PROFILE_NAME_MAX_LEN) r.1)
      (self.saveProfile toml profile) := by
  have hvalid := either_validateProfile h
  unfold saveProfile
  cases hresult : validateProfile profile with
  | error source =>
    rw [hresult] at hvalid
    have hsize := IpcError.size_validation source
    have hbytes : source.size ≤ 250 := hvalid
    change (IpcError.validation source).size ≤ _
    omega
  | ok =>
    rw [hresult] at hvalid
    dsimp only
    split
    · rename_i hsafe
      have hreserved : (IpcError.profileNameUnavailable SAFE_PROFILE_NAME).size ≤ 350 := by decide
      rw [hsafe]
      exact Nat.le_trans hreserved (Nat.le_add_left _ _)
    · exact gives_mono (gives_commitChange _) fun r hr => either_mono hr (fun _ h => h) fun _ _ => hvalid

theorem gives_activate {name : String} {profile : Profile} (h : self.profile name = some profile) :
    Gives (fun detail => textSize detail ≤ n)
      (fun r => Either (ConfigError.Within n) (fun found => found = profile) r.1) (self.activate toml name) := by
  unfold activate
  rw [h]
  exact gives_commitChange fun document => (profile, { document with activeProfile := profile.name })

theorem profile_of_stored {name : String} (h : self.document.profiles.any (fun p => p.name = name) = true) :
    self.profile name ≠ none := by
  obtain ⟨profile, hmem, hname⟩ := List.any_eq_true.mp h
  intro hnone
  exact List.find?_eq_none.mp hnone profile (List.mem_cons_of_mem _ hmem) hname

theorem gives_deleteProfile (name : String) :
    Gives (fun detail => textSize detail ≤ n)
      (fun r => Either (fun error => error.Within n ∨ configError error = .profileNotFound name)
        (fun instead : Option String => instead.all (· = SAFE_PROFILE_NAME) = true ∧ self.profile name ≠ none) r.1)
      (self.deleteProfile toml name) := by
  unfold deleteProfile
  split
  · exact .inr rfl
  · split
    · exact .inr rfl
    · rename_i hstored
      have hprofile := profile_of_stored (Decidable.not_not.mp hstored)
      refine gives_mono (gives_commitChange _) fun r hr => either_mono hr (fun _ h => .inl h) fun value hvalue => ?_
      refine ⟨?_, hprofile⟩
      rw [hvalue]
      dsimp only
      split
      · exact decide_eq_true (rfl : SAFE_PROFILE_NAME = SAFE_PROFILE_NAME)
      · rfl

end Configuration

end Disk

end Kori
