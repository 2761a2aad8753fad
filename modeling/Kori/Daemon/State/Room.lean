import Kori.Core.Frame
import Kori.Daemon.State.Reported
import Kori.Daemon.State.Rules

/-! # Which answers fit in a frame -/

open Faulty Value

namespace Kori

variable {Raw : Type} {toml : Toml Raw} {around : Surroundings} {machine : Machine Raw} {n : Nat}

/-! ## The bytes of a response -/

namespace Response

variable {documents : Documents}

/-- The fields of a response, its name among them, between two braces. -/
theorem size_json (response : Response) : (response.json documents).size =
    textSize response.tag + sizeOfFields (fields documents response) + 15 := by
  have hname : textSize "response" = 8 := textSize_literal rfl
  simp only [json, Value.size, sizeOfFields, hname]
  omega

end Response

/-! ## What the daemon says of itself -/

/-- The bytes a device takes in a status: what keeps each of its capabilities from being written. -/
def DeviceRecord.statusBytes (device : DeviceRecord) : Nat :=
  (device.capabilities.map fun capability => textSize (capability.state.blockedReason.getD "") + 50).sum + 130

/-- The bytes the conflicts that keep a daemon from writing take in its status. -/
def conflictBytes (conflicts : List OwnershipConflict) : Nat :=
  (conflicts.map fun conflict => textSize conflict.resource + textSize conflict.detail + 90).sum

/-- The bytes the parts of a daemon's state take in its status. -/
def Daemon.statusBytes (daemon : Daemon) : Nat :=
  conflictBytes daemon.conflicts + (daemon.capabilities.supported.map DeviceRecord.statusBytes).sum +
    textSize daemon.config.document.activeProfile + daemon.config.state.json.size +
    (orNull CoolingProgram.json daemon.cooling.committedProgram).size +
    (Value.array (daemon.lighting.state.map ChannelState.json)).size + daemon.display.state.json.size +
    textSize daemon.socketPath + 500

theorem size_deviceId (id : DeviceId) : (DeviceId.codec.write id).size ≤ 36 := by
  have hnames : sizeOfNames ["vendor", "product"] = 21 := rfl
  have hvendor := size_word id.vendor
  have hproduct := size_word id.product
  refine Nat.le_trans (size_object [("vendor", numeral id.vendor.toNat), ("product", numeral id.product.toNat)]) ?_
  simp only [List.map_cons, List.map_nil, List.sum_cons, List.sum_nil, hnames]
  omega

theorem size_capability (capability : CapabilityId) : (CapabilityId.codec.write capability).size ≤ 21 := by
  cases capability <;> decide

theorem size_blocked (blocked : BlockedCapability) : blocked.json.size ≤ textSize blocked.reason + 49 := by
  have hnames : sizeOfNames ["capability", "reason"] = 24 := rfl
  have hcapability := size_capability blocked.capability
  refine Nat.le_trans (size_object _) ?_
  simp only [List.map_cons, List.map_nil, List.sum_cons, List.sum_nil, hnames, Value.size]
  omega

theorem size_conflict (conflict : OwnershipConflict) :
    conflict.json.size ≤ textSize conflict.resource + textSize conflict.detail + 89 := by
  have hnames : sizeOfNames ["device", "resource", "detail"] = 32 := rfl
  have hdevice : (orNull DeviceId.codec.write conflict.device).size ≤ 36 :=
    size_orNull _ (by omega) fun id _ => size_deviceId id
  refine Nat.le_trans (size_object _) ?_
  simp only [List.map_cons, List.map_nil, List.sum_cons, List.sum_nil, hnames, Value.size]
  omega

/-- A capability is listed once, among those that may be written or among those that may not. -/
theorem size_listed (capabilities : List Capability) :
    sizeOfItems ((capabilities.filterMap fun capability =>
        if capability.state.blockedReason.isNone then some capability.id else none).map CapabilityId.codec.write) +
      sizeOfItems ((capabilities.filterMap fun capability =>
        capability.state.blockedReason.map fun reason => BlockedCapability.mk capability.id reason).map
          BlockedCapability.json) ≤
      (capabilities.map fun capability => textSize (capability.state.blockedReason.getD "") + 50).sum := by
  induction capabilities with
  | nil => exact Nat.le_refl 0
  | cons capability rest ih =>
    have hcapability := size_capability capability.id
    rw [List.map_cons, List.sum_cons, List.filterMap_cons, List.filterMap_cons]
    cases hreason : capability.state.blockedReason with
    | none =>
      simp only [Option.isNone_none, if_true, Option.map_none, List.map_cons, sizeOfItems, Option.getD_none]
      omega
    | some reason =>
      have hblocked := size_blocked ⟨capability.id, reason⟩
      simp only [Option.isNone_some, Bool.false_eq_true, if_false, Option.map_some, List.map_cons, sizeOfItems,
        Option.getD_some]
      dsimp only at hblocked
      omega

theorem size_items (items : List Value) : (Value.array items).size ≤ sizeOfItems items + 2 := by
  rw [Value.size]
  omega

theorem size_deviceStatus (daemon : Daemon) (device : DeviceRecord) :
    (daemon.deviceStatus device).json.size + 1 ≤ device.statusBytes := by
  have hnames : sizeOfNames ["id", "present", "owned", "writable", "blocked"] = 49 := rfl
  have hid := size_deviceId device.id
  have hpresent := size_bool true
  have howned := size_bool (daemon.deviceStatus device).owned
  have hwritable := size_items ((daemon.deviceStatus device).writable.map CapabilityId.codec.write)
  have hblocked := size_items ((daemon.deviceStatus device).blocked.map BlockedCapability.json)
  have hlisted : sizeOfItems ((daemon.deviceStatus device).writable.map CapabilityId.codec.write) +
      sizeOfItems ((daemon.deviceStatus device).blocked.map BlockedCapability.json) ≤ _ :=
    size_listed device.capabilities
  have hid' : (daemon.deviceStatus device).id = device.id := rfl
  have hpresent' : (daemon.deviceStatus device).present = true := rfl
  unfold DeviceRecord.statusBytes
  refine Nat.le_trans (Nat.succ_le_succ (size_object _)) ?_
  simp only [List.map_cons, List.map_nil, List.sum_cons, List.sum_nil, hnames, hid', hpresent']
  omega

theorem size_conflicts (conflicts : List OwnershipConflict) :
    (AccessMode.readOnly conflicts).json.size ≤ conflictBytes conflicts + 60 := by
  have hnames : sizeOfNames ["mode", "conflicts"] = 21 := rfl
  have hmode : (Value.string "read_only").size = 11 := rfl
  have hitems : sizeOfItems (conflicts.map OwnershipConflict.json) ≤ conflictBytes conflicts := by
    rw [sizeOfItems_map]
    exact List.sum_le_sum fun conflict _ => Nat.succ_le_succ (size_conflict conflict)
  have harray := size_items (conflicts.map OwnershipConflict.json)
  refine Nat.le_trans (size_object _) ?_
  simp only [List.map_cons, List.map_nil, List.sum_cons, List.sum_nil, hnames, hmode]
  omega

theorem size_accessMode (daemon : Daemon) :
    daemon.accessMode.json.size ≤ conflictBytes daemon.conflicts + 300 := by
  have hwrite : AccessMode.readWrite.json.size ≤ 300 := by decide
  have hnothing : (AccessMode.readOnly ReadOnly.nothingWritable.intoConflicts).json.size ≤ 300 := by decide
  unfold Daemon.accessMode
  cases hcause : daemon.readOnly with
  | none => exact Nat.le_trans hwrite (Nat.le_add_left _ _)
  | some cause =>
    unfold Daemon.readOnly at hcause
    split at hcause
    · cases hcause
      exact Nat.le_trans (size_conflicts daemon.conflicts) (Nat.add_le_add_left (by omega) _)
    · split at hcause
      · cases hcause
      · cases hcause
        exact Nat.le_trans hnothing (Nat.le_add_left _ _)

theorem size_status (daemon : Daemon) (documents : Documents) :
    ((Response.status daemon.status).json documents).size + 1 ≤ daemon.statusBytes := by
  have hkind : textSize "status" = 6 := textSize_literal rfl
  have hnames : sizeOfNames ["daemon_version", "protocol_version", "access", "devices", "active_profile", "config",
    "cooling", "lighting", "display", "socket_path"] = 136 := rfl
  have hversion : (Value.string DAEMON_VERSION).size ≤ 20 := by decide
  have hprotocol : (numeral PROTOCOL_VERSION).size = 1 := rfl
  have haccess := size_accessMode daemon
  have hdevices : sizeOfItems ((daemon.capabilities.supported.map daemon.deviceStatus).map DeviceStatus.json) ≤
      (daemon.capabilities.supported.map DeviceRecord.statusBytes).sum := by
    rw [List.map_map, sizeOfItems_map]
    exact List.sum_le_sum fun device _ => size_deviceStatus daemon device
  have harray := size_items ((daemon.capabilities.supported.map daemon.deviceStatus).map DeviceStatus.json)
  have hactive : (Value.string daemon.config.document.activeProfile).size =
    textSize daemon.config.document.activeProfile + 2 := rfl
  have hpath : (Value.string daemon.socketPath).size = textSize daemon.socketPath + 2 := rfl
  rw [Response.size_json]
  change textSize "status" + sizeOfFields (DaemonStatus.fields _) + 15 + 1 ≤ _
  rw [sizeOfFields_eq, DaemonStatus.fields, Daemon.statusBytes]
  simp only [List.map_cons, List.map_nil, List.sum_cons, List.sum_nil, hnames, Daemon.status, hprotocol]
  omega

/-! ## The operations -/

namespace Machine

/-- What the thermal path is told from outside is short: the texts of the probe, the path of the bound instance, and
what the faults to come report. -/
structure TerseCooler (n : Nat) (around : Surroundings) (machine : Machine Raw) : Prop where
  daemon : machine.daemon.Terse n
  path : ∀ control, (machine.daemon.cooling.resolve around.located).control = some control →
    textSize control.hwmon.path ≤ n
  cooler : ∀ k fault, machine.cooler.faults k = some fault → textSize fault.detail ≤ n

/-- What the machine is told from outside is short. -/
structure Terse (n : Nat) (around : Surroundings) (machine : Machine Raw) : Prop extends
    TerseCooler n around machine where
  store : ∀ k fault, machine.store.faults k = some fault → textSize fault.detail ≤ n
  controller : ∀ k fault, machine.controller.faults k = some fault → textSize fault.detail ≤ n
  panel : ∀ k fault, machine.panel.faults k = some fault → textSize fault.error.display ≤ n
  renderer : around.renderer.Terse n

theorem applyCooling_within (h : machine.TerseCooler n around) (program : CoolingProgram) :
    (applyCooling around program machine).1.Within (6 * n + 900) := by
  have hgives : Gives (IoError.Within n) (CoolingExecutor.Answers n) (do
      machine.daemon.cooling.apply around.located (← clock) program) :=
    gives_bind fun now => CoolingExecutor.gives_apply now program h.path
  exact @run_gives _ _ _ _ _ _ _ hwmonDevice _ _ _ machine.cooler hgives h.cooler

theorem either_execute (h : machine.TerseCooler n around) (program : CoolingProgram) :
    Either (IpcError.Short n) (ApplyOutcome.Within (6 * n + 900)) (execute toml around program machine).1 := by
  have hgate := either_admitsProgram h.daemon program
  unfold execute
  rw [bind_apply, get_apply]
  dsimp only
  cases hadmitted : machine.daemon.admitsProgram program with
  | error error =>
    rw [hadmitted] at hgate
    exact hgate
  | ok =>
    have hwithin := applyCooling_within h program
    dsimp only
    rw [bind_apply]
    split
    · exact hwithin
    · rw [bind_apply]
      split
      · exact hwithin
      · exact hwithin

theorem either_illuminate (h : machine.Terse n around) {command : LightingCommand}
    (hcount : Lighting.colorCount command.program < 10 ^ 20) :
    Either (IpcError.Within n) (fun outcome : LightingOutcome => sizeOfFields outcome.fields ≤ n + 1000)
      (illuminate toml command machine).1 := by
  have hgate := either_admitsLighting h.daemon hcount
  unfold illuminate
  rw [bind_apply, get_apply]
  dsimp only
  cases hadmitted : machine.daemon.admitsLighting command with
  | error error =>
    rw [hadmitted] at hgate
    exact hgate
  | ok =>
    rw [hadmitted] at hgate
    have hgives : Gives (fun detail => textSize detail ≤ n) (LightingExecutor.Answers n command) (do
        machine.daemon.lighting.apply (← clock) command) := gives_bind fun now => LightingExecutor.gives_apply now hcount
    obtain ⟨hprogram, hreason⟩ := @run_gives _ _ _ _ _ _ _ RgbController.device _ _ _ machine.controller hgives h.controller
    have hsize := size_lit (hprogram ▸ hgate) hreason
    dsimp only
    rw [bind_apply, bind_apply]
    split
    · exact Nat.le_trans hsize (by omega)
    · exact Nat.le_trans hsize (by omega)

theorem either_show (h : machine.Terse n around) {preset : DisplayPreset} (hpath : preset.pathBytes < 10 ^ 20) :
    Either (IpcError.Within n) (fun outcome : DisplayOutcome =>
      sizeOfFields outcome.fields ≤ preset.json.size + n + 500) («show» toml around preset machine).1 := by
  have hgate := either_admitsDisplay h.daemon hpath
  unfold «show»
  rw [bind_apply, get_apply]
  dsimp only
  cases hadmitted : machine.daemon.admitsDisplay preset with
  | error error =>
    rw [hadmitted] at hgate
    exact hgate
  | ok =>
    have hdrawn := @run_gives _ _ _ _ _ _ _ lcd _ _ _ machine.panel
      (@DisplayExecutor.gives_apply n machine.daemon.display preset _ h.renderer (preset.samples around.snapshot)) h.panel
    dsimp only
    rw [bind_apply]
    cases hresult : (draw (fun display => display.apply around.renderer preset (preset.samples around.snapshot))
        machine).1 with
    | error error =>
      have hsource : Either (fun error : DisplayError => error.size ≤ 2 * n + 500) (DisplayExecutor.Answers n preset)
        (.error error) := hresult ▸ hdrawn
      have hsize := IpcError.size_display error
      have hbytes : error.size ≤ 2 * n + 500 := hsource
      change (IpcError.display error).size ≤ _
      omega
    | ok outcome =>
      have hanswers : Either (fun error : DisplayError => error.size ≤ 2 * n + 500) (DisplayExecutor.Answers n preset)
        (.ok outcome) := hresult ▸ hdrawn
      obtain ⟨hpreset, hreason⟩ : DisplayExecutor.Answers n preset outcome := hanswers
      have hsize := size_shown hreason
      rw [hpreset] at hsize
      dsimp only
      rw [bind_apply]
      split
      · exact Nat.le_trans hsize (by omega)
      · exact Nat.le_trans hsize (by omega)

theorem within_applyProgram (h : machine.TerseCooler n around) (held : ProgramToRestore) :
    (applyProgram toml around held machine).1.Within (6 * n + 900) := by
  obtain ⟨program, profile⟩ := held
  have hexecuted := @either_execute _ toml around machine n h program
  unfold applyProgram
  rw [bind_apply]
  dsimp only
  cases hresult : (execute toml around program machine).1 with
  | ok outcome =>
    have hwithin : Either (IpcError.Short n) (ApplyOutcome.Within (6 * n + 900)) (.ok outcome) := hresult ▸ hexecuted
    cases profile with
    | none => exact hwithin
    | some name => exact hwithin
  | error error =>
    have hshort : Either (IpcError.Short n) (ApplyOutcome.Within (6 * n + 900)) (.error error) := hresult ▸ hexecuted
    have hmessage : textSize error.message ≤ 4 * n + 300 := hshort.2
    have hwithin : (ApplyOutcome.untouched (.notApplied error.message)).Within (6 * n + 900) :=
      CoolingExecutor.within_untouched (Nat.le_trans hmessage (by omega))
    cases profile with
    | none => exact hwithin
    | some name => exact hwithin

/-- Nothing of the thermal path was touched, and the gates are as they were. -/
structure SameThermal (before after : Machine Raw) : Prop where
  cooler : after.cooler = before.cooler
  cooling : after.daemon.cooling = before.daemon.cooling
  capabilities : after.daemon.capabilities = before.daemon.capabilities
  conflicts : after.daemon.conflicts = before.daemon.conflicts

instance : IsPreorder (Machine Raw) SameThermal where
  refl _ := ⟨rfl, rfl, rfl, rfl⟩
  trans _ _ _ h h' := ⟨h'.cooler.trans h.cooler, h'.cooling.trans h.cooling, h'.capabilities.trans h.capabilities,
    h'.conflicts.trans h.conflicts⟩

theorem TerseCooler.of_same {after : Machine Raw} (h : machine.TerseCooler n around) (hsame : SameThermal machine after) :
    after.TerseCooler n around where
  daemon := by
    have hreadOnly : after.daemon.readOnly = machine.daemon.readOnly := by
      unfold Daemon.readOnly Daemon.hasWritableCapability
      rw [hsame.capabilities, hsame.conflicts]
    refine ⟨?_, ?_, ?_⟩
    · rw [hsame.capabilities]
      exact h.daemon.devices
    · rw [hsame.capabilities]
      exact h.daemon.blocked
    · rw [hreadOnly]
      exact h.daemon.conflicts
  path := by
    rw [hsame.cooling]
    exact h.path
  cooler := by
    rw [hsame.cooler]
    exact h.cooler

theorem sameThermal_note (event : EventKind) : Keeps (@SameThermal Raw) (note event) := fun _ => ⟨rfl, rfl, rfl, rfl⟩

theorem sameThermal_applyLighting (commands : List LightingCommand) :
    Keeps (@SameThermal Raw) (applyLighting toml commands) :=
  keeps_applyLighting sameThermal_note (fun command => keeps_illuminate sameThermal_note command
    (fun _ => ⟨rfl, rfl, rfl, rfl⟩) fun _ => ⟨rfl, rfl, rfl, rfl⟩) commands

theorem sameThermal_applyDisplay (preset : Option DisplayPreset) :
    Keeps (@SameThermal Raw) (applyDisplay toml around preset) :=
  keeps_applyDisplay sameThermal_note (fun preset => keeps_show sameThermal_note preset
    (fun _ => ⟨rfl, rfl, rfl, rfl⟩) fun _ => ⟨rfl, rfl, rfl, rfl⟩) preset

theorem within_replayed (h : machine.TerseCooler n around) (lighting : List LightingCommand)
    (preset : Option DisplayPreset) (held : ProgramToRestore) :
    let lit := (applyLighting toml lighting machine).2
    let shown := (applyDisplay toml around preset lit).2
    (applyProgram toml around held shown).1.Within (6 * n + 900) :=
  within_applyProgram ((h.of_same (sameThermal_applyLighting lighting machine)).of_same
    (sameThermal_applyDisplay preset _)) held

/-- The name of a stored profile is one the validator let through, and another name leaves room for a refusal. -/
def HasRoomFor (machine : Machine Raw) (name : String) : Prop :=
  match machine.daemon.config.profile name with
  | none => textSize name + 59 ≤ MAX_FRAME_BYTES
  | some _ => name.length ≤ PROFILE_NAME_MAX_LEN

variable {documents : Documents}

theorem size_error (error : IpcError) : ((Response.error error).json documents).size = error.size + 20 := by
  have hkind : textSize "error" = 5 := textSize_literal rfl
  rw [Response.size_json]
  change textSize "error" + error.size + 15 = _
  omega

theorem room_of_within {error : IpcError} (h : error.Within 4096) : error.size + 21 ≤ MAX_FRAME_BYTES := by
  have hmax : MAX_FRAME_BYTES = 262144 := rfl
  have hsize : error.size ≤ 24 * 4096 + 6100 := h
  omega

theorem room_of_config {error : ConfigError} (h : error.Within 4096) : (configError error).size + 21 ≤ MAX_FRAME_BYTES := by
  have hmax : MAX_FRAME_BYTES = 262144 := rfl
  have hsize : (configError error).size ≤ 4096 + 350 := h
  omega

theorem size_activateProfile (h : machine.Terse 4096 around) {name : String} (hname : machine.HasRoomFor name) :
    ((activateProfile toml around name machine).1.json documents).size + 1 ≤ MAX_FRAME_BYTES := by
  have hmax : MAX_FRAME_BYTES = 262144 := rfl
  unfold HasRoomFor at hname
  unfold activateProfile
  rw [bind_apply, get_apply]
  dsimp only
  cases hprofile : machine.daemon.config.profile name with
  | none =>
    rw [hprofile] at hname
    have hsize := IpcError.size_profileNotFound name
    dsimp only at hname ⊢
    rw [pure_apply, size_error]
    omega
  | some profile =>
    rw [hprofile] at hname
    dsimp only at hname ⊢
    have hgate := either_admitsActivation h.daemon profile
    cases hadmitted : machine.daemon.admitsActivation profile with
    | error error =>
      rw [hadmitted] at hgate
      dsimp only
      rw [pure_apply, size_error]
      exact room_of_within hgate
    | ok =>
      have hconfigured := @run_gives _ _ _ _ _ _ _ (disk toml) _ _ _ machine.store
        (@Configuration.gives_activate 4096 Raw toml machine.daemon.config name profile hprofile) h.store
      dsimp only
      rw [bind_apply]
      cases hresult : (configure toml (fun config => config.activate toml name) machine).1 with
      | error error =>
        have hshort : Either (ConfigError.Within 4096) (fun found => found = profile) (.error error) :=
          hresult ▸ hconfigured
        dsimp only
        rw [pure_apply, size_error]
        exact room_of_config hshort
      | ok found =>
        have hfound : Either (ConfigError.Within 4096) (fun found => found = profile) (.ok found) := hresult ▸ hconfigured
        obtain rfl : found = profile := hfound
        dsimp only
        rw [bind_apply, bind_apply, bind_apply]
        have hactivated : (configure toml (fun config => config.activate toml name) machine).2.TerseCooler 4096 around :=
          h.toTerseCooler.of_same ⟨rfl, rfl, rfl, rfl⟩
        have happlied := @within_replayed _ toml around _ 4096 hactivated found.lighting found.display
          { program := found.program, profile := some found.name }
        have hfields := @size_activated { name := found.name, hardware := _, applied := some _ } _ _ rfl happlied rfl
        have hkind : textSize "activated" = 9 := textSize_literal rfl
        have hfound : found.name = name := by simpa using List.find?_some hprofile
        have hnamed := textSize_le found.name
        rw [hfound] at hnamed
        have hlimit : PROFILE_NAME_MAX_LEN = 48 := rfl
        rw [pure_apply, Response.size_json]
        change textSize "activated" + sizeOfFields (ActivationOutcome.fields _) + 15 + 1 ≤ _
        refine Nat.le_trans (Nat.succ_le_succ (Nat.add_le_add_right (Nat.add_le_add_left hfields _) 15)) ?_
        dsimp only
        rw [hfound]
        omega

theorem size_saveProfile (h : machine.Terse 4096 around) {profile : Profile} (hcounted : profile.Counted) :
    ((saveProfile toml profile machine).1.json documents).size + 1 ≤ MAX_FRAME_BYTES := by
  have hmax : MAX_FRAME_BYTES = 262144 := rfl
  have hsaved := @run_gives _ _ _ _ _ _ _ (disk toml) _ _ _ machine.store
    (@Configuration.gives_saveProfile 4096 Raw toml machine.daemon.config profile hcounted) h.store
  unfold saveProfile
  rw [bind_apply]
  cases hresult : (configure toml (fun config => config.saveProfile toml profile) machine).1 with
  | error error =>
    have hshort : Either (ConfigError.Within 4096) (fun _ => profile.name.length ≤ PROFILE_NAME_MAX_LEN) (.error error) :=
      hresult ▸ hsaved
    dsimp only
    rw [pure_apply, size_error]
    exact room_of_config hshort
  | ok =>
    have hname : Either (ConfigError.Within 4096) (fun _ => profile.name.length ≤ PROFILE_NAME_MAX_LEN) (.ok ()) :=
      hresult ▸ hsaved
    have hlength : profile.name.length ≤ 48 := hname
    have hbytes := textSize_le profile.name
    have hkind : textSize "saved" = 5 := textSize_literal rfl
    have hfield : textSize "name" = 4 := textSize_literal rfl
    dsimp only
    rw [bind_apply, pure_apply, Response.size_json]
    change textSize "saved" + (textSize "name" + (textSize profile.name + 2) + 4 + 0) + 15 + 1 ≤ _
    omega

theorem size_deleteProfile (h : machine.Terse 4096 around) {name : String} (hname : machine.HasRoomFor name) :
    ((deleteProfile toml name machine).1.json documents).size + 1 ≤ MAX_FRAME_BYTES := by
  have hmax : MAX_FRAME_BYTES = 262144 := rfl
  have hdeleted := @run_gives _ _ _ _ _ _ _ (disk toml) _ _ _ machine.store
    (@Configuration.gives_deleteProfile 4096 Raw toml machine.daemon.config name) h.store
  have hbytes : textSize name + 59 ≤ MAX_FRAME_BYTES := by
    unfold HasRoomFor at hname
    split at hname
    · exact hname
    · have hlength : name.length ≤ 48 := hname
      have := textSize_le name
      omega
  unfold deleteProfile
  rw [bind_apply]
  cases hresult : (configure toml (fun config => config.deleteProfile toml name) machine).1 with
  | error error =>
    have hshort : Either (fun error => error.Within 4096 ∨ configError error = .profileNotFound name)
      (fun instead : Option String => instead.all (· = SAFE_PROFILE_NAME) = true ∧
        machine.daemon.config.profile name ≠ none) (.error error) := hresult ▸ hdeleted
    dsimp only
    rw [pure_apply, size_error]
    rcases hshort with hshort | hmissing
    · exact room_of_config hshort
    · rw [hmissing, IpcError.size_profileNotFound]
      omega
  | ok instead =>
    have hstored : Either (fun error => error.Within 4096 ∨ configError error = .profileNotFound name)
      (fun instead : Option String => instead.all (· = SAFE_PROFILE_NAME) = true ∧
        machine.daemon.config.profile name ≠ none) (.ok instead) := hresult ▸ hdeleted
    obtain ⟨hsafe, hprofile⟩ : instead.all (· = SAFE_PROFILE_NAME) = true ∧ _ := hstored
    have hlength : name.length ≤ 48 := by
      unfold HasRoomFor at hname
      split at hname
      · contradiction
      · exact hname
    have hnamed := textSize_le name
    have hinstead : (orNull .string instead).size ≤ 20 := size_orNull _ (by omega) fun other hother => by
      rw [hother] at hsafe
      rw [of_decide_eq_true hsafe]
      decide
    have hkind : textSize "deleted" = 7 := textSize_literal rfl
    have hfields : sizeOfNames ["name", "activated_instead"] = 29 := rfl
    dsimp only
    rw [bind_apply, pure_apply, Response.size_json]
    change textSize "deleted" + sizeOfFields [("name", .string name), ("activated_instead", orNull .string instead)] +
      15 + 1 ≤ _
    rw [sizeOfFields_eq]
    simp only [List.map_cons, List.map_nil, List.sum_cons, List.sum_nil, hfields, Value.size]
    omega

/-- A request, and the state it finds, leave room for the answer: what the answer repeats of them is counted. -/
def Roomy (documents : Documents) (around : Surroundings) (machine : Machine Raw) : Request → Prop
  | .hello protocolVersion => protocolVersion < 2 ^ 32
  | .status => machine.daemon.statusBytes ≤ MAX_FRAME_BYTES
  | .capabilities => sizeOfFields (documents.record machine.daemon.capabilities) + 28 ≤ MAX_FRAME_BYTES
  | .profiles => textSize machine.daemon.config.document.activeProfile +
      sizeOfItems (machine.daemon.config.profiles.map Profile.json) + 49 ≤ MAX_FRAME_BYTES
  | .saveProfile profile => profile.Counted
  | .activateProfile name => machine.HasRoomFor name
  | .deleteProfile name => machine.HasRoomFor name
  | .telemetry => sizeOfFields (documents.sample around.snapshot) + 25 ≤ MAX_FRAME_BYTES
  | .applyProgram _ => True
  | .applyLighting command => Lighting.colorCount command.program < 10 ^ 20
  | .applyDisplay preset => preset.pathBytes < 10 ^ 20 ∧ preset.json.size + 5000 ≤ MAX_FRAME_BYTES
  | .diagnostics => (numeral documents.generatedAtUnixMs).size +
      (documents.redacted machine.daemon.capabilities).size +
      (Value.array (documents.events (retained machine.daemon.diagnostics))).size + 130 ≤ MAX_FRAME_BYTES

theorem handle_fst (request : Request) :
    (handle toml around request machine).1 = (dispatch toml around request machine).1 := by
  unfold handle
  rw [bind_apply]
  cases (dispatch toml around request machine).1 <;> rfl

theorem size_hello {protocolVersion : Nat} (h : protocolVersion < 2 ^ 32) :
    ((dispatch toml around (.hello protocolVersion) machine).1.json documents).size + 1 ≤ MAX_FRAME_BYTES := by
  have hmax : MAX_FRAME_BYTES = 262144 := rfl
  have hhello : textSize "hello" + sizeOfFields [("protocol_version", numeral PROTOCOL_VERSION),
      ("daemon_version", .string DAEMON_VERSION)] + 15 + 1 ≤ 200 := by decide
  unfold dispatch
  dsimp only
  split
  · have hsize := IpcError.size_unsupportedProtocol h
    rw [pure_apply, size_error]
    omega
  · rw [pure_apply, Response.size_json]
    exact Nat.le_trans hhello (by omega)

/-- A result, as it is answered. -/
def answerOf {α : Type} (respond : α → Response) : Except IpcError α → Response
  | .ok outcome => respond outcome
  | .error error => .error error

theorem dispatch_applyProgram (program : CoolingProgram) :
    (dispatch toml around (.applyProgram program) machine).1 =
      answerOf .applied (execute toml around program machine).1 := by
  unfold dispatch
  dsimp only
  rw [bind_apply]
  cases (execute toml around program machine).1 <;> rfl

theorem dispatch_applyLighting (command : LightingCommand) :
    (dispatch toml around (.applyLighting command) machine).1 =
      answerOf .lit (illuminate toml command machine).1 := by
  unfold dispatch
  dsimp only
  rw [bind_apply]
  cases (illuminate toml command machine).1 <;> rfl

theorem dispatch_applyDisplay (preset : DisplayPreset) :
    (dispatch toml around (.applyDisplay preset) machine).1 =
      answerOf .shown («show» toml around preset machine).1 := by
  unfold dispatch
  dsimp only
  rw [bind_apply]
  cases («show» toml around preset machine).1 <;> rfl

theorem size_answerOf {α : Type} {respond : α → Response} {T : IpcError → Prop} {P : α → Prop}
    {result : Except IpcError α} (h : Either T P result) (herror : ∀ error, T error → error.size + 21 ≤ MAX_FRAME_BYTES)
    (hok : ∀ outcome, P outcome →
      textSize (respond outcome).tag + sizeOfFields (Response.fields documents (respond outcome)) + 16 ≤ MAX_FRAME_BYTES) :
    ((answerOf respond result).json documents).size + 1 ≤ MAX_FRAME_BYTES := by
  cases result with
  | error error =>
    change ((Response.error error).json documents).size + 1 ≤ _
    rw [size_error]
    exact herror error h
  | ok outcome =>
    change ((respond outcome).json documents).size + 1 ≤ _
    rw [Response.size_json]
    exact hok outcome h

theorem size_applyProgram (h : machine.Terse 4096 around) (program : CoolingProgram) :
    ((dispatch toml around (.applyProgram program) machine).1.json documents).size + 1 ≤ MAX_FRAME_BYTES := by
  have hmax : MAX_FRAME_BYTES = 262144 := rfl
  have hkind : textSize "applied" = 7 := textSize_literal rfl
  rw [dispatch_applyProgram]
  refine size_answerOf (either_execute h.toTerseCooler program) (fun _ h => room_of_within h.1) fun outcome hwithin => ?_
  have hsize := hwithin.size
  change textSize "applied" + sizeOfFields outcome.fields + 16 ≤ _
  omega

theorem size_applyLighting (h : machine.Terse 4096 around) {command : LightingCommand}
    (hcount : Lighting.colorCount command.program < 10 ^ 20) :
    ((dispatch toml around (.applyLighting command) machine).1.json documents).size + 1 ≤ MAX_FRAME_BYTES := by
  have hmax : MAX_FRAME_BYTES = 262144 := rfl
  have hkind : textSize "lit" = 3 := textSize_literal rfl
  rw [dispatch_applyLighting]
  refine size_answerOf (either_illuminate h hcount) (fun _ => room_of_within) fun outcome hsize => ?_
  change textSize "lit" + sizeOfFields outcome.fields + 16 ≤ _
  omega

theorem size_applyDisplay (h : machine.Terse 4096 around) {preset : DisplayPreset} (hpath : preset.pathBytes < 10 ^ 20)
    (hpreset : preset.json.size + 5000 ≤ MAX_FRAME_BYTES) :
    ((dispatch toml around (.applyDisplay preset) machine).1.json documents).size + 1 ≤ MAX_FRAME_BYTES := by
  have hkind : textSize "shown" = 5 := textSize_literal rfl
  rw [dispatch_applyDisplay]
  refine size_answerOf (either_show h hpath) (fun _ => room_of_within) fun outcome hsize => ?_
  change textSize "shown" + sizeOfFields outcome.fields + 16 ≤ _
  omega

theorem size_profiles (active : String) (stored : List Profile) :
    ((Response.profiles active (.safe :: stored)).json documents).size =
      textSize active + sizeOfItems ((Profile.safe :: stored).map Profile.json) + 48 := by
  have hkind : textSize "profiles" = 8 := textSize_literal rfl
  have hactive : textSize "active" = 6 := textSize_literal rfl
  rw [Response.size_json]
  change textSize "profiles" + (textSize "active" + (textSize active + 2) + 4 + (textSize "profiles" +
    (sizeOfItems ((Profile.safe :: stored).map Profile.json) - 1 + 2) + 4 + 0)) + 15 = _
  rw [List.map_cons, sizeOfItems]
  omega

theorem size_diagnostics (record : CapabilityRecord) (events : List EventKind) :
    ((Response.diagnostics DAEMON_VERSION record events).json documents).size + 1 ≤
      (numeral documents.generatedAtUnixMs).size + (documents.redacted record).size +
        (Value.array (documents.events events)).size + 130 := by
  have hkind : textSize "diagnostics" = 11 := textSize_literal rfl
  have hnames : sizeOfNames ["schema_version", "generated_at_unix_ms", "daemon_version", "capabilities", "events"] = 86 :=
    rfl
  have hschema : (numeral 1).size = 1 := rfl
  have hversion : (Value.string DAEMON_VERSION).size ≤ 10 := by decide
  rw [Response.size_json]
  change textSize "diagnostics" + sizeOfFields [("schema_version", numeral 1),
    ("generated_at_unix_ms", numeral documents.generatedAtUnixMs), ("daemon_version", .string DAEMON_VERSION),
    ("capabilities", documents.redacted record), ("events", .array (documents.events events))] + 15 + 1 ≤ _
  rw [sizeOfFields_eq]
  simp only [List.map_cons, List.map_nil, List.sum_cons, List.sum_nil, hnames, hschema]
  omega

theorem size_handle (h : machine.Terse 4096 around) {request : Request} (hroom : machine.Roomy documents around request) :
    ((handle toml around request machine).1.json documents).size + 1 ≤ MAX_FRAME_BYTES := by
  have hmax : MAX_FRAME_BYTES = 262144 := rfl
  rw [handle_fst]
  cases request with
  | hello protocolVersion => exact size_hello hroom
  | status => exact Nat.le_trans (size_status machine.daemon documents) hroom
  | capabilities =>
    have hkind : textSize "capabilities" = 12 := textSize_literal rfl
    have hrecord : sizeOfFields (documents.record machine.daemon.capabilities) + 28 ≤ MAX_FRAME_BYTES := hroom
    change ((Response.capabilities machine.daemon.capabilities).json documents).size + 1 ≤ _
    rw [Response.size_json]
    change textSize "capabilities" + sizeOfFields (documents.record machine.daemon.capabilities) + 15 + 1 ≤ _
    omega
  | profiles =>
    change ((Response.profiles _ (.safe :: _)).json documents).size + 1 ≤ _
    rw [size_profiles]
    exact hroom
  | saveProfile profile => exact size_saveProfile h hroom
  | activateProfile name => exact size_activateProfile h hroom
  | deleteProfile name => exact size_deleteProfile h hroom
  | telemetry =>
    have hkind : textSize "telemetry" = 9 := textSize_literal rfl
    have hsample : sizeOfFields (documents.sample around.snapshot) + 25 ≤ MAX_FRAME_BYTES := hroom
    change ((Response.telemetry around.snapshot).json documents).size + 1 ≤ _
    rw [Response.size_json]
    change textSize "telemetry" + sizeOfFields (documents.sample around.snapshot) + 15 + 1 ≤ _
    omega
  | applyProgram program => exact size_applyProgram h program
  | applyLighting command => exact size_applyLighting h hroom
  | applyDisplay preset => exact size_applyDisplay h hroom.1 hroom.2
  | diagnostics => exact Nat.le_trans (size_diagnostics _ _) hroom

end Machine

end Kori
