import Kori.Daemon.Config.Runs
import Kori.Daemon.Cooling.Runs
import Kori.Daemon.State.Rules

/-! # What a refused request leaves behind -/

open Faulty

namespace Kori

variable {Raw : Type} {toml : Toml Raw} {around : Surroundings} {machine : Machine Raw}

/-! ## A picture that could not be rendered -/

namespace DisplayExecutor

variable {self : DisplayExecutor} {renderer : Renderer} {preset : DisplayPreset}
variable {samples : MetricSample × MetricSample} {w : LcdWorld} {error : DisplayError}

theorem send_error (h : ((self.send renderer preset samples).run lcd w).1 = .error error) :
    ((self.send renderer preset samples).run lcd w).2 = w := by
  unfold send at h ⊢
  split at h
  · cases h
  · split at h
    · rfl
    · rw [run_bind] at h
      cases h

theorem startImage_error (h : ((self.startImage renderer preset).run lcd w).1 = .error error) :
    ((self.startImage renderer preset).run lcd w).2 = w := by
  unfold startImage at h ⊢
  split at h
  · cases h
  · split at h
    · rfl
    · cases h
    · rw [run_bind] at h
      cases h
    · rw [run_bind, run_bind] at h
      cases h

theorem apply_error (h : ((self.apply renderer preset samples).run lcd w).1.1 = .error error) :
    (self.apply renderer preset samples).run lcd w =
      ((.error error, { self with faulted := none, animation := none }), w) := by
  unfold apply at h ⊢
  dsimp only at h ⊢
  rw [run_bind] at h ⊢
  generalize hsent : Prog.run lcd (if preset.mode.usesImage then _ else _) w = sent at h ⊢
  obtain ⟨error' | sent, w'⟩ := sent
  · have hw : w' = w := by
      split at hsent
      · have hsame := startImage_error (congrArg Prod.fst hsent)
        rwa [hsent] at hsame
      · have hsame := send_error (congrArg Prod.fst hsent)
        rwa [hsent] at hsame
    cases h
    rw [hw]
    rfl
  · cases h

theorem state_of_dropped (self : DisplayExecutor) :
    ({ self with faulted := none, animation := none } : DisplayExecutor).state = { self.state with
      faulted := none
      streaming := self.isConnected && self.active.any fun preset => preset.mode.usesReadings } := by
  have hconnected : ({ self with faulted := none, animation := none } : DisplayExecutor).isConnected =
      self.isConnected := rfl
  unfold state isStreaming
  rw [hconnected]
  cases self.isConnected <;> rfl

end DisplayExecutor

namespace Machine

/-! ## The operations -/

theorem execute_error {program : CoolingProgram} {error : IpcError}
    (h : (execute toml around program machine).1 = .error error) :
    execute toml around program machine = (.error error, machine) := by
  unfold execute at h ⊢
  rw [bind_apply, get_apply] at h ⊢
  dsimp only at h ⊢
  cases hgate : machine.daemon.admitsProgram program with
  | error refusal =>
    rw [hgate] at h
    cases h
    rfl
  | ok =>
    rw [hgate] at h
    dsimp only at h
    rw [bind_apply] at h
    split at h
    · cases h
    · rw [bind_apply] at h
      split at h <;> cases h

theorem illuminate_error {command : LightingCommand} {error : IpcError}
    (h : (illuminate toml command machine).1 = .error error) :
    illuminate toml command machine = (.error error, machine) := by
  unfold illuminate at h ⊢
  rw [bind_apply, get_apply] at h ⊢
  dsimp only at h ⊢
  cases hgate : machine.daemon.admitsLighting command with
  | error refusal =>
    rw [hgate] at h
    cases h
    rfl
  | ok =>
    rw [hgate] at h
    dsimp only at h
    rw [bind_apply, bind_apply] at h
    split at h <;> cases h

/-- The machine after a preset that passed every gate could not be rendered. -/
def unrendered (machine : Machine Raw) : Machine Raw :=
  { machine with daemon := { machine.daemon with
      display := { machine.daemon.display with faulted := none, animation := none } } }

theorem show_error {preset : DisplayPreset} {error : IpcError}
    (h : («show» toml around preset machine).1 = .error error) :
    («show» toml around preset machine).2 = if machine.daemon.admitsDisplay preset = .ok () then
      machine.unrendered else machine := by
  unfold «show» at h ⊢
  rw [bind_apply, get_apply] at h ⊢
  dsimp only at h ⊢
  cases hgate : machine.daemon.admitsDisplay preset with
  | error refusal => rfl
  | ok =>
    rw [hgate] at h
    dsimp only at h ⊢
    rw [bind_apply] at h ⊢
    cases hsent : (draw (fun display => display.apply around.renderer preset
        (preset.samples around.snapshot)) machine).1 with
    | error refusal =>
      rw [draw_apply, DisplayExecutor.apply_error hsent]
      rfl
    | ok outcome =>
      rw [hsent] at h
      dsimp only at h
      rw [bind_apply] at h
      split at h <;> cases h

/-! ## Every request -/

/-- Nothing was done to a device, and neither the configuration nor what it is reported to run
changed. -/
structure Spares (before after : Machine Raw) : Prop where
  cooler : after.cooler = before.cooler
  controller : after.controller = before.controller
  panel : after.panel = before.panel
  config : after.daemon.config = before.daemon.config
  file : after.store.state.file = before.store.state.file
  cooling : after.daemon.cooling = before.daemon.cooling
  lighting : after.daemon.lighting = before.daemon.lighting

theorem Spares.refl : machine.Spares machine := ⟨rfl, rfl, rfl, rfl, rfl, rfl, rfl⟩

theorem Spares.note {before after : Machine Raw} (h : before.Spares after) (event : EventKind) :
    before.Spares (Machine.note event after).2 :=
  ⟨h.cooler, h.controller, h.panel, h.config, h.file, h.cooling, h.lighting⟩

theorem configure_failed {α : Type} {f : Configuration → DiskIo Raw (Except ConfigError α × Configuration)}
    {error : ConfigError} (hf : ∀ config (s : DiskSeen Raw), wp (disk toml) (f config) (fun r s' =>
      Configuration.failed r.1 → r.2 = config ∧ s'.state.file = s.state.file) s)
    (h : (configure toml f machine).1 = .error error) :
    machine.Spares (configure toml f machine).2 ∧
      (configure toml f machine).2.daemon.display = machine.daemon.display := by
  have hrun := wp_run machine.store (hf machine.daemon.config machine.store.toSeen) ⟨error, h⟩
  exact ⟨⟨rfl, rfl, rfl, hrun.1, hrun.2, rfl, rfl⟩, rfl⟩

/-- A preset that passed every gate, so that only its picture can be refused. -/
def ReachesRenderer (daemon : Daemon) : Request → Prop
  | .applyDisplay preset => daemon.admitsDisplay preset = .ok ()
  | _ => False

theorem activateProfile_error {name : String} {error : IpcError}
    (h : (activateProfile toml around name machine).1 = .error error) :
    machine.Spares (activateProfile toml around name machine).2 ∧
      (activateProfile toml around name machine).2.daemon.display = machine.daemon.display := by
  unfold activateProfile at h ⊢
  rw [bind_apply, get_apply] at h ⊢
  dsimp only at h ⊢
  cases hprofile : machine.daemon.config.profile name with
  | none => exact ⟨.refl, rfl⟩
  | some profile =>
    rw [hprofile] at h
    dsimp only at h ⊢
    cases hgate : machine.daemon.admitsActivation profile with
    | error refusal => exact ⟨.refl, rfl⟩
    | ok =>
      rw [hgate] at h
      dsimp only at h ⊢
      rw [bind_apply] at h ⊢
      cases hconfig : (configure toml (fun config => config.activate toml name) machine).1 with
      | error refusal => exact configure_failed (fun _ _ => Configuration.activate_failed name) hconfig
      | ok profile =>
        rw [hconfig] at h
        cases h

theorem saveProfile_error {profile : Profile} {error : IpcError}
    (h : (saveProfile toml profile machine).1 = .error error) :
    machine.Spares (saveProfile toml profile machine).2 ∧
      (saveProfile toml profile machine).2.daemon.display = machine.daemon.display := by
  unfold saveProfile at h ⊢
  rw [bind_apply] at h ⊢
  cases hconfig : (configure toml (fun config => config.saveProfile toml profile) machine).1 with
  | error refusal => exact configure_failed (fun _ _ => Configuration.saveProfile_failed profile) hconfig
  | ok =>
    rw [hconfig] at h
    cases h

theorem deleteProfile_error {name : String} {error : IpcError}
    (h : (deleteProfile toml name machine).1 = .error error) :
    machine.Spares (deleteProfile toml name machine).2 ∧
      (deleteProfile toml name machine).2.daemon.display = machine.daemon.display := by
  unfold deleteProfile at h ⊢
  rw [bind_apply] at h ⊢
  cases hconfig : (configure toml (fun config => config.deleteProfile toml name) machine).1 with
  | error refusal => exact configure_failed (fun _ _ => Configuration.deleteProfile_failed name) hconfig
  | ok =>
    rw [hconfig] at h
    cases h

theorem dispatch_error {request : Request} {error : IpcError}
    (h : (dispatch toml around request machine).1 = .error error) :
    machine.Spares (dispatch toml around request machine).2 ∧
    (¬ ReachesRenderer machine.daemon request →
      (dispatch toml around request machine).2.daemon.display = machine.daemon.display) ∧
    (ReachesRenderer machine.daemon request →
      (dispatch toml around request machine).2.daemon.display =
        { machine.daemon.display with faulted := none, animation := none }) := by
  cases request with
  | hello protocolVersion =>
    unfold dispatch
    dsimp only
    split
    · exact ⟨.refl, fun _ => rfl, fun h => h.elim⟩
    · exact ⟨.refl, fun _ => rfl, fun h => h.elim⟩
  | status => cases h
  | capabilities => cases h
  | profiles => cases h
  | telemetry => cases h
  | diagnostics => cases h
  | saveProfile profile =>
    obtain ⟨hspares, hdisplay⟩ := saveProfile_error h
    exact ⟨hspares, fun _ => hdisplay, fun h => h.elim⟩
  | activateProfile name =>
    obtain ⟨hspares, hdisplay⟩ := activateProfile_error h
    exact ⟨hspares, fun _ => hdisplay, fun h => h.elim⟩
  | deleteProfile name =>
    obtain ⟨hspares, hdisplay⟩ := deleteProfile_error h
    exact ⟨hspares, fun _ => hdisplay, fun h => h.elim⟩
  | applyProgram program =>
    unfold dispatch at h ⊢
    dsimp only at h ⊢
    rw [bind_apply] at h ⊢
    cases hexecute : (execute toml around program machine).1 with
    | ok outcome =>
      rw [hexecute] at h
      cases h
    | error refusal =>
      rw [execute_error hexecute]
      exact ⟨.refl, fun _ => rfl, fun h => h.elim⟩
  | applyLighting command =>
    unfold dispatch at h ⊢
    dsimp only at h ⊢
    rw [bind_apply] at h ⊢
    cases hilluminate : (illuminate toml command machine).1 with
    | ok outcome =>
      rw [hilluminate] at h
      cases h
    | error refusal =>
      rw [illuminate_error hilluminate]
      exact ⟨.refl, fun _ => rfl, fun h => h.elim⟩
  | applyDisplay preset =>
    unfold dispatch at h ⊢
    dsimp only at h ⊢
    rw [bind_apply] at h ⊢
    cases hshow : («show» toml around preset machine).1 with
    | ok outcome =>
      rw [hshow] at h
      cases h
    | error refusal =>
      dsimp only
      rw [show_error hshow, pure_apply]
      dsimp only
      split
      · rename_i hgate
        exact ⟨⟨rfl, rfl, rfl, rfl, rfl, rfl, rfl⟩, fun hnot => (hnot hgate).elim, fun _ => rfl⟩
      · rename_i hgate
        exact ⟨.refl, fun _ => rfl, fun h => (hgate h).elim⟩

end Machine

/-- A refused request did nothing to a device and left the configuration, in memory and on disk, and
what is reported for cooling and lighting. What is reported for the panel changes only when a picture
could not be rendered: then a fault is cleared and what was playing is dropped. -/
theorem refused_without_effect (machine : Machine Raw) (around : Surroundings) (request : Request)
    (error : IpcError) (h : (Machine.handle toml around request machine).1 = .error error) :
    let after := (Machine.handle toml around request machine).2
    let display := machine.daemon.display
    after.cooler = machine.cooler ∧ after.controller = machine.controller ∧
    after.panel = machine.panel ∧
    after.daemon.config = machine.daemon.config ∧
    after.store.state.file = machine.store.state.file ∧
    after.daemon.status.cooling = machine.daemon.status.cooling ∧
    after.daemon.status.lighting = machine.daemon.status.lighting ∧
    (¬ Machine.ReachesRenderer machine.daemon request →
      after.daemon.status.display = machine.daemon.status.display) ∧
    (Machine.ReachesRenderer machine.daemon request →
      after.daemon.status.display = { machine.daemon.status.display with
        faulted := none
        streaming := display.isConnected && display.active.any fun preset =>
          preset.mode.usesReadings }) := by
  have hdispatch : (Machine.dispatch toml around request machine).1 = .error error := by
    unfold Machine.handle at h
    rw [bind_apply] at h
    cases hanswer : (Machine.dispatch toml around request machine).1 <;> rw [hanswer] at h <;>
      exact h
  have hafter : (Machine.handle toml around request machine).2 =
      (Machine.note (.requestRejected error) (Machine.dispatch toml around request machine).2).2 := by
    unfold Machine.handle
    rw [bind_apply, hdispatch]
    rfl
  dsimp only
  rw [hafter]
  obtain ⟨hspares, hkept, hdropped⟩ := Machine.dispatch_error hdispatch
  have hnoted := hspares.note (.requestRejected error)
  refine ⟨hnoted.cooler, hnoted.controller, hnoted.panel, hnoted.config, hnoted.file, ?_, ?_, ?_, ?_⟩
  · exact congrArg CoolingExecutor.committedProgram hnoted.cooling
  · exact congrArg LightingExecutor.state hnoted.lighting
  · intro hrequest
    exact congrArg DisplayExecutor.state (hkept hrequest)
  · intro hrequest
    refine (congrArg DisplayExecutor.state (hdropped hrequest)).trans ?_
    exact machine.daemon.display.state_of_dropped

/-! ## A start on a bench -/

/-- A cooler that may be written in every way. -/
def benchKraken : DeviceRecord :=
  { support := .supported, id := KRAKEN_BASE,
    capabilities := [.pumpDuty, .fanDuty, .lcdFrame, .lcdDisplayControl].map fun id =>
      ⟨id, .available true "/dev/hidraw4"⟩ }

def benchFound : Found :=
  { capabilities := ⟨[benchKraken]⟩, conflicts := [], lighting := .absent,
    display := .connected benchPanel, socketPath := "/run/kori/kori.sock" }

/-- A sample of a machine that reports nothing but whether the cooler is there. -/
def benchSnapshot (present : Bool) : TelemetrySnapshot :=
  let nothing {α : Type} : Reading α := .unavailable (.absent "not sampled")
  { sequence := 0, atUnixMs := 0
    kraken := { atUnixMs := 0, present, liquidTemperatureC := nothing
                pump := { channel := .pump, rpm := nothing, duty := nothing, mode := nothing }
                fan := { channel := .fan, rpm := nothing, duty := nothing, mode := nothing } }
    system := { cpuLoadPercent := nothing, cpuTemperatureC := nothing }
    gpu := { temperatureC := nothing, loadPercent := nothing }
    failed := [] }

def benchSurroundings (present there : Bool) : Surroundings :=
  { located := some benchInstance, snapshot := benchSnapshot present, renderer := benchRenderer there }

/-- A cooler that fails where the plan says, an empty disk, and a panel that fails where it says. -/
def benchOutside (coolerFails panelFails : Nat → Bool) : Outside ConfigDocument :=
  { cooler := benchWorld ['0'] coolerFails, store := emptyDisk fun _ => none
    controller := { state := [], log := [], faults := fun _ => none, times := fun _ => 0 }
    panel := { state := { brightness := .FULL, picture := [] }, log := []
               faults := fun n => if panelFails n then some ⟨.hid "EIO", .FULL, []⟩ else none
               times := fun _ => 0 } }

def benchMachine (coolerFails panelFails : Nat → Bool) : Machine ConfigDocument :=
  .start plainToml configPath (benchSurroundings true true) benchFound
    (benchOutside coolerFails panelFails)

/-- A request for a profile that does not exist, refused. -/
theorem refused_without_effect_missing :
    let machine := benchMachine (fun _ => false) fun _ => false
    let after := (Machine.handle plainToml (benchSurroundings true true) (.activateProfile "Quiet") machine).2
    after.daemon.status.display = machine.daemon.status.display :=
  (refused_without_effect (benchMachine (fun _ => false) fun _ => false) (benchSurroundings true true)
    (.activateProfile "Quiet") (.profileNotFound "Quiet") rfl).2.2.2.2.2.2.2.1 fun h => h

/-- A picture that can no longer be read stops the animation that was playing, and the request is
refused. -/
theorem refused_display_stops_streaming :
    ∃ machine, Machine.Reachable plainToml machine ∧ ∃ around request error,
      (Machine.handle plainToml around request machine).1 = .error error ∧
      (Machine.handle plainToml around request machine).2.daemon.status.display ≠
        machine.daemon.status.display := by
  refine ⟨(Machine.serve plainToml (.request (benchSurroundings true true) (.applyDisplay benchImage))
    (benchMachine (fun _ => false) (· == 0))).2, .call _ (.start ..), benchSurroundings true false,
    .applyDisplay benchImage, _, rfl, fun h => ?_⟩
  have hstreaming := congrArg DisplayState.streaming h
  revert hstreaming
  decide +kernel

end Kori
