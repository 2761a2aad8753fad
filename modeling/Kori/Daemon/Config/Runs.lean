import Kori.Daemon.Config.Loadable
import Kori.Faulty.Runs

/-! # The configuration in memory and the one on disk -/

open Faulty

namespace Kori

variable {Raw : Type} {s : DiskSeen Raw} {toml : Toml Raw}

/-- What reloading a file yields, up to the field that is never written. -/
def ReloadsTo (toml : Toml Raw) (file : Option Raw) (document : ConfigDocument) : Prop :=
  ∀ raw, file = some raw → ∃ reloaded, toml.read raw = .ok reloaded ∧
    reloaded.withoutLogo = document.withoutLogo

/-- The decoder reads what the encoder wrote, up to the field that is never written. -/
def Toml.Inverse (toml : Toml Raw) : Prop :=
  ∀ document, toml.decode (toml.encode document) = .ok document.withoutLogo

theorem Toml.Inverse.reloads {toml : Toml Raw} (h : toml.Inverse) {document : ConfigDocument}
    (hloadable : document.Loadable) : ReloadsTo toml (some (toml.encode document)) document := by
  rintro raw ⟨⟩
  refine ⟨document.withoutLogo, ?_, document.withoutLogo_withoutLogo⟩
  have hcheck := (ConfigDocument.check_eq_ok _).mpr hloadable.withoutLogo
  rw [Toml.read, h document]
  dsimp only
  rw [hcheck]

/-! ## A save -/

theorem perform_step {β : Type} {command : DiskCommand Raw} {report : String → ConfigError}
    {f : Unit → ExceptT ConfigError (DiskIo Raw) β} {Q : Except ConfigError β → DiskSeen Raw → Prop}
    (hfail : ∀ fault : DiskFault Raw, Q (.error (report fault.detail))
      (s.issued command false ((disk toml).spill fault command s.state)))
    (hok : wp (disk toml) (f ()).run Q (s.issued command true ((disk toml).act command s.state))) :
    wp (disk toml) (perform command report >>= f).run Q s := by
  rw [wp_run_bind, perform, wp_run_bind, wp_run_lift, wp_issue]
  exact ⟨hfail, hok⟩

theorem writeAtomically_spec (document : ConfigDocument) :
    wp (disk toml) (writeAtomically toml document).run (fun r s' => match r with
      | .ok () => s'.state.file = some (toml.encode document)
      | .error _ => s'.state.file = s.state.file) s := by
  unfold writeAtomically
  iterate 6 refine perform_step (fun _ => rfl) ?_
  rw [wp_run_bind, wp_run_lift, wp_issue]
  refine ⟨fun fault => ?_, ?_⟩
  · refine wp_run_lift_step (M := fun _ t => t.state.file = s.state.file) ?_ ?_
    · rw [wp_issue]
      exact ⟨fun _ => rfl, rfl⟩
    · intro _ t ht
      rw [wp_run_throw]
      exact ht
  · refine wp_run_lift_step (M := fun _ t => t.state.file = some (toml.encode document)) ?_ ?_
    · rw [wp_issue]
      exact ⟨fun _ => rfl, rfl⟩
    · rintro (e | ⟨⟩) t ht
      · exact ht
      · refine wp_run_lift_step (M := fun _ t => t.state.file = some (toml.encode document)) ?_ ?_
        · rw [wp_issue]
          exact ⟨fun _ => ht, ht⟩
        · exact fun _ _ h => h

namespace Configuration

variable {self : Configuration}

/-- What a change answers for: when it fails nothing changed, neither in memory nor on disk, and
otherwise the document is loadable and the file holds it. -/
structure Outcome (toml : Toml Raw) (before : ConfigDocument) (file : Option Raw) (failed : Prop)
    (after : ConfigDocument) (file' : Option Raw) : Prop where
  unchanged : failed → after = before ∧ file' = file
  loadable : after.Loadable
  reloads : ReloadsTo toml file' after

/-- In memory and on disk, the configuration is one that can be loaded. -/
structure Sound (toml : Toml Raw) (document : ConfigDocument) (file : Option Raw) : Prop where
  loadable : document.Loadable
  reloads : ReloadsTo toml file document

def failed {α : Type} (r : Except ConfigError α) : Prop := ∃ error, r = .error error

theorem Sound.outcome {document : ConfigDocument} {file : Option Raw}
    (h : Sound toml document file) (p : Prop) : Outcome toml document file p document file :=
  ⟨fun _ => ⟨rfl, rfl⟩, h.loadable, h.reloads⟩

theorem commit_spec : wp (disk toml) (self.commit toml) (fun r s' => match r.1 with
    | .ok () => r.2.document = { self.document with schemaVersion := CONFIG_SCHEMA_VERSION } ∧
        s'.state.file = some (toml.encode r.2.document)
    | .error _ => r.2.path = self.path ∧ r.2.state = self.state ∧ s'.state.file = s.state.file) s := by
  unfold commit
  refine wp_step (writeAtomically_spec _) ?_
  rintro (error | ⟨⟩) s' h
  · exact ⟨rfl, rfl, h⟩
  · dsimp only
    split
    · exact ⟨rfl, h⟩
    · exact ⟨rfl, h⟩

theorem commitChange_failed {α : Type} (change : ConfigDocument → α × ConfigDocument) :
    wp (disk toml) (self.commitChange toml change) (fun r s' => failed r.1 →
      r.2 = self ∧ s'.state.file = s.state.file) s := by
  unfold commitChange
  refine wp_step commit_spec ?_
  rintro ⟨error | ⟨⟩, after⟩ s' h
  · obtain ⟨hpath, hstate, hfile⟩ := h
    dsimp only at hpath hstate
    refine fun _ => ⟨?_, hfile⟩
    dsimp only
    rw [hpath, hstate]
  · rintro ⟨error, herror⟩
    cases herror

theorem commitChange_committed {α : Type} (change : ConfigDocument → α × ConfigDocument) :
    wp (disk toml) (self.commitChange toml change) (fun r s' => ∀ value, r.1 = .ok value →
      value = (change self.document).1 ∧
      r.2.document = { (change self.document).2 with schemaVersion := CONFIG_SCHEMA_VERSION } ∧
      s'.state.file = some (toml.encode r.2.document)) s := by
  unfold commitChange
  refine wp_step commit_spec ?_
  rintro ⟨error | ⟨⟩, after⟩ s' h
  · rintro value hvalue
    cases hvalue
  · rintro value hvalue
    cases hvalue
    exact ⟨rfl, h⟩

theorem commitChange_loadable {α : Type} (h : self.document.Loadable) {change : ConfigDocument → α × ConfigDocument}
    (hchange : (change self.document).2.Loadable) :
    wp (disk toml) (self.commitChange toml change) (fun r _ => r.2.document.Loadable) s := by
  refine wp_mono (wp_and (commitChange_failed change) (commitChange_committed change)) ?_
  rintro ⟨error | value, after⟩ s' ⟨hfailed, hcommitted⟩
  · obtain ⟨rfl, -⟩ := hfailed ⟨error, rfl⟩
    exact h
  · obtain ⟨-, hdocument, -⟩ := hcommitted value rfl
    dsimp only
    rw [hdocument]
    exact hchange.current

theorem commitChange_spec {α : Type} (hinverse : toml.Inverse)
    (hsound : Sound toml self.document s.state.file) {change : ConfigDocument → α × ConfigDocument}
    (hchange : (change self.document).2.Loadable) :
    wp (disk toml) (self.commitChange toml change) (fun r s' =>
      Outcome toml self.document s.state.file (failed r.1) r.2.document s'.state.file) s := by
  refine wp_mono (wp_and (commitChange_loadable hsound.loadable hchange)
    (wp_and (commitChange_failed change) (commitChange_committed change))) ?_
  rintro ⟨error | value, after⟩ s' ⟨hloadable, hfailed, hcommitted⟩
  · obtain ⟨rfl, hfile⟩ := hfailed ⟨error, rfl⟩
    rw [hfile]
    exact hsound.outcome _
  · obtain ⟨-, -, hfile⟩ := hcommitted value rfl
    refine ⟨?_, hloadable, ?_⟩
    · rintro ⟨error, herror⟩
      cases herror
    · rw [hfile]
      exact hinverse.reloads hloadable

theorem profile_mem {name : String} {profile : Profile} (h : self.profile name = some profile) :
    profile ∈ Profile.safe :: self.document.profiles := List.mem_of_find?_eq_some h

theorem saveProfile_failed (profile : Profile) : wp (disk toml) (self.saveProfile toml profile)
    (fun r s' => failed r.1 → r.2 = self ∧ s'.state.file = s.state.file) s := by
  unfold saveProfile
  split
  · exact fun _ => ⟨rfl, rfl⟩
  · split
    · exact fun _ => ⟨rfl, rfl⟩
    · exact commitChange_failed _

theorem activate_failed (name : String) : wp (disk toml) (self.activate toml name)
    (fun r s' => failed r.1 → r.2 = self ∧ s'.state.file = s.state.file) s := by
  unfold activate
  split
  · exact fun _ => ⟨rfl, rfl⟩
  · exact commitChange_failed _

theorem deleteProfile_failed (name : String) : wp (disk toml) (self.deleteProfile toml name)
    (fun r s' => failed r.1 → r.2 = self ∧ s'.state.file = s.state.file) s := by
  unfold deleteProfile
  split
  · exact fun _ => ⟨rfl, rfl⟩
  · split
    · exact fun _ => ⟨rfl, rfl⟩
    · exact commitChange_failed _

/-! ## A load -/

theorem loadable_default : ConfigDocument.default.Loadable := by
  refine ⟨?_, ?_, List.nodup_nil, ?_, .inl rfl⟩
  · exact ⟨(by decide : 1 ≤ CONFIG_SCHEMA_VERSION), Nat.le_refl _⟩
  · intro profile hmem
    cases hmem
  · intro hmem
    cases hmem

theorem Sound.default {file : Option Raw} (h : file = none) : Sound toml .default file := by
  refine ⟨loadable_default, fun raw hraw => ?_⟩
  rw [h] at hraw
  cases hraw

theorem readDocument_spec : wp (disk toml) (readDocument toml) (fun r s' => match r with
    | .ok (some document) => Sound toml document s'.state.file
    | .ok none => s'.state.file = none
    | .error _ => True) s := by
  unfold readDocument
  rw [wp_bind, wp_look]
  refine ⟨fun _ => trivial, ?_⟩
  have hlook : (disk toml).look .read s.state = s.state.file := rfl
  rw [hlook]
  cases hfile : s.state.file with
  | none => exact hfile
  | some raw =>
    dsimp only
    cases hread : toml.read raw with
    | error => trivial
    | ok document =>
      refine ⟨?_, ?_⟩
      · rw [← ConfigDocument.check_eq_ok]
        unfold Toml.read at hread
        split at hread
        · cases hread
        · split at hread
          · cases hread
          · rename_i hcheck
            cases hread
            exact hcheck
      · intro raw' hraw
        have hsame : s.state.file = some raw' := hraw
        rw [hfile] at hsame
        cases hsame
        exact ⟨document, hread, rfl⟩

/-- A load that could trust what it found, or that left no file in its place. -/
def Trusted (loaded : Configuration) (file : Option Raw) : Prop :=
  loaded.state = .loaded ∨ loaded.state = .defaults ∨ file = none

theorem load_spec (path : ConfigPath) : wp (disk toml) (load toml path) (fun loaded s' =>
    Trusted loaded s'.state.file → Sound toml loaded.document s'.state.file) s := by
  unfold load
  refine wp_step readDocument_spec ?_
  rintro (error | (_ | document)) s' h
  · refine wp_step wp_true ?_
    rintro preserved s'' -
    rintro (hstate | hstate | hfile)
    · cases hstate
    · cases hstate
    · exact .default hfile
  · exact fun _ => .default h
  · exact fun _ => h

theorem load_loadable (path : ConfigPath) :
    wp (disk toml) (load toml path) (fun loaded _ => loaded.document.Loadable) s := by
  unfold load
  refine wp_step readDocument_spec ?_
  rintro (error | (_ | document)) s' h
  · exact wp_step wp_true fun _ _ _ => loadable_default
  · exact loadable_default
  · exact h.loadable

end Configuration

/-! ## Every sequence of changes -/

inductive ConfigCall where
  | saveProfile (profile : Profile)
  | activate (name : String)
  | deleteProfile (name : String)
  | recordProgram (program : CoolingProgram)
  | recordLighting (command : LightingCommand)
  | recordDisplay (preset : DisplayPreset)

namespace ConfigCall

open Kori.Configuration

def answered {α : Type} (r : Except ConfigError α × Configuration) :
    Except ConfigError Unit × Configuration := (r.1.map fun _ => (), r.2)

def handle (toml : Toml Raw) (call : ConfigCall) (configuration : Configuration) :
    DiskIo Raw (Except ConfigError Unit × Configuration) :=
  match call with
  | saveProfile profile => answered <$> configuration.saveProfile toml profile
  | activate name => answered <$> configuration.activate toml name
  | deleteProfile name => answered <$> configuration.deleteProfile toml name
  | recordProgram program => answered <$> configuration.recordProgram toml program
  | recordLighting command => answered <$> configuration.recordLighting toml command
  | recordDisplay preset => answered <$> configuration.recordDisplay toml preset

theorem handle_cases (toml : Toml Raw) (call : ConfigCall) (configuration : Configuration) :
    (∃ answer, call.handle toml configuration = pure (answer, configuration)) ∨
    ∃ (α : Type) (change : ConfigDocument → α × ConfigDocument),
      (configuration.document.Loadable → (change configuration.document).2.Loadable) ∧
      call.handle toml configuration = answered <$> configuration.commitChange toml change := by
  cases call with
  | saveProfile profile =>
    simp only [handle, Configuration.saveProfile]
    cases hvalid : validateProfile profile with
    | error source => exact .inl ⟨_, rfl⟩
    | ok =>
      dsimp only
      split
      · exact .inl ⟨_, rfl⟩
      · rename_i hname
        exact .inr ⟨_, _, fun h => h.save hvalid hname, rfl⟩
  | activate name =>
    simp only [handle, Configuration.activate]
    cases hprofile : configuration.profile name with
    | none => exact .inl ⟨_, rfl⟩
    | some profile => exact .inr ⟨_, _, fun h => h.select (profile_mem hprofile), rfl⟩
  | deleteProfile name =>
    simp only [handle, Configuration.deleteProfile]
    split
    · exact .inl ⟨_, rfl⟩
    · split
      · exact .inl ⟨_, rfl⟩
      · refine .inr ⟨_, _, fun h => ?_, rfl⟩
        split
        · exact h.delete name (.inl rfl)
        · rename_i hactive
          exact h.delete name (.inr ⟨rfl, hactive⟩)
  | recordProgram program =>
    simp only [handle, Configuration.recordProgram]
    split
    · exact .inl ⟨_, rfl⟩
    · exact .inr ⟨_, _, fun h => h.session _, rfl⟩
  | recordLighting command =>
    simp only [handle, Configuration.recordLighting]
    split
    · exact .inl ⟨_, rfl⟩
    · exact .inr ⟨_, _, fun h => h.session _, rfl⟩
  | recordDisplay preset =>
    simp only [handle, Configuration.recordDisplay]
    split
    · exact .inl ⟨_, rfl⟩
    · exact .inr ⟨_, _, fun h => h.session _, rfl⟩

/-- Whatever its disk does, a call leaves a configuration that can be loaded. -/
theorem handle_loadable {configuration : Configuration} (h : configuration.document.Loadable) (call : ConfigCall) :
    wp (disk toml) (call.handle toml configuration) (fun r _ => r.2.document.Loadable) s := by
  rcases call.handle_cases toml configuration with ⟨answer, heq⟩ | ⟨α, change, hchange, heq⟩
  · rw [heq]
    exact h
  · rw [heq]
    exact wp_step (commitChange_loadable h (hchange h)) fun _ _ h => h

theorem handle_spec (hinverse : toml.Inverse) {configuration : Configuration}
    (hsound : Sound toml configuration.document s.state.file) (call : ConfigCall) :
    wp (disk toml) (call.handle toml configuration) (fun r s' =>
      Outcome toml configuration.document s.state.file (failed r.1) r.2.document s'.state.file) s := by
  rcases call.handle_cases toml configuration with ⟨answer, heq⟩ | ⟨α, change, hchange, heq⟩
  · rw [heq]
    exact hsound.outcome _
  · rw [heq]
    refine wp_step (commitChange_spec hinverse hsound (hchange hsound.loadable)) ?_
    rintro ⟨r, after⟩ s' houtcome
    refine ⟨fun hfailed => houtcome.unchanged ?_, houtcome.loadable, houtcome.reloads⟩
    cases r with
    | error error => exact ⟨error, rfl⟩
    | ok value =>
      obtain ⟨error, herror⟩ := hfailed
      cases herror

end ConfigCall

abbrev ConfigRig (Raw : Type) :=
  Rig Configuration (Disk Raw) (DiskCommand Raw) DiskQuery (Option Raw) (DiskFault Raw)

/-- The configuration a start loads, over the disk it loaded it from. -/
def loadedRig (toml : Toml Raw) (path : ConfigPath) (world : DiskWorld Raw) : ConfigRig Raw :=
  let loaded := (Configuration.load toml path).run (disk toml) world
  { owner := loaded.1, world := loaded.2 }

/-- From a configuration that was loaded, through any changes and any failures of the disk, what
is in memory can be loaded and is what the file holds, and a failed change changes neither. -/
theorem configuration_reloads (hinverse : toml.Inverse) (path : ConfigPath) (world : DiskWorld Raw)
    (calls : List ConfigCall)
    (htrusted : (loadedRig toml path world).owner.Trusted
      (loadedRig toml path world).world.state.file) :
    ∀ step ∈ (loadedRig toml path world).steps (disk toml) (ConfigCall.handle toml) calls,
      step.after.owner.document.check = .ok () ∧
      ReloadsTo toml step.after.world.state.file step.after.owner.document ∧
      (∀ error, step.answer = .error error →
        step.after.owner.document = step.before.owner.document ∧
        step.after.world.state.file = step.before.world.state.file) := by
  have hloaded : Configuration.Sound toml (loadedRig toml path world).owner.document
      (loadedRig toml path world).world.state.file :=
    wp_run world (Configuration.load_spec path) htrusted
  have hstep : ∀ (rig : ConfigRig Raw) (call : ConfigCall),
      Configuration.Sound toml rig.owner.document rig.world.state.file →
      Configuration.Outcome toml rig.owner.document rig.world.state.file
        (Configuration.failed (rig.step (disk toml) (ConfigCall.handle toml) call).answer)
        (rig.step (disk toml) (ConfigCall.handle toml) call).after.owner.document
        (rig.step (disk toml) (ConfigCall.handle toml) call).after.world.state.file :=
    fun rig call hsound => Rig.step_of_wp
      (P := fun answer (owner : Configuration) (t : DiskSeen Raw) =>
        Configuration.Outcome toml rig.owner.document rig.world.state.file
          (Configuration.failed answer) owner.document t.state.file)
      (ConfigCall.handle_spec (s := rig.world.fresh.toSeen) hinverse hsound call)
  have hsteps : ∀ step ∈ (loadedRig toml path world).steps (disk toml) (ConfigCall.handle toml) calls,
      _ ∧ _ ∧ Configuration.Outcome toml step.before.owner.document step.before.world.state.file
        (Configuration.failed step.answer) step.after.owner.document step.after.world.state.file :=
    Rig.steps_of_step
      (fun rig : ConfigRig Raw => Configuration.Sound toml rig.owner.document rig.world.state.file)
      (fun _ _ => True)
      (fun rig call hsound _ =>
        have houtcome := hstep rig call hsound
        ⟨⟨houtcome.loadable, houtcome.reloads⟩, houtcome⟩)
      calls hloaded (fun _ _ => trivial)
  intro step hmem
  obtain ⟨-, -, houtcome⟩ := hsteps step hmem
  refine ⟨(ConfigDocument.check_eq_ok _).mpr houtcome.loadable, houtcome.reloads, ?_⟩
  exact fun error herror => houtcome.unchanged ⟨error, herror⟩

/-- A file that holds the document itself. -/
def plainToml : Toml ConfigDocument :=
  { empty := .default, encode := ConfigDocument.withoutLogo, decode := .ok }

/-- A disk with no file on it, that fails where the plan says. -/
def emptyDisk (faults : Nat → Option (DiskFault ConfigDocument)) : DiskWorld ConfigDocument :=
  { state := { file := none, temporary := none }, log := [], faults, times := fun n => n }

def configPath : ConfigPath := { directory := "/etc/kori", stem := "config", extension := "toml" }

/-- Two changes, and a disk that refuses the permissions of the first one's temporary file. -/
def fillingSteps :=
  (loadedRig plainToml configPath
    (emptyDisk fun n => if n = 4 then some ⟨"disk full", none⟩ else none)).steps (disk plainToml)
    (ConfigCall.handle plainToml) [.recordProgram .onboard, .recordProgram .onboard]

theorem configuration_reloads_failing :
    fillingSteps.length = 2 ∧ ∀ step ∈ fillingSteps,
      step.after.owner.document.check = .ok () ∧
      ReloadsTo plainToml step.after.world.state.file step.after.owner.document ∧
      (∀ error, step.answer = .error error →
        step.after.owner.document = step.before.owner.document ∧
        step.after.world.state.file = step.before.world.state.file) :=
  ⟨rfl, configuration_reloads (fun _ => rfl) _ _ _ (.inr (.inl rfl))⟩

end Kori
