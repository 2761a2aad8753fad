import Kori.App.Profiles
import Kori.Daemon.Config.Runs

/-! # When a saved profile takes the place of another -/

open Faulty

namespace Kori

variable {Raw : Type} {toml : Toml Raw} {s : DiskSeen Raw}

/-! ## What a change does to the stored profiles -/

/-- The stored profiles after a change that was committed. -/
def ConfigCall.stored (profiles : List Profile) : ConfigCall → List Profile
  | saveProfile profile => replaceOrPush (fun p => p.name = profile.name) profile profiles
  | deleteProfile name => profiles.filter fun p => p.name ≠ name
  | _ => profiles

namespace Configuration

variable {self : Configuration}

theorem commitChange_stored {α : Type} (change : ConfigDocument → α × ConfigDocument) :
    wp (disk toml) (self.commitChange toml change) (fun r _ => r.2.document.profiles = match r.1 with
      | .ok _ => (change self.document).2.profiles
      | .error _ => self.document.profiles) s := by
  refine wp_mono (wp_and (commitChange_failed change) (commitChange_committed change)) ?_
  rintro ⟨error | value, after⟩ s' ⟨hfailed, hcommitted⟩
  · rw [(hfailed ⟨error, rfl⟩).1]
  · rw [(hcommitted value rfl).2.1]

end Configuration

namespace ConfigCall

open Kori.Configuration

variable {configuration : Configuration}

theorem wp_stored {α : Type} {p : DiskIo Raw (Except ConfigError α × Configuration)} {before after : List Profile}
    (h : wp (disk toml) p (fun r _ => r.2.document.profiles = match r.1 with
      | .ok _ => after
      | .error _ => before) s) :
    wp (disk toml) (answered <$> p) (fun r _ => r.2.document.profiles = match r.1 with
      | .ok _ => after
      | .error _ => before) s := by
  refine wp_step h ?_
  rintro ⟨error | value, configuration⟩ s' hprofiles
  · exact hprofiles
  · exact hprofiles

theorem handle_stored (call : ConfigCall) : wp (disk toml) (call.handle toml configuration)
    (fun r _ => r.2.document.profiles = match r.1 with
      | .ok _ => call.stored configuration.document.profiles
      | .error _ => configuration.document.profiles) s := by
  cases call with
  | saveProfile profile =>
    refine wp_stored ?_
    unfold Configuration.saveProfile
    split
    · rfl
    · split
      · rfl
      · exact commitChange_stored _
  | activate name =>
    refine wp_stored ?_
    unfold Configuration.activate
    split
    · rfl
    · exact commitChange_stored _
  | deleteProfile name =>
    refine wp_stored ?_
    unfold Configuration.deleteProfile
    split
    · rfl
    · split
      · rfl
      · refine wp_mono (commitChange_stored _) fun r s' h => ?_
        rw [h]
        dsimp only
        split
        · split <;> rfl
        · rfl
  | recordProgram program =>
    refine wp_stored ?_
    unfold Configuration.recordProgram
    split
    · rfl
    · exact commitChange_stored _
  | recordLighting command =>
    refine wp_stored ?_
    unfold Configuration.recordLighting
    split
    · rfl
    · exact commitChange_stored _
  | recordDisplay preset =>
    refine wp_stored ?_
    unfold Configuration.recordDisplay
    split
    · rfl
    · exact commitChange_stored _

end ConfigCall

/-! ## A history of saves, deletions and activations -/

/-- What happens to the configuration: the window saves its screens, or anyone makes another change. -/
inductive Deed where
  | save (screens : Screens) (panelEnabled : Bool)
  | change (call : ConfigCall)

namespace Deed

/-- The change it comes to, over the profiles that are published. -/
def call (published : List Profile) : Deed → ConfigCall
  | save screens panelEnabled => .saveProfile (screens.savedProfile published panelEnabled)
  | change call => call

/-- The window publishes the profiles of the last answer. -/
def handle (toml : Toml Raw) (deed : Deed) (configuration : Configuration) :
    DiskIo Raw (Except ConfigError Unit × Configuration) :=
  (deed.call configuration.profiles).handle toml configuration

end Deed

abbrev DeedStep (Raw : Type) :=
  Step Deed (Except ConfigError Unit) Configuration (Disk Raw) (DiskCommand Raw) DiskQuery (Option Raw) (DiskFault Raw)

def Configuration.Stores (name : String) (configuration : Configuration) : Prop :=
  name ∈ configuration.document.profiles.map Profile.name

/-- A change that was committed. -/
def DeedStep.Commits (step : DeedStep Raw) (call : ConfigCall) : Prop :=
  step.answer = .ok () ∧ step.call.call step.before.owner.profiles = call

def DeedStep.Saves (step : DeedStep Raw) (name : String) : Prop :=
  ∃ profile, DeedStep.Commits step (.saveProfile profile) ∧ profile.name = name

/-- A profile of the name was there at first, or was saved since, and none was deleted after that. -/
def Taken (name : String) (first : Configuration) (past : List (DeedStep Raw)) : Prop :=
  first.Stores name ∧ (∀ step ∈ past, ¬ DeedStep.Commits step (.deleteProfile name)) ∨
    ∃ earlier saving later, past = earlier ++ saving :: later ∧ DeedStep.Saves saving name ∧
      ∀ step ∈ later, ¬ DeedStep.Commits step (.deleteProfile name)

/-! ## What a history leaves -/

section

variable {rig : ConfigRig Raw} {name : String}

theorem Deed.step_stored (deed : Deed) :
    (rig.step (disk toml) (Deed.handle toml) deed).after.owner.document.profiles =
      match (rig.step (disk toml) (Deed.handle toml) deed).answer with
      | .ok _ => (deed.call rig.owner.profiles).stored rig.owner.document.profiles
      | .error _ => rig.owner.document.profiles :=
  Rig.step_of_wp
    (P := fun (answer : Except ConfigError Unit) (owner : Configuration) (_ : DiskSeen Raw) => owner.document.profiles = match answer with
      | .ok _ => (deed.call rig.owner.profiles).stored rig.owner.document.profiles
      | .error _ => rig.owner.document.profiles)
    (ConfigCall.handle_stored (deed.call rig.owner.profiles))

theorem ConfigCall.mem_stored (call : ConfigCall) (profiles : List Profile) :
    name ∈ (call.stored profiles).map Profile.name ↔
      (∃ profile, call = .saveProfile profile ∧ profile.name = name) ∨
        name ∈ profiles.map Profile.name ∧ call ≠ .deleteProfile name := by
  cases call with
  | saveProfile profile =>
    unfold stored
    rw [map_replaceOrPush]
    split
    · rename_i hmem
      constructor
      · exact fun h => .inr ⟨h, by simp⟩
      · rintro (⟨other, hother, rfl⟩ | ⟨h, -⟩)
        · cases hother
          exact hmem
        · exact h
    · rw [List.mem_append, List.mem_singleton]
      constructor
      · rintro (h | h)
        · exact .inr ⟨h, by simp⟩
        · exact .inl ⟨profile, rfl, h.symm⟩
      · rintro (⟨other, hother, rfl⟩ | ⟨h, -⟩)
        · cases hother
          exact .inr rfl
        · exact .inl h
  | deleteProfile deleted =>
    unfold stored
    simp only [List.mem_map, List.mem_filter, decide_eq_true_eq, reduceCtorEq, false_and, exists_false, false_or,
      ne_eq, deleteProfile.injEq]
    constructor
    · rintro ⟨profile, ⟨hmem, hkept⟩, rfl⟩
      exact ⟨⟨profile, hmem, rfl⟩, fun h => hkept h.symm⟩
    · rintro ⟨⟨profile, hmem, rfl⟩, hkept⟩
      exact ⟨profile, ⟨hmem, fun h => hkept h.symm⟩, rfl⟩
  | activate => simp [stored]
  | recordProgram => simp [stored]
  | recordLighting => simp [stored]
  | recordDisplay => simp [stored]

theorem Deed.step_stores (deed : Deed) :
    (rig.step (disk toml) (Deed.handle toml) deed).after.owner.Stores name ↔
      DeedStep.Saves (rig.step (disk toml) (Deed.handle toml) deed) name ∨
        rig.owner.Stores name ∧ ¬ DeedStep.Commits (rig.step (disk toml) (Deed.handle toml) deed) (.deleteProfile name) := by
  have hstored := @Deed.step_stored Raw toml rig deed
  unfold Configuration.Stores DeedStep.Saves DeedStep.Commits
  rw [hstored]
  cases (rig.step (disk toml) (Deed.handle toml) deed).answer with
  | error error => simp
  | ok =>
    dsimp only
    rw [ConfigCall.mem_stored]
    simp only [true_and, ne_eq]
    rfl

theorem Taken.snoc {first : Configuration} {past : List (DeedStep Raw)} {step : DeedStep Raw} :
    Taken name first (past ++ [step]) ↔
      DeedStep.Saves step name ∨ Taken name first past ∧ ¬ DeedStep.Commits step (.deleteProfile name) := by
  constructor
  · rintro (⟨hfirst, hkept⟩ | ⟨earlier, saving, later, hpast, hsaved, hkept⟩)
    · exact .inr ⟨.inl ⟨hfirst, fun other hmem => hkept other (List.mem_append_left _ hmem)⟩,
        hkept step (List.mem_append_right _ (List.mem_singleton_self _))⟩
    · rcases List.eq_nil_or_concat' later with rfl | ⟨between, last, rfl⟩
      · obtain ⟨-, hlast⟩ := List.append_inj' hpast rfl
        obtain rfl := List.singleton_inj.mp hlast
        exact .inl hsaved
      · rw [← List.cons_append, ← List.append_assoc] at hpast
        obtain ⟨hfront, hlast⟩ := List.append_inj' hpast rfl
        obtain rfl := List.singleton_inj.mp hlast
        exact .inr ⟨.inr ⟨earlier, saving, between, hfront, hsaved,
          fun other hmem => hkept other (List.mem_append_left _ hmem)⟩,
          hkept step (List.mem_append_right _ (List.mem_singleton_self _))⟩
  · rintro (hsaved | ⟨htaken, hlast⟩)
    · exact .inr ⟨past, step, [], rfl, hsaved, by simp⟩
    · have hkept : ∀ steps : List (DeedStep Raw), (∀ other ∈ steps, ¬ DeedStep.Commits other (.deleteProfile name)) →
          ∀ other ∈ steps ++ [step], ¬ DeedStep.Commits other (.deleteProfile name) := by
        intro steps h other hmem
        rcases List.mem_append.mp hmem with hmem | hmem
        · exact h other hmem
        · rw [List.mem_singleton.mp hmem]
          exact hlast
      rcases htaken with ⟨hfirst, hpast⟩ | ⟨earlier, saving, later, rfl, hsaved, hlater⟩
      · exact .inl ⟨hfirst, hkept past hpast⟩
      · exact .inr ⟨earlier, saving, later ++ [step], by simp, hsaved, hkept later hlater⟩

theorem stores_iff_taken (rig : ConfigRig Raw) (deeds : List Deed) :
    (rig.afterAll (disk toml) (Deed.handle toml) deeds).owner.Stores name ↔
      Taken name rig.owner (rig.steps (disk toml) (Deed.handle toml) deeds) := by
  refine Rig.steps_history (fun (past : List (DeedStep Raw)) (current : ConfigRig Raw) =>
    current.owner.Stores name ↔ Taken name rig.owner past) ?_ deeds ?_
  · intro past current deed h
    rw [Deed.step_stores, Taken.snoc, h]
  · simp [Taken]

end

/-! ## A save -/

/-- The profile is one the daemon takes, no stored one has its name, and so it is added to them. -/
structure Added (profile : Profile) (before after : Configuration) (answer : Except ConfigError Unit) : Prop where
  valid : validateProfile profile = .ok ()
  unsafeName : profile.name ≠ SAFE_PROFILE_NAME
  fresh : ∀ stored ∈ before.profiles, stored.name ≠ profile.name
  added : answer = .ok () → after.document.profiles = before.document.profiles ++ [profile]

theorem replaceOrPush_of_fresh {α : Type} {same : α → Bool} {item : α} {l : List α} (h : ∀ x ∈ l, same x = false) :
    replaceOrPush same item l = l ++ [item] := by
  induction l with
  | nil => rfl
  | cons x rest ih =>
    rw [List.forall_mem_cons] at h
    unfold replaceOrPush
    rw [if_neg (by simp [h.1]), ih h.2]
    rfl

theorem save_added {before : ConfigRig Raw} {screens : Screens} {panelEnabled : Bool}
    (hfree : ¬ before.owner.Stores (screens.savedProfile before.owner.profiles panelEnabled).name) :
    Added (screens.savedProfile before.owner.profiles panelEnabled) before.owner
      (before.step (disk toml) (Deed.handle toml) (.save screens panelEnabled)).after.owner
      (before.step (disk toml) (Deed.handle toml) (.save screens panelEnabled)).answer := by
  have hsafe := generatedName_ne_safe screens.cooling.mode before.owner.profiles.length
  have hfresh : ∀ stored ∈ before.owner.document.profiles,
      stored.name ≠ (screens.savedProfile before.owner.profiles panelEnabled).name :=
    fun stored hmem hname => hfree (List.mem_map.mpr ⟨stored, hmem, hname⟩)
  refine ⟨screens.savedProfile_valid .., hsafe, ?_, fun hok => ?_⟩
  · unfold Configuration.profiles
    rw [List.forall_mem_cons]
    exact ⟨hsafe.symm, hfresh⟩
  · have hstored := @Deed.step_stored Raw toml before (.save screens panelEnabled)
    rw [hok] at hstored
    dsimp only at hstored
    rw [hstored]
    unfold Deed.call ConfigCall.stored
    exact replaceOrPush_of_fresh fun stored hmem => decide_eq_false (hfresh stored hmem)

/-- In any history, a save adds its profile to the others just when the history has not taken its name. -/
theorem save_adds_iff_untaken (rig : ConfigRig Raw) (deeds : List Deed) (screens : Screens) (panelEnabled : Bool) :
    let before := rig.afterAll (disk toml) (Deed.handle toml) deeds
    let step := before.step (disk toml) (Deed.handle toml) (.save screens panelEnabled)
    let profile := screens.savedProfile before.owner.profiles panelEnabled
    (∀ shell, screens.ShownBy shell → shell.link.profiles = before.owner.profiles →
      shell.savedProfile panelEnabled = profile) ∧
    (Added profile before.owner step.after.owner step.answer ↔
      ¬ Taken profile.name rig.owner (rig.steps (disk toml) (Deed.handle toml) deeds)) := by
  intro before step profile
  refine ⟨fun shell hshown hpublished => ?_, ?_⟩
  · rw [hshown.savedProfile, hpublished]
  · rw [← stores_iff_taken]
    constructor
    · intro hadded hstored
      obtain ⟨stored, hmem, hname⟩ := List.mem_map.mp hstored
      exact hadded.fresh stored (List.mem_cons_of_mem _ hmem) hname
    · exact save_added

/-- The screens with both channels at a fixed duty. -/
def fixedScreens (fan : UInt8) : Screens :=
  { cooling := (CoolingEditor.new.setMode .fixed).setDuty .fan fan, lighting := ⟨[]⟩, lcd := .default
    held := ⟨_, .step (.setDuty .fan fan) (.step (.setMode .fixed) .new trivial) trivial⟩ }

/-- A daemon that starts with nothing stored, over a disk that never fails. -/
def freshDaemon : ConfigRig ConfigDocument :=
  { owner := { path := configPath, document := .default, state := .defaults }, world := emptyDisk fun _ => none }

/-- Two saves, then the first profile is deleted. -/
def secondOfTwo : ConfigRig ConfigDocument :=
  freshDaemon.afterAll (disk plainToml) (Deed.handle plainToml)
    [.save (fixedScreens 10) false, .save (fixedScreens 20) false, .change (.deleteProfile "Fixed duty 1")]

/-- The third save takes the place of the second. -/
theorem third_save_replaces_second :
    let step := secondOfTwo.step (disk plainToml) (Deed.handle plainToml) (.save (fixedScreens 30) false)
    secondOfTwo.owner.document.profiles = [(fixedScreens 20).savedProfile [.safe, .safe] false] ∧
      step.answer = .ok () ∧
      step.after.owner.document.profiles = [(fixedScreens 30).savedProfile secondOfTwo.owner.profiles false] ∧
      ¬ Added ((fixedScreens 30).savedProfile secondOfTwo.owner.profiles false) secondOfTwo.owner step.after.owner
        step.answer := by
  intro step
  have hbefore : secondOfTwo.owner.document.profiles = [(fixedScreens 20).savedProfile [.safe, .safe] false] := by
    decide +kernel
  refine ⟨hbefore, by decide +kernel, by decide +kernel, fun hadded => ?_⟩
  refine hadded.fresh ((fixedScreens 20).savedProfile [.safe, .safe] false) ?_ (by decide +kernel)
  unfold Configuration.profiles
  rw [hbefore]
  exact List.mem_cons_of_mem _ (List.mem_singleton_self _)

end Kori
