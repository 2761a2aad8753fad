import Kori.Daemon.Config.Runs

/-! # What a start finds of the configuration, on a disk that works -/

open Faulty

namespace Kori

variable {Raw : Type} {toml : Toml Raw} {s : DiskSeen Raw}

/-- What a program leaves to put back: nothing when it writes nothing. -/
def CoolingProgram.written (program : CoolingProgram) : Option CoolingProgram :=
  if program = .onboard then none else some program

theorem CoolingProgram.written_inj {program other : CoolingProgram} :
    program.written = other.written ↔ program = other := by
  unfold written
  by_cases h : program = .onboard
  · by_cases h' : other = .onboard
    · simp [h, h']
    · simp [h, h', eq_comm]
  · by_cases h' : other = .onboard
    · simp [h, h']
    · simp [h, h']

/-- What decides the program of a start is the same. -/
structure ConfigDocument.SameChoice (before after : ConfigDocument) : Prop where
  profiles : after.profiles = before.profiles
  active : after.activeProfile = before.activeProfile
  program : after.session.program = before.session.program

theorem ConfigDocument.SameChoice.refl {document : ConfigDocument} : document.SameChoice document := ⟨rfl, rfl, rfl⟩

theorem ConfigDocument.SameChoice.trans {a b c : ConfigDocument} (h : a.SameChoice b) (h' : b.SameChoice c) :
    a.SameChoice c :=
  ⟨h'.profiles.trans h.profiles, h'.active.trans h.active, h'.program.trans h.program⟩

namespace Configuration

variable {self : Configuration}

/-! ## What decides the program of a start -/

theorem programToRestore_program :
    self.programToRestore.map ProgramToRestore.program =
      (self.document.session.program.getD self.activeProfile.program).written := by
  unfold programToRestore CoolingProgram.written
  cases self.document.session.program with
  | none =>
    dsimp only [Option.getD]
    by_cases h : self.activeProfile.program = .onboard
    · rw [if_neg (not_not.mpr h), if_pos h]
      rfl
    · rw [if_pos h, if_neg h]
      rfl
  | some program =>
    dsimp only [Option.getD]
    by_cases h : program = .onboard
    · rw [if_neg (not_not.mpr h), if_pos h]
      rfl
    · rw [if_pos h, if_neg h]
      rfl

theorem find?_map_withoutLogo (name : String) (profiles : List Profile) :
    (profiles.map Profile.withoutLogo).find? (fun p => p.name = name) =
      (profiles.find? fun p => p.name = name).map Profile.withoutLogo := by
  rw [List.find?_map]
  rfl

theorem activeProfile_withoutLogo :
    (Configuration.activeProfile { self with document := self.document.withoutLogo }).program =
      self.activeProfile.program := by
  have hprofiles : Configuration.profiles { self with document := self.document.withoutLogo } =
      self.profiles.map Profile.withoutLogo := rfl
  have hactive : self.document.withoutLogo.activeProfile = self.document.activeProfile := rfl
  unfold activeProfile profile
  rw [hprofiles, hactive, find?_map_withoutLogo]
  cases self.profiles.find? fun p => p.name = self.document.activeProfile <;> rfl

theorem programToRestore_congr {other : Configuration}
    (h : other.document.withoutLogo = self.document.withoutLogo) :
    other.programToRestore.map ProgramToRestore.program =
      self.programToRestore.map ProgramToRestore.program := by
  have hactive : other.activeProfile.program = self.activeProfile.program := by
    rw [← @activeProfile_withoutLogo other, ← @activeProfile_withoutLogo self, h]
    rfl
  have hsession : other.document.session.program = self.document.session.program :=
    congrArg (fun document => document.session.program) h
  rw [programToRestore_program, programToRestore_program, hactive, hsession]

/-! ## A disk that works -/

/-- The file is the configuration, on a disk that fails nothing. -/
structure Persists (toml : Toml Raw) (config : Configuration) (store : DiskWorld Raw) : Prop where
  reliable : ∀ n, store.faults n = none
  sound : Sound toml config.document store.state.file
  fresh : store.state.file = none → config.document = .default

theorem preserve_reliable (path : ConfigPath) {raw : Raw} (h : s.state.file = some raw) :
    wp (disk toml).reliable (preserve path) (fun _ s' => s'.state.file = none) s := by
  unfold preserve
  rw [wp_bind, wp_look]
  refine ⟨nofun, ?_⟩
  have hlook : (disk toml).reliable.look .exists s.state = some raw := h
  rw [hlook]
  dsimp only
  rw [wp_bind, wp_clock]
  intro stamp
  rw [wp_bind, wp_issue]
  exact ⟨nofun, rfl⟩

theorem load_reliable (path : ConfigPath) : wp (disk toml).reliable (load toml path) (fun loaded s' =>
    Trusted loaded s'.state.file ∧ (s'.state.file = none → loaded.document = .default) ∧
    ∀ document, ReloadsTo toml s.state.file document → (s.state.file = none → document = .default) →
      loaded.document.withoutLogo = document.withoutLogo) s := by
  unfold load readDocument
  rw [wp_bind, wp_bind, wp_look]
  refine ⟨nofun, ?_⟩
  have hlook : (disk toml).reliable.look .read s.state = s.state.file := rfl
  rw [hlook]
  cases hfile : s.state.file with
  | none =>
    refine ⟨.inr (.inl rfl), fun _ => rfl, fun document _ hfresh => ?_⟩
    rw [hfresh rfl]
  | some raw =>
    dsimp only
    cases hread : toml.read raw with
    | ok found =>
      refine ⟨.inl rfl, fun hnone => ?_, fun document hreloads _ => ?_⟩
      · have hnone' : s.state.file = none := hnone
        rw [hfile] at hnone'
        cases hnone'
      · obtain ⟨reloaded, hreloaded, heq⟩ := hreloads raw rfl
        rw [hread] at hreloaded
        cases hreloaded
        exact heq
    | error error =>
      refine wp_step (preserve_reliable path hfile) fun preserved s' hgone => ?_
      refine ⟨.inr (.inr hgone), fun _ => rfl, fun document hreloads _ => ?_⟩
      obtain ⟨reloaded, hreloaded, -⟩ := hreloads raw rfl
      rw [hread] at hreloaded
      cases hreloaded

theorem load_persists (path : ConfigPath) {store : DiskWorld Raw} (hreliable : ∀ n, store.faults n = none) :
    Persists toml ((load toml path).run (disk toml) store).1 ((load toml path).run (disk toml) store).2 := by
  obtain ⟨⟨hsound, htrusted, hfresh, -⟩, hfaults⟩ := wp_reliable store hreliable
    (wp_and (wp_reliable_of_wp (load_spec path)) (load_reliable path))
  exact ⟨hfaults, hsound htrusted, hfresh⟩

theorem Persists.reloaded {store : DiskWorld Raw} (h : Persists toml self store) (path : ConfigPath) :
    ((load toml path).run (disk toml) store).1.programToRestore.map ProgramToRestore.program =
      self.programToRestore.map ProgramToRestore.program := by
  obtain ⟨⟨-, -, hreloaded⟩, -⟩ := wp_reliable store h.reliable (load_reliable path)
  exact programToRestore_congr (hreloaded self.document h.sound.reloads h.fresh)

/-! ## Changes on a disk that works -/

theorem writeAtomically_reliable (document : ConfigDocument) :
    wp (disk toml).reliable (writeAtomically toml document).run (fun r _ => r = .ok ()) s := by
  exact ⟨nofun, nofun, nofun, nofun, nofun, nofun, nofun, nofun, nofun, rfl⟩

theorem commitChange_succeeds {α : Type} (change : ConfigDocument → α × ConfigDocument) :
    wp (disk toml).reliable (self.commitChange toml change) (fun r _ => ∃ value, r.1 = .ok value) s := by
  unfold commitChange commit
  dsimp only
  rw [wp_bind, wp_bind]
  refine wp_mono (writeAtomically_reliable _) ?_
  rintro _ s' rfl
  exact ⟨_, rfl⟩

theorem commitChange_reliable {α : Type} (hinverse : toml.Inverse) {store : DiskWorld Raw}
    (h : Persists toml self store) {change : ConfigDocument → α × ConfigDocument}
    {r : (Except ConfigError α × Configuration) × DiskWorld Raw}
    (hr : (self.commitChange toml change).run (disk toml) store = r)
    (hchange : (change self.document).2.Loadable) :
    r.1.1 = .ok (change self.document).1 ∧
      r.1.2.document = { (change self.document).2 with schemaVersion := CONFIG_SCHEMA_VERSION } ∧
      Persists toml r.1.2 r.2 := by
  obtain ⟨⟨⟨value, hvalue⟩, hcommitted⟩, hfaults⟩ := wp_reliable store h.reliable
    (wp_and (commitChange_succeeds change) (wp_reliable_of_wp (commitChange_committed change)))
  rw [hr] at hvalue hcommitted hfaults
  obtain ⟨rfl, hdocument, hfile⟩ := hcommitted value hvalue
  refine ⟨hvalue, hdocument, hfaults, ⟨?_, ?_⟩, ?_⟩
  · rw [hdocument]
    exact hchange.current
  · rw [hfile]
    refine hinverse.reloads ?_
    rw [hdocument]
    exact hchange.current
  · intro hnone
    rw [hfile] at hnone
    cases hnone

section

variable {store : DiskWorld Raw} {r : (Except ConfigError Unit × Configuration) × DiskWorld Raw}

theorem recordProgram_reliable (hinverse : toml.Inverse) (h : Persists toml self store)
    {program : CoolingProgram} (hr : (self.recordProgram toml program).run (disk toml) store = r) :
    r.1.1 = .ok () ∧ Persists toml r.1.2 r.2 ∧ r.1.2.document.profiles = self.document.profiles ∧
      r.1.2.document.activeProfile = self.document.activeProfile ∧
      r.1.2.document.session.program = some program := by
  unfold recordProgram at hr
  split at hr
  · rename_i hheld
    subst hr
    exact ⟨rfl, h, rfl, rfl, hheld⟩
  · obtain ⟨hok, hdocument, hpersists⟩ := commitChange_reliable hinverse h hr (h.sound.loadable.session _)
    rw [hdocument]
    exact ⟨hok, hpersists, rfl, rfl, rfl⟩

theorem recordLighting_reliable (hinverse : toml.Inverse) (h : Persists toml self store)
    {command : LightingCommand} (hr : (self.recordLighting toml command).run (disk toml) store = r) :
    Persists toml r.1.2 r.2 ∧ self.document.SameChoice r.1.2.document := by
  unfold recordLighting at hr
  split at hr
  · subst hr
    exact ⟨h, .refl⟩
  · obtain ⟨-, hdocument, hpersists⟩ := commitChange_reliable hinverse h hr (h.sound.loadable.session _)
    rw [hdocument]
    exact ⟨hpersists, rfl, rfl, rfl⟩

theorem recordDisplay_reliable (hinverse : toml.Inverse) (h : Persists toml self store)
    {preset : DisplayPreset} (hr : (self.recordDisplay toml preset).run (disk toml) store = r) :
    Persists toml r.1.2 r.2 ∧ self.document.SameChoice r.1.2.document := by
  unfold recordDisplay at hr
  split at hr
  · subst hr
    exact ⟨h, .refl⟩
  · obtain ⟨-, hdocument, hpersists⟩ := commitChange_reliable hinverse h hr (h.sound.loadable.session _)
    rw [hdocument]
    exact ⟨hpersists, rfl, rfl, rfl⟩

theorem activate_reliable (hinverse : toml.Inverse) (h : Persists toml self store) {name : String}
    {profile : Profile} (hprofile : self.profile name = some profile)
    {r : (Except ConfigError Profile × Configuration) × DiskWorld Raw}
    (hr : (self.activate toml name).run (disk toml) store = r) :
    r.1.1 = .ok profile ∧ Persists toml r.1.2 r.2 ∧ r.1.2.document.profiles = self.document.profiles ∧
      r.1.2.document.activeProfile = name ∧
      r.1.2.document.session.program = self.document.session.program := by
  have hname : profile.name = name := by simpa using List.find?_some hprofile
  unfold activate at hr
  rw [hprofile] at hr
  obtain ⟨hok, hdocument, hpersists⟩ := commitChange_reliable hinverse h hr
    (h.sound.loadable.select (profile_mem hprofile))
  rw [hdocument]
  exact ⟨hok, hpersists, rfl, hname, rfl⟩

end

/-! ## Profiles other than the one a change names -/

theorem find?_replaceOrPush {α : Type} {same q : α → Bool} {item : α} (hitem : q item = false)
    (hsame : ∀ x, same x = true → q x = false) (l : List α) :
    (replaceOrPush same item l).find? q = l.find? q := by
  induction l with
  | nil => simp [replaceOrPush, hitem]
  | cons x rest ih =>
    unfold replaceOrPush
    split
    · rename_i hx
      rw [List.find?_cons_of_neg (by simp [hitem]), List.find?_cons_of_neg (by simp [hsame x hx])]
    · rw [List.find?_cons, List.find?_cons, ih]

theorem profile_congr {other : Configuration} {name : String}
    (h : other.document.profiles.find? (fun p => p.name = name) =
      self.document.profiles.find? fun p => p.name = name) : other.profile name = self.profile name := by
  unfold profile profiles
  rw [List.find?_cons, List.find?_cons, h]

theorem find?_filter_name {name other : String} (h : other ≠ name) (profiles : List Profile) :
    (profiles.filter fun p => p.name ≠ name).find? (fun p => p.name = other) =
      profiles.find? fun p => p.name = other := by
  rw [List.find?_filter]
  congr 1
  funext p
  by_cases hp : p.name = other
  · simp [hp, h]
  · simp [hp]

theorem saveProfile_reliable (hinverse : toml.Inverse) {store : DiskWorld Raw}
    (h : Persists toml self store) {profile : Profile}
    {r : (Except ConfigError Unit × Configuration) × DiskWorld Raw}
    (hr : (self.saveProfile toml profile).run (disk toml) store = r) :
    Persists toml r.1.2 r.2 ∧ r.1.2.document.activeProfile = self.document.activeProfile ∧
      r.1.2.document.session.program = self.document.session.program ∧
      ∀ name, (r.1.1 = .ok () → name ≠ profile.name) → r.1.2.profile name = self.profile name := by
  unfold saveProfile at hr
  cases hvalid : validateProfile profile with
  | error source =>
    rw [hvalid] at hr
    subst hr
    exact ⟨h, rfl, rfl, fun _ _ => rfl⟩
  | ok =>
    rw [hvalid] at hr
    dsimp only at hr
    split at hr
    · subst hr
      exact ⟨h, rfl, rfl, fun _ _ => rfl⟩
    · rename_i hsafe
      obtain ⟨hok, hdocument, hpersists⟩ := commitChange_reliable hinverse h hr
        (h.sound.loadable.save hvalid hsafe)
      refine ⟨hpersists, ?_, ?_, fun name hname => profile_congr ?_⟩
      · rw [hdocument]
      · rw [hdocument]
      · rw [hdocument]
        have hne := hname hok
        refine find?_replaceOrPush ?_ ?_ _
        · simpa using hne.symm
        · intro p hp
          rw [decide_eq_true_eq] at hp
          simpa [hp] using hne.symm

theorem deleteProfile_reliable (hinverse : toml.Inverse) {store : DiskWorld Raw}
    (h : Persists toml self store) {name : String}
    {r : (Except ConfigError (Option String) × Configuration) × DiskWorld Raw}
    (hr : (self.deleteProfile toml name).run (disk toml) store = r) :
    Persists toml r.1.2 r.2 ∧ r.1.2.document.session.program = self.document.session.program ∧
      ((∀ value, r.1.1 = .ok value → self.document.activeProfile ≠ name) →
        r.1.2.document.activeProfile = self.document.activeProfile) ∧
      ∀ other, (∀ value, r.1.1 = .ok value → other ≠ name) → r.1.2.profile other = self.profile other := by
  unfold deleteProfile at hr
  split at hr
  · subst hr
    exact ⟨h, rfl, fun _ => rfl, fun _ _ => rfl⟩
  split at hr
  · subst hr
    exact ⟨h, rfl, fun _ => rfl, fun _ _ => rfl⟩
  have hchange := commitChange_reliable hinverse h hr
  dsimp only at hchange
  split at hchange
  · rename_i hactive
    obtain ⟨hok, hdocument, hpersists⟩ := hchange (h.sound.loadable.delete name (.inl rfl))
    refine ⟨hpersists, ?_, fun hkept => (hkept _ hok hactive).elim, fun other hother => ?_⟩
    · rw [hdocument]
    · refine profile_congr ?_
      rw [hdocument]
      exact find?_filter_name (hother _ hok) _
  · rename_i hactive
    obtain ⟨hok, hdocument, hpersists⟩ := hchange (h.sound.loadable.delete name (.inr ⟨rfl, hactive⟩))
    refine ⟨hpersists, ?_, fun _ => ?_, fun other hother => ?_⟩
    · rw [hdocument]
    · rw [hdocument]
    · refine profile_congr ?_
      rw [hdocument]
      exact find?_filter_name (hother _ hok) _

end Configuration

end Kori
