import Kori.Daemon.Config.Restore
import Kori.Daemon.State.Refusals

/-! # A restart puts back what the operator chose last -/

open Faulty

namespace Kori

variable {Raw α : Type} {toml : Toml Raw} {around : Surroundings} {machine : Machine Raw}

theorem Daemon.admitsProgram_congr {daemon other : Daemon} (hcapabilities : other.capabilities =
    daemon.capabilities) (hconflicts : other.conflicts = daemon.conflicts) (program : CoolingProgram) :
    other.admitsProgram program = daemon.admitsProgram program := by
  unfold admitsProgram supportedDevice requireWriteAccess readOnly hasWritableCapability
  rw [hcapabilities, hconflicts]

namespace Machine

/-- The file is the configuration in memory, on a disk that fails nothing. -/
def Persists (toml : Toml Raw) (machine : Machine Raw) : Prop :=
  machine.daemon.config.Persists toml machine.store

/-- The gates admit a program, and the device confirms its write. -/
def Confirms (machine : Machine Raw) (around : Surroundings) (program : CoolingProgram) : Prop :=
  machine.daemon.admitsProgram program = .ok () ∧
  (applyCooling around program machine).1.hardware = .confirmed

/-! ## What leaves the program alone -/

/-- Neither the cooler nor what a start puts on it changed. -/
structure Aside (toml : Toml Raw) (before after : Machine Raw) : Prop where
  cooler : after.cooler = before.cooler
  cooling : after.daemon.cooling = before.daemon.cooling
  capabilities : after.daemon.capabilities = before.daemon.capabilities
  conflicts : after.daemon.conflicts = before.daemon.conflicts
  config : before.Persists toml → after.Persists toml ∧
    before.daemon.config.document.SameChoice after.daemon.config.document

instance : IsPreorder (Machine Raw) (Aside toml) where
  refl _ := ⟨rfl, rfl, rfl, rfl, fun h => ⟨h, .refl⟩⟩
  trans _ _ _ h h' := ⟨h'.cooler.trans h.cooler, h'.cooling.trans h.cooling,
    h'.capabilities.trans h.capabilities, h'.conflicts.trans h.conflicts, fun hpersists =>
      have hfirst := h.config hpersists
      have hsecond := h'.config hfirst.1
      ⟨hsecond.1, hfirst.2.trans hsecond.2⟩⟩

theorem aside_note (event : EventKind) : Keeps (Aside toml) (note event) :=
  fun _ => ⟨rfl, rfl, rfl, rfl, fun h => ⟨h, .refl⟩⟩

theorem aside_illuminate (hinverse : toml.Inverse) (command : LightingCommand) :
    Keeps (Aside toml) (illuminate toml command) :=
  keeps_illuminate aside_note command (fun _ => ⟨rfl, rfl, rfl, rfl, fun h => ⟨h, .refl⟩⟩)
    fun _ => ⟨rfl, rfl, rfl, rfl, fun h => Configuration.recordLighting_reliable hinverse h rfl⟩

theorem aside_show (hinverse : toml.Inverse) (preset : DisplayPreset) :
    Keeps (Aside toml) («show» toml around preset) :=
  keeps_show aside_note preset (fun _ => ⟨rfl, rfl, rfl, rfl, fun h => ⟨h, .refl⟩⟩)
    fun _ => ⟨rfl, rfl, rfl, rfl, fun h => Configuration.recordDisplay_reliable hinverse h rfl⟩

theorem Aside.confirms {before after : Machine Raw} (h : before.Aside toml after)
    (program : CoolingProgram) : after.Confirms around program ↔ before.Confirms around program := by
  unfold Confirms applyCooling
  rw [cool_apply, cool_apply, h.cooler, h.cooling, Daemon.admitsProgram_congr h.capabilities h.conflicts]

/-! ## A program that is written -/

/-- The program a start puts back after a write, when the write is confirmed and when it is not. -/
structure Wrote (toml : Toml Raw) (before after : Machine Raw) (program : CoolingProgram)
    (confirmed : Prop) : Prop where
  persists : after.Persists toml
  profiles : after.daemon.config.document.profiles = before.daemon.config.document.profiles
  active : after.daemon.config.document.activeProfile = before.daemon.config.document.activeProfile
  held : confirmed → after.daemon.config.document.session.program = some program
  kept : ¬ confirmed → after.daemon.config.document.session.program =
    before.daemon.config.document.session.program

theorem Wrote.untouched {before after : Machine Raw} (h : before.Persists toml)
    {program : CoolingProgram} {confirmed : Prop} (hnot : ¬ confirmed)
    (hconfig : after.daemon.config = before.daemon.config) (hstore : after.store = before.store) :
    before.Wrote toml after program confirmed := by
  refine ⟨?_, ?_, ?_, fun hconfirmed => (hnot hconfirmed).elim, fun _ => ?_⟩
  · unfold Persists
    rw [hconfig, hstore]
    exact h
  · rw [hconfig]
  · rw [hconfig]
  · rw [hconfig]

theorem remember_program (hinverse : toml.Inverse) {before : Machine Raw} (h : before.Persists toml)
    (hconfig : machine.daemon.config = before.daemon.config) (hstore : machine.store = before.store)
    (program : CoolingProgram) {confirmed : Prop} (hconfirmed : confirmed) :
    before.Wrote toml (remember toml (fun config => config.recordProgram toml program) machine).2
      program confirmed := by
  have hheld : machine.Persists toml := by
    unfold Persists
    rw [hconfig, hstore]
    exact h
  obtain ⟨hok, hpersists, hprofiles, hactive, hprogram⟩ :=
    Configuration.recordProgram_reliable hinverse hheld rfl
  have hanswer : (configure toml (fun config => config.recordProgram toml program) machine).1 = .ok () := hok
  unfold remember
  rw [bind_apply, hanswer]
  exact ⟨hpersists, hprofiles.trans (by rw [hconfig]), hactive.trans (by rw [hconfig]), fun _ => hprogram, fun hnot => (hnot hconfirmed).elim⟩

theorem not_confirms_onboard : ¬ machine.Confirms around .onboard := by
  rintro ⟨-, hconfirmed⟩
  have honboard : (applyCooling around .onboard machine).1 = .untouched .onboard := rfl
  rw [honboard] at hconfirmed
  cases hconfirmed

theorem execute_answer (program : CoolingProgram) : (execute toml around program machine).1 =
    match machine.daemon.admitsProgram program with
    | .error error => .error error
    | .ok () => .ok (applyCooling around program machine).1 := by
  unfold execute
  rw [bind_apply, get_apply]
  dsimp only
  cases machine.daemon.admitsProgram program with
  | error error => rfl
  | ok =>
    dsimp only
    rw [bind_apply]
    split
    · rfl
    · rw [bind_apply]
      split <;> rfl

theorem execute_confirms (program : CoolingProgram) : (∃ outcome,
    (execute toml around program machine).1 = .ok outcome ∧ outcome.hardware = .confirmed) ↔
      machine.Confirms around program := by
  rw [execute_answer, Confirms]
  cases machine.daemon.admitsProgram program with
  | error error => simp
  | ok => simp

theorem execute_wrote (hinverse : toml.Inverse) (h : machine.Persists toml) (program : CoolingProgram) :
    machine.Wrote toml (execute toml around program machine).2 program
      (machine.Confirms around program) := by
  by_cases hconfirms : machine.Confirms around program
  · have hprogram : program ≠ .onboard := by
      rintro rfl
      exact not_confirms_onboard hconfirms
    have hconfirmed : (applyCooling around program machine).1.hardware = .confirmed := hconfirms.2
    unfold execute
    rw [bind_apply, get_apply]
    dsimp only
    rw [hconfirms.1]
    dsimp only
    rw [bind_apply, if_neg hprogram, bind_apply, if_pos hconfirmed, bind_apply]
    refine remember_program hinverse h ?_ ?_ program hconfirms
    · rfl
    · rfl
  · unfold execute
    rw [bind_apply, get_apply]
    dsimp only
    cases hgate : machine.daemon.admitsProgram program with
    | error error => exact .untouched h hconfirms rfl rfl
    | ok =>
      dsimp only
      rw [bind_apply]
      split
      · exact .untouched h hconfirms rfl rfl
      · rw [bind_apply]
        split
        · rename_i hconfirmed
          exact (hconfirms ⟨hgate, hconfirmed⟩).elim
        · exact .untouched h hconfirms rfl rfl

theorem Wrote.note {before after : Machine Raw} {program : CoolingProgram} {confirmed : Prop}
    (h : before.Wrote toml after program confirmed) (event : EventKind) :
    before.Wrote toml (Machine.note event after).2 program confirmed :=
  ⟨h.persists, h.profiles, h.active, h.held, h.kept⟩

theorem applyProgram_wrote (hinverse : toml.Inverse) (h : machine.Persists toml)
    (held : ProgramToRestore) : machine.Wrote toml (applyProgram toml around held machine).2 held.program
      (machine.Confirms around held.program) := by
  obtain ⟨program, profile⟩ := held
  have hwrote := @execute_wrote _ _ around _ hinverse h program
  unfold applyProgram
  rw [bind_apply]
  dsimp only
  cases (execute toml around program machine).1 with
  | ok outcome =>
    cases profile with
    | none => exact hwrote
    | some name => exact hwrote.note _
  | error error =>
    cases profile with
    | none => exact hwrote.note _
    | some name => exact hwrote.note _

/-! ## An activation -/

/-- What an activation leaves: the profile selected, and its program recorded when the device
confirmed it. -/
structure Selected (toml : Toml Raw) (before after : Machine Raw) (profile : Profile)
    (confirmed : Prop) : Prop where
  persists : after.Persists toml
  profiles : after.daemon.config.document.profiles = before.daemon.config.document.profiles
  active : after.daemon.config.document.activeProfile = profile.name
  held : confirmed → after.daemon.config.document.session.program = some profile.program
  kept : ¬ confirmed → after.daemon.config.document.session.program =
    before.daemon.config.document.session.program

theorem activateProfile_spec (hinverse : toml.Inverse) (h : machine.Persists toml) (name : String) :
    let r := activateProfile toml around name machine
    (∃ error, r = (.error error, machine)) ∨
    ∃ profile outcome, machine.daemon.config.profile name = some profile ∧ r.1 = .activated outcome ∧
      outcome.name = name ∧ machine.Selected toml r.2 profile (machine.Confirms around profile.program) := by
  unfold activateProfile
  rw [bind_apply, get_apply]
  dsimp only
  cases hprofile : machine.daemon.config.profile name with
  | none => exact .inl ⟨_, rfl⟩
  | some profile =>
    dsimp only
    cases hgate : machine.daemon.admitsActivation profile with
    | error error => exact .inl ⟨_, rfl⟩
    | ok =>
      dsimp only
      have hname : profile.name = name := by simpa using List.find?_some hprofile
      obtain ⟨hok, hpersists, hprofiles, hactive, hprogram⟩ :=
        Configuration.activate_reliable hinverse h hprofile rfl
      have hanswer : (configure toml (fun config => config.activate toml name) machine).1 = .ok profile := hok
      have haside : (configure toml (fun config => config.activate toml name) machine).2.Aside toml
          (applyDisplay toml around profile.display (applyLighting toml profile.lighting
            (configure toml (fun config => config.activate toml name) machine).2).2).2 :=
        trans_of (Aside toml) (keeps_applyLighting aside_note (aside_illuminate hinverse) _ _)
          (keeps_applyDisplay aside_note (aside_show hinverse) _ _)
      obtain ⟨hpersists', hsame⟩ := haside.config hpersists
      have hwrote := @applyProgram_wrote _ _ around _ hinverse hpersists'
        { program := profile.program, profile := some profile.name }
      have hconfirms := @Aside.confirms _ _ around _ _ haside profile.program
      rw [bind_apply, hanswer]
      refine .inr ⟨profile, _, rfl, rfl, hname, hwrote.persists, ?_, ?_, ?_, ?_⟩
      · exact hwrote.profiles.trans (hsame.profiles.trans hprofiles)
      · exact hwrote.active.trans (hsame.active.trans (hactive.trans hname.symm))
      · exact fun hconfirmed => hwrote.held (hconfirms.mpr hconfirmed)
      · intro hnot
        refine (hwrote.kept (fun hconfirmed => hnot (hconfirms.mp hconfirmed))).trans ?_
        exact hsame.program.trans hprogram

/-! ## Any request -/

/-- The operator chose a program: a profile was activated, or a program confirmed. -/
def Chooses (request : Request) (response : Response) : Prop :=
  (∃ outcome, response = .activated outcome) ∨
  ∃ program outcome, request = .applyProgram program ∧ response = .applied outcome ∧
    outcome.hardware = .confirmed

/-- A profile was stored or deleted under a name. -/
def Replaces (name : String) (response : Response) : Prop :=
  response = .saved name ∨ ∃ activatedInstead, response = .deleted name activatedInstead

/-- What decides the program of a start stays, unless a program was chosen, or the active profile
replaced. -/
structure Stays (toml : Toml Raw) (before after : Machine Raw) (chosen replaced : Prop) : Prop where
  persists : after.Persists toml
  program : ¬ chosen → after.daemon.config.document.session.program =
    before.daemon.config.document.session.program
  active : ¬ chosen → ¬ replaced → after.daemon.config.document.activeProfile =
    before.daemon.config.document.activeProfile
  profile : ¬ chosen → ¬ replaced → after.daemon.config.profile before.daemon.config.document.activeProfile =
    before.daemon.config.profile before.daemon.config.document.activeProfile

theorem Stays.note {before after : Machine Raw} {chosen replaced : Prop}
    (h : before.Stays toml after chosen replaced) (event : EventKind) :
    before.Stays toml (Machine.note event after).2 chosen replaced :=
  ⟨h.persists, h.program, h.active, h.profile⟩

theorem Stays.refl (h : machine.Persists toml) {chosen replaced : Prop} :
    machine.Stays toml machine chosen replaced :=
  ⟨h, fun _ => rfl, fun _ _ => rfl, fun _ _ => rfl⟩

theorem Stays.of_aside (h : machine.Persists toml) {after : Machine Raw}
    (haside : machine.Aside toml after) {chosen replaced : Prop} :
    machine.Stays toml after chosen replaced := by
  obtain ⟨hpersists, hsame⟩ := haside.config h
  refine ⟨hpersists, fun _ => hsame.program, fun _ _ => hsame.active, fun _ _ => ?_⟩
  exact Configuration.profile_congr (by rw [hsame.profiles])

theorem saveProfile_stays (hinverse : toml.Inverse) (h : machine.Persists toml) (profile : Profile) :
    machine.Stays toml (saveProfile toml profile machine).2 False
      (Replaces machine.daemon.config.document.activeProfile (saveProfile toml profile machine).1) := by
  obtain ⟨hpersists, hactive, hprogram, hprofile⟩ :=
    @Configuration.saveProfile_reliable _ toml machine.daemon.config hinverse machine.store h profile _ rfl
  unfold saveProfile
  rw [bind_apply]
  cases hanswer : (configure toml (fun config => config.saveProfile toml profile) machine).1 with
  | ok =>
    refine ⟨hpersists, fun _ => hprogram, fun _ _ => hactive, fun _ hkept => hprofile _ fun _ hname => ?_⟩
    exact hkept (.inl (congrArg Response.saved hname.symm))
  | error error =>
    refine ⟨hpersists, fun _ => hprogram, fun _ _ => hactive, fun _ _ => hprofile _ fun hok => ?_⟩
    cases hanswer.symm.trans hok

theorem deleteProfile_stays (hinverse : toml.Inverse) (h : machine.Persists toml) (name : String) :
    machine.Stays toml (deleteProfile toml name machine).2 False
      (Replaces machine.daemon.config.document.activeProfile (deleteProfile toml name machine).1) := by
  obtain ⟨hpersists, hprogram, hactive, hprofile⟩ :=
    @Configuration.deleteProfile_reliable _ toml machine.daemon.config hinverse machine.store h name _ rfl
  unfold deleteProfile
  rw [bind_apply]
  cases hanswer : (configure toml (fun config => config.deleteProfile toml name) machine).1 with
  | ok instead =>
    have hname : ¬ Replaces machine.daemon.config.document.activeProfile (.deleted name instead) →
        machine.daemon.config.document.activeProfile ≠ name := by
      rintro hkept rfl
      exact hkept (.inr ⟨instead, rfl⟩)
    exact ⟨hpersists, fun _ => hprogram, fun _ hkept => hactive fun _ _ => hname hkept,
      fun _ hkept => hprofile _ fun _ _ => hname hkept⟩
  | error error =>
    have hfailed : ∀ value, (configure toml (fun config => config.deleteProfile toml name) machine).1 ≠
        .ok value := by
      intro value hok
      cases hanswer.symm.trans hok
    exact ⟨hpersists, fun _ => hprogram, fun _ _ => hactive fun value hok => (hfailed value hok).elim,
      fun _ _ => hprofile _ fun value hok => (hfailed value hok).elim⟩

theorem dispatch_stays (hinverse : toml.Inverse) (h : machine.Persists toml) (request : Request) :
    machine.Stays toml (dispatch toml around request machine).2
      (Chooses request (dispatch toml around request machine).1)
      (Replaces machine.daemon.config.document.activeProfile (dispatch toml around request machine).1) := by
  cases request with
  | hello protocolVersion =>
    unfold dispatch
    dsimp only
    split
    · exact .refl h
    · exact .refl h
  | status => exact .refl h
  | capabilities => exact .refl h
  | profiles => exact .refl h
  | telemetry => exact .refl h
  | diagnostics => exact .refl h
  | saveProfile profile =>
    obtain ⟨hpersists, hprogram, hactive, hprofile⟩ := saveProfile_stays hinverse h profile
    exact ⟨hpersists, fun _ => hprogram id, fun _ => hactive id, fun _ => hprofile id⟩
  | deleteProfile name =>
    obtain ⟨hpersists, hprogram, hactive, hprofile⟩ := deleteProfile_stays hinverse h name
    exact ⟨hpersists, fun _ => hprogram id, fun _ => hactive id, fun _ => hprofile id⟩
  | activateProfile name =>
    unfold dispatch
    dsimp only
    rcases @activateProfile_spec _ _ around _ hinverse h name with
      ⟨error, herror⟩ | ⟨profile, outcome, -, houtcome, -, hselected⟩
    · rw [herror]
      exact .refl h
    · have hchosen : Chooses (.activateProfile name) (activateProfile toml around name machine).1 :=
        .inl ⟨outcome, houtcome⟩
      exact ⟨hselected.persists, fun hnot => (hnot hchosen).elim, fun hnot => (hnot hchosen).elim,
        fun hnot => (hnot hchosen).elim⟩
  | applyProgram program =>
    have hwrote := @execute_wrote _ _ around _ hinverse h program
    have hconfirms := @execute_confirms _ toml around machine program
    unfold dispatch
    dsimp only
    rw [bind_apply]
    cases hanswer : (execute toml around program machine).1 with
    | error error =>
      have hnot : ¬ machine.Confirms around program := by
        rw [← hconfirms, hanswer]
        rintro ⟨outcome, houtcome, -⟩
        cases houtcome
      exact ⟨hwrote.persists, fun _ => hwrote.kept hnot, fun _ _ => hwrote.active,
        fun _ _ => Configuration.profile_congr (congrArg _ hwrote.profiles)⟩
    | ok outcome =>
      have hnot : ¬ Chooses (.applyProgram program) (.applied outcome) →
          ¬ machine.Confirms around program := by
        rw [← hconfirms, hanswer]
        rintro hchosen ⟨outcome', houtcome, hconfirmed⟩
        cases houtcome
        exact hchosen (.inr ⟨program, outcome, rfl, rfl, hconfirmed⟩)
      exact ⟨hwrote.persists, fun hchosen => hwrote.kept (hnot hchosen), fun _ _ => hwrote.active,
        fun _ _ => Configuration.profile_congr (congrArg _ hwrote.profiles)⟩
  | applyLighting command =>
    have haside := aside_illuminate hinverse command machine
    unfold dispatch
    dsimp only
    rw [bind_apply]
    cases (illuminate toml command machine).1 <;> exact .of_aside h haside
  | applyDisplay preset =>
    have haside := @aside_show _ toml around hinverse preset machine
    unfold dispatch
    dsimp only
    rw [bind_apply]
    cases («show» toml around preset machine).1 <;> exact .of_aside h haside

theorem handle_apply (request : Request) :
    handle toml around request machine = ((dispatch toml around request machine).1,
      match (dispatch toml around request machine).1 with
      | .error error => (note (.requestRejected error) (dispatch toml around request machine).2).2
      | _ => (dispatch toml around request machine).2) := by
  unfold handle
  rw [bind_apply]
  cases (dispatch toml around request machine).1 <;> rfl

theorem handle_stays (hinverse : toml.Inverse) (h : machine.Persists toml) (request : Request) :
    machine.Stays toml (handle toml around request machine).2
      (Chooses request (handle toml around request machine).1)
      (Replaces machine.daemon.config.document.activeProfile (handle toml around request machine).1) := by
  have hdispatch := @dispatch_stays _ _ around _ hinverse h request
  rw [handle_apply]
  dsimp only
  split
  · exact hdispatch.note _
  · exact hdispatch

/-! ## A whole run -/

/-- The configuration and its file are the same. -/
def SameConfig (before after : Machine Raw) : Prop :=
  after.daemon.config = before.daemon.config ∧ after.store = before.store

instance : IsPreorder (Machine Raw) SameConfig where
  refl _ := ⟨rfl, rfl⟩
  trans _ _ _ h h' := ⟨h'.1.trans h.1, h'.2.trans h.2⟩

theorem SameConfig.stays {before after : Machine Raw} (h : before.SameConfig after)
    (hpersists : before.Persists toml) {chosen replaced : Prop} :
    before.Stays toml after chosen replaced := by
  obtain ⟨hconfig, hstore⟩ := h
  refine ⟨?_, ?_, ?_, ?_⟩
  · unfold Persists
    rw [hconfig, hstore]
    exact hpersists
  · rw [hconfig]
    exact fun _ => rfl
  · rw [hconfig]
    exact fun _ _ => rfl
  · rw [hconfig]
    exact fun _ _ => rfl

theorem sameConfig_tick : Keeps SameConfig (@tick Raw around) := by
  have hnote : ∀ event, Keeps (@SameConfig Raw) (note event) := fun _ _ => ⟨rfl, rfl⟩
  have hcool : ∀ {α : Type} (f : CoolingExecutor → Hw (α × CoolingExecutor)),
      Keeps (@SameConfig Raw) (cool f) := fun _ _ => ⟨rfl, rfl⟩
  have hdraw : ∀ {α : Type} (f : DisplayExecutor → LcdIo (α × DisplayExecutor)),
      Keeps (@SameConfig Raw) (draw f) := fun _ _ => ⟨rfl, rfl⟩
  have hhealth := @keeps_recordCollectorHealth Raw SameConfig _ hnote (fun _ _ => ⟨rfl, rfl⟩) around.snapshot
  have hreconcile : Keeps (@SameConfig Raw) (reconcile around.snapshot) := by
    unfold reconcile
    split
    · exact .bind (hcool _) fun _ => .bind (hdraw _) fun _ => hhealth
    · exact .bind (hcool _) fun _ => .bind (keeps_noteAll hnote _) fun _ => hhealth
  unfold tick
  refine .bind hreconcile fun _ => ?_
  split
  · exact .pure _
  · refine .bind .get fun machine => ?_
    split
    · exact .pure _
    · refine .bind (hdraw _) fun outcome => ?_
      split
      · exact .pure _
      · split
        · exact hnote _
        · exact .pure _

/-- The turn chose a program. -/
def Chosen (t : Faulty.Turn (Machine Raw) Call Reply) : Prop :=
  ∃ around request response, t.call = .request around request ∧ t.answer = .response response ∧
    Chooses request response

/-- The turn stored or deleted a profile under a name. -/
def Replaced (name : String) (t : Faulty.Turn (Machine Raw) Call Reply) : Prop :=
  ∃ response, t.answer = .response response ∧ Replaces name response

theorem turn_stays (hinverse : toml.Inverse) (h : machine.Persists toml) (call : Call) :
    let t := turn (serve toml) machine call
    machine.Stays toml t.after (Chosen t) (Replaced machine.daemon.config.document.activeProfile t) := by
  cases call with
  | request around request =>
    obtain ⟨hpersists, hprogram, hactive, hprofile⟩ := @handle_stays _ _ around _ hinverse h request
    have hchosen : ¬ Chosen (turn (serve toml) machine (.request around request)) →
        ¬ Chooses request (handle toml around request machine).1 :=
      fun hnot hchooses => hnot ⟨around, request, _, rfl, rfl, hchooses⟩
    have hreplaced : ¬ Replaced machine.daemon.config.document.activeProfile
        (turn (serve toml) machine (.request around request)) →
        ¬ Replaces machine.daemon.config.document.activeProfile
          (handle toml around request machine).1 :=
      fun hnot hreplaces => hnot ⟨_, rfl, hreplaces⟩
    exact ⟨hpersists, fun hnot => hprogram (hchosen hnot),
      fun hnot hkept => hactive (hchosen hnot) (hreplaced hkept),
      fun hnot hkept => hprofile (hchosen hnot) (hreplaced hkept)⟩
  | tick around => exact (sameConfig_tick machine).stays h
  | tickAnimation now =>
    have hsame : SameConfig machine (turn (serve toml) machine (.tickAnimation now)).after := ⟨rfl, rfl⟩
    exact hsame.stays h
  | dropDisplayFrame =>
    have hsame : SameConfig machine (turn (serve toml) machine .dropDisplayFrame).after := ⟨rfl, rfl⟩
    exact hsame.stays h

theorem persists_afterAll (hinverse : toml.Inverse) (h : machine.Persists toml) (calls : List Call) :
    (afterAll (serve toml) machine calls).Persists toml :=
  (turns_invariant (Persists toml) (fun _ => True)
    (fun _ call hpersists _ => (turn_stays hinverse hpersists call).persists) calls h (fun _ _ => trivial)).1

theorem persists_start (hinverse : toml.Inverse) (path : ConfigPath) (found : Found)
    (outside : Outside Raw) (hreliable : ∀ n, outside.store.faults n = none) :
    (start toml path around found outside).Persists toml := by
  unfold start
  dsimp only
  generalize hloaded : (⟨_, _, _, _, _⟩ : Machine Raw) = loaded
  have hpersists : loaded.Persists toml := by
    subst hloaded
    exact Configuration.load_persists path hreliable
  unfold restoreActiveProfile
  rw [bind_apply, get_apply]
  dsimp only
  rw [bind_apply, bind_apply, get_apply]
  dsimp only
  rw [bind_apply, bind_apply, get_apply]
  dsimp only
  have hlit := (keeps_applyLighting aside_note (aside_illuminate hinverse)
    loaded.daemon.config.lightingToRestore loaded).config hpersists
  generalize (applyLighting toml loaded.daemon.config.lightingToRestore loaded).2 = lit at hlit ⊢
  have hshown := (keeps_applyDisplay aside_note (@aside_show _ toml around hinverse)
    lit.daemon.config.displayToRestore lit).config hlit.1
  generalize (applyDisplay toml around lit.daemon.config.displayToRestore lit).2 = shown at hshown ⊢
  cases shown.daemon.config.programToRestore with
  | none => exact hshown.1
  | some held => exact (applyProgram_wrote hinverse hshown.1 held).persists

theorem activated_turn (hinverse : toml.Inverse) (h : machine.Persists toml) {name : String}
    {outcome : ActivationOutcome} {profile : Profile}
    (hprofile : machine.daemon.config.profile name = some profile)
    (hanswer : (handle toml around (.activateProfile name) machine).1 = .activated outcome) :
    machine.Selected toml (handle toml around (.activateProfile name) machine).2 profile
      (machine.Confirms around profile.program) := by
  rw [handle_apply] at hanswer ⊢
  have hdispatch : dispatch toml around (.activateProfile name) machine =
      activateProfile toml around name machine := rfl
  rw [hdispatch] at hanswer ⊢
  rcases @activateProfile_spec _ _ around _ hinverse h name with
    ⟨error, herror⟩ | ⟨found, outcome', hfound, houtcome, -, hselected⟩
  · rw [herror] at hanswer
    cases hanswer
  · cases hprofile.symm.trans hfound
    rw [houtcome]
    exact hselected

theorem confirmed_turn (hinverse : toml.Inverse) (h : machine.Persists toml) {program : CoolingProgram}
    {outcome : ApplyOutcome} (hconfirmed : outcome.hardware = .confirmed)
    (hanswer : (handle toml around (.applyProgram program) machine).1 = .applied outcome) :
    machine.Confirms around program ∧ machine.Wrote toml
      (handle toml around (.applyProgram program) machine).2 program (machine.Confirms around program) := by
  have hwrote := @execute_wrote _ _ around _ hinverse h program
  have hconfirms := (@execute_confirms _ toml around machine program).mp
  rw [handle_apply] at hanswer ⊢
  unfold dispatch at hanswer ⊢
  dsimp only at hanswer ⊢
  rw [bind_apply] at hanswer ⊢
  cases hexecute : (execute toml around program machine).1 with
  | error error =>
    rw [hexecute] at hanswer
    cases hanswer
  | ok outcome' =>
    rw [hexecute] at hanswer
    cases hanswer
    exact ⟨hconfirms ⟨_, hexecute, hconfirmed⟩, hwrote⟩

/-- The program a start puts back, from the file. -/
def restoredProgram (toml : Toml Raw) (path : ConfigPath) (store : DiskWorld Raw) : Option CoolingProgram :=
  ((Configuration.load toml path).run (disk toml) store).1.programToRestore.map ProgramToRestore.program

theorem restored_confirmed (hinverse : toml.Inverse) (h : machine.Persists toml)
    {program : CoolingProgram} (hwritten : program ≠ .onboard)
    (hheld : machine.daemon.config.document.session.program = some program) (later : List Call)
    (hlater : ∀ t ∈ turns (serve toml) machine later, ¬ Chosen t) (path : ConfigPath) :
    restoredProgram toml path (afterAll (serve toml) machine later).store = some program := by
  obtain ⟨⟨hpersists, hsession⟩, -⟩ := turns_invariant
    (fun machine => machine.Persists toml ∧
      machine.daemon.config.document.session.program = some program)
    (fun t => ¬ Chosen t)
    (fun machine call hinv hnot =>
      have hstays := turn_stays hinverse hinv.1 call
      ⟨hstays.persists, (hstays.program hnot).trans hinv.2⟩)
    later ⟨h, hheld⟩ hlater
  rw [restoredProgram, hpersists.reloaded, Configuration.programToRestore_program, hsession]
  exact if_neg hwritten

theorem restored_selected (hinverse : toml.Inverse) (h : machine.Persists toml) {profile : Profile}
    (hactive : machine.daemon.config.document.activeProfile = profile.name)
    (hprofile : machine.daemon.config.profile profile.name = some profile) (later : List Call)
    (hlater : ∀ t ∈ turns (serve toml) machine later, ¬ Chosen t ∧ ¬ Replaced profile.name t)
    (path : ConfigPath) :
    restoredProgram toml path (afterAll (serve toml) machine later).store =
      (machine.daemon.config.document.session.program.getD profile.program).written := by
  obtain ⟨⟨hpersists, hsession, hactive', hprofile'⟩, -⟩ := turns_invariant
    (fun after => after.Persists toml ∧
      after.daemon.config.document.session.program = machine.daemon.config.document.session.program ∧
      after.daemon.config.document.activeProfile = profile.name ∧
      after.daemon.config.profile profile.name = some profile)
    (fun t => ¬ Chosen t ∧ ¬ Replaced profile.name t)
    (fun before call hinv hnot => by
      obtain ⟨hpersists, hsession, hactive, hprofile⟩ := hinv
      have hstays := turn_stays hinverse hpersists call
      have hkept := hstays.profile hnot.1
      rw [hactive] at hkept
      refine ⟨hstays.persists, (hstays.program hnot.1).trans hsession, ?_, ?_⟩
      · exact (hstays.active hnot.1 (by rw [hactive]; exact hnot.2)).trans hactive
      · exact (hkept hnot.2).trans hprofile)
    later ⟨h, rfl, hactive, hprofile⟩ hlater
  rw [restoredProgram, hpersists.reloaded, Configuration.programToRestore_program, hsession]
  unfold Configuration.activeProfile
  rw [hactive', hprofile']
  rfl

end Machine

/-- After a confirmed program, a restart restores it. After an activation, a restart restores the
profile's program exactly when its write was confirmed, or no other program was recorded before. -/
theorem restart_restores_choice {Raw : Type} {toml : Toml Raw} (hinverse : toml.Inverse)
    (path : ConfigPath) (around : Surroundings) (found : Found) (outside : Outside Raw)
    (hreliable : ∀ n, outside.store.faults n = none) (earlier : List Machine.Call) (call : Machine.Call)
    (later : List Machine.Call) :
    let before := afterAll (Machine.serve toml) (.start toml path around found outside) earlier
    let choice := turn (Machine.serve toml) before call
    let restored := Machine.restoredProgram toml path
      (afterAll (Machine.serve toml) choice.after later).store
    (∀ t ∈ turns (Machine.serve toml) choice.after later, ¬ Machine.Chosen t) →
    (∀ now profile outcome, call = .request now (.activateProfile profile.name) →
      choice.answer = .response (.activated outcome) →
      before.daemon.config.profile profile.name = some profile →
      (∀ t ∈ turns (Machine.serve toml) choice.after later, ¬ Machine.Replaced profile.name t) →
      (restored = profile.program.written ↔ before.Confirms now profile.program ∨
        before.daemon.config.document.session.program = none ∨
        before.daemon.config.document.session.program = some profile.program)) ∧
    (∀ now program outcome, call = .request now (.applyProgram program) →
      choice.answer = .response (.applied outcome) → outcome.hardware = .confirmed →
      restored = some program) := by
  intro before choice restored hlater
  have hbefore : before.Persists toml :=
    Machine.persists_afterAll hinverse (Machine.persists_start hinverse path found outside hreliable) earlier
  constructor
  · intro now profile outcome hcall hanswer hprofile hkept
    subst hcall
    have hresponse : (Machine.handle toml now (.activateProfile profile.name) before).1 = .activated outcome :=
      Machine.Reply.response.inj hanswer
    have hselected := Machine.activated_turn hinverse hbefore hprofile hresponse
    have hprofile' : choice.after.daemon.config.profile profile.name = some profile :=
      (Configuration.profile_congr (congrArg _ hselected.profiles)).trans hprofile
    have hrestored := Machine.restored_selected hinverse hselected.persists hselected.active hprofile' later
      (fun t ht => ⟨hlater t ht, hkept t ht⟩) path
    have heq : restored =
        (choice.after.daemon.config.document.session.program.getD profile.program).written := hrestored
    rw [heq, CoolingProgram.written_inj]
    by_cases hconfirms : before.Confirms now profile.program
    · have hheld : choice.after.daemon.config.document.session.program = some profile.program :=
        hselected.held hconfirms
      simp [hheld, hconfirms]
    · have hheld : choice.after.daemon.config.document.session.program =
          before.daemon.config.document.session.program := hselected.kept hconfirms
      rw [hheld]
      cases before.daemon.config.document.session.program with
      | none => simp [hconfirms]
      | some program => simp [hconfirms]
  · intro now program outcome hcall hanswer hconfirmed
    subst hcall
    have hresponse : (Machine.handle toml now (.applyProgram program) before).1 = .applied outcome :=
      Machine.Reply.response.inj hanswer
    obtain ⟨hconfirms, hwrote⟩ := Machine.confirmed_turn hinverse hbefore hconfirmed hresponse
    have hwritten : program ≠ .onboard := by
      rintro rfl
      exact Machine.not_confirms_onboard hconfirms
    exact Machine.restored_confirmed hinverse hwrote.persists hwritten (hwrote.held hconfirms) later hlater path

/-- A manual program the cooler confirmed, then a start. -/
theorem restart_restores_choice_manual :
    let choice := turn (Machine.serve plainToml) (benchMachine (fun _ => false) fun _ => false)
      (.request (benchSurroundings true true) (.applyProgram (.fixed 180 90)))
    Machine.restoredProgram plainToml configPath choice.after.store = some (.fixed 180 90) :=
  (restart_restores_choice (fun _ => rfl) configPath (benchSurroundings true true) benchFound
    (benchOutside (fun _ => false) fun _ => false) (fun _ => rfl) []
    (.request (benchSurroundings true true) (.applyProgram (.fixed 180 90))) []
    (by simp [turns])).2 _ _ _ rfl rfl (by decide +kernel)

/-- Going back to the safe profile writes nothing, so the manual program of before is what a start
replays. -/
theorem restart_replays_earlier_program :
    let around := benchSurroundings true true
    let manual := turn (Machine.serve plainToml) (benchMachine (fun _ => false) fun _ => false)
      (.request around (.applyProgram (.fixed 180 90)))
    let choice := turn (Machine.serve plainToml) manual.after
      (.request around (.activateProfile SAFE_PROFILE_NAME))
    (∃ outcome, choice.answer = .response (.activated outcome)) ∧
    manual.after.daemon.config.profile SAFE_PROFILE_NAME = some .safe ∧
    Machine.restoredProgram plainToml configPath choice.after.store = some (.fixed 180 90) ∧
    Profile.safe.program.written = none := by
  refine ⟨⟨_, rfl⟩, ?_, ?_, rfl⟩
  · decide +kernel
  · decide +kernel

end Kori
