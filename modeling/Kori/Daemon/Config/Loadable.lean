import Mathlib.Data.List.Nodup
import Kori.Daemon.Config

/-! # Every change leaves a document that can be loaded -/

namespace Kori

/-! ## What the reader checks -/

/-- Everything a document must satisfy to be loaded. -/
structure ConfigDocument.Loadable (document : ConfigDocument) : Prop where
  schema : 1 ≤ document.schemaVersion ∧ document.schemaVersion ≤ CONFIG_SCHEMA_VERSION
  valid : ∀ profile ∈ document.profiles, validateProfile profile = .ok ()
  unique : (document.profiles.map Profile.name).Nodup
  notSafe : SAFE_PROFILE_NAME ∉ document.profiles.map Profile.name
  active : document.activeProfile = SAFE_PROFILE_NAME ∨
    document.activeProfile ∈ document.profiles.map Profile.name

theorem checkProfiles_eq_ok (profiles : List Profile) (seen names : List String) :
    checkProfiles profiles seen = .ok names ↔
      names = seen ++ profiles.map Profile.name ∧
      (∀ profile ∈ profiles, validateProfile profile = .ok ()) ∧
      (profiles.map Profile.name).Nodup ∧ SAFE_PROFILE_NAME ∉ profiles.map Profile.name ∧
      ∀ profile ∈ profiles, profile.name ∉ seen := by
  induction profiles generalizing seen with
  | nil => simp [checkProfiles, eq_comm]
  | cons profile rest ih =>
    unfold checkProfiles
    by_cases hname : profile.name = SAFE_PROFILE_NAME ∨ profile.name ∈ seen
    · rw [if_pos hname]
      constructor
      · intro h
        cases h
      · rintro ⟨-, -, -, hsafe, hseen⟩
        rcases hname with hname | hname
        · simp [hname] at hsafe
        · exact absurd hname (hseen profile (by simp))
    · rw [if_neg hname]
      rw [not_or] at hname
      cases hvalid : validateProfile profile with
      | error source =>
        constructor
        · intro h
          cases h
        · rintro ⟨-, hall, -⟩
          rw [hall profile (by simp)] at hvalid
          cases hvalid
      | ok =>
        dsimp only
        rw [ih]
        simp only [List.map_cons, List.nodup_cons, List.mem_cons, List.append_assoc,
          List.singleton_append, List.mem_append, forall_eq_or_imp, not_or]
        constructor
        · rintro ⟨rfl, hall, hnodup, hsafe, hseen⟩
          refine ⟨rfl, ⟨hvalid, hall⟩, ⟨?_, hnodup⟩, ⟨fun h => hname.1 h.symm, hsafe⟩, hname.2, ?_⟩
          · rw [List.mem_map]
            rintro ⟨other, hother, heq⟩
            exact (hseen other hother).2.1 heq
          · exact fun other hother => (hseen other hother).1
        · rintro ⟨rfl, ⟨-, hall⟩, ⟨hnew, hnodup⟩, ⟨-, hsafe⟩, -, hseen⟩
          refine ⟨rfl, hall, hnodup, hsafe, fun other hother => ⟨hseen other hother, ?_, by simp⟩⟩
          rintro heq
          exact hnew (List.mem_map.mpr ⟨other, hother, heq⟩)

/-- The reader accepts exactly the loadable documents. -/
theorem ConfigDocument.check_eq_ok (document : ConfigDocument) :
    document.check = .ok () ↔ document.Loadable := by
  unfold check
  by_cases hschema : CONFIG_SCHEMA_VERSION < document.schemaVersion ∨ document.schemaVersion = 0
  · rw [if_pos hschema]
    constructor
    · intro h
      cases h
    · intro h
      have := h.schema
      omega
  · rw [if_neg hschema]
    have hschema' : 1 ≤ document.schemaVersion ∧ document.schemaVersion ≤ CONFIG_SCHEMA_VERSION := by
      omega
    cases hprofiles : checkProfiles document.profiles [] with
    | error e =>
      constructor
      · intro h
        cases h
      · intro h
        have hok := (checkProfiles_eq_ok document.profiles [] _).mpr
          ⟨rfl, h.valid, h.unique, h.notSafe, by simp⟩
        rw [hprofiles] at hok
        cases hok
    | ok seen =>
      obtain ⟨rfl, hvalid, hunique, hsafe, -⟩ := (checkProfiles_eq_ok _ _ _).mp hprofiles
      dsimp only
      rw [List.nil_append]
      split
      · rename_i hactive
        constructor
        · intro h
          cases h
        · intro h
          exact (h.active.elim hactive.1 hactive.2).elim
      · rename_i hactive
        refine ⟨fun _ => ⟨hschema', hvalid, hunique, hsafe, ?_⟩, fun _ => rfl⟩
        by_contra h
        rw [not_or] at h
        exact hactive h

/-! ## What each change does to it -/

section

variable {α : Type} {same : α → Bool} {item : α} {l : List α}

theorem mem_replaceOrPush {x : α} (h : x ∈ replaceOrPush same item l) : x = item ∨ x ∈ l := by
  induction l with
  | nil => simpa [replaceOrPush] using h
  | cons y rest ih =>
    unfold replaceOrPush at h
    split at h
    · simp only [List.mem_cons] at h ⊢
      exact h.imp_right .inr
    · simp only [List.mem_cons] at h ⊢
      rcases h with rfl | h
      · exact .inr (.inl rfl)
      · exact (ih h).imp_right .inr

theorem map_replaceOrPush {β : Type} [DecidableEq β] (key : α → β) :
    (replaceOrPush (fun x => decide (key x = key item)) item l).map key =
      if key item ∈ l.map key then l.map key else l.map key ++ [key item] := by
  induction l with
  | nil => simp [replaceOrPush]
  | cons y rest ih =>
    unfold replaceOrPush
    by_cases h : key y = key item
    · simp [h]
    · rw [if_neg (by simpa using h), List.map_cons, ih]
      by_cases hmem : key item ∈ rest.map key
      · simp only [hmem, if_true, List.map_cons, List.mem_cons, or_true]
      · have hne : ¬ key item = key y := fun h' => h h'.symm
        simp only [hmem, if_false, List.map_cons, List.mem_cons, hne, or_self, List.cons_append]

end

namespace ConfigDocument.Loadable

variable {document : ConfigDocument}

theorem current (h : document.Loadable) :
    ({ document with schemaVersion := CONFIG_SCHEMA_VERSION } : ConfigDocument).Loadable :=
  ⟨⟨(by decide : 1 ≤ CONFIG_SCHEMA_VERSION), Nat.le_refl _⟩, h.valid, h.unique, h.notSafe, h.active⟩

theorem session (h : document.Loadable) (session : SessionState) :
    ({ document with session } : ConfigDocument).Loadable :=
  ⟨h.schema, h.valid, h.unique, h.notSafe, h.active⟩

theorem save (h : document.Loadable) {profile : Profile} (hvalid : validateProfile profile = .ok ())
    (hname : profile.name ≠ SAFE_PROFILE_NAME) : ({ document with
      profiles := replaceOrPush (fun p => p.name = profile.name) profile document.profiles } :
      ConfigDocument).Loadable := by
  have hnames := @map_replaceOrPush _ profile document.profiles _ _ Profile.name
  refine ⟨h.schema, fun p hp => ?_, ?_, ?_, ?_⟩
  · rcases mem_replaceOrPush hp with rfl | hp
    · exact hvalid
    · exact h.valid p hp
  · rw [hnames]
    split
    · exact h.unique
    · rename_i hnew
      rw [← List.concat_eq_append]
      exact List.Nodup.concat hnew h.unique
  · rw [hnames]
    split
    · exact h.notSafe
    · simpa [hname.symm] using h.notSafe
  · refine h.active.imp_right fun hactive => ?_
    dsimp only
    rw [hnames]
    split
    · exact hactive
    · exact List.mem_append_left _ hactive

theorem select (h : document.Loadable) {profile : Profile}
    (hmem : profile ∈ Profile.safe :: document.profiles) :
    ({ document with activeProfile := profile.name } : ConfigDocument).Loadable := by
  refine ⟨h.schema, h.valid, h.unique, h.notSafe, ?_⟩
  rw [List.mem_cons] at hmem
  rcases hmem with rfl | hmem
  · exact .inl rfl
  · exact .inr (List.mem_map.mpr ⟨profile, hmem, rfl⟩)

theorem delete (h : document.Loadable) (name : String) {active : String}
    (hactive : active = SAFE_PROFILE_NAME ∨ (active = document.activeProfile ∧ active ≠ name)) :
    ({ document with
      profiles := document.profiles.filter fun p => p.name ≠ name
      activeProfile := active } : ConfigDocument).Loadable := by
  have hsub : ((document.profiles.filter fun p => p.name ≠ name).map Profile.name).Sublist
      (document.profiles.map Profile.name) := List.filter_sublist.map _
  refine ⟨h.schema, fun p hp => h.valid p (List.mem_of_mem_filter hp), h.unique.sublist hsub,
    fun hmem => h.notSafe (hsub.subset hmem), ?_⟩
  rcases hactive with rfl | ⟨rfl, hne⟩
  · exact .inl rfl
  · refine h.active.imp_right fun hmem => ?_
    obtain ⟨p, hp, heq⟩ := List.mem_map.mp hmem
    exact List.mem_map.mpr ⟨p, List.mem_filter.mpr ⟨hp, by simpa [heq] using hne⟩, heq⟩

end ConfigDocument.Loadable

/-! ## The deprecated field -/

def DisplayPreset.withoutLogo (preset : DisplayPreset) : DisplayPreset := { preset with logo := none }

def Profile.withoutLogo (profile : Profile) : Profile :=
  { profile with display := profile.display.map DisplayPreset.withoutLogo }

/-- The document as it is written: the deprecated field of a preset never is. -/
def ConfigDocument.withoutLogo (document : ConfigDocument) : ConfigDocument :=
  { document with
    profiles := document.profiles.map Profile.withoutLogo
    session := { document.session with
      display := document.session.display.map DisplayPreset.withoutLogo } }

theorem Profile.validate_withoutLogo (profile : Profile) :
    validateProfile profile.withoutLogo = validateProfile profile := by
  unfold validateProfile Profile.withoutLogo
  cases profile.display <;> rfl

theorem Profile.names_withoutLogo (profiles : List Profile) :
    (profiles.map Profile.withoutLogo).map Profile.name = profiles.map Profile.name := by
  rw [List.map_map]
  rfl

theorem ConfigDocument.Loadable.withoutLogo {document : ConfigDocument} (h : document.Loadable) :
    document.withoutLogo.Loadable := by
  have hnames := Profile.names_withoutLogo document.profiles
  refine ⟨h.schema, fun p hp => ?_, ?_, ?_, ?_⟩
  · obtain ⟨q, hq, rfl⟩ := List.mem_map.mp hp
    exact (Profile.validate_withoutLogo q).trans (h.valid q hq)
  · exact hnames ▸ h.unique
  · exact hnames ▸ h.notSafe
  · refine h.active.imp_right fun hmem => ?_
    exact hnames ▸ hmem

theorem ConfigDocument.withoutLogo_withoutLogo (document : ConfigDocument) :
    document.withoutLogo.withoutLogo = document.withoutLogo := by
  have hpreset : ∀ preset : DisplayPreset, preset.withoutLogo.withoutLogo = preset.withoutLogo :=
    fun _ => rfl
  have hprofile : ∀ profile : Profile, profile.withoutLogo.withoutLogo = profile.withoutLogo := by
    intro profile
    cases hdisplay : profile.display <;> simp [Profile.withoutLogo, hdisplay, hpreset]
  cases hdisplay : document.session.display <;>
    simp [ConfigDocument.withoutLogo, hdisplay, hpreset, hprofile, Function.comp_def]

end Kori
