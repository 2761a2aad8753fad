import Kori.Daemon.Config.Runs
import Kori.Faulty.Drive
import Kori.Faulty.Refinement

/-! # The configuration file when the power fails -/

open Faulty

namespace Kori

variable {Raw : Type} {toml : Toml Raw}

abbrev DriveSeen (Raw : Type) := Seen (Drive Raw) (DiskCommand Raw) DiskQuery (Option Raw)
abbrev DriveWorld (Raw : Type) := World (Drive Raw) (DiskCommand Raw) DiskQuery (Option Raw) (DiskFault Raw)
abbrev DriveEvent (Raw : Type) := Event (Drive Raw) (DiskCommand Raw) DiskQuery (Option Raw)

/-- The drive under the configuration file. What a failed operation left in the temporary file was never flushed. -/
def drive (toml : Toml Raw) :
    Device (Drive Raw) (DiskCommand Raw) DiskQuery (Option Raw) (DiskFault Raw) String where
  act
    | .create, s => { s with temporary := some ⟨toml.empty, false⟩ }
    | .writeAll raw, s => { s with temporary := some ⟨raw, false⟩ }
    | .syncAll, s => { s with temporary := s.temporary.map fun inode => { inode with flushed := true } }
    | .rename, s => match s.temporary with
      | some inode => { s.rename (some inode) with temporary := none }
      | none => s
    | .removeFile, s => { s with temporary := none }
    | .syncDirectory, s => s.flush
    | .setAside, s => s.rename none
    | _, s => s
  look _ s := s.contents
  error := DiskFault.detail
  spill fault _ s := { s with temporary := fault.left.map fun raw => ⟨raw, false⟩ }

/-- What a running process sees of it. -/
def Disk.of (s : Drive Raw) : Disk Raw := { file := s.contents, temporary := s.temporary.map Inode.raw }

theorem drive_refines (toml : Toml Raw) : Refines (drive toml) (disk toml) Disk.of where
  act command s := by
    cases command with
    | syncAll => cases htemporary : s.temporary <;> simp [drive, disk, Disk.of, htemporary] <;> rfl
    | rename =>
      cases htemporary : s.temporary with
      | none => simp [drive, disk, Disk.of, htemporary]
      | some inode =>
        simp only [drive, disk, Disk.of, htemporary, Option.map_some]
        exact congrArg (Disk.mk · none) (Drive.contents_rename (some inode))
    | setAside => exact congrArg (Disk.mk · _) (Drive.contents_rename none)
    | _ => rfl
  look query s := rfl
  error fault := rfl
  spill fault command s := by
    cases fault with
    | mk detail left => cases left <;> rfl

/-! ## What the name stood for -/

/-- After a command the name stands for one of these. -/
def NamesWithin (entries : List (Option (Inode Raw))) : DriveEvent Raw → Prop
  | .looked .. => True
  | .issued _ _ _ left => ∀ entry ∈ left.named, entry ∈ entries

/-- The directory was flushed. -/
def flushes : DriveEvent Raw → Bool
  | .issued .syncDirectory ok _ _ => ok
  | _ => false

/-- Nothing came to bear the name. -/
structure Kept (s t : DriveSeen Raw) : Prop where
  within : s.Adds (NamesWithin s.state.named) t
  unflushed : s.Adds (flushes · = false) t
  named : t.state.named = s.state.named

/-- One file came to bear the name, and the directory was flushed or still may give back what bore it before. -/
structure Saved (saved : Option (Inode Raw)) (s t : DriveSeen Raw) : Prop where
  within : s.Adds (NamesWithin (s.state.named ++ [saved])) t
  named : s.Adds (flushes · = false) t ∧ t.state.named = s.state.named ++ [saved] ∨ t.state.named = [saved]

variable {s t : DriveSeen Raw}

theorem Kept.refl : Kept s s := ⟨.refl, .refl, rfl⟩

theorem Kept.issued (h : Kept s t) {command : DiskCommand Raw} {ok : Bool} {left : Drive Raw}
    (hnamed : left.named = t.state.named) (hflush : flushes (.issued command ok t.state left) = false) :
    Kept s (t.issued command ok left) where
  within := h.within.trans (Seen.adds_issued fun _ hmem => h.named ▸ hnamed ▸ hmem)
  unflushed := h.unflushed.trans (Seen.adds_issued hflush)
  named := hnamed.trans h.named

theorem perform_kept {β : Type} {command : DiskCommand Raw} {report : String → ConfigError}
    {f : Unit → ExceptT ConfigError (DiskIo Raw) β} {Q : Except ConfigError β → DriveSeen Raw → Prop}
    (hkept : Kept s t) (hnamed : ((drive toml).act command t.state).named = t.state.named)
    (hflush : ∀ left, flushes (.issued command true t.state left) = false)
    (hfail : ∀ error t', Kept s t' → Q (.error error) t')
    (hok : ∀ t', Kept s t' → t'.state.temporary = ((drive toml).act command t.state).temporary →
      wp (drive toml) (f ()).run Q t') :
    wp (drive toml) (perform command report >>= f).run Q t := by
  rw [wp_run_bind, perform, wp_run_bind, wp_run_lift, wp_issue]
  refine ⟨fun fault => hfail _ _ (hkept.issued rfl ?_), hok _ (hkept.issued hnamed (hflush _)) rfl⟩
  cases command <;> rfl

theorem Kept.rename (hkept : Kept s t) {inode : Inode Raw} (htemporary : t.state.temporary = some inode) :
    Saved (some inode) s (t.issued .rename true ((drive toml).act .rename t.state)) := by
  have hnamed : ((drive toml).act .rename t.state).named = s.state.named ++ [some inode] := by
    simp only [drive, htemporary]
    exact congrArg (· ++ _) hkept.named
  refine ⟨?_, .inl ⟨hkept.unflushed.trans (Seen.adds_issued rfl), hnamed⟩⟩
  refine (hkept.within.mono fun event h => ?_).trans (Seen.adds_issued fun entry hmem => hnamed ▸ hmem)
  cases event with
  | looked => trivial
  | issued command ok met left => exact fun entry hmem => List.mem_append_left _ (h entry hmem)

theorem Saved.subset {saved : Option (Inode Raw)} (h : Saved saved s t) {entry : Option (Inode Raw)}
    (hmem : entry ∈ t.state.named) : entry ∈ s.state.named ++ [saved] := by
  rcases h.named with ⟨-, hnamed⟩ | hnamed
  · exact hnamed ▸ hmem
  · rw [hnamed] at hmem
    exact List.mem_append_right _ hmem

theorem Saved.issued {saved : Option (Inode Raw)} (h : Saved saved s t) {command : DiskCommand Raw} {ok : Bool}
    {left : Drive Raw} (hnamed : left.named = t.state.named)
    (hflush : flushes (.issued command ok t.state left) = false) : Saved saved s (t.issued command ok left) where
  within := h.within.trans (Seen.adds_issued fun _ hmem => h.subset (hnamed ▸ hmem))
  named := h.named.imp (fun h => ⟨h.1.trans (Seen.adds_issued hflush), hnamed.trans h.2⟩) hnamed.trans

theorem Saved.flush {saved : Option (Inode Raw)} (h : Saved saved s t) {ok : Bool} :
    Saved saved s (t.issued .syncDirectory ok t.state.flush) := by
  have hnamed : t.state.flush.named = [saved] := by
    rw [Drive.named_flush]
    rcases h.named with ⟨-, hnamed⟩ | hnamed
    · rw [Drive.current_of_named _ hnamed]
    · rw [Drive.current_of_named [] hnamed]
  exact ⟨h.within.trans (Seen.adds_issued fun entry hmem => by simp_all), .inr hnamed⟩

theorem writeAtomically_names (document : ConfigDocument) :
    wp (drive toml) (writeAtomically toml document).run (fun r t => match r with
      | .ok () => Saved (some ⟨toml.encode document, true⟩) s t
      | .error _ => Kept s t) s := by
  unfold writeAtomically
  refine perform_kept Kept.refl rfl (fun _ => rfl) (fun _ _ h => h) fun t hkept _ => ?_
  refine perform_kept hkept rfl (fun _ => rfl) (fun _ _ h => h) fun t hkept _ => ?_
  refine perform_kept hkept rfl (fun _ => rfl) (fun _ _ h => h) fun t hkept _ => ?_
  refine perform_kept hkept rfl (fun _ => rfl) (fun _ _ h => h) fun t hkept _ => ?_
  refine perform_kept hkept rfl (fun _ => rfl) (fun _ _ h => h) fun t hkept hwritten => ?_
  refine perform_kept hkept rfl (fun _ => rfl) (fun _ _ h => h) fun t' hkept' hsynced => ?_
  have htemporary : t'.state.temporary = some ⟨toml.encode document, true⟩ := by
    rw [hsynced]
    simp only [drive, hwritten]
    rfl
  rw [wp_run_bind, wp_run_lift, wp_issue]
  refine ⟨fun fault => ?_, ?_⟩
  · have hfailed : Kept s (t'.issued .rename false ((drive toml).spill fault .rename t'.state)) :=
      hkept'.issued rfl rfl
    refine wp_run_lift_step (M := fun _ t => Kept s t) ?_ fun _ _ h => h
    rw [wp_issue]
    exact ⟨fun _ => hfailed.issued rfl rfl, hfailed.issued rfl rfl⟩
  · have hsaved : Saved (some ⟨toml.encode document, true⟩) s
        (t'.issued .rename true ((drive toml).act .rename t'.state)) := hkept'.rename htemporary
    dsimp only
    rw [wp_run_bind, wp_run_lift, wp_issue]
    have hopened : Saved (some ⟨toml.encode document, true⟩) s
        ((t'.issued .rename true ((drive toml).act .rename t'.state)).issued .openDirectory true
          ((drive toml).act .rename t'.state)) := hsaved.issued rfl rfl
    refine ⟨fun fault => hsaved.issued rfl rfl, ?_⟩
    refine wp_run_lift_step (M := fun _ t => Saved (some ⟨toml.encode document, true⟩) s t) ?_ fun _ _ h => h
    rw [wp_issue]
    exact ⟨fun _ => hopened.issued rfl rfl, hopened.flush⟩

/-! ## A change -/

namespace Configuration

variable {self : Configuration}

/-- The file that holds a document, flushed. -/
def saved (toml : Toml Raw) (document : ConfigDocument) : Option (Inode Raw) := some ⟨toml.encode document, true⟩

theorem commit_names : wp (drive toml) (self.commit toml) (fun r t => match r.1 with
    | .ok () => Saved (saved toml r.2.document) s t
    | .error _ => Kept s t) s := by
  unfold commit
  refine wp_step (writeAtomically_names _) ?_
  rintro (error | ⟨⟩) t h
  · exact h
  · dsimp only
    split <;> exact h

theorem commitChange_names {α : Type} (change : ConfigDocument → α × ConfigDocument) :
    wp (drive toml) (self.commitChange toml change) (fun r t =>
      Kept s t ∨ Saved (saved toml r.2.document) s t) s := by
  unfold commitChange
  refine wp_step commit_names ?_
  rintro ⟨error | ⟨⟩, after⟩ t h
  · exact .inl h
  · exact .inr h

end Configuration

namespace ConfigCall

open Kori.Configuration

theorem handle_names (call : ConfigCall) (configuration : Configuration) :
    wp (drive toml) (call.handle toml configuration) (fun r t =>
      Kept s t ∨ Saved (saved toml r.2.document) s t) s := by
  rcases call.handle_cases toml configuration with ⟨answer, heq⟩ | ⟨α, change, -, heq⟩
  · rw [heq]
    exact .inl .refl
  · rw [heq]
    exact wp_step (commitChange_names change) fun _ _ h => h

end ConfigCall

/-! ## A start -/

theorem load_names (path : ConfigPath) : wp (drive toml) (Configuration.load toml path) (fun loaded t =>
    ∀ entry ∈ t.state.named, entry ∈ s.state.named ∨ entry = none ∧ loaded.document = .default) s := by
  unfold Configuration.load
  have hreads : Looks (readDocument toml) := by
    unfold readDocument
    refine fun answer => ?_
    rcases answer with error | (_ | raw) <;> trivial
  refine wp_step (wp_looks hreads) ?_
  rintro (error | (_ | document)) t ⟨hstate, -⟩
  · refine wp_step (M := fun _ t => ∀ entry ∈ t.state.named, entry ∈ s.state.named ∨ entry = none) ?_
      fun _ t h entry hmem => (h entry hmem).imp_right fun h => ⟨h, rfl⟩
    have hissues : Issues (· = .setAside) (preserve path : DiskIo Raw _) := by
      unfold preserve
      refine fun answer => ?_
      rcases answer with error | (_ | raw)
      · trivial
      · trivial
      · exact fun stamp => ⟨rfl, fun answer => by cases answer <;> trivial⟩
    refine wp_frame hissues (fun d : Drive Raw => ∀ entry ∈ d.named, entry ∈ s.state.named ∨ entry = none) ?_
      (fun _ _ _ _ h => h) fun entry hmem => .inl (hstate ▸ hmem)
    rintro command d rfl h entry hmem
    rcases List.mem_append.mp (show entry ∈ d.named ++ [none] from hmem) with hmem | hmem
    · exact h entry hmem
    · exact .inr (List.mem_singleton.mp hmem)
  · exact fun entry hmem => .inl (hstate ▸ hmem)
  · exact fun entry hmem => .inl (hstate ▸ hmem)

/-- What the next start holds, from what the power loss brought back. -/
def Toml.next (toml : Toml Raw) (path : ConfigPath) (file : Option Raw) : ConfigDocument :=
  let world : DriveWorld Raw := { state := .holding file, log := [], faults := fun _ => none, times := fun _ => 0 }
  ((Configuration.load toml path).run (drive toml) world).1.document

theorem next_saved (hinverse : toml.Inverse) (path : ConfigPath) {document : ConfigDocument}
    (hloadable : document.Loadable) : toml.next path (some (toml.encode document)) = document.withoutLogo := by
  have hcheck := (ConfigDocument.check_eq_ok _).mpr hloadable.withoutLogo
  have hread : toml.read (toml.encode document) = .ok document.withoutLogo := by
    rw [Toml.read, hinverse document]
    dsimp only
    rw [hcheck]
  refine (wp_reliable (Q := fun (loaded : Configuration) (_ : DriveSeen Raw) =>
    loaded.document = document.withoutLogo) _ (fun _ => rfl) ?_).1
  refine wp_step (M := fun read _ => read = .ok (some document.withoutLogo)) ?_ ?_
  · unfold readDocument
    rw [wp_bind, wp_look]
    refine ⟨fun fault => fault.elim, ?_⟩
    change (toml.read (toml.encode document)).map some = _
    rw [hread]
    rfl
  · rintro read t rfl
    rfl

/-! ## Every run -/

abbrev DriveRig (Raw : Type) :=
  Rig Configuration (Drive Raw) (DiskCommand Raw) DiskQuery (Option Raw) (DiskFault Raw)

abbrev DriveStep (Raw : Type) :=
  Step ConfigCall (Except ConfigError Unit) Configuration (Drive Raw) (DiskCommand Raw) DiskQuery (Option Raw)
    (DiskFault Raw)

/-- The configuration a start loads, from a drive on which everything was flushed. -/
def startedRig (toml : Toml Raw) (path : ConfigPath) (found : Option Raw) (faults : Nat → Option (DiskFault Raw))
    (times : Nat → Nat) : DriveRig Raw :=
  let world : DriveWorld Raw := { state := .holding found, log := [], faults, times }
  let loaded := (Configuration.load toml path).run (drive toml) world
  { owner := loaded.1, world := loaded.2 }

namespace DriveStep

/-- The drive before a step and after each of its commands. -/
def moments (step : DriveStep Raw) : List (Drive Raw) :=
  step.before.world.state :: step.after.world.log.filterMap fun
    | .looked .. => none
    | .issued _ _ _ left => some left

def flushed (step : DriveStep Raw) : Bool := step.after.world.log.any flushes

/-- The documents a power loss may bring back after these steps: the ones held since a directory was last flushed. -/
def held (first : List ConfigDocument) (steps : List (DriveStep Raw)) : List ConfigDocument :=
  steps.foldl (fun held step =>
    if step.flushed then [step.after.owner.document] else held ++ [step.after.owner.document]) first

/-- What the name stands for is one of these documents, up to the field that is never written, and was flushed. -/
def Brings (toml : Toml Raw) (path : ConfigPath) (documents : List ConfigDocument) (entry : Option (Inode Raw)) : Prop :=
  (∀ inode ∈ entry, inode.flushed = true) ∧ ∃ document ∈ documents,
    (toml.next path (entry.map Inode.raw)).withoutLogo = document.withoutLogo

theorem Brings.mono {path : ConfigPath} {documents more : List ConfigDocument} {entry : Option (Inode Raw)}
    (h : Brings toml path documents entry) (hsub : ∀ document ∈ documents, document ∈ more) :
    Brings toml path more entry := by
  obtain ⟨hflushed, document, hmem, hnext⟩ := h
  exact ⟨hflushed, document, hsub document hmem, hnext⟩

theorem Brings.returns {path : ConfigPath} {documents : List ConfigDocument} {d : Drive Raw}
    (h : ∀ entry ∈ d.named, Brings toml path documents entry) {file : Option Raw} (hreturns : d.Returns file) :
    ∃ document ∈ documents, (toml.next path file).withoutLogo = document.withoutLogo := by
  obtain ⟨entry, hmem, hfile⟩ := hreturns
  obtain ⟨hflushed, document, hdocument, hnext⟩ := h entry hmem
  refine ⟨document, hdocument, ?_⟩
  cases entry with
  | none =>
    rw [hfile]
    exact hnext
  | some inode =>
    obtain ⟨raw, rfl, hraw⟩ := hfile
    rw [hraw (hflushed inode rfl)]
    exact hnext

theorem brings_saved (hinverse : toml.Inverse) (path : ConfigPath) {document : ConfigDocument}
    (hloadable : document.Loadable) (documents : List ConfigDocument) :
    Brings toml path (documents ++ [document]) (Configuration.saved toml document) := by
  refine ⟨fun inode hmem => ?_, document, by simp, ?_⟩
  · cases hmem
    rfl
  · change (toml.next path (some (toml.encode document))).withoutLogo = _
    rw [next_saved hinverse path hloadable, document.withoutLogo_withoutLogo]

theorem moments_within {entries : List (Option (Inode Raw))} {step : DriveStep Raw}
    (hbefore : ∀ entry ∈ step.before.world.state.named, entry ∈ entries)
    (hlog : ∀ event ∈ step.after.world.log, NamesWithin entries event) :
    ∀ d ∈ step.moments, ∀ entry ∈ d.named, entry ∈ entries := by
  intro d hd entry hentry
  rcases List.mem_cons.mp hd with rfl | hd
  · exact hbefore entry hentry
  · obtain ⟨event, hmem, hevent⟩ := List.mem_filterMap.mp hd
    cases event with
    | looked => cases hevent
    | issued command ok met left =>
      cases hevent
      exact hlog _ hmem entry hentry

theorem step_brings (hinverse : toml.Inverse) (path : ConfigPath) {documents : List ConfigDocument}
    {rig : DriveRig Raw} (call : ConfigCall)
    (hloadable : rig.owner.document.Loadable)
    (hnamed : ∀ entry ∈ rig.world.state.named, Brings toml path documents entry) {step : DriveStep Raw}
    (hstep : rig.step (drive toml) (ConfigCall.handle toml) call = step) :
    step.after.owner.document.Loadable ∧
    (∀ d ∈ step.moments, ∀ entry ∈ d.named,
      Brings toml path (documents ++ [step.after.owner.document]) entry) ∧
    ∀ entry ∈ step.after.world.state.named, Brings toml path (held documents [step]) entry := by
  have hoffer := Rig.step_of_wp
    (P := fun _ (owner : Configuration) (t : DriveSeen Raw) => owner.document.Loadable ∧
      (Kept rig.world.fresh.toSeen t ∨ Saved (Configuration.saved toml owner.document) rig.world.fresh.toSeen t))
    (wp_and ((drive_refines toml).wp (call.handle_loadable hloadable)) (call.handle_names rig.owner))
  rw [hstep] at hoffer
  obtain ⟨hafter, hnames⟩ := hoffer
  have hbefore : step.before = rig := by rw [← hstep]; rfl
  have hold : ∀ entry ∈ rig.world.state.named, Brings toml path (documents ++ [step.after.owner.document]) entry :=
    fun entry hmem => (hnamed entry hmem).mono fun _ => List.mem_append_left _
  have hnew := brings_saved hinverse path hafter documents
  have hunissued {P : _ → Prop} : ∀ event ∈ rig.world.fresh.toSeen.log, P event :=
    fun _ hmem => absurd hmem List.not_mem_nil
  refine ⟨hafter, ?_⟩
  have hunflushed (h : rig.world.fresh.toSeen.Adds (flushes · = false) step.after.world.toSeen) :
      held documents [step] = documents ++ [step.after.owner.document] := by
    have hnone : step.flushed = false := List.any_eq_false.mpr fun event hmem => by
      rw [h.log hunissued event hmem]
      exact Bool.false_ne_true
    simp [held, hnone]
  rcases hnames with hkept | hsaved
  · refine ⟨fun d hd entry hmem => hold entry ?_, fun entry hmem => ?_⟩
    · exact moments_within (hbefore ▸ fun _ h => h) (hkept.within.log hunissued) d hd entry hmem
    · rw [hunflushed hkept.unflushed]
      exact hold entry (hkept.named ▸ hmem)
  · have heither : ∀ entry ∈ rig.world.state.named ++ [Configuration.saved toml step.after.owner.document],
        Brings toml path (documents ++ [step.after.owner.document]) entry := fun entry hmem => by
      rcases List.mem_append.mp hmem with hmem | hmem
      · exact hold entry hmem
      · exact List.mem_singleton.mp hmem ▸ hnew
    refine ⟨fun d hd entry hmem => heither entry ?_, fun entry hmem => ?_⟩
    · exact moments_within (hbefore ▸ fun _ h => List.mem_append_left _ h) (hsaved.within.log hunissued) d hd entry hmem
    · rcases hsaved.named with ⟨hadds, hnamed⟩ | hnamed
      · rw [hunflushed hadds]
        exact heither entry (hnamed ▸ hmem)
      · rw [hnamed, List.mem_singleton] at hmem
        subst hmem
        unfold held
        rw [List.foldl_cons, List.foldl_nil]
        split
        · exact brings_saved hinverse path hafter []
        · exact hnew

/-- If the power goes during a step, the next start holds one of these documents or the one being saved; if it goes
after a step that flushed the directory, only that one. -/
def Outlasts (toml : Toml Raw) (path : ConfigPath) (documents : List ConfigDocument) (step : DriveStep Raw) : Prop :=
  (∀ d ∈ step.moments, ∀ file, d.Returns file → ∃ document ∈ documents ++ [step.after.owner.document],
    (toml.next path file).withoutLogo = document.withoutLogo) ∧
  (step.flushed → ∀ file, step.after.world.state.Returns file →
    (toml.next path file).withoutLogo = step.after.owner.document.withoutLogo)

theorem outlasts_of_brings {path : ConfigPath} {documents : List ConfigDocument} {step : DriveStep Raw}
    (hmoments : ∀ d ∈ step.moments, ∀ entry ∈ d.named,
      Brings toml path (documents ++ [step.after.owner.document]) entry)
    (hafter : ∀ entry ∈ step.after.world.state.named, Brings toml path (held documents [step]) entry) :
    Outlasts toml path documents step := by
  refine ⟨fun d hd file hreturns => Brings.returns (hmoments d hd) hreturns, fun hflushed file hreturns => ?_⟩
  obtain ⟨document, hmem, hnext⟩ := Brings.returns hafter hreturns
  have honly : held documents [step] = [step.after.owner.document] := if_pos hflushed
  rw [honly, List.mem_singleton] at hmem
  exact hmem ▸ hnext

theorem held_snoc (first : List ConfigDocument) (past : List (DriveStep Raw)) (step : DriveStep Raw) :
    held first (past ++ [step]) = held (held first past) [step] := List.foldl_append

end DriveStep

open DriveStep in
/-- Whatever fails and whenever the power goes, the next start holds a document this one held since its directory was
last flushed, or the one being saved; after a save that flushed it, only that one. -/
theorem power_loss_keeps_configuration (hinverse : toml.Inverse) (path : ConfigPath) (found : Option Raw)
    (faults : Nat → Option (DiskFault Raw)) (times : Nat → Nat) (calls : List ConfigCall) :
    let started := startedRig toml path found faults times
    ∀ (older newer : List (DriveStep Raw)) (step : DriveStep Raw),
      started.steps (drive toml) (ConfigCall.handle toml) calls = older ++ step :: newer →
      Outlasts toml path (held [toml.next path found, started.owner.document] older) step := by
  intro started older newer step hsplit
  have hloaded : started.owner.document.Loadable :=
    wp_run _ ((drive_refines toml).wp (Configuration.load_loadable path))
  have hnames : ∀ entry ∈ started.world.state.named,
      entry ∈ (Drive.holding found).named ∨ entry = none ∧ started.owner.document = .default :=
    wp_run _ (load_names path)
  have hfirst : ∀ entry ∈ started.world.state.named,
      Brings toml path [toml.next path found, started.owner.document] entry := by
    intro entry hmem
    rcases hnames entry hmem with hfound | ⟨rfl, hdefault⟩
    · rw [Drive.named_holding, List.mem_singleton] at hfound
      subst hfound
      refine ⟨fun inode hinode => ?_, _, List.mem_cons_self, ?_⟩
      · obtain ⟨raw, -, rfl⟩ := Option.map_eq_some_iff.mp hinode
        rfl
      · cases found <;> rfl
    · refine ⟨nofun, _, List.mem_cons_of_mem _ (List.mem_singleton_self _), ?_⟩
      rw [hdefault]
      rfl
  refine Rig.steps_since (fun past rig =>
    rig.owner.document.Loadable ∧
      ∀ entry ∈ rig.world.state.named,
        Brings toml path (held [toml.next path found, started.owner.document] past) entry)
    (fun past => Outlasts toml path (held [toml.next path found, started.owner.document] past))
    ?_ ⟨hloaded, hfirst⟩ hsplit
  rintro past rig call ⟨hloadable, hnamed⟩
  obtain ⟨hloadable', hmoments, hafter⟩ := step_brings hinverse path call hloadable hnamed rfl
  refine ⟨outlasts_of_brings hmoments hafter, hloadable', ?_⟩
  rwa [held_snoc]

/-- Two changes, the directory not flushed after the first. -/
def outageSteps : List (DriveStep ConfigDocument) :=
  (startedRig plainToml configPath none (fun n => if n = 8 then some ⟨"not supported", none⟩ else none)
    fun n => n).steps (drive plainToml) (ConfigCall.handle plainToml)
    [.recordProgram .onboard, .activate SAFE_PROFILE_NAME]

open DriveStep in
theorem outage_keeps_configuration :
    outageSteps.length = 2 ∧ outageSteps.map flushed = [false, true] ∧
    ∀ older newer step, outageSteps = older ++ step :: newer → Outlasts plainToml configPath
      (held [plainToml.next configPath none, .default] older) step :=
  ⟨rfl, by decide +kernel, power_loss_keeps_configuration (fun _ => rfl) configPath none _ _ _⟩

end Kori
