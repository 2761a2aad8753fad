import Kori.App.Shell.Pending

/-! # What each action of the window does to the target it edits, and to the others -/

open Faulty

namespace Kori.Shell

/-- What a press is going to move. -/
def Grip.target : Grip → WriteTarget
  | brightness row => .lighting row
  | duty _ => .cooling
  | node .. => .cooling

/-- The target the operator edits by an action. -/
def Action.edits (shell : Shell) : Action → Option WriteTarget
  | edit .. => some .cooling
  | grab grip .. => some grip.target
  | dragTo .. => if shell.drag.any Drag.isCooling then some .cooling else none
  | revert _ => some .cooling
  | editChannel channel .. => some (.lighting (.channel channel))
  | editPanel .. => some (.lighting .lcd)
  | _ => none

/-- A row that moves without settling is one whose slider is held. -/
def Action.Belongs (shell : Shell) : Action → Prop
  | editChannel channel _ none => shell.drag = some (.brightness (.channel channel))
  | editPanel _ none => shell.drag = some (.brightness .lcd)
  | _ => True

/-- A press takes the place of a gesture on another target, which has scheduled nothing yet. -/
def Action.Replaces (shell : Shell) : Action → Prop
  | grab grip .. => ∃ drag ∈ shell.drag, drag.target ≠ grip.target ∧ shell.due.isPending drag.target = false
  | _ => False

variable {shell after : Shell} {shared : Shared} {action : Action} {target : WriteTarget} {now : Duration}

/-! ## The gestures -/

theorem pendingCommand_cooling_congr (h : after.cooling.program = shell.cooling.program) :
    after.pendingCommand .cooling = shell.pendingCommand .cooling := by
  have hvalid : after.cooling.validationError = shell.cooling.validationError := by
    unfold CoolingEditor.validationError
    rw [h]
  simp only [pendingCommand, h, hvalid]

/-- An action that leaves a target as it was. -/
structure Spares (target : WriteTarget) (shell after : Shell) : Prop where
  command : after.pendingCommand target = shell.pendingCommand target
  isOpen : after.isOpen target = shell.isOpen target

theorem isOpen_of_pending (h : shell.due.isPending target = true) : shell.isOpen target = true := by
  simp [isOpen, h]

theorem isOpen_of_drag {drag : Drag} (hdrag : shell.drag = some drag) (htarget : drag.target = target) :
    shell.isOpen target = true := by
  simp [isOpen, hdrag, htarget]

theorem scheduleWrite_isOpen (target : WriteTarget) (now : Duration) :
    (shell.scheduleWrite target now).isOpen target = true :=
  isOpen_of_pending (by simp)

theorem isOpen_scheduleWrite {other : WriteTarget} (h : other ≠ target) :
    (shell.scheduleWrite other now).isOpen target = shell.isOpen target := by
  simp [isOpen, h, (@scheduleWrite_same shell other now).drag]

theorem spares_scheduleWrite {other : WriteTarget} (h : other ≠ target) :
    Spares target shell (shell.scheduleWrite other now) :=
  ⟨(scheduleWrite_same other now).pendingCommand target, isOpen_scheduleWrite h⟩

theorem Spares.trans {later : Shell} (h : Spares target shell after) (h' : Spares target after later) :
    Spares target shell later := ⟨h'.command.trans h.command, h'.isOpen.trans h.isOpen⟩

theorem spares_cooling {row : LightingRow} (editor : CoolingEditor) :
    Spares (.lighting row) shell { shell with cooling := editor } := by
  cases row <;> exact ⟨rfl, rfl⟩

theorem spares_dragTo {row : LightingRow} (value : UInt8) :
    Spares (.lighting row) shell (shell.dragTo value now) := by
  unfold dragTo
  split
  · exact ⟨rfl, rfl⟩
  · exact ⟨rfl, rfl⟩
  · exact spares_cooling _
  · dsimp only
    split
    · exact spares_cooling _
    · exact (spares_cooling _).trans (spares_scheduleWrite (by simp))

theorem dragTo_eq (value : UInt8) (h : shell.drag.any Drag.isCooling = false) : shell.dragTo value now = shell := by
  unfold dragTo
  split
  · rfl
  · rfl
  · rename_i hdrag
    simp [hdrag, Drag.isCooling] at h
  · rename_i hdrag
    simp [hdrag, Drag.isCooling] at h

theorem dragTo_drag (value : UInt8) : (shell.dragTo value now).drag = shell.drag := by
  unfold dragTo
  split
  · rfl
  · rfl
  · rfl
  · dsimp only
    split <;> rfl

theorem grab_isOpen (grip : Grip) (value : UInt8) : (shell.grab grip value now).isOpen grip.target = true := by
  cases grip with
  | brightness row => exact isOpen_of_drag rfl rfl
  | duty channel =>
    refine @isOpen_of_drag _ _ (.duty channel) ?_ rfl
    unfold grab
    rw [dragTo_drag]
  | node channel node =>
    refine @isOpen_of_drag _ _ (.curve channel node (shell.cooling.curve channel)) ?_ rfl
    unfold grab
    dsimp only
    rw [dragTo_drag]
    rfl

theorem spares_gesture {grip : Grip} {drag : Drag} (htarget : grip.target ≠ target) (hdrag : drag.target = grip.target)
    (hkept : ∀ held ∈ shell.drag, held.target = target → shell.due.isPending target = true) :
    Spares target shell { shell with drag := some drag } := by
  have hnow : drag.target ≠ target := hdrag ▸ htarget
  refine ⟨?_, ?_⟩
  · rcases target with _ | _ | _ <;> rfl
  · unfold isOpen
    simp only [Option.any_some, hnow, decide_false, Bool.or_false]
    cases hheld : shell.drag with
    | none => simp
    | some held =>
      by_cases hsame : held.target = target
      · simp [hkept held hheld hsame]
      · simp [hsame]

theorem spares_grab {grip : Grip} (value : UInt8) (htarget : grip.target ≠ target)
    (hkept : ∀ held ∈ shell.drag, held.target = target → shell.due.isPending target = true) :
    Spares target shell (shell.grab grip value now) := by
  cases grip with
  | brightness row => exact spares_gesture htarget rfl hkept
  | duty channel =>
    cases target with
    | cooling => exact absurd rfl htarget
    | lighting row =>
      exact (@spares_gesture shell _ (.duty channel) (.duty channel) htarget rfl hkept).trans (@spares_dragTo _ now row value)
  | node channel node =>
    cases target with
    | cooling => exact absurd rfl htarget
    | lighting row =>
      have hgesture := @spares_gesture shell _ (.node channel node)
        (.curve channel node (shell.cooling.curve channel)) htarget rfl hkept
      exact hgesture.trans ((spares_cooling _).trans ((spares_scheduleWrite (by simp)).trans (spares_dragTo value)))

theorem spares_release : Spares target shell (shell.release now) := by
  cases hdrag : shell.drag with
  | none =>
    have hsame : shell.release now = shell := by
      unfold release
      rw [hdrag]
      dsimp only
      rw [← hdrag]
    rw [hsame]
    exact ⟨rfl, rfl⟩
  | some drag =>
    have hrelease : shell.release now = ({ shell with drag := none }).scheduleWrite drag.target now := by
      unfold release
      rw [hdrag]
      cases drag <;> rfl
    rw [hrelease]
    by_cases htarget : drag.target = target
    · subst htarget
      refine ⟨?_, ?_⟩
      · rcases drag with ⟨_ | _⟩ | _ | _ <;> rfl
      · rw [scheduleWrite_isOpen, isOpen_of_drag hdrag rfl]
    · have hfree : Spares target shell { shell with drag := none } := by
        refine ⟨by rcases target with _ | _ | _ <;> rfl, ?_⟩
        simp [isOpen, hdrag, htarget]
      exact hfree.trans (spares_scheduleWrite htarget)

/-! ## The rows -/

theorem find?_setRow {channel other : UInt8} (program : Option LightingProgram) (h : other ≠ channel) :
    (shell.setRow other program).lighting.find? (·.1 = channel) = shell.lighting.find? (·.1 = channel) := by
  unfold setRow
  dsimp only
  induction shell.lighting with
  | nil => rfl
  | cons row rest ih =>
    rw [List.map_cons]
    by_cases hrow : row.1 = other
    · rw [if_pos hrow, List.find?_cons_of_neg (by simpa using h), List.find?_cons_of_neg (by simpa [hrow] using h), ih]
    · rw [if_neg hrow, List.find?_cons, List.find?_cons, ih]

theorem spares_setRow {channel : UInt8} (program : Option LightingProgram) (h : target ≠ .lighting (.channel channel)) :
    Spares target shell (shell.setRow channel program) := by
  refine ⟨?_, rfl⟩
  rcases target with _ | other | _
  · rfl
  · have hne : channel ≠ other := fun heq => h (by rw [heq])
    unfold pendingCommand
    dsimp only
    rw [find?_setRow program hne]
  · rfl

theorem spares_settle {other : WriteTarget} (settles : Option Duration) (h : other ≠ target) :
    Spares target shell (shell.settle other settles) := by
  cases settles with
  | none => exact ⟨rfl, rfl⟩
  | some now => exact spares_scheduleWrite h

/-! ## Actions -/

theorem act_opens (hedits : action.edits shell = some target) (hbelongs : action.Belongs shell) :
    (act shared action shell).2.isOpen target = true := by
  cases action with
  | edit edit now =>
    cases hedits
    exact scheduleWrite_isOpen _ _
  | grab grip value now =>
    cases hedits
    exact grab_isOpen grip value
  | dragTo value now =>
    unfold Action.edits at hedits
    dsimp only at hedits
    split at hedits
    · rename_i hcooling
      cases hedits
      obtain ⟨drag, hdrag, hcooling⟩ := Option.any_eq_true _ _ |>.mp hcooling
      refine isOpen_of_drag ?_ ((Drag.target_eq_cooling_iff drag).mpr hcooling)
      exact (dragTo_drag value).trans hdrag
    · cases hedits
  | revert now =>
    cases hedits
    exact scheduleWrite_isOpen _ _
  | editChannel channel program settles =>
    cases hedits
    cases settles with
    | none => exact isOpen_of_drag hbelongs rfl
    | some now => exact scheduleWrite_isOpen _ _
  | editPanel preset settles =>
    cases hedits
    cases settles with
    | none => exact isOpen_of_drag hbelongs rfl
    | some now => exact scheduleWrite_isOpen _ _
  | release now => cases hedits
  | resumePanel => cases hedits
  | activateProfile name => cases hedits
  | saveProfile panelEnabled => cases hedits
  | deleteProfile => cases hedits
  | go => cases hedits
  | takeLink => cases hedits
  | adoptOutcome => cases hedits
  | flushWrites now => cases hedits

theorem spares_adoptOutcome (outcome : Option CommandOutcome) :
    Spares target shell (Shell.adoptOutcome outcome shell).2 := by
  have hrow : ∀ after : Shell, after.cooling.program = shell.cooling.program → after.lighting = shell.lighting →
      after.lcd = shell.lcd → after.due = shell.due → after.drag = shell.drag → Spares target shell after := by
    intro after hcooling hlighting hlcd hdue hdrag
    refine ⟨?_, by simp only [Shell.isOpen, hdue, hdrag]⟩
    rcases target with _ | _ | _
    · exact pendingCommand_cooling_congr hcooling
    · simp only [pendingCommand, hlighting]
    · simp only [pendingCommand, hlcd]
  unfold Shell.adoptOutcome
  split
  · exact ⟨rfl, rfl⟩
  · split
    · exact ⟨rfl, rfl⟩
    · split
      · split <;> exact hrow _ rfl rfl rfl rfl rfl
      · exact hrow _ rfl rfl rfl rfl rfl

theorem act_spares (hedits : action.edits shell ≠ some target) (hreplaces : ¬ action.Replaces shell)
    (hflush : ∀ now, action ≠ .flushWrites now) (hlink : action ≠ .takeLink) :
    Spares target shell (act shared action shell).2 := by
  cases action with
  | edit edit now =>
    cases target with
    | cooling => exact absurd rfl hedits
    | lighting row => exact (spares_cooling _).trans (spares_scheduleWrite (by simp))
  | grab grip value now =>
    have htarget : grip.target ≠ target := fun h => hedits (congrArg some h)
    refine spares_grab value htarget fun held hheld hsame => ?_
    by_contra hpending
    refine hreplaces ⟨held, hheld, fun h => htarget (h.symm.trans hsame), ?_⟩
    rw [hsame]
    exact Bool.eq_false_iff.mpr hpending
  | dragTo value now =>
    cases hdrag : shell.drag.any Drag.isCooling with
    | false =>
      have hsame : (act shared (.dragTo value now) shell).2 = shell := dragTo_eq value hdrag
      rw [hsame]
      exact ⟨rfl, rfl⟩
    | true =>
      cases target with
      | cooling => exact absurd (if_pos hdrag) hedits
      | lighting row => exact spares_dragTo value
  | release now => exact spares_release
  | revert now =>
    cases target with
    | cooling => exact absurd rfl hedits
    | lighting row =>
      have hcancel : Spares (.lighting row) shell
          { shell with cooling := shell.cooling.cancel shell.kraken, sent := none } := by
        cases row <;> exact ⟨rfl, rfl⟩
      exact hcancel.trans (spares_scheduleWrite (by simp))
  | editChannel channel program settles =>
    have hne : target ≠ .lighting (.channel channel) := fun h => hedits (congrArg some h.symm)
    exact (spares_setRow program hne).trans (spares_settle settles hne.symm)
  | editPanel preset settles =>
    have hne : target ≠ .lighting .lcd := fun h => hedits (congrArg some h.symm)
    have hpanel : Spares target shell { shell with lcd := preset } := by
      rcases target with _ | _ | _
      · exact ⟨rfl, rfl⟩
      · exact ⟨rfl, rfl⟩
      · exact absurd rfl hne
    exact hpanel.trans (spares_settle settles hne.symm)
  | resumePanel => exact ⟨rfl, rfl⟩
  | activateProfile name => exact ⟨rfl, rfl⟩
  | saveProfile panelEnabled => exact ⟨rfl, rfl⟩
  | deleteProfile => exact ⟨by rcases target with _ | _ | _ <;> rfl, rfl⟩
  | go => exact ⟨by rcases target with _ | _ | _ <;> rfl, rfl⟩
  | takeLink => exact absurd rfl hlink
  | adoptOutcome => exact spares_adoptOutcome shared.outcome
  | flushWrites now => exact absurd rfl (hflush now)

theorem act_sends (hflush : ∀ now, action ≠ .flushWrites now) {x : Command}
    (hx : x ∈ (act shared action shell).1.1) (hsubject : x.subject = target.subject) :
    target = .lighting .lcd ∧ shell.pendingCommand target = some x := by
  have hnot : x.subject = .profiles → False := by
    intro h
    rw [h] at hsubject
    rcases target with _ | _ | _ <;> cases hsubject
  cases action with
  | resumePanel =>
    obtain ⟨preset, hpreset, rfl⟩ := List.mem_map.mp hx
    obtain rfl : WriteTarget.lighting .lcd = target := WriteTarget.subject_injective hsubject
    refine ⟨rfl, ?_⟩
    unfold pendingCommand
    rw [Option.mem_toList.mp hpreset]
    rfl
  | activateProfile name =>
    obtain rfl := List.mem_singleton.mp hx
    exact (hnot rfl).elim
  | saveProfile panelEnabled =>
    obtain rfl := List.mem_singleton.mp hx
    exact (hnot rfl).elim
  | deleteProfile =>
    have hcommand : ∃ name, x = .deleteProfile name := by
      have hx : x ∈ (nextDeletion shell.link.activeProfile shell.confirmDelete).2.toList := hx
      unfold nextDeletion at hx
      split at hx
      · cases hx
      · split at hx
        · cases hx
        · split at hx
          · exact ⟨_, List.mem_singleton.mp hx⟩
          · cases hx
    obtain ⟨name, rfl⟩ := hcommand
    exact (hnot rfl).elim
  | flushWrites now => exact absurd rfl (hflush now)
  | edit edit now => cases hx
  | grab grip value now => cases hx
  | dragTo value now => cases hx
  | release now => cases hx
  | revert now => cases hx
  | editChannel channel program settles => cases hx
  | editPanel preset settles => cases hx
  | go => cases hx
  | takeLink => cases hx
  | adoptOutcome => cases hx

/-! ## A refresh -/

variable {link : LinkState}

theorem takeLink_isOpen (taken : Option LinkState) : (shell.takeLink taken).isOpen target = shell.isOpen target := by
  unfold takeLink
  split
  · rfl
  · dsimp only
    unfold adoptCommittedProgram
    dsimp only
    split <;> rfl

theorem find?_syncLighting {channels : List UInt8} {rows : List (UInt8 × Option LightingProgram)} {channel : UInt8}
    {program : LightingProgram} (hrow : (rows.find? (·.1 = channel)).bind Prod.snd = some program)
    (hmem : channel ∈ channels) :
    ((syncLighting channels rows).find? (·.1 = channel)).bind Prod.snd = some program := by
  obtain ⟨row, hfound, hprogram⟩ := Option.bind_eq_some_iff.mp hrow
  have hentry : (channel, some program) ∈ syncLighting channels rows := by
    unfold syncLighting
    rw [List.mem_insertionSort, List.mem_map]
    refine ⟨channel, hmem, ?_⟩
    rw [hfound, ← hprogram]
  cases hfirst : (syncLighting channels rows).find? (·.1 = channel) with
  | none =>
    have hnone := List.find?_eq_none.mp hfirst _ hentry
    simp at hnone
  | some first =>
    have hkey : first.1 = channel := by simpa using List.find?_some hfirst
    have hin := List.mem_of_find?_eq_some hfirst
    unfold syncLighting at hin
    rw [List.mem_insertionSort, List.mem_map] at hin
    obtain ⟨other, -, rfl⟩ := hin
    obtain rfl : other = channel := hkey
    rw [Option.bind_some, hfound]
    exact hprogram

/-- The program that what is taken of a link puts in the editor. -/
def adopts (link : LinkState) (shell : Shell) : Option CoolingProgram :=
  programToAdopt (link.status.bind (·.cooling)) shell.committed
    (shell.drag.any Drag.isCooling || shell.due.isPending .cooling || shell.sent.isSome)

theorem takeLink_cooling :
    (shell.takeLink (some link)).cooling =
      match shell.adopts link with
      | none => shell.cooling
      | some program => shell.cooling.adopt program := by
  unfold takeLink adoptCommittedProgram adopts
  dsimp only
  cases programToAdopt (link.status.bind (·.cooling)) shell.committed
    (shell.drag.any Drag.isCooling || shell.due.isPending .cooling || shell.sent.isSome) <;> rfl

theorem takeLink_lighting :
    (shell.takeLink (some link)).lighting = syncLighting (link.lightingChannels.map (·.channel)) shell.lighting := rfl

theorem takeLink_lcd (taken : Option LinkState) :
    (shell.takeLink taken).pendingCommand (.lighting .lcd) = shell.pendingCommand (.lighting .lcd) := by
  cases taken with
  | none => rfl
  | some link =>
    unfold takeLink adoptCommittedProgram
    dsimp only
    split <;> rfl

theorem adopts_of_open (hopen : shell.isOpen .cooling = true) : shell.adopts link = none := by
  have hediting : (shell.drag.any Drag.isCooling || shell.due.isPending .cooling || shell.sent.isSome) = true := by
    unfold isOpen at hopen
    rw [Bool.or_eq_true] at hopen
    rcases hopen with hdue | hdrag
    · simp [hdue]
    · obtain ⟨drag, hdrag, htarget⟩ := Option.any_eq_true _ _ |>.mp hdrag
      have hcooling := (Drag.target_eq_cooling_iff drag).mp (of_decide_eq_true htarget)
      simp [hdrag, hcooling]
  unfold adopts programToAdopt
  rw [if_pos (.inl hediting)]

theorem takeLink_command {command : Command} (hcommand : shell.pendingCommand target = some command)
    (hopen : shell.isOpen target = true)
    (hrow : ∀ channel, target = .lighting (.channel channel) → channel ∈ link.lightingChannels.map (·.channel)) :
    (shell.takeLink (some link)).pendingCommand target = some command := by
  cases target with
  | cooling =>
    rw [pendingCommand_cooling_congr ?_, hcommand]
    rw [takeLink_cooling, adopts_of_open hopen]
  | lighting row =>
    cases row with
    | lcd => rw [takeLink_lcd, hcommand]
    | channel channel =>
      obtain ⟨program, hprogram, rfl⟩ := Option.map_eq_some_iff.mp hcommand
      have hkept := find?_syncLighting hprogram (hrow channel rfl)
      rw [← takeLink_lighting] at hkept
      unfold pendingCommand
      dsimp only
      rw [hkept]
      rfl

end Kori.Shell
