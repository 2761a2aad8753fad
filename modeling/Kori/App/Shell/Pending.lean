import Kori.App.Shell

/-! # What the window has still to write, and what a flush makes of it -/

open Faulty

namespace Kori

/-- What a gesture is going to schedule once it is released. -/
def Drag.target : Drag → WriteTarget
  | brightness row => .lighting row
  | duty _ => .cooling
  | curve .. => .cooling

/-- What a target's commands are addressed to. -/
def WriteTarget.subject : WriteTarget → CommandSubject
  | cooling => .cooling
  | lighting (.channel channel) => .lighting channel
  | lighting .lcd => .panel

theorem WriteTarget.subject_injective : Function.Injective WriteTarget.subject := by
  intro target other h
  rcases target with _ | ⟨_ | _⟩ <;> rcases other with _ | ⟨_ | _⟩ <;> simp_all [subject]

theorem Drag.target_eq_cooling_iff (drag : Drag) : drag.target = .cooling ↔ drag.isCooling = true := by
  cases drag <;> simp [target, isCooling]

/-! ## The schedule -/

namespace WriteSchedule

variable {schedule : WriteSchedule} {target other : WriteTarget} {deadline now : Duration}

theorem isPending_iff : schedule.isPending target = true ↔ ∃ entry ∈ schedule.due, entry.1 = target := by
  simp [isPending]

@[simp] theorem isPending_touch :
    (schedule.touch target deadline).isPending other = (decide (target = other) || schedule.isPending other) := by
  rw [Bool.eq_iff_iff, Bool.or_eq_true, decide_eq_true_eq, isPending_iff, isPending_iff]
  unfold touch
  split
  · rename_i hpending
    rw [← isPending, isPending_iff] at hpending
    simp only [List.mem_map, exists_exists_and_eq_and]
    constructor
    · rintro ⟨entry, hmem, hentry⟩
      split at hentry
      · exact .inl hentry
      · exact .inr ⟨entry, hmem, hentry⟩
    · rintro (rfl | ⟨entry, hmem, hentry⟩)
      · obtain ⟨entry, hmem, hentry⟩ := hpending
        exact ⟨entry, hmem, by simp [hentry]⟩
      · refine ⟨entry, hmem, ?_⟩
        split
        · rename_i hsame
          exact hsame.symm.trans hentry
        · exact hentry
  · simp only [List.mem_append, List.mem_singleton]
    constructor
    · rintro ⟨entry, hmem | rfl, hentry⟩
      · exact .inr ⟨entry, hmem, hentry⟩
      · exact .inl hentry
    · rintro (h | ⟨entry, hmem, hentry⟩)
      · exact ⟨_, .inr rfl, h⟩
      · exact ⟨entry, .inl hmem, hentry⟩

theorem takeDue_or_isPending (h : schedule.isPending target = true) :
    target ∈ (schedule.takeDue now).1 ∨ (schedule.takeDue now).2.isPending target = true := by
  obtain ⟨entry, hmem, rfl⟩ := isPending_iff.mp h
  by_cases hdue : entry.2 ≤ now
  · exact .inl (List.mem_map.mpr ⟨entry, List.mem_filter.mpr ⟨hmem, by simpa using hdue⟩, rfl⟩)
  · exact .inr (isPending_iff.mpr ⟨entry, List.mem_filter.mpr ⟨hmem, by simpa using hdue⟩, rfl⟩)

theorem isPending_of_takeDue
    (h : target ∈ (schedule.takeDue now).1 ∨ (schedule.takeDue now).2.isPending target = true) :
    schedule.isPending target = true := by
  rcases h with h | h
  · obtain ⟨entry, hmem, rfl⟩ := List.mem_map.mp h
    exact isPending_iff.mpr ⟨entry, (List.mem_filter.mp hmem).1, rfl⟩
  · obtain ⟨entry, hmem, hentry⟩ := isPending_iff.mp h
    exact isPending_iff.mpr ⟨entry, (List.mem_filter.mp hmem).1, hentry⟩

end WriteSchedule

namespace Shell

variable {shell after : Shell} {target : WriteTarget} {command : Command} {now : Duration}

/-! ## The editors -/

/-- What a target's editor would send: a row that can be sent, or a valid cooling program other than
onboard. -/
def pendingCommand (shell : Shell) : WriteTarget → Option Command
  | .cooling =>
    if shell.cooling.program = .onboard ∨ shell.cooling.validationError.isSome then none
    else some (.apply shell.cooling.program)
  | .lighting (.channel channel) =>
    ((shell.lighting.find? (·.1 = channel)).bind Prod.snd).map fun program => .applyLighting { channel, program }
  | .lighting .lcd => shell.lcd.map .applyDisplay

/-- What was last published says that the target already holds what its editor would send. -/
def alreadyHeld (shell : Shell) : WriteTarget → Bool
  | .cooling => !shell.cooling.pending shell.kraken
  | .lighting (.channel channel) =>
    (shell.link.lightingChannels.find? (·.channel = channel)).bind (·.committed) =
      (shell.lighting.find? (·.1 = channel)).bind Prod.snd
  | .lighting .lcd => shell.lcd.any fun preset =>
    (shell.link.status.bind (·.display.committed)).any fun shown => shown.Same preset

/-- An edit of the target waits for its deadline, or for a gesture to end. -/
def isOpen (shell : Shell) (target : WriteTarget) : Bool :=
  shell.due.isPending target || shell.drag.any fun drag => drag.target = target

theorem pendingCommand_subject (h : shell.pendingCommand target = some command) :
    command.subject = target.subject := by
  cases target with
  | cooling =>
    unfold pendingCommand at h
    dsimp only at h
    split at h
    · cases h
    · obtain rfl := Option.some.inj h
      rfl
  | lighting row =>
    cases row with
    | channel channel =>
      obtain ⟨program, -, rfl⟩ := Option.map_eq_some_iff.mp h
      rfl
    | lcd =>
      obtain ⟨preset, -, rfl⟩ := Option.map_eq_some_iff.mp h
      rfl

/-- The editors, the gesture and what was published are the same. -/
structure SameEditors (shell after : Shell) : Prop where
  cooling : after.cooling = shell.cooling
  lighting : after.lighting = shell.lighting
  lcd : after.lcd = shell.lcd
  drag : after.drag = shell.drag
  link : after.link = shell.link

namespace SameEditors

theorem refl (shell : Shell) : SameEditors shell shell := ⟨rfl, rfl, rfl, rfl, rfl⟩

theorem trans {later : Shell} (h : SameEditors shell after) (h' : SameEditors after later) :
    SameEditors shell later :=
  ⟨h'.cooling.trans h.cooling, h'.lighting.trans h.lighting, h'.lcd.trans h.lcd, h'.drag.trans h.drag,
    h'.link.trans h.link⟩

theorem pendingCommand (h : SameEditors shell after) (target : WriteTarget) :
    after.pendingCommand target = shell.pendingCommand target := by
  rcases target with _ | _ | _ <;>
    simp only [Shell.pendingCommand, h.cooling, h.lighting, h.lcd]

theorem alreadyHeld (h : SameEditors shell after) (target : WriteTarget) :
    after.alreadyHeld target = shell.alreadyHeld target := by
  rcases target with _ | _ | _ <;>
    simp only [Shell.alreadyHeld, Shell.kraken, h.cooling, h.lighting, h.lcd, h.link]

end SameEditors

theorem scheduleWrite_same (target : WriteTarget) (now : Duration) :
    SameEditors shell (shell.scheduleWrite target now) := ⟨rfl, rfl, rfl, rfl, rfl⟩

@[simp] theorem isPending_scheduleWrite (other : WriteTarget) :
    (shell.scheduleWrite target now).due.isPending other = (decide (target = other) || shell.due.isPending other) :=
  WriteSchedule.isPending_touch

/-! ## One flushed target -/

/-- Whether a target whose deadline has passed has to wait all the same. -/
def isHeldBack (shell : Shell) (target : WriteTarget) : Bool :=
  writeIsHeldBack target shell.drag shell.sent.isSome

theorem flushTarget_same (other : WriteTarget) : SameEditors shell (flushTarget now other shell).2 := by
  unfold flushTarget
  split
  · exact scheduleWrite_same other now
  · rcases other with _ | _ | _
    · dsimp only
      unfold sendCooling
      split <;> exact ⟨rfl, rfl, rfl, rfl, rfl⟩
    · exact .refl shell
    · exact .refl shell

theorem flushTarget_pending (other target : WriteTarget) :
    (flushTarget now other shell).2.due.isPending target =
      ((decide (other = target) && shell.isHeldBack other) || shell.due.isPending target) := by
  unfold flushTarget isHeldBack
  split
  · rename_i hheld
    simp [hheld]
  · rename_i hfree
    rw [Bool.not_eq_true] at hfree
    rw [hfree, Bool.and_false, Bool.false_or]
    rcases other with _ | _ | _
    · dsimp only
      unfold sendCooling
      split <;> rfl
    · rfl
    · rfl

theorem flushTarget_sends (target : WriteTarget) {x : Command} (hx : x ∈ (flushTarget now target shell).1) :
    x.subject = target.subject ∧ ∀ command, shell.pendingCommand target = some command → x = command := by
  unfold flushTarget at hx
  split at hx
  · cases hx
  · cases target with
    | cooling =>
      dsimp only at hx
      unfold sendCooling at hx
      split at hx
      · cases hx
      · obtain rfl := List.mem_singleton.mp hx
        refine ⟨rfl, fun command hcommand => ?_⟩
        unfold pendingCommand at hcommand
        dsimp only at hcommand
        split at hcommand
        · cases hcommand
        · exact Option.some.inj hcommand
    | lighting row =>
      cases row with
      | channel channel =>
        dsimp only at hx
        unfold sendLighting at hx
        split at hx
        · cases hx
        · rename_i program hprogram
          split at hx
          · cases hx
          · obtain rfl := List.mem_singleton.mp hx
            refine ⟨rfl, fun command hcommand => ?_⟩
            obtain ⟨other, hother, rfl⟩ := Option.map_eq_some_iff.mp hcommand
            cases hprogram.symm.trans hother
            rfl
      | lcd =>
        dsimp only at hx
        unfold sendDisplay at hx
        split at hx
        · cases hx
        · rename_i preset hpreset
          split at hx
          · cases hx
          · obtain rfl := List.mem_singleton.mp hx
            refine ⟨rfl, fun command hcommand => ?_⟩
            obtain ⟨other, hother, rfl⟩ := Option.map_eq_some_iff.mp hcommand
            cases hpreset.symm.trans hother
            rfl

theorem mem_flushTarget (hcommand : shell.pendingCommand target = some command)
    (hfree : shell.isHeldBack target = false) (hheld : shell.alreadyHeld target = false) :
    command ∈ (flushTarget now target shell).1 := by
  unfold flushTarget
  unfold isHeldBack at hfree
  rw [if_neg (by simp [hfree])]
  cases target with
  | cooling =>
    unfold pendingCommand at hcommand
    dsimp only at hcommand
    split at hcommand
    · cases hcommand
    · rename_i hvalid
      obtain rfl := Option.some.inj hcommand
      have hpending : shell.cooling.pending shell.kraken = true := by simpa [alreadyHeld] using hheld
      dsimp only
      unfold sendCooling
      rw [if_neg (by simpa [hpending] using (not_or.mp hvalid).2)]
      exact List.mem_singleton_self _
  | lighting row =>
    cases row with
    | channel channel =>
      obtain ⟨program, hprogram, rfl⟩ := Option.map_eq_some_iff.mp hcommand
      have hother : ¬ (shell.link.lightingChannels.find? (·.channel = channel)).bind (·.committed) = some program := by
        simpa [alreadyHeld, hprogram] using hheld
      dsimp only
      unfold sendLighting
      rw [hprogram]
      dsimp only
      rw [if_neg hother]
      exact List.mem_singleton_self _
    | lcd =>
      obtain ⟨preset, hpreset, rfl⟩ := Option.map_eq_some_iff.mp hcommand
      have hother : ¬ (shell.link.status.bind (·.display.committed)).any fun shown => shown.Same preset := by
        simpa only [alreadyHeld, hpreset, Option.any_some, Bool.not_eq_true] using hheld
      dsimp only
      unfold sendDisplay
      rw [hpreset]
      dsimp only
      rw [if_neg hother]
      exact List.mem_singleton_self _

/-! ## A flush -/

/-- What a flush of some targets does to one of them. -/
structure FlushedFor (target : WriteTarget) (targets : List WriteTarget) (shell : Shell) (commands : List Command)
    (after : Shell) : Prop where
  same : SameEditors shell after
  only : ∀ x ∈ commands, x.subject = target.subject → target ∈ targets ∧
    ∀ command, shell.pendingCommand target = some command → x = command
  kept : shell.due.isPending target = true → after.due.isPending target = true
  scheduled : after.due.isPending target = true → target ∈ targets ∨ shell.due.isPending target = true
  settled : target ∈ targets → ∀ command, shell.pendingCommand target = some command →
    after.due.isPending target = true ∨ command ∈ commands ∨
      shell.isHeldBack target = false ∧ shell.alreadyHeld target = true

theorem isHeldBack_flushTarget {other : WriteTarget} (hne : other ≠ target) :
    (flushTarget now other shell).2.isHeldBack target = shell.isHeldBack target := by
  have hdrag := (@flushTarget_same shell now other).drag
  unfold isHeldBack
  rw [hdrag]
  cases target with
  | lighting row => rfl
  | cooling =>
    cases other with
    | cooling => exact absurd rfl hne
    | lighting row =>
      have hsent : (flushTarget now (.lighting row) shell).2.sent = shell.sent := by
        unfold flushTarget
        split
        · rfl
        · cases row <;> rfl
      rw [hsent]

theorem flushTargets_for (target : WriteTarget) (targets : List WriteTarget) :
    FlushedFor target targets shell (flushTargets now targets shell).1 (flushTargets now targets shell).2 := by
  induction targets generalizing shell with
  | nil => exact ⟨.refl shell, by simp [flushTargets], id, .inr, by simp⟩
  | cons first rest ih =>
    have hrest := @ih (flushTarget now first shell).2
    have hsame := @flushTarget_same shell now first
    have hpending := @flushTarget_pending shell now first target
    have hcommands : (flushTargets now (first :: rest) shell).1 =
        (flushTarget now first shell).1 ++ (flushTargets now rest (flushTarget now first shell).2).1 := rfl
    have hafter : (flushTargets now (first :: rest) shell).2 =
        (flushTargets now rest (flushTarget now first shell).2).2 := rfl
    rw [hcommands, hafter]
    refine ⟨hsame.trans hrest.same, fun x hx hsubject => ?_, fun h => hrest.kept ?_, fun h => ?_,
      fun hmem command hcommand => ?_⟩
    · rcases List.mem_append.mp hx with hx | hx
      · obtain ⟨hfirst, honly⟩ := flushTarget_sends first hx
        obtain rfl := WriteTarget.subject_injective (hfirst.symm.trans hsubject)
        exact ⟨List.mem_cons_self, honly⟩
      · obtain ⟨hmem, honly⟩ := hrest.only x hx hsubject
        rw [hsame.pendingCommand] at honly
        exact ⟨List.mem_cons_of_mem _ hmem, honly⟩
    · rw [hpending, h, Bool.or_true]
    · rcases hrest.scheduled h with hmem | h
      · exact .inl (List.mem_cons_of_mem _ hmem)
      · rw [hpending, Bool.or_eq_true, Bool.and_eq_true, decide_eq_true_eq] at h
        rcases h with ⟨rfl, -⟩ | h
        · exact .inl List.mem_cons_self
        · exact .inr h
    · by_cases hfirst : first = target
      · subst hfirst
        cases hback : shell.isHeldBack first with
        | true => exact .inl (hrest.kept (by rw [hpending, hback]; simp))
        | false =>
          cases hheld : shell.alreadyHeld first with
          | true => exact .inr (.inr ⟨rfl, rfl⟩)
          | false => exact .inr (.inl (List.mem_append_left _ (mem_flushTarget hcommand hback hheld)))
      · have hmem : target ∈ rest := (List.mem_cons.mp hmem).resolve_left fun h => hfirst h.symm
        have hsettled := hrest.settled hmem command (by rw [hsame.pendingCommand, hcommand])
        rw [isHeldBack_flushTarget hfirst, hsame.alreadyHeld] at hsettled
        exact hsettled.imp_right fun h => h.imp_left (List.mem_append_right _)

/-- What a flush does to a target that was open or not. -/
structure Flushes (target : WriteTarget) (now : Duration) (shell : Shell) (commands : List Command)
    (after : Shell) : Prop where
  same : SameEditors shell after
  only : ∀ x ∈ commands, x.subject = target.subject → shell.due.isPending target = true ∧
    ∀ command, shell.pendingCommand target = some command → x = command
  scheduled : after.due.isPending target = true → shell.due.isPending target = true
  settled : shell.due.isPending target = true → ∀ command, shell.pendingCommand target = some command →
    after.due.isPending target = true ∨ command ∈ commands ∨
      target ∈ (shell.due.takeDue now).1 ∧ shell.isHeldBack target = false ∧ shell.alreadyHeld target = true

theorem flushWrites_for (target : WriteTarget) :
    Flushes target now shell (flushWrites now shell).1 (flushWrites now shell).2 := by
  have h := @flushTargets_for { shell with due := (shell.due.takeDue now).2 } now target (shell.due.takeDue now).1
  have hsame : SameEditors shell { shell with due := (shell.due.takeDue now).2 } := ⟨rfl, rfl, rfl, rfl, rfl⟩
  unfold flushWrites
  refine ⟨hsame.trans h.same, fun x hx hsubject => ?_, fun hpending => ?_, fun hpending command hcommand => ?_⟩
  · obtain ⟨hmem, honly⟩ := h.only x hx hsubject
    rw [hsame.pendingCommand] at honly
    exact ⟨WriteSchedule.isPending_of_takeDue (.inl hmem), honly⟩
  · exact WriteSchedule.isPending_of_takeDue (h.scheduled hpending)
  · rcases @WriteSchedule.takeDue_or_isPending _ _ now hpending with hmem | hstays
    · have hsettled := h.settled hmem command (by rw [hsame.pendingCommand, hcommand])
      rw [hsame.alreadyHeld] at hsettled
      exact hsettled.imp_right fun h => h.imp_right fun h => ⟨hmem, h⟩
    · exact .inl (h.kept hstays)

end Shell

end Kori
