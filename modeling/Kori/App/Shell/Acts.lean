import Kori.App.Feed.Accounting
import Kori.App.Shell

/-! # What each turn of the window and its worker does to the cooling write in flight -/

open Faulty

namespace Kori

namespace Shell

/-- No cooling write is among them. -/
def Quiet (commands : List Command) : Prop := ∀ command ∈ commands, command.subject ≠ .cooling

instance : DecidablePred Quiet := fun commands => inferInstanceAs (Decidable (∀ command ∈ commands, _))

theorem quiet_nil : Quiet [] := fun _ h => (nomatch h)

theorem quiet_append {first rest : List Command} (hfirst : Quiet first) (hrest : Quiet rest) : Quiet (first ++ rest) :=
  List.forall_mem_append.mpr ⟨hfirst, hrest⟩

/-- What a flush sends: nothing for the cooler, or one program, which it remembers. -/
def Flushed (shell : Shell) (commands : List Command) (after : Shell) : Prop :=
  after.outcome = shell.outcome ∧
    (after.sent = shell.sent ∧ Quiet commands ∨
      ∃ program, shell.sent = none ∧ after.sent = some program ∧ .apply program ∈ commands ∧
        ∀ command ∈ commands, command.subject = .cooling → command = .apply program)

variable {shell : Shell} {now : Duration}

theorem sendLighting_quiet (channel : UInt8) : Quiet (shell.sendLighting channel) := by
  unfold sendLighting
  split
  · exact quiet_nil
  · split
    · exact quiet_nil
    · simp [Quiet, Command.subject]

theorem sendDisplay_quiet : Quiet shell.sendDisplay := by
  unfold sendDisplay
  split
  · exact quiet_nil
  · split
    · exact quiet_nil
    · simp [Quiet, Command.subject]

theorem nextDeletion_quiet (active : Option String) (armed : Bool) : Quiet (nextDeletion active armed).2.toList := by
  unfold nextDeletion
  split
  · exact quiet_nil
  · split
    · exact quiet_nil
    · split
      · simp [Quiet, Command.subject]
      · exact quiet_nil

theorem flushTarget_flushed (target : WriteTarget) :
    Flushed shell (flushTarget now target shell).1 (flushTarget now target shell).2 := by
  unfold flushTarget
  split
  · exact ⟨rfl, .inl ⟨rfl, quiet_nil⟩⟩
  · rename_i hfree
    cases target with
    | cooling =>
      have hnone : shell.sent = none := by
        simp only [writeIsHeldBack, Bool.or_eq_true, not_or, Bool.not_eq_true] at hfree
        exact Option.not_isSome_iff_eq_none.mp (by simp [hfree.2])
      dsimp only
      unfold sendCooling
      split
      · exact ⟨rfl, .inl ⟨rfl, quiet_nil⟩⟩
      · refine ⟨rfl, .inr ⟨shell.cooling.program, hnone, rfl, List.mem_singleton_self _, ?_⟩⟩
        intro command hmem _
        exact List.mem_singleton.mp hmem
    | lighting row =>
      cases row with
      | channel channel => exact ⟨rfl, .inl ⟨rfl, sendLighting_quiet channel⟩⟩
      | lcd => exact ⟨rfl, .inl ⟨rfl, sendDisplay_quiet⟩⟩

theorem Flushed.append {first rest : List Command} {middle after : Shell} (hfirst : Flushed shell first middle)
    (hrest : Flushed middle rest after) : Flushed shell (first ++ rest) after := by
  obtain ⟨houtcome, hfirst⟩ := hfirst
  obtain ⟨houtcome', hrest⟩ := hrest
  refine ⟨houtcome'.trans houtcome, ?_⟩
  rcases hfirst with ⟨hsent, hquiet⟩ | ⟨program, hnone, hsome, hmem, honly⟩
  · rcases hrest with ⟨hsent', hquiet'⟩ | ⟨program, hnone, hsome, hmem, honly⟩
    · exact .inl ⟨hsent'.trans hsent, quiet_append hquiet hquiet'⟩
    · refine .inr ⟨program, hsent.symm.trans hnone, hsome, List.mem_append_right _ hmem, ?_⟩
      intro command hmem' hcooling
      rcases List.mem_append.mp hmem' with h | h
      · exact absurd hcooling (hquiet command h)
      · exact honly command h hcooling
  · rcases hrest with ⟨hsent', hquiet'⟩ | ⟨program', hnone', -⟩
    · refine .inr ⟨program, hnone, hsent'.trans hsome, List.mem_append_left _ hmem, ?_⟩
      intro command hmem' hcooling
      rcases List.mem_append.mp hmem' with h | h
      · exact honly command h hcooling
      · exact absurd hcooling (hquiet' command h)
    · rw [hsome] at hnone'
      cases hnone'

theorem flushTargets_flushed (targets : List WriteTarget) :
    Flushed shell (flushTargets now targets shell).1 (flushTargets now targets shell).2 := by
  induction targets generalizing shell with
  | nil => exact ⟨rfl, .inl ⟨rfl, quiet_nil⟩⟩
  | cons target rest ih => exact (flushTarget_flushed target).append ih

theorem flushWrites_flushed : Flushed shell (flushWrites now shell).1 (flushWrites now shell).2 :=
  @flushTargets_flushed { shell with due := (shell.due.takeDue now).2 } now (shell.due.takeDue now).1

/-- The rest of what happens in a window neither writes to the cooler nor settles a write to it. -/
structure Kept (shell after : Shell) : Prop where
  sent : after.sent = shell.sent
  outcome : after.outcome = shell.outcome

theorem settle_kept (target : WriteTarget) (settles : Option Duration) : Kept shell (shell.settle target settles) := by
  cases settles <;> exact ⟨rfl, rfl⟩

theorem dragTo_kept (value : UInt8) : Kept shell (shell.dragTo value now) := by
  unfold dragTo
  split
  · exact ⟨rfl, rfl⟩
  · exact ⟨rfl, rfl⟩
  · exact ⟨rfl, rfl⟩
  · dsimp only
    split <;> exact ⟨rfl, rfl⟩

theorem grab_kept (grip : Grip) (value : UInt8) : Kept shell (shell.grab grip value now) := by
  cases grip with
  | brightness row => exact ⟨rfl, rfl⟩
  | duty channel =>
    obtain ⟨hsent, houtcome⟩ := @dragTo_kept { shell with drag := some (.duty channel) } now value
    exact ⟨hsent, houtcome⟩
  | node channel node =>
    unfold grab
    dsimp only
    generalize hgrabbed : scheduleWrite _ _ _ = grabbed
    obtain ⟨hsent, houtcome⟩ := @dragTo_kept grabbed now value
    rw [← hgrabbed] at hsent houtcome ⊢
    exact ⟨hsent, houtcome⟩

theorem release_kept : Kept shell (shell.release now) := by
  unfold release
  dsimp only
  split <;> exact ⟨rfl, rfl⟩

theorem takeLink_kept (link : Option LinkState) : Kept shell (shell.takeLink link) := by
  unfold takeLink
  split
  · exact ⟨rfl, rfl⟩
  · dsimp only
    unfold adoptCommittedProgram
    dsimp only
    split <;> exact ⟨rfl, rfl⟩

/-- The outcome in the slot, while the window has not taken it. -/
def unseen (shared : Shared) (shell : Shell) : Option CommandOutcome :=
  shared.outcome.filter fun outcome => shell.outcome.map (·.sequence) ≠ some outcome.sequence

/-- What an action does to the cooling write in flight. -/
inductive Acted (shared : Shared) (action : Action) (shell : Shell) (commands : List Command)
    (recorded : Option CoolingProgram) (after : Shell) : Prop where
  | flushed (hflushed : Flushed shell commands after) (hrecorded : recorded = none)
      (htaken : action = .adoptOutcome → unseen shared shell = none)
  | reverted (hsent : after.sent = none) (houtcome : after.outcome = shell.outcome) (hcommands : commands = [])
      (hrecorded : recorded = none) (hrevert : ∃ now, action = .revert now)
  | adopted (outcome : CommandOutcome) (hunseen : unseen shared shell = some outcome)
      (houtcome : after.outcome = some outcome) (hcommands : commands = []) (hadopt : action = .adoptOutcome)
      (hsettled : outcome.subject = .cooling ∧ after.sent = none ∧
          recorded = (if outcome.severity = .confirmed then shell.sent else none) ∨
        outcome.subject ≠ .cooling ∧ after.sent = shell.sent ∧ recorded = none)

variable {shared : Shared} {action : Action}

theorem Kept.acted {after : Shell} {commands : List Command} (h : Kept shell after) (hcommands : Quiet commands)
    (haction : action ≠ .adoptOutcome) : Acted shared action shell commands none after :=
  .flushed ⟨h.outcome, .inl ⟨h.sent, hcommands⟩⟩ rfl fun hadopt => absurd hadopt haction

theorem adoptOutcome_acted :
    Acted shared .adoptOutcome shell [] (Shell.adoptOutcome shared.outcome shell).1
      (Shell.adoptOutcome shared.outcome shell).2 := by
  have hkept : unseen shared shell = none → Acted shared .adoptOutcome shell [] none shell := fun h =>
    .flushed ⟨rfl, .inl ⟨rfl, quiet_nil⟩⟩ rfl fun _ => h
  unfold Shell.adoptOutcome
  cases hslot : shared.outcome with
  | none => exact hkept (by simp [unseen, hslot])
  | some outcome =>
    dsimp only
    by_cases hseen : shell.outcome.map (·.sequence) = some outcome.sequence
    · rw [if_pos hseen]
      refine hkept ?_
      rw [unseen, hslot]
      exact if_neg fun h => absurd hseen (of_decide_eq_true h)
    · have hunseen : unseen shared shell = some outcome := by
        rw [unseen, hslot]
        exact if_pos (decide_eq_true hseen)
      rw [if_neg hseen]
      by_cases hcooling : outcome.subject = .cooling
      · rw [if_pos hcooling]
        cases hseverity : outcome.severity with
        | confirmed =>
          cases hsent : shell.sent with
          | none => exact .adopted outcome hunseen rfl rfl rfl (.inl ⟨hcooling, rfl, by simp [hseverity, hsent]⟩)
          | some program => exact .adopted outcome hunseen rfl rfl rfl (.inl ⟨hcooling, rfl, by simp [hseverity, hsent]⟩)
        | unconfirmed => exact .adopted outcome hunseen rfl rfl rfl (.inl ⟨hcooling, rfl, by simp [hseverity]⟩)
        | refused => exact .adopted outcome hunseen rfl rfl rfl (.inl ⟨hcooling, rfl, by simp [hseverity]⟩)
      · rw [if_neg hcooling]
        exact .adopted outcome hunseen rfl rfl rfl (.inr ⟨hcooling, rfl, rfl⟩)

/-- Every action of the window, once for all. -/
theorem act_acted :
    Acted shared action shell (act shared action shell).1.1 (act shared action shell).1.2 (act shared action shell).2 := by
  unfold act
  cases action with
  | edit edit now => exact Kept.acted ⟨rfl, rfl⟩ quiet_nil (by simp)
  | grab grip value now => exact (grab_kept grip value).acted quiet_nil (by simp)
  | dragTo value now => exact (dragTo_kept value).acted quiet_nil (by simp)
  | release now => exact release_kept.acted quiet_nil (by simp)
  | revert now => exact .reverted rfl rfl rfl rfl ⟨now, rfl⟩
  | editChannel channel program settles =>
    obtain ⟨hsent, houtcome⟩ := @settle_kept (shell.setRow channel program) (.lighting (.channel channel)) settles
    exact Kept.acted ⟨hsent, houtcome⟩ quiet_nil (by simp)
  | editPanel preset settles =>
    obtain ⟨hsent, houtcome⟩ := @settle_kept { shell with lcd := preset } (.lighting .lcd) settles
    exact Kept.acted ⟨hsent, houtcome⟩ quiet_nil (by simp)
  | resumePanel => exact Kept.acted ⟨rfl, rfl⟩ (by simp [Quiet, Command.subject]) (by simp)
  | activateProfile name => exact Kept.acted ⟨rfl, rfl⟩ (by simp [Quiet, Command.subject]) (by simp)
  | saveProfile panelEnabled => exact Kept.acted ⟨rfl, rfl⟩ (by simp [Quiet, Command.subject]) (by simp)
  | deleteProfile => exact Kept.acted ⟨rfl, rfl⟩ (nextDeletion_quiet _ _) (by simp)
  | go => exact Kept.acted ⟨rfl, rfl⟩ quiet_nil (by simp)
  | takeLink => exact (takeLink_kept shared.link).acted quiet_nil (by simp)
  | adoptOutcome => exact adoptOutcome_acted
  | flushWrites now => exact .flushed flushWrites_flushed rfl (by simp)

end Shell

/-! ## What is still to be answered -/

namespace Feed

variable {interval : Duration} {replies : Replies} {feed : Feed}

/-- The commands that have no outcome yet, in the order they will get one. -/
def unpublished (feed : Feed) : List Command := feed.executing.toList ++ feed.held

theorem sendAll_unpublished (commands : List Command) :
    (feed.sendAll commands).unpublished = feed.unpublished ++ commands := by
  simp [unpublished, held, sendAll, executing]

/-- A step of the worker keeps what it has to answer, answers the first command, or drops it. -/
inductive Moved (replies : Replies) (feed : Feed) (noted : Noted) (after : Feed) : Prop where
  | kept (hpublished : noted.published = none) (hunpublished : after.unpublished = feed.unpublished)
      (hslot : after.shared.outcome = feed.shared.outcome) (hsequence : after.sequence = feed.sequence)
  | published (answered : Published) (hpublished : noted.published = some answered)
      (hfirst : feed.unpublished = answered.command :: feed.held) (hunpublished : after.unpublished = feed.held)
      (hslot : after.shared.outcome = some answered.outcome) (hsequence : after.sequence = feed.sequence + 1)
      (hcount : answered.outcome.sequence = feed.sequence + 1) (hreported : answered.Reported)
  | dropped (command : Command) (hpublished : noted.published = none)
      (hunpublished : feed.unpublished = command :: after.unpublished)
      (hslot : after.shared.outcome = feed.shared.outcome) (hsequence : after.sequence = feed.sequence)

theorem work_moved :
    Moved replies feed (work interval replies feed).1 (work interval replies feed).2 ∧
      (work interval replies feed).1.sent = [] := by
  have hworked := @work_worked interval replies feed
  generalize work interval replies feed = r at hworked ⊢
  cases hworked with
  | idle hnoted hheld hexecuting hshared hsequence hwait =>
    rw [hnoted]
    refine ⟨.kept rfl ?_ hshared hsequence, rfl⟩
    simp [unpublished, held, hheld, hexecuting]
  | took command hnoted hheld hexecuting hshared hsequence hwait =>
    rw [hnoted]
    refine ⟨.kept rfl ?_ hshared hsequence, rfl⟩
    simp [unpublished, hheld, hexecuting]
  | published command outcome hnoted hheld hexecuting hshared hsequence houtcome hwait =>
    obtain ⟨hcount, hsubject, hseverity⟩ := houtcome
    rw [hnoted]
    refine ⟨.published ⟨command, replies.command, outcome⟩ rfl ?_ ?_ hshared hsequence hcount ⟨hsubject, hseverity⟩, rfl⟩
    · simp [unpublished, hexecuting]
    · simp [unpublished, held, hheld, hexecuting]
  | waited hnoted hheld hexecuting hshared hsequence hwait =>
    rw [hnoted]
    have hafter : r.2.unpublished = feed.inbox := by simp [unpublished, hheld, hexecuting]
    have hbefore : feed.unpublished = feed.pending.toList ++ feed.inbox := by simp [unpublished, held, hexecuting]
    cases hpending : feed.pending with
    | none =>
      refine ⟨.kept rfl ?_ hshared hsequence, rfl⟩
      rw [hafter, hbefore, hpending]
      rfl
    | some command =>
      refine ⟨.dropped command rfl ?_ hshared hsequence, rfl⟩
      rw [hafter, hbefore, hpending]
      rfl

end Feed

namespace App

abbrev AppTurn := Turn App Event Noted

def sent (t : AppTurn) : List Command := t.answer.sent

def published (t : AppTurn) : List Command := t.answer.published.toList.map Published.command

variable {interval : Duration} {app : App} {event : Event}

/-- What a turn of the window or of its worker does. -/
inductive Stepped (event : Event) (app : App) (noted : Noted) (after : App) : Prop where
  | window (action : Shell.Action) (hevent : event = .window action)
      (hacted : Shell.Acted app.feed.shared action app.shell noted.sent noted.recorded after.shell)
      (hfeed : after.feed = app.feed.sendAll noted.sent) (hpublished : noted.published = none)
  | work (replies : Replies) (hevent : event = .work replies) (hmoved : Feed.Moved replies app.feed noted.toNoted after.feed)
      (hshell : after.shell = app.shell) (hsent : noted.sent = []) (hrecorded : noted.recorded = none)
  | stopped (hevent : event = .stop) (hnoted : noted = {}) (hshell : after.shell = app.shell)
      (hunpublished : after.feed.unpublished = app.feed.unpublished) (hshared : after.feed.shared = app.feed.shared)
      (hsequence : after.feed.sequence = app.feed.sequence)

theorem step_stepped : Stepped event app (step interval event app).1 (step interval event app).2 := by
  unfold step
  cases event with
  | window action => exact .window action rfl Shell.act_acted rfl rfl
  | work replies =>
    obtain ⟨hmoved, hsent⟩ := @Feed.work_moved interval replies app.feed
    exact .work replies rfl hmoved rfl hsent rfl
  | stop => exact .stopped rfl rfl rfl rfl rfl rfl

/-- The outcome in the slot, while the window has not taken it. -/
def unseen (app : App) : Option CommandOutcome := Shell.unseen app.feed.shared app.shell

theorem unseen_congr {after : App} (hslot : after.feed.shared.outcome = app.feed.shared.outcome)
    (hshell : after.shell.outcome = app.shell.outcome) : after.unseen = app.unseen := by
  simp only [unseen, Shell.unseen, hslot, hshell]

theorem mem_unseen {outcome : CommandOutcome} (h : outcome ∈ app.unseen) : app.feed.shared.outcome = some outcome :=
  Option.eq_some_of_filter_eq_some h

theorem unseen_taken {outcome : CommandOutcome} (hslot : app.feed.shared.outcome = some outcome)
    (htaken : app.shell.outcome = some outcome) : app.unseen = none := by
  simp [unseen, Shell.unseen, hslot, htaken]

end App

end Kori
