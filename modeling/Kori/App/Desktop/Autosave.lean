import Kori.App.Desktop.Published
import Kori.App.Feed.Accounting

/-! # What becomes of the operator's last edit -/

open Faulty

namespace Kori.Desktop

variable {Raw : Type}

/-- The operator edits the target. -/
def Edits (target : WriteTarget) (t : DesktopTurn Raw) : Prop :=
  ∃ action, t.call = .window action ∧ action.edits t.before.shell = some target

/-- The commands sent for a target, in order. -/
def sentFor (target : WriteTarget) (ts : List (DesktopTurn Raw)) : List Command :=
  ts.flatMap fun t => t.answer.sent.filter fun command => command.subject = target.subject

/-! ## Where an edit ends -/

/-- A flush that takes the target from the schedule sends nothing for it. -/
def Skips (target : WriteTarget) (t : DesktopTurn Raw) : Prop :=
  (∃ now, t.call = .window (.flushWrites now)) ∧ t.before.shell.isOpen target = true ∧
    t.after.shell.isOpen target = false ∧ sentFor target [t] = []

/-- The last command sent for the target is this one, or the daemon's record and the device held it
when the send was skipped. -/
def Landed (target : WriteTarget) (command : Command) (ts : List (DesktopTurn Raw)) : Prop :=
  (sentFor target ts).getLast? = some command ∨ ∃ t ∈ ts, Skips target t ∧ Holds t.before.machine command

/-- A command other than this window's cooling writes changes the program the daemon has committed. -/
def Overrules (t : DesktopTurn Raw) : Prop :=
  ((∃ around request, t.call = .daemon (.request around request)) ∨
    ((∃ around fate elapsed, t.call = .work around fate elapsed) ∧
      ∃ command ∈ t.before.app.feed.executing, command.subject ≠ .cooling)) ∧
    t.after.machine.daemon.cooling.committedProgram ≠ t.before.machine.daemon.cooling.committedProgram

/-- The cooling program was overruled since it was last edited. -/
def Overruled (past : List (DesktopTurn Raw)) : Prop :=
  ∃ earlier u later, past = earlier ++ u :: later ∧ Overrules u ∧ ∀ t ∈ later, ¬ Edits .cooling t

/-- Nothing is scheduled and no gesture is held. -/
def Still (desktop : Desktop Raw) : Prop := desktop.shell.due.due = [] ∧ desktop.shell.drag = none

/-- The answer says that the cooler runs what was asked. -/
def saysConfirmed : Feed.Answer → Bool
  | .ok (.applied outcome) => outcome.hardware = .confirmed
  | _ => false

/-- The worker carries a program out, and it is answered as confirmed. -/
def Confirms (program : CoolingProgram) (t : DesktopTurn Raw) : Prop :=
  (∃ around fate elapsed, t.call = .work around fate elapsed ∧ fate (.applyProgram program) = .answered) ∧
  t.before.app.feed.executing = some (.apply program) ∧
  t.answer.published.any (fun published => saysConfirmed published.answer) = true

/-- Since the last cooling edit the program was confirmed, or skipped, and the record did not change. -/
def Settled (program : CoolingProgram) (past : List (DesktopTurn Raw)) : Prop :=
  ∃ earlier u later, past = earlier ++ u :: later ∧ (Confirms program u ∨ Skips .cooling u) ∧
    ∀ t ∈ later, ¬ Edits .cooling t ∧ ¬ Changes .cooling t

/-! ## What a turn must not do -/

/-- A turn that loses no edit. -/
structure Harmless (past : List (DesktopTurn Raw)) (t : DesktopTurn Raw) : Prop where
  /-- What a due write is taken for held by was published since, and agrees with itself. -/
  skips : ∀ now, t.call = .window (.flushWrites now) → ∀ target ∈ (t.before.shell.due.takeDue now).1,
    t.before.shell.isHeldBack target = false → t.before.shell.alreadyHeld target = true →
      (t.before.shell.pendingCommand target).isSome → Fresh target past t.before.shell.link ∧ Agrees t.before target
  /-- What is adopted after an edit was published since the edit was settled, unless it was overruled. -/
  adopts : t.call = .window .takeLink → ∀ link ∈ t.before.app.feed.shared.link,
    (t.before.shell.adopts link).isSome → (t.before.shell.pendingCommand .cooling).isSome →
      (∃ u ∈ past, Edits .cooling u) → ¬ Overruled past →
        Fresh .cooling past link ∧ Settled t.before.shell.cooling.program past
  /-- A row with an edit to send is still there. -/
  rows : t.call = .window .takeLink → ∀ link ∈ t.before.app.feed.shared.link, ∀ channel,
    t.before.shell.isOpen (.lighting (.channel channel)) = true →
    (t.before.shell.pendingCommand (.lighting (.channel channel))).isSome →
      channel ∈ link.lightingChannels.map (·.channel)
  gestures : ∀ action, t.call = .window action → ¬ action.Replaces t.before.shell
  belongs : ∀ action, t.call = .window action → action.Belongs t.before.shell
  /-- Devices that change by themselves stay on what is recorded. -/
  devices : ∀ cooler controller panel, t.call = .devices cooler controller panel →
    ({ t.before.machine with cooler, controller, panel } : Machine Raw).InStep
  level : t.before.machine.KeepsLevel

variable {toml : Toml Raw} {interval : Duration} {target : WriteTarget} {command : Command}
  {seen past : List (DesktopTurn Raw)} {desktop : Desktop Raw} {t : DesktopTurn Raw} {link : LinkState}

/-! ## How a run came here -/

theorem ask_inStep (machine : Machine Raw) (h : machine.InStep) (hlevel : machine.KeepsLevel) (around : Surroundings)
    (fate : Request → Fate) (request : Request) : (ask toml around fate request machine).2.InStep := by
  have hserve : (Machine.serve toml (.request around request) machine).2.InStep := h.serve hlevel _
  unfold ask
  dsimp only
  split
  · exact hserve
  · exact hserve
  · exact h

theorem Harmless.inStep {event : Event} (h : desktop.machine.InStep)
    (hharmless : Harmless past (turn (step toml interval) desktop event)) :
    (turn (step toml interval) desktop event).after.machine.InStep := by
  cases event with
  | window action => exact h
  | stop => exact h
  | daemon call => exact h.serve hharmless.level call
  | devices cooler controller panel => exact hharmless.devices cooler controller panel rfl
  | work around fate elapsed =>
    have hafter : (turn (step toml interval) desktop (.work around fate elapsed)).after.machine =
        desktop.worked toml around fate := rfl
    rw [hafter]
    unfold worked
    split
    · exact ask_inStep _ h hharmless.level around fate _
    · exact h

theorem Came.snoc (h : Came toml interval past desktop) {event : Event}
    (hharmless : Harmless past (turn (step toml interval) desktop event)) :
    Came toml interval (past ++ [turn (step toml interval) desktop event])
      (turn (step toml interval) desktop event).after := by
  refine ⟨h.led.snoc event, fun t ht => ?_, hharmless.inStep h.now⟩
  rcases List.mem_append.mp ht with ht | ht
  · exact h.before t ht
  · rw [List.mem_singleton.mp ht]
    exact h.now

theorem came_of_harmless (hstart : desktop.machine.InStep) {events : List Event} {earlier later : List (DesktopTurn Raw)}
    (hsplit : turns (step toml interval) desktop events = earlier ++ t :: later)
    (hharmless : Since Harmless [] (earlier ++ t :: later)) : Came toml interval (earlier ++ [t]) t.after := by
  have hstep : ∀ past (desktop : Desktop Raw) event, (Since Harmless [] past → Came toml interval past desktop) →
      Since Harmless [] (past ++ [turn (step toml interval) desktop event]) →
        Came toml interval (past ++ [turn (step toml interval) desktop event])
          (turn (step toml interval) desktop event).after := by
    intro past desktop event hpast hsince
    rw [since_append_iff] at hsince
    exact (hpast hsince.1).snoc hsince.2.1
  have hrun := @turns_since _ _ _ (step toml interval)
    (fun past desktop => Since Harmless [] past → Came toml interval past desktop)
    (fun past t => Since Harmless [] (past ++ [t]) → Came toml interval (past ++ [t]) t.after)
    (fun past desktop event hpast => ⟨hstep past desktop event hpast, hstep past desktop event hpast⟩)
    desktop events [] earlier later t (fun _ => ⟨.start desktop, by simp, hstart⟩) hsplit
  rw [List.append_cons, since_append_iff] at hharmless
  exact hrun hharmless.1

/-! ## One turn -/

theorem sentFor_append (ts us : List (DesktopTurn Raw)) : sentFor target (ts ++ us) = sentFor target ts ++ sentFor target us := by
  simp [sentFor]

theorem mem_sentFor {x : Command} : x ∈ sentFor target [t] ↔ x ∈ t.answer.sent ∧ x.subject = target.subject := by
  simp [sentFor]

theorem getLast?_of_forall_eq {commands : List Command} (hne : commands ≠ []) (h : ∀ x ∈ commands, x = command) :
    commands.getLast? = some command := by
  rw [List.getLast?_eq_some_getLast hne, h _ (List.getLast_mem hne)]

theorem landed_of_sent (honly : ∀ x ∈ sentFor target [t], x = command) (hmem : command ∈ sentFor target [t]) :
    Landed target command (seen ++ [t]) := by
  left
  rw [sentFor_append, List.getLast?_append, getLast?_of_forall_eq (List.ne_nil_of_mem hmem) honly]
  rfl

theorem Landed.snoc (h : Landed target command seen) (honly : ∀ x ∈ sentFor target [t], x = command) :
    Landed target command (seen ++ [t]) := by
  rcases h with h | ⟨u, hu, hskip⟩
  · left
    rw [sentFor_append, List.getLast?_append]
    by_cases hnone : sentFor target [t] = []
    · rw [hnone, h]
      rfl
    · rw [getLast?_of_forall_eq hnone honly]
      rfl
  · exact .inr ⟨u, List.mem_append_left _ hu, hskip⟩

/-- Where an edit is, after what was seen since: it waits, or it has landed. -/
inductive Tracked (target : WriteTarget) (command : Command) (seen : List (DesktopTurn Raw))
    (desktop : Desktop Raw) : Prop where
  | waiting (hopen : desktop.shell.isOpen target = true) (hcommand : desktop.shell.pendingCommand target = some command)
    (hskips : ∀ t ∈ seen, ¬ Skips target t)
  | landed (hclosed : desktop.shell.isOpen target = false) (hlanded : Landed target command seen)
      (hcommand : desktop.shell.pendingCommand target = some command ∨
        target = .cooling ∧ (∃ u ∈ seen, Overrules u) ∨ ∃ channel, target = .lighting (.channel channel))
      (hskips : ∀ t ∈ seen, Skips target t → Holds t.before.machine command)

theorem forall_snoc {P : DesktopTurn Raw → Prop} (h : ∀ u ∈ seen, P u) (hlast : P t) : ∀ u ∈ seen ++ [t], P u := by
  intro u hu
  rcases List.mem_append.mp hu with hu | hu
  · exact h u hu
  · rw [List.mem_singleton.mp hu]
    exact hlast

theorem Tracked.spared (h : Tracked target command seen desktop)
    (hspares : Shell.Spares target desktop.shell t.after.shell) (hskips : ¬ Skips target t)
    (hsends : ∀ x ∈ sentFor target [t], target = .lighting .lcd ∧ desktop.shell.pendingCommand target = some x) :
    Tracked target command (seen ++ [t]) t.after := by
  cases h with
  | waiting hopen hcommand hwaits =>
    exact .waiting (hspares.isOpen.trans hopen) (hspares.command.trans hcommand) (forall_snoc hwaits hskips)
  | landed hclosed hlanded hcommand hheld =>
    refine .landed (hspares.isOpen.trans hclosed) (hlanded.snoc fun x hx => ?_) ?_
      (forall_snoc hheld fun h => absurd h hskips)
    · obtain ⟨rfl, hx⟩ := hsends x hx
      rcases hcommand with hcommand | ⟨hcooling, -⟩ | ⟨channel, hchannel⟩
      · exact Option.some.inj (hx.symm.trans hcommand)
      · cases hcooling
      · cases hchannel
    · rcases hcommand with hcommand | ⟨hcooling, u, hu, hoverrules⟩ | hchannel
      · exact .inl (hspares.command.trans hcommand)
      · exact .inr (.inl ⟨hcooling, u, List.mem_append_left _ hu, hoverrules⟩)
      · exact .inr (.inr hchannel)

theorem Tracked.flushed {now : Duration} (h : Tracked target command seen desktop)
    (hholds : target ∈ (desktop.shell.due.takeDue now).1 → desktop.shell.isHeldBack target = false →
      desktop.shell.alreadyHeld target = true → desktop.shell.pendingCommand target = some command →
        Holds desktop.machine command) :
    let t := turn (step toml interval) desktop (.window (.flushWrites now))
    Tracked target command (seen ++ [t]) t.after := by
  intro t
  have hflush := @Shell.flushWrites_for desktop.shell now target
  have hsent : ∀ x, x ∈ sentFor target [t] ↔ x ∈ (Shell.flushWrites now desktop.shell).1 ∧ x.subject = target.subject :=
    fun x => mem_sentFor
  change Shell.Flushes target now desktop.shell _ t.after.shell at hflush
  have hdrag := hflush.same.drag
  have hsame := hflush.same.pendingCommand target
  cases h with
  | landed hclosed hlanded hcommand hheld =>
    have hidle : desktop.shell.due.isPending target = false := by
      unfold Shell.isOpen at hclosed
      exact (Bool.or_eq_false_iff.mp hclosed).1
    have hspares : Shell.Spares target desktop.shell t.after.shell := by
      refine ⟨hsame, ?_⟩
      have hstill : t.after.shell.due.isPending target = false := by
        by_contra hpending
        rw [Bool.not_eq_false] at hpending
        rw [hflush.scheduled hpending] at hidle
        cases hidle
      unfold Shell.isOpen
      rw [hdrag, hstill, hidle]
    have hstays : ¬ Skips target t := fun hskip => by
      cases hclosed.symm.trans hskip.2.1
    refine Tracked.spared (.landed hclosed hlanded hcommand hheld) hspares hstays fun x hx => ?_
    obtain ⟨hx, hsubject⟩ := (hsent x).mp hx
    rw [(hflush.only x hx hsubject).1] at hidle
    cases hidle
  | waiting hopen hcommand hwaits =>
    cases hafter : t.after.shell.isOpen target with
    | true =>
      refine .waiting hafter (hsame.trans hcommand) (forall_snoc hwaits fun hskip => ?_)
      cases hafter.symm.trans hskip.2.2.1
    | false =>
      have hgone : t.after.shell.due.isPending target = false := by
        unfold Shell.isOpen at hafter
        exact (Bool.or_eq_false_iff.mp hafter).1
      -- The gesture is the same after a flush, so what was open was scheduled.
      have hdue : desktop.shell.due.isPending target = true := by
        unfold Shell.isOpen at hopen hafter
        rw [hdrag] at hafter
        rw [(Bool.or_eq_false_iff.mp hafter).2, Bool.or_false] at hopen
        exact hopen
      have honly : ∀ x ∈ sentFor target [t], x = command := fun x hx => by
        obtain ⟨hx, hsubject⟩ := (hsent x).mp hx
        exact (hflush.only x hx hsubject).2 command hcommand
      -- It was sent, or what was published says that it is held.
      have hsettled : command ∈ sentFor target [t] ∨ sentFor target [t] = [] ∧ Holds desktop.machine command := by
        by_cases hmem : command ∈ sentFor target [t]
        · exact .inl hmem
        · refine .inr ⟨List.eq_nil_iff_forall_not_mem.mpr fun x hx => hmem (honly x hx ▸ hx), ?_⟩
          rcases hflush.settled hdue command hcommand with hpending | hsends | ⟨htaken, hfree, hheld⟩
          · rw [hpending] at hgone
            cases hgone
          · exact absurd ((hsent command).mpr ⟨hsends, Shell.pendingCommand_subject hcommand⟩) hmem
          · exact hholds htaken hfree hheld hcommand
      refine .landed hafter ?_ (.inl (hsame.trans hcommand)) (forall_snoc (fun u hu hskip => absurd hskip (hwaits u hu)) ?_)
      · rcases hsettled with hmem | ⟨hnone, hheld⟩
        · exact landed_of_sent honly hmem
        · exact .inr ⟨t, by simp, ⟨⟨now, rfl⟩, hopen, hafter, hnone⟩, hheld⟩
      · rintro ⟨-, -, -, hnone⟩
        rcases hsettled with hmem | ⟨-, hheld⟩
        · rw [hnone] at hmem
          cases hmem
        · exact hheld

theorem Tracked.refreshed (h : Tracked target command seen desktop)
    (hadopts : target = .cooling → desktop.shell.pendingCommand .cooling = some command →
      (∀ t ∈ seen, Skips .cooling t → Holds t.before.machine command) → (¬ ∃ u ∈ seen, Overrules u) →
      ∀ link ∈ desktop.app.feed.shared.link, ∀ program ∈ desktop.shell.adopts link,
        (desktop.shell.cooling.adopt program).program = desktop.shell.cooling.program)
    (hrows : ∀ link ∈ desktop.app.feed.shared.link, ∀ channel,
      desktop.shell.isOpen (.lighting (.channel channel)) = true →
      (desktop.shell.pendingCommand (.lighting (.channel channel))).isSome →
        channel ∈ link.lightingChannels.map (·.channel)) :
    let t := turn (step toml interval) desktop (.window .takeLink)
    Tracked target command (seen ++ [t]) t.after := by
  intro t
  have hafter : t.after.shell = desktop.shell.takeLink desktop.app.feed.shared.link := rfl
  have hnone : sentFor target [t] = [] := rfl
  have hisOpen : t.after.shell.isOpen target = desktop.shell.isOpen target := by
    rw [hafter, Shell.takeLink_isOpen]
  have hstays : ¬ Skips target t := fun ⟨⟨now, hcall⟩, _⟩ => nomatch hcall
  cases hlink : desktop.app.feed.shared.link with
  | none =>
    refine h.spared ⟨?_, hisOpen⟩ hstays (by simp [hnone])
    rw [hafter, hlink]
    rfl
  | some link =>
    rw [hlink] at hafter
    cases h with
    | waiting hopen hcommand hwaits =>
      refine .waiting (hisOpen.trans hopen) ?_ (forall_snoc hwaits hstays)
      rw [hafter]
      refine Shell.takeLink_command hcommand hopen fun channel hchannel => ?_
      subst hchannel
      exact hrows link hlink channel hopen (by rw [hcommand]; rfl)
    | landed hclosed hlanded hcommand hheld =>
      refine .landed (hisOpen.trans hclosed) (hlanded.snoc (by simp [hnone])) ?_
        (forall_snoc hheld fun h => absurd h hstays)
      rcases hcommand with hcommand | ⟨hcooling, u, hu, hoverrules⟩ | hchannel
      · rcases target with _ | channel | _
        · by_cases hoverruled : ∃ u ∈ seen, Overrules u
          · obtain ⟨u, hu, hoverrules⟩ := hoverruled
            exact .inr (.inl ⟨rfl, u, List.mem_append_left _ hu, hoverrules⟩)
          · refine .inl ?_
            rw [hafter, Shell.pendingCommand_cooling_congr ?_, hcommand]
            rw [Shell.takeLink_cooling]
            cases hprogram : desktop.shell.adopts link with
            | none => rfl
            | some program =>
              exact hadopts rfl hcommand hheld hoverruled link hlink program hprogram
        · exact .inr (.inr ⟨channel, rfl⟩)
        · refine .inl ?_
          rw [hafter, Shell.takeLink_lcd, hcommand]
      · exact .inr (.inl ⟨hcooling, u, List.mem_append_left _ hu, hoverrules⟩)
      · exact .inr (.inr hchannel)

theorem seen_of_split {before earlier later : List (DesktopTurn Raw)} {edit u : DesktopTurn Raw}
    (hsplit : before ++ edit :: seen = earlier ++ u :: later) (hne : u ≠ edit) (hlater : edit ∉ later) : u ∈ seen := by
  rcases List.append_eq_append_iff.mp hsplit with ⟨middle, hearlier, hrest⟩ | ⟨middle, hbefore, hrest⟩
  · cases middle with
    | nil => exact absurd (List.cons.inj hrest).1.symm hne
    | cons first middle =>
      obtain ⟨-, hseen⟩ := List.cons.inj hrest
      simp [hseen]
  · cases middle with
    | nil => exact absurd (List.cons.inj hrest).1 hne
    | cons first middle =>
      obtain ⟨-, hseen⟩ := List.cons.inj hrest
      exact absurd (by simp [hseen]) hlater

section AfterTheEdit

variable {before : List (DesktopTurn Raw)} {edit : DesktopTurn Raw} {program : CoolingProgram}

theorem overruled_since (hedit : Edits .cooling edit) (h : Overruled (before ++ edit :: seen)) :
    ∃ u ∈ seen, Overrules u := by
  obtain ⟨earlier, u, later, hsplit, hoverrules, hlater⟩ := h
  refine ⟨u, seen_of_split hsplit ?_ fun hmem => hlater edit hmem hedit, hoverrules⟩
  rintro rfl
  obtain ⟨action, hcall, -⟩ := hedit
  rcases hoverrules.1 with ⟨around, request, hdaemon⟩ | ⟨⟨around, fate, elapsed, hwork⟩, -⟩
  · rw [hcall] at hdaemon
    cases hdaemon
  · rw [hcall] at hwork
    cases hwork

theorem Confirms.recorded (h : Confirms program t) (hreal : turn (step toml interval) t.before t.call = t)
    (hin : t.before.machine.InStep) : Desktop.recorded t.after.machine .cooling = some (.apply program) := by
  obtain ⟨⟨around, fate, elapsed, hcall, hfate⟩, hexecuting, hanswered⟩ := h
  obtain ⟨published, hpublished, hsays⟩ := Option.any_eq_true _ _ |>.mp hanswered
  obtain ⟨outcome, hanswer, hconfirmed⟩ : ∃ outcome, published.answer = .ok (.applied outcome) ∧
      outcome.hardware = .confirmed := by
    unfold saysConfirmed at hsays
    split at hsays
    · rename_i outcome hanswer
      exact ⟨outcome, hanswer, of_decide_eq_true hsays⟩
    · cases hsays
  obtain ⟨refreshProfiles, hphase⟩ := Feed.phase_of_executing hexecuting
  rw [hcall] at hreal
  rw [← hreal] at hpublished ⊢
  have hask : ask toml around fate (.applyProgram program) t.before.machine =
      (.ok (Machine.handle toml around (.applyProgram program) t.before.machine).1,
        (Machine.handle toml around (.applyProgram program) t.before.machine).2) := by
    unfold ask
    dsimp only
    rw [hfate]
  have hafter : (turn (step toml interval) t.before (.work around fate elapsed)).after.machine =
      (Machine.handle toml around (.applyProgram program) t.before.machine).2 := by
    change t.before.worked toml around fate = _
    unfold worked
    rw [hexecuting]
    exact congrArg Prod.snd hask
  have hreply : published.answer = .ok (Machine.handle toml around (.applyProgram program) t.before.machine).1 := by
    change (Feed.work interval (t.before.replies toml around fate elapsed) t.before.app.feed).1.published = _ at hpublished
    unfold Feed.work at hpublished
    rw [hphase] at hpublished
    obtain rfl := Option.some.inj hpublished
    unfold replies
    dsimp only
    rw [hexecuting]
    exact congrArg Prod.fst hask
  have hhandled := Except.ok.inj (hreply.symm.trans hanswer)
  rw [hafter]
  unfold Desktop.recorded
  dsimp only
  rw [Machine.handle_recorded hin.cooling hhandled hconfirmed]
  rfl

/-- A program that was settled since the last edit is still the recorded one. -/
theorem Settled.recorded (h : Settled program (before ++ edit :: seen)) (hedit : Edits .cooling edit)
    (hcame : Came toml interval (before ++ edit :: seen) desktop)
    (hheld : ∀ t ∈ seen, Skips .cooling t → Holds t.before.machine (.apply program)) :
    Desktop.recorded desktop.machine .cooling = some (.apply program) := by
  obtain ⟨earlier, u, later, hsplit, hsettles, hlater⟩ := h
  have hmem : u ∈ before ++ edit :: seen := by simp [hsplit]
  have hafter : Desktop.recorded u.after.machine .cooling = some (.apply program) := by
    rcases hsettles with hconfirms | hskips
    · exact hconfirms.recorded (hcame.led.turn_eq hmem) (hcame.before u hmem)
    · have hne : u ≠ edit := by
        rintro rfl
        obtain ⟨⟨now, hcall⟩, -⟩ := hskips
        obtain ⟨action, haction, hedits⟩ := hedit
        cases hcall.symm.trans haction
        cases hedits
      have hseen := seen_of_split hsplit hne fun hmem => (hlater edit hmem).1 hedit
      have hcommitted := (hheld u hseen hskips).1
      have hsame : u.after.machine = u.before.machine := by
        obtain ⟨⟨now, hcall⟩, -⟩ := hskips
        rw [← hcame.led.turn_eq hmem, hcall]
        rfl
      unfold Desktop.recorded
      dsimp only
      rw [hsame, hcommitted]
      rfl
  rw [hsplit] at hcame
  rw [← hafter]
  exact hcame.led.same_since (fun d => Desktop.recorded d.machine .cooling) fun t ht => not_not.mp (hlater t ht).2

theorem adopted_same (hedit : Edits .cooling edit) (hcame : Came toml interval (before ++ edit :: seen) desktop)
    (hcommand : desktop.shell.pendingCommand .cooling = some command)
    (hheld : ∀ t ∈ seen, Skips .cooling t → Holds t.before.machine command)
    (hadopts : Fresh .cooling (before ++ edit :: seen) link ∧
      Settled desktop.shell.cooling.program (before ++ edit :: seen))
    (hprogram : desktop.shell.adopts link = some program) :
    (desktop.shell.cooling.adopt program).program = desktop.shell.cooling.program := by
  obtain ⟨hfresh, hsettled⟩ := hadopts
  unfold Shell.pendingCommand at hcommand
  dsimp only at hcommand
  split at hcommand
  · cases hcommand
  · rename_i hvalid
    obtain rfl := Option.some.inj hcommand
    have hshown : published link .cooling = some (.apply program) := by
      unfold Shell.adopts programToAdopt at hprogram
      split at hprogram
      · cases hprogram
      · unfold published
        dsimp only
        rw [hprogram]
        rfl
    have hsame : program = desktop.shell.cooling.program := by
      have hrecorded := (hfresh.recorded hcame hshown).symm.trans (hsettled.recorded hedit hcame hheld)
      exact Command.apply.inj (Option.some.inj hrecorded)
    have haccepted : validateProgram program = .ok () := by
      rw [hsame]
      by_contra herror
      refine (not_or.mp hvalid).2 ?_
      unfold CoolingEditor.validationError
      cases hresult : validateProgram desktop.shell.cooling.program with
      | error error => rfl
      | ok => exact absurd hresult herror
    rcases @CoolingEditor.adopt_spec desktop.shell.cooling _ haccepted with ⟨hopened, -⟩ | ⟨hkept, -⟩
    · rw [hopened, hsame]
    · rw [hkept]

theorem Tracked.next (h : Tracked target command seen desktop) (hedit : Edits target edit)
    (hcame : Came toml interval (before ++ edit :: seen) desktop) {event : Event}
    (hharmless : Harmless (before ++ edit :: seen) (turn (step toml interval) desktop event))
    (hedits : ¬ Edits target (turn (step toml interval) desktop event)) :
    Tracked target command (seen ++ [turn (step toml interval) desktop event])
      (turn (step toml interval) desktop event).after := by
  have hidle (hcall : ∀ action, event ≠ .window action)
      (hspares : Shell.Spares target desktop.shell (turn (step toml interval) desktop event).after.shell)
      (hsent : (turn (step toml interval) desktop event).answer.sent = []) :
      Tracked target command (seen ++ [turn (step toml interval) desktop event])
        (turn (step toml interval) desktop event).after :=
    h.spared hspares (fun ⟨⟨now, hflush⟩, _⟩ => hcall _ hflush) fun x hx => by simp [mem_sentFor, hsent] at hx
  cases event with
  | work around fate elapsed =>
    exact hidle (by simp) ⟨rfl, rfl⟩ (@Feed.work_moved interval (desktop.replies toml around fate elapsed) desktop.app.feed).2
  | stop => exact hidle (by simp) ⟨rfl, rfl⟩ rfl
  | daemon call => exact hidle (by simp) ⟨rfl, rfl⟩ rfl
  | devices cooler controller panel => exact hidle (by simp) ⟨rfl, rfl⟩ rfl
  | window action =>
    have hnot : action.edits desktop.shell ≠ some target := fun h => hedits ⟨action, rfl, h⟩
    have hspared (hflush : ∀ now, action ≠ .flushWrites now) (hlink : action ≠ .takeLink) :
        Tracked target command (seen ++ [turn (step toml interval) desktop (.window action)])
          (turn (step toml interval) desktop (.window action)).after := by
      refine h.spared (Shell.act_spares hnot (hharmless.gestures action rfl) hflush hlink)
        (fun ⟨⟨now, hcall⟩, _⟩ => hflush now (Event.window.inj hcall)) fun x hx => ?_
      obtain ⟨hx, hsubject⟩ := mem_sentFor.mp hx
      exact Shell.act_sends hflush hx hsubject
    by_cases hlink : action = .takeLink
    · subst hlink
      refine h.refreshed (fun hcooling hcommand hheld hoverruled link hlink program hprogram => ?_) (hharmless.rows rfl)
      subst hcooling
      refine adopted_same hedit hcame hcommand hheld ?_ hprogram
      exact hharmless.adopts rfl link hlink (Option.isSome_iff_exists.mpr ⟨program, hprogram⟩)
        (Option.isSome_iff_exists.mpr ⟨command, hcommand⟩) ⟨edit, by simp, hedit⟩ fun h => hoverruled (overruled_since hedit h)
    · by_cases hflush : ∃ now, action = .flushWrites now
      · obtain ⟨now, rfl⟩ := hflush
        refine h.flushed fun htaken hfree hheld hcommand => ?_
        obtain ⟨hfresh, hagrees⟩ := hharmless.skips now rfl target htaken hfree hheld
          (Option.isSome_iff_exists.mpr ⟨command, hcommand⟩)
        exact holds_of_held hcame.now (fun shown => hfresh.recorded hcame) hagrees hheld hcommand
      · exact hspared (fun now hnow => hflush ⟨now, hnow⟩) hlink

theorem Tracked.run (hedit : Edits target edit) (events : List Event) (h : Tracked target command seen desktop)
    (hcame : Came toml interval (before ++ edit :: seen) desktop)
    (hharmless : Since Harmless (before ++ edit :: seen) (turns (step toml interval) desktop events))
    (hedits : ∀ t ∈ turns (step toml interval) desktop events, ¬ Edits target t) :
    Tracked target command (seen ++ turns (step toml interval) desktop events)
      (afterAll (step toml interval) desktop events) := by
  induction events generalizing desktop seen with
  | nil =>
    rw [turns, List.append_nil]
    exact h
  | cons event rest ih =>
    rw [turns, List.forall_mem_cons] at hedits
    obtain ⟨hfirst, hlater⟩ := hharmless
    have hnext := h.next hedit hcame hfirst hedits.1
    have hon := hcame.snoc hfirst
    rw [List.append_assoc, List.cons_append] at hlater hon
    have hrest := ih hnext hon hlater hedits.2
    rwa [List.append_assoc] at hrest

end AfterTheEdit

/-- In every run that starts with the devices on what the daemon has recorded and whose turns lose no
edit: once nothing is scheduled and no gesture is held, the last edit of every target has landed, and the
editor still holds a cooling program unless it was overruled. -/
theorem last_edit_lands (toml : Toml Raw) (interval : Duration) (desktop : Desktop Raw) (events : List Event)
    (hstart : desktop.machine.InStep) (hharmless : Since Harmless [] (turns (step toml interval) desktop events))
    {target : WriteTarget} {before after : List (DesktopTurn Raw)} {edit : DesktopTurn Raw}
    (hsplit : turns (step toml interval) desktop events = before ++ edit :: after) (hedit : Edits target edit)
    (hlast : ∀ t ∈ after, ¬ Edits target t) {command : Command}
    (hcommand : edit.after.shell.pendingCommand target = some command) :
    (Still (afterAll (step toml interval) desktop events) → Landed target command after) ∧
    (target = .cooling →
      (afterAll (step toml interval) desktop events).shell.pendingCommand .cooling = some command ∨
        ∃ t ∈ after, Overrules t) := by
  obtain ⟨rest, hafter, hend⟩ := afterAll_split hsplit
  rw [hsplit] at hharmless
  have hcame := came_of_harmless hstart hsplit hharmless
  rw [since_append_iff] at hharmless
  obtain ⟨-, hedited, hsince⟩ := hharmless
  have hopen : edit.after.shell.isOpen target = true := by
    obtain ⟨action, hcall, hedits⟩ := hedit
    have hturn : turn (step toml interval) edit.before edit.call = edit :=
      eq_of_mem_turns (hsplit ▸ List.mem_append_right _ List.mem_cons_self)
    rw [hcall] at hturn
    rw [← hturn]
    exact Shell.act_opens hedits (hedited.belongs action hcall)
  subst hafter
  have hrun := Tracked.run hedit rest (.waiting hopen hcommand (by simp)) hcame hsince hlast
  rw [List.nil_append, ← hend] at hrun
  cases hrun with
  | waiting hopen hcommand hskips =>
    refine ⟨fun hstill => ?_, fun hcooling => .inl (hcooling ▸ hcommand)⟩
    obtain ⟨hdue, hdrag⟩ := hstill
    simp [Shell.isOpen, WriteSchedule.isPending, hdue, hdrag] at hopen
  | landed hclosed hlanded hcommand hskips =>
    refine ⟨fun _ => hlanded, fun hcooling => ?_⟩
    subst hcooling
    rcases hcommand with hcommand | ⟨-, hoverruled⟩ | ⟨channel, hchannel⟩
    · exact .inl hcommand
    · exact .inr hoverruled
    · cases hchannel

/-! ## A duty stepped up and back down -/

/-- At this event nothing is skipped, nothing adopted and no row lost. -/
def isQuiet (desktop : Desktop Raw) : Event → Bool
  | .work .. | .window (.edit ..) | .window .adoptOutcome => true
  | .window (.flushWrites now) => (desktop.shell.due.takeDue now).1.all fun target => !desktop.shell.alreadyHeld target
  | .window .takeLink => decide (desktop.shell.due.due = []) && desktop.shell.drag.isNone &&
    desktop.app.feed.shared.link.all fun link => (desktop.shell.adopts link).isNone
  | _ => false

theorem keepsLevel_of_none (h : desktop.machine.daemon.display.brightness = none) : desktop.machine.KeepsLevel :=
  fun _ hb => nomatch h.symm.trans hb

theorem Harmless.of_work {around : Surroundings} {fate : Request → Fate} {elapsed : Duration}
    (hcall : t.call = .work around fate elapsed) (hlevel : t.before.machine.KeepsLevel) : Harmless past t := by
  have hnot : ∀ {event}, t.call = event → event ≠ .work around fate elapsed → False := fun h hne => hne (h.symm.trans hcall)
  constructor
  case skips => exact fun now h => (hnot h (by simp)).elim
  case adopts => exact fun h => (hnot h (by simp)).elim
  case rows => exact fun h => (hnot h (by simp)).elim
  case gestures => exact fun action h => (hnot h (by simp)).elim
  case belongs => exact fun action h => (hnot h (by simp)).elim
  case devices => exact fun cooler controller panel h => (hnot h (by simp)).elim
  case level => exact hlevel

theorem Harmless.of_window {action : Shell.Action} (hcall : t.call = .window action)
    (hlevel : t.before.machine.KeepsLevel)
    (hskips : ∀ now, action = .flushWrites now → ∀ target ∈ (t.before.shell.due.takeDue now).1,
      t.before.shell.alreadyHeld target = true → Fresh target past t.before.shell.link ∧ Agrees t.before target)
    (hadopts : action = .takeLink → Still t.before ∧ ∀ link ∈ t.before.app.feed.shared.link,
      (t.before.shell.adopts link).isSome → Fresh .cooling past link ∧ Settled t.before.shell.cooling.program past)
    (hgestures : ¬ action.Replaces t.before.shell) (hbelongs : action.Belongs t.before.shell) : Harmless past t := by
  have hsame : ∀ {other}, t.call = .window other → action = other := fun h => (Event.window.inj (h.symm.trans hcall)).symm
  constructor
  case skips => exact fun now h target htaken _ hheld _ => hskips now (hsame h) target htaken hheld
  case adopts => exact fun h link hlink hadopt _ _ _ => (hadopts (hsame h)).2 link hlink hadopt
  case rows =>
    intro h link hlink channel hopen
    obtain ⟨hdue, hdrag⟩ := (hadopts (hsame h)).1
    simp [Shell.isOpen, WriteSchedule.isPending, hdue, hdrag] at hopen
  case gestures => exact fun other h => hsame h ▸ hgestures
  case belongs => exact fun other h => hsame h ▸ hbelongs
  case devices =>
    intro cooler controller panel h
    cases h.symm.trans hcall
  case level => exact hlevel

theorem Harmless.of_quiet (hquiet : t.before.isQuiet t.call = true) (hlevel : t.before.machine.KeepsLevel) :
    Harmless past t := by
  unfold isQuiet at hquiet
  split at hquiet
  · rename_i hcall
    exact .of_work hcall hlevel
  · rename_i hcall
    exact .of_window hcall hlevel (by simp) (by simp) id trivial
  · rename_i hcall
    exact .of_window hcall hlevel (by simp) (by simp) id trivial
  · rename_i hcall
    refine .of_window hcall hlevel ?_ (by simp) id trivial
    rintro now ⟨⟩ target htaken hheld
    have hfree := List.all_eq_true.mp hquiet target htaken
    rw [hheld] at hfree
    cases hfree
  · rename_i hcall
    simp only [Bool.and_eq_true, decide_eq_true_eq, Option.isNone_iff_eq_none] at hquiet
    refine .of_window hcall hlevel (by simp) (fun _ => ⟨hquiet.1, fun link hlink hadopt => ?_⟩) id trivial
    have hnone := Option.all_eq_true _ _ |>.mp hquiet.2 link hlink
    rw [Option.isNone_iff_eq_none.mp hnone] at hadopt
    cases hadopt
  · cases hquiet

theorem since_of_quiet {ts : List (DesktopTurn Raw)}
    (h : ∀ t ∈ ts, t.before.isQuiet t.call = true ∧ t.before.machine.daemon.display.brightness = none) :
    Since Harmless past ts := by
  induction ts generalizing past with
  | nil => trivial
  | cons t ts ih =>
    rw [List.forall_mem_cons] at h
    exact ⟨.of_quiet h.1.1 (keepsLevel_of_none h.1.2), ih h.2⟩

/-- A sample of a cooler whose pump runs at a duty. -/
def benchSample (pump : UInt8) : TelemetrySnapshot :=
  let running (channel : Channel) (duty : UInt8) : ChannelTelemetry :=
    { channel, rpm := .unavailable (.absent "not sampled"), duty := .valid duty, mode := .valid .fixed }
  { benchSnapshot true with
    kraken := { (benchSnapshot true).kraken with pump := running .pump pump, fan := running .fan 128 } }

/-- What surrounds the daemon while that sample is its latest. -/
def benchAround (pump : UInt8) : Surroundings := { benchSurroundings true true with snapshot := benchSample pump }

/-- A window just opened on a cooler at the duties the screen starts from. -/
def benchDesktop : Desktop ConfigDocument :=
  let running : Attributes
    | .mode _ => .text ['1']
    | .duty .pump => .text ['1', '7', '9']
    | .duty .fan => .text ['1', '2', '8']
    | _ => .text ['0']
  { app := .opened none
    machine := .start plainToml configPath (benchAround 179) benchFound
      { benchOutside (fun _ => false) fun _ => false with
        cooler := { benchWorld ['0'] fun _ => false with state := running } } }

/-- A whole second of the worker's work. -/
def benchWork (pump : UInt8) (steps : Nat) : List Event :=
  List.replicate steps (.work (benchAround pump) (fun _ => .answered) 1000000000)

def benchRefresh (now : Duration) : List Event := (Shell.refresh now).map .window

/-- The window connects, and one edit is written. -/
def benchSent : List Event :=
  benchWork 179 3 ++ benchRefresh 0 ++
    [.window (.edit (.setMode .fixed) 0), .window (.edit (.adjustDuty .pump 1) 1), .window (.flushWrites 400000001)]

/-- It is executed and answered, and the sample is still the first. -/
def benchStep : List Event := benchSent ++ benchWork 179 4 ++ benchRefresh 500000000

def benchPoll : Event := .work (benchAround 181) (fun _ => .answered) 1000000000

/-- A poll publishes the sample that shows it. -/
def benchSeen : List Event := benchStep ++ benchWork 181 2 ++ [benchPoll]

/-- The same edit is made once more. -/
def benchRepeat : Event := .window (.edit (.setMode .fixed) 1600000000)

def benchFlush : Event := .window (.flushWrites 2000000000)

/-- The edit is undone. -/
def benchUndo : Event := .window (.edit (.adjustDuty .pump (-1)) 500000002)

/-- Its timer fires, and the window is refreshed once more. -/
def benchSettle : List Event := [.window (.flushWrites 900000002)] ++ benchWork 179 3 ++ benchRefresh 2000000000

theorem fresh_of_poll {events later : List Event} {poll : Event}
    (hpoll : Publishes link (turn (step toml interval) (afterAll (step toml interval) desktop events) poll))
    (hlater : ∀ t ∈ turns (step toml interval)
      (turn (step toml interval) (afterAll (step toml interval) desktop events) poll).after later, ¬ Changes target t) :
    Fresh target (turns (step toml interval) desktop (events ++ poll :: later)) link :=
  ⟨_, _, _, turns_append .., hpoll, hlater⟩

theorem settled_of_confirms {program : CoolingProgram} {events later : List Event} {executes : Event}
    (hconfirms : Confirms program (turn (step toml interval) (afterAll (step toml interval) desktop events) executes))
    (hlater : ∀ t ∈ turns (step toml interval)
      (turn (step toml interval) (afterAll (step toml interval) desktop events) executes).after later,
        ¬ Edits .cooling t ∧ ¬ Changes .cooling t) :
    Settled program (turns (step toml interval) desktop (events ++ executes :: later)) :=
  ⟨_, _, _, turns_append .., .inl hconfirms, hlater⟩

theorem benchDesktop_inStep : benchDesktop.machine.InStep :=
  Machine.inStep_start configPath benchFound _ (fun _ => rfl) ⟨rfl, rfl⟩

abbrev benchMove : Event → StateM (Desktop ConfigDocument) App.Noted := step plainToml 1000000000

theorem publishes_benchPoll {link : LinkState}
    (h : (afterAll benchMove benchDesktop benchSeen).app.feed.shared.link = some link) :
    Publishes link (turn benchMove (afterAll benchMove benchDesktop (benchStep ++ benchWork 181 2)) benchPoll) := by
  refine ⟨⟨_, _, _, rfl, rfl⟩, ⟨false, by decide +kernel⟩, by decide +kernel, by decide +kernel, by decide +kernel, ?_⟩
  rw [benchSeen, afterAll_append] at h
  exact h

theorem takeLink_link (shell : Shell) : (shell.takeLink (some link)).link = link := by
  unfold Shell.takeLink Shell.adoptCommittedProgram
  dsimp only
  split <;> rfl

theorem adoptOutcome_link (outcome : Option CommandOutcome) (shell : Shell) :
    (Shell.adoptOutcome outcome shell).2.link = shell.link := by
  unfold Shell.adoptOutcome
  repeat' split
  all_goals rfl

theorem benchSeen_link {link : LinkState}
    (h : (afterAll benchMove benchDesktop benchSeen).app.feed.shared.link = some link) :
    (afterAll benchMove benchDesktop (benchSeen ++ (benchRefresh 1500000000 ++ [benchRepeat]))).shell.link = link := by
  rw [afterAll_append]
  generalize afterAll benchMove benchDesktop benchSeen = seen at h ⊢
  let taken := seen.shell.takeLink seen.app.feed.shared.link
  let adopted := (Shell.adoptOutcome seen.app.feed.shared.outcome taken).2
  calc (afterAll benchMove seen (benchRefresh 1500000000 ++ [benchRepeat])).shell.link
      = (Shell.flushWrites 1500000000 adopted).2.link := rfl
    _ = adopted.link := (@Shell.flushWrites_for adopted 1500000000 .cooling).same.link
    _ = taken.link := adoptOutcome_link ..
    _ = link := by
      rw [show taken = seen.shell.takeLink (some link) from congrArg seen.shell.takeLink h]
      exact takeLink_link _

theorem publishes_benchSeen {link : LinkState} (later : List Event)
    (hlater : ∀ t ∈ turns benchMove (afterAll benchMove benchDesktop benchSeen) later, ¬ Changes .cooling t)
    (h : (afterAll benchMove benchDesktop benchSeen).app.feed.shared.link = some link) :
    Fresh .cooling (turns benchMove benchDesktop (benchSeen ++ later)) link := by
  rw [benchSeen, List.append_assoc, List.singleton_append]
  refine fresh_of_poll (publishes_benchPoll h) ?_
  rw [benchSeen, afterAll_append] at hlater
  exact hlater

theorem settled_benchSeen : Settled (.fixed 181 128) (turns benchMove benchDesktop benchSeen) := by
  have hsplit : benchSeen = (benchSent ++ benchWork 179 2) ++ .work (benchAround 179) (fun _ => .answered) 1000000000 ::
      (benchWork 179 1 ++ benchRefresh 500000000 ++ benchWork 181 3) := rfl
  rw [hsplit]
  refine settled_of_confirms ⟨⟨_, _, _, rfl, rfl⟩, by decide +kernel, by decide +kernel⟩ fun t ht => ⟨?_, ?_⟩
  · rintro ⟨action, hcall, hedits⟩
    have hmem := call_mem_of_mem_turns ht
    rw [hcall] at hmem
    simp [benchWork, benchRefresh, Shell.refresh] at hmem
    rcases hmem with rfl | rfl | rfl <;> cases hedits
  · revert t
    unfold Changes
    decide +kernel

theorem harmless_benchSeen :
    Since Harmless [] (turns benchMove benchDesktop (benchSeen ++ (benchRefresh 1500000000 ++ [benchRepeat]))) := by
  have hstart : ∀ t ∈ turns benchMove benchDesktop benchSeen,
    t.before.isQuiet t.call = true ∧ t.before.machine.daemon.display.brightness = none := by decide +kernel
  have hrest : ∀ t ∈ turns benchMove (turn benchMove (afterAll benchMove benchDesktop benchSeen) (.window .takeLink)).after
      [.window .adoptOutcome, .window (.flushWrites 1500000000), benchRepeat],
    t.before.isQuiet t.call = true ∧ t.before.machine.daemon.display.brightness = none := by decide +kernel
  have hprogram : (afterAll benchMove benchDesktop benchSeen).shell.cooling.program = .fixed 181 128 := by decide +kernel
  rw [turns_append, since_append_iff]
  refine ⟨since_of_quiet hstart, .of_window rfl (keepsLevel_of_none (by decide +kernel)) (by simp) (fun _ => ?_) id trivial,
    since_of_quiet hrest⟩
  refine ⟨⟨by decide +kernel, by decide +kernel⟩, fun link hlink _ => ⟨?_, ?_⟩⟩
  · have hfresh := publishes_benchSeen [] (by simp [turns]) hlink
    rwa [List.append_nil] at hfresh
  · change Settled (afterAll benchMove benchDesktop benchSeen).shell.cooling.program _
    rw [hprogram]
    exact settled_benchSeen

/-- The second edit finds what it asks for held, and is skipped. -/
theorem last_edit_lands_again :
    let asked := afterAll benchMove benchDesktop (benchSeen ++ (benchRefresh 1500000000 ++ [benchRepeat]))
    let flushed := turn benchMove asked benchFlush
    Landed .cooling (.apply (.fixed 181 128)) [flushed] ∧ sentFor .cooling [flushed] = [] := by
  intro asked flushed
  have hsplit : turns benchMove benchDesktop (benchSeen ++ (benchRefresh 1500000000 ++ [benchRepeat]) ++ [benchFlush]) =
      turns benchMove benchDesktop (benchSeen ++ benchRefresh 1500000000) ++
        turn benchMove (afterAll benchMove benchDesktop (benchSeen ++ benchRefresh 1500000000)) benchRepeat :: [flushed] := by
    rw [turns_append, ← List.append_assoc, turns_append, List.append_assoc]
    rfl
  have hflushed : Harmless (turns benchMove benchDesktop (benchSeen ++ (benchRefresh 1500000000 ++ [benchRepeat]))) flushed := by
    refine .of_window rfl (keepsLevel_of_none (by decide +kernel)) ?_ (by simp) id trivial
    rintro now ⟨⟩ target htaken -
    have hdue : (flushed.before.shell.due.takeDue 2000000000).1 = [.cooling] := by decide +kernel
    rw [hdue] at htaken
    obtain rfl := List.mem_singleton.mp htaken
    have hlink : (afterAll benchMove benchDesktop benchSeen).app.feed.shared.link.isSome = true := by decide +kernel
    obtain ⟨link, hlink⟩ := Option.isSome_iff_exists.mp hlink
    constructor
    · change Fresh .cooling _ asked.shell.link
      rw [benchSeen_link hlink]
      refine publishes_benchSeen _ ?_ hlink
      unfold Changes
      decide +kernel
    · exact ⟨.fixed 181 128, by decide +kernel, by decide +kernel, by decide +kernel⟩
  have hharmless : Since Harmless []
      (turns benchMove benchDesktop (benchSeen ++ (benchRefresh 1500000000 ++ [benchRepeat]) ++ [benchFlush])) := by
    rw [turns_append, since_append_iff]
    exact ⟨harmless_benchSeen, hflushed, trivial⟩
  have hlands := last_edit_lands plainToml 1000000000 benchDesktop
    (benchSeen ++ (benchRefresh 1500000000 ++ [benchRepeat]) ++ [benchFlush]) benchDesktop_inStep hharmless
    hsplit ⟨_, rfl, rfl⟩
  refine ⟨(@hlands ?_ (.apply (.fixed 181 128)) (by decide +kernel)).1 ⟨by decide +kernel, by decide +kernel⟩, by decide +kernel⟩
  rintro t ht ⟨action, hcall, hedits⟩
  obtain rfl := List.mem_singleton.mp ht
  cases hcall
  cases hedits

/-- The edit is undone before a sample shows it: the write that undoes it is taken for held, dropped,
and never made up for. -/
theorem last_edit_lost :
    let step := step plainToml 1000000000
    let edited := turn step (afterAll step benchDesktop (benchStep ++ benchRefresh 500000001)) benchUndo
    let after := turns step edited.after benchSettle
    let settled := afterAll step edited.after benchSettle
    turns step benchDesktop (benchStep ++ benchRefresh 500000001 ++ benchUndo :: benchSettle) =
      turns step benchDesktop (benchStep ++ benchRefresh 500000001) ++ edited :: after ∧
    Edits .cooling edited ∧ (∀ t ∈ after, ¬ Edits .cooling t) ∧
    edited.after.shell.pendingCommand .cooling = some (.apply (.fixed 179 128)) ∧
    Still settled ∧ settled.shell.sent = none ∧
    settled.app.feed.inbox = [] ∧ settled.app.feed.pending = none ∧ settled.app.feed.executing = none ∧
    settled.shell.link.status.bind (·.cooling) = some (.fixed 181 128) ∧
    settled.machine.daemon.cooling.committedProgram = some (.fixed 181 128) ∧
    ¬ Landed .cooling (.apply (.fixed 179 128)) after := by
  intro step edited after settled
  refine ⟨turns_append .., ⟨_, rfl, rfl⟩, ?_, by decide +kernel, ⟨by decide +kernel, by decide +kernel⟩,
    by decide +kernel, by decide +kernel, by decide +kernel, by decide +kernel, by decide +kernel, by decide +kernel, ?_⟩
  · rintro t ht ⟨action, hcall, hedits⟩
    have hmem := call_mem_of_mem_turns ht
    rw [hcall] at hmem
    simp [benchSettle, benchWork, benchRefresh, Shell.refresh] at hmem
    rcases hmem with rfl | rfl | rfl | rfl <;> cases hedits
  · have hsent : sentFor .cooling after = [] := by decide +kernel
    have hrecord : ∀ t ∈ after, t.before.machine.daemon.cooling.committedProgram ≠ some (.fixed 179 128) := by
      decide +kernel
    rintro (hlast | ⟨t, ht, -, hheld, -⟩)
    · rw [hsent] at hlast
      cases hlast
    · exact hrecord t ht hheld

end Kori.Desktop
