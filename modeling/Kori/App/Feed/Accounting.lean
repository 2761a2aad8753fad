import Kori.App.Feed

/-! # Where a command is: queued, held, executing or published -/

open Faulty

namespace Kori.Feed

def commandOf : Phase → Option Command
  | .executing command _ => some command
  | _ => none

/-- The command that is being executed. -/
def executing (feed : Feed) : Option Command := commandOf feed.phase

theorem phase_of_executing {feed : Feed} {command : Command} (h : feed.executing = some command) :
    ∃ refreshProfiles, feed.phase = .executing command refreshProfiles := by
  unfold executing commandOf at h
  split at h
  · rename_i other refreshProfiles hphase
    cases h
    exact ⟨refreshProfiles, hphase⟩
  · cases h

/-- The commands that were not handed to `execute` yet. -/
def held (feed : Feed) : List Command := feed.pending.toList ++ feed.inbox

/-- The wait is over at the worker's next step. -/
def EndsWait (feed : Feed) : Prop :=
  ∃ remaining, feed.phase = .waiting remaining ∧ (remaining = 0 ∨ feed.stop = true ∨ feed.inbox ≠ [])

/-- What a step of the worker does with commands. -/
inductive Worked (replies : Replies) (feed : Feed) (noted : Noted) (after : Feed) : Prop where
  | idle (hnoted : noted = {}) (hheld : after.pending = feed.pending ∧ after.inbox = feed.inbox)
      (hexecuting : feed.executing = none ∧ after.executing = none)
      (hshared : after.shared.outcome = feed.shared.outcome) (hsequence : after.sequence = feed.sequence)
      (hwait : ¬ feed.EndsWait)
  | took (command : Command) (hnoted : noted = { handed := some command })
      (hheld : feed.held = command :: after.held) (hexecuting : feed.executing = none ∧ after.executing = some command)
      (hshared : after.shared.outcome = feed.shared.outcome) (hsequence : after.sequence = feed.sequence)
      (hwait : ¬ feed.EndsWait)
  | published (command : Command) (outcome : CommandOutcome)
      (hnoted : noted = { published := some ⟨command, replies.command, outcome⟩ })
      (hheld : after.pending = feed.pending ∧ after.inbox = feed.inbox)
      (hexecuting : feed.executing = some command ∧ after.executing = none)
      (hshared : after.shared.outcome = some outcome) (hsequence : after.sequence = feed.sequence + 1)
      (houtcome : outcome.sequence = feed.sequence + 1 ∧ outcome.subject = command.subject ∧
        outcome.severity = (execute replies.command command).severity)
      (hwait : ¬ feed.EndsWait)
  | waited (hnoted : noted = {}) (hheld : after.held = feed.inbox)
      (hexecuting : feed.executing = none ∧ after.executing = none)
      (hshared : after.shared.outcome = feed.shared.outcome) (hsequence : after.sequence = feed.sequence)
      (hwait : feed.EndsWait)

variable {interval : Duration} {replies : Replies} {feed : Feed}

theorem not_endsWait {phase : Phase} (h : feed.phase = phase) (hphase : ∀ remaining, phase ≠ .waiting remaining) :
    ¬ feed.EndsWait := by
  rintro ⟨remaining, hwaiting, -⟩
  exact hphase remaining (h.symm.trans hwaiting)

theorem finish_outcome (refreshProfiles : Bool) :
    (feed.finish refreshProfiles replies).pending = feed.pending ∧
      (feed.finish refreshProfiles replies).inbox = feed.inbox ∧
      (feed.finish refreshProfiles replies).shared.outcome = feed.shared.outcome ∧
      (feed.finish refreshProfiles replies).sequence = feed.sequence := by
  unfold finish
  cases feed.session with
  | none => exact ⟨rfl, rfl, rfl, rfl⟩
  | some session =>
    dsimp only
    split <;> exact ⟨rfl, rfl, rfl, rfl⟩

theorem waitForCommand_worked {remaining : Duration} (h : feed.phase = .waiting remaining) :
    Worked replies feed {} (feed.waitForCommand remaining) := by
  have hnone : feed.executing = none := congrArg commandOf h
  unfold waitForCommand
  by_cases hover : remaining = 0 ∨ feed.stop = true
  · rw [if_pos hover]
    refine .waited rfl (List.nil_append _) ⟨hnone, rfl⟩ rfl rfl ⟨remaining, h, ?_⟩
    rcases hover with hover | hover
    · exact .inl hover
    · exact .inr (.inl hover)
  · rw [if_neg hover]
    cases hinbox : feed.inbox with
    | nil =>
      refine .idle rfl ⟨rfl, hinbox.symm⟩ ⟨hnone, rfl⟩ rfl rfl ?_
      rintro ⟨remaining', hphase, hover'⟩
      cases h.symm.trans hphase
      rcases hover' with hover' | hover' | hover'
      · exact hover (.inl hover')
      · exact hover (.inr hover')
      · exact hover' hinbox
    | cons command rest =>
      refine .waited rfl ?_ ⟨hnone, rfl⟩ rfl rfl ⟨remaining, h, .inr (.inr ?_)⟩
      · rw [hinbox]
        rfl
      · rw [hinbox]
        exact List.cons_ne_nil _ _

/-- The worker's step, once for all. -/
theorem work_worked : Worked replies feed (work interval replies feed).1 (work interval replies feed).2 := by
  unfold work
  cases hphase : feed.phase with
  | top =>
    have hwait : ¬ feed.EndsWait := not_endsWait hphase fun _ h => (nomatch h)
    have hnone : feed.executing = none := congrArg commandOf hphase
    dsimp only
    split
    · exact .idle rfl ⟨rfl, rfl⟩ ⟨hnone, rfl⟩ rfl rfl hwait
    · split
      · exact .idle rfl ⟨rfl, rfl⟩ ⟨hnone, rfl⟩ rfl rfl hwait
      · split
        · exact .idle rfl ⟨rfl, rfl⟩ ⟨hnone, rfl⟩ rfl rfl hwait
        · exact .idle rfl ⟨rfl, rfl⟩ ⟨hnone, rfl⟩ rfl rfl hwait
  | draining refreshProfiles =>
    have hwait : ¬ feed.EndsWait := not_endsWait hphase fun _ h => (nomatch h)
    have hnone : feed.executing = none := congrArg commandOf hphase
    dsimp only
    cases hpending : feed.pending with
    | some command =>
      refine .took command rfl ?_ ⟨hnone, rfl⟩ rfl rfl hwait
      simp [held, hpending, take]
    | none =>
      cases hinbox : feed.inbox with
      | cons command rest =>
        refine .took command rfl ?_ ⟨hnone, rfl⟩ rfl rfl hwait
        simp [held, hpending, hinbox, take]
      | nil =>
        obtain ⟨hp, hi, ho, hs⟩ := @finish_outcome replies feed refreshProfiles
        exact .idle rfl ⟨hp, hi⟩ ⟨hnone, rfl⟩ ho hs hwait
  | executing command refreshProfiles =>
    exact .published command _ rfl ⟨rfl, rfl⟩ ⟨congrArg commandOf hphase, rfl⟩ rfl rfl ⟨rfl, rfl, rfl⟩
      (not_endsWait hphase fun _ h => (nomatch h))
  | waiting remaining => exact waitForCommand_worked hphase
  | stopped =>
    have hnone : feed.executing = none := congrArg commandOf hphase
    exact .idle rfl ⟨rfl, rfl⟩ ⟨hnone, hnone⟩ rfl rfl (not_endsWait hphase fun _ h => (nomatch h))

/-! ## The commands of a run -/

abbrev FeedTurn := Turn Feed Event Noted

def sent (t : FeedTurn) : List Command := t.answer.sent

def handed (t : FeedTurn) : List Command := t.answer.handed.toList

/-- The turn ends a wait while a command is held. -/
def Drops (t : FeedTurn) : Prop :=
  (∃ replies, t.call = .work replies) ∧ t.before.EndsWait ∧ t.before.pending ≠ none

/-- The worker had nothing more to run. -/
def Drained (feed : Feed) : Prop :=
  (∃ refreshProfiles, feed.phase = .draining refreshProfiles) ∧ feed.pending = none ∧ feed.inbox = []

theorem turn_accounts_iff {event : Event} :
    (turn (step interval) feed event).Accounts held sent handed ↔ ¬ Drops (turn (step interval) feed event) := by
  cases event with
  | send command =>
    refine iff_of_true ?_ fun h => ?_
    · simp [Turn.Accounts, turn, step, sendAll, held, sent, handed]
    · obtain ⟨⟨replies, hcall⟩, -⟩ := h
      cases hcall
  | stop =>
    refine iff_of_true ?_ fun h => ?_
    · simp [Turn.Accounts, turn, step, held, sent, handed]
    · obtain ⟨⟨replies, hcall⟩, -⟩ := h
      cases hcall
  | work replies =>
    have hworked := @work_worked interval replies feed
    change (turn (step interval) feed (.work replies)).Accounts held sent handed ↔
      ¬ ((∃ replies', Event.work replies = .work replies') ∧ feed.EndsWait ∧ feed.pending ≠ none)
    unfold Turn.Accounts turn step sent handed
    dsimp only
    generalize work interval replies feed = r at hworked ⊢
    cases hworked with
    | idle hnoted hheld hexecuting hshared hsequence hwait =>
      refine iff_of_true ?_ fun h => hwait h.2.1
      rw [hnoted, held, hheld.1, hheld.2]
      exact (List.append_nil _).symm
    | took command hnoted hheld hexecuting hshared hsequence hwait =>
      refine iff_of_true ?_ fun h => hwait h.2.1
      rw [hnoted, hheld]
      exact (List.append_nil _).symm
    | published command outcome hnoted hheld hexecuting hshared hsequence houtcome hwait =>
      refine iff_of_true ?_ fun h => hwait h.2.1
      rw [hnoted, held, hheld.1, hheld.2]
      exact (List.append_nil _).symm
    | waited hnoted hheld hexecuting hshared hsequence hwait =>
      rw [hnoted, hheld, held]
      cases hpending : feed.pending with
      | none => simp
      | some command =>
        refine iff_of_false (fun h => ?_) fun h => h ⟨⟨replies, rfl⟩, hwait, Option.some_ne_none _⟩
        have hlength := congrArg List.length h
        simp at hlength

/-- Commands run with a session, and none is held through the wait of a cycle that had one. -/
structure Connected (feed : Feed) : Prop where
  draining : ∀ refreshProfiles, feed.phase = .draining refreshProfiles → feed.session ≠ none
  executing : ∀ command refreshProfiles, feed.phase = .executing command refreshProfiles → feed.session ≠ none
  waiting : ∀ remaining, feed.phase = .waiting remaining → feed.pending = none ∨ feed.session = none

theorem connected_top (h : feed.phase = .top ∨ feed.phase = .stopped) : Connected feed := by
  constructor
  all_goals
    intros
    rcases h with h | h <;> simp_all

theorem work_connected (h : Connected feed) : Connected (work interval replies feed).2 := by
  unfold work
  cases hphase : feed.phase with
  | top =>
    dsimp only
    split
    · exact connected_top (.inr rfl)
    · split
      · rename_i session hsession
        exact ⟨fun _ _ => by simp [hsession], fun _ _ hphase' => (nomatch hphase'), fun _ hphase' => (nomatch hphase')⟩
      · rename_i hsession
        split
        · exact ⟨fun _ _ => by simp, fun _ _ hphase' => (nomatch hphase'), fun _ hphase' => (nomatch hphase')⟩
        · exact ⟨fun _ hphase' => (nomatch hphase'), fun _ _ hphase' => (nomatch hphase'), fun _ _ => .inr hsession⟩
  | draining refreshProfiles =>
    have hsession := h.draining _ hphase
    dsimp only
    split
    · exact ⟨fun _ hphase' => (nomatch hphase'), fun _ _ _ => hsession, fun _ hphase' => (nomatch hphase')⟩
    · exact ⟨fun _ hphase' => (nomatch hphase'), fun _ _ _ => hsession, fun _ hphase' => (nomatch hphase')⟩
    · rename_i hpending hinbox
      refine ⟨fun _ hphase' => (nomatch hphase'), fun _ _ hphase' => (nomatch hphase'), fun _ _ => .inl ?_⟩
      exact (@finish_outcome replies feed refreshProfiles).1.trans hpending
  | executing command refreshProfiles =>
    have hsession := h.executing _ _ hphase
    exact ⟨fun _ _ => hsession, fun _ _ hphase' => (nomatch hphase'), fun _ hphase' => (nomatch hphase')⟩
  | waiting remaining =>
    dsimp only
    unfold waitForCommand
    split
    · exact connected_top (.inl rfl)
    · split
      · exact connected_top (.inl rfl)
      · exact ⟨fun _ hphase' => (nomatch hphase'), fun _ _ hphase' => (nomatch hphase'), fun _ _ => h.waiting _ hphase⟩
  | stopped => exact h

theorem step_connected {event : Event} (h : Connected feed) : Connected (step interval event feed).2 := by
  cases event with
  | send command => exact ⟨h.draining, h.executing, h.waiting⟩
  | stop => exact ⟨h.draining, h.executing, h.waiting⟩
  | work replies => exact work_connected h

/-- A command is only dropped in a cycle that could not connect. -/
theorem drops_unconnected (interval : Duration) (events : List Event) :
    ∀ t ∈ turns (step interval) spawned events, Drops t → t.before.session = none := by
  intro t hmem hdrops
  obtain ⟨earlier, later, hsplit⟩ := List.append_of_mem hmem
  have hbefore : Connected t.before :=
    @turns_since _ _ _ (step interval) (fun _ feed => Connected feed) (fun _ t => Connected t.before)
      (fun _ _ _ h => ⟨h, step_connected h⟩) _ events [] _ _ _ (connected_top (.inl rfl)) hsplit
  obtain ⟨-, ⟨remaining, hphase, -⟩, hpending⟩ := hdrops
  exact (hbefore.waiting remaining hphase).resolve_left hpending

/-- The commands handed over, the one that is held and the queue are the commands sent, in order, at
every moment of a run, exactly when no wait of it ends while a command is held. Then a cycle that runs
out of commands has run each of them once. -/
theorem commands_accounted (interval : Duration) (events : List Event) :
    let run := turns (step interval) spawned events
    ((∀ earlier t later, run = earlier ++ t :: later →
        (earlier ++ [t]).flatMap handed ++ t.after.pending.toList ++ t.after.inbox = (earlier ++ [t]).flatMap sent) ↔
      ∀ t ∈ run, ¬ Drops t) ∧
    ((∀ t ∈ run, ¬ Drops t) → ∀ earlier t later, run = earlier ++ t :: later → t.before.Drained →
      earlier.flatMap handed = earlier.flatMap sent) := by
  intro run
  have hfresh : Accounted held sent handed [] [] spawned := rfl
  have hturns : (∀ t ∈ run, t.Accounts held sent handed) ↔ ∀ t ∈ run, ¬ Drops t := by
    refine forall₂_congr fun t hmem => ?_
    rw [← eq_of_mem_turns hmem]
    exact turn_accounts_iff
  constructor
  · rw [← hturns, ← accounted_iff hfresh]
    simp only [Accounted, held, List.nil_append, List.append_assoc]
    exact Iff.rfl
  · intro hkept earlier t later hsplit hdrained
    have hbefore := accounted_before hfresh (hturns.mpr hkept) hsplit
    obtain ⟨-, hpending, hinbox⟩ := hdrained
    simpa [Accounted, held, hpending, hinbox] using hbefore

/-! ## A daemon that is away for two cycles -/

/-- The socket is not there. -/
def away : Replies :=
  let unreachable := ClientError.unreachable "/run/user/1000/kori/kori.sock" "No such file or directory (os error 2)"
  { handshake := .error unreachable, capabilities := .error unreachable, profiles := .error unreachable,
    command := .error unreachable, status := .error unreachable, telemetry := .error unreachable, elapsed := 1000000 }

/-- The daemon answers, and found no device. -/
def back : Replies :=
  { away with
    handshake := .ok "0.1.1"
    capabilities := .ok (.capabilities ⟨[]⟩)
    profiles := .ok (.profiles SAFE_PROFILE_NAME [.safe])
    command := .ok (.error .noDevice) }

def quiet : Command := .apply (.fixed 128 90)

def loud : Command := .apply (.fixed 255 255)

/-- Each of two commands ends the wait of a cycle that could not connect. -/
def absence : List Event :=
  [.work away, .send quiet, .work away, .work away, .send loud, .work away] ++
    [.work back, .work back, .work back, .work back]

/-- The second command takes the place of the first, which is never executed. -/
theorem pending_command_lost :
    let run := turns (step 1000000000) spawned absence
    let last := afterAll (step 1000000000) spawned absence
    run.flatMap sent = [quiet, loud] ∧ run.flatMap handed = [loud] ∧ last.pending = none ∧ last.inbox = [] := by
  decide +kernel

end Kori.Feed
