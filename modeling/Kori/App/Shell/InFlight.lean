import Kori.App.Shell.Acts

/-! # The cooling write in flight, until an outcome settles it -/

open Faulty

namespace Kori.App

def Event.takesOutcome : Event → Bool
  | .window .adoptOutcome => true
  | _ => false

def Event.reverts : Event → Bool
  | .window (.revert _) => true
  | _ => false

/-- The window looked at the slot after the last publication. -/
def Refreshed (past : List AppTurn) : Prop := Followed (·.answer.published.isSome) (·.call.takesOutcome) past

/-- The turn puts the outcome of another command in the place of a cooling outcome that was not taken,
while a cooling write is in flight and none is left to run. -/
def Hides (t : AppTurn) : Prop :=
  (∃ answered ∈ t.answer.published, answered.command.subject ≠ .cooling) ∧
    (∃ outcome ∈ t.before.unseen, outcome.subject = .cooling) ∧
    t.before.shell.sent ≠ none ∧ Shell.Quiet t.before.feed.held

/-- The operator reverted after the last turn that hid a cooling outcome. -/
def Released (past : List AppTurn) : Prop := Followed Hides (·.call.reverts) past

instance : DecidablePred Hides := fun _ => inferInstanceAs (Decidable (_ ∧ _))

instance : DecidablePred Refreshed := Followed.decide _ _

instance : DecidablePred Released := Followed.decide _ _

variable {interval : Duration} {app : App} {event : Event} {past : List AppTurn} {t : AppTurn}

/-- No outcome is numbered past the worker's count. -/
structure Counted (app : App) : Prop where
  slot : ∀ outcome ∈ app.feed.shared.outcome, outcome.sequence ≤ app.feed.sequence
  taken : ∀ outcome ∈ app.shell.outcome, outcome.sequence ≤ app.feed.sequence

theorem opened_counted (lcd : Option DisplayPreset) : Counted (opened lcd) :=
  ⟨fun _ h => (nomatch h), fun _ h => (nomatch h)⟩

theorem step_counted (h : Counted app) : Counted (step interval event app).2 := by
  have hstepped := @step_stepped interval app event
  generalize step interval event app = r at hstepped ⊢
  cases hstepped with
  | window action hevent hacted hfeed hpublished =>
    have hslot : ∀ outcome ∈ r.2.feed.shared.outcome, outcome.sequence ≤ r.2.feed.sequence := by
      rw [hfeed]
      exact h.slot
    refine ⟨hslot, ?_⟩
    rw [hfeed]
    cases hacted with
    | flushed hflushed hrecorded htaken =>
      rw [hflushed.1]
      exact h.taken
    | reverted hsent houtcome hcommands hrecorded hrevert =>
      rw [houtcome]
      exact h.taken
    | adopted outcome hunseen houtcome hcommands hadopt hsettled =>
      rw [houtcome]
      intro other hother
      cases hother
      exact h.slot _ (mem_unseen hunseen)
  | work replies hevent hmoved hshell hsent hrecorded =>
    have hshared : ∀ count, app.feed.sequence ≤ count → ∀ outcome ∈ r.2.shell.outcome, outcome.sequence ≤ count := by
      intro count hcount outcome hmem
      rw [hshell] at hmem
      exact le_trans (h.taken outcome hmem) hcount
    cases hmoved with
    | kept hpublished hunpublished hslot hsequence =>
      refine ⟨?_, hshared _ (le_of_eq hsequence.symm)⟩
      rw [hslot, hsequence]
      exact h.slot
    | published answered hpublished hfirst hunpublished hslot hsequence hcount hreported =>
      refine ⟨?_, hshared _ (by omega)⟩
      rw [hslot, hsequence]
      intro outcome hmem
      cases hmem
      exact le_of_eq hcount
    | dropped command hpublished hunpublished hslot hsequence =>
      refine ⟨?_, hshared _ (le_of_eq hsequence.symm)⟩
      rw [hslot, hsequence]
      exact h.slot
  | stopped hevent hnoted hshell hunpublished hshared hsequence =>
    constructor
    · rw [hshared, hsequence]
      exact h.slot
    · rw [hshell, hsequence]
      exact h.taken

theorem taken_snoc (h : Refreshed past → app.unseen = none) :
    Refreshed (past ++ [turn (step interval) app event]) → (turn (step interval) app event).after.unseen = none := by
  rw [Refreshed, followed_snoc_iff, Option.not_isSome_iff_eq_none]
  unfold turn
  dsimp only
  have hstepped := @step_stepped interval app event
  generalize step interval event app = r at hstepped ⊢
  rintro ⟨hnone, hlooked⟩
  cases hstepped with
  | window action hevent hacted hfeed hpublished =>
    have hslot : r.2.feed.shared = app.feed.shared := by rw [hfeed]; rfl
    cases hacted with
    | flushed hflushed hrecorded htaken =>
      rw [unseen_congr (congrArg _ hslot) hflushed.1]
      rcases hlooked with htakes | hpast
      · rw [hevent] at htakes
        cases action <;> first | exact htaken rfl | cases htakes
      · exact h hpast
    | reverted hsent houtcome hcommands hrecorded hrevert =>
      obtain ⟨now, rfl⟩ := hrevert
      rw [unseen_congr (congrArg _ hslot) houtcome]
      rw [hevent] at hlooked
      exact h (hlooked.resolve_left (by simp [Event.takesOutcome]))
    | adopted outcome hunseen houtcome hcommands hadopt hsettled =>
      exact unseen_taken ((congrArg _ hslot).trans (mem_unseen hunseen)) houtcome
  | work replies hevent hmoved hshell hsent hrecorded =>
    rw [hevent] at hlooked
    have hbefore := h (hlooked.resolve_left (by simp [Event.takesOutcome]))
    cases hmoved with
    | kept hpublished hunpublished hslot hsequence => rwa [unseen_congr hslot (congrArg _ hshell)]
    | published answered hpublished hfirst hunpublished hslot hsequence hcount hreported =>
      rw [hpublished] at hnone
      cases hnone
    | dropped command hpublished hunpublished hslot hsequence => rwa [unseen_congr hslot (congrArg _ hshell)]
  | stopped hevent hnoted hshell hunpublished hshared hsequence =>
    rw [hevent] at hlooked
    have hbefore := h (hlooked.resolve_left (by simp [Event.takesOutcome]))
    rwa [unseen_congr (congrArg _ hshared) (congrArg _ hshell)]

/-- How many of the commands sent were answered or still will be. -/
def accounted (past : List AppTurn) (app : App) : Nat := (past.flatMap published).length + app.feed.unpublished.length

def sentCount (past : List AppTurn) : Nat := (past.flatMap sent).length

theorem sentCount_snoc : sentCount (past ++ [t]) = sentCount past + (sent t).length := by
  simp [sentCount]

theorem accounted_snoc : accounted (past ++ [t]) app = accounted past app + (published t).length := by
  simp only [accounted, List.flatMap_append, List.flatMap_cons, List.flatMap_nil, List.append_nil, List.length_append]
  omega

theorem accounted_congr {after : App} (h : after.feed.unpublished = app.feed.unpublished) :
    accounted past after = accounted past app := by
  unfold accounted
  rw [h]

theorem turn_counts (past : List AppTurn) :
    let t := turn (step interval) app event
    accounted past t.after + (published t).length = accounted past app + (sent t).length ∨
      sent t = [] ∧ published t = [] ∧ accounted past t.after + 1 = accounted past app := by
  unfold turn sent published
  dsimp only
  have hstepped := @step_stepped interval app event
  generalize step interval event app = r at hstepped ⊢
  cases hstepped with
  | window action hevent hacted hfeed hpublished =>
    refine .inl ?_
    rw [hpublished, accounted, accounted, hfeed, Feed.sendAll_unpublished, List.length_append]
    exact Nat.add_assoc _ _ _ |>.symm
  | work replies hevent hmoved hshell hsent hrecorded =>
    cases hmoved with
    | kept hpublished hunpublished hslot hsequence =>
      refine .inl ?_
      rw [hpublished, hsent, accounted_congr hunpublished]
      rfl
    | published answered hpublished hfirst hunpublished hslot hsequence hcount hreported =>
      refine .inl ?_
      rw [hpublished, hsent, accounted, accounted, hfirst, hunpublished]
      simp [Nat.add_assoc]
    | dropped command hpublished hunpublished hslot hsequence =>
      refine .inr ⟨hsent, by rw [hpublished]; rfl, ?_⟩
      rw [accounted, accounted, hunpublished, List.length_cons, Nat.add_assoc]
  | stopped hevent hnoted hshell hunpublished hshared hsequence =>
    refine .inl ?_
    rw [hnoted, accounted_congr hunpublished]
    rfl

/-- What holds of every run. -/
structure Tracked (past : List AppTurn) (app : App) : Prop where
  counted : Counted app
  taken : Refreshed past → app.unseen = none
  accounted : accounted past app ≤ sentCount past

/-- The write in flight will be settled, or a command was lost. -/
def Settles (past : List AppTurn) (app : App) : Prop :=
  app.shell.sent ≠ none → ¬ Shell.Quiet app.feed.unpublished ∨
    (∃ outcome ∈ app.unseen, outcome.subject = .cooling) ∨ accounted past app < sentCount past

theorem opened_tracked (lcd : Option DisplayPreset) : Tracked [] (opened lcd) :=
  ⟨opened_counted lcd, fun _ => rfl, le_refl _⟩

theorem tracked_snoc (h : Tracked past app) :
    Tracked (past ++ [turn (step interval) app event]) (turn (step interval) app event).after := by
  have haccounted := h.accounted
  refine ⟨step_counted h.counted, taken_snoc h.taken, ?_⟩
  rw [accounted_snoc, sentCount_snoc]
  rcases @turn_counts interval app event past with hmoved | ⟨hsent, hpublished, hdropped⟩
  · omega
  · rw [hsent, hpublished, List.length_nil]
    omega

theorem Counted.unseen_new {after : App} {outcome : CommandOutcome} (h : Counted app)
    (hslot : after.feed.shared.outcome = some outcome) (hcount : outcome.sequence = app.feed.sequence + 1)
    (hshell : after.shell = app.shell) : after.unseen = some outcome := by
  have hfresh : app.shell.outcome.map (·.sequence) ≠ some outcome.sequence := by
    intro hmap
    obtain ⟨seen, hseen, hsame⟩ := Option.map_eq_some_iff.mp hmap
    have hle := h.taken seen hseen
    omega
  rw [unseen, Shell.unseen, hslot, hshell]
  exact if_pos (decide_eq_true hfresh)

theorem settles_after (hcounted : Counted app) (h : Settles past app)
    (hhides : ¬ Hides (turn (step interval) app event)) :
    let t := turn (step interval) app event
    t.after.shell.sent ≠ none → ¬ Shell.Quiet t.after.feed.unpublished ∨
      (∃ outcome ∈ t.after.unseen, outcome.subject = .cooling) ∨ accounted past app < sentCount past ∨
        sent t = [] ∧ published t = [] ∧ accounted past t.after + 1 = accounted past app := by
  unfold Hides turn at hhides
  unfold turn sent published
  dsimp only at hhides ⊢
  have hstepped := @step_stepped interval app event
  generalize step interval event app = r at hhides hstepped ⊢
  intro hafter
  cases hstepped with
  | window action hevent hacted hfeed hpublished =>
    have hslot : r.2.feed.shared = app.feed.shared := by
      rw [hfeed]
      rfl
    have hkept : ¬ Shell.Quiet app.feed.unpublished → ¬ Shell.Quiet r.2.feed.unpublished := by
      rw [hfeed, Feed.sendAll_unpublished]
      intro hloud hquiet
      exact hloud (List.forall_mem_append.mp hquiet).1
    cases hacted with
    | flushed hflushed hrecorded htaken =>
      obtain ⟨houtcome, ⟨hsent, hquiet⟩ | ⟨program, hnone, hsome, hmem, honly⟩⟩ := hflushed
      · rw [hsent] at hafter
        rw [unseen_congr (congrArg _ hslot) houtcome]
        rcases h hafter with hloud | hseen | hlost
        · exact .inl (hkept hloud)
        · exact .inr (.inl hseen)
        · exact .inr (.inr (.inl hlost))
      · refine .inl fun hquiet => ?_
        rw [hfeed, Feed.sendAll_unpublished] at hquiet
        exact (List.forall_mem_append.mp hquiet).2 _ hmem rfl
    | reverted hsent houtcome hcommands hrecorded hrevert => exact absurd hsent hafter
    | adopted outcome hunseen houtcome hcommands hadopt hsettled =>
      rcases hsettled with ⟨-, hnone, -⟩ | ⟨hother, hsent, -⟩
      · exact absurd hnone hafter
      · rw [hsent] at hafter
        rcases h hafter with hloud | ⟨other, hmem, hcooling⟩ | hlost
        · exact .inl (hkept hloud)
        · rw [unseen, hunseen] at hmem
          cases hmem
          exact absurd hcooling hother
        · exact .inr (.inr (.inl hlost))
  | work replies hevent hmoved hshell hsent hrecorded =>
    rw [hshell] at hafter
    cases hmoved with
    | kept hpublished hunpublished hslot hsequence =>
      rw [hunpublished, unseen_congr hslot (congrArg _ hshell)]
      rcases h hafter with hloud | hseen | hlost
      · exact .inl hloud
      · exact .inr (.inl hseen)
      · exact .inr (.inr (.inl hlost))
    | published answered hpublished hfirst hunpublished hslot hsequence hcount hreported =>
      rw [hunpublished, hcounted.unseen_new hslot hcount hshell]
      by_cases hcooling : answered.command.subject = .cooling
      · exact .inr (.inl ⟨answered.outcome, rfl, hreported.1.trans hcooling⟩)
      · by_cases hquiet : Shell.Quiet app.feed.held
        · rcases h hafter with hloud | hseen | hlost
          · rw [hfirst] at hloud
            have hall : Shell.Quiet (answered.command :: app.feed.held) := List.forall_mem_cons.mpr ⟨hcooling, hquiet⟩
            exact absurd hall hloud
          · exact absurd ⟨⟨answered, hpublished, hcooling⟩, hseen, hafter, hquiet⟩ hhides
          · exact .inr (.inr (.inl hlost))
        · exact .inl hquiet
    | dropped command hpublished hunpublished hslot hsequence =>
      refine .inr (.inr (.inr ⟨hsent, by rw [hpublished]; rfl, ?_⟩))
      rw [accounted, accounted, hunpublished, List.length_cons, Nat.add_assoc]
  | stopped hevent hnoted hshell hunpublished hshared hsequence =>
    rw [hshell] at hafter
    rw [hunpublished, unseen_congr (congrArg _ hshared) (congrArg _ hshell)]
    rcases h hafter with hloud | hseen | hlost
    · exact .inl hloud
    · exact .inr (.inl hseen)
    · exact .inr (.inr (.inl hlost))

theorem settles_snoc (htracked : Tracked past app) (h : Settles past app)
    (hhides : ¬ Hides (turn (step interval) app event)) :
    Settles (past ++ [turn (step interval) app event]) (turn (step interval) app event).after := by
  intro hsent
  rw [accounted_snoc, sentCount_snoc]
  have haccounted := htracked.accounted
  rcases settles_after htracked.counted h hhides hsent with hloud | hseen | hlost | ⟨hnone, hpublished, hdropped⟩
  · exact .inl hloud
  · exact .inr (.inl hseen)
  · refine .inr (.inr ?_)
    rcases @turn_counts interval app event past with hmoved | ⟨hnone, hpublished, hdropped⟩
    · omega
    · rw [hnone, hpublished, List.length_nil]
      omega
  · refine .inr (.inr ?_)
    rw [hnone, hpublished, List.length_nil]
    omega

/-- A cooling write is in flight, and nothing is left that could settle it. -/
structure Stuck (app : App) : Prop where
  sent : app.shell.sent ≠ none
  quiet : Shell.Quiet app.feed.unpublished
  unseen : ∀ outcome ∈ app.unseen, outcome.subject ≠ .cooling

theorem step_stuck (h : Stuck app) (hevent : ¬ event.reverts) : Stuck (step interval event app).2 := by
  have hstepped := @step_stepped interval app event
  generalize step interval event app = r at hstepped ⊢
  cases hstepped with
  | window action hevent' hacted hfeed hpublished =>
    have hslot : r.2.feed.shared = app.feed.shared := by
      rw [hfeed]
      rfl
    cases hacted with
    | flushed hflushed hrecorded htaken =>
      obtain ⟨houtcome, ⟨hsent, hquiet⟩ | ⟨program, hnone, -⟩⟩ := hflushed
      · constructor
        · rw [hsent]
          exact h.sent
        · rw [hfeed, Feed.sendAll_unpublished]
          exact Shell.quiet_append h.quiet hquiet
        · rw [unseen_congr (congrArg _ hslot) houtcome]
          exact h.unseen
      · exact absurd hnone h.sent
    | reverted hsent houtcome hcommands hrecorded hrevert =>
      obtain ⟨now, rfl⟩ := hrevert
      rw [hevent'] at hevent
      exact absurd rfl hevent
    | adopted outcome hunseen houtcome hcommands hadopt hsettled =>
      obtain ⟨-, hsent, -⟩ := hsettled.resolve_left fun hcooling => h.unseen outcome hunseen hcooling.1
      constructor
      · rw [hsent]
        exact h.sent
      · rw [hfeed, Feed.sendAll_unpublished, hcommands, List.append_nil]
        exact h.quiet
      · rw [unseen_taken ((congrArg _ hslot).trans (mem_unseen hunseen)) houtcome]
        exact fun _ hmem => (nomatch hmem)
  | work replies hevent hmoved hshell hsent hrecorded =>
    have hsent' : r.2.shell.sent ≠ none := by
      rw [hshell]
      exact h.sent
    cases hmoved with
    | kept hpublished hunpublished hslot hsequence =>
      refine ⟨hsent', ?_, ?_⟩
      · rw [hunpublished]
        exact h.quiet
      · rw [unseen_congr hslot (congrArg _ hshell)]
        exact h.unseen
    | published answered hpublished hfirst hunpublished hslot hsequence hcount hreported =>
      have hquiet := h.quiet
      rw [hfirst] at hquiet
      obtain ⟨hother, hheld⟩ := List.forall_mem_cons.mp hquiet
      refine ⟨hsent', ?_, fun outcome hmem => ?_⟩
      · rw [hunpublished]
        exact hheld
      · obtain rfl := Option.some.inj (hslot.symm.trans (mem_unseen hmem))
        rw [hreported.1]
        exact hother
    | dropped command hpublished hunpublished hslot hsequence =>
      have hquiet := h.quiet
      rw [hunpublished] at hquiet
      refine ⟨hsent', (List.forall_mem_cons.mp hquiet).2, ?_⟩
      rw [unseen_congr hslot (congrArg _ hshell)]
      exact h.unseen
  | stopped hevent hnoted hshell hunpublished hshared hsequence =>
    constructor
    · rw [hshell]
      exact h.sent
    · rw [hunpublished]
      exact h.quiet
    · rw [unseen_congr (congrArg _ hshared) (congrArg _ hshell)]
      exact h.unseen

theorem hides_stuck (h : Hides (turn (step interval) app event)) : Stuck (turn (step interval) app event).after := by
  unfold Hides turn at h
  unfold turn
  dsimp only at h ⊢
  have hstepped := @step_stepped interval app event
  generalize step interval event app = r at h hstepped ⊢
  obtain ⟨⟨answered, hanswered, hother⟩, -, hsome, hheld⟩ := h
  cases hstepped with
  | window action hevent hacted hfeed hpublished =>
    rw [hpublished] at hanswered
    cases hanswered
  | stopped hevent hnoted hshell hunpublished hshared hsequence =>
    rw [hnoted] at hanswered
    cases hanswered
  | work replies hevent hmoved hshell hsent hrecorded =>
    cases hmoved with
    | kept hpublished hunpublished hslot hsequence =>
      rw [hpublished] at hanswered
      cases hanswered
    | dropped command hpublished hunpublished hslot hsequence =>
      rw [hpublished] at hanswered
      cases hanswered
    | published published hpublished hfirst hunpublished hslot hsequence hcount hreported =>
      rw [hpublished] at hanswered
      cases hanswered
      constructor
      · rw [hshell]
        exact hsome
      · rw [hunpublished]
        exact hheld
      · intro outcome hmem
        obtain rfl := Option.some.inj (hslot.symm.trans (mem_unseen hmem))
        rw [hreported.1]
        exact hother

theorem reverts_free (h : event.reverts) : (step interval event app).2.shell.sent = none := by
  unfold Event.reverts at h
  split at h
  · rfl
  · cases h

theorem released_snoc (htracked : Tracked past app)
    (h : (Released past → Settles past app) ∧ (¬ Released past → Stuck app)) :
    let t := turn (step interval) app event
    (Released (past ++ [t]) → Settles (past ++ [t]) t.after) ∧ (¬ Released (past ++ [t]) → Stuck t.after) := by
  intro t
  unfold Released
  rw [followed_snoc_iff]
  constructor
  · rintro ⟨hhides, hreverts | hpast⟩
    · exact fun hsent => absurd (reverts_free hreverts) hsent
    · exact settles_snoc htracked (h.1 hpast) hhides
  · intro hkept
    by_cases hhides : Hides t
    · exact hides_stuck hhides
    · obtain ⟨hreverts, hpast⟩ := not_or.mp fun hor => hkept ⟨hhides, hor⟩
      exact step_stuck (h.2 hpast) hreverts

/-- Once every command sent was answered and the window looked, a cooling write is in flight exactly when
a turn hid a cooling outcome and the operator did not revert since. -/
theorem guard_released_iff (interval : Duration) (lcd : Option DisplayPreset) (events : List Event)
    (hanswered : ((turns (step interval) (opened lcd) events).flatMap published).Perm
      ((turns (step interval) (opened lcd) events).flatMap sent))
    (hrefreshed : Refreshed (turns (step interval) (opened lcd) events)) :
    (afterAll (step interval) (opened lcd) events).shell.sent = none ↔
      Released (turns (step interval) (opened lcd) events) := by
  obtain ⟨⟨-, htaken, haccounted⟩, hsettles, hstuck⟩ :=
    @says_afterAll _ _ _ (step interval)
      (fun past app => Tracked past app ∧ (Released past → Settles past app) ∧ (¬ Released past → Stuck app))
      (fun past app event h => ⟨tracked_snoc h.1, released_snoc h.1 h.2⟩) _ [] events
      ⟨opened_tracked lcd, fun _ h => absurd rfl h, fun h => absurd trivial h⟩
  rw [List.nil_append] at htaken haccounted hsettles hstuck
  constructor
  · intro hnone
    by_contra hreleased
    exact (hstuck hreleased).sent hnone
  · intro hreleased
    have hlength := hanswered.length_eq
    unfold accounted sentCount at haccounted
    have hnothing : (afterAll (step interval) (opened lcd) events).feed.unpublished = [] :=
      List.eq_nil_of_length_eq_zero (by omega)
    by_contra hsent
    rcases hsettles hreleased hsent with hloud | ⟨outcome, hmem, -⟩ | hlost
    · rw [hnothing] at hloud
      exact hloud Shell.quiet_nil
    · rw [htaken hrefreshed] at hmem
      cases hmem
    · unfold accounted sentCount at hlost
      omega

/-! ## Two writes of one cycle -/

def reading (duty : UInt8) (channel : Channel) : ChannelTelemetry :=
  { channel, rpm := .valid 1500, duty := .valid duty, mode := .valid .curve }

def ownCurves : KrakenTelemetry where
  atUnixMs := 0
  present := true
  liquidTemperatureC := .valid (.finite 30)
  pump := reading 178 .pump
  fan := reading 102 .fan

/-- The daemon answers: a cooler on its own curves, and a controller with one channel. -/
def present : Replies where
  handshake := .ok "0.1.1"
  capabilities := .ok (.capabilities ⟨[]⟩)
  profiles := .ok (.profiles SAFE_PROFILE_NAME [.safe])
  command := .ok (.error .noDevice)
  status := .ok (.status
    { daemonVersion := "0.1.1", protocolVersion := PROTOCOL_VERSION, access := .readWrite, devices := [],
      activeProfile := SAFE_PROFILE_NAME, config := .defaults, cooling := none, lighting := [⟨1, ["Fan"], none⟩],
      display := { panel := none, committed := none, streaming := false, faulted := none, droppedFrames := 0 },
      socketPath := "/run/user/1000/kori/kori.sock" })
  telemetry := .ok (.telemetry
    { sequence := 1, atUnixMs := 0, kraken := ownCurves,
      system := { cpuLoadPercent := .valid (.finite 5), cpuTemperatureC := .valid (.finite 45) },
      gpu := { temperatureC := .valid (.finite 40), loadPercent := .valid (.finite 0) }, failed := [] })
  elapsed := 50000000

def appliedReplies : Replies :=
  { present with command := .ok (.applied { hardware := .confirmed, writes := 4, deduplicated := false, readback := [] }) }

def litReplies : Replies :=
  { present with command := .ok (.lit { channel := 1, program := .off, hardware := .confirmed, writes := 1, deduplicated := false }) }

/-- A fixed duty and a channel that is turned off leave in one flush, and run in one cycle. -/
def bothWrites (between : List Event) : List Event :=
  [.work present, .work present, .window .takeLink, .window (.edit (.setMode .fixed) 0),
      .window (.editChannel 1 (some .off) (some 0)), .window (.flushWrites COOLING_QUIET)] ++
    [.work present, .work present, .work present, .work appliedReplies] ++ between ++
    [.work present, .work litReplies, .work present] ++ (Shell.refresh COOLING_QUIET).map .window

def fixedWrite : Command := .apply (.fixed (dutyFromPercent 70) (dutyFromPercent 50))

theorem looked_between :
    let run := turns (step 1000000000) (opened none) (bothWrites [.window .adoptOutcome])
    run.flatMap published = [fixedWrite, .applyLighting ⟨1, .off⟩] ∧
      (afterAll (step 1000000000) (opened none) (bothWrites [.window .adoptOutcome])).shell.sent = none := by
  refine ⟨by decide +kernel, ?_⟩
  exact (guard_released_iff 1000000000 none (bothWrites [.window .adoptOutcome]) (by decide +kernel)
    (by decide +kernel)).mpr (by decide +kernel)

/-- The lighting outcome takes the place of the cooling outcome before the window looks. -/
theorem cooling_outcome_hidden :
    let run := turns (step 1000000000) (opened none) (bothWrites [])
    run.flatMap published = [fixedWrite, .applyLighting ⟨1, .off⟩] ∧ run.flatMap sent = run.flatMap published ∧
      Refreshed run ∧ (afterAll (step 1000000000) (opened none) (bothWrites [])).shell.sent ≠ none := by
  decide +kernel

end Kori.App
