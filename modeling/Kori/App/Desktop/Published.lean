import Kori.App.Cooling.Held
import Kori.App.Desktop
import Kori.App.Shell.Edits
import Kori.Daemon.State.InStep
import Kori.Daemon.State.Refusals

/-! # What the window is shown, and what the devices hold -/

open Faulty

namespace Kori.Desktop

variable {Raw : Type}

abbrev DesktopTurn (Raw : Type) := Turn (Desktop Raw) Event App.Noted

def shell (desktop : Desktop Raw) : Shell := desktop.app.shell

/-- What the daemon has recorded for a target, as the command that asks for it. -/
def recorded (machine : Machine Raw) : WriteTarget → Option Command
  | .cooling => machine.daemon.cooling.committedProgram.map .apply
  | .lighting (.channel channel) =>
    (machine.daemon.lighting.committed channel).map fun program => .applyLighting { channel, program }
  | .lighting .lcd => machine.daemon.display.state.committed.map .applyDisplay

/-- What a link shows of it. -/
def published (link : LinkState) : WriteTarget → Option Command
  | .cooling => (link.status.bind (·.cooling)).map .apply
  | .lighting (.channel channel) =>
    ((link.lightingChannels.find? (·.channel = channel)).bind (·.committed)).map fun program =>
      .applyLighting { channel, program }
  | .lighting .lcd => (link.status.bind (·.display.committed)).map .applyDisplay

/-- The daemon's record and the device hold what a command asks for. -/
def Holds (machine : Machine Raw) : Command → Prop
  | .apply program => machine.daemon.cooling.committedProgram = some program ∧
      ∀ x ∈ program.targets.getD [], x.2.RunsOn machine.cooler.state x.1
  | .applyLighting command => machine.daemon.lighting.committed command.channel = some command.program ∧
      RgbController.Shown machine.controller.state command.channel command.program
  | .applyDisplay preset => ∃ shown ∈ machine.daemon.display.committed, shown.preset.Same preset ∧
      machine.panel.state = { brightness := preset.brightness, picture := shown.frame }
  | _ => True

/-- The turn changes what is recorded for the target. -/
def Changes (target : WriteTarget) (t : DesktopTurn Raw) : Prop :=
  recorded t.after.machine target ≠ recorded t.before.machine target

/-- The worker polls: the daemon answers its status, and the link is what it publishes. -/
def Publishes (link : LinkState) (t : DesktopTurn Raw) : Prop :=
  (∃ around fate elapsed, t.call = .work around fate elapsed ∧ fate .status = .answered) ∧
  (∃ refreshProfiles, t.before.app.feed.phase = .draining refreshProfiles) ∧ t.before.app.feed.pending = none ∧
  t.before.app.feed.inbox = [] ∧ t.before.app.feed.session.isSome ∧ t.after.app.feed.shared.link = some link

/-- The link was published since the record of the target last changed. -/
def Fresh (target : WriteTarget) (past : List (DesktopTurn Raw)) (link : LinkState) : Prop :=
  ∃ earlier poll later, past = earlier ++ poll :: later ∧ Publishes link poll ∧ ∀ t ∈ later, ¬ Changes target t

/-- What was published beside the status shows a program too: the sample, and for a curve the window's
own record of what was applied. -/
def Confirmed (shell : Shell) : CoolingProgram → Prop
  | .onboard => False
  | .fixed pump fan =>
    CoolingEditor.confirmsFixed shell.kraken .pump pump = true ∧ CoolingEditor.confirmsFixed shell.kraken .fan fan = true
  | .curve pump fan => shell.cooling.applied = some (.curve pump fan) ∧
    CoolingEditor.confirmsMode shell.kraken .pump .curve = true ∧ CoolingEditor.confirmsMode shell.kraken .fan .curve = true

/-- What is recorded for a target is recorded everywhere: by the sample the window shows, and by the
brightness last sent to the panel. -/
def Agrees (desktop : Desktop Raw) : WriteTarget → Prop
  | .cooling => ∃ program ∈ desktop.shell.link.status.bind (·.cooling), Confirmed desktop.shell program
  | .lighting (.channel _) => True
  | .lighting .lcd => ∀ shown ∈ desktop.machine.daemon.display.committed,
    desktop.machine.daemon.display.brightness = some shown.preset.brightness

/-- A run that led here, its devices in step throughout. -/
structure Came (toml : Toml Raw) (interval : Duration) (past : List (DesktopTurn Raw)) (desktop : Desktop Raw) : Prop where
  led : LedTo (step toml interval) past desktop
  before : ∀ t ∈ past, t.before.machine.InStep
  now : desktop.machine.InStep

variable {toml : Toml Raw} {interval : Duration} {target : WriteTarget} {command : Command}
  {past : List (DesktopTurn Raw)} {desktop : Desktop Raw} {t : DesktopTurn Raw}

/-! ## What was published -/

variable {link : LinkState}

/-- A poll publishes the daemon's status as it is, and changes nothing. -/
theorem Publishes.spec (h : Publishes link t) (hreal : turn (step toml interval) t.before t.call = t) :
    t.after.machine = t.before.machine ∧ ∀ status, link.status = some status → status = t.before.machine.daemon.status := by
  obtain ⟨⟨around, fate, elapsed, hcall, hfate⟩, ⟨refreshProfiles, hphase⟩, hpending, hinbox, hsession, hlink⟩ := h
  rw [hcall] at hreal
  rw [← hreal] at hlink ⊢
  have hnone : t.before.app.feed.executing = none := congrArg Feed.commandOf hphase
  constructor
  · change t.before.worked toml around fate = t.before.machine
    unfold worked
    rw [hnone]
  · intro status hstatus
    obtain ⟨session, hsome⟩ := Option.isSome_iff_exists.mp hsession
    change (Feed.work interval (t.before.replies toml around fate elapsed) t.before.app.feed).2.shared.link = _ at hlink
    unfold Feed.work at hlink
    rw [hphase] at hlink
    dsimp only at hlink
    rw [hpending, hinbox] at hlink
    dsimp only [Feed.endCycle, Feed.finish] at hlink
    rw [hsome] at hlink
    dsimp only at hlink
    split at hlink
    · rename_i polled hpoll
      obtain rfl := Option.some.inj hlink
      unfold Feed.poll at hpoll
      obtain ⟨answered, hanswered, hpoll⟩ := ok_of_bind hpoll
      obtain ⟨telemetry, -, hpoll⟩ := ok_of_bind hpoll
      obtain rfl := Except.ok.inj hpoll
      have hreply : (t.before.replies toml around fate elapsed).status = .ok (.status t.before.machine.daemon.status) := by
        unfold replies ask
        dsimp only
        rw [hfate]
        rfl
      rw [hreply] at hanswered
      obtain rfl := Except.ok.inj hanswered
      exact (Option.some.inj hstatus).symm
    · obtain rfl := Option.some.inj hlink
      cases hstatus

theorem recorded_of_status {machine : Machine Raw} (hstatus : link.status = some machine.daemon.status)
    (h : published link target = some command) : recorded machine target = some command := by
  rcases target with _ | channel | _
  · unfold published at h
    rw [hstatus] at h
    exact h
  · unfold published LinkState.lightingChannels at h
    rw [hstatus] at h
    obtain ⟨program, hprogram, rfl⟩ := Option.map_eq_some_iff.mp h
    obtain ⟨shown, hshown, hcommitted⟩ := Option.bind_eq_some_iff.mp hprogram
    have hchannel : shown.channel = channel := by simpa using List.find?_some hshown
    obtain ⟨report, -, rfl⟩ := List.mem_map.mp (List.mem_of_find?_eq_some hshown)
    obtain rfl : report.index = channel := hchannel
    unfold recorded
    dsimp only at hcommitted ⊢
    rw [hcommitted]
    rfl
  · unfold published at h
    rw [hstatus] at h
    exact h

theorem status_of_published (h : published link target = some command) : ∃ status, link.status = some status := by
  cases link with
  | connected status => exact ⟨status, rfl⟩
  | unavailable message => rcases target with _ | _ | _ <;> cases h

/-- What was published since the last change is what is recorded now. -/
theorem Fresh.recorded (h : Fresh target past link) (hcame : Came toml interval past desktop)
    (hpublished : published link target = some command) : Desktop.recorded desktop.machine target = some command := by
  obtain ⟨earlier, poll, later, rfl, hpoll, hlater⟩ := h
  obtain ⟨hsame, hstatus⟩ := hpoll.spec (hcame.led.turn_eq (by simp))
  obtain ⟨status, hsome⟩ := status_of_published hpublished
  obtain rfl := hstatus status hsome
  have hkept := hcame.led.same_since (fun d => Desktop.recorded d.machine target) fun u hu => not_not.mp (hlater u hu)
  rw [hkept, hsame]
  exact recorded_of_status hsome hpublished

/-! ## What a skip takes for held -/

open CoolingEditor in
theorem confirmsFixed_iff {kraken : Option KrakenTelemetry} {channel : Channel} {duty : UInt8} :
    confirmsFixed kraken channel duty = true ↔ ∃ seen, kraken = some seen ∧
      (seen.channel channel).mode.copied = some .fixed ∧ (seen.channel channel).duty.copied = some duty := by
  cases kraken with
  | none => simp [confirmsFixed]
  | some seen => simp [confirmsFixed]

open CoolingEditor in
theorem not_confirmsMode_of_fixed {kraken : Option KrakenTelemetry} {channel : Channel} {duty : UInt8}
    (h : confirmsFixed kraken channel duty = true) : confirmsMode kraken channel .curve = false := by
  obtain ⟨seen, rfl, hmode, -⟩ := confirmsFixed_iff.mp h
  simp [confirmsMode, hmode]

theorem program_of_confirmed {shell : Shell} {program : CoolingProgram} (h : Confirmed shell program)
    (hheld : shell.cooling.pending shell.kraken = false) (hne : shell.cooling.program ≠ .onboard) :
    shell.cooling.program = program := by
  unfold CoolingEditor.pending at hheld
  cases hprogram : shell.cooling.program with
  | onboard => exact absurd hprogram hne
  | fixed pump fan =>
    rw [hprogram] at hheld
    dsimp only at hheld
    simp only [Bool.or_eq_false_iff, Bool.not_eq_false'] at hheld
    cases program with
    | onboard => exact h.elim
    | fixed pump' fan' =>
      obtain ⟨seen, hkraken, -, hpump⟩ := confirmsFixed_iff.mp hheld.1
      obtain ⟨seen', hkraken', -, hfan⟩ := confirmsFixed_iff.mp hheld.2
      obtain ⟨other, hother, -, hpump'⟩ := confirmsFixed_iff.mp h.1
      obtain ⟨other', hother', -, hfan'⟩ := confirmsFixed_iff.mp h.2
      cases hkraken.symm.trans hkraken'
      cases hkraken.symm.trans hother
      cases hkraken.symm.trans hother'
      cases hpump.symm.trans hpump'
      cases hfan.symm.trans hfan'
      rfl
    | curve pump' fan' =>
      have hmode : CoolingEditor.confirmsMode shell.kraken .pump .curve = true := h.2.1
      rw [not_confirmsMode_of_fixed hheld.1] at hmode
      cases hmode
  | curve pump fan =>
    rw [hprogram] at hheld
    dsimp only at hheld
    simp only [Bool.or_eq_false_iff, Bool.not_eq_false', bne_eq_false_iff_eq] at hheld
    obtain ⟨⟨happlied, hpump⟩, -⟩ := hheld
    cases program with
    | onboard => exact h.elim
    | fixed pump' fan' =>
      rw [not_confirmsMode_of_fixed h.1] at hpump
      cases hpump
    | curve pump' fan' => exact Option.some.inj (happlied.symm.trans h.1)

theorem holds_of_held (hin : desktop.machine.InStep)
    (hrecorded : ∀ shown, published desktop.shell.link target = some shown →
      recorded desktop.machine target = some shown)
    (hagrees : Agrees desktop target) (hheld : desktop.shell.alreadyHeld target = true)
    (hcommand : desktop.shell.pendingCommand target = some command) : Holds desktop.machine command := by
  rcases target with _ | channel | _
  · unfold Shell.pendingCommand at hcommand
    dsimp only at hcommand
    split at hcommand
    · cases hcommand
    · rename_i hvalid
      obtain rfl := Option.some.inj hcommand
      obtain ⟨program, hprogram, hconfirmed⟩ := hagrees
      have hsame := program_of_confirmed hconfirmed (by simpa [Shell.alreadyHeld] using hheld) (not_or.mp hvalid).1
      rw [hsame]
      have hcommitted : desktop.machine.daemon.cooling.committedProgram = some program := by
        have hshown := hrecorded (.apply program) (by unfold published; rw [Option.mem_def.mp hprogram]; rfl)
        obtain ⟨other, hother, heq⟩ := Option.map_eq_some_iff.mp hshown
        cases heq
        exact hother
      exact ⟨hcommitted, fun x hx => hin.cooling _ _ ((Machine.committedProgram_iff.mp hcommitted).2 x hx)⟩
  · obtain ⟨program, hprogram, rfl⟩ := Option.map_eq_some_iff.mp hcommand
    have hcommitted : desktop.machine.daemon.lighting.committed channel = some program := by
      have hshown := hrecorded (.applyLighting ⟨channel, program⟩) (by
        unfold published
        dsimp only
        rw [of_decide_eq_true hheld, hprogram]
        rfl)
      obtain ⟨other, hother, heq⟩ := Option.map_eq_some_iff.mp hshown
      cases heq
      exact hother
    exact ⟨hcommitted, hin.lighting _ _ hcommitted⟩
  · obtain ⟨preset, hpreset, rfl⟩ := Option.map_eq_some_iff.mp hcommand
    unfold Shell.alreadyHeld at hheld
    dsimp only at hheld
    rw [hpreset, Option.any_some] at hheld
    obtain ⟨shown, hshown, hsame⟩ := Option.any_eq_true _ _ |>.mp hheld
    have hsame := of_decide_eq_true hsame
    have hcommitted := hrecorded (.applyDisplay shown) (by unfold published; dsimp only; rw [hshown]; rfl)
    obtain ⟨other, hother, heq⟩ := Option.map_eq_some_iff.mp hcommitted
    cases heq
    obtain ⟨entry, hentry, rfl⟩ := Option.map_eq_some_iff.mp hother
    refine ⟨entry, hentry, hsame, ?_⟩
    have hbrightness := hin.panel.brightness _ (hagrees entry hentry)
    have hpicture := hin.panel.picture entry hentry
    have hlevel : entry.preset.brightness = preset.brightness := (DisplayPreset.mk.inj hsame.2).2.2.2.2.2.1
    cases hglass : desktop.machine.panel.state with
    | mk brightness picture =>
      rw [hglass] at hbrightness hpicture
      rw [← hlevel, ← hbrightness, ← hpicture]

end Kori.Desktop
