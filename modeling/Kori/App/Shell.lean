import Kori.App.Cooling
import Kori.App.Feed
import Mathlib.Data.List.Sort

/-! # The window: its edits, the writes they settle into, and the outcomes it takes -/

open Faulty

namespace Kori

/-! ## When a pending edit leaves the process -/

/-- One openable row of the Lighting screen. -/
inductive LightingRow where
  | channel (channel : UInt8)
  | lcd
deriving DecidableEq

/-- Something the screen writes on its own once the operator stops moving it. -/
inductive WriteTarget where
  | cooling
  | lighting (row : LightingRow)
deriving DecidableEq

/-- How still the Cooling screen has to be before an edit is written. -/
def COOLING_QUIET : Duration := 400 * 1000000
/-- How still one Lighting row has to be before its edit is written. -/
def LIGHTING_QUIET : Duration := 150 * 1000000

def WriteTarget.quiet : WriteTarget → Duration
  | cooling => COOLING_QUIET
  | lighting _ => LIGHTING_QUIET

/-- What the pointer is moving. A curve is replayed from the one it stood on at the press. -/
inductive Drag where
  | brightness (row : LightingRow)
  | duty (channel : Channel)
  | curve (channel : Channel) (node : Nat) (base : CurveNodes)
deriving DecidableEq

def Drag.isCooling : Drag → Bool
  | brightness _ => false
  | duty _ | curve .. => true

/-- Whether a write whose deadline has passed must still wait. -/
def writeIsHeldBack (target : WriteTarget) (drag : Option Drag) (inFlight : Bool) : Bool :=
  match target with
  | .cooling => drag.any Drag.isCooling || inFlight
  | .lighting row => drag = some (.brightness row)

/-- When each pending edit should leave, one deadline a target. -/
structure WriteSchedule where
  due : List (WriteTarget × Duration)

namespace WriteSchedule

/-- Arranges for a target to be written once it has been still until `at`. -/
def touch (target : WriteTarget) (deadline : Duration) (schedule : WriteSchedule) : WriteSchedule :=
  if schedule.due.any (·.1 = target) then
    ⟨schedule.due.map fun entry => if entry.1 = target then (target, deadline) else entry⟩
  else ⟨schedule.due ++ [(target, deadline)]⟩

/-- Every target whose deadline has passed, and the others. -/
def takeDue (now : Duration) (schedule : WriteSchedule) : List WriteTarget × WriteSchedule :=
  ((schedule.due.filter (·.2 ≤ now)).map Prod.fst, ⟨schedule.due.filter fun entry => ¬ entry.2 ≤ now⟩)

def isPending (target : WriteTarget) (schedule : WriteSchedule) : Bool := schedule.due.any (·.1 = target)

end WriteSchedule

/-! ## The window -/

/-- What a channel's row would send before the operator picks anything. -/
def DEFAULT_LIGHTING : LightingProgram := .fixed ⟨0x6F, 0x4E, 0xF2⟩ .FULL

/-- The window. A row of the Lighting screen is what it would send, if it can be sent. -/
structure Shell where
  link : LinkState
  cooling : CoolingEditor
  lighting : List (UInt8 × Option LightingProgram)
  lcd : Option DisplayPreset
  drag : Option Drag
  due : WriteSchedule
  /-- The program the last cooling write sent, held until its outcome arrives. -/
  sent : Option CoolingProgram
  outcome : Option CommandOutcome
  /-- Set once the operator has armed the profile deletion. -/
  confirmDelete : Bool
  /-- The committed program the last status reported. -/
  committed : Option CoolingProgram

/-- The committed program a fresh status should put in the editor. -/
def programToAdopt (committed seen : Option CoolingProgram) (editing : Bool) : Option CoolingProgram :=
  if editing ∨ seen = committed then none else committed

/-- What one activation of the delete control does. -/
def nextDeletion (active : Option String) (armed : Bool) : Bool × Option Command :=
  match active with
  | none => (false, none)
  | some name =>
    if name = SAFE_PROFILE_NAME then (false, none)
    else if armed then (false, some (.deleteProfile name))
    else (true, none)

def CoolingMode.label : CoolingMode → String
  | onboard => "Onboard (device default)"
  | fixed => "Fixed duty"
  | curve => "Liquid temperature curve"

namespace Shell

def opened (lcd : Option DisplayPreset) : Shell :=
  { link := .connecting, cooling := .new, lighting := [], lcd, drag := none, due := ⟨[]⟩, sent := none,
    outcome := none, confirmDelete := false, committed := none }

def kraken (shell : Shell) : Option KrakenTelemetry := shell.link.telemetry.map (·.kraken)

/-- Notes an edit, to be written once things go quiet. -/
def scheduleWrite (target : WriteTarget) (now : Duration) (shell : Shell) : Shell :=
  { shell with due := shell.due.touch target (now + target.quiet) }

/-- Sends the pending cooling program, and remembers it until its outcome arrives. -/
def sendCooling : StateM Shell (List Command) := fun shell =>
  if ¬ shell.cooling.pending shell.kraken ∨ shell.cooling.validationError.isSome then ([], shell)
  else ([.apply shell.cooling.program], { shell with sent := some shell.cooling.program })

/-- A channel's program, unless it is already showing it. -/
def sendLighting (channel : UInt8) (shell : Shell) : List Command :=
  match (shell.lighting.find? (·.1 = channel)).bind Prod.snd with
  | none => []
  | some program =>
    if (shell.link.lightingChannels.find? (·.channel = channel)).bind (·.committed) = some program then []
    else [.applyLighting { channel, program }]

/-- The panel's pending preset, unless it is already showing it. -/
def sendDisplay (shell : Shell) : List Command :=
  match shell.lcd with
  | none => []
  | some preset =>
    if (shell.link.status.bind (·.display.committed)).any fun shown => shown.Same preset then []
    else [.applyDisplay preset]

/-- Writes a target that came due, unless it is held back; then it keeps its place. -/
def flushTarget (now : Duration) (target : WriteTarget) : StateM Shell (List Command) := fun shell =>
  if writeIsHeldBack target shell.drag shell.sent.isSome then ([], shell.scheduleWrite target now)
  else
    match target with
    | .cooling => shell.sendCooling
    | .lighting (.channel channel) => (shell.sendLighting channel, shell)
    | .lighting .lcd => (shell.sendDisplay, shell)

def flushTargets (now : Duration) : List WriteTarget → StateM Shell (List Command)
  | [] => fun shell => ([], shell)
  | target :: rest => do
    let first ← flushTarget now target
    let others ← flushTargets now rest
    return first ++ others

/-- Writes everything that has been still long enough. -/
def flushWrites (now : Duration) : StateM Shell (List Command) := fun shell =>
  flushTargets now (shell.due.takeDue now).1 { shell with due := (shell.due.takeDue now).2 }

/-- Puts the daemon's committed program in the editor when it changes, never over an edit. -/
def adoptCommittedProgram (shell : Shell) : Shell :=
  let editing := shell.drag.any Drag.isCooling || shell.due.isPending .cooling || shell.sent.isSome
  match programToAdopt (shell.link.status.bind (·.cooling)) shell.committed editing with
  | none => shell
  | some program => { shell with cooling := shell.cooling.adopt program, committed := some program }

/-- The rows of the channels the controller reported. A channel that is still there keeps its edit. -/
def syncLighting (channels : List UInt8) (rows : List (UInt8 × Option LightingProgram)) :
    List (UInt8 × Option LightingProgram) :=
  (channels.map fun channel => (channel, match rows.find? (·.1 = channel) with
    | some row => row.2
    | none => some DEFAULT_LIGHTING)).insertionSort fun a b => a.1 ≤ b.1

/-- The first half of a refresh: the link the worker published. -/
def takeLink (link : Option LinkState) (shell : Shell) : Shell :=
  match link with
  | none => shell
  | some link =>
    let adopted := ({ shell with link }).adoptCommittedProgram
    { adopted with lighting := syncLighting (link.lightingChannels.map (·.channel)) shell.lighting }

/-- Takes the worker's latest outcome, told apart from the last one by its sequence, and resolves what
it settles: the program it recorded, if it did. -/
def adoptOutcome (outcome : Option CommandOutcome) : StateM Shell (Option CoolingProgram) := fun shell =>
  match outcome with
  | none => (none, shell)
  | some outcome =>
    if shell.outcome.map (·.sequence) = some outcome.sequence then (none, shell)
    -- Only a cooling write's own outcome resolves the cooling write in flight.
    else if outcome.subject = .cooling then
      match outcome.severity, shell.sent with
      | .confirmed, some program => (some program, { shell with
          sent := none
          cooling := shell.cooling.recordApplied program
          outcome := some outcome })
      | .confirmed, none => (none, { shell with outcome := some outcome })
      | _, _ => (none, { shell with sent := none, outcome := some outcome })
    else (none, { shell with outcome := some outcome })

/-- Puts the editor back on what the device reports it is running. -/
def revert (now : Duration) (shell : Shell) : Shell :=
  ({ shell with cooling := shell.cooling.cancel shell.kraken, sent := none }).scheduleWrite .cooling now

/-- The profile of the whole machine as the screens hold it. -/
def savedProfile (panelEnabled : Bool) (shell : Shell) : Profile :=
  { name := String.ofList ((s!"{shell.cooling.mode.label} {shell.link.profiles.length}").toList.take 48)
    program := shell.cooling.program
    device := some KRAKEN_BASE
    lighting := shell.lighting.filterMap fun row => row.2.map fun program => { channel := row.1, program }
    display := if panelEnabled then shell.lcd else none }

/-- An edit of the cooling program that is not a drag. -/
inductive CoolingEdit where
  | setMode (mode : CoolingMode)
  | adjustDuty (channel : Channel) (steps : Int)
  | adjustNode (channel : Channel) (node : Nat) (steps : Int)

def CoolingEdit.apply (editor : CoolingEditor) : CoolingEdit → CoolingEditor
  | setMode mode => editor.setMode mode
  | adjustDuty channel steps => editor.adjustDuty channel steps
  | adjustNode channel node steps => editor.adjustNode channel node steps

/-- What a press may grab. -/
inductive Grip where
  | brightness (row : LightingRow)
  | duty (channel : Channel)
  | node (channel : Channel) (node : Nat)

/-- Something that happens in the window. A pointer's value is the duty it is over. -/
inductive Action where
  | edit (edit : CoolingEdit) (now : Duration)
  | grab (grip : Grip) (value : UInt8) (now : Duration)
  | dragTo (value : UInt8) (now : Duration)
  | release (now : Duration)
  | revert (now : Duration)
  /-- The moves of a brightness drag settle nothing yet. -/
  | editChannel (channel : UInt8) (program : Option LightingProgram) (settles : Option Duration)
  | editPanel (preset : Option DisplayPreset) (settles : Option Duration)
  | resumePanel
  | activateProfile (name : String)
  | saveProfile (panelEnabled : Bool)
  | deleteProfile
  | go
  | takeLink
  | adoptOutcome
  | flushWrites (now : Duration)

/-- What a row would send once its edit is in. -/
def setRow (channel : UInt8) (program : Option LightingProgram) (shell : Shell) : Shell :=
  { shell with lighting := shell.lighting.map fun row => if row.1 = channel then (channel, program) else row }

def settle (target : WriteTarget) (settles : Option Duration) (shell : Shell) : Shell :=
  match settles with
  | none => shell
  | some now => shell.scheduleWrite target now

/-- Moves what is being dragged. Only a curve that changed is worth another deadline. -/
def dragTo (value : UInt8) (now : Duration) (shell : Shell) : Shell :=
  match shell.drag with
  | none | some (.brightness _) => shell
  | some (.duty channel) => { shell with cooling := shell.cooling.setDuty channel value }
  | some (.curve channel node base) =>
    let moved := { shell with cooling := shell.cooling.setNodeFrom channel base node value }
    if moved.cooling.curve channel = shell.cooling.curve channel then moved
    else moved.scheduleWrite .cooling now

/-- Starts a gesture. On a curve the press is already an edit. -/
def grab (grip : Grip) (value : UInt8) (now : Duration) (shell : Shell) : Shell :=
  match grip with
  | .brightness row => { shell with drag := some (.brightness row) }
  | .duty channel => ({ shell with drag := some (.duty channel) }).dragTo value now
  | .node channel node =>
    let base := shell.cooling.curve channel
    (({ shell with
      drag := some (.curve channel node base)
      cooling := shell.cooling.setNodeFrom channel base node value }).scheduleWrite .cooling now).dragTo value now

def release (now : Duration) (shell : Shell) : Shell :=
  let released := { shell with drag := none }
  match shell.drag with
  | some (.brightness row) => released.scheduleWrite (.lighting row) now
  | some (.duty _) | some (.curve ..) => released.scheduleWrite .cooling now
  | none => released

/-- What an action sends, what it records, and the window after it, from what the worker shares. -/
def act (shared : Shared) : Action → StateM Shell (List Command × Option CoolingProgram)
  | .edit edit now => fun shell =>
    (([], none), ({ shell with cooling := edit.apply shell.cooling }).scheduleWrite .cooling now)
  | .grab grip value now => fun shell => (([], none), shell.grab grip value now)
  | .dragTo value now => fun shell => (([], none), shell.dragTo value now)
  | .release now => fun shell => (([], none), shell.release now)
  | .revert now => fun shell => (([], none), shell.revert now)
  | .editChannel channel program settles => fun shell =>
    (([], none), (shell.setRow channel program).settle (.lighting (.channel channel)) settles)
  | .editPanel preset settles => fun shell => (([], none), ({ shell with lcd := preset }).settle (.lighting .lcd) settles)
  | .resumePanel => fun shell => ((shell.lcd.toList.map .applyDisplay, none), shell)
  | .activateProfile name => fun shell => (([.activateProfile name], none), shell)
  | .saveProfile panelEnabled => fun shell => (([.saveProfile (shell.savedProfile panelEnabled)], none), shell)
  | .deleteProfile => fun shell =>
    let (armed, command) := nextDeletion shell.link.activeProfile shell.confirmDelete
    ((command.toList, none), { shell with confirmDelete := armed })
  | .go => fun shell => (([], none), { shell with confirmDelete := false })
  | .takeLink => fun shell => (([], none), shell.takeLink shared.link)
  | .adoptOutcome => fun shell =>
    let (recorded, adopted) := Shell.adoptOutcome shared.outcome shell
    (([], recorded), adopted)
  | .flushWrites now => fun shell =>
    let (commands, flushed) := Shell.flushWrites now shell
    ((commands, none), flushed)

/-- What the window does when it is woken. -/
def refresh (now : Duration) : List Action := [.takeLink, .adoptOutcome, .flushWrites now]

end Shell

/-! ## The window and its worker -/

/-- The window and its worker. -/
structure App where
  shell : Shell
  feed : Feed

namespace App

inductive Event where
  | window (action : Shell.Action)
  | work (replies : Replies)
  | stop

/-- What a turn did with commands, and the program it recorded as running. -/
structure Noted extends Feed.Noted where
  recorded : Option CoolingProgram := none

def opened (lcd : Option DisplayPreset) : App := { shell := .opened lcd, feed := .spawned }

/-- One turn of the window or of the worker. -/
def step (interval : Duration) : Event → StateM App Noted
  | .window action => fun app =>
    let ((commands, recorded), shell) := Shell.act app.feed.shared action app.shell
    ({ sent := commands, recorded }, { shell, feed := app.feed.sendAll commands })
  | .work replies => fun app =>
    let (noted, feed) := Feed.work interval replies app.feed
    ({ toNoted := noted }, { app with feed })
  | .stop => fun app => ({}, { app with feed := { app.feed with stop := true } })

end App

end Kori
