import Kori.Core.Client
import Kori.Faulty.Queue

/-! # The one connection the window has to the daemon, and the worker that owns it -/

open Faulty

namespace Kori

/-- A `Duration`, in nanoseconds. -/
abbrev Duration := Nat

/-- Longest the worker waits before noticing a shutdown request. -/
def SHUTDOWN_GRANULARITY : Duration := 25 * 1000000

/-- What a command was addressed to. -/
inductive CommandSubject where
  | cooling
  | lighting (channel : UInt8)
  | panel
  /-- A stored profile: saved, activated or deleted. -/
  | profiles
deriving DecidableEq, Repr

/-- Something the operator asked the hardware to do. -/
inductive Command where
  | apply (program : CoolingProgram)
  | applyLighting (command : LightingCommand)
  | applyDisplay (preset : DisplayPreset)
  | saveProfile (profile : Profile)
  | activateProfile (name : String)
  | deleteProfile (name : String)
deriving DecidableEq

namespace Command

/-- Whether running this can change the stored profile list. -/
def touchesProfiles : Command → Bool
  | saveProfile _ | activateProfile _ | deleteProfile _ => true
  | _ => false

def subject : Command → CommandSubject
  | apply _ => .cooling
  | applyLighting command => .lighting command.channel
  | applyDisplay _ => .panel
  | saveProfile _ | activateProfile _ | deleteProfile _ => .profiles

/-- The request it is sent as. -/
def request : Command → Request
  | apply program => .applyProgram program
  | applyLighting command => .applyLighting command
  | applyDisplay preset => .applyDisplay preset
  | saveProfile profile => .saveProfile profile
  | activateProfile name => .activateProfile name
  | deleteProfile name => .deleteProfile name

end Command

/-- How a command ended. -/
inductive OutcomeSeverity where
  | confirmed
  /-- It was accepted but the hardware state is not confirmed. -/
  | unconfirmed
  /-- It was refused, and nothing was written. -/
  | refused
deriving DecidableEq, Repr

/-- How urgent a reported hardware state is. -/
def OutcomeSeverity.of : HardwareState → OutcomeSeverity
  -- Onboard is a success: nothing was written because nothing needed to be.
  | .confirmed | .onboard => confirmed
  | .uncertain _ => unconfirmed
  | .notApplied _ => refused

/-- How one command ended, before it is told apart from any other. -/
structure Feed.Report where
  message : String
  severity : OutcomeSeverity
deriving DecidableEq

namespace Feed.Report

def refused (message : String) : Report := { message, severity := .refused }

def confirmed (message : String) : Report := { message, severity := .confirmed }

def fromHardware (hardware : HardwareState) (message : String) : Report := { message, severity := .of hardware }

/-- The picture and the brightness are reported separately: the brightness travels whatever the pixels do. -/
def fromDisplay (outcome : DisplayOutcome) : Report :=
  fromHardware outcome.hardware (match outcome.hardware with
    | .confirmed =>
      if outcome.deduplicated ∧ outcome.brightnessSent then
        s!"Brightness set to {outcome.preset.brightness.percent.toNat}%. The picture was already correct, so no frame was sent."
      else if outcome.deduplicated then "Already showing this. Nothing was sent."
      else s!"Set to {outcome.preset.mode.label}. The transfer completed; the panel reports no picture to read back."
    | .onboard => "Keeping its own picture. Nothing was sent."
    | .notApplied reason => reason
    | .uncertain reason => s!"Uncertain: {reason}")

def fromLighting (outcome : LightingOutcome) : Report :=
  fromHardware outcome.hardware (match outcome.hardware with
    | .confirmed =>
      if outcome.deduplicated then "Already showing this. Nothing was sent."
      else s!"Set to {outcome.program.summary}. The controller accepted the command; it reports no state to read back."
    | .onboard => "The controller keeps its own program. Nothing was sent."
    | .notApplied reason => reason
    | .uncertain reason => s!"Uncertain: {reason}")

def fromApply (outcome : ApplyOutcome) : Report :=
  fromHardware outcome.hardware (match outcome.hardware with
    | .confirmed =>
      if outcome.deduplicated then
        "Already applied. The hardware already held this program, so nothing was written."
      else s!"Applied and confirmed by readback. {outcome.writes} kernel attributes written."
    | .onboard => "The device keeps running its own program. Nothing was written."
    | .notApplied reason | .uncertain reason => reason)

end Feed.Report

/-- The result of the last command. -/
structure CommandOutcome where
  /-- Which command produced this, counted by the worker. -/
  sequence : Nat
  subject : CommandSubject
  message : String
  severity : OutcomeSeverity
deriving DecidableEq

/-- What the client knows about the daemon right now. -/
inductive LinkState where
  | connected (status : DaemonStatus) (capabilities : CapabilityRecord) (profiles : List Profile)
      (telemetry : Option TelemetrySnapshot)
  | unavailable (message : String)

namespace LinkState

/-- The state shown before the worker's first cycle completes. -/
def connecting : LinkState := unavailable "Connecting to the background service..."

def status : LinkState → Option DaemonStatus
  | connected status _ _ _ => some status
  | unavailable _ => none

def telemetry : LinkState → Option TelemetrySnapshot
  | connected _ _ _ telemetry => telemetry
  | unavailable _ => none

def profiles : LinkState → List Profile
  | connected _ _ profiles _ => profiles
  | unavailable _ => []

/-- Lighting channels the controller reported. -/
def lightingChannels (link : LinkState) : List ChannelState :=
  match link.status with
  | some status => status.lighting
  | none => []

def activeProfile (link : LinkState) : Option String := link.status.map (·.activeProfile)

end LinkState

/-! ## One command -/

namespace Feed

/-- What the request a command was sent as came to. -/
abbrev Answer := Except ClientError Response

/-- Reads the answer a request was sent for; `describe` knows the one response it asks for. -/
def request (answer : Answer) (describe : Response → Option Report) : Report :=
  match answer with
  | .ok (.error error) => .refused error.message
  | .ok response => (describe response).getD
      (.refused "The background service answered something this build does not understand.")
  | .error error => .refused error.display

def reported {T : Type} (result : Except ClientError T) (report : T → Report) : Report :=
  match result with
  | .ok outcome => report outcome
  | .error error => .refused error.display

/-- Runs one command and reports how it ended. -/
def execute (answer : Answer) : Command → Report
  | .apply _ => reported (Client.apply answer) .fromApply
  | .applyLighting _ => reported (Client.applyLighting answer) .fromLighting
  | .applyDisplay _ => reported (Client.applyDisplay answer) .fromDisplay
  | .saveProfile profile => request answer fun
    | .saved _ => some (.confirmed s!"Profile {profile.name} saved.")
    | _ => none
  | .activateProfile _ => request answer fun
    | .activated activation =>
      let report := match activation.applied with
        | some applied => Report.fromApply applied
        | none => .fromHardware activation.hardware "Profile activated."
      some { report with message := s!"{activation.name}: {report.message}" }
    | _ => none
  | .deleteProfile _ => request answer fun
    | .deleted name activatedInstead => some (.confirmed (match activatedInstead with
      | some safe => s!"{safe} activated before {name} was deleted."
      | none => s!"Profile {name} deleted."))
    | _ => none

theorem execute_apply_confirmed {answer : Answer} {program : CoolingProgram}
    (h : (execute answer (.apply program)).severity = .confirmed) :
    ∃ outcome, answer = .ok (.applied outcome) ∧ (outcome.hardware = .confirmed ∨ outcome.hardware = .onboard) := by
  unfold execute reported at h
  cases hresult : Client.apply answer with
  | error error => simp [hresult, Report.refused] at h
  | ok outcome =>
    obtain ⟨response, hanswer, htake⟩ := expect_ok hresult
    simp only [hresult] at h
    refine ⟨outcome, ?_, ?_⟩
    · rw [hanswer]
      cases response <;> simp at htake
      rw [htake]
    · cases hhardware : outcome.hardware <;>
        simp [Report.fromApply, Report.fromHardware, hhardware, OutcomeSeverity.of] at h ⊢

end Feed

/-! ## The worker -/

structure Session where
  capabilities : CapabilityRecord
  profiles : List Profile

/-- Where the worker is in its cycle. -/
inductive Phase where
  | top
  /-- It runs commands, and remembers whether one of them touched the profiles. -/
  | draining (refreshProfiles : Bool)
  | executing (command : Command) (refreshProfiles : Bool)
  | waiting (remaining : Duration)
  | stopped
deriving DecidableEq

/-- What the worker publishes. -/
structure Shared where
  link : Option LinkState
  outcome : Option CommandOutcome

/-- The worker, its queue, and what it shares with the window. -/
structure Feed where
  shared : Shared
  inbox : List Command
  stop : Bool
  session : Option Session
  /-- The command that ended the previous wait, held until the cycle it opens. -/
  pending : Option Command
  sequence : Nat
  phase : Phase
  notifications : Nat

/-- What the daemon answers a step of the worker, and how long its cycle has taken. -/
structure Replies where
  handshake : Except ClientError String
  capabilities : Feed.Answer
  profiles : Feed.Answer
  command : Feed.Answer
  status : Feed.Answer
  telemetry : Feed.Answer
  elapsed : Duration

/-- A command that ran, what it was answered, and the outcome that was published. -/
structure Published where
  command : Command
  answer : Feed.Answer
  outcome : CommandOutcome

/-- The outcome says what its command was addressed to and how its answer is reported. -/
def Published.Reported (published : Published) : Prop :=
  published.outcome.subject = published.command.subject ∧
    published.outcome.severity = (Feed.execute published.answer published.command).severity

namespace Feed

def spawned : Feed :=
  { shared := ⟨none, none⟩, inbox := [], stop := false, session := none, pending := none, sequence := 0,
    phase := .top, notifications := 0 }

/-- Queues commands. -/
def sendAll (commands : List Command) (feed : Feed) : Feed := { feed with inbox := feed.inbox ++ commands }

def connect (replies : Replies) : Except ClientError Session := do
  let _ ← replies.handshake
  let capabilities ← Client.capabilities replies.capabilities
  let profiles ← Client.profiles replies.profiles
  return { capabilities, profiles := profiles.2 }

/-- One polling cycle: status and telemetry. -/
def poll (session : Session) (replies : Replies) : Except ClientError LinkState := do
  let status ← Client.status replies.status
  let telemetry ← Client.telemetry replies.telemetry
  return .connected status session.capabilities session.profiles (some telemetry)

def publishUnavailable (error : ClientError) (feed : Feed) : Feed :=
  { feed with shared := { feed.shared with link := some (.unavailable error.operatorMessage) } }

/-- Once there is nothing more to run: the profiles, if a command touched them, and the poll. A broken
connection is dropped, and the next cycle reconnects. -/
def finish (refreshProfiles : Bool) (replies : Replies) (feed : Feed) : Feed :=
  match feed.session with
  | none => feed
  | some session =>
    let active := match refreshProfiles, Client.profiles replies.profiles with
      | true, .ok profiles => { session with profiles := profiles.2 }
      | _, _ => session
    match poll active replies with
    | .ok link => { feed with session := some active, shared := { feed.shared with link := some link } }
    | .error error => { feed.publishUnavailable error with session := none }

/-- Rings the notifier, and starts the wait for the rest of the cycle. -/
def endCycle (interval elapsed : Duration) (feed : Feed) : Feed :=
  { feed with notifications := feed.notifications + 1, phase := .waiting (interval - elapsed) }

/-- One slice of the wait, which a command or a shutdown cuts short. -/
def waitForCommand (remaining : Duration) (feed : Feed) : Feed :=
  if remaining = 0 ∨ feed.stop = true then { feed with pending := none, phase := .top }
  else
    match feed.inbox with
    | command :: rest => { feed with pending := some command, inbox := rest, phase := .top }
    | [] => { feed with phase := .waiting (remaining - min remaining SHUTDOWN_GRANULARITY) }

/-- Hands one command to `execute`. -/
def take (command : Command) (refreshProfiles : Bool) (feed : Feed) : Feed :=
  { feed with phase := .executing command (refreshProfiles || command.touchesProfiles) }

/-- Publishes how a command ended. -/
def publish (command : Command) (answer : Answer) (feed : Feed) : CommandOutcome × Feed :=
  let report := execute answer command
  let outcome := { sequence := feed.sequence + 1, subject := command.subject, message := report.message, severity := report.severity }
  (outcome, { feed with sequence := feed.sequence + 1, shared := { feed.shared with outcome := some outcome } })

/-- What one turn did with commands. -/
structure Noted where
  sent : List Command := []
  handed : Option Command := none
  published : Option Published := none

/-- The worker's next step. -/
def work (interval : Duration) (replies : Replies) : StateM Feed Noted := fun feed =>
  match feed.phase with
  | .top =>
    if feed.stop then ({}, { feed with phase := .stopped })
    else
      match feed.session with
      | some _ => ({}, { feed with phase := .draining false })
      | none =>
        match connect replies with
        | .ok fresh => ({}, { feed with session := some fresh, phase := .draining false })
        | .error error => ({}, (feed.publishUnavailable error).endCycle interval replies.elapsed)
  | .draining refreshProfiles =>
    -- Commands first: a write just queued must not wait a whole cycle behind a poll.
    match feed.pending, feed.inbox with
    | some command, _ => ({ handed := some command }, { feed with pending := none }.take command refreshProfiles)
    | none, command :: rest => ({ handed := some command }, { feed with inbox := rest }.take command refreshProfiles)
    | none, [] => ({}, (feed.finish refreshProfiles replies).endCycle interval replies.elapsed)
  | .executing command refreshProfiles =>
    let (outcome, published) := feed.publish command replies.command
    ({ published := some ⟨command, replies.command, outcome⟩ }, { published with phase := .draining refreshProfiles })
  | .waiting remaining => ({}, feed.waitForCommand remaining)
  | .stopped => ({}, feed)

/-- The window queues a command or goes away, or the worker makes a step. -/
inductive Event where
  | send (command : Command)
  | stop
  | work (replies : Replies)

def step (interval : Duration) : Event → StateM Feed Noted
  | .send command => fun feed => ({ sent := [command] }, feed.sendAll [command])
  | .stop => fun feed => ({}, { feed with stop := true })
  | .work replies => work interval replies

end Feed

end Kori
