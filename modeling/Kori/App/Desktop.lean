import Kori.App.Shell.Acts
import Kori.Daemon.State

/-! # The window, its worker and the daemon they talk to -/

open Faulty

namespace Kori

/-- What became of a request: it was answered, or something else came back in its place, whether or not
it was carried out. -/
inductive Fate where
  | answered
  | instead (answer : Feed.Answer) (carriedOut : Bool)

structure Desktop (Raw : Type) where
  app : App
  machine : Machine Raw

namespace Desktop

inductive Event where
  | window (action : Shell.Action)
  | work (around : Surroundings) (fate : Request → Fate) (elapsed : Duration)
  | stop
  /-- Another client's request, or the daemon's own clock. -/
  | daemon (call : Machine.Call)
  /-- The devices change by themselves. -/
  | devices (cooler : HwWorld) (controller : RgbController.Outside) (panel : LcdWorld)

variable {Raw : Type} (toml : Toml Raw) (around : Surroundings) (fate : Request → Fate)

/-- One request of the worker, and what came back for it. -/
def ask (request : Request) : Act Raw Feed.Answer := fun machine =>
  let r := Machine.handle toml around request machine
  match fate request with
  | .answered => (.ok r.1, r.2)
  | .instead answer true => (answer, r.2)
  | .instead answer false => (answer, machine)

/-- The version a handshake met. -/
def greeting : Feed.Answer → Except ClientError String
  | .ok (.hello _ daemonVersion) => .ok daemonVersion
  | .ok (.error error) => .error (.refused error)
  | .ok other => .error (.unexpected "hello" other.kind)
  | .error error => .error error

/-- What each request of the next step would be answered. -/
def replies (elapsed : Duration) (desktop : Desktop Raw) : Replies :=
  let answer (request : Request) : Feed.Answer := (ask toml around fate request desktop.machine).1
  { handshake := greeting (answer (.hello PROTOCOL_VERSION))
    capabilities := answer .capabilities
    profiles := answer .profiles
    command := match desktop.app.feed.executing with
      | some command => answer command.request
      | none => .error (.unexpected "nothing" "nothing")
    status := answer .status
    telemetry := answer .telemetry
    elapsed }

/-- The machine after the worker's next step. Only a command changes it. -/
def worked (desktop : Desktop Raw) : Machine Raw :=
  match desktop.app.feed.executing with
  | some command => (ask toml around fate command.request desktop.machine).2
  | none => desktop.machine

/-- One turn of the window, of the worker, or of the rest of the machine. -/
def step (interval : Duration) : Event → StateM (Desktop Raw) App.Noted
  | .window action => fun desktop =>
    let r := App.step interval (.window action) desktop.app
    (r.1, { desktop with app := r.2 })
  | .work around fate elapsed => fun desktop =>
    let r := App.step interval (.work (desktop.replies toml around fate elapsed)) desktop.app
    (r.1, { app := r.2, machine := desktop.worked toml around fate })
  | .stop => fun desktop =>
    let r := App.step interval .stop desktop.app
    (r.1, { desktop with app := r.2 })
  | .daemon call => fun desktop => ({}, { desktop with machine := (Machine.serve toml call desktop.machine).2 })
  | .devices cooler controller panel => fun desktop =>
    ({}, { desktop with machine := { desktop.machine with cooler, controller, panel } })

/-! ## What the worker reads, and what it is a run of -/

/-- The requests that only read leave the machine as it was. -/
theorem handle_reads (machine : Machine Raw) {request : Request}
    (h : request ∈ [.hello PROTOCOL_VERSION, .capabilities, .profiles, .status, .telemetry]) :
    (Machine.handle toml around request machine).2 = machine := by
  simp only [List.mem_cons, List.not_mem_nil, or_false] at h
  rcases h with rfl | rfl | rfl | rfl | rfl <;> rfl

/-- Every run of the desktop is, for the window and its worker, a run of these two that sends the same
commands. -/
theorem app_run (interval : Duration) (desktop : Desktop Raw) (events : List Event) :
    ∃ appEvents, (afterAll (step toml interval) desktop events).app =
        afterAll (App.step interval) desktop.app appEvents ∧
      (turns (step toml interval) desktop events).flatMap (·.answer.sent) =
        (turns (App.step interval) desktop.app appEvents).flatMap App.sent := by
  induction events generalizing desktop with
  | nil => exact ⟨[], rfl, rfl⟩
  | cons event rest ih =>
    obtain ⟨appEvents, hafter, hsent⟩ := ih (turn (step toml interval) desktop event).after
    cases event with
    | window action =>
      refine ⟨.window action :: appEvents, hafter, ?_⟩
      rw [turns, turns, List.flatMap_cons, List.flatMap_cons, hsent]
      rfl
    | work around fate elapsed =>
      refine ⟨.work (desktop.replies toml around fate elapsed) :: appEvents, hafter, ?_⟩
      rw [turns, turns, List.flatMap_cons, List.flatMap_cons, hsent]
      rfl
    | stop =>
      refine ⟨.stop :: appEvents, hafter, ?_⟩
      rw [turns, turns, List.flatMap_cons, List.flatMap_cons, hsent]
      rfl
    | daemon call =>
      refine ⟨appEvents, hafter, ?_⟩
      rw [turns, List.flatMap_cons, hsent]
      rfl
    | devices cooler controller panel =>
      refine ⟨appEvents, hafter, ?_⟩
      rw [turns, List.flatMap_cons, hsent]
      rfl

end Desktop

end Kori
