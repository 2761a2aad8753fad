import Kori.Daemon.State
import Kori.Faulty.Turns

/-! # What the daemon's operations keep -/

open Faulty

namespace Kori.Machine

variable {Raw α : Type} {toml : Toml Raw} {around : Surroundings} {machine : Machine Raw}

/-! ## One executor at a time -/

theorem cool_apply (f : CoolingExecutor → Hw (α × CoolingExecutor)) : cool f machine =
    let r := (f machine.daemon.cooling).run hwmonDevice machine.cooler
    (r.1.1, { machine with daemon := { machine.daemon with cooling := r.1.2 }, cooler := r.2 }) := rfl

theorem draw_apply (f : DisplayExecutor → LcdIo (α × DisplayExecutor)) : draw f machine =
    let r := (f machine.daemon.display).run lcd machine.panel
    (r.1.1, { machine with daemon := { machine.daemon with display := r.1.2 }, panel := r.2 }) := rfl

/-! ## Composing them

`R` relates a machine to the ones an operation may turn it into. -/

variable {R : Machine Raw → Machine Raw → Prop} [IsPreorder (Machine Raw) R]

theorem keeps_remember (hnote : ∀ event, Keeps R (note event))
    {record : Configuration → DiskIo Raw (Except ConfigError Unit × Configuration)}
    (hrecord : Keeps R (configure toml record)) : Keeps R (remember toml record) := by
  unfold remember
  refine .bind hrecord fun r => ?_
  cases r with
  | ok value => exact .pure _
  | error error => exact hnote _

theorem keeps_execute (hnote : ∀ event, Keeps R (note event)) (program : CoolingProgram)
    (hcool : Keeps R (applyCooling around program))
    (hrecord : Keeps R (configure toml fun config => config.recordProgram toml program)) :
    Keeps R (execute toml around program) := by
  unfold execute
  refine .bind .get fun machine => ?_
  split
  · exact .pure _
  · refine .bind hcool fun outcome => ?_
    dsimp only
    split
    · exact .pure _
    · refine .bind (hnote _) fun _ => ?_
      split
      · exact .bind (keeps_remember hnote hrecord) fun _ => .pure _
      · exact .bind (.pure _) fun _ => .pure _

theorem keeps_illuminate (hnote : ∀ event, Keeps R (note event)) (command : LightingCommand)
    (hlight : Keeps R (light fun lighting => do lighting.apply (← clock) command))
    (hrecord : Keeps R (configure toml fun config => config.recordLighting toml command)) :
    Keeps R (illuminate toml command) := by
  unfold illuminate
  refine .bind .get fun machine => ?_
  split
  · exact .pure _
  · refine .bind hlight fun outcome => .bind (hnote _) fun _ => ?_
    split
    · exact .bind (keeps_remember hnote hrecord) fun _ => .pure _
    · exact .bind (.pure _) fun _ => .pure _

theorem keeps_show (hnote : ∀ event, Keeps R (note event)) (preset : DisplayPreset)
    (hdraw : Keeps R (draw fun display => display.apply around.renderer preset (preset.samples around.snapshot)))
    (hrecord : Keeps R (configure toml fun config => config.recordDisplay toml preset)) :
    Keeps R («show» toml around preset) := by
  unfold «show»
  refine .bind .get fun machine => ?_
  split
  · exact .pure _
  · refine .bind hdraw fun sent => ?_
    cases sent with
    | error error => exact .pure _
    | ok outcome =>
      refine .bind (hnote _) fun _ => ?_
      split
      · exact .bind (keeps_remember hnote hrecord) fun _ => .pure _
      · exact .bind (.pure _) fun _ => .pure _

theorem keeps_applyDisplay (hnote : ∀ event, Keeps R (note event))
    (hshow : ∀ preset, Keeps R («show» toml around preset)) (preset : Option DisplayPreset) :
    Keeps R (applyDisplay toml around preset) := by
  cases preset with
  | none => exact .pure _
  | some preset =>
    refine .bind (hshow preset) fun r => ?_
    cases r with
    | ok outcome => exact .pure _
    | error error => exact hnote _

theorem keeps_applyLighting (hnote : ∀ event, Keeps R (note event))
    (hilluminate : ∀ command, Keeps R (illuminate toml command)) (commands : List LightingCommand) :
    Keeps R (applyLighting toml commands) := by
  induction commands with
  | nil => exact .pure _
  | cons command rest ih =>
    refine .bind (hilluminate command) fun r => ?_
    cases r with
    | ok outcome => exact ih
    | error error => exact .bind (hnote _) fun _ => ih

theorem keeps_noteAll (hnote : ∀ event, Keeps R (note event)) (events : List EventKind) :
    Keeps R (noteAll events) := by
  induction events with
  | nil => exact .pure _
  | cons event rest ih => exact .bind (hnote event) fun _ => ih

theorem keeps_recordCollectorHealth (hnote : ∀ event, Keeps R (note event))
    (hreported : ∀ (machine : Machine Raw) reported, R machine { machine with
      daemon := { machine.daemon with reportedFailures := reported } }) (snapshot : TelemetrySnapshot) :
    Keeps R (recordCollectorHealth snapshot) := by
  unfold recordCollectorHealth
  refine .bind .get fun machine => ?_
  refine .bind (keeps_noteAll hnote _) fun _ => .bind (keeps_noteAll hnote _) fun _ => ?_
  exact fun s => hreported s _

/-! ## Every call -/

/-- What each operation of the daemon keeps. -/
structure Operations (toml : Toml Raw) (R : Machine Raw → Machine Raw → Prop) : Prop where
  note : ∀ event, Keeps R (note event)
  configure : ∀ {α : Type} (f : Configuration → DiskIo Raw (α × Configuration)), Keeps R (configure toml f)
  execute : ∀ around program, Keeps R (execute toml around program)
  illuminate : ∀ command, Keeps R (illuminate toml command)
  shows : ∀ around preset, Keeps R («show» toml around preset)
  reconcile : ∀ snapshot, Keeps R (reconcile snapshot)
  refresh : ∀ renderer samples, Keeps R (draw fun display => display.refresh renderer samples)
  advance : ∀ now, Keeps R (draw fun display => display.advanceAnimation now)
  drop : Keeps R (draw fun display => return (Reply.dropped, display.dropFrame))

namespace Operations

theorem applyProgram (h : Operations toml R) (held : ProgramToRestore) :
    Keeps R (applyProgram toml around held) := by
  unfold Machine.applyProgram
  refine .bind (h.execute around _) fun r => ?_
  dsimp only
  split
  · exact .bind (h.note _) fun _ => .pure _
  · exact .bind (h.note _) fun _ => .pure _
  · exact .pure _

theorem activateProfile (h : Operations toml R) (name : String) :
    Keeps R (activateProfile toml around name) := by
  unfold Machine.activateProfile
  refine .bind .get fun machine => ?_
  dsimp only
  split
  · exact .pure _
  · split
    · exact .pure _
    · refine .bind (h.configure _) fun r => ?_
      split
      · exact .pure _
      · refine .bind (keeps_applyLighting h.note h.illuminate _) fun _ => ?_
        refine .bind (keeps_applyDisplay h.note (h.shows around) _) fun _ => ?_
        exact .bind (h.applyProgram _) fun _ => .pure _

theorem dispatch (h : Operations toml R) (request : Request) : Keeps R (dispatch toml around request) := by
  cases request with
  | hello protocolVersion =>
    unfold Machine.dispatch
    dsimp only
    split
    · exact .pure _
    · exact .pure _
  | status => exact .bind .get fun _ => .pure _
  | capabilities => exact .bind .get fun _ => .pure _
  | profiles => exact .bind .get fun _ => .pure _
  | telemetry => exact .pure _
  | diagnostics => exact .bind .get fun _ => .pure _
  | activateProfile name => exact h.activateProfile name
  | saveProfile profile =>
    refine .bind (h.configure _) fun r => ?_
    split
    · exact .bind (h.note _) fun _ => .pure _
    · exact .pure _
  | deleteProfile name =>
    refine .bind (h.configure _) fun r => ?_
    split
    · exact .bind (h.note _) fun _ => .pure _
    · exact .pure _
  | applyProgram program =>
    refine .bind (h.execute around program) fun r => ?_
    split
    · exact .pure _
    · exact .pure _
  | applyLighting command =>
    refine .bind (h.illuminate command) fun r => ?_
    split
    · exact .pure _
    · exact .pure _
  | applyDisplay preset =>
    refine .bind (h.shows around preset) fun r => ?_
    split
    · exact .pure _
    · exact .pure _

theorem handle (h : Operations toml R) (request : Request) : Keeps R (handle toml around request) := by
  refine .bind (h.dispatch request) fun response => ?_
  split
  · exact .bind (h.note _) fun _ => .pure _
  · exact .bind (.pure _) fun _ => .pure _

theorem tick (h : Operations toml R) : Keeps R (tick around) := by
  unfold Machine.tick
  refine .bind (h.reconcile _) fun _ => ?_
  split
  · exact .pure _
  · refine .bind .get fun machine => ?_
    split
    · exact .pure _
    · refine .bind (h.refresh _ _) fun outcome => ?_
      split
      · exact .pure _
      · split
        · exact h.note _
        · exact .pure _

theorem serve (h : Operations toml R) (call : Call) : Keeps R (serve toml call) := by
  cases call with
  | request around request => exact fun machine => h.handle request machine
  | tick around => exact fun machine => h.tick machine
  | tickAnimation now => exact fun machine => h.advance now machine
  | dropDisplayFrame => exact h.drop

theorem restoreActiveProfile (h : Operations toml R) : Keeps R (restoreActiveProfile toml around) := by
  unfold Machine.restoreActiveProfile
  refine .bind .get fun machine => .bind (keeps_applyLighting h.note h.illuminate _) fun _ => ?_
  refine .bind .get fun machine => .bind (keeps_applyDisplay h.note (h.shows around) _) fun _ => ?_
  refine .bind .get fun machine => ?_
  dsimp only
  split
  · exact .pure _
  · exact .bind (h.applyProgram _) fun _ => .pure _

end Operations

end Kori.Machine
