import Kori.Daemon.State.Rules

/-! # The diagnostics log, which nothing but its export reads -/

open Faulty

namespace Kori.Machine

variable {Raw α : Type} {toml : Toml Raw} {around : Surroundings}

def withLog (log : List EventKind) (machine : Machine Raw) : Machine Raw :=
  { machine with daemon := { machine.daemon with diagnostics := log } }

@[simp] theorem withLog_config (log : List EventKind) (machine : Machine Raw) :
    (machine.withLog log).daemon.config = machine.daemon.config := rfl

/-- The machines differ in the log at most. -/
def SameButLog (before after : Machine Raw) : Prop := ∃ log, after = before.withLog log

instance : IsPreorder (Machine Raw) SameButLog where
  refl machine := ⟨machine.daemon.diagnostics, rfl⟩
  trans := by
    rintro machine _ _ ⟨_, rfl⟩ ⟨log, rfl⟩
    exact ⟨log, rfl⟩

theorem SameButLog.symm {before after : Machine Raw} (h : before.SameButLog after) :
    after.SameButLog before := by
  obtain ⟨log, rfl⟩ := h
  exact ⟨before.daemon.diagnostics, rfl⟩

theorem sameButLog_note (event : EventKind) (machine : Machine Raw) :
    machine.SameButLog (note event machine).2 := ⟨_, rfl⟩

/-- An act the log plays no part in. -/
abbrev Unlogged (f : Act Raw α) : Prop := Overlooks withLog f

theorem Unlogged.same {f : Act Raw α} (hf : Unlogged f) {before after : Machine Raw}
    (h : before.SameButLog after) : (f after).1 = (f before).1 ∧ (f before).2.SameButLog (f after).2 := by
  obtain ⟨log, rfl⟩ := h
  obtain ⟨log', hsame⟩ := hf before log
  rw [hsame]
  exact ⟨rfl, log', rfl⟩

/-! ## One executor at a time -/

theorem unlogged_note (event : EventKind) : Unlogged (@note Raw event) := fun _ log => ⟨log ++ [event], rfl⟩

theorem unlogged_cool (f : CoolingExecutor → Hw (α × CoolingExecutor)) : Unlogged (@cool Raw α f) :=
  fun _ log => ⟨log, rfl⟩

theorem unlogged_light (f : LightingExecutor → RgbController.Io (α × LightingExecutor)) :
    Unlogged (@light Raw α f) := fun _ log => ⟨log, rfl⟩

theorem unlogged_draw (f : DisplayExecutor → LcdIo (α × DisplayExecutor)) : Unlogged (@draw Raw α f) :=
  fun _ log => ⟨log, rfl⟩

theorem unlogged_configure (f : Configuration → DiskIo Raw (α × Configuration)) :
    Unlogged (configure toml f) := fun _ log => ⟨log, rfl⟩

theorem unlogged_remember (record : Configuration → DiskIo Raw (Except ConfigError Unit × Configuration)) :
    Unlogged (remember toml record) := by
  unfold remember
  refine .bind (unlogged_configure record) fun r => ?_
  cases r with
  | ok value => exact .pure _
  | error error => exact unlogged_note _

/-! ## What reaches a device -/

theorem unlogged_execute (program : CoolingProgram) : Unlogged (execute toml around program) := by
  unfold execute
  refine .get (fun _ _ => rfl) fun machine => ?_
  split
  · exact .pure _
  · refine .bind (unlogged_cool _) fun outcome => ?_
    dsimp only
    split
    · exact .pure _
    · refine .bind (unlogged_note _) fun _ => ?_
      split
      · exact .bind (unlogged_remember _) fun _ => .pure _
      · exact .bind (.pure _) fun _ => .pure _

theorem unlogged_illuminate (command : LightingCommand) : Unlogged (illuminate toml command) := by
  unfold illuminate
  refine .get (fun _ _ => rfl) fun machine => ?_
  split
  · exact .pure _
  · refine .bind (unlogged_light _) fun outcome => .bind (unlogged_note _) fun _ => ?_
    split
    · exact .bind (unlogged_remember _) fun _ => .pure _
    · exact .bind (.pure _) fun _ => .pure _

theorem unlogged_show (preset : DisplayPreset) : Unlogged («show» toml around preset) := by
  unfold «show»
  refine .get (fun _ _ => rfl) fun machine => ?_
  split
  · exact .pure _
  · refine .bind (unlogged_draw _) fun sent => ?_
    cases sent with
    | error error => exact .pure _
    | ok outcome =>
      refine .bind (unlogged_note _) fun _ => ?_
      split
      · exact .bind (unlogged_remember _) fun _ => .pure _
      · exact .bind (.pure _) fun _ => .pure _

theorem unlogged_applyProgram (held : ProgramToRestore) : Unlogged (applyProgram toml around held) := by
  unfold applyProgram
  refine .bind (unlogged_execute _) fun r => ?_
  dsimp only
  split
  · exact .bind (unlogged_note _) fun _ => .pure _
  · exact .bind (unlogged_note _) fun _ => .pure _
  · exact .bind (.pure _) fun _ => .pure _

theorem unlogged_applyDisplay (preset : Option DisplayPreset) : Unlogged (applyDisplay toml around preset) := by
  cases preset with
  | none => exact .pure _
  | some preset =>
    refine .bind (unlogged_show preset) fun r => ?_
    cases r with
    | ok outcome => exact .pure _
    | error error => exact unlogged_note _

theorem unlogged_applyLighting (commands : List LightingCommand) : Unlogged (applyLighting toml commands) := by
  induction commands with
  | nil => exact .pure _
  | cons command rest ih =>
    refine .bind (unlogged_illuminate command) fun r => ?_
    cases r with
    | ok outcome => exact ih
    | error error => exact .bind (unlogged_note _) fun _ => ih

/-! ## Requests -/

theorem unlogged_saveProfile (profile : Profile) : Unlogged (saveProfile toml profile) := by
  unfold saveProfile
  refine .bind (unlogged_configure _) fun r => ?_
  cases r with
  | ok value => exact .bind (unlogged_note _) fun _ => .pure _
  | error error => exact .pure _

theorem unlogged_deleteProfile (name : String) : Unlogged (deleteProfile toml name) := by
  unfold deleteProfile
  refine .bind (unlogged_configure _) fun r => ?_
  cases r with
  | ok value => exact .bind (unlogged_note _) fun _ => .pure _
  | error error => exact .pure _

theorem unlogged_activateProfile (name : String) : Unlogged (activateProfile toml around name) := by
  unfold activateProfile
  refine .get (fun _ _ => rfl) fun machine => ?_
  dsimp only
  split
  · exact .pure _
  · split
    · exact .pure _
    · refine .bind (unlogged_configure _) fun r => ?_
      cases r with
      | error error => exact .pure _
      | ok profile =>
        refine .bind (unlogged_applyLighting _) fun _ => .bind (unlogged_applyDisplay _) fun _ => ?_
        exact .bind (unlogged_applyProgram _) fun _ => .pure _

/-- The answer of every request but one, and what every request leaves. -/
theorem unlogged_dispatch {request : Request} (h : request ≠ .diagnostics) :
    Unlogged (dispatch toml around request) := by
  cases request with
  | hello protocolVersion =>
    change Unlogged (if protocolVersion ≠ PROTOCOL_VERSION then _ else _)
    split <;> exact .pure _
  | status => exact .get (fun _ _ => rfl) fun _ => .pure _
  | capabilities => exact .get (fun _ _ => rfl) fun _ => .pure _
  | profiles => exact .get (fun _ _ => rfl) fun _ => .pure _
  | saveProfile profile => exact unlogged_saveProfile profile
  | activateProfile name => exact unlogged_activateProfile name
  | deleteProfile name => exact unlogged_deleteProfile name
  | telemetry => exact .pure _
  | applyProgram program =>
    refine .bind (unlogged_execute program) fun r => ?_
    cases r <;> exact .pure _
  | applyLighting command =>
    refine .bind (unlogged_illuminate command) fun r => ?_
    cases r <;> exact .pure _
  | applyDisplay preset =>
    refine .bind (unlogged_show preset) fun r => ?_
    cases r <;> exact .pure _
  | diagnostics => exact absurd rfl h

theorem unlogged_handle {request : Request} (h : request ≠ .diagnostics) :
    Unlogged (handle toml around request) := by
  unfold handle
  refine .bind (unlogged_dispatch h) fun response => ?_
  split
  · exact .bind (unlogged_note _) fun _ => .pure _
  · exact .bind (.pure _) fun _ => .pure _

theorem handle_diagnostics (machine : Machine Raw) : handle toml around .diagnostics machine =
    (.diagnostics DAEMON_VERSION machine.daemon.capabilities (retained machine.daemon.diagnostics), machine) := rfl

/-! ## The clock -/

theorem unlogged_noteAll (events : List EventKind) : Unlogged (@noteAll Raw events) := by
  induction events with
  | nil => exact .pure _
  | cons event rest ih => exact .bind (unlogged_note event) fun _ => ih

theorem unlogged_recordCollectorHealth (snapshot : TelemetrySnapshot) :
    Unlogged (@recordCollectorHealth Raw snapshot) := by
  unfold recordCollectorHealth
  refine .get (fun _ _ => rfl) fun machine => ?_
  refine .bind (unlogged_noteAll _) fun _ => .bind (unlogged_noteAll _) fun _ => ?_
  exact fun _ log => ⟨log, rfl⟩

theorem unlogged_reconcile (snapshot : TelemetrySnapshot) : Unlogged (@reconcile Raw snapshot) := by
  unfold reconcile
  split
  · refine .bind (unlogged_cool _) fun _ => .bind (unlogged_draw _) fun _ => ?_
    exact unlogged_recordCollectorHealth _
  · refine .bind (unlogged_cool _) fun _ => .bind (unlogged_noteAll _) fun _ => ?_
    exact unlogged_recordCollectorHealth _

theorem unlogged_tick : Unlogged (@tick Raw around) := by
  unfold tick
  refine .bind (unlogged_reconcile _) fun _ => ?_
  split
  · exact .pure _
  · refine .get (fun _ _ => rfl) fun machine => ?_
    split
    · exact .pure _
    · refine .bind (unlogged_draw _) fun outcome => ?_
      split
      · exact .pure _
      · split
        · exact unlogged_note _
        · exact .pure _

end Kori.Machine
