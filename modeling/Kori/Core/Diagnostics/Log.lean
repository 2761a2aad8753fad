import Kori.Core.Diagnostics.Events
import Kori.Faulty.Replacing

/-! # The bounded log, and the report that is built from it -/

open Faulty

namespace Kori

inductive Severity where
  | info
  | warning
  | error
deriving DecidableEq, Repr

def Severity.codec : Codec Severity :=
  .named (fun | .info => "info" | .warning => "warning" | .error => "error") [.info, .warning, .error] fun severity => by
    cases severity <;> rfl

def HardwareState.severity : HardwareState → Severity
  | uncertain _ => .error
  | notApplied _ => .warning
  | confirmed | onboard => .info

def EventKind.severity : EventKind → Severity
  | deviceRejected .. | ownershipConflict .. | clientRejected _ | requestRejected _ | collectorFailed ..
  | configRecovered .. | sessionNotRecorded _ | curveDiverged .. => .warning
  | programApplied hardware _ | lightingApplied _ _ hardware _ | displayApplied _ hardware _ => hardware.severity
  | accessModeChanged readOnly _ => if readOnly then .warning else .info
  | daemonStarted .. | daemonStopping _ | deviceDiscovered .. | capabilityResolved .. | ownershipAcquired ..
  | clientAccepted .. | clientDisconnected _ | profileActivated .. | profileSaved _ | profileDeleted _ | configLoaded _
  | collectorRecovered _ => .info

/-- One timestamped entry. -/
structure DiagnosticEvent where
  atUnixMs : Nat
  severity : Severity
  kind : EventKind
deriving DecidableEq

-- The fields of the kind are flattened into those of the entry.
def DiagnosticEvent.codec : Codec DiagnosticEvent :=
  .object (.as (.both (.natural "at_unix_ms") (.both (.field "severity" Severity.codec) EventKind.fields))
    (fun ⟨atUnixMs, severity, kind⟩ => ⟨atUnixMs, severity, kind⟩) fun event => (event.atUnixMs, event.severity, event.kind))

/-- The complete payload of an export. -/
structure DiagnosticsExport where
  schemaVersion : UInt32
  generatedAtUnixMs : Nat
  daemonVersion : String
  capabilities : Option Probed.CapabilityRecord
  events : List DiagnosticEvent

namespace DiagnosticsExport

def codec : Codec DiagnosticsExport :=
  .object (.as (.both (.field "schema_version" .doubleWord) (.both (.natural "generated_at_unix_ms")
    (.both (.text "daemon_version") (.both (.optional "capabilities" Probed.CapabilityRecord.codec fun _ h => nomatch h)
      (.field "events" (.list DiagnosticEvent.codec))))))
    (fun ⟨schemaVersion, generatedAtUnixMs, daemonVersion, capabilities, events⟩ =>
      ⟨schemaVersion, generatedAtUnixMs, daemonVersion, capabilities, events⟩)
    fun report => (report.schemaVersion, report.generatedAtUnixMs, report.daemonVersion, report.capabilities,
      report.events))

/-- Every text of a report as it is written, the names of its variants among them. -/
def strings (report : DiagnosticsExport) : List String := (codec.write report).strings

end DiagnosticsExport

/-! ## Secrets -/

def DIAGNOSTICS_SCHEMA_VERSION : UInt32 := 1
def REDACTION_PLACEHOLDER : String := "[redacted]"

/-- Shortest value that may be registered as a secret, in bytes. -/
def MIN_SECRET_LEN : Nat := 4

/-- Replaces known secrets wherever they appear in free text. -/
structure Redactor where
  secrets : List String
  long : ∀ secret ∈ secrets, MIN_SECRET_LEN ≤ secret.utf8ByteSize

namespace Redactor

def new : Redactor := ⟨[], fun _ h => nomatch h⟩

def addSecret (redactor : Redactor) (secret : String) : Redactor :=
  if h : MIN_SECRET_LEN ≤ secret.utf8ByteSize ∧ secret ∉ redactor.secrets then
    { secrets := redactor.secrets ++ [secret]
      long := fun other hother => (List.mem_append.mp hother).elim (redactor.long other) fun hsame =>
        List.mem_singleton.mp hsame ▸ h.1 }
  else redactor

def redact (redactor : Redactor) (text : String) : String :=
  String.ofList (replaceEach (redactor.secrets.map String.toList) REDACTION_PLACEHOLDER.toList text.toList)

/-- A copy with every text of its document redacted, if it can be put back together. -/
def redacted {α : Type} (redactor : Redactor) (codec : Codec α) (value : α) : Option α :=
  codec.read ((codec.write value).mapStrings redactor.redact)

theorem mem_addSecret {redactor : Redactor} {secret other : String} :
    other ∈ (redactor.addSecret secret).secrets ↔
      other ∈ redactor.secrets ∨ (other = secret ∧ MIN_SECRET_LEN ≤ secret.utf8ByteSize) := by
  unfold addSecret
  split
  · rename_i hnew
    rw [List.mem_append, List.mem_singleton]
    exact or_congr_right (and_iff_left_of_imp fun _ => hnew.1).symm
  · rename_i hold
    refine ⟨.inl, fun h => h.elim id fun ⟨heq, hlong⟩ => ?_⟩
    exact heq ▸ Decidable.not_not.mp fun hmem => hold ⟨hlong, hmem⟩

end Redactor

/-! ## The log -/

/-- Drops the oldest entries until there is room for one more. -/
def makeRoom (capacity : Nat) : List DiagnosticEvent → List DiagnosticEvent
  | [] => []
  | event :: rest => if capacity ≤ (event :: rest).length then makeRoom capacity rest else event :: rest

theorem makeRoom_eq_drop (capacity : Nat) (events : List DiagnosticEvent) :
    makeRoom capacity events = events.drop (events.length + 1 - capacity) := by
  induction events with
  | nil => exact List.drop_nil.symm
  | cons event rest ih =>
    unfold makeRoom
    split
    · rename_i hfull
      rw [List.length_cons] at hfull ⊢
      rw [ih, show rest.length + 1 + 1 - capacity = rest.length + 1 - capacity + 1 by omega, List.drop_succ_cons]
    · rename_i hroom
      rw [List.length_cons] at hroom ⊢
      rw [show rest.length + 1 + 1 - capacity = 0 by omega, List.drop_zero]

/-- Bounded in-memory event log. -/
structure DiagnosticsLog where
  events : List DiagnosticEvent
  capacity : Nat
  redactor : Redactor
  capacity_pos : 0 < capacity
  bounded : events.length ≤ capacity

/-- A call that changes the log. -/
inductive LogCall where
  | addSecret (secret : String)
  | record (atUnixMs : Nat) (kind : EventKind)

namespace DiagnosticsLog

def withCapacity (capacity : Nat) : DiagnosticsLog where
  events := []
  capacity := max capacity 1
  redactor := .new
  capacity_pos := Nat.le_max_right capacity 1
  bounded := Nat.zero_le _

def addSecret (log : DiagnosticsLog) (secret : String) : DiagnosticsLog :=
  { log with redactor := log.redactor.addSecret secret }

def record (log : DiagnosticsLog) (atUnixMs : Nat) (kind : EventKind) : DiagnosticsLog :=
  { log with
    events := makeRoom log.capacity log.events ++ [{ atUnixMs, severity := kind.severity, kind }]
    bounded := by
      have hroom := log.capacity_pos
      have hlength := log.bounded
      rw [makeRoom_eq_drop, List.length_append, List.length_drop, List.length_singleton]
      omega }

def apply (log : DiagnosticsLog) : LogCall → DiagnosticsLog
  | .addSecret secret => log.addSecret secret
  | .record atUnixMs kind => log.record atUnixMs kind

def run (log : DiagnosticsLog) (calls : List LogCall) : DiagnosticsLog := calls.foldl apply log

/-- The report before the sweep. -/
def unswept (log : DiagnosticsLog) (generatedAtUnixMs : Nat) (daemonVersion : String)
    (capabilities : Option Probed.CapabilityRecord) : DiagnosticsExport :=
  { schemaVersion := DIAGNOSTICS_SCHEMA_VERSION, generatedAtUnixMs, daemonVersion
    capabilities := capabilities.map (·.redactSerials), events := log.events }

/-- What the sweep makes of the report, if it can. -/
def swept (log : DiagnosticsLog) (generatedAtUnixMs : Nat) (daemonVersion : String)
    (capabilities : Option Probed.CapabilityRecord) : Option DiagnosticsExport :=
  log.redactor.redacted DiagnosticsExport.codec (log.unswept generatedAtUnixMs daemonVersion capabilities)

/-- The report with every secret removed from it; one that cannot be swept leaves almost empty. -/
def exported (log : DiagnosticsLog) (generatedAtUnixMs : Nat) (daemonVersion : String)
    (capabilities : Option Probed.CapabilityRecord) : DiagnosticsExport :=
  match log.swept generatedAtUnixMs daemonVersion capabilities with
  | some swept => swept
  | none => { log.unswept generatedAtUnixMs daemonVersion capabilities with capabilities := none, events := [] }

end DiagnosticsLog

end Kori
