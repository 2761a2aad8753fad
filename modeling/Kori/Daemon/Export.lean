import Kori.Core.Diagnostics.Redaction
import Kori.Daemon.State

/-! # What the daemon hands out when its diagnostics are asked for -/

open Faulty

namespace Kori

theorem not_occurs_daemonVersion {secret : String} (h : Protectable secret) : ¬ Occurs secret DAEMON_VERSION := by
  have hdot : '.' ∉ secret.toList := fun hmem => absurd (h.alphanumeric '.' hmem) (by decide)
  have hsingle {c : Char} (hc : (String.ofList [c]).utf8ByteSize < MIN_SECRET_LEN) (hin : secret.toList <:+: [c]) :
      False := by
    rcases List.sublist_singleton.mp hin.sublist with hnone | hone
    · exact toList_ne_nil h.long hnone
    · have hsecret : secret = String.ofList [c] := by rw [← hone, String.ofList_toList]
      exact absurd h.long (hsecret ▸ Nat.not_le.mpr hc)
  intro hin
  rcases infix_append_cons hdot (show secret.toList <:+: ['0'] ++ '.' :: ['1', '.', '1'] from hin) with hfirst | hrest
  · exact hsingle (by decide) hfirst
  · rcases infix_append_cons hdot (show secret.toList <:+: ['1'] ++ '.' :: ['1'] from hrest) with hsecond | hthird
    · exact hsingle (by decide) hsecond
    · exact hsingle (by decide) hthird

/-- Whatever was registered and recorded, a report shows no secret and no serial number that a device answered,
and one that no secret stands in has all that the log holds. -/
theorem diagnostics_export_leaks_nothing (capacity : Nat) (calls : List LogCall) (now : Nat) (version : String)
    (capabilities : Option Probed.CapabilityRecord) :
    let log := (DiagnosticsLog.withCapacity capacity).run calls
    let report := log.exported now version capabilities
    (∀ secret, .addSecret secret ∈ calls → Protectable secret →
      (version = DAEMON_VERSION ∨ ¬ Occurs secret version ∨ (log.swept now version capabilities).isSome) →
        ∀ text ∈ report.strings, ¬ Occurs secret text) ∧
    (∀ record, report.capabilities = some record → ∀ device ∈ record.devices, device.usb.serial.isKnown = false) ∧
    (∀ record serial, capabilities = some record →
      log.exported now version (some (record.withSerials serial)) = report) ∧
    ((∀ text ∈ (log.unswept now version capabilities).strings, ∀ secret, .addSecret secret ∈ calls →
      MIN_SECRET_LEN ≤ secret.utf8ByteSize → ¬ Occurs secret text) →
        report.events = DiagnosticsLog.lastOf (max capacity 1) (calls.filterMap DiagnosticsLog.entry)) := by
  intro log report
  refine ⟨fun secret hcall hsecret hversion => ?_, fun record hrecord device hdevice =>
    DiagnosticsLog.serial_exported hrecord hdevice, ?_, fun hclean => ?_⟩
  · have hmem : secret ∈ log.redactor.secrets :=
      (DiagnosticsLog.mem_secrets_run capacity calls secret).mpr ⟨hcall, hsecret.long⟩
    refine DiagnosticsLog.not_occurs_exported hsecret hmem ?_
    rcases hversion with rfl | hversion
    · exact .inl (not_occurs_daemonVersion hsecret)
    · exact hversion
  · rintro record serial rfl
    exact DiagnosticsLog.exported_withSerials record serial
  · have hwhole : report = log.unswept now version capabilities := by
      refine DiagnosticsLog.exported_of_clean fun text htext secret hmem => ?_
      obtain ⟨hcall, hlong⟩ := (DiagnosticsLog.mem_secrets_run capacity calls secret).mp hmem
      exact hclean text htext secret hcall hlong
    rw [hwhole]
    exact DiagnosticsLog.events_run capacity calls

/-! ## A cooler and its serial number -/

def fixtureSerial : String := "F1XTURE0000KRAKEN"

/-- A cooler whose serial number stands in the path it was found under, too. -/
def fixtureDevice : Probed.DeviceRecord :=
  { support := .supported
    usb :=
      { id := KRAKEN_BASE, manufacturer := .known "NZXT Inc." "sysfs", product := .known "NZXT Kraken Base" "sysfs"
        serial := .known fixtureSerial "sysfs", firmware := .known "0200" "sysfs"
        sysfsPath := "/sys/bus/usb/devices/usb-NZXT_" ++ fixtureSerial }
    interfaces := [], hwmon := none, rgb := none, lcd := none, capabilities := [] }

def fixtureRecord : Probed.CapabilityRecord :=
  { schemaVersion := 3, context := { kernelRelease := .known "7.1.6" "uname", probedAtUnixMs := 10 }
    devices := [fixtureDevice], rejected := [] }

/-- Two secrets that overlap, and a text in which both stand. -/
def overlappingCalls : List LogCall :=
  [.addSecret fixtureSerial, .record 1 (.ownershipConflict none "/dev/serial" ("held for " ++ fixtureSerial ++ "9")),
    .addSecret "KRAKEN9"]

/-- A secret that nothing but the name of a severity spells. -/
def namedCalls : List LogCall := [.addSecret "info", .record 1 (.clientAccepted 1000 4242)]

theorem overlapping_secrets_leave_nothing :
    (∀ text ∈ (((DiagnosticsLog.withCapacity 512).run overlappingCalls).exported 2 DAEMON_VERSION
      (some fixtureRecord)).strings, ¬ Occurs fixtureSerial text ∧ ¬ Occurs "KRAKEN9" text) ∧
    (((DiagnosticsLog.withCapacity 1).run [.addSecret "KRAKEN9", .record 1 (.clientAccepted 1000 4242),
      .record 2 (.profileSaved "Silent")]).exported 3 DAEMON_VERSION none).events =
        [{ atUnixMs := 2, severity := .info, kind := .profileSaved "Silent" }] := by
  have hleaks := (diagnostics_export_leaks_nothing 512 overlappingCalls 2 DAEMON_VERSION (some fixtureRecord)).1
  refine ⟨fun text htext => ⟨?_, ?_⟩, ?_⟩
  · exact hleaks fixtureSerial List.mem_cons_self (by decide +kernel) (.inl rfl) text htext
  · exact hleaks "KRAKEN9" (.tail _ (.tail _ List.mem_cons_self)) (by decide +kernel) (.inl rfl) text htext
  · refine (diagnostics_export_leaks_nothing 1 _ 3 DAEMON_VERSION none).2.2.2 (fun text htext secret hcall _ => ?_)
    rcases List.mem_cons.mp hcall with hsame | hcall
    · cases hsame
      revert text
      decide +kernel
    · rcases List.mem_cons.mp hcall with hsame | hcall
      · cases hsame
      · cases List.mem_singleton.mp hcall

/-- A serial number that was not registered leaves in a path, and a secret that a severity spells empties a report in
whose texts it does not stand. -/
theorem unregistered_serial_leaves_in_path :
    ((∃ device ∈ fixtureRecord.devices, device.usb.serial.value = some fixtureSerial) ∧
      ∃ text ∈ (((DiagnosticsLog.withCapacity 512).run []).exported 2 DAEMON_VERSION (some fixtureRecord)).strings,
        Occurs fixtureSerial text) ∧
    Protectable "info" ∧ ¬ Occurs "info" DAEMON_VERSION ∧
    (∀ text ∈ Value.stringsOfFields (EventKind.fields.write (.clientAccepted 1000 4242)), ¬ Occurs "info" text) ∧
    (((DiagnosticsLog.withCapacity 512).run namedCalls).exported 2 DAEMON_VERSION none).events = [] := by
  refine ⟨⟨⟨fixtureDevice, List.mem_cons_self, rfl⟩, fixtureDevice.usb.sysfsPath, ?_, by decide +kernel⟩,
    by decide +kernel, by decide +kernel, by decide +kernel, ?_⟩
  · rw [DiagnosticsLog.exported_of_clean fun _ _ _ hmem => absurd hmem List.not_mem_nil]
    decide +kernel
  · have hrefused : (((DiagnosticsLog.withCapacity 512).run namedCalls).swept 2 DAEMON_VERSION none).isNone = true := by
      decide +kernel
    unfold DiagnosticsLog.exported
    rw [Option.isNone_iff_eq_none.mp hrefused]

end Kori
