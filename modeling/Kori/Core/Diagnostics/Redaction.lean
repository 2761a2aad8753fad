import Kori.Core.Diagnostics.Log

/-! # What a report shows of the secrets that were registered -/

open Faulty

namespace Kori

/-- A secret stands in a text. -/
abbrev Occurs (secret text : String) : Prop := secret.toList <:+: text.toList

/-- A letter or a digit, of any script. -/
def Alphanumeric (c : Char) : Prop := c.isAlphanum = true ∨ 128 ≤ c.toNat

instance : DecidablePred Alphanumeric := fun _ => inferInstanceAs (Decidable (_ ∨ _))

instance (text : String) : Decidable (∀ c ∈ text.toList, Alphanumeric c) := List.decidableBAll Alphanumeric text.toList

/-- A value that is long enough to be registered, and that the replacement itself does not spell. -/
structure Protectable (secret : String) : Prop where
  long : MIN_SECRET_LEN ≤ secret.utf8ByteSize
  alphanumeric : ∀ c ∈ secret.toList, Alphanumeric c
  notMarker : ¬ Occurs secret REDACTION_PLACEHOLDER

instance (secret : String) : Decidable (Protectable secret) :=
  decidable_of_iff (MIN_SECRET_LEN ≤ secret.utf8ByteSize ∧ (∀ c ∈ secret.toList, Alphanumeric c) ∧
    ¬ Occurs secret REDACTION_PLACEHOLDER)
    ⟨fun h => ⟨h.1, h.2.1, h.2.2⟩, fun h => ⟨h.long, h.alphanumeric, h.notMarker⟩⟩

theorem toList_ne_nil {secret : String} (h : MIN_SECRET_LEN ≤ secret.utf8ByteSize) : secret.toList ≠ [] := by
  intro hempty
  obtain rfl : secret = "" := String.toList_eq_nil_iff.mp hempty
  exact absurd h (by decide)

theorem placeholder_toList :
    REDACTION_PLACEHOLDER.toList = '[' :: (['r', 'e', 'd', 'a', 'c', 't', 'e', 'd'] ++ [']']) := by decide

theorem Protectable.replaceable {secret : String} (h : Protectable secret) :
    Replaceable '[' ['r', 'e', 'd', 'a', 'c', 't', 'e', 'd'] ']' secret.toList where
  nonempty := toList_ne_nil h.long
  noOpening hmem := absurd (h.alphanumeric '[' hmem) (by decide)
  noClosing hmem := absurd (h.alphanumeric ']' hmem) (by decide)
  notMark := placeholder_toList ▸ h.notMarker

namespace Redactor

variable {redactor : Redactor}

theorem not_occurs_redact {secret : String} (h : Protectable secret) (hmem : secret ∈ redactor.secrets) (text : String) :
    ¬ Occurs secret (redactor.redact text) := by
  unfold Occurs redact
  rw [String.toList_ofList, placeholder_toList]
  exact not_infix_replaceEach h.replaceable (List.mem_map_of_mem hmem)

theorem redact_of_clean {text : String} (h : ∀ secret ∈ redactor.secrets, ¬ Occurs secret text) :
    redactor.redact text = text := by
  unfold redact
  rw [replaceEach_of_clean, String.ofList_toList]
  intro word hword
  obtain ⟨secret, hsecret, rfl⟩ := List.mem_map.mp hword
  exact h secret hsecret

theorem redact_eq_or_placeholder (text : String) :
    redactor.redact text = text ∨ Occurs REDACTION_PLACEHOLDER (redactor.redact text) := by
  unfold Occurs redact
  rw [String.toList_ofList]
  have hwords : ∀ word ∈ redactor.secrets.map String.toList, word ≠ [] := by
    intro word hword
    obtain ⟨secret, hsecret, rfl⟩ := List.mem_map.mp hword
    exact toList_ne_nil (redactor.long secret hsecret)
  refine (replaceEach_eq_or_mark hwords).imp (fun hkept => ?_) id
  rw [hkept, String.ofList_toList]

variable {α : Type} {codec : Codec α} {value result : α}

theorem strings_redacted (h : redactor.redacted codec value = some result) {text : String}
    (htext : text ∈ (codec.write result).strings) : ∃ original, redactor.redact original = text := by
  have hmem := codec.strings_read h htext
  rw [Value.strings_mapStrings] at hmem
  obtain ⟨original, -, rfl⟩ := List.mem_map.mp hmem
  exact ⟨original, rfl⟩

theorem redacted_of_clean
    (h : ∀ text ∈ (codec.write value).strings, ∀ secret ∈ redactor.secrets, ¬ Occurs secret text) :
    redactor.redacted codec value = some value := by
  unfold redacted
  rw [Value.mapStrings_of_kept _ _ fun text htext => redact_of_clean (h text htext)]
  exact codec.read_write value

end Redactor

/-! ## Serial numbers in a report -/

section Serials

variable {f : String → String}

theorem Evidenced.keeps_unknown {α : Type} {inner : Codec α} (h : f "unknown" ≠ "known") :
    (Evidenced.codec inner).Keeps f fun written read => written.isKnown = false → read.isKnown = false := by
  intro written read hread hunknown
  have hkind : read.kind = f written.kind := Codec.keeps_object Fields.keeps_tagged hread
  cases written with
  | known value source => cases hunknown
  | unknown reason source =>
    cases read with
    | known value source => exact absurd hkind.symm h
    | unknown reason source => rfl

open Probed
open Codec (keeps_object keeps_list)
open Fields (keeps_any keeps_field keeps_both keeps_as keeps_optional)

theorem forall_of_forall₂ {α : Type} {P : α → Prop} {items others : List α}
    (h : List.Forall₂ (fun item other => P item → P other) items others) (hitems : ∀ item ∈ items, P item) :
    ∀ other ∈ others, P other := by
  induction h with
  | nil => exact fun _ hother => nomatch hother
  | cons hfirst hrest ih =>
    rw [List.forall_mem_cons] at hitems ⊢
    exact ⟨hfirst hitems.1, ih hitems.2⟩

theorem keeps_blank_usb (h : f "unknown" ≠ "known") :
    UsbIdentity.codec.Keeps f fun written read => written.serial.isKnown = false → read.serial.isKnown = false := by
  intro written read hread
  have hkept := keeps_object (keeps_as (keeps_both keeps_any (keeps_both keeps_any (keeps_both keeps_any
    (keeps_both (keeps_field (Evidenced.keeps_unknown h)) keeps_any))))) hread
  exact hkept.2.2.2.1

theorem keeps_blank_device (h : f "unknown" ≠ "known") :
    DeviceRecord.codec.Keeps f fun written read =>
      written.usb.serial.isKnown = false → read.usb.serial.isKnown = false := by
  intro written read hread
  have hkept := keeps_object (keeps_as (keeps_both keeps_any (keeps_both (keeps_field (keeps_blank_usb h)) keeps_any)))
    hread
  exact hkept.2.1

theorem keeps_blank_record (h : f "unknown" ≠ "known") :
    CapabilityRecord.codec.Keeps f fun written read => (∀ device ∈ written.devices, device.usb.serial.isKnown = false) →
      ∀ device ∈ read.devices, device.usb.serial.isKnown = false := by
  intro written read hread hblank
  have hkept := keeps_object (keeps_as (keeps_both keeps_any (keeps_both keeps_any
    (keeps_both (keeps_field (keeps_list (keeps_blank_device h))) keeps_any)))) hread
  exact forall_of_forall₂ hkept.2.2.1 hblank

theorem keeps_blank_report (h : f "unknown" ≠ "known") :
    DiagnosticsExport.codec.Keeps f fun written read =>
      (∀ record, written.capabilities = some record → ∀ device ∈ record.devices, device.usb.serial.isKnown = false) →
        ∀ record, read.capabilities = some record → ∀ device ∈ record.devices, device.usb.serial.isKnown = false := by
  intro written read hread hblank record hrecord
  have hkept := keeps_object (keeps_as (keeps_both keeps_any (keeps_both keeps_any (keeps_both keeps_any
    (keeps_both (keeps_optional (keeps_blank_record h)) keeps_any))))) hread
  obtain ⟨original, horiginal, hsame⟩ := hkept.2.2.2.1 record hrecord
  exact hsame (hblank original horiginal)

end Serials

/-! ## The log after a run of calls -/

namespace DiagnosticsLog

/-- The entry a call leaves in the log. -/
def entry : LogCall → Option DiagnosticEvent
  | .record atUnixMs kind => some { atUnixMs, severity := kind.severity, kind }
  | .addSecret _ => none

/-- The last entries of all that were recorded. -/
def lastOf (capacity : Nat) (events : List DiagnosticEvent) : List DiagnosticEvent :=
  events.drop (events.length - capacity)

theorem makeRoom_lastOf {capacity : Nat} (h : 0 < capacity) (events : List DiagnosticEvent) (event : DiagnosticEvent) :
    makeRoom capacity (lastOf capacity events) ++ [event] = lastOf capacity (events ++ [event]) := by
  unfold lastOf
  rw [makeRoom_eq_drop, List.drop_drop, List.length_drop, List.length_append, List.length_singleton,
    List.drop_append_of_le_length (by omega)]
  congr 2
  omega

variable (log : DiagnosticsLog)

@[simp] theorem run_nil : log.run [] = log := rfl

theorem run_append_singleton (calls : List LogCall) (call : LogCall) :
    log.run (calls ++ [call]) = (log.run calls).apply call := by
  unfold run
  rw [List.foldl_append, List.foldl_cons, List.foldl_nil]

theorem capacity_run (calls : List LogCall) : (log.run calls).capacity = log.capacity := by
  induction calls using List.reverseRecOn with
  | nil => rfl
  | append_singleton calls call ih =>
    rw [run_append_singleton]
    cases call <;> exact ih

theorem events_run (capacity : Nat) (calls : List LogCall) :
    ((withCapacity capacity).run calls).events = lastOf (max capacity 1) (calls.filterMap entry) := by
  induction calls using List.reverseRecOn with
  | nil => exact List.drop_nil.symm
  | append_singleton calls call ih =>
    rw [run_append_singleton, List.filterMap_append]
    cases call with
    | addSecret secret =>
      rw [List.filterMap_cons_none rfl, List.filterMap_nil, List.append_nil]
      exact ih
    | record atUnixMs kind =>
      have hentry : [LogCall.record atUnixMs kind].filterMap entry = [{ atUnixMs, severity := kind.severity, kind }] := rfl
      rw [hentry, ← makeRoom_lastOf (Nat.le_max_right capacity 1)]
      change makeRoom ((withCapacity capacity).run calls).capacity _ ++ _ = _
      rw [capacity_run, ih]
      rfl

theorem mem_secrets_run (capacity : Nat) (calls : List LogCall) (secret : String) :
    secret ∈ ((withCapacity capacity).run calls).redactor.secrets ↔
      .addSecret secret ∈ calls ∧ MIN_SECRET_LEN ≤ secret.utf8ByteSize := by
  induction calls using List.reverseRecOn with
  | nil => exact iff_of_false List.not_mem_nil fun h => List.not_mem_nil h.1
  | append_singleton calls call ih =>
    rw [run_append_singleton, List.mem_append, List.mem_singleton, or_and_right, ← ih]
    cases call with
    | addSecret other =>
      refine Redactor.mem_addSecret.trans (or_congr_right ?_)
      constructor
      · rintro ⟨rfl, hlong⟩
        exact ⟨rfl, hlong⟩
      · rintro ⟨hsame, hlong⟩
        cases hsame
        exact ⟨rfl, hlong⟩
    | record atUnixMs kind =>
      exact (or_iff_left fun h => nomatch h.1).symm

/-! ## What leaves -/

variable {log : DiagnosticsLog} {now : Nat} {version : String} {capabilities : Option Probed.CapabilityRecord}

theorem exported_of_swept {report : DiagnosticsExport} (h : log.swept now version capabilities = some report) :
    log.exported now version capabilities = report := by
  unfold exported
  rw [h]

theorem strings_exported_of_unswept (h : log.swept now version capabilities = none) :
    (log.exported now version capabilities).strings = [version] := by
  unfold exported
  rw [h]
  rfl

theorem not_occurs_exported {secret : String} (h : Protectable secret) (hmem : secret ∈ log.redactor.secrets)
    (hversion : ¬ Occurs secret version ∨ (log.swept now version capabilities).isSome) :
    ∀ text ∈ (log.exported now version capabilities).strings, ¬ Occurs secret text := by
  intro text htext
  cases hswept : log.swept now version capabilities with
  | some report =>
    rw [exported_of_swept hswept] at htext
    obtain ⟨original, rfl⟩ := Redactor.strings_redacted hswept htext
    exact Redactor.not_occurs_redact h hmem original
  | none =>
    rw [strings_exported_of_unswept hswept, List.mem_singleton] at htext
    rw [hswept] at hversion
    exact htext ▸ hversion.resolve_right (by decide)

theorem serial_exported {record : Probed.CapabilityRecord}
    (h : (log.exported now version capabilities).capabilities = some record) {device : Probed.DeviceRecord}
    (hdevice : device ∈ record.devices) : device.usb.serial.isKnown = false := by
  cases hswept : log.swept now version capabilities with
  | none =>
    unfold exported at h
    rw [hswept] at h
    cases h
  | some report =>
    rw [exported_of_swept hswept] at h
    have hunknown : log.redactor.redact "unknown" ≠ "known" := by
      rcases log.redactor.redact_eq_or_placeholder "unknown" with hkept | hmarked
      · rw [hkept]
        decide
      · intro hknown
        rw [hknown] at hmarked
        exact absurd hmarked (by decide)
    refine keeps_blank_report hunknown hswept (fun blanked hblanked other hother => ?_) record h device hdevice
    obtain ⟨original, -, rfl⟩ := Option.map_eq_some_iff.mp hblanked
    rw [original.serial_redactSerials hother]
    rfl

theorem exported_congr {others : Option Probed.CapabilityRecord}
    (h : log.unswept now version capabilities = log.unswept now version others) :
    log.exported now version capabilities = log.exported now version others := by
  have hswept : log.swept now version capabilities = log.swept now version others := by
    unfold swept
    rw [h]
  unfold exported
  rw [hswept, h]

theorem exported_withSerials (record : Probed.CapabilityRecord) (serial : Probed.DeviceRecord → Evidenced String) :
    log.exported now version (some (record.withSerials serial)) = log.exported now version (some record) := by
  refine exported_congr ?_
  unfold unswept
  rw [Option.map_some, Option.map_some, record.redactSerials_withSerials serial]

theorem exported_of_clean
    (h : ∀ text ∈ (log.unswept now version capabilities).strings, ∀ secret ∈ log.redactor.secrets, ¬ Occurs secret text) :
    log.exported now version capabilities = log.unswept now version capabilities :=
  exported_of_swept (Redactor.redacted_of_clean h)

end DiagnosticsLog

end Kori
