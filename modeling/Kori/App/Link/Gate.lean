import Kori.App.Feed
import Kori.Core.Telemetry.View
import Kori.Daemon.State.Refusals

/-! # The gate every write control passes through, and the daemon's own -/

open Faulty

namespace Kori

/-- Whether a control may act, and what it says when it may not. -/
inductive ControlState where
  | enabled
  | disabled (message : String)
deriving DecidableEq, Repr

def ControlState.isEnabled : ControlState → Bool
  | enabled => true
  | disabled _ => false

namespace LinkState

variable (link : LinkState)

def device (id : DeviceId) : Option DeviceRecord :=
  match link with
  | connected _ capabilities _ _ => capabilities.device id
  | unavailable _ => none

/-- A control that writes one capability. The capability's own reason comes before a conflict. -/
def controlState (device : DeviceId) (capability : CapabilityId) : ControlState :=
  match link.status with
  | none => .disabled "The background service is not running, so no control can be applied."
  | some status =>
    match link.device device with
    | none => .disabled s!"{device.display} is not connected."
    | some record =>
      match record.capability capability with
      | none =>
        .disabled s!"{capability.label} is absent from the capability record for {device.display}."
      | some entry =>
        match entry.state.blockedReason with
        | some reason => .disabled reason
        | none =>
          match status.access with
          | .readOnly conflicts =>
            match conflicts.find? fun c => c.device.all (· = device) with
            | some conflict => .disabled conflict.detail
            | none => .enabled
          | .readWrite => .enabled

variable (seconds : Nat → String)

/-- What a sample says against a write that would be checked by reading back. `seconds` writes a
number of milliseconds as seconds to one digit. -/
def telemetryRefusal (nowUnixMs : Nat) : Option String :=
  match link.telemetry with
  | none => some "No telemetry has arrived yet, so no write can be checked against a readback."
  | some snapshot =>
    if ¬ snapshot.kraken.present then
      some ("The Kraken is not reporting through its kernel driver. Controls stay read-only until it " ++
        "does.")
    else
      let ageMs := nowUnixMs - snapshot.kraken.atUnixMs
      if STALE_AFTER_MS ≤ ageMs then
        some (s!"Cooling telemetry is {seconds ageMs} s old. Controls stay read-only until a fresh " ++
          "reading confirms the hardware state.")
      else none

/-- A cooling control. -/
def coolingState (device : DeviceId) (capability : CapabilityId) (nowUnixMs : Nat) : ControlState :=
  match link.controlState device capability with
  | .disabled message => .disabled message
  | .enabled =>
    match link.telemetryRefusal seconds nowUnixMs with
    | some message => .disabled message
    | none => .enabled

/-- A control that applies a whole program: every capability it writes must be available. -/
def programState (device : DeviceId) (required : List CapabilityId) (nowUnixMs : Nat) : ControlState :=
  if link.status = none then
    .disabled "The background service is not running, so no control can be applied."
  else
    ((required.map fun capability => link.coolingState seconds device capability nowUnixMs).find?
      fun state => !state.isEnabled).getD .enabled

end LinkState

/-! ## The daemon's gate -/

namespace Daemon

variable {daemon : Daemon} {program : CoolingProgram}

theorem readOnly_eq_none : daemon.readOnly = none ↔
    daemon.conflicts = [] ∧ daemon.hasWritableCapability = true := by
  unfold readOnly
  split
  · simp [*]
  · rename_i hconflicts
    rw [not_not] at hconflicts
    cases daemon.hasWritableCapability <;> simp [hconflicts]

theorem supportedDevice_eq_ok {id : DeviceId} {device : DeviceRecord} :
    daemon.supportedDevice id = .ok device ↔
      daemon.capabilities.device id = some device ∧ device.isSupported = true := by
  unfold supportedDevice
  rw [← Option.filter_eq_some_iff]
  cases (daemon.capabilities.device id).filter DeviceRecord.isSupported <;> simp

theorem admitsProgram_iff (hvalid : validateProgram program = .ok ()) (hwrites : program ≠ .onboard) :
    daemon.admitsProgram program = .ok () ↔
      (∃ device, daemon.capabilities.device KRAKEN_BASE = some device ∧ device.isSupported = true ∧
        programIncompatibilities program device = []) ∧
      daemon.conflicts = [] ∧ daemon.hasWritableCapability = true := by
  unfold admitsProgram
  rw [hvalid, ← readOnly_eq_none]
  have hpass : ((Except.ok () : Except ValidationError Unit).mapError IpcError.validation) = .ok () := rfl
  rw [hpass]
  simp only [if_neg hwrites]
  cases hdevice : daemon.supportedDevice KRAKEN_BASE with
  | error e =>
    refine iff_of_false (by simp [bind, Except.bind]) ?_
    rintro ⟨⟨device, hrecord, hsupported, -⟩, -⟩
    rw [supportedDevice_eq_ok.mpr ⟨hrecord, hsupported⟩] at hdevice
    cases hdevice
  | ok device =>
    obtain ⟨hrecord, hsupported⟩ := supportedDevice_eq_ok.mp hdevice
    have hdetails : (∃ device, daemon.capabilities.device KRAKEN_BASE = some device ∧
        device.isSupported = true ∧ programIncompatibilities program device = []) ↔
        programIncompatibilities program device = [] := by
      simp [hrecord, hsupported]
    rw [hdetails]
    by_cases hopen : programIncompatibilities program device = []
    · have hgate : daemon.requireWriteAccess = .ok () ↔ daemon.readOnly = none := by
        unfold requireWriteAccess
        cases daemon.readOnly <;> simp
      simpa [bind, Except.bind, pure, Except.pure, hopen] using hgate
    · refine iff_of_false ?_ fun h => hopen h.1
      simp [bind, Except.bind, throw, throwThe, MonadExceptOf.throw, hopen]

end Daemon

namespace Machine

variable {Raw : Type} {toml : Toml Raw} {around : Surroundings} {machine : Machine Raw}

theorem execute_ok_iff {program : CoolingProgram} :
    (∃ outcome, (execute toml around program machine).1 = .ok outcome) ↔
      machine.daemon.admitsProgram program = .ok () := by
  cases hgate : machine.daemon.admitsProgram program with
  | error refusal =>
    refine iff_of_false ?_ (by simp)
    rintro ⟨outcome, houtcome⟩
    unfold execute at houtcome
    rw [bind_apply, get_apply] at houtcome
    simp only [hgate] at houtcome
    cases houtcome
  | ok =>
    refine iff_of_true ?_ rfl
    cases hresult : (execute toml around program machine).1 with
    | ok outcome => exact ⟨outcome, rfl⟩
    | error refusal =>
      unfold execute at hresult
      rw [bind_apply, get_apply] at hresult
      simp only [hgate] at hresult
      rw [bind_apply] at hresult
      split at hresult
      · cases hresult
      · rw [bind_apply] at hresult
        split at hresult <;> cases hresult

end Machine

/-! ## The two gates on one state -/

/-- What a daemon publishes. -/
def Daemon.published (daemon : Daemon) (profiles : List Profile) (telemetry : Option TelemetrySnapshot) :
    LinkState :=
  .connected daemon.status daemon.capabilities profiles telemetry

section Published

variable {daemon : Daemon} {profiles : List Profile} {telemetry : Option TelemetrySnapshot}
  {program : CoolingProgram} {seconds : Nat → String} {nowUnixMs : Nat}

/-- No conflict the daemon reports is about the whole machine or the cooler. -/
def Uncontested (daemon : Daemon) : Prop :=
  ∀ conflicts, daemon.accessMode = .readOnly conflicts →
    ∀ conflict ∈ conflicts, conflict.device ≠ none ∧ conflict.device ≠ some KRAKEN_BASE

theorem controlState_enabled_iff {capability : CapabilityId} :
    (daemon.published profiles telemetry).controlState KRAKEN_BASE capability = .enabled ↔
      (∃ record, daemon.capabilities.device KRAKEN_BASE = some record ∧
        ∃ entry, record.capability capability = some entry ∧ entry.state.isWritable = true) ∧
      Uncontested daemon := by
  unfold LinkState.controlState Daemon.published
  simp only [LinkState.status, LinkState.device]
  cases hrecord : daemon.capabilities.device KRAKEN_BASE with
  | none => simp
  | some record =>
    cases hentry : record.capability capability with
    | none => simp [hentry]
    | some entry =>
      cases hreason : entry.state.blockedReason with
      | some reason =>
        have hnot : ¬ entry.state.isWritable = true := by
          rw [← CapabilityState.blockedReason_eq_none_iff, hreason]
          simp
        simp [hentry, hnot, hreason]
      | none =>
        have hwritable := (CapabilityState.blockedReason_eq_none_iff entry.state).mp hreason
        have hleft : (∃ record', some record = some record' ∧
            ∃ entry', record'.capability capability = some entry' ∧ entry'.state.isWritable = true) :=
          ⟨record, rfl, entry, hentry, hwritable⟩
        rw [and_iff_right hleft]
        have haccess : daemon.status.access = daemon.accessMode := rfl
        simp only [hentry, hreason, haccess]
        unfold Uncontested
        cases daemon.accessMode with
        | readWrite => simp
        | readOnly conflicts =>
          simp only [AccessMode.readOnly.injEq, forall_eq']
          cases hfind : conflicts.find? fun c => c.device.all (· = KRAKEN_BASE) with
          | none =>
            refine iff_of_true rfl fun conflict hconflict => ?_
            have h := List.find?_eq_none.mp hfind conflict hconflict
            cases hdevice : conflict.device with
            | none => simp [hdevice] at h
            | some id => simpa [hdevice] using h
          | some conflict =>
            refine iff_of_false (by simp) fun hall => ?_
            have h := List.find?_some hfind
            have hnone := hall conflict (List.mem_of_find?_eq_some hfind)
            cases hdevice : conflict.device with
            | none => exact hnone.1 hdevice
            | some id => exact hnone.2 (by simpa [hdevice] using h)

theorem programState_enabled_iff (hsample : (daemon.published profiles telemetry).telemetryRefusal
      seconds nowUnixMs = none) (required : List CapabilityId) :
    (daemon.published profiles telemetry).programState seconds KRAKEN_BASE required nowUnixMs = .enabled ↔
      ∀ capability ∈ required,
        (daemon.published profiles telemetry).controlState KRAKEN_BASE capability = .enabled := by
  have hcooling : ∀ capability, (daemon.published profiles telemetry).coolingState seconds KRAKEN_BASE
      capability nowUnixMs = (daemon.published profiles telemetry).controlState KRAKEN_BASE capability := by
    intro capability
    unfold LinkState.coolingState
    rw [hsample]
    cases (daemon.published profiles telemetry).controlState KRAKEN_BASE capability <;> rfl
  have hstatus : ¬ (daemon.published profiles telemetry).status = none := by
    simp [Daemon.published, LinkState.status]
  unfold LinkState.programState
  simp only [if_neg hstatus, hcooling]
  cases hfind : (required.map fun capability =>
      (daemon.published profiles telemetry).controlState KRAKEN_BASE capability).find?
        fun state => !state.isEnabled with
  | none =>
    refine iff_of_true rfl fun capability hcapability => ?_
    have h := List.find?_eq_none.mp hfind _ (List.mem_map_of_mem hcapability)
    cases hstate : (daemon.published profiles telemetry).controlState KRAKEN_BASE capability with
    | enabled => rfl
    | disabled message => simp [hstate, ControlState.isEnabled] at h
  | some state =>
    have hdisabled := List.find?_some hfind
    have hmem := List.mem_of_find?_eq_some hfind
    rw [List.mem_map] at hmem
    obtain ⟨capability, hcapability, rfl⟩ := hmem
    refine iff_of_false ?_ fun hall => ?_
    · intro henabled
      rw [Option.getD_some] at henabled
      simp [henabled, ControlState.isEnabled] at hdisabled
    · simp [hall capability hcapability, ControlState.isEnabled] at hdisabled

theorem offered_iff (hsample : (daemon.published profiles telemetry).telemetryRefusal
      seconds nowUnixMs = none) (hrequired : program.requiredCapabilities ≠ []) :
    (daemon.published profiles telemetry).programState seconds KRAKEN_BASE program.requiredCapabilities
        nowUnixMs = .enabled ↔
      (∃ device, daemon.capabilities.device KRAKEN_BASE = some device ∧
        programIncompatibilities program device = []) ∧ Uncontested daemon := by
  rw [programState_enabled_iff hsample]
  simp only [controlState_enabled_iff, programIncompatibilities_eq_nil]
  constructor
  · intro hall
    obtain ⟨first, hfirst⟩ := List.exists_mem_of_ne_nil _ hrequired
    obtain ⟨⟨record, hrecord, -⟩, huncontested⟩ := hall first hfirst
    refine ⟨⟨record, hrecord, fun id hid => ?_⟩, huncontested⟩
    obtain ⟨⟨other, hother, hentry⟩, -⟩ := hall id hid
    cases hrecord.symm.trans hother
    exact hentry
  · rintro ⟨⟨device, hdevice, hopen⟩, huncontested⟩ id hid
    exact ⟨⟨device, hdevice, hopen id hid⟩, huncontested⟩

end Published

/-- A sample of a present cooler that is not stale. -/
def TelemetrySnapshot.Fresh (snapshot : TelemetrySnapshot) (nowUnixMs : Nat) : Prop :=
  snapshot.kraken.present = true ∧ nowUnixMs - snapshot.kraken.atUnixMs < STALE_AFTER_MS

/-- A program the client offers is not refused by the daemon with an error, and one the daemon's gate
lets through is disabled by the client for nothing but its telemetry. -/
structure GatesAgree {Raw : Type} (seconds : Nat → String) (toml : Toml Raw) (around : Surroundings)
    (machine : Machine Raw) (program : CoolingProgram) : Prop where
  offered : ∀ profiles snapshot nowUnixMs, snapshot.Fresh nowUnixMs →
    (machine.daemon.published profiles (some snapshot)).programState seconds KRAKEN_BASE
      program.requiredCapabilities nowUnixMs = .enabled →
    ∃ outcome, (Machine.execute toml around program machine).1 = .ok outcome
  admitted : (∃ outcome, (Machine.execute toml around program machine).1 = .ok outcome) →
    ∀ profiles telemetry nowUnixMs,
      let link := machine.daemon.published profiles telemetry
      let state := link.programState seconds KRAKEN_BASE program.requiredCapabilities nowUnixMs
      state = .enabled ∨ ∃ message, link.telemetryRefusal seconds nowUnixMs = some message ∧
        state = .disabled message

/-- Nothing sets the two gates apart: the record does not carry the program's capabilities as
writable, or a conflict is about the cooler or the machine, or there is none and the cooler is
supported or nothing at all is writable. -/
def Undisputed (daemon : Daemon) (program : CoolingProgram) : Prop :=
  (∀ device, daemon.capabilities.device KRAKEN_BASE = some device →
    programIncompatibilities program device ≠ []) ∨
  (∃ conflict ∈ daemon.conflicts, conflict.device = none ∨ conflict.device = some KRAKEN_BASE) ∨
  (daemon.conflicts = [] ∧
    ((∃ device, daemon.capabilities.device KRAKEN_BASE = some device ∧ device.isSupported = true) ∨
      daemon.hasWritableCapability = false))

theorem uncontested_iff {daemon : Daemon} : Uncontested daemon ↔
    (daemon.conflicts = [] → daemon.hasWritableCapability = true) ∧
    ∀ conflict ∈ daemon.conflicts, conflict.device ≠ none ∧ conflict.device ≠ some KRAKEN_BASE := by
  unfold Uncontested Daemon.accessMode Daemon.readOnly
  by_cases hconflicts : daemon.conflicts = []
  · cases hwritable : daemon.hasWritableCapability <;> simp [hconflicts, ReadOnly.intoConflicts]
  · simp [hconflicts, ReadOnly.intoConflicts]

theorem programState_of_controls {daemon : Daemon} {profiles : List Profile}
    {telemetry : Option TelemetrySnapshot} {seconds : Nat → String} {nowUnixMs : Nat}
    {required : List CapabilityId} (hrequired : required ≠ [])
    (hcontrols : ∀ capability ∈ required,
      (daemon.published profiles telemetry).controlState KRAKEN_BASE capability = .enabled) :
    (daemon.published profiles telemetry).programState seconds KRAKEN_BASE required nowUnixMs = .enabled ∨
      ∃ message, (daemon.published profiles telemetry).telemetryRefusal seconds nowUnixMs = some message ∧
        (daemon.published profiles telemetry).programState seconds KRAKEN_BASE required nowUnixMs =
          .disabled message := by
  cases hsample : (daemon.published profiles telemetry).telemetryRefusal seconds nowUnixMs with
  | none => exact .inl ((programState_enabled_iff hsample required).mpr hcontrols)
  | some message =>
    refine .inr ⟨message, rfl, ?_⟩
    cases required with
    | nil => exact absurd rfl hrequired
    | cons first rest =>
      have hstatus : ¬ (daemon.published profiles telemetry).status = none := by
        simp [Daemon.published, LinkState.status]
      have hfirst : (daemon.published profiles telemetry).coolingState seconds KRAKEN_BASE first nowUnixMs =
          .disabled message := by
        unfold LinkState.coolingState
        rw [hcontrols first List.mem_cons_self, hsample]
      unfold LinkState.programState
      rw [if_neg hstatus, List.map_cons, hfirst, List.find?_cons_of_pos rfl, Option.getD_some]

theorem requiredCapabilities_ne_nil {program : CoolingProgram} (h : program ≠ .onboard) :
    program.requiredCapabilities ≠ [] := by
  cases program with
  | onboard => exact absurd rfl h
  | fixed pump fan => simp [CoolingProgram.requiredCapabilities]
  | curve pump fan => simp [CoolingProgram.requiredCapabilities]

/-- For every state of the daemon and every validated program that writes, the two gates agree
exactly when nothing sets them apart. -/
theorem gates_agree_iff {Raw : Type} (seconds : Nat → String) (toml : Toml Raw) (around : Surroundings)
    (machine : Machine Raw) (program : CoolingProgram) (hvalid : validateProgram program = .ok ())
    (hwrites : program ≠ .onboard) :
    GatesAgree seconds toml around machine program ↔ Undisputed machine.daemon program := by
  have hrequired := requiredCapabilities_ne_nil hwrites
  constructor
  · intro hagree
    by_contra hdisputed
    simp only [Undisputed, not_or, not_forall, not_exists, not_and, not_not] at hdisputed
    obtain ⟨⟨device, hdevice, hopen⟩, hnone, hapart⟩ := hdisputed
    have huncontested : Uncontested machine.daemon := by
      refine uncontested_iff.mpr ⟨fun hconflicts => ?_, hnone⟩
      simpa using (hapart hconflicts).2
    have hfresh : (benchSnapshot true).Fresh 0 := ⟨rfl, by decide⟩
    have hsample : (machine.daemon.published [] (some (benchSnapshot true))).telemetryRefusal seconds 0 =
        none := rfl
    have hoffered := hagree.offered [] (benchSnapshot true) 0 hfresh
      ((offered_iff hsample hrequired).mpr ⟨⟨device, hdevice, hopen⟩, huncontested⟩)
    rw [Machine.execute_ok_iff, Daemon.admitsProgram_iff hvalid hwrites] at hoffered
    obtain ⟨⟨other, hother, hsupported, -⟩, hconflicts, -⟩ := hoffered
    exact (hapart hconflicts).1 other hother hsupported
  · intro hundisputed
    refine ⟨fun profiles snapshot nowUnixMs hfresh hstate => ?_, fun hok profiles telemetry nowUnixMs => ?_⟩
    · have hsample : (machine.daemon.published profiles (some snapshot)).telemetryRefusal seconds nowUnixMs =
          none := by
        simp only [LinkState.telemetryRefusal, Daemon.published, LinkState.telemetry, hfresh.1,
          not_true_eq_false, if_false, if_neg (Nat.not_le.mpr hfresh.2)]
      obtain ⟨⟨device, hdevice, hopen⟩, huncontested⟩ := (offered_iff hsample hrequired).mp hstate
      rw [uncontested_iff] at huncontested
      rw [Machine.execute_ok_iff, Daemon.admitsProgram_iff hvalid hwrites]
      rcases hundisputed with hclosed | ⟨conflict, hconflict, habout⟩ | ⟨hconflicts, hrest⟩
      · exact absurd hopen (hclosed device hdevice)
      · obtain ⟨hmachine, hcooler⟩ := huncontested.2 conflict hconflict
        rcases habout with h | h
        · exact absurd h hmachine
        · exact absurd h hcooler
      · have hwritable := huncontested.1 hconflicts
        rcases hrest with ⟨other, hother, hsupported⟩ | hreadOnly
        · cases hdevice.symm.trans hother
          exact ⟨⟨device, hdevice, hsupported, hopen⟩, hconflicts, hwritable⟩
        · rw [hwritable] at hreadOnly
          cases hreadOnly
    · rw [Machine.execute_ok_iff, Daemon.admitsProgram_iff hvalid hwrites] at hok
      obtain ⟨⟨device, hdevice, -, hopen⟩, hconflicts, hwritable⟩ := hok
      refine programState_of_controls hrequired fun capability hcapability => ?_
      refine controlState_enabled_iff.mpr ⟨⟨device, hdevice, ?_⟩, ?_⟩
      · exact programIncompatibilities_eq_nil.mp hopen capability hcapability
      · exact uncontested_iff.mpr ⟨fun _ => hwritable, by simp [hconflicts]⟩

theorem gates_agree_bench :
    GatesAgree (fun _ => "") plainToml (benchSurroundings true true)
      (benchMachine (fun _ => false) fun _ => false) (.fixed 180 90) :=
  (gates_agree_iff (fun _ => "") plainToml (benchSurroundings true true)
    (benchMachine (fun _ => false) fun _ => false) (.fixed 180 90) rfl (by decide)).mpr
    (.inr (.inr ⟨rfl, .inl ⟨benchKraken, rfl, rfl⟩⟩))

/-- The bench cooler beside a lighting controller another program holds open. -/
def heldFound : Found :=
  { benchFound with
    conflicts := [⟨some RGB_CONTROLLER, "/dev/hidraw12",
      "Process 412 (openrgb) already holds this device node."⟩] }

/-- The client offers a program for the cooler that the daemon refuses for the other device. -/
theorem offered_but_refused :
    let machine := Machine.start plainToml configPath (benchSurroundings true true) heldFound
      (benchOutside (fun _ => false) fun _ => false)
    (machine.daemon.published [] (some (benchSnapshot true))).programState (fun _ => "") KRAKEN_BASE
      (CoolingProgram.fixed 180 90).requiredCapabilities 0 = .enabled ∧
    (∃ detail, (Machine.execute plainToml (benchSurroundings true true) (.fixed 180 90) machine).1 =
      .error (.readOnly detail)) ∧
    ¬ GatesAgree (fun _ => "") plainToml (benchSurroundings true true) machine (.fixed 180 90) := by
  refine ⟨by decide +kernel, ⟨_, rfl⟩, fun hagree => ?_⟩
  obtain ⟨outcome, houtcome⟩ := hagree.offered [] (benchSnapshot true) 0 ⟨rfl, by decide⟩ (by decide +kernel)
  cases houtcome

end Kori
