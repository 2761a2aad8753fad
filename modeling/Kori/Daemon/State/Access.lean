import Kori.Daemon.State.Refusals

/-! # What a daemon's write access lets it reach -/

open Faulty

namespace Kori

variable {Raw α : Type} {toml : Toml Raw} {around : Surroundings}

/-- Nothing asks for the panel. -/
def DisplayExecutor.Idle (self : DisplayExecutor) : Prop := self.active = none ∧ self.animation = none

/-- What a write to a device needs: write access, and the device supported and present. -/
def Daemon.MayWrite (self : Daemon) (device : DeviceId) : Prop :=
  self.requireWriteAccess = .ok () ∧ ∃ record, self.supportedDevice device = .ok record

/-! ## The gates -/

theorem Daemon.mayWrite_of_admitsProgram {daemon : Daemon} {program : CoolingProgram}
    (h : daemon.admitsProgram program = .ok ()) (hne : program ≠ .onboard) : daemon.MayWrite KRAKEN_BASE := by
  unfold admitsProgram at h
  obtain ⟨-, -, h⟩ := ok_of_bind h
  rw [if_neg hne] at h
  obtain ⟨-, -, h⟩ := ok_of_bind h
  obtain ⟨record, hrecord, h⟩ := ok_of_bind h
  dsimp only at h
  split at h
  · cases h
  · exact ⟨h, record, hrecord⟩

theorem Daemon.mayWrite_of_admitsLighting {daemon : Daemon} {command : LightingCommand}
    (h : daemon.admitsLighting command = .ok ()) : daemon.MayWrite RGB_CONTROLLER := by
  unfold admitsLighting at h
  obtain ⟨-, -, h⟩ := ok_of_bind h
  obtain ⟨record, hrecord, h⟩ := ok_of_bind h
  obtain ⟨-, -, h⟩ := ok_of_bind h
  exact ⟨h, record, hrecord⟩

theorem Daemon.mayWrite_of_admitsDisplay {daemon : Daemon} {preset : DisplayPreset}
    (h : daemon.admitsDisplay preset = .ok ()) : daemon.MayWrite KRAKEN_BASE := by
  unfold admitsDisplay at h
  obtain ⟨-, -, h⟩ := ok_of_bind h
  obtain ⟨record, hrecord, h⟩ := ok_of_bind h
  obtain ⟨-, -, h⟩ := ok_of_bind h
  obtain ⟨-, -, h⟩ := ok_of_bind h
  exact ⟨h, record, hrecord⟩

namespace Machine

/-! ## What an operation may reach -/

/-- What was found at the start still stands. -/
structure SameAccess (before after : Machine Raw) : Prop where
  capabilities : after.daemon.capabilities = before.daemon.capabilities
  conflicts : after.daemon.conflicts = before.daemon.conflicts

/-- The cooler and the panel were left alone, and so was what asks for the panel. -/
structure SparesKraken (before after : Machine Raw) : Prop extends SameAccess before after where
  cooler : after.cooler.log = before.cooler.log
  idle : before.daemon.display.Idle → after.daemon.display.Idle ∧ after.panel.log = before.panel.log

structure SparesController (before after : Machine Raw) : Prop extends SameAccess before after where
  controller : after.controller.log = before.controller.log

/-- Each device was left alone, but for the ones the daemon may write. -/
structure Governed (before after : Machine Raw) : Prop extends SameAccess before after where
  kraken : before.daemon.MayWrite KRAKEN_BASE ∨ SparesKraken before after
  controller : before.daemon.MayWrite RGB_CONTROLLER ∨ SparesController before after

theorem SameAccess.mayWrite {before after : Machine Raw} (h : SameAccess before after) {device : DeviceId} :
    after.daemon.MayWrite device ↔ before.daemon.MayWrite device := by
  unfold Daemon.MayWrite Daemon.requireWriteAccess Daemon.readOnly Daemon.hasWritableCapability
    Daemon.supportedDevice
  rw [h.capabilities, h.conflicts]

instance : IsPreorder (Machine Raw) SameAccess where
  refl _ := ⟨rfl, rfl⟩
  trans _ _ _ h h' := ⟨h'.capabilities.trans h.capabilities, h'.conflicts.trans h.conflicts⟩

instance : IsPreorder (Machine Raw) SparesKraken where
  refl _ := ⟨⟨rfl, rfl⟩, rfl, fun h => ⟨h, rfl⟩⟩
  trans _ _ _ h h' := by
    refine ⟨trans_of SameAccess h.toSameAccess h'.toSameAccess, h'.cooler.trans h.cooler, fun hidle => ?_⟩
    obtain ⟨hbetween, hpanel⟩ := h.idle hidle
    obtain ⟨hafter, hpanel'⟩ := h'.idle hbetween
    exact ⟨hafter, hpanel'.trans hpanel⟩

instance : IsPreorder (Machine Raw) SparesController where
  refl _ := ⟨⟨rfl, rfl⟩, rfl⟩
  trans _ _ _ h h' :=
    ⟨trans_of SameAccess h.toSameAccess h'.toSameAccess, h'.controller.trans h.controller⟩

theorem Governed.of_spares {before after : Machine Raw} (hkraken : SparesKraken before after)
    (hcontroller : SparesController before after) : Governed before after :=
  ⟨hkraken.toSameAccess, .inr hkraken, .inr hcontroller⟩

instance : IsPreorder (Machine Raw) Governed where
  refl m := .of_spares (refl_of SparesKraken m) (refl_of SparesController m)
  trans _ _ _ h h' := by
    refine ⟨trans_of SameAccess h.toSameAccess h'.toSameAccess, ?_, ?_⟩
    · rcases h.kraken with hmay | hspares
      · exact .inl hmay
      · rcases h'.kraken with hmay | hspares'
        · exact .inl (h.mayWrite.mp hmay)
        · exact .inr (trans_of SparesKraken hspares hspares')
    · rcases h.controller with hmay | hspares
      · exact .inl hmay
      · rcases h'.controller with hmay | hspares'
        · exact .inl (h.mayWrite.mp hmay)
        · exact .inr (trans_of SparesController hspares hspares')

/-! ## Operations that reach no device -/

theorem spares_note (event : EventKind) : Keeps (@Governed Raw) (note event) :=
  fun _ => .of_spares ⟨⟨rfl, rfl⟩, rfl, fun h => ⟨h, rfl⟩⟩ ⟨⟨rfl, rfl⟩, rfl⟩

theorem spares_configure (f : Configuration → DiskIo Raw (α × Configuration)) :
    Keeps Governed (configure toml f) :=
  fun _ => .of_spares ⟨⟨rfl, rfl⟩, rfl, fun h => ⟨h, rfl⟩⟩ ⟨⟨rfl, rfl⟩, rfl⟩

theorem spares_cool {f : CoolingExecutor → Hw (α × CoolingExecutor)}
    (h : ∀ self w, ((f self).run hwmonDevice w).2.log = w.log) : Keeps (@Governed Raw) (cool f) :=
  fun _ => .of_spares ⟨⟨rfl, rfl⟩, h _ _, fun h => ⟨h, rfl⟩⟩ ⟨⟨rfl, rfl⟩, rfl⟩

theorem spares_draw {f : DisplayExecutor → LcdIo (α × DisplayExecutor)}
    (h : ∀ self w, self.Idle → ((f self).run lcd w).1.2.Idle ∧ ((f self).run lcd w).2.log = w.log) :
    Keeps (@Governed Raw) (draw f) :=
  fun _ => .of_spares ⟨⟨rfl, rfl⟩, rfl, h _ _⟩ ⟨⟨rfl, rfl⟩, rfl⟩

/-! ## Operations that write -/

theorem governed_execute (program : CoolingProgram) : Keeps Governed (execute toml around program) := by
  intro machine
  cases hgate : machine.daemon.admitsProgram program with
  | error refusal =>
    have hrefused : (execute toml around program machine).1 = .error refusal := by
      unfold execute
      rw [bind_apply, get_apply]
      dsimp only
      rw [hgate]
      rfl
    rw [execute_error hrefused]
    exact refl_of Governed machine
  | ok =>
    by_cases hprogram : program = .onboard
    · subst hprogram
      unfold execute
      rw [bind_apply, get_apply]
      dsimp only
      rw [hgate]
      dsimp only
      refine (Keeps.bind (spares_cool fun self w => ?_) fun outcome => ?_ : Keeps Governed _) machine
      · rfl
      · rw [if_pos rfl]
        exact .pure _
    · have hspares : SparesController machine (execute toml around program machine).2 :=
        keeps_execute (fun _ _ => ⟨⟨rfl, rfl⟩, rfl⟩) program (fun _ => ⟨⟨rfl, rfl⟩, rfl⟩)
          (fun _ => ⟨⟨rfl, rfl⟩, rfl⟩) machine
      exact ⟨hspares.toSameAccess, .inl (Daemon.mayWrite_of_admitsProgram hgate hprogram), .inr hspares⟩

theorem governed_illuminate (command : LightingCommand) : Keeps Governed (illuminate toml command) := by
  intro machine
  cases hgate : machine.daemon.admitsLighting command with
  | error refusal =>
    have hrefused : (illuminate toml command machine).1 = .error refusal := by
      unfold illuminate
      rw [bind_apply, get_apply]
      dsimp only
      rw [hgate]
      rfl
    rw [illuminate_error hrefused]
    exact refl_of Governed machine
  | ok =>
    have hspares : SparesKraken machine (illuminate toml command machine).2 :=
      keeps_illuminate (fun _ _ => ⟨⟨rfl, rfl⟩, rfl, fun h => ⟨h, rfl⟩⟩) command
        (fun _ => ⟨⟨rfl, rfl⟩, rfl, fun h => ⟨h, rfl⟩⟩)
        (fun _ => ⟨⟨rfl, rfl⟩, rfl, fun h => ⟨h, rfl⟩⟩) machine
    exact ⟨hspares.toSameAccess, .inr hspares, .inl (Daemon.mayWrite_of_admitsLighting hgate)⟩

theorem governed_show (preset : DisplayPreset) : Keeps Governed («show» toml around preset) := by
  intro machine
  cases hgate : machine.daemon.admitsDisplay preset with
  | error refusal =>
    have hrefused : («show» toml around preset machine).2 = machine := by
      unfold «show»
      rw [bind_apply, get_apply]
      dsimp only
      rw [hgate]
      rfl
    rw [hrefused]
    exact refl_of Governed machine
  | ok =>
    have hspares : SparesController machine («show» toml around preset machine).2 :=
      keeps_show (fun _ _ => ⟨⟨rfl, rfl⟩, rfl⟩) preset (fun _ => ⟨⟨rfl, rfl⟩, rfl⟩)
        (fun _ => ⟨⟨rfl, rfl⟩, rfl⟩) machine
    exact ⟨hspares.toSameAccess, .inl (Daemon.mayWrite_of_admitsDisplay hgate), .inr hspares⟩

/-! ## The daemon's own clock -/

theorem governed_reconcile (snapshot : TelemetrySnapshot) : Keeps (@Governed Raw) (reconcile snapshot) := by
  have hhealth : Keeps (@Governed Raw) (recordCollectorHealth snapshot) :=
    keeps_recordCollectorHealth spares_note
      (fun _ _ => .of_spares ⟨⟨rfl, rfl⟩, rfl, fun h => ⟨h, rfl⟩⟩ ⟨⟨rfl, rfl⟩, rfl⟩) _
  unfold reconcile
  split
  · refine .bind (spares_cool fun _ _ => rfl) fun _ => .bind (spares_draw fun _ _ h => ?_) fun _ => hhealth
    exact ⟨h, rfl⟩
  · exact .bind (spares_cool fun _ _ => rfl) fun _ => .bind (keeps_noteAll spares_note _) fun _ => hhealth

/-- Nothing is sent that no gate let through. -/
theorem governed_operations : Operations toml Governed where
  note := spares_note
  configure := spares_configure
  execute _ := governed_execute
  illuminate := governed_illuminate
  shows _ := governed_show
  reconcile := governed_reconcile
  refresh renderer samples := by
    refine spares_draw fun self w h => ?_
    unfold DisplayExecutor.refresh
    rw [h.1]
    split
    · exact ⟨h, rfl⟩
    · exact ⟨h, rfl⟩
  advance now := by
    refine spares_draw fun self w h => ?_
    unfold DisplayExecutor.advanceAnimation
    rw [h.2]
    split
    · exact ⟨h, rfl⟩
    · exact ⟨h, rfl⟩
  drop := spares_draw fun _ _ h => ⟨h, rfl⟩

/-! ## Runs -/

/-- Nothing asks for the panel, unless the daemon may write to it. -/
def Settled (machine : Machine Raw) : Prop :=
  machine.daemon.MayWrite KRAKEN_BASE ∨ machine.daemon.display.Idle

theorem Governed.settled {before after : Machine Raw} (h : Governed before after) (hsettled : before.Settled) :
    after.Settled := by
  rcases hsettled with hmay | hidle
  · exact .inl (h.mayWrite.mpr hmay)
  · rcases h.kraken with hmay | hspares
    · exact .inl (h.mayWrite.mpr hmay)
    · exact .inr (hspares.idle hidle).1

end Machine

/-- Something was sent to a device, or asked of it, between the two. What a start asks before anything is
outside them. -/
def Outside.Reached (before after : Outside Raw) (device : DeviceId) : Prop :=
  device = KRAKEN_BASE ∧ (after.cooler.log ≠ before.cooler.log ∨ after.panel.log ≠ before.panel.log) ∨
  device = RGB_CONTROLLER ∧ after.controller.log ≠ before.controller.log

namespace Machine

theorem Governed.mayWrite_of_reached {before after : Machine Raw} (h : Governed before after)
    (hsettled : before.Settled) {device : DeviceId} (hreached : before.outside.Reached after.outside device) :
    before.daemon.MayWrite device := by
  rcases hreached with ⟨rfl, hlog⟩ | ⟨rfl, hlog⟩
  · rcases h.kraken with hmay | hspares
    · exact hmay
    · rcases hsettled with hmay | hidle
      · exact hmay
      · exact (hlog.elim (· hspares.cooler) (· (hspares.idle hidle).2)).elim
  · rcases h.controller with hmay | hspares
    · exact hmay
    · exact (hlog hspares.controller).elim

theorem start_governed (toml : Toml Raw) (path : ConfigPath) (around : Surroundings) (found : Found) (outside : Outside Raw) :
    ∃ woken : Machine Raw, Governed woken (start toml path around found outside) ∧
      woken.daemon.capabilities = found.capabilities ∧ woken.daemon.conflicts = found.conflicts ∧
      woken.daemon.display = found.display ∧
      ∀ after device, outside.Reached after device → woken.outside.Reached after device :=
  ⟨_, governed_operations.restoreActiveProfile _, rfl, rfl, rfl, fun _ _ h => h⟩

end Machine

theorem Daemon.mayWrite_spec {daemon : Daemon} {device : DeviceId} (h : daemon.MayWrite device) :
    daemon.conflicts = [] ∧ daemon.hasWritableCapability = true ∧
      ∃ record ∈ daemon.capabilities.supported, record.id = device := by
  obtain ⟨haccess, record, hrecord⟩ := h
  unfold requireWriteAccess readOnly at haccess
  split at haccess
  · rename_i hnone
    split at hnone
    · cases hnone
    · rename_i hconflicts
      split at hnone
      · rename_i hwritable
        refine ⟨not_not.mp hconflicts, hwritable, record, ?_⟩
        unfold supportedDevice at hrecord
        split at hrecord
        · rename_i found hfound
          cases hrecord
          rw [Option.filter_eq_some_iff] at hfound
          obtain ⟨hfound, hsupported⟩ := hfound
          unfold CapabilityRecord.device at hfound
          refine ⟨List.mem_filter.mpr ⟨List.mem_of_find?_eq_some hfound, hsupported⟩, ?_⟩
          have hid := List.find?_some hfound
          exact of_decide_eq_true hid
        · cases hrecord
      · cases hnone
  · cases haccess

/-- Whatever reaches a device, in the start itself or in any call after it, was allowed by what the start found. -/
theorem Machine.allowed_of_reached (toml : Toml Raw) (path : ConfigPath) (around : Surroundings) (found : Found)
    (hidle : found.display.Idle) (outside : Outside Raw) (calls : List Machine.Call) (device : DeviceId) :
    ∃ woken : Daemon, woken.capabilities = found.capabilities ∧ woken.conflicts = found.conflicts ∧
      (outside.Reached (Machine.start toml path around found outside).outside device → woken.MayWrite device) ∧
      ∀ t ∈ turns (Machine.serve toml) (Machine.start toml path around found outside) calls,
        t.before.outside.Reached t.after.outside device → woken.MayWrite device := by
  obtain ⟨woken, hstart, hcapabilities, hconflicts, hdisplay, hreaches⟩ :=
    Machine.start_governed toml path around found outside
  have hsettled : woken.Settled := .inr (hdisplay ▸ hidle)
  refine ⟨woken.daemon, hcapabilities, hconflicts, fun hreached => ?_, fun t hmem hreached => ?_⟩
  · exact hstart.mayWrite_of_reached hsettled (hreaches _ _ hreached)
  · obtain ⟨hsame, hsettled⟩ : Machine.SameAccess woken t.before ∧ t.before.Settled := by
      refine turns_before (fun m => Machine.SameAccess woken m ∧ m.Settled) (fun m call h => ?_)
        ⟨hstart.toSameAccess, hstart.settled hsettled⟩ hmem
      have hserve : Machine.Governed m (Machine.serve toml call m).2 := Machine.governed_operations.serve call m
      exact ⟨trans_of Machine.SameAccess h.1 hserve.toSameAccess, hserve.settled h.2⟩
    refine hsame.mayWrite.mp ?_
    rw [← eq_of_mem_turns hmem] at hreached
    exact (Machine.governed_operations.serve t.call t.before).mayWrite_of_reached hsettled hreached

/-- Whatever reaches a device, in the start itself or in any call after it, was found to be allowed: a
daemon that came up with a conflict, or with nothing it could write, sends nothing to any device, and
none ever sends anything to a device it does not support. -/
theorem reached_with_access (toml : Toml Raw) (path : ConfigPath) (around : Surroundings) (found : Found)
    (hidle : found.display.Idle) (outside : Outside Raw) (calls : List Machine.Call) (device : DeviceId) :
    let machine := Machine.start toml path around found outside
    let Allowed := found.conflicts = [] ∧
      (found.capabilities.supported.any fun record => record.capabilities.any fun c => c.state.isWritable) ∧
      ∃ record ∈ found.capabilities.supported, record.id = device
    (outside.Reached machine.outside device → Allowed) ∧
    ∀ t ∈ turns (Machine.serve toml) machine calls, t.before.outside.Reached t.after.outside device → Allowed := by
  intro machine Allowed
  obtain ⟨woken, hcapabilities, hconflicts, hstart, hturns⟩ :=
    Machine.allowed_of_reached toml path around found hidle outside calls device
  have hallowed (hmay : woken.MayWrite device) : Allowed := by
    obtain ⟨hnone, hwritable, hrecord⟩ := Daemon.mayWrite_spec hmay
    rw [hconflicts] at hnone
    rw [Daemon.hasWritableCapability, hcapabilities] at hwritable
    rw [hcapabilities] at hrecord
    exact ⟨hnone, hwritable, hrecord⟩
  exact ⟨fun h => hallowed (hstart h), fun t hmem h => hallowed (hturns t hmem h)⟩

/-- A daemon that another program keeps from the cooler puts no picture on its panel. -/
theorem held_daemon_reaches_nothing :
    let found := { benchFound with conflicts := [⟨some KRAKEN_BASE, "/dev/hidraw4", "Process 7 (cam) holds it."⟩] }
    let outside := benchOutside (fun _ => false) fun _ => false
    let machine := Machine.start plainToml configPath (benchSurroundings true true) found outside
    ¬ outside.Reached machine.outside KRAKEN_BASE ∧
    ∀ t ∈ turns (Machine.serve plainToml) machine
      [.request (benchSurroundings true true) (.applyDisplay benchImage), .tick (benchSurroundings true true)],
      ¬ t.before.outside.Reached t.after.outside KRAKEN_BASE := by
  intro found outside machine
  obtain ⟨hstart, hturns⟩ := reached_with_access plainToml configPath (benchSurroundings true true)
    found ⟨rfl, rfl⟩ outside
    [.request (benchSurroundings true true) (.applyDisplay benchImage), .tick (benchSurroundings true true)]
    KRAKEN_BASE
  exact ⟨fun h => List.cons_ne_nil _ _ (hstart h).1, fun t hmem h => List.cons_ne_nil _ _ (hturns t hmem h).1⟩

end Kori
