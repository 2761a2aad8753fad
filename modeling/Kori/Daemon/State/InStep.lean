import Kori.Daemon.Cooling.Runs
import Kori.Daemon.Display.Record
import Kori.Daemon.Lighting.Runs
import Kori.Daemon.State.Absence
import Kori.Hardware.Rgb.Wire

/-! # The devices stay on what the daemon has recorded -/

open Faulty

namespace Kori

/-! ## The controller -/

namespace RgbController

variable {channel other bit : UInt8} {program another : LightingProgram} {taken : List Report} {report : Report}

theorem channelBit_spec (h : channelBit channel = some bit) :
    channel.toNat ≤ MAX_CHANNELS ∧ channel ≠ 0 ∧ bit = UInt8.ofNat (2 ^ (channel.toNat - 1)) := by
  have hbounds : 1 ≤ channel ∧ channel.toNat ≤ MAX_CHANNELS := by
    by_contra hout
    unfold channelBit at h
    rw [if_neg hout] at h
    cases h
  have hne : channel ≠ 0 := by
    rintro rfl
    exact absurd hbounds.1 (by decide)
  rw [channelBit_eq hne hbounds.2] at h
  exact ⟨hbounds.2, hne, (Option.some.inj h).symm⟩

theorem channelBit_injective (h : channelBit channel = some bit) (hother : channelBit other = some bit) :
    other = channel := by
  have hthree : ∀ n m : Fin 4, n ≠ 0 → m ≠ 0 →
      UInt8.ofNat (2 ^ (n.val - 1)) = UInt8.ofNat (2 ^ (m.val - 1)) → n = m := by decide
  obtain ⟨hle, hne, hbit⟩ := channelBit_spec h
  obtain ⟨hle', hne', hbit'⟩ := channelBit_spec hother
  have hnonzero : ∀ (c : UInt8) (hc : c.toNat < 4), c ≠ 0 → (⟨c.toNat, hc⟩ : Fin 4) ≠ 0 := by
    intro c hc hzero heq
    exact hzero (UInt8.toNat_inj.mp (Fin.mk.inj_iff.mp heq))
  have hsame := hthree ⟨other.toNat, Nat.lt_succ_of_le hle'⟩ ⟨channel.toNat, Nat.lt_succ_of_le hle⟩
    (hnonzero other _ hne') (hnonzero channel _ hne) (hbit'.symm.trans hbit)
  exact UInt8.toNat_inj.mp (Fin.mk.inj_iff.mp hsame)

theorem encode_bit (h : encode channel program = .ok report) :
    ∃ bit, channelBit channel = some bit ∧ report.toList[2]? = some bit := by
  unfold encode at h
  cases hbit : channelBit channel with
  | none =>
    rw [hbit] at h
    cases h
  | some bit =>
    rw [hbit] at h
    refine ⟨bit, rfl, ?_⟩
    have hfits : (asked program).length ≤ MAX_COLORS := by
      by_contra hmany
      unfold colorCommand at h
      rw [encoding_eq] at h
      simp only [List.length_map] at h
      rw [if_pos (by omega)] at h
      cases h
    obtain ⟨sent, hsent, hbytes⟩ := colorCommand_eq bit program hfits
    cases h.symm.trans hsent
    rw [hbytes]
    rfl

/-- The last report of the channel that the controller took is the program's. -/
def Shown (taken : List Report) (channel : UInt8) (program : LightingProgram) : Prop :=
  ∃ report, encode channel program = .ok report ∧
    (taken.filter fun other => other.toList[2]? = report.toList[2]?).getLast? = some report

theorem shown_sent (h : encode channel program = .ok report) : Shown (taken ++ [report]) channel program := by
  refine ⟨report, h, ?_⟩
  rw [List.filter_append, List.filter_cons_of_pos (by simp), List.getLast?_append]
  rfl

theorem Shown.beside (h : Shown taken channel program) (hne : channel ≠ other)
    (hreport : encode other another = .ok report) : Shown (taken ++ [report]) channel program := by
  obtain ⟨shown, hshown, hlast⟩ := h
  refine ⟨shown, hshown, ?_⟩
  obtain ⟨bit, hbit, hbyte⟩ := encode_bit hshown
  obtain ⟨bit', hbit', hbyte'⟩ := encode_bit hreport
  have hdiffers : ¬ report.toList[2]? = shown.toList[2]? := by
    rw [hbyte, hbyte']
    rintro ⟨⟩
    exact hne (channelBit_injective hbit' hbit)
  rw [List.filter_append, List.filter_cons_of_neg (by simpa using hdiffers)]
  simpa using hlast

end RgbController

namespace LightingExecutor

/-- What the record says of a channel is what its last report asked for. -/
def Sound (self : LightingExecutor) (taken : List Report) : Prop :=
  ∀ channel program, self.committed channel = some program → RgbController.Shown taken channel program

theorem Sound.apply {self : LightingExecutor} {w : RgbController.Outside} (h : self.Sound w.state) (now : Instant)
    (command : LightingCommand) :
    let r := (self.apply now command).run RgbController.device w
    r.1.2.Sound r.2.state := by
  have hlit := @apply_lit self now command w
  dsimp only
  generalize (self.apply now command).run RgbController.device w = r at hlit
  cases hlit with
  | held => exact h
  | declined => exact h
  | unencodable => exact fun channel program hprogram => nomatch hprogram
  | failed => exact fun channel program hprogram => nomatch hprogram
  | sent report hreport =>
    intro channel program hprogram
    by_cases hsame : channel = command.channel
    · subst hsame
      have hown := (Function.update_self ..).symm.trans hprogram
      cases hown
      exact RgbController.shown_sent hreport
    · have hold := (Function.update_of_ne hsame ..).symm.trans hprogram
      exact (h channel program hold).beside hsame hreport

end LightingExecutor

/-! ## The panel -/

namespace DisplayExecutor

/-- The panel's next failure leaves it on the recorded brightness. -/
def KeepsLevel (self : DisplayExecutor) (panel : LcdWorld) : Prop :=
  ∀ b ∈ self.brightness, ∀ fault ∈ panel.faults 0, fault.brightness = b

theorem Describes.turn {self : DisplayExecutor} {panel : LcdWorld} (h : self.Describes panel.state)
    (hlevel : self.KeepsLevel panel) (call : DisplayCall) (hforget : ∀ found, call ≠ .forget found) :
    let t := Faulty.turn DisplayCall.serve ⟨self, panel⟩ call
    t.after.owner.Describes t.after.world.state := by
  refine ((DisplayCall.serve_transfers ⟨self, panel⟩ call hforget).describes h).mpr ?_
  rintro preset frame - ⟨-, b, fault, hb, -, hfault, hlost⟩
  exact hlost (hlevel b hb fault hfault)

end DisplayExecutor

/-! ## The machine -/

namespace Machine

variable {Raw : Type} {toml : Toml Raw} {around : Surroundings} {machine : Machine Raw}

/-- The devices are on what the daemon has recorded. -/
structure InStep (machine : Machine Raw) : Prop where
  cooling : machine.daemon.cooling.Sound machine.cooler.state
  lighting : machine.daemon.lighting.Sound machine.controller.state
  panel : machine.daemon.display.Describes machine.panel.state

/-- An operation that leaves the cooler and the controller on what is recorded. -/
structure Steady (before after : Machine Raw) : Prop where
  cooling : before.daemon.cooling.Sound before.cooler.state → after.daemon.cooling.Sound after.cooler.state
  lighting : before.daemon.lighting.Sound before.controller.state →
    after.daemon.lighting.Sound after.controller.state

instance : IsPreorder (Machine Raw) Steady where
  refl _ := ⟨id, id⟩
  trans _ _ _ h h' := ⟨h'.cooling ∘ h.cooling, h'.lighting ∘ h.lighting⟩

theorem steady_applyCooling (program : CoolingProgram) : Keeps (@Steady Raw) (applyCooling around program) := by
  intro machine
  refine ⟨fun h => ?_, id⟩
  have hwp : wp hwmonDevice (do machine.daemon.cooling.apply around.located (← clock) program)
      (fun r s' => r.2.Sound s'.state) machine.cooler.toSeen := fun now =>
    wp_mono (CoolingExecutor.apply_spec around.located now program h) fun _ _ h => h.sound
  exact wp_run machine.cooler hwp

theorem steady_light (command : LightingCommand) :
    Keeps (@Steady Raw) (light fun lighting => do lighting.apply (← clock) command) :=
  fun machine => ⟨id, fun h => @LightingExecutor.Sound.apply machine.daemon.lighting
    { machine.controller with times := fun n => machine.controller.times (n + 1) } h (machine.controller.times 0) command⟩

theorem steady_reconcile (snapshot : TelemetrySnapshot) : Keeps (@Steady Raw) (reconcile snapshot) := by
  have hnote : ∀ event, Keeps (@Steady Raw) (note event) := fun _ _ => ⟨id, id⟩
  have hhealth := @keeps_recordCollectorHealth Raw Steady _ hnote (fun _ _ => ⟨id, id⟩) snapshot
  unfold reconcile
  split
  · refine .bind (fun machine => ⟨fun _ => ?_, id⟩) fun _ => .bind (fun _ => ⟨id, id⟩) fun _ => hhealth
    exact CoolingExecutor.sound_of_forget machine.daemon.cooling machine.cooler.state
  · refine .bind (fun machine => ⟨fun h => ?_, id⟩) fun _ => .bind (keeps_noteAll hnote _) fun _ => hhealth
    exact h.verifyCurves _ _

/-- Whatever the daemon does, the cooler and the controller stay on what it recorded. -/
theorem steady_operations : Operations toml Steady where
  note _ _ := ⟨id, id⟩
  configure _ _ := ⟨id, id⟩
  execute _ program := keeps_execute (fun _ _ => ⟨id, id⟩) program (steady_applyCooling program) fun _ => ⟨id, id⟩
  illuminate command := keeps_illuminate (fun _ _ => ⟨id, id⟩) command (steady_light command) fun _ => ⟨id, id⟩
  shows _ preset := keeps_show (fun _ _ => ⟨id, id⟩) preset (fun _ => ⟨id, id⟩) fun _ => ⟨id, id⟩
  reconcile := steady_reconcile
  refresh _ _ _ := ⟨id, id⟩
  advance _ _ := ⟨id, id⟩
  drop _ := ⟨id, id⟩

/-- What is recorded of the cooling is the same. -/
def SameCooling (before after : Machine Raw) : Prop := after.daemon.cooling = before.daemon.cooling

instance : IsPreorder (Machine Raw) SameCooling where
  refl _ := rfl
  trans _ _ _ h h' := h'.trans h

theorem committedProgram_iff {executor : CoolingExecutor} {program : CoolingProgram} :
    executor.committedProgram = some program ↔
      program ≠ .onboard ∧ ∀ x ∈ program.targets.getD [], executor.committedTarget x.1 = some x.2 := by
  constructor
  · intro h
    unfold CoolingExecutor.committedProgram at h
    split at h
    · rename_i hpump hfan
      cases h
      simp [CoolingProgram.targets, hpump, hfan]
    · rename_i hpump hfan
      cases h
      simp [CoolingProgram.targets, hpump, hfan]
    · cases h
  · rintro ⟨hne, h⟩
    cases program with
    | onboard => exact absurd rfl hne
    | fixed pump fan =>
      have hpump := h (.pump, .fixed pump) (by simp [CoolingProgram.targets])
      have hfan := h (.fan, .fixed fan) (by simp [CoolingProgram.targets])
      unfold CoolingExecutor.committedProgram
      rw [hpump, hfan]
    | curve pump fan =>
      have hpump := h (.pump, .curve pump) (by simp [CoolingProgram.targets])
      have hfan := h (.fan, .curve fan) (by simp [CoolingProgram.targets])
      unfold CoolingExecutor.committedProgram
      rw [hpump, hfan]

theorem execute_recorded (h : machine.daemon.cooling.Sound machine.cooler.state) {program : CoolingProgram}
    {outcome : ApplyOutcome} (hanswer : (execute toml around program machine).1 = .ok outcome)
    (hconfirmed : outcome.hardware = .confirmed) :
    (execute toml around program machine).2.daemon.cooling.committedProgram = some program := by
  have hwp : wp hwmonDevice (do machine.daemon.cooling.apply around.located (← clock) program)
      (fun r s' => CoolingExecutor.Accounts (program.targets.getD []) machine.cooler.state r.1 r.2 s'.state)
      machine.cooler.toSeen := fun now => CoolingExecutor.apply_spec around.located now program h
  have haccounts := wp_run machine.cooler hwp
  unfold execute at hanswer ⊢
  rw [bind_apply, get_apply] at hanswer ⊢
  dsimp only at hanswer ⊢
  cases hgate : machine.daemon.admitsProgram program with
  | error refusal =>
    rw [hgate] at hanswer
    cases hanswer
  | ok =>
    rw [hgate] at hanswer
    dsimp only at hanswer ⊢
    by_cases hprogram : program = .onboard
    · subst hprogram
      rw [bind_apply, if_pos rfl] at hanswer
      cases hanswer
      cases hconfirmed
    · have hafter : Keeps (@SameCooling Raw) (do
          note (.programApplied (applyCooling around program machine).1.hardware (applyCooling around program machine).1.writes)
          if (applyCooling around program machine).1.hardware = .confirmed then
            remember toml fun config => config.recordProgram toml program
          return (.ok (applyCooling around program machine).1 : Except IpcError ApplyOutcome)) := by
        refine .bind (fun _ => rfl) fun _ => ?_
        split
        · exact .bind (keeps_remember (fun _ _ => rfl) fun _ => rfl) fun _ => .pure _
        · exact .bind (.pure _) fun _ => .pure _
      rw [bind_apply, if_neg hprogram] at hanswer ⊢
      have hsame := hafter (applyCooling around program machine).2
      unfold SameCooling at hsame
      rw [hsame]
      refine committedProgram_iff.mpr ⟨hprogram, haccounts.recorded ?_⟩
      rw [bind_apply] at hanswer
      split at hanswer
      · rename_i hhardware
        exact hhardware
      · cases hanswer
        exact hconfirmed

theorem handle_recorded (h : machine.daemon.cooling.Sound machine.cooler.state) {program : CoolingProgram}
    {outcome : ApplyOutcome} (hanswer : (handle toml around (.applyProgram program) machine).1 = .applied outcome)
    (hconfirmed : outcome.hardware = .confirmed) :
    (handle toml around (.applyProgram program) machine).2.daemon.cooling.committedProgram = some program := by
  cases hexecuted : (execute toml around program machine).1 with
  | error error =>
    have hrun : (handle toml around (.applyProgram program) machine).1 = .error error := by
      unfold handle dispatch
      dsimp only
      rw [bind_apply, bind_apply, hexecuted]
      rfl
    cases hrun.symm.trans hanswer
  | ok applied =>
    have hrun : handle toml around (.applyProgram program) machine =
        (.applied applied, (execute toml around program machine).2) := by
      unfold handle dispatch
      dsimp only
      rw [bind_apply, bind_apply, hexecuted]
      rfl
    rw [hrun] at hanswer ⊢
    cases hanswer
    exact execute_recorded h hexecuted hconfirmed

/-! ## What the panel is left on -/

def KeepsLevel (machine : Machine Raw) : Prop := machine.daemon.display.KeepsLevel machine.panel

/-- The record of the panel is true of it. -/
def Describes (machine : Machine Raw) : Prop := machine.daemon.display.Describes machine.panel.state

theorem SamePanel.describes {after : Machine Raw} (h : machine.SamePanel after) : after.Describes ↔ machine.Describes := by
  unfold Describes
  rw [h.1, h.2]

theorem SamePanel.keepsLevel {after : Machine Raw} (h : machine.SamePanel after) :
    after.KeepsLevel ↔ machine.KeepsLevel := by
  unfold KeepsLevel
  rw [h.1, h.2]

theorem describes_of_fresh {α : Type} {p : LcdIo (α × DisplayExecutor)} {panel : LcdWorld}
    (h : (p.run lcd panel.fresh).1.2.Describes (p.run lcd panel.fresh).2.state) :
    (p.run lcd panel).1.2.Describes (p.run lcd panel).2.state := by
  obtain ⟨hanswer, hstate⟩ := run_congr lcd p (w := panel.fresh) (v := panel) rfl rfl rfl
  rwa [hanswer, hstate] at h

/-- A true record stays true, if a failing brightness report leaves the recorded one. -/
def Shields {α : Type} (f : Act Raw α) : Prop :=
  ∀ machine : Machine Raw, machine.Describes → machine.KeepsLevel → (f machine).2.Describes

namespace Shields

variable {α β : Type} {f : Act Raw α} {g : α → Act Raw β}

theorem of_samePanel (h : Keeps SamePanel f) : Shields f := fun machine hmachine _ => (h machine).describes.mpr hmachine

theorem pure (a : α) : Shields (Pure.pure a : Act Raw α) := fun _ h _ => h

theorem after (hf : Keeps SamePanel f) (hg : ∀ a, Shields (g a)) : Shields (f >>= g) := by
  intro machine h hlevel
  have hsame := hf machine
  exact hg _ _ (hsame.describes.mpr h) (hsame.keepsLevel.mpr hlevel)

theorem before (hf : Shields f) (hg : ∀ a, Keeps SamePanel (g a)) : Shields (f >>= g) :=
  fun machine h hlevel => (hg _ _).describes.mpr (hf machine h hlevel)

end Shields

theorem shields_show (preset : DisplayPreset) : Shields («show» toml around preset) := by
  refine .after .get fun found => ?_
  split
  · exact .pure _
  · refine .before (fun machine h hlevel => ?_) fun r => ?_
    · exact describes_of_fresh (h.turn hlevel (.apply around.renderer preset (preset.samples around.snapshot)) (by simp))
    · split
      · exact .pure _
      · refine .bind (samePanel_note _) fun _ => ?_
        split
        · exact .bind (keeps_remember samePanel_note fun _ => ⟨rfl, rfl⟩) fun _ => .pure _
        · exact .bind (.pure _) fun _ => .pure _

theorem shields_applyDisplay (preset : Option DisplayPreset) : Shields (applyDisplay toml around preset) := by
  cases preset with
  | none => exact .pure _
  | some preset =>
    refine .before (shields_show preset) fun r => ?_
    split
    · exact .pure _
    · exact samePanel_note _

theorem samePanel_illuminate (command : LightingCommand) : Keeps SamePanel (illuminate toml command) :=
  keeps_illuminate samePanel_note command (fun _ => ⟨rfl, rfl⟩) fun _ => ⟨rfl, rfl⟩

theorem samePanel_applyProgram (held : ProgramToRestore) : Keeps SamePanel (applyProgram toml around held) := by
  unfold applyProgram
  refine .bind (keeps_execute samePanel_note _ (fun _ => ⟨rfl, rfl⟩) fun _ => ⟨rfl, rfl⟩) fun r => ?_
  dsimp only
  split
  · exact .bind (samePanel_note _) fun _ => .pure _
  · exact .bind (samePanel_note _) fun _ => .pure _
  · exact .pure _

theorem shields_activateProfile (name : String) : Shields (activateProfile toml around name) := by
  refine .after .get fun found => ?_
  dsimp only
  split
  · exact .pure _
  · split
    · exact .pure _
    · refine .after (fun _ => ⟨rfl, rfl⟩) fun activated => ?_
      split
      · exact .pure _
      · refine .after (keeps_applyLighting samePanel_note samePanel_illuminate _) fun _ => ?_
        refine .before (shields_applyDisplay _) fun _ => ?_
        exact .bind (samePanel_applyProgram _) fun _ => .pure _

theorem shields_handle (request : Request) : Shields (handle toml around request) := by
  have hdispatch : Shields (dispatch toml around request) := by
    by_cases hshows : Call.Shows (.request around request)
    · cases request with
      | activateProfile name => exact shields_activateProfile name
      | applyDisplay preset =>
        refine .before (shields_show preset) fun r => ?_
        split
        · exact .pure _
        · exact .pure _
      | _ => exact hshows.elim
    · exact .of_samePanel (samePanel_dispatch hshows)
  refine .before hdispatch fun response => ?_
  split
  · exact .bind (samePanel_note _) fun _ => .pure _
  · exact .bind (.pure _) fun _ => .pure _

theorem shields_tick : Shields (@tick Raw around) := by
  by_cases hpresent : around.snapshot.kraken.present = true
  · have hreconcile : Keeps (@SamePanel Raw) (reconcile around.snapshot) := by
      unfold reconcile
      rw [if_neg (not_not.mpr hpresent)]
      refine .bind (fun _ => ⟨rfl, rfl⟩) fun _ => .bind (keeps_noteAll samePanel_note _) fun _ => ?_
      exact keeps_recordCollectorHealth samePanel_note (fun _ _ => ⟨rfl, rfl⟩) _
    refine .after hreconcile fun _ => ?_
    rw [if_neg (not_not.mpr hpresent)]
    refine .after .get fun found => ?_
    split
    · exact .pure _
    · rename_i preset hactive
      refine .before (fun machine h hlevel => ?_) fun outcome => ?_
      · exact describes_of_fresh (h.turn hlevel (.refresh around.renderer (preset.samples around.snapshot)) (by simp))
      · split
        · exact .pure _
        · split
          · exact samePanel_note _
          · exact .pure _
  · intro machine _ _
    obtain ⟨hdisplay, hpanel⟩ := @tick_absent Raw around (Bool.eq_false_iff.mpr hpresent) machine
    unfold Describes
    rw [hdisplay, hpanel]
    exact ⟨fun b hb => (nomatch hb), fun entry hentry => nomatch hentry⟩

/-- Whatever is asked of the daemon, the devices stay on what it recorded, as long as a brightness
report that fails leaves the panel on the recorded one. -/
theorem InStep.serve (h : machine.InStep) (hlevel : machine.KeepsLevel) (call : Call) :
    (Machine.serve toml call machine).2.InStep := by
  have hsteady := (@steady_operations Raw toml).serve call machine
  refine ⟨hsteady.cooling h.cooling, hsteady.lighting h.lighting, ?_⟩
  cases call with
  | request around request => exact shields_handle request machine h.panel hlevel
  | tick around => exact shields_tick machine h.panel hlevel
  | tickAnimation now => exact describes_of_fresh (h.panel.turn hlevel (.advanceAnimation now) (by simp))
  | dropDisplayFrame => exact ⟨h.panel.brightness, h.panel.picture⟩

theorem shields_restoreActiveProfile : Shields (restoreActiveProfile toml around) := by
  refine .after .get fun _ => .after (keeps_applyLighting samePanel_note samePanel_illuminate _) fun _ => ?_
  refine .after .get fun _ => .before (shields_applyDisplay _) fun _ => .bind .get fun _ => ?_
  dsimp only
  split
  · exact .pure _
  · exact .bind (samePanel_applyProgram _) fun _ => .pure _

/-- A daemon that has just started, with nothing recorded of the devices it found, is in step with them. -/
theorem inStep_start (path : ConfigPath) (found : Found) (outside : Outside Raw)
    (hlighting : ∀ channel, found.lighting.committed channel = none)
    (hdisplay : found.display.committed = none ∧ found.display.brightness = none) :
    (start toml path around found outside).InStep := by
  obtain ⟨hcommitted, hbrightness⟩ := hdisplay
  have hsteady := @Operations.restoreActiveProfile Raw toml around Steady _ steady_operations
  refine ⟨(hsteady _).cooling (CoolingExecutor.sound_opened _ _), (hsteady _).lighting fun channel program h => ?_,
    shields_restoreActiveProfile _ ⟨fun b h => ?_, fun entry h => ?_⟩ fun b h => ?_⟩
  · cases (hlighting channel).symm.trans h
  · cases hbrightness.symm.trans h
  · cases hcommitted.symm.trans h
  · cases hbrightness.symm.trans h

end Machine

end Kori
