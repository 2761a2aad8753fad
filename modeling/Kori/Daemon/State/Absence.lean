import Kori.Daemon.State.Refusals

/-! # The panel while the device is gone -/

open Faulty

namespace Kori

variable {Raw : Type} {toml : Toml Raw} {around : Surroundings}

namespace DisplayExecutor

variable {self : DisplayExecutor}

/-- An animation is playing, and its next frame is due. -/
def FrameDue (self : DisplayExecutor) (now : Instant) : Prop :=
  self.isStreaming = true ∧ ∃ animation, self.animation = some animation ∧ animation.due ≤ now

/-- Nothing is recorded of what the panel shows. -/
def Blank (self : DisplayExecutor) : Prop := self.committed = none ∧ self.brightness = none

theorem advanceAnimation_early {now : Instant} (h : ¬ self.FrameDue now) (w : LcdWorld) :
    ((self.advanceAnimation now).run lcd w).1.2 = self ∧ ((self.advanceAnimation now).run lcd w).2 = w := by
  unfold advanceAnimation
  split
  · exact ⟨rfl, rfl⟩
  · rename_i hstreaming
    rw [not_not] at hstreaming
    split
    · exact ⟨rfl, rfl⟩
    · rename_i animation hanimation
      split
      · exact ⟨rfl, rfl⟩
      · rename_i hdue
        exact (h ⟨hstreaming, animation, hanimation, Nat.le_of_not_lt hdue⟩).elim

theorem dropFrames_eq (n : Nat) : ∃ dropped, self.dropFrames n = { self with dropped } := by
  induction n generalizing self with
  | zero => exact ⟨self.dropped, rfl⟩
  | succ n ih =>
    obtain ⟨dropped, h⟩ := @ih self.dropFrame
    exact ⟨dropped, h⟩

theorem sendPicture_brightness (preset : DisplayPreset) (frame : Frame) (sent : Bool) (w : LcdWorld) :
    ((self.sendPicture preset frame sent).run lcd w).1.2.brightness = self.brightness := by
  unfold sendPicture
  split
  · rfl
  · rw [run_bind]
    cases ((LcdLink.sendFrame frame).run lcd w).1 <;> rfl

theorem stopIfUncertain_brightness (outcome : DisplayOutcome) :
    (self.stopIfUncertain outcome).brightness = self.brightness := by
  unfold stopIfUncertain
  split <;> rfl

theorem sendBytes_brightness {preset : DisplayPreset} (hlink : self.link = true)
    (hbrightness : self.brightness ≠ some preset.brightness) (frame : Frame) {w : LcdWorld}
    (hfault : w.faults 0 = none) :
    ((self.sendBytes preset frame).run lcd w).1.2.brightness = some preset.brightness ∧
      w.log ++ [.issued (.setDisplay preset.brightness) true w.state
        { w.state with brightness := preset.brightness }] <+:
        ((self.sendBytes preset frame).run lcd w).2.log := by
  unfold sendBytes
  rw [if_neg (by rw [hlink]; decide), if_pos hbrightness, run_bind, LcdLink.setDisplay, run_issue_ok _ hfault]
  exact ⟨sendPicture_brightness .., run_log_grows (w.spent (w.issued (.setDisplay preset.brightness) true
    { w.state with brightness := preset.brightness }))⟩

theorem advanceAnimation_due {now : Instant} {preset : DisplayPreset} (h : self.FrameDue now)
    (hactive : self.active = some preset) (hbrightness : self.brightness ≠ some preset.brightness)
    {w : LcdWorld} (hfault : w.faults 0 = none) :
    ((self.advanceAnimation now).run lcd w).1.2.brightness = some preset.brightness ∧
      w.log ++ [.issued (.setDisplay preset.brightness) true w.state
        { w.state with brightness := preset.brightness }] <+:
        ((self.advanceAnimation now).run lcd w).2.log := by
  obtain ⟨hstreaming, animation, hanimation, hdue⟩ := h
  have hlink : self.link = true := by
    unfold isStreaming isConnected at hstreaming
    cases hlink : self.link with
    | true => rfl
    | false =>
      rw [hlink] at hstreaming
      simp at hstreaming
  unfold advanceAnimation
  rw [if_neg (not_not.mpr hstreaming), hanimation]
  dsimp only
  rw [if_neg (Nat.not_lt_of_le hdue), hactive]
  dsimp only
  obtain ⟨dropped, hdropped⟩ := @dropFrames_eq
    { self with animation := some (animation.catchUp now 0).1, active := some preset }
    (animation.catchUp now 0).2
  obtain ⟨hsent, hlog⟩ := @sendBytes_brightness
    { self with animation := some (animation.catchUp now 0).1, active := some preset, dropped } preset hlink
    hbrightness (animation.catchUp now 0).1.current.bytes w hfault
  rw [run_bind, hdropped]
  split
  · refine ⟨?_, hlog⟩
    rw [← hsent]
    exact stopIfUncertain_brightness _
  · exact ⟨hsent, hlog⟩

end DisplayExecutor

namespace Machine

/-! ## What leaves the panel alone -/

/-- Neither the panel nor what is recorded of it changed. -/
def SamePanel (before after : Machine Raw) : Prop :=
  after.daemon.display = before.daemon.display ∧ after.panel = before.panel

instance : IsPreorder (Machine Raw) SamePanel where
  refl _ := ⟨rfl, rfl⟩
  trans _ _ _ h h' := ⟨h'.1.trans h.1, h'.2.trans h.2⟩

theorem samePanel_note (event : EventKind) : Keeps (@SamePanel Raw) (note event) :=
  fun _ => ⟨rfl, rfl⟩

/-- A call by which the operator puts something on the panel. -/
def Call.Shows : Call → Prop
  | .request _ (.applyDisplay _) => True
  | .request _ (.activateProfile _) => True
  | _ => False

theorem samePanel_dispatch {request : Request} (h : ¬ Call.Shows (.request around request)) :
    Keeps SamePanel (dispatch toml around request) := by
  cases request with
  | hello protocolVersion =>
    unfold dispatch
    dsimp only
    split
    · exact .pure _
    · exact .pure _
  | status => exact .bind .get fun _ => .pure _
  | capabilities => exact .bind .get fun _ => .pure _
  | profiles => exact .bind .get fun _ => .pure _
  | telemetry => exact .pure _
  | diagnostics => exact .bind .get fun _ => .pure _
  | activateProfile name => exact (h trivial).elim
  | applyDisplay preset => exact (h trivial).elim
  | saveProfile profile =>
    refine .bind (fun _ => ⟨rfl, rfl⟩) fun r => ?_
    cases r with
    | ok => exact .bind (samePanel_note _) fun _ => .pure _
    | error error => exact .pure _
  | deleteProfile name =>
    refine .bind (fun _ => ⟨rfl, rfl⟩) fun r => ?_
    cases r with
    | ok => exact .bind (samePanel_note _) fun _ => .pure _
    | error error => exact .pure _
  | applyProgram program =>
    have hexecute : Keeps SamePanel (execute toml around program) :=
      keeps_execute samePanel_note program (fun _ => ⟨rfl, rfl⟩) fun _ => ⟨rfl, rfl⟩
    refine .bind hexecute fun r => ?_
    cases r with
    | ok => exact .pure _
    | error error => exact .pure _
  | applyLighting command =>
    have hilluminate : Keeps SamePanel (illuminate toml command) :=
      keeps_illuminate samePanel_note command (fun _ => ⟨rfl, rfl⟩) fun _ => ⟨rfl, rfl⟩
    refine .bind hilluminate fun r => ?_
    cases r with
    | ok => exact .pure _
    | error error => exact .pure _

theorem samePanel_handle {request : Request} (h : ¬ Call.Shows (.request around request)) :
    Keeps SamePanel (handle toml around request) := by
  refine .bind (samePanel_dispatch h) fun response => ?_
  cases response with
  | error error => exact .bind (samePanel_note _) fun _ => .pure _
  | _ => exact .bind (.pure _) fun _ => .pure _

theorem tick_absent (h : around.snapshot.kraken.present = false) (machine : Machine Raw) :
    (tick around machine).2.daemon.display = machine.daemon.display.forget ∧
      (tick around machine).2.panel = machine.panel := by
  have hhealth : Keeps (@SamePanel Raw) (recordCollectorHealth around.snapshot) :=
    keeps_recordCollectorHealth samePanel_note (fun _ _ => ⟨rfl, rfl⟩) _
  unfold tick reconcile
  simp only [h, Bool.false_eq_true, not_false_eq_true, if_true, bind_apply, pure_apply]
  exact hhealth _

/-! ## The calls of an absence -/

/-- A tick that sees the device. -/
def Call.Sees : Call → Prop
  | .tick around => around.snapshot.kraken.present = true
  | _ => False

/-- A call of one of the daemon's own clocks. -/
def Call.IsClock : Call → Prop
  | .tick _ => True
  | .tickAnimation _ => True
  | _ => False

abbrev Turn (Raw : Type) := Faulty.Turn (Machine Raw) Call Reply

/-- No animation tick of this turn found a frame due. -/
def Quiet (t : Turn Raw) : Prop :=
  ∀ now, t.call = .tickAnimation now → ¬ t.before.daemon.display.FrameDue now

theorem turn_spares_panel {machine : Machine Raw} {call : Call} (habsent : ¬ call.Sees)
    (hshows : ¬ call.Shows) (hquiet : Quiet (turn (serve toml) machine call)) :
    let after := (turn (serve toml) machine call).after
    after.panel = machine.panel ∧
      (after.daemon.display.committed = machine.daemon.display.committed ∧
        after.daemon.display.brightness = machine.daemon.display.brightness ∨
      after.daemon.display.Blank) := by
  cases call with
  | request around request =>
    have hsame : SamePanel machine (handle toml around request machine).2 := samePanel_handle hshows machine
    exact ⟨hsame.2, .inl ⟨congrArg _ hsame.1, congrArg _ hsame.1⟩⟩
  | tick around =>
    obtain ⟨hdisplay, hpanel⟩ := tick_absent (Bool.eq_false_iff.mpr habsent) machine
    refine ⟨hpanel, .inr ?_⟩
    have hafter : (turn (serve toml) machine (.tick around)).after.daemon.display =
        machine.daemon.display.forget := hdisplay
    rw [hafter]
    exact ⟨rfl, rfl⟩
  | tickAnimation now =>
    obtain ⟨hdisplay, hpanel⟩ := DisplayExecutor.advanceAnimation_early (hquiet now rfl) machine.panel
    exact ⟨hpanel, .inl ⟨congrArg _ hdisplay, congrArg _ hdisplay⟩⟩
  | dropDisplayFrame => exact ⟨rfl, .inl ⟨rfl, rfl⟩⟩

end Machine

/-- From a tick that finds the device gone, until one that finds it again: when no animation tick
finds a frame due, neither clock sends anything to the panel or fills the record of it, and without
anything the operator puts there the record stays empty. -/
theorem absent_panel_left_alone (machine : Machine Raw) (first : Surroundings)
    (hgone : first.snapshot.kraken.present = false) (calls : List Machine.Call)
    (habsent : ∀ call ∈ calls, ¬ call.Sees)
    (hquiet : ∀ t ∈ turns (Machine.serve toml) machine (.tick first :: calls), Machine.Quiet t) :
    (∀ t ∈ turns (Machine.serve toml) machine (.tick first :: calls), t.call.IsClock →
      t.after.panel = t.before.panel ∧
        (t.after.daemon.display.committed = t.before.daemon.display.committed ∧
          t.after.daemon.display.brightness = t.before.daemon.display.brightness ∨
        t.after.daemon.display.Blank)) ∧
    ((∀ call ∈ calls, ¬ call.Shows) →
      ∀ t ∈ turns (Machine.serve toml) machine (.tick first :: calls), t.after.daemon.display.Blank) := by
  have hfirst : ¬ (Machine.Call.tick first).Sees := by
    intro h
    rw [Machine.Call.Sees, hgone] at h
    cases h
  constructor
  · intro t hmem hclock
    have hshows : ¬ t.call.Shows := by
      cases hcall : t.call <;> rw [hcall] at hclock <;> first | exact hclock.elim | exact id
    have hcall : t.call = .tick first ∨ t.call ∈ calls := List.mem_cons.mp (call_mem_of_mem_turns hmem)
    have hsees : ¬ t.call.Sees := hcall.elim (fun h => h ▸ hfirst) (habsent _)
    have hturn := eq_of_mem_turns hmem
    rw [← hturn]
    exact Machine.turn_spares_panel hsees hshows (hturn ▸ hquiet t hmem)
  · intro hshows
    have hblank : (turn (Machine.serve toml) machine (.tick first)).after.daemon.display.Blank := by
      have hafter : (turn (Machine.serve toml) machine (.tick first)).after.daemon.display =
          machine.daemon.display.forget := (Machine.tick_absent hgone machine).1
      rw [hafter]
      exact ⟨rfl, rfl⟩
    rw [turns, List.forall_mem_cons] at hquiet ⊢
    refine ⟨hblank, fun t hmem => ?_⟩
    refine (turns_invariant (fun machine : Machine Raw => machine.daemon.display.Blank)
      (fun t => t.call ∈ calls ∧ Machine.Quiet t) (fun machine call hblank hcond => ?_) calls hblank
      fun t hmem => ⟨call_mem_of_mem_turns hmem, hquiet.2 t hmem⟩).2 t hmem
    obtain ⟨-, hsame | hafter⟩ :=
      Machine.turn_spares_panel (habsent call hcond.1) (hshows call hcond.1) hcond.2
    · exact ⟨hsame.1.trans hblank.1, hsame.2.trans hblank.2⟩
    · exact hafter

/-- A machine that plays an animation. -/
def benchPlaying : Machine ConfigDocument :=
  (Machine.serve plainToml (.request (benchSurroundings true true) (.applyDisplay benchImage))
    (benchMachine (fun _ => false) (· == 0))).2

/-- Its device is found gone, and the animation ticks before its next frame is due. -/
theorem absent_panel_left_alone_playing :
    benchPlaying.daemon.display.isStreaming = true ∧ benchPlaying.daemon.display.animation.isSome = true ∧
    (turns (Machine.serve plainToml) benchPlaying [.tick (benchSurroundings false true), .tickAnimation 0]).length = 2 ∧
    ∀ t ∈ turns (Machine.serve plainToml) benchPlaying [.tick (benchSurroundings false true), .tickAnimation 0],
      t.after.panel = t.before.panel ∧ t.after.daemon.display.Blank := by
  have hlate : ¬ (turn (Machine.serve plainToml) benchPlaying
      (.tick (benchSurroundings false true))).after.daemon.display.FrameDue 0 := by
    rintro ⟨-, animation, hanimation, hdue⟩
    cases hanimation
    revert hdue
    decide +kernel
  obtain ⟨hspared, hblank⟩ := absent_panel_left_alone benchPlaying (benchSurroundings false true) rfl
    [.tickAnimation 0] (by simp [Machine.Call.Sees]) fun t hmem now hcall => by
      simp only [turns, List.mem_cons, List.not_mem_nil, or_false] at hmem
      rcases hmem with rfl | rfl
      · cases hcall
      · cases hcall
        exact hlate
  refine ⟨by decide +kernel, by decide +kernel, rfl, fun t hmem => ⟨(hspared t hmem ?_).1, hblank (by simp [Machine.Call.Shows]) t hmem⟩⟩
  simp only [turns, List.mem_cons, List.not_mem_nil, or_false] at hmem
  rcases hmem with rfl | rfl <;> trivial

theorem Machine.turn_frame_due {toml : Toml Raw} {machine : Machine Raw} {now : Instant} {preset : DisplayPreset}
    (hdue : machine.daemon.display.FrameDue now) (hactive : machine.daemon.display.active = some preset)
    (hbrightness : machine.daemon.display.brightness ≠ some preset.brightness) (hfault : machine.panel.faults 0 = none) :
    let t := turn (Machine.serve toml) machine (.tickAnimation now)
    (∃ met left, t.before.panel.log ++ [.issued (.setDisplay preset.brightness) true met left] <+: t.after.panel.log) ∧
      t.after.daemon.display.brightness = some preset.brightness := by
  obtain ⟨hsent, hlog⟩ := DisplayExecutor.advanceAnimation_due hdue hactive hbrightness hfault
  exact ⟨⟨_, _, hlog⟩, hsent⟩

/-- The tick that finds the device gone clears the fault and the record, and the next frame that is
due sends the brightness again. -/
theorem absent_panel_driven :
    Machine.Reachable plainToml benchPlaying ∧
    ∃ t ∈ turns (Machine.serve plainToml) benchPlaying
        [.tick (benchSurroundings false true), .tickAnimation (milliseconds 1000)],
      t.call.IsClock ∧
      (∃ met left, t.before.panel.log ++ [.issued (.setDisplay .FULL) true met left] <+:
        t.after.panel.log) ∧
      t.after.daemon.display.brightness = some .FULL := by
  refine ⟨.call _ (.start ..), _, List.mem_cons_of_mem _ List.mem_cons_self, trivial, ?_⟩
  have hactive : (turn (Machine.serve plainToml) benchPlaying
      (.tick (benchSurroundings false true))).after.daemon.display.active = some benchImage := by decide +kernel
  exact Machine.turn_frame_due ⟨by decide +kernel, _, rfl, by decide +kernel⟩ hactive (by decide +kernel) rfl

end Kori
