import Kori.Daemon.Display
import Kori.Faulty.Logic
import Kori.Faulty.Runs
import Kori.Faulty.Turns

/-! # Runs of the display executor, and the stream that stays stopped -/

open Faulty

namespace Kori

/-! ## The calls -/

abbrev DisplayRig := Rig DisplayExecutor Glass LcdCommand Empty Unit LcdFault

/-- What the daemon asks of the executor. While the panel is forgotten something else may write it. -/
inductive DisplayCall where
  | apply (renderer : Renderer) (preset : DisplayPreset) (samples : MetricSample × MetricSample)
  | refresh (renderer : Renderer) (samples : MetricSample × MetricSample)
  | advanceAnimation (now : Instant)
  | dropFrame
  | forget (found : Glass)

inductive DisplayAnswer where
  | applied (result : Except DisplayError DisplayOutcome)
  | refreshed (outcome : Option DisplayOutcome)
  | advanced (due : Option Instant)
  | done

abbrev DisplayTurn := Turn DisplayRig DisplayCall DisplayAnswer

namespace DisplayCall

/-- Serves one call. The log is that of the call. -/
def serve : DisplayCall → StateM DisplayRig DisplayAnswer
  | apply renderer preset samples => fun rig =>
    let r := (rig.owner.apply renderer preset samples).run lcd rig.world.fresh
    (.applied r.1.1, ⟨r.1.2, r.2⟩)
  | refresh renderer samples => fun rig =>
    let r := (rig.owner.refresh renderer samples).run lcd rig.world.fresh
    (.refreshed r.1.1, ⟨r.1.2, r.2⟩)
  | advanceAnimation now => fun rig =>
    let r := (rig.owner.advanceAnimation now).run lcd rig.world.fresh
    (.advanced r.1.1, ⟨r.1.2, r.2⟩)
  | dropFrame => fun rig => (.done, ⟨rig.owner.dropFrame, rig.world.fresh⟩)
  | forget found => fun rig => (.done, ⟨rig.owner.forget, { rig.world.fresh with state := found }⟩)

end DisplayCall

/-- A panel that answered its display report, or none. -/
def DisplayExecutor.probed : Option LcdPanel → DisplayExecutor
  | none => absent
  | some panel => connected panel

/-! ## One transfer -/

namespace DisplayExecutor

variable {self : DisplayExecutor} {preset : DisplayPreset} {frame : Frame} {w : LcdWorld}

/-- The picture the panel is recorded to show. -/
def Shows (self : DisplayExecutor) (frame : Frame) : Prop :=
  (self.committed.any fun entry => entry.frame = frame) = true

instance (self : DisplayExecutor) (frame : Frame) : Decidable (self.Shows frame) :=
  inferInstanceAs (Decidable (_ = true))

/-- A picture that is not the recorded one, and cannot be transferred. -/
def PictureFails (self : DisplayExecutor) (frame : Frame) (fault : Option LcdFault) : Prop :=
  ¬ self.Shows frame ∧ (frame.length ≠ FRAME_BYTES ∨ fault.isSome)

/-- The brightness report that is due fails, or the picture does. -/
def TransferFails (self : DisplayExecutor) (preset : DisplayPreset) (frame : Frame)
    (faults : Nat → Option LcdFault) : Prop :=
  self.link = true ∧ if self.brightness ≠ some preset.brightness
    then (faults 0).isSome ∨ self.PictureFails frame (faults 1)
    else self.PictureFails frame (faults 0)

theorem sendPicture_run (sent : Bool) : (self.sendPicture preset frame sent).run lcd w =
    if self.Shows frame then
      (({ preset, hardware := .confirmed, frames := 0, deduplicated := true, brightnessSent := sent }, self), w)
    else if frame.length ≠ FRAME_BYTES then
      (self.uncertain preset (.frameSize frame.length FRAME_BYTES) sent, w)
    else match w.faults 0 with
      | none =>
        (({ preset, hardware := .confirmed, frames := 1, deduplicated := false, brightnessSent := sent },
            { self with committed := some { preset, frame } }),
          w.spent (w.issued (.sendFrame frame) true { w.state with picture := frame }))
      | some fault => (self.uncertain preset fault.error sent,
          w.spent (w.issued (.sendFrame frame) false { w.state with picture := fault.picture })) := by
  unfold sendPicture
  by_cases hshows : self.Shows frame
  · rw [if_pos hshows]
    unfold Shows at hshows
    rw [if_pos hshows]
    rfl
  · rw [if_neg hshows]
    unfold Shows at hshows
    rw [if_neg hshows, run_bind, LcdLink.sendFrame]
    by_cases hsize : frame.length ≠ FRAME_BYTES
    · rw [if_pos hsize, if_pos hsize]
      rfl
    · rw [if_neg hsize, if_neg hsize]
      simp only [issue, Prog.run]
      cases w.faults 0 <;> rfl

theorem sendPicture_uncertain (sent : Bool) :
    ((self.sendPicture preset frame sent).run lcd w).1.1.hardware.isUncertain = true ↔
      self.PictureFails frame (w.faults 0) := by
  rw [sendPicture_run]
  unfold PictureFails
  split
  · rename_i hshows
    simp [hshows, HardwareState.isUncertain]
  · rename_i hshows
    split
    · rename_i hsize
      simp [hshows, hsize, uncertain, HardwareState.isUncertain]
    · rename_i hsize
      cases w.faults 0 <;> simp_all [uncertain, HardwareState.isUncertain]

theorem sendBytes_run (hlink : self.link = true) : (self.sendBytes preset frame).run lcd w =
    if self.brightness ≠ some preset.brightness then match w.faults 0 with
      | none => (({ self with brightness := some preset.brightness } : DisplayExecutor).sendPicture
          preset frame true).run lcd (w.spent (w.issued (.setDisplay preset.brightness) true
            { w.state with brightness := preset.brightness }))
      | some fault => (self.uncertain preset fault.error false,
          w.spent (w.issued (.setDisplay preset.brightness) false
            { w.state with brightness := fault.brightness }))
    else (self.sendPicture preset frame false).run lcd w := by
  unfold sendBytes
  rw [if_neg (by simp [hlink])]
  split
  · rw [run_bind]
    simp only [LcdLink.setDisplay, issue, Prog.run]
    cases w.faults 0 <;> rfl
  · rfl

theorem sendBytes_absent (hlink : self.link = false) :
    (self.sendBytes preset frame).run lcd w = ((absentOutcome preset, self), w) := by
  unfold sendBytes
  rw [if_pos (by simp [hlink])]
  rfl

theorem sendBytes_uncertain :
    ((self.sendBytes preset frame).run lcd w).1.1.hardware.isUncertain = true ↔
      self.TransferFails preset frame w.faults := by
  unfold TransferFails
  by_cases hlink : self.link = true
  · rw [sendBytes_run hlink, and_iff_right hlink]
    split
    · cases hfault : w.faults 0 with
      | none =>
        have hpicture : _ ↔ self.PictureFails frame (w.faults 1) :=
          @sendPicture_uncertain { self with brightness := some preset.brightness } preset frame
            (w.spent (w.issued (.setDisplay preset.brightness) true
              { w.state with brightness := preset.brightness })) true
        simp only [Option.isSome_none, Bool.false_eq_true, false_or]
        exact hpicture
      | some fault => simp [uncertain, HardwareState.isUncertain]
    · exact sendPicture_uncertain false
  · rw [sendBytes_absent (by simpa using hlink)]
    simp [hlink, absentOutcome, HardwareState.isUncertain]

theorem sendBytes_keeps : ∃ brightness committed,
    ((self.sendBytes preset frame).run lcd w).1.2 = { self with brightness, committed } := by
  have hpicture : ∀ (sender : DisplayExecutor) (sent : Bool) (w : LcdWorld), ∃ committed,
      ((sender.sendPicture preset frame sent).run lcd w).1.2 = { sender with committed } := by
    intro sender sent w
    rw [sendPicture_run]
    split
    · exact ⟨_, rfl⟩
    · split
      · exact ⟨_, rfl⟩
      · split
        · exact ⟨_, rfl⟩
        · exact ⟨_, rfl⟩
  by_cases hlink : self.link = true
  · rw [sendBytes_run hlink]
    split
    · split
      · obtain ⟨committed, h⟩ := hpicture { self with brightness := some preset.brightness } true
          (w.spent (w.issued (.setDisplay preset.brightness) true
            { w.state with brightness := preset.brightness }))
        exact ⟨_, _, h⟩
      · exact ⟨_, _, rfl⟩
    · obtain ⟨committed, h⟩ := hpicture self false w
      exact ⟨_, _, h⟩
  · rw [sendBytes_absent (by simpa using hlink)]
    exact ⟨_, _, rfl⟩

/-- The picture an application puts on the glass, when it has one. -/
def picture (renderer : Renderer) (preset : DisplayPreset) (samples : MetricSample × MetricSample)
    (panel : LcdPanel) : Option Frame :=
  if preset.mode.usesImage then
    (renderer.renderImageFrames preset panel).toOption.bind fun frames =>
      frames.head?.map AnimationFrame.bytes
  else (renderer.render preset samples panel).toOption

/-- What is recorded of the panel is the same. -/
structure SameRecord (before after : DisplayExecutor) : Prop where
  link : after.link = before.link
  panel : after.panel = before.panel
  committed : after.committed = before.committed
  brightness : after.brightness = before.brightness

theorem SameRecord.refl : self.SameRecord self := ⟨rfl, rfl, rfl, rfl⟩

end DisplayExecutor

open DisplayExecutor in
/-- What a call hands to the transfer, and the preset it belongs to. -/
def DisplayCall.sends (owner : DisplayExecutor) : DisplayCall → Option (DisplayPreset × Frame)
  | .apply renderer preset samples =>
    owner.panel.bind fun panel => (picture renderer preset samples panel).map (preset, ·)
  | .refresh renderer samples =>
    if ¬ owner.isStreaming ∨ owner.animation.isSome then none
    else owner.active.bind fun preset => owner.panel.bind fun panel =>
      (renderer.render preset samples panel).toOption.map (preset, ·)
  | .advanceAnimation now =>
    if ¬ owner.isStreaming then none
    else owner.animation.bind fun animation =>
      if now < animation.due then none
      else owner.active.map (·, (animation.catchUp now 0).1.current.bytes)
  | .dropFrame => none
  | .forget _ => none

namespace DisplayExecutor

variable {self : DisplayExecutor} {preset : DisplayPreset} {w : LcdWorld} {renderer : Renderer}
variable {samples : MetricSample × MetricSample}

/-- What compiling a preset and sending its picture leaves, when there is a picture and when not. -/
structure Launched (before : DisplayExecutor) (preset : DisplayPreset) (picture : Option Frame) (w : LcdWorld)
    (r : Except DisplayError (DisplayOutcome × DisplayExecutor) × LcdWorld) : Prop where
  nothing : picture = none →
    (∃ error, r = (.error error, w)) ∨ r = (.ok (absentOutcome preset, before), w)
  sent : ∀ frame, picture = some frame → ∃ animation,
    r.1 = .ok (((before.sendBytes preset frame).run lcd w).1.1,
      { ((before.sendBytes preset frame).run lcd w).1.2 with animation }) ∧
    r.2.toSeen = ((before.sendBytes preset frame).run lcd w).2.toSeen

theorem Launched.of_frame {before : DisplayExecutor} {frame : Frame} {animation : Option Animation}
    {r : Except DisplayError (DisplayOutcome × DisplayExecutor) × LcdWorld}
    (houtcome : r.1 = .ok (((before.sendBytes preset frame).run lcd w).1.1,
      { ((before.sendBytes preset frame).run lcd w).1.2 with animation }))
    (hseen : r.2.toSeen = ((before.sendBytes preset frame).run lcd w).2.toSeen) :
    before.Launched preset (some frame) w r := by
  refine ⟨nofun, fun other h => ?_⟩
  cases h
  exact ⟨animation, houtcome, hseen⟩

theorem send_launched (hmode : preset.mode.usesImage = false) : self.Launched preset
    (self.panel.bind fun panel => picture renderer preset samples panel) w
    ((self.send renderer preset samples).run lcd w) := by
  unfold send picture
  cases self.panel with
  | none => exact ⟨fun _ => .inr rfl, nofun⟩
  | some panel =>
    simp only [hmode, Option.bind_some, Bool.false_eq_true, if_false]
    cases renderer.render preset samples panel with
    | error error => exact ⟨fun _ => .inl ⟨error, rfl⟩, nofun⟩
    | ok frame =>
      refine @Launched.of_frame _ _ _ frame ((self.sendBytes preset frame).run lcd w).1.2.animation _ ?_ ?_
      · dsimp only
        rw [run_bind]
        rfl
      · dsimp only
        rw [run_bind]
        rfl

theorem startImage_launched (hmode : preset.mode.usesImage = true) : self.Launched preset
    (self.panel.bind fun panel => picture renderer preset samples panel) w
    ((self.startImage renderer preset).run lcd w) := by
  unfold startImage picture
  cases self.panel with
  | none => exact ⟨fun _ => .inr rfl, nofun⟩
  | some panel =>
    simp only [hmode, Option.bind_some, if_true]
    cases renderer.renderImageFrames preset panel with
    | error error => exact ⟨fun _ => .inl ⟨error, rfl⟩, nofun⟩
    | ok frames =>
      match frames with
      | [] => exact ⟨fun _ => .inr rfl, nofun⟩
      | [first] =>
        refine @Launched.of_frame _ _ _ first.bytes ((self.sendBytes preset first.bytes).run lcd w).1.2.animation _ ?_ ?_
        · dsimp only
          rw [run_bind]
          rfl
        · dsimp only
          rw [run_bind]
          rfl
      | first :: second :: rest =>
        let playing : Animation :=
          { frames := first :: second :: rest, cursor := ⟨0, Nat.zero_lt_succ _⟩
            due := ((self.sendBytes preset first.bytes).run lcd w).2.times 0 + first.delay }
        refine @Launched.of_frame _ _ _ first.bytes (some playing) _ ?_ ?_
        · dsimp only
          rw [run_bind, run_bind]
          rfl
        · dsimp only
          rw [run_bind, run_bind]
          rfl

/-- An application hands its picture to the transfer, with no fault and nothing playing. -/
structure Applied (before : DisplayExecutor) (preset : DisplayPreset) (picture : Option Frame) (w : LcdWorld)
    (r : (Except DisplayError DisplayOutcome × DisplayExecutor) × LcdWorld) : Prop where
  faulted : r.1.2.faulted = none
  nothing : picture = none → r.2 = w ∧ before.SameRecord r.1.2 ∧
    ∀ outcome, r.1.1 = .ok outcome → outcome = absentOutcome preset
  sent : ∀ frame, picture = some frame →
    let sent := (({ before with faulted := none, animation := none } : DisplayExecutor).sendBytes preset frame).run
      lcd w
    r.1.1 = .ok sent.1.1 ∧ r.2.toSeen = sent.2.toSeen ∧ sent.1.2.SameRecord r.1.2

theorem apply_applied : self.Applied preset
    (self.panel.bind fun panel => picture renderer preset samples panel) w
    ((self.apply renderer preset samples).run lcd w) := by
  have hlaunched : ({ self with faulted := none, animation := none } : DisplayExecutor).Launched preset
      (self.panel.bind fun panel => picture renderer preset samples panel) w
      (Prog.run lcd (if preset.mode.usesImage = true then
        ({ self with faulted := none, animation := none } : DisplayExecutor).startImage renderer preset
        else ({ self with faulted := none, animation := none } : DisplayExecutor).send renderer preset samples)
        w) := by
    by_cases hmode : preset.mode.usesImage = true
    · rw [if_pos hmode]
      exact startImage_launched hmode
    · rw [if_neg hmode]
      exact send_launched (by simpa using hmode)
  unfold apply
  dsimp only
  rw [run_bind]
  generalize (self.panel.bind fun panel => picture renderer preset samples panel) = picture at hlaunched ⊢
  obtain ⟨hnothing, hsent⟩ := hlaunched
  generalize Prog.run lcd (if preset.mode.usesImage = true then _ else _) w = r at hnothing hsent ⊢
  cases picture with
  | none =>
    rcases hnothing rfl with ⟨error, rfl⟩ | rfl
    · dsimp only
      rw [run_pure]
      refine ⟨rfl, fun _ => ⟨rfl, ⟨rfl, rfl, rfl, rfl⟩, fun outcome h => ?_⟩, fun frame h => ?_⟩
      · cases h
      · cases h
    · dsimp only
      rw [run_pure]
      refine ⟨rfl, fun _ => ⟨rfl, ⟨rfl, rfl, rfl, rfl⟩, fun outcome h => ?_⟩, fun frame h => ?_⟩
      · exact (Except.ok.inj h).symm
      · cases h
  | some frame =>
    obtain ⟨animation, hresult, hseen⟩ := hsent frame rfl
    obtain ⟨brightness, committed, hkept⟩ := @sendBytes_keeps
      { self with faulted := none, animation := none } preset frame w
    rw [hresult]
    refine ⟨?_, fun h => (nomatch h), fun frame' h => ?_⟩
    · change ((({ self with faulted := none, animation := none } : DisplayExecutor).sendBytes preset
        frame).run lcd w).1.2.faulted = none
      rw [hkept]
    · cases h
      exact ⟨rfl, hseen, rfl, rfl, rfl, rfl⟩

theorem refresh_idle (h : ¬ self.isStreaming = true ∨ self.animation.isSome = true) :
    (self.refresh renderer samples).run lcd w = ((none, self), w) := by
  unfold refresh
  rw [if_pos (by simpa using h)]
  rfl

theorem refresh_inactive (h : self.active = none) :
    (self.refresh renderer samples).run lcd w = ((none, self), w) := by
  unfold refresh
  rw [h]
  split <;> rfl

theorem panel_of_streaming (h : self.isStreaming = true) : ∃ panel, self.panel = some panel := by
  unfold isStreaming isConnected at h
  cases hpanel : self.panel with
  | none => simp [hpanel] at h
  | some panel => exact ⟨panel, rfl⟩

theorem send_run {panel : LcdPanel} (hpanel : self.panel = some panel) :
    (self.send renderer preset samples).run lcd w = match renderer.render preset samples panel with
      | .error error => (.error error, w)
      | .ok frame => (.ok ((self.sendBytes preset frame).run lcd w).1, ((self.sendBytes preset frame).run lcd w).2) := by
  unfold send
  split
  · rename_i hnone
    rw [hpanel] at hnone
    cases hnone
  · rename_i panel' hsome
    cases hpanel.symm.trans hsome
    cases renderer.render preset samples panel with
    | error error => rfl
    | ok frame =>
      dsimp only
      rw [run_bind]
      rfl

theorem refresh_due (hstreaming : self.isStreaming = true) (hidle : self.animation = none)
    (hactive : self.active = some preset) {panel : LcdPanel} (hpanel : self.panel = some panel) :
    (self.refresh renderer samples).run lcd w = match renderer.render preset samples panel with
      | .error error => ((none, { self with faulted := some error.display }), w)
      | .ok frame =>
        let sent := (self.sendBytes preset frame).run lcd w
        ((some sent.1.1, sent.1.2.stopIfUncertain sent.1.1), sent.2) := by
  unfold refresh
  rw [if_neg (by simp [hstreaming, hidle])]
  split
  · rename_i hnone
    rw [hactive] at hnone
    cases hnone
  · rename_i preset' hsome
    cases hactive.symm.trans hsome
    rw [run_bind, send_run hpanel]
    cases renderer.render preset samples panel <;> rfl

theorem advanceAnimation_idle {now : Instant} (h : self.isStreaming = true → ∀ animation,
    self.animation = some animation → now < animation.due) :
    ∃ due, (self.advanceAnimation now).run lcd w = ((due, self), w) ∧
      (self.isStreaming = true → self.animation.isSome = true → due.isSome = true) := by
  unfold advanceAnimation
  split
  · rename_i hstreaming
    exact ⟨none, rfl, fun h => (hstreaming h).elim⟩
  · rename_i hstreaming
    split
    · rename_i hnone
      refine ⟨none, rfl, fun _ hsome => ?_⟩
      rw [hnone] at hsome
      cases hsome
    · rename_i animation hanimation
      rw [if_pos (h (not_not.mp hstreaming) animation hanimation)]
      exact ⟨some animation.due, rfl, fun _ _ => rfl⟩

theorem dropFrames_record (self : DisplayExecutor) (n : Nat) : self.SameRecord (self.dropFrames n) := by
  induction n generalizing self with
  | zero => exact .refl
  | succ n ih =>
    obtain ⟨hlink, hpanel, hcommitted, hbrightness⟩ := ih self.dropFrame
    exact ⟨hlink, hpanel, hcommitted, hbrightness⟩

theorem advanceAnimation_run {now : Instant} {animation : Animation}
    (hstreaming : self.isStreaming = true) (hanimation : self.animation = some animation)
    (hdue : ¬ now < animation.due) (hactive : self.active = some preset) :
    let sent := ((({ self with animation := some (animation.catchUp now 0).1 } :
      DisplayExecutor).dropFrames (animation.catchUp now 0).2).sendBytes preset
        (animation.catchUp now 0).1.current.bytes).run lcd w
    (self.advanceAnimation now).run lcd w = if sent.1.1.hardware.isUncertain = true
      then ((none, sent.1.2.stopIfUncertain sent.1.1), sent.2)
      else ((some (animation.catchUp now 0).1.due, sent.1.2), sent.2) := by
  unfold advanceAnimation
  rw [if_neg (not_not.mpr hstreaming), hanimation]
  dsimp only
  rw [if_neg hdue, hactive]
  dsimp only
  rw [run_bind]
  split <;> rfl

theorem advanceAnimation_sends {now : Instant} {animation : Animation} (hstreaming : self.isStreaming = true)
    (hanimation : self.animation = some animation) (hdue : ¬ now < animation.due)
    (hactive : self.active = some preset) : ∃ sender, self.SameRecord sender ∧
      let sent := (sender.sendBytes preset (animation.catchUp now 0).1.current.bytes).run lcd w
      (self.advanceAnimation now).run lcd w = if sent.1.1.hardware.isUncertain = true
        then ((none, sent.1.2.stopIfUncertain sent.1.1), sent.2)
        else ((some (animation.catchUp now 0).1.due, sent.1.2), sent.2) := by
  obtain ⟨hlink, hpanel, hcommitted, hbrightness⟩ := dropFrames_record
    { self with animation := some (animation.catchUp now 0).1 } (animation.catchUp now 0).2
  exact ⟨_, ⟨hlink, hpanel, hcommitted, hbrightness⟩, advanceAnimation_run hstreaming hanimation hdue hactive⟩

theorem stopIfUncertain_record (outcome : DisplayOutcome) :
    self.SameRecord (self.stopIfUncertain outcome) := by
  unfold stopIfUncertain
  split <;> exact ⟨rfl, rfl, rfl, rfl⟩

theorem stopIfUncertain_faulted {outcome : DisplayOutcome} (h : outcome.hardware.isUncertain = true) :
    (self.stopIfUncertain outcome).faulted.isSome = true := by
  unfold stopIfUncertain
  cases hhardware : outcome.hardware with
  | uncertain reason => rfl
  | confirmed => rw [hhardware] at h; cases h
  | onboard => rw [hhardware] at h; cases h
  | notApplied reason => rw [hhardware] at h; cases h

end DisplayExecutor

/-! ## One turn -/

theorem turn_apply (rig : DisplayRig) (renderer : Renderer) (preset : DisplayPreset)
    (samples : MetricSample × MetricSample) :
    turn DisplayCall.serve rig (.apply renderer preset samples) =
      let r := (rig.owner.apply renderer preset samples).run lcd rig.world.fresh
      ⟨rig, .apply renderer preset samples, .applied r.1.1, ⟨r.1.2, r.2⟩⟩ := rfl

theorem turn_refresh (rig : DisplayRig) (renderer : Renderer) (samples : MetricSample × MetricSample) :
    turn DisplayCall.serve rig (.refresh renderer samples) =
      let r := (rig.owner.refresh renderer samples).run lcd rig.world.fresh
      ⟨rig, .refresh renderer samples, .refreshed r.1.1, ⟨r.1.2, r.2⟩⟩ := rfl

theorem turn_advanceAnimation (rig : DisplayRig) (now : Instant) :
    turn DisplayCall.serve rig (.advanceAnimation now) =
      let r := (rig.owner.advanceAnimation now).run lcd rig.world.fresh
      ⟨rig, .advanceAnimation now, .advanced r.1.1, ⟨r.1.2, r.2⟩⟩ := rfl

open DisplayExecutor in
/-- What a turn does to the panel is one transfer, made by an executor with the record of before. -/
structure Transfers (t : DisplayTurn) : Prop where
  nothing : t.call.sends t.before.owner = none →
    t.after.world.toSeen = t.before.world.fresh.toSeen ∧ t.before.owner.SameRecord t.after.owner ∧
    ∀ renderer preset samples outcome, t.call = .apply renderer preset samples →
      t.answer = .applied (.ok outcome) → outcome = absentOutcome preset
  sent : ∀ preset frame, t.call.sends t.before.owner = some (preset, frame) →
    ∃ sender, t.before.owner.SameRecord sender ∧
      let sent := (sender.sendBytes preset frame).run lcd t.before.world.fresh
      t.after.world.toSeen = sent.2.toSeen ∧ sent.1.2.SameRecord t.after.owner ∧
      ∀ renderer samples, t.call = .apply renderer preset samples → t.answer = .applied (.ok sent.1.1)

section Transfers

open DisplayExecutor

variable {rig : DisplayRig} {call : DisplayCall}

theorem transfers_of_silent (hcall : ∀ renderer preset samples, call ≠ .apply renderer preset samples)
    (hsends : call.sends rig.owner = none)
    (hseen : (turn DisplayCall.serve rig call).after.world.toSeen = rig.world.fresh.toSeen)
    (hrecord : rig.owner.SameRecord (turn DisplayCall.serve rig call).after.owner) :
    Transfers (turn DisplayCall.serve rig call) :=
  ⟨fun _ => ⟨hseen, hrecord, fun _ _ _ _ h => (hcall _ _ _ h).elim⟩, fun _ _ hsome => nomatch hsends.symm.trans hsome⟩

theorem transfers_of_sent {preset : DisplayPreset} {frame : Frame} {sender : DisplayExecutor}
    (hcall : ∀ renderer preset samples, call ≠ .apply renderer preset samples)
    (hsends : call.sends rig.owner = some (preset, frame)) (hsender : rig.owner.SameRecord sender)
    (hseen : (turn DisplayCall.serve rig call).after.world.toSeen =
      ((sender.sendBytes preset frame).run lcd rig.world.fresh).2.toSeen)
    (hrecord : ((sender.sendBytes preset frame).run lcd rig.world.fresh).1.2.SameRecord
      (turn DisplayCall.serve rig call).after.owner) :
    Transfers (turn DisplayCall.serve rig call) := by
  refine ⟨fun hnone => (nomatch hsends.symm.trans hnone), fun preset' frame' hsome => ?_⟩
  cases hsends.symm.trans hsome
  exact ⟨sender, hsender, hseen, hrecord, fun _ _ h => (hcall _ _ _ h).elim⟩

theorem apply_transfers (renderer : Renderer) (preset : DisplayPreset) (samples : MetricSample × MetricSample) :
    Transfers (turn DisplayCall.serve rig (.apply renderer preset samples)) := by
  have happlied := @apply_applied rig.owner preset rig.world.fresh renderer samples
  have hsends : (DisplayCall.apply renderer preset samples).sends rig.owner =
      (rig.owner.panel.bind fun panel => picture renderer preset samples panel).map (preset, ·) := by
    rw [Option.map_bind]
    rfl
  refine ⟨fun hnone => ?_, fun preset' frame hsome => ?_⟩
  · obtain ⟨hworld, hrecord, habsent⟩ := happlied.nothing (Option.map_eq_none_iff.mp (hsends.symm.trans hnone))
    refine ⟨congrArg World.toSeen hworld, hrecord, fun _ _ _ outcome hcall hanswer => ?_⟩
    cases hcall
    exact habsent outcome (DisplayAnswer.applied.inj hanswer)
  · obtain ⟨frame', hpicture, heq⟩ := Option.map_eq_some_iff.mp (hsends.symm.trans hsome)
    cases heq
    obtain ⟨hanswer, hseen, hrecord⟩ := happlied.sent frame hpicture
    exact ⟨{ rig.owner with faulted := none, animation := none }, ⟨rfl, rfl, rfl, rfl⟩, hseen, hrecord,
      fun _ _ _ => congrArg DisplayAnswer.applied hanswer⟩

theorem refresh_transfers (renderer : Renderer) (samples : MetricSample × MetricSample) :
    Transfers (turn DisplayCall.serve rig (.refresh renderer samples)) := by
  by_cases hidle : ¬ rig.owner.isStreaming = true ∨ rig.owner.animation.isSome = true
  · refine transfers_of_silent (by simp) (if_pos (by simpa using hidle)) ?_ ?_
    · rw [turn_refresh, refresh_idle hidle]
    · rw [turn_refresh, refresh_idle hidle]
      exact .refl
  · obtain ⟨hstreaming, hstill⟩ := not_or.mp hidle
    rw [not_not] at hstreaming
    obtain ⟨panel, hpanel⟩ := panel_of_streaming hstreaming
    have hsends : (DisplayCall.refresh renderer samples).sends rig.owner =
        rig.owner.active.bind fun preset => rig.owner.panel.bind fun panel =>
          (renderer.render preset samples panel).toOption.map (preset, ·) := if_neg (by simpa using hidle)
    rw [hpanel] at hsends
    cases hactive : rig.owner.active with
    | none =>
      rw [hactive] at hsends
      refine transfers_of_silent (by simp) hsends ?_ ?_
      · rw [turn_refresh, refresh_inactive hactive]
      · rw [turn_refresh, refresh_inactive hactive]
        exact .refl
    | some preset =>
      rw [hactive] at hsends
      have hrun := @refresh_due rig.owner preset rig.world.fresh renderer samples hstreaming (by simpa using hstill)
        hactive panel hpanel
      cases hrender : renderer.render preset samples panel with
      | error error =>
        simp only [hrender, Option.bind_some, Except.toOption, Option.map_none] at hsends
        rw [hrender] at hrun
        refine transfers_of_silent (by simp) hsends ?_ ?_
        · rw [turn_refresh, hrun]
        · rw [turn_refresh, hrun]
          exact ⟨rfl, rfl, rfl, rfl⟩
      | ok frame =>
        simp only [hrender, Option.bind_some, Except.toOption, Option.map_some] at hsends
        rw [hrender] at hrun
        refine transfers_of_sent (by simp) hsends .refl ?_ ?_
        · rw [turn_refresh, hrun]
        · rw [turn_refresh, hrun]
          exact stopIfUncertain_record _

theorem advanceAnimation_transfers (now : Instant) :
    Transfers (turn DisplayCall.serve rig (.advanceAnimation now)) := by
  by_cases hdue : rig.owner.isStreaming = true ∧
      ∃ animation, rig.owner.animation = some animation ∧ ¬ now < animation.due
  · obtain ⟨hstreaming, animation, hanimation, hdue⟩ := hdue
    have hsends : (DisplayCall.advanceAnimation now).sends rig.owner =
        rig.owner.active.map (·, (animation.catchUp now 0).1.current.bytes) := by
      unfold DisplayCall.sends
      dsimp only
      rw [if_neg (not_not.mpr hstreaming), hanimation, Option.bind_some, if_neg hdue]
    cases hactive : rig.owner.active with
    | none =>
      rw [hactive] at hsends
      have hrun : (rig.owner.advanceAnimation now).run lcd rig.world.fresh =
          ((none, { rig.owner with animation := some (animation.catchUp now 0).1 }), rig.world.fresh) := by
        unfold DisplayExecutor.advanceAnimation
        rw [if_neg (not_not.mpr hstreaming), hanimation]
        dsimp only
        rw [if_neg hdue, hactive]
        rfl
      refine transfers_of_silent (by simp) hsends ?_ ?_
      · rw [turn_advanceAnimation, hrun]
      · rw [turn_advanceAnimation, hrun]
        exact ⟨rfl, rfl, rfl, rfl⟩
    | some preset =>
      rw [hactive] at hsends
      obtain ⟨sender, hrecord, hsent⟩ := @advanceAnimation_sends rig.owner preset rig.world.fresh now animation
        hstreaming hanimation hdue hactive
      refine transfers_of_sent (by simp) hsends hrecord ?_ ?_
      · rw [turn_advanceAnimation, hsent]
        dsimp only
        split <;> rfl
      · rw [turn_advanceAnimation, hsent]
        dsimp only
        split
        · exact stopIfUncertain_record _
        · exact .refl
  · have hidle : rig.owner.isStreaming = true → ∀ animation, rig.owner.animation = some animation →
        now < animation.due := by
      intro hstreaming animation hanimation
      by_contra hlate
      exact hdue ⟨hstreaming, animation, hanimation, hlate⟩
    have hsends : (DisplayCall.advanceAnimation now).sends rig.owner = none := by
      unfold DisplayCall.sends
      dsimp only
      split
      · rfl
      · rename_i hstreaming
        cases hanimation : rig.owner.animation with
        | none => rfl
        | some animation => exact if_pos (hidle (not_not.mp hstreaming) animation hanimation)
    obtain ⟨due, hadvance, -⟩ := @advanceAnimation_idle rig.owner rig.world.fresh now hidle
    refine transfers_of_silent (by simp) hsends ?_ ?_
    · rw [turn_advanceAnimation, hadvance]
    · rw [turn_advanceAnimation, hadvance]
      exact .refl

theorem DisplayCall.serve_transfers (rig : DisplayRig) (call : DisplayCall)
    (hforget : ∀ found, call ≠ .forget found) : Transfers (turn DisplayCall.serve rig call) := by
  cases call with
  | apply renderer preset samples => exact apply_transfers renderer preset samples
  | refresh renderer samples => exact refresh_transfers renderer samples
  | advanceAnimation now => exact advanceAnimation_transfers now
  | dropFrame => exact transfers_of_silent (by simp) rfl rfl ⟨rfl, rfl, rfl, rfl⟩
  | forget found => exact absurd rfl (hforget found)

end Transfers

end Kori
