import Kori.Daemon.Display.Runs
import Kori.Timeline

/-!
# An animation plays its table over and over

Each frame has its interval in an endless repetition of the table, begun when the first picture
went out.
-/

open Faulty

namespace Kori

open Timeline (start Within start_mono origin_le_start within_unique start_add_mul_le)

/-! ## The repetition -/

/-- How long the frame of an interval stays. -/
def cycleDelay (frames : List AnimationFrame) (k : Nat) : Nat :=
  (frames[k % frames.length]?.map AnimationFrame.delay).getD 0

/-- The picture of an interval. -/
def cyclePicture (frames : List AnimationFrame) (k : Nat) : Frame :=
  (frames[k % frames.length]?.map AnimationFrame.bytes).getD []

theorem le_cycleDelay {frames : List AnimationFrame} (h : 0 < frames.length) (k : Nat) :
    milliseconds MIN_FRAME_DELAY_MS ≤ cycleDelay frames k := by
  unfold cycleDelay
  rw [List.getElem?_eq_getElem (Nat.mod_lt k h)]
  exact (frames.get ⟨k % frames.length, Nat.mod_lt k h⟩).minimum

namespace Animation

/-- The panel is in an interval of the repetition, and the next frame is due at its end. -/
structure At (animation : Animation) (table : List AnimationFrame) (origin k : Nat) : Prop where
  frames : animation.frames = table
  cursor : animation.cursor.val = k % table.length
  due : animation.due = start (cycleDelay table) origin (k + 1)

variable {animation : Animation} {frames : List AnimationFrame} {origin k : Nat}

theorem At.length_pos (h : animation.At frames origin k) : 0 < frames.length := by
  rw [← h.frames]
  exact Nat.zero_lt_of_lt animation.cursor.isLt

theorem At.current (h : animation.At frames origin k) :
    animation.current.bytes = cyclePicture frames k := by
  obtain ⟨rfl, hcursor, -⟩ := h
  unfold cyclePicture Animation.current
  rw [← hcursor, List.getElem?_eq_getElem animation.cursor.isLt]
  rfl

theorem At.next (h : animation.At frames origin k) : animation.next.At frames origin (k + 1) := by
  obtain ⟨rfl, hcursor, hdue⟩ := h
  have hcursor' : animation.next.cursor.val = (k + 1) % animation.frames.length := by
    have hval : animation.next.cursor.val = (animation.cursor.val + 1) % animation.frames.length := rfl
    rw [hval, hcursor, Nat.mod_add_mod]
  refine ⟨rfl, hcursor', ?_⟩
  have hdelay : cycleDelay animation.frames (k + 1) =
      (animation.frames.get animation.next.cursor).delay := by
    unfold cycleDelay
    have hlt : animation.next.cursor.val < animation.frames.length := animation.next.cursor.isLt
    rw [← hcursor', List.getElem?_eq_getElem hlt]
    rfl
  have hstart : start (cycleDelay animation.frames) origin (k + 1 + 1) =
      start (cycleDelay animation.frames) origin (k + 1) + cycleDelay animation.frames (k + 1) := rfl
  rw [hstart, hdelay, ← hdue]
  rfl

theorem At.catchUp {now skipped : Nat} (h : animation.At frames origin k)
    (hdue : ¬ now < animation.due) (hskipped : skipped < UInt32.size) :
    ∃ n, (animation.catchUp now skipped).1.At frames origin (k + 1 + n) ∧
      Within (cycleDelay frames) origin (k + 1 + n) now ∧
      (animation.catchUp now skipped).2 = (skipped + n) % UInt32.size := by
  induction animation, skipped using catchUp.induct now generalizing k with
  | case1 animation skipped hearly =>
    have hnext := h.next
    unfold catchUp
    rw [if_pos hearly]
    refine ⟨0, hnext, ⟨?_, ?_⟩, (Nat.mod_eq_of_lt hskipped).symm⟩
    · rw [Nat.add_zero, ← h.due]
      exact Nat.not_lt.mp hdue
    · rw [Nat.add_zero, ← hnext.due]
      exact hearly
  | case2 animation skipped hlate ih =>
    have hmod : (skipped + 1) % UInt32.size < UInt32.size := Nat.mod_lt _ (by decide)
    obtain ⟨n, hat, hwithin, hcount⟩ := ih h.next hlate hmod
    have hindex : k + 1 + 1 + n = k + 1 + (n + 1) := by omega
    rw [hindex] at hat hwithin
    unfold catchUp
    rw [if_neg hlate]
    refine ⟨n + 1, hat, hwithin, ?_⟩
    rw [hcount, Nat.mod_add_mod]
    congr 1
    omega

end Animation

/-! ## One call -/

/-- A count some more were added to, up to the largest count there is. -/
def counted (dropped n : Nat) : Nat := if n = 0 then dropped else min (dropped + n) (UInt64.size - 1)

theorem counted_zero (dropped : Nat) : counted dropped 0 = dropped := rfl

namespace DisplayExecutor

variable {self : DisplayExecutor} {preset : DisplayPreset} {frame : Frame} {w : LcdWorld}

/-- The glass shows the recorded picture. -/
def Pictured (record : DisplayExecutor) (glass : Glass) : Prop :=
  ∀ entry, record.committed = some entry → glass.picture = entry.frame

theorem sendPicture_pictured (h : self.Pictured w.state) (sent : Bool) :
    let r := (self.sendPicture preset frame sent).run lcd w
    r.1.2.Pictured r.2.state ∧ (r.1.1.hardware.isUncertain = false → r.2.state.picture = frame) := by
  dsimp only
  rw [sendPicture_run]
  split
  · rename_i hshows
    obtain ⟨entry, hentry, hframe⟩ := Option.any_eq_true .. |>.mp hshows
    refine ⟨h, fun _ => ?_⟩
    rw [h entry hentry]
    exact of_decide_eq_true hframe
  · split
    · refine ⟨fun entry hentry => ?_, fun hsure => ?_⟩
      · cases hentry
      simp [uncertain, HardwareState.isUncertain] at hsure
    · split
      · refine ⟨fun entry hentry => ?_, fun _ => rfl⟩
        cases hentry
        rfl
      · refine ⟨fun entry hentry => ?_, fun hsure => ?_⟩
        · cases hentry
        simp [uncertain, HardwareState.isUncertain] at hsure

theorem sendBytes_pictured (h : self.Pictured w.state) :
    let r := (self.sendBytes preset frame).run lcd w
    r.1.2.Pictured r.2.state ∧ (self.link = true → r.1.1.hardware.isUncertain = false →
      r.2.state.picture = frame) := by
  dsimp only
  by_cases hlink : self.link = true
  · rw [sendBytes_run hlink]
    split
    · split
      · obtain ⟨hpictured, hsent⟩ := @sendPicture_pictured
          { self with brightness := some preset.brightness } preset frame
          (w.spent (w.issued (.setDisplay preset.brightness) true
            { w.state with brightness := preset.brightness })) h true
        exact ⟨hpictured, fun _ => hsent⟩
      · refine ⟨fun entry hentry => (nomatch hentry), fun _ hsure => ?_⟩
        simp [uncertain, HardwareState.isUncertain] at hsure
    · obtain ⟨hpictured, hsent⟩ := @sendPicture_pictured self preset frame w h false
      exact ⟨hpictured, fun _ => hsent⟩
  · rw [sendBytes_absent (by simpa using hlink)]
    exact ⟨h, fun hlinked => absurd hlinked hlink⟩

theorem sendPicture_confirmed {sent : Bool}
    (hsure : ((self.sendPicture preset frame sent).run lcd w).1.1.hardware.isUncertain = false) :
    ((self.sendPicture preset frame sent).run lcd w).1.1.hardware = .confirmed := by
  revert hsure
  rw [sendPicture_run]
  split
  · exact fun _ => rfl
  · split
    · exact fun h => nomatch h
    · split
      · exact fun _ => rfl
      · exact fun h => nomatch h

theorem sendBytes_confirmed (hlink : self.link = true)
    (hsure : ¬ self.TransferFails preset frame w.faults) :
    ((self.sendBytes preset frame).run lcd w).1.1.hardware = .confirmed := by
  rw [← sendBytes_uncertain, Bool.not_eq_true, sendBytes_run hlink] at hsure
  rw [sendBytes_run hlink]
  revert hsure
  split
  · split
    · exact sendPicture_confirmed
    · exact fun h => nomatch h
  · exact sendPicture_confirmed

theorem sendPicture_times {sent : Bool} :
    ((self.sendPicture preset frame sent).run lcd w).2.times = w.times := by
  rw [sendPicture_run]
  split
  · rfl
  · split
    · rfl
    · split
      · rfl
      · rfl

theorem sendBytes_times : ((self.sendBytes preset frame).run lcd w).2.times = w.times := by
  by_cases hlink : self.link = true
  · rw [sendBytes_run hlink]
    split
    · split
      · exact sendPicture_times
      · rfl
    · exact sendPicture_times
  · rw [sendBytes_absent (by simpa using hlink)]

theorem dropFrames_count (n : Nat) :
    self.dropFrames n = { self with dropped := counted self.dropped n } := by
  induction n generalizing self with
  | zero => rfl
  | succ n ih =>
    have hrest : self.dropFrames (n + 1) = self.dropFrame.dropFrames n := rfl
    rw [hrest, ih]
    simp only [dropFrame, counted, Nat.succ_ne_zero, if_false]
    congr 1
    split
    · rename_i hzero
      rw [hzero]
    · omega

end DisplayExecutor

/-- The panel plays a table, and shows the frame of the interval it is in. -/
structure Playing (frames : List AnimationFrame) (origin : Nat) (preset : DisplayPreset) (k : Nat)
    (rig : DisplayRig) : Prop where
  streaming : rig.owner.isStreaming = true
  active : rig.owner.active = some preset
  animation : ∃ animation, rig.owner.animation = some animation ∧ animation.At frames origin k
  pictured : rig.owner.Pictured rig.world.state
  shown : rig.world.state.picture = cyclePicture frames k

/-- Nothing the call had to send failed. -/
def Delivered (t : DisplayTurn) : Prop :=
  ∀ preset frame, t.call.sends t.before.owner = some (preset, frame) →
    ¬ t.before.owner.TransferFails preset frame t.before.world.faults

/-- From one interval to another: the picture of that one is on the glass, its end is the answer,
nothing goes out before it is due, and the intervals passed over are counted. -/
structure Moves (frames : List AnimationFrame) (origin now j k : Nat) (t : DisplayTurn) : Prop where
  forward : j ≤ k
  shown : t.after.world.state.picture = cyclePicture frames k
  answer : t.answer = .advanced (some (start (cycleDelay frames) origin (k + 1)))
  later : now < start (cycleDelay frames) origin (k + 1)
  early : now < start (cycleDelay frames) origin (j + 1) → k = j ∧ t.after.world.log = []
  counted : k - j - 1 < UInt32.size →
    t.after.owner.dropped = counted t.before.owner.dropped (k - j - 1)
  walked : (k - j - 1) * milliseconds MIN_FRAME_DELAY_MS ≤ now - start (cycleDelay frames) origin (j + 1)

/-- What a call makes of a table that plays: it plays on, in the interval of the call if the frame on
the glass was over, and the intervals passed over are counted modulo 2^32. -/
structure Advances (frames : List AnimationFrame) (preset : DisplayPreset) (origin now j k : Nat)
    (t : DisplayTurn) : Prop where
  playing : Playing frames origin preset k t.after
  moves : Moves frames origin now j k t
  within : ¬ now < start (cycleDelay frames) origin (j + 1) → Within (cycleDelay frames) origin k now
  dropped : t.after.owner.dropped = counted t.before.owner.dropped ((k - j - 1) % UInt32.size)

namespace Playing

open DisplayExecutor

variable {frames : List AnimationFrame} {preset : DisplayPreset} {origin j now : Nat} {rig : DisplayRig}

theorem stays (h : Playing frames origin preset j rig) (hearly : now < start (cycleDelay frames) origin (j + 1)) :
    Advances frames preset origin now j j (turn DisplayCall.serve rig (.advanceAnimation now)) := by
  obtain ⟨hstreaming, hactive, ⟨animation, hanimation, hat⟩, hpictured, hshown⟩ := h
  rw [← hat.due] at hearly
  have hturn : turn DisplayCall.serve rig (.advanceAnimation now) =
      ⟨rig, .advanceAnimation now, .advanced (some animation.due), ⟨rig.owner, rig.world.fresh⟩⟩ := by
    rw [turn_advanceAnimation]
    unfold advanceAnimation
    rw [if_neg (not_not.mpr hstreaming), hanimation]
    dsimp only
    rw [if_pos hearly]
    rfl
  have hnone : j - j - 1 = 0 := by omega
  rw [hturn]
  constructor
  case playing => exact ⟨hstreaming, hactive, ⟨animation, hanimation, hat⟩, hpictured, hshown⟩
  case moves =>
    refine ⟨le_rfl, hshown, ?_, ?_, fun _ => ⟨rfl, rfl⟩, fun _ => ?_, ?_⟩
    · rw [hat.due]
    · rw [← hat.due]
      exact hearly
    · rw [hnone]
      rfl
    · rw [hnone, Nat.zero_mul]
      exact Nat.zero_le _
  case within =>
    rw [← hat.due]
    exact fun hlate => absurd hearly hlate
  case dropped =>
    rw [hnone]
    rfl

theorem sends (h : Playing frames origin preset j rig) (hlate : ¬ now < start (cycleDelay frames) origin (j + 1))
    (hdelivered : Delivered (turn DisplayCall.serve rig (.advanceAnimation now))) :
    let t := turn DisplayCall.serve rig (.advanceAnimation now)
    ∃ n animation brightness committed, animation.At frames origin (j + 1 + n) ∧
      Within (cycleDelay frames) origin (j + 1 + n) now ∧
      t.after.owner = { rig.owner with
        animation := some animation, dropped := counted rig.owner.dropped (n % UInt32.size), brightness, committed } ∧
      t.after.owner.Pictured t.after.world.state ∧
      t.after.world.state.picture = cyclePicture frames (j + 1 + n) ∧
      t.answer = .advanced (some animation.due) := by
  intro t
  obtain ⟨hstreaming, hactive, ⟨animation, hanimation, hat⟩, hpictured, -⟩ := h
  rw [← hat.due] at hlate
  obtain ⟨n, hat', hwithin, hcount⟩ := @Animation.At.catchUp animation frames origin j now 0 hat hlate (by decide)
  rw [Nat.zero_add] at hcount
  have hrun := @advanceAnimation_run rig.owner preset rig.world.fresh now animation hstreaming
    hanimation hlate hactive
  rw [dropFrames_count, hcount] at hrun
  have hsends : (DisplayCall.advanceAnimation now).sends rig.owner =
      some (preset, (animation.catchUp now 0).1.current.bytes) := by
    unfold DisplayCall.sends
    dsimp only
    rw [if_neg (not_not.mpr hstreaming), hanimation, Option.bind_some, if_neg hlate, hactive]
    rfl
  generalize hsender : ({ rig.owner with
    animation := some (animation.catchUp now 0).1
    dropped := counted rig.owner.dropped (n % UInt32.size) } : DisplayExecutor) = sender
    at hrun
  have hlinked : sender.link = true := by
    rw [← hsender]
    by_contra hlink
    simp [isStreaming, isConnected, hlink] at hstreaming
  have huncertain : ((sender.sendBytes preset (animation.catchUp now 0).1.current.bytes).run lcd
      rig.world.fresh).1.1.hardware.isUncertain = false := by
    rw [Bool.eq_false_iff, ne_eq, sendBytes_uncertain, ← hsender]
    exact hdelivered _ _ hsends
  obtain ⟨hafter, hglass⟩ := @sendBytes_pictured sender preset (animation.catchUp now 0).1.current.bytes
    rig.world.fresh (by rw [← hsender]; exact hpictured)
  obtain ⟨brightness, committed, hkeeps⟩ := @sendBytes_keeps sender preset
    (animation.catchUp now 0).1.current.bytes rig.world.fresh
  dsimp only at hrun
  rw [if_neg (by rw [huncertain]; decide)] at hrun
  have hturn : t = _ := turn_advanceAnimation ..
  rw [hrun] at hturn
  have howner : t.after.owner = { sender with brightness, committed } := by
    rw [hturn]
    exact hkeeps
  have hworld : t.after.world =
      ((sender.sendBytes preset (animation.catchUp now 0).1.current.bytes).run lcd rig.world.fresh).2 := by
    rw [hturn]
  refine ⟨n, _, brightness, committed, hat', hwithin, ?_, ?_, ?_, ?_⟩
  · rw [howner, ← hsender]
  · rw [hworld, howner, ← hkeeps]
    exact hafter
  · rw [hworld]
    exact (hglass hlinked huncertain).trans hat'.current
  · rw [hturn]

theorem advances (h : Playing frames origin preset j rig) (hlate : ¬ now < start (cycleDelay frames) origin (j + 1))
    (hdelivered : Delivered (turn DisplayCall.serve rig (.advanceAnimation now))) :
    ∃ k, Advances frames preset origin now j k (turn DisplayCall.serve rig (.advanceAnimation now)) := by
  obtain ⟨n, animation, brightness, committed, hat, hwithin, howner, hpictured, hshown, hanswer⟩ :=
    h.sends hlate hdelivered
  have hn : j + 1 + n - j - 1 = n := by omega
  refine ⟨j + 1 + n, ?_⟩
  constructor
  case playing =>
    refine ⟨?_, ?_, ⟨animation, ?_, hat⟩, hpictured, hshown⟩
    · obtain ⟨played, hplayed, -⟩ := h.animation
      have hstreaming := h.streaming
      rw [howner]
      simpa [isStreaming, isConnected, hplayed] using hstreaming
    · rw [howner]
      exact h.active
    · rw [howner]
  case moves =>
    refine ⟨by omega, hshown, ?_, hwithin.2, fun hearly => absurd hearly hlate, fun hskipped => ?_, ?_⟩
    · rw [hanswer, hat.due]
    · rw [hn] at hskipped ⊢
      rw [howner, Nat.mod_eq_of_lt hskipped]
      rfl
    · rw [hn]
      have hwalked := @start_add_mul_le (cycleDelay frames) origin _ (le_cycleDelay hat.length_pos) (j + 1) n
      have hfirst := hwithin.1
      omega
  case within => exact fun _ => hwithin
  case dropped =>
    rw [hn, howner]
    rfl

theorem advance (h : Playing frames origin preset j rig)
    (hdelivered : Delivered (turn DisplayCall.serve rig (.advanceAnimation now))) :
    ∃ k, Advances frames preset origin now j k (turn DisplayCall.serve rig (.advanceAnimation now)) := by
  by_cases hearly : now < start (cycleDelay frames) origin (j + 1)
  · exact ⟨j, h.stays hearly⟩
  · exact h.advances hearly hdelivered

end Playing

/-! ## The start -/

open DisplayExecutor in
theorem pictured_turn {rig : DisplayRig} (h : rig.owner.Pictured rig.world.state) (call : DisplayCall) :
    (turn DisplayCall.serve rig call).after.owner.Pictured
      (turn DisplayCall.serve rig call).after.world.state := by
  have hcongr : ∀ {a b : DisplayExecutor} {glass : Glass}, a.SameRecord b → a.Pictured glass →
      b.Pictured glass := by
    intro a b glass hsame ha entry hentry
    exact ha entry (hsame.committed.symm.trans hentry)
  by_cases hforget : ∃ found, call = .forget found
  · obtain ⟨found, rfl⟩ := hforget
    intro entry hentry
    cases hentry
  · obtain ⟨hnothing, hsent⟩ := DisplayCall.serve_transfers rig call fun found hcall =>
      hforget ⟨found, hcall⟩
    cases hsends : call.sends rig.owner with
    | none =>
      obtain ⟨hseen, hsame, -⟩ := hnothing hsends
      have hstate := congrArg Seen.state hseen
      rw [hstate]
      exact hcongr hsame h
    | some sent =>
      obtain ⟨sender, hsender, hseen, hsame, -⟩ := hsent sent.1 sent.2 hsends
      have hstate := congrArg Seen.state hseen
      have hpictured := (@sendBytes_pictured sender sent.1 sent.2
        (turn DisplayCall.serve rig call).before.world.fresh (hcongr hsender h)).1
      rw [hstate]
      exact hcongr hsame hpictured

open DisplayExecutor in
theorem DisplayExecutor.apply_animated {self : DisplayExecutor} {renderer : Renderer}
    {preset : DisplayPreset} {samples : MetricSample × MetricSample} {panel : LcdPanel}
    {first second : AnimationFrame} {rest : List AnimationFrame} {w : LcdWorld}
    (himage : preset.mode.usesImage = true) (hpanel : self.panel = some panel)
    (hframes : renderer.renderImageFrames preset panel = .ok (first :: second :: rest)) :
    let sent := (({ self with faulted := none, animation := none } : DisplayExecutor).sendBytes preset
      first.bytes).run lcd w
    let animation : Animation :=
      { frames := first :: second :: rest, cursor := ⟨0, Nat.zero_lt_succ _⟩
        due := sent.2.times 0 + first.delay }
    ((self.apply renderer preset samples).run lcd w).1 =
      (.ok sent.1.1, { sent.1.2 with animation := some animation, active := some preset }) ∧
    ((self.apply renderer preset samples).run lcd w).2.toSeen = sent.2.toSeen := by
  unfold apply
  dsimp only
  rw [run_bind, if_pos himage]
  unfold startImage
  simp only [hpanel, hframes]
  rw [run_bind, run_bind]
  exact ⟨rfl, rfl⟩

theorem playing_start {rig : DisplayRig} (h : rig.owner.Pictured rig.world.state)
    {renderer : Renderer} {preset : DisplayPreset} {samples : MetricSample × MetricSample}
    {panel : LcdPanel} {frames : List AnimationFrame} {outcome : DisplayOutcome}
    (himage : preset.mode.usesImage = true) (hpanel : rig.owner.panel = some panel)
    (hframes : renderer.renderImageFrames preset panel = .ok frames) (htwo : 2 ≤ frames.length)
    (hanswer : (turn DisplayCall.serve rig (.apply renderer preset samples)).answer =
      .applied (.ok outcome)) (hconfirmed : outcome.hardware = .confirmed) :
    Playing frames (rig.world.times 0) preset 0
      (turn DisplayCall.serve rig (.apply renderer preset samples)).after := by
  match frames, htwo with
  | first :: second :: rest, _ =>
    obtain ⟨hresult, hseen⟩ := @DisplayExecutor.apply_animated rig.owner renderer preset samples panel
      first second rest rig.world.fresh himage hpanel hframes
    have hpictured := @DisplayExecutor.sendBytes_pictured
      { rig.owner with faulted := none, animation := none } preset first.bytes rig.world.fresh h
    have htimes := @DisplayExecutor.sendBytes_times
      { rig.owner with faulted := none, animation := none } preset first.bytes rig.world.fresh
    obtain ⟨brightness, committed, hkeeps⟩ := @DisplayExecutor.sendBytes_keeps
      { rig.owner with faulted := none, animation := none } preset first.bytes rig.world.fresh
    have habsent := @DisplayExecutor.sendBytes_absent
      { rig.owner with faulted := none, animation := none } preset first.bytes rig.world.fresh
    rw [turn_apply] at hanswer ⊢
    dsimp only at hresult hseen hpictured hanswer ⊢
    rw [hresult] at hanswer ⊢
    generalize (({ rig.owner with faulted := none, animation := none } :
      DisplayExecutor).sendBytes preset first.bytes).run lcd rig.world.fresh = sent
      at hseen hpictured htimes hkeeps habsent hanswer ⊢
    have houtcome : sent.1.1 = outcome := by
      cases hanswer
      rfl
    have hlinked : rig.owner.link = true := by
      by_contra hlink
      rw [habsent (by simpa using hlink)] at houtcome
      rw [← houtcome] at hconfirmed
      cases hconfirmed
    have hglass := hpictured.2 hlinked (by rw [houtcome, hconfirmed]; rfl)
    have hstate : ((rig.owner.apply renderer preset samples).run lcd rig.world.fresh).2.state =
        sent.2.state := congrArg Seen.state hseen
    refine ⟨?_, rfl, ⟨_, rfl, rfl, (Nat.zero_mod _).symm, ?_⟩, ?_, ?_⟩
    · simp [DisplayExecutor.isStreaming, DisplayExecutor.isConnected, hkeeps, hlinked, hpanel]
    · change sent.2.times 0 + first.delay = rig.world.times 0 + first.delay
      rw [htimes]
      rfl
    · change DisplayExecutor.Pictured { sent.1.2 with
        animation := _, active := some preset } ((rig.owner.apply renderer preset samples).run lcd
          rig.world.fresh).2.state
      rw [hstate]
      exact hpictured.1
    · change ((rig.owner.apply renderer preset samples).run lcd rig.world.fresh).2.state.picture = _
      rw [hstate, hglass]
      rfl

/-! ## The run -/

/-- Each call at its instant moves from the interval of the instant before to that of its own. -/
def Follows (frames : List AnimationFrame) (origin : Nat) :
    Nat → List Nat → List DisplayTurn → Prop
  | previous, now :: nows, t :: rest =>
    (∃ j k, Within (cycleDelay frames) origin j (max origin previous) ∧
      Within (cycleDelay frames) origin k (max origin now) ∧ Moves frames origin now j k t) ∧
    Follows frames origin now nows rest
  | _, [], [] => True
  | _, _, _ => False

theorem follows_of_playing {frames : List AnimationFrame} {preset : DisplayPreset} {nows : List Nat}
    {origin previous k : Nat} {rig : DisplayRig}
    (h : Playing frames origin preset k rig)
    (hwithin : Within (cycleDelay frames) origin k (max origin previous))
    (hsorted : (previous :: nows).Pairwise fun a b => max origin a ≤ max origin b)
    (hdelivered : ∀ t ∈ turns DisplayCall.serve rig (nows.map .advanceAnimation), Delivered t) :
    Follows frames origin previous nows
      (turns DisplayCall.serve rig (nows.map .advanceAnimation)) := by
  induction nows generalizing previous k rig with
  | nil => trivial
  | cons now nows ih =>
    rw [List.map_cons, turns, List.forall_mem_cons] at hdelivered
    obtain ⟨hle, hrest⟩ := List.pairwise_cons.mp hsorted
    have hnow : max origin previous ≤ max origin now := hle now (by simp)
    obtain ⟨n, hplaying, hmoves, hlate, -⟩ := h.advance hdelivered.1
    have hwithin' : Within (cycleDelay frames) origin n (max origin now) := by
      by_cases hearly : now < start (cycleDelay frames) origin (k + 1)
      · rw [(hmoves.early hearly).1]
        have horigin := @origin_le_start (cycleDelay frames) origin (k + 1)
        have hfirst := hwithin.1
        have hlater := hwithin.2
        unfold Within
        omega
      · have hin := hlate hearly
        have horigin := @origin_le_start (cycleDelay frames) origin n
        have hfirst := hin.1
        have hlast := hin.2
        unfold Within
        omega
    exact ⟨⟨k, n, hwithin, hwithin', hmoves⟩, ih hplaying hwithin' hrest hdelivered.2⟩

/-- Whatever was done with a panel before, a table that is put on it plays as its repetition has it:
every call leaves the picture of the interval it falls in. -/
theorem animation_follows_table (panel : Option LcdPanel) (world : LcdWorld) (calls : List DisplayCall)
    (renderer : Renderer) (preset : DisplayPreset) (samples : MetricSample × MetricSample)
    (geometry : LcdPanel) (frames : List AnimationFrame) (outcome : DisplayOutcome)
    (nows : List Instant) :
    let rig := afterAll DisplayCall.serve ⟨.probed panel, world⟩ calls
    let started := turn DisplayCall.serve rig (.apply renderer preset samples)
    let run := turns DisplayCall.serve started.after (nows.map .advanceAnimation)
    let origin := rig.world.times 0
    preset.mode.usesImage = true → rig.owner.panel = some geometry →
    renderer.renderImageFrames preset geometry = .ok frames → 2 ≤ frames.length →
    started.answer = .applied (.ok outcome) → outcome.hardware = .confirmed →
    nows.Pairwise (· ≤ ·) → (∀ t ∈ run, Delivered t) →
    started.after.world.state.picture = cyclePicture frames 0 ∧ Follows frames origin origin nows run := by
  intro rig started run origin himage hpanel hframes htwo hanswer hconfirmed hsorted hdelivered
  have hpictured : rig.owner.Pictured rig.world.state := by
    refine (turns_invariant (fun rig : DisplayRig => rig.owner.Pictured rig.world.state)
      (fun _ => True) (fun rig call h _ => pictured_turn h call) calls ?_ fun _ _ => trivial).1
    intro entry hentry
    cases panel with
    | none => cases hentry
    | some panel => cases hentry
  have hplaying := playing_start hpictured himage hpanel hframes htwo hanswer hconfirmed
  have hpos : 0 < cycleDelay frames 0 := by
    have hleast := @le_cycleDelay frames (by omega) 0
    have hminimum : 0 < milliseconds MIN_FRAME_DELAY_MS := by decide
    omega
  refine ⟨hplaying.shown, follows_of_playing hplaying ?_ ?_ hdelivered⟩
  · rw [Nat.max_self]
    refine ⟨le_rfl, ?_⟩
    change origin < origin + cycleDelay frames 0
    omega
  · rw [List.pairwise_cons]
    refine ⟨fun now _ => ?_, hsorted.imp fun hle => max_le_max_left _ hle⟩
    rw [Nat.max_self]
    exact Nat.le_max_left _ _

/-! ## A table on a bench -/

/-- A cooler's panel that takes everything. -/
def soundPanel : LcdWorld :=
  { state := { brightness := .FULL, picture := [] }, log := [], faults := fun _ => none
    times := fun _ => 0 }

/-- Two black frames of the least delay, put on the panel at the instant 0. -/
def benchStarted : DisplayTurn :=
  turn DisplayCall.serve (afterAll DisplayCall.serve ⟨.probed (some benchPanel), soundPanel⟩ [])
    (.apply (benchRenderer true) benchImage benchSamples)

theorem benchStarted_eq : benchStarted = turn DisplayCall.serve
    (afterAll DisplayCall.serve ⟨.probed (some benchPanel), soundPanel⟩ [])
    (.apply (benchRenderer true) benchImage benchSamples) := rfl

theorem bench_started : ∃ outcome, benchStarted.answer = .applied (.ok outcome) ∧
    outcome.hardware = .confirmed := by
  obtain ⟨hresult, -⟩ := @DisplayExecutor.apply_animated (.probed (some benchPanel)) (benchRenderer true)
    benchImage benchSamples benchPanel benchFrame benchFrame [] soundPanel.fresh rfl rfl rfl
  have hlength : benchFrame.bytes.length = FRAME_BYTES := List.length_replicate
  have hconfirmed := @DisplayExecutor.sendBytes_confirmed
    { DisplayExecutor.probed (some benchPanel) with faulted := none, animation := none } benchImage
    benchFrame.bytes soundPanel.fresh rfl (by
      rintro ⟨-, hfails⟩
      rw [if_pos (by decide)] at hfails
      rcases hfails with hfirst | ⟨-, hsize | hsecond⟩
      · cases hfirst
      · exact hsize hlength
      · cases hsecond)
  rw [benchStarted_eq]
  unfold afterAll
  rw [turn_apply]
  dsimp only
  rw [hresult]
  dsimp only at hconfirmed
  exact ⟨_, rfl, hconfirmed⟩

theorem bench_playing : Playing [benchFrame, benchFrame] 0 benchImage 0 benchStarted.after := by
  obtain ⟨outcome, hanswer, hconfirmed⟩ := bench_started
  refine playing_start ?_ rfl rfl rfl (by decide) hanswer hconfirmed
  intro entry hentry
  cases hentry

theorem bench_delivered {k : Nat} {rig : DisplayRig}
    (h : Playing [benchFrame, benchFrame] 0 benchImage k rig) (hfaults : ∀ n, rig.world.faults n = none)
    (now : Nat) : Delivered (turn DisplayCall.serve rig (.advanceAnimation now)) := by
  obtain ⟨hstreaming, hactive, ⟨animation, hanimation, hat⟩, -, -⟩ := h
  intro preset frame hsends
  have hframe : frame.length = FRAME_BYTES := by
    have hsends' : (DisplayCall.advanceAnimation now).sends rig.owner = some (preset, frame) := hsends
    unfold DisplayCall.sends at hsends'
    dsimp only at hsends'
    rw [if_neg (not_not.mpr hstreaming), hanimation, Option.bind_some] at hsends'
    split at hsends'
    · cases hsends'
    · rename_i hdue
      rw [hactive] at hsends'
      cases hsends'
      obtain ⟨n, hat', -, -⟩ := @Animation.At.catchUp animation _ 0 k now 0 hat hdue (by decide)
      have hpicture : ∀ i, (cyclePicture [benchFrame, benchFrame] i).length = FRAME_BYTES := by
        intro i
        have hlength : benchFrame.bytes.length = FRAME_BYTES := List.length_replicate
        unfold cyclePicture
        rcases Nat.mod_two_eq_zero_or_one i with hi | hi
        · rw [show i % [benchFrame, benchFrame].length = 0 from hi]
          exact hlength
        · rw [show i % [benchFrame, benchFrame].length = 1 from hi]
          exact hlength
      rw [hat'.current]
      exact hpicture _
  have hnone : ∀ n, (turn DisplayCall.serve rig (.advanceAnimation now)).before.world.faults n = none :=
    hfaults
  rintro ⟨-, hfails⟩
  split at hfails
  · rcases hfails with hfirst | ⟨-, hlength | hsecond⟩
    · rw [hnone] at hfirst
      cases hfirst
    · exact hlength hframe
    · rw [hnone] at hsecond
      cases hsecond
  · obtain ⟨-, hlength | hfirst⟩ := hfails
    · exact hlength hframe
    · rw [hnone] at hfirst
      cases hfirst

theorem faults_turn {rig : DisplayRig} (h : ∀ n, rig.world.faults n = none) (call : DisplayCall) (n : Nat) :
    (turn DisplayCall.serve rig call).after.world.faults n = none := by
  cases call with
  | apply renderer preset samples => exact (wp_reliable rig.world.fresh h wp_true).2 n
  | refresh renderer samples => exact (wp_reliable rig.world.fresh h wp_true).2 n
  | advanceAnimation now => exact (wp_reliable rig.world.fresh h wp_true).2 n
  | dropFrame => exact h n
  | forget found => exact h n

theorem bench_faults (n : Nat) : benchStarted.after.world.faults n = none := by
  rw [benchStarted_eq]
  exact faults_turn (fun _ => rfl) _ n

/-- Two calls, the first while the first frame is on the glass and the second five frames later. -/
theorem animation_follows_table_bench :
    benchStarted.after.world.state.picture = cyclePicture [benchFrame, benchFrame] 0 ∧
      Follows [benchFrame, benchFrame] 0 0 [milliseconds 40, milliseconds 440]
        (turns DisplayCall.serve benchStarted.after [.advanceAnimation (milliseconds 40),
          .advanceAnimation (milliseconds 440)]) := by
  obtain ⟨outcome, hanswer, hconfirmed⟩ := bench_started
  have hfollows := animation_follows_table (some benchPanel) soundPanel [] (benchRenderer true)
    benchImage benchSamples benchPanel [benchFrame, benchFrame] outcome
    [milliseconds 40, milliseconds 440]
  dsimp only at hfollows
  rw [← benchStarted_eq] at hfollows
  refine hfollows rfl rfl rfl (by decide) hanswer hconfirmed (by decide) ?_
  have hfirst := bench_delivered bench_playing bench_faults (milliseconds 40)
  obtain ⟨k, hplaying, -⟩ := bench_playing.advance hfirst
  have hsecond := bench_delivered hplaying (faults_turn bench_faults _) (milliseconds 440)
  rintro t ht
  simp only [List.map_cons, List.map_nil, turns, List.mem_cons, List.not_mem_nil, or_false] at ht
  rcases ht with rfl | rfl
  · exact hfirst
  · exact hsecond

theorem bench_delay (i : Nat) :
    cycleDelay [benchFrame, benchFrame] i = milliseconds MIN_FRAME_DELAY_MS := by
  unfold cycleDelay
  rcases Nat.mod_two_eq_zero_or_one i with hi | hi
  · rw [show i % [benchFrame, benchFrame].length = 0 from hi]
    rfl
  · rw [show i % [benchFrame, benchFrame].length = 1 from hi]
    rfl

/-- A call that passes 2^32 whole intervals over counts none of them. -/
theorem skipped_frames_uncounted :
    let now := 4294967297 * milliseconds MIN_FRAME_DELAY_MS
    let t := turn DisplayCall.serve benchStarted.after (.advanceAnimation now)
    Delivered t ∧ Within (cycleDelay [benchFrame, benchFrame]) 0 0 0 ∧
      Within (cycleDelay [benchFrame, benchFrame]) 0 4294967297 now ∧
      t.after.owner.dropped = t.before.owner.dropped ∧
      t.after.owner.dropped ≠ t.before.owner.dropped + (4294967297 - 0 - 1) := by
  intro now t
  have hstart : ∀ k, start (cycleDelay [benchFrame, benchFrame]) 0 k =
      k * milliseconds MIN_FRAME_DELAY_MS := by
    intro k
    rw [funext bench_delay, Timeline.start_const, Nat.zero_add]
  have hpos : 0 < milliseconds MIN_FRAME_DELAY_MS := by decide
  have hdelivered : Delivered t := bench_delivered bench_playing bench_faults now
  have hnow : Within (cycleDelay [benchFrame, benchFrame]) 0 4294967297 now := by
    unfold Within
    rw [hstart, hstart]
    exact ⟨le_rfl, Nat.mul_lt_mul_of_pos_right (by decide) hpos⟩
  have hfirst : Within (cycleDelay [benchFrame, benchFrame]) 0 0 0 := by
    unfold Within
    rw [hstart, hstart]
    omega
  obtain ⟨k, -, -, hwithin, hcount⟩ := bench_playing.advance hdelivered
  have hlate : ¬ now < start (cycleDelay [benchFrame, benchFrame]) 0 (0 + 1) := by
    rw [hstart]
    exact Nat.not_lt.mpr (Nat.mul_le_mul_right _ (by decide))
  have hk : k = 4294967297 := within_unique (hwithin hlate) hnow
  subst hk
  have hnone : (4294967297 - 0 - 1) % UInt32.size = 0 := by decide
  rw [hnone, counted_zero] at hcount
  have hsame : t.after.owner.dropped = t.before.owner.dropped := hcount
  refine ⟨hdelivered, hfirst, hnow, hsame, ?_⟩
  rw [hsame]
  omega

end Kori
