import Kori.Daemon.Display.Runs

/-! # The record of the panel -/

open Faulty

namespace Kori

namespace DisplayExecutor

variable {self : DisplayExecutor} {preset : DisplayPreset} {frame : Frame} {w : LcdWorld}

/-- The glass is set to the recorded brightness and shows the recorded picture. -/
structure Describes (record : DisplayExecutor) (glass : Glass) : Prop where
  brightness : ∀ b, record.brightness = some b → glass.brightness = b
  picture : ∀ entry, record.committed = some entry → glass.picture = entry.frame

theorem Describes.congr {other : DisplayExecutor} {glass : Glass} (h : self.Describes glass)
    (hrecord : self.SameRecord other) : other.Describes glass := by
  refine ⟨fun b hb => h.brightness b ?_, fun entry hentry => h.picture entry ?_⟩
  · rw [← hrecord.brightness]
    exact hb
  · rw [← hrecord.committed]
    exact hentry

theorem shows_iff : self.Shows frame ↔ ∃ entry, self.committed = some entry ∧ entry.frame = frame := by
  unfold Shows
  simp [Option.any_eq_true]

theorem sendPicture_describes (h : self.Describes w.state) (sent : Bool) :
    let r := (self.sendPicture preset frame sent).run lcd w
    r.1.2.Describes r.2.state ∧ r.1.2.brightness = self.brightness ∧
      r.2.state.brightness = w.state.brightness ∧
      (r.1.1.hardware = .confirmed → r.2.state.picture = frame ∧
        (¬ self.Shows frame → r.1.2.committed = some { preset, frame })) ∧
      (self.Shows frame → r.1.1.hardware = .confirmed ∧ r.1.2.committed = self.committed) := by
  dsimp only
  rw [sendPicture_run]
  split
  · rename_i hshows
    obtain ⟨entry, hentry, hframe⟩ := shows_iff.mp hshows
    have hpicture : w.state.picture = frame := (h.picture entry hentry).trans hframe
    exact ⟨h, rfl, rfl, fun _ => ⟨hpicture, fun hnot => (hnot hshows).elim⟩, fun _ => ⟨rfl, rfl⟩⟩
  · rename_i hshows
    split
    · refine ⟨⟨h.brightness, ?_⟩, rfl, rfl, ?_, fun hnot => (hshows hnot).elim⟩
      · intro entry hentry
        cases hentry
      · intro hconfirmed
        cases hconfirmed
    · split
      · refine ⟨⟨h.brightness, ?_⟩, rfl, rfl, fun _ => ⟨rfl, fun _ => rfl⟩, fun hnot => (hshows hnot).elim⟩
        intro entry hentry
        cases hentry
        rfl
      · refine ⟨⟨h.brightness, ?_⟩, rfl, rfl, ?_, fun hnot => (hshows hnot).elim⟩
        · intro entry hentry
          cases hentry
        · intro hconfirmed
          cases hconfirmed

/-- A brightness report that fails where another brightness is recorded, and that is not what the
glass is left on. -/
def BrightnessLost (self : DisplayExecutor) (preset : DisplayPreset) (faults : Nat → Option LcdFault) : Prop :=
  self.link = true ∧ ∃ b fault, self.brightness = some b ∧ b ≠ preset.brightness ∧
    faults 0 = some fault ∧ fault.brightness ≠ b

/-- The picture is already recorded, for another preset. -/
def Mislabeled (self : DisplayExecutor) (preset : DisplayPreset) (frame : Frame) : Prop :=
  ∃ entry, self.committed = some entry ∧ entry.frame = frame ∧ entry.preset ≠ preset

/-- A picture that is already recorded for another preset, once the brightness is settled. -/
def PresetKept (self : DisplayExecutor) (preset : DisplayPreset) (frame : Frame)
    (faults : Nat → Option LcdFault) : Prop :=
  self.link = true ∧ (self.brightness = some preset.brightness ∨ faults 0 = none) ∧
    self.Mislabeled preset frame

theorem sendPicture_preset (h : self.Describes w.state) (sent : Bool) :
    let r := (self.sendPicture preset frame sent).run lcd w
    (r.1.1.hardware = .confirmed → ¬ self.Mislabeled preset frame →
      r.1.2.committed.map Committed.preset = some preset) ∧
    (self.Mislabeled preset frame →
      r.1.1.hardware = .confirmed ∧ r.1.2.committed.map Committed.preset ≠ some preset) := by
  obtain ⟨-, -, -, hconfirmed, hshown⟩ := @sendPicture_describes self preset frame w h sent
  constructor
  · intro hanswer hnot
    by_cases hshows : self.Shows frame
    · obtain ⟨entry, hentry, hframe⟩ := shows_iff.mp hshows
      have hpreset : entry.preset = preset := by
        by_contra hother
        exact hnot ⟨entry, hentry, hframe, hother⟩
      rw [(hshown hshows).2, hentry, Option.map_some, hpreset]
    · rw [(hconfirmed hanswer).2 hshows]
      rfl
  · rintro ⟨entry, hentry, hframe, hother⟩
    obtain ⟨hanswer, hcommitted⟩ := hshown (shows_iff.mpr ⟨entry, hentry, hframe⟩)
    refine ⟨hanswer, ?_⟩
    rw [hcommitted, hentry, Option.map_some]
    exact fun heq => hother (Option.some.inj heq)

theorem sendBytes_describes (h : self.Describes w.state) :
    let r := (self.sendBytes preset frame).run lcd w
    (r.1.2.Describes r.2.state ↔ ¬ self.BrightnessLost preset w.faults) ∧
    (r.1.1.hardware = .confirmed → r.2.state.brightness = preset.brightness ∧ r.2.state.picture = frame ∧
      (¬ self.PresetKept preset frame w.faults → r.1.2.committed.map Committed.preset = some preset)) ∧
    (self.PresetKept preset frame w.faults →
      r.1.1.hardware = .confirmed ∧ r.1.2.committed.map Committed.preset ≠ some preset) := by
  by_cases hlink : self.link = true
  · dsimp only
    rw [sendBytes_run hlink]
    by_cases hdue : self.brightness ≠ some preset.brightness
    · rw [if_pos hdue]
      cases hfault : w.faults 0 with
      | none =>
        have hdimmed : ({ self with brightness := some preset.brightness } : DisplayExecutor).Describes
            { w.state with brightness := preset.brightness } :=
          ⟨fun b hb => Option.some.inj hb, h.picture⟩
        have hafter : ({ self with brightness := some preset.brightness } : DisplayExecutor).Describes
            (w.spent (w.issued (.setDisplay preset.brightness) true
              { w.state with brightness := preset.brightness })).state := hdimmed
        obtain ⟨hdescribes, -, hbrightness, hconfirmed, -⟩ :=
          @sendPicture_describes _ preset frame _ hafter true
        obtain ⟨hrecorded, hkept⟩ := @sendPicture_preset _ preset frame _ hafter true
        refine ⟨iff_of_true hdescribes ?_, fun hanswer => ⟨hbrightness, (hconfirmed hanswer).1, fun hnot => ?_⟩,
          fun hkeeps => hkept hkeeps.2.2⟩
        · rintro ⟨-, b, fault, -, -, hsome, -⟩
          rw [hfault] at hsome
          cases hsome
        · exact hrecorded hanswer fun hmislabeled => hnot ⟨hlink, .inr hfault, hmislabeled⟩
      | some fault =>
        refine ⟨⟨?_, fun hnot => ⟨fun b hb => ?_, ?_⟩⟩, ?_, ?_⟩
        · rintro hdescribes ⟨-, b, fault', hb, -, hsome, hlost⟩
          rw [hfault] at hsome
          cases hsome
          exact hlost (hdescribes.brightness b hb)
        · by_contra hlost
          refine hnot ⟨hlink, b, fault, hb, ?_, hfault, hlost⟩
          rintro rfl
          exact hdue hb
        · intro entry hentry
          cases hentry
        · intro hconfirmed
          cases hconfirmed
        · rintro ⟨-, hsame | hnone, -⟩
          · exact (hdue hsame).elim
          · rw [hfault] at hnone
            cases hnone
    · rw [if_neg hdue]
      rw [not_not] at hdue
      obtain ⟨hdescribes, -, hbrightness, hconfirmed, -⟩ := @sendPicture_describes self preset frame w h false
      obtain ⟨hrecorded, hkept⟩ := @sendPicture_preset self preset frame w h false
      refine ⟨iff_of_true hdescribes ?_, fun hanswer => ⟨?_, (hconfirmed hanswer).1, fun hnot => ?_⟩,
        fun hkeeps => hkept hkeeps.2.2⟩
      · rintro ⟨-, b, fault, hb, hother, -⟩
        rw [hdue] at hb
        cases hb
        exact hother rfl
      · exact hbrightness.trans (h.brightness _ hdue)
      · exact hrecorded hanswer fun hmislabeled => hnot ⟨hlink, .inl hdue, hmislabeled⟩
  · dsimp only
    rw [sendBytes_absent (by simpa using hlink)]
    refine ⟨iff_of_true h fun hlost => hlink hlost.1, ?_, fun hkeeps => (hlink hkeeps.1).elim⟩
    intro hconfirmed
    cases hconfirmed

end DisplayExecutor

open DisplayExecutor

/-! ## One turn -/

/-- An application that answers confirmed leaves its preset's picture on the glass, at its brightness,
and reports that preset. -/
def ConfirmedHolds (t : DisplayTurn) : Prop :=
  ∀ renderer preset samples outcome, t.call = .apply renderer preset samples →
    t.answer = .applied (.ok outcome) → outcome.hardware = .confirmed →
    t.after.world.state.brightness = preset.brightness ∧
    (∃ panel, t.before.owner.panel = some panel ∧
      picture renderer preset samples panel = some t.after.world.state.picture) ∧
    t.after.owner.state.committed = some preset

/-- Neither does the turn lose the brightness, nor, when it applies a preset, keep another one. -/
def KeepsRecord (t : DisplayTurn) : Prop :=
  ∀ preset frame, t.call.sends t.before.owner = some (preset, frame) →
    ¬ t.before.owner.BrightnessLost preset t.before.world.faults ∧
    ∀ renderer samples, t.call = .apply renderer preset samples →
      ¬ t.before.owner.PresetKept preset frame t.before.world.faults

theorem apply_sends {owner : DisplayExecutor} {renderer : Renderer} {preset applied : DisplayPreset}
    {samples : MetricSample × MetricSample} {frame : Frame}
    (h : (DisplayCall.apply renderer applied samples).sends owner = some (preset, frame)) :
    applied = preset ∧ ∃ panel, owner.panel = some panel ∧ picture renderer preset samples panel = some frame := by
  obtain ⟨panel, hpanel, hpicture⟩ := Option.bind_eq_some_iff.mp h
  obtain ⟨frame', hframe, heq⟩ := Option.map_eq_some_iff.mp hpicture
  cases heq
  exact ⟨rfl, panel, hpanel, hframe⟩

theorem DisplayExecutor.SameRecord.brightnessLost {owner sender : DisplayExecutor} (h : owner.SameRecord sender)
    (preset : DisplayPreset) (faults : Nat → Option LcdFault) :
    sender.BrightnessLost preset faults ↔ owner.BrightnessLost preset faults := by
  unfold BrightnessLost
  rw [h.link, h.brightness]

theorem DisplayExecutor.SameRecord.presetKept {owner sender : DisplayExecutor} (h : owner.SameRecord sender)
    (preset : DisplayPreset) (frame : Frame) (faults : Nat → Option LcdFault) :
    sender.PresetKept preset frame faults ↔ owner.PresetKept preset frame faults := by
  unfold PresetKept Mislabeled
  rw [h.link, h.brightness, h.committed]

theorem DisplayExecutor.SameRecord.describes {owner other : DisplayExecutor} (h : owner.SameRecord other) (glass : Glass) :
    other.Describes glass ↔ owner.Describes glass :=
  ⟨fun hother => hother.congr ⟨h.link.symm, h.panel.symm, h.committed.symm, h.brightness.symm⟩,
    fun howner => howner.congr h⟩

theorem Transfers.describes {t : DisplayTurn} (htransfers : Transfers t)
    (h : t.before.owner.Describes t.before.world.state) :
    t.after.owner.Describes t.after.world.state ↔ ∀ preset frame, t.call.sends t.before.owner = some (preset, frame) →
      ¬ t.before.owner.BrightnessLost preset t.before.world.faults := by
  cases hsends : t.call.sends t.before.owner with
  | none =>
    obtain ⟨hseen, hrecord, -⟩ := htransfers.nothing hsends
    refine iff_of_true ?_ fun preset frame hsome => nomatch hsome
    rw [hrecord.describes, hseen]
    exact h
  | some sent =>
    obtain ⟨preset, frame⟩ := sent
    obtain ⟨sender, hsender, hseen, hrecord, -⟩ := htransfers.sent preset frame hsends
    have hsound : sender.Describes t.before.world.fresh.state := h.congr hsender
    obtain ⟨hdescribes, -⟩ := @sendBytes_describes sender preset frame _ hsound
    rw [hsender.brightnessLost] at hdescribes
    rw [hrecord.describes, hseen]
    refine hdescribes.trans ⟨fun hnot preset' frame' hsome => ?_, fun hnot => hnot preset frame rfl⟩
    cases hsome
    exact hnot

theorem turn_describes_iff (rig : DisplayRig) (call : DisplayCall) (h : rig.owner.Describes rig.world.state) :
    let t := turn DisplayCall.serve rig call
    t.after.owner.Describes t.after.world.state ∧ ConfirmedHolds t ↔ KeepsRecord t := by
  by_cases hforget : ∃ found, call = .forget found
  · obtain ⟨found, rfl⟩ := hforget
    refine iff_of_true ⟨⟨?_, ?_⟩, fun _ _ _ _ hcall => nomatch hcall⟩ fun preset frame hsome => ?_
    · intro b hb
      cases hb
    · intro entry hentry
      cases hentry
    · have hnone : (none : Option (DisplayPreset × Frame)) = some (preset, frame) := hsome
      cases hnone
  have htransfers := DisplayCall.serve_transfers rig call fun found hcall => hforget ⟨found, hcall⟩
  have hcall : (turn DisplayCall.serve rig call).call = call := rfl
  have hbefore : (turn DisplayCall.serve rig call).before = rig := rfl
  generalize turn DisplayCall.serve rig call = t at htransfers hcall hbefore
  subst hcall hbefore
  dsimp only
  cases hsends : t.call.sends t.before.owner with
  | none =>
    obtain ⟨-, -, habsent⟩ := htransfers.nothing hsends
    refine iff_of_true ⟨(htransfers.describes h).mpr ?_, ?_⟩ fun preset frame hsome => nomatch hsends.symm.trans hsome
    · exact fun preset frame hsome => nomatch hsends.symm.trans hsome
    · intro renderer preset samples outcome hcall hanswer hconfirmed
      rw [habsent renderer preset samples outcome hcall hanswer] at hconfirmed
      cases hconfirmed
  | some sent =>
    obtain ⟨preset, frame⟩ := sent
    obtain ⟨sender, hsender, hseen, hrecord, hanswer⟩ := htransfers.sent preset frame hsends
    have hsound : sender.Describes t.before.world.fresh.state := h.congr hsender
    obtain ⟨-, hconfirmed, hkept⟩ := @sendBytes_describes sender preset frame _ hsound
    rw [hsender.presetKept] at hconfirmed hkept
    constructor
    · rintro ⟨hsame, hholds⟩ preset' frame' hsome
      cases hsends.symm.trans hsome
      refine ⟨(htransfers.describes h).mp hsame preset frame hsends, fun renderer samples hcall hkeeps => ?_⟩
      obtain ⟨hhardware, hother⟩ := hkept hkeeps
      obtain ⟨-, -, hcommitted⟩ := hholds renderer preset samples _ hcall (hanswer renderer samples hcall) hhardware
      refine hother ?_
      rw [← hcommitted]
      exact congrArg (Option.map Committed.preset) hrecord.committed.symm
    · intro hkeeps
      have hpreset := (hkeeps preset frame hsends).2
      refine ⟨(htransfers.describes h).mpr fun _ _ hsome => (hkeeps _ _ hsome).1,
        fun renderer applied samples outcome hcall happlied hhardware => ?_⟩
      have happly := hsends
      rw [hcall] at happly
      obtain ⟨rfl, panel, hpanel, hpicture⟩ := apply_sends happly
      have hsame := (hanswer renderer samples hcall).symm.trans happlied
      cases hsame
      obtain ⟨hbrightness, hglass, hcommitted⟩ := hconfirmed hhardware
      refine ⟨?_, ⟨panel, hpanel, ?_⟩, ?_⟩
      · rw [hseen]
        exact hbrightness
      · rw [hseen]
        exact hpicture.trans (congrArg some hglass.symm)
      · refine Eq.trans ?_ (hcommitted (hpreset renderer samples hcall))
        exact congrArg (Option.map Committed.preset) hrecord.committed

/-- The record describes the glass in every state of a run, and every confirmed application holds,
exactly when no turn loses the brightness, or applies a preset whose picture is already recorded for
another. -/
theorem panel_record_sound (panel : Option LcdPanel) (world : LcdWorld) (calls : List DisplayCall) :
    let run := turns DisplayCall.serve ⟨.probed panel, world⟩ calls
    (∀ t ∈ run, t.after.owner.Describes t.after.world.state ∧ ConfirmedHolds t) ↔
      ∀ t ∈ run, KeepsRecord t := by
  refine turns_iff (fun rig : DisplayRig => rig.owner.Describes rig.world.state)
    (fun rig call h => turn_describes_iff rig call h) calls ?_
  have hblank : (DisplayExecutor.probed panel).committed = none ∧ (DisplayExecutor.probed panel).brightness = none := by
    cases panel <;> exact ⟨rfl, rfl⟩
  refine ⟨fun b hb => ?_, fun entry hentry => ?_⟩
  · cases hblank.2.symm.trans hb
  · cases hblank.1.symm.trans hentry

/-! ## A record that does not describe the glass -/

/-- A panel whose operation `n` fails, and leaves it dimmed. -/
def dimmingPanel (n : Option Nat) : LcdWorld :=
  { state := { brightness := .FULL, picture := [] }, log := [], times := fun _ => 0
    faults := fun k => if some k = n then some ⟨.hid "EIO", ⟨20, by decide⟩, []⟩ else none }

def blackFrame : Frame := List.replicate FRAME_BYTES 0

theorem blackFrame_length : blackFrame.length = FRAME_BYTES := List.length_replicate

theorem bench_apply (self : DisplayExecutor) (hpanel : self.panel = some benchPanel) (brightness : Brightness)
    (w : LcdWorld) : (self.apply (benchRenderer true) (benchReadings brightness) benchSamples).run lcd w =
      let sent := (({ self with faulted := none, animation := none } : DisplayExecutor).sendBytes
        (benchReadings brightness) blackFrame).run lcd w
      ((.ok sent.1.1, { sent.1.2 with active := some (benchReadings brightness) }), sent.2) := by
  unfold apply
  dsimp only
  rw [run_bind, if_neg (fun h : (benchReadings brightness).mode.usesImage = true => Bool.noConfusion h)]
  have hsend := @send_run { self with faulted := none, animation := none } (benchReadings brightness) w
    (benchRenderer true) benchSamples benchPanel hpanel
  rw [hsend]
  rfl

theorem sendBytes_delivered {self : DisplayExecutor} {preset : DisplayPreset} {frame : Frame} {w : LcdWorld} (hlink : self.link = true)
    (hdue : self.brightness ≠ some preset.brightness) (hnew : self.committed = none)
    (hsize : frame.length = FRAME_BYTES) (hfirst : w.faults 0 = none) (hsecond : w.faults 1 = none) :
    ∃ outcome w', (self.sendBytes preset frame).run lcd w = ((outcome, { self with
        brightness := some preset.brightness
        committed := some { preset, frame } }), w') ∧
      ∀ k, w'.faults k = w.faults (k + 2) := by
  have hshows : ¬ ({ self with brightness := some preset.brightness } : DisplayExecutor).Shows frame := by
    intro h
    obtain ⟨entry, hentry, -⟩ := shows_iff.mp h
    cases hnew.symm.trans hentry
  have hfaults : (w.spent (w.issued (.setDisplay preset.brightness) true
      { w.state with brightness := preset.brightness })).faults 0 = none := hsecond
  rw [sendBytes_run hlink, if_pos hdue, hfirst]
  dsimp only
  rw [sendPicture_run, if_neg hshows, if_neg (not_not.mpr hsize), hfaults]
  exact ⟨_, _, rfl, fun k => rfl⟩

theorem bench_first (n : Option Nat) (h : n ≠ some 0 ∧ n ≠ some 1) :
    let t := turn DisplayCall.serve ⟨.probed (some benchPanel), dimmingPanel n⟩
      (.apply (benchRenderer true) (benchReadings .FULL) benchSamples)
    t.after.owner.link = true ∧ t.after.owner.panel = some benchPanel ∧
      t.after.owner.brightness = some .FULL ∧
      t.after.owner.committed = some { preset := benchReadings .FULL, frame := blackFrame } ∧
      ∀ k, t.after.world.faults k = (dimmingPanel n).faults (k + 2) := by
  have hfirst : (dimmingPanel n).fresh.faults 0 = none := if_neg fun heq => h.1 heq.symm
  have hsecond : (dimmingPanel n).fresh.faults 1 = none := if_neg fun heq => h.2 heq.symm
  obtain ⟨outcome, w', hrun, hfaults⟩ :=
    @sendBytes_delivered { (probed (some benchPanel)) with faulted := none, animation := none } (benchReadings .FULL)
      blackFrame (dimmingPanel n).fresh rfl (by nofun) rfl blackFrame_length hfirst hsecond
  rw [turn_apply, bench_apply _ rfl]
  dsimp only
  rw [hrun]
  exact ⟨rfl, rfl, rfl, rfl, hfaults⟩

def dimBrightness : Brightness := ⟨20, by decide⟩

theorem bench_second_lost (rig : DisplayRig) (hlink : rig.owner.link = true)
    (hpanel : rig.owner.panel = some benchPanel) (hbrightness : rig.owner.brightness = some .FULL)
    {fault : LcdFault} (hfault : rig.world.faults 0 = some fault) :
    let t := turn DisplayCall.serve rig
      (.apply (benchRenderer true) (benchReadings dimBrightness) benchSamples)
    t.after.owner.brightness = some .FULL ∧ t.after.world.state.brightness = fault.brightness := by
  have hdue : ({ rig.owner with faulted := none, animation := none } : DisplayExecutor).brightness ≠
      some (benchReadings dimBrightness).brightness := by
    dsimp only
    rw [hbrightness]
    decide
  have hfault' : rig.world.fresh.faults 0 = some fault := hfault
  rw [turn_apply, bench_apply _ hpanel]
  dsimp only
  rw [@sendBytes_run { rig.owner with faulted := none, animation := none } (benchReadings dimBrightness)
    blackFrame rig.world.fresh hlink, if_pos hdue, hfault']
  exact ⟨hbrightness, rfl⟩

theorem bench_second_kept (rig : DisplayRig) (hlink : rig.owner.link = true)
    (hpanel : rig.owner.panel = some benchPanel) (hbrightness : rig.owner.brightness = some .FULL)
    (hcommitted : rig.owner.committed = some { preset := benchReadings .FULL, frame := blackFrame })
    (hfault : rig.world.faults 0 = none) :
    let t := turn DisplayCall.serve rig
      (.apply (benchRenderer true) (benchReadings dimBrightness) benchSamples)
    (∃ outcome, t.answer = .applied (.ok outcome) ∧ outcome.hardware = .confirmed) ∧
      t.after.owner.state.committed = some (benchReadings .FULL) := by
  have hdue : ({ rig.owner with faulted := none, animation := none } : DisplayExecutor).brightness ≠
      some (benchReadings dimBrightness).brightness := by
    dsimp only
    rw [hbrightness]
    decide
  have hshows : ({ rig.owner with
      faulted := none
      animation := none
      brightness := some (benchReadings dimBrightness).brightness } : DisplayExecutor).Shows blackFrame :=
    shows_iff.mpr ⟨_, hcommitted, rfl⟩
  have hfault' : rig.world.fresh.faults 0 = none := hfault
  rw [turn_apply, bench_apply _ hpanel]
  dsimp only
  rw [@sendBytes_run { rig.owner with faulted := none, animation := none } (benchReadings dimBrightness)
    blackFrame rig.world.fresh hlink, if_pos hdue, hfault']
  dsimp only
  rw [sendPicture_run, if_pos hshows]
  exact ⟨⟨_, rfl, rfl⟩, congrArg (Option.map Committed.preset) hcommitted⟩

/-- A failed brightness report that landed leaves a record of the old brightness, and a preset that
differs in its brightness alone is confirmed and reported as the old one. -/
theorem panel_record_drifts :
    let calls : List DisplayCall := [.apply (benchRenderer true) (benchReadings .FULL) benchSamples,
      .apply (benchRenderer true) (benchReadings dimBrightness) benchSamples]
    let lost := turns DisplayCall.serve ⟨.probed (some benchPanel), dimmingPanel (some 2)⟩ calls
    let kept := turns DisplayCall.serve ⟨.probed (some benchPanel), dimmingPanel none⟩ calls
    (∃ t ∈ lost, t.after.owner.brightness = some .FULL ∧ t.after.world.state.brightness = dimBrightness) ∧
    (∃ t ∈ kept, t.call = .apply (benchRenderer true) (benchReadings dimBrightness) benchSamples ∧
      (∃ outcome, t.answer = .applied (.ok outcome) ∧ outcome.hardware = .confirmed) ∧
      t.after.owner.state.committed = some (benchReadings .FULL)) := by
  constructor
  · obtain ⟨hlink, hpanel, hbrightness, -, hfaults⟩ := bench_first (some 2) (by decide)
    have hfault : _ = some (⟨.hid "EIO", dimBrightness, []⟩ : LcdFault) := (hfaults 0).trans rfl
    exact ⟨_, List.mem_cons_of_mem _ List.mem_cons_self, bench_second_lost _ hlink hpanel hbrightness hfault⟩
  · obtain ⟨hlink, hpanel, hbrightness, hcommitted, hfaults⟩ := bench_first none (by decide)
    have hfault : _ = (none : Option LcdFault) := (hfaults 0).trans rfl
    obtain ⟨hanswer, hkept⟩ := bench_second_kept _ hlink hpanel hbrightness hcommitted hfault
    exact ⟨_, List.mem_cons_of_mem _ List.mem_cons_self, rfl, hanswer, hkept⟩

end Kori
