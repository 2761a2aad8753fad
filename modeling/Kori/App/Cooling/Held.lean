import Kori.App.Cooling
import Kori.Core.Profile.Nodes

/-! # The cooling editor holds nothing the daemon would refuse -/

namespace Kori

/-! ## What is done with the editor -/

/-- One operation on the editor. -/
inductive CoolingOperation where
  | setDuty (channel : Channel) (duty : UInt8)
  | adjustDuty (channel : Channel) (steps : Int)
  | adjustNode (channel : Channel) (node : Nat) (steps : Int)
  | setNode (channel : Channel) (index : Nat) (duty : UInt8)
  | setNodeFrom (channel : Channel) (base : CurveNodes) (index : Nat) (duty : UInt8)
  | setMode (mode : CoolingMode)
  | adopt (program : CoolingProgram)
  | recordApplied (program : CoolingProgram)
  | cancel (kraken : Option KrakenTelemetry)

namespace CoolingOperation

def apply (editor : CoolingEditor) : CoolingOperation → CoolingEditor
  | setDuty channel duty => editor.setDuty channel duty
  | adjustDuty channel steps => editor.adjustDuty channel steps
  | adjustNode channel node steps => editor.adjustNode channel node steps
  | setNode channel index duty => editor.setNode channel index duty
  | setNodeFrom channel base index duty => editor.setNodeFrom channel base index duty
  | setMode mode => editor.setMode mode
  | adopt program => editor.adopt program
  | recordApplied program => editor.recordApplied program
  | cancel kraken => editor.cancel kraken

/-- The channel an edit is of. -/
def channel : CoolingOperation → Option Channel
  | setDuty channel _ | adjustDuty channel _ | adjustNode channel _ _ | setNode channel _ _
  | setNodeFrom channel .. => some channel
  | _ => none

/-- What may be done with an editor that was in these states: a base is a curve it held for that
channel, and a program is one the daemon accepts. -/
def Admitted (held : List CoolingEditor) : CoolingOperation → Prop
  | adjustDuty _ steps | adjustNode _ _ steps => -100 ≤ steps ∧ steps ≤ 100
  | setNodeFrom channel base _ _ => ∃ editor ∈ held, editor.curve channel = base
  | adopt program | recordApplied program => validateProgram program = .ok ()
  | _ => True

end CoolingOperation

namespace CoolingEditor

/-- The states of an editor, from the new one on, the latest first. -/
inductive Held : List CoolingEditor → Prop
  | new : Held [.new]
  | step {editor : CoolingEditor} {earlier : List CoolingEditor} (operation : CoolingOperation)
      (h : Held (editor :: earlier)) (hadmitted : operation.Admitted (editor :: earlier)) :
      Held (operation.apply editor :: editor :: earlier)

/-! ## What every state keeps -/

/-- The nodes of a channel never fall and are nowhere below its floor. -/
structure Drawable (channel : Channel) (nodes : CurveNodes) : Prop where
  rising : nodes.Rising
  floor : ∀ i, channel.minDuty ≤ nodes.duty.get i

structure Sound (editor : CoolingEditor) : Prop where
  curve : ∀ channel, Drawable channel (editor.curve channel)
  duty : ∀ channel, channel.minDuty ≤ editor.duty channel
  applied : ∀ program, editor.applied = some program → validateProgram program = .ok ()

/-! ## One channel -/

theorem drawable_set {channel : Channel} {nodes : CurveNodes} (h : Drawable channel nodes) (index : Nat)
    (duty : UInt8) : Drawable channel (nodes.set index (max duty channel.minDuty)) := by
  refine ⟨h.rising.set index _, fun i => ?_⟩
  have hfloor := le_max_floor duty channel.minDuty
  have hnode := h.floor i
  unfold CurveNodes.set
  split
  · exact hnode
  · rw [get_ofFn]
    dsimp only
    split
    · exact hfloor
    · split
      · split
        · exact hfloor
        · exact hnode
      · split
        · exact hfloor
        · exact hnode

theorem drawable_of_fromCurve {channel : Channel} {curve : TemperatureCurve} {nodes : CurveNodes}
    (hvalid : validateCurve channel curve = .ok ()) (h : CurveNodes.fromCurve curve = some nodes) :
    Drawable channel nodes := by
  have hrising := rising_of_validateCurve hvalid
  refine ⟨fun i j hij => ?_, fun i => ?_⟩
  · rw [CurveNodes.get_of_fromCurve h, CurveNodes.get_of_fromCurve h]
    refine hrising _ _ ?_
    have hle : i.val ≤ j.val := hij
    change CurveNodes.pointIndex i.val ≤ CurveNodes.pointIndex j.val
    unfold CurveNodes.pointIndex
    have hstep : i.val * CURVE_NODE_STEP_C ≤ j.val * CURVE_NODE_STEP_C := Nat.mul_le_mul_right _ hle
    omega
  · rw [CurveNodes.get_of_fromCurve h]
    exact validateCurve_ok hvalid _

theorem Drawable.validateCurve {channel : Channel} {nodes : CurveNodes} (h : Drawable channel nodes) :
    validateCurve channel nodes.interpolate = .ok () := by
  rw [validateCurve_of_rising (CurveNodes.interpolate_rising h.rising)]
  have hfirst := CurveNodes.get_interpolate_nodePoint nodes ⟨0, by decide⟩
  change channel.minDuty ≤ nodes.interpolate.points.get (CurveNodes.nodePoint ⟨0, by decide⟩)
  rw [hfirst]
  exact h.floor _

theorem validateDuty_of_floor {channel : Channel} {duty : UInt8} (h : channel.minDuty ≤ duty) :
    validateDuty channel duty = .ok () := if_neg (UInt8.not_lt.mpr h)

theorem max_of_floor {duty floor : UInt8} (h : floor ≤ duty) : max duty floor = duty := by
  change (if duty ≤ floor then floor else duty) = duty
  split
  · rename_i hle
    exact UInt8.le_antisymm h hle
  · rfl

theorem both_ok {ε : Type} {first second : Except ε Unit} :
    (do first; second) = .ok () ↔ first = .ok () ∧ second = .ok () := by
  cases first with
  | error error => simp [bind, Except.bind]
  | ok => simp [bind, Except.bind]

theorem validateProgram_fixed {pump fan : UInt8} :
    validateProgram (.fixed pump fan) = .ok () ↔ validateDuty .pump pump = .ok () ∧ validateDuty .fan fan = .ok () :=
  both_ok

theorem validateProgram_curve {pump fan : TemperatureCurve} :
    validateProgram (.curve pump fan) = .ok () ↔
      Kori.validateCurve .pump pump = .ok () ∧ Kori.validateCurve .fan fan = .ok () := both_ok

variable {editor : CoolingEditor}

/-! ## What an edit changes -/

theorem duty_setDuty (channel other : Channel) (duty : UInt8) : (editor.setDuty channel duty).duty other =
    if other = channel then max duty channel.minDuty else editor.duty other := by
  cases channel <;> cases other <;> rfl

theorem curve_setDuty (channel other : Channel) (duty : UInt8) :
    (editor.setDuty channel duty).curve other = editor.curve other := by
  cases channel <;> cases other <;> rfl

theorem applied_setDuty (channel : Channel) (duty : UInt8) : (editor.setDuty channel duty).applied = editor.applied := by
  cases channel <;> rfl

theorem duty_setNodeFrom (channel other : Channel) (base : CurveNodes) (index : Nat) (duty : UInt8) :
    (editor.setNodeFrom channel base index duty).duty other = editor.duty other := by
  cases channel <;> cases other <;> rfl

theorem curve_setNodeFrom (channel other : Channel) (base : CurveNodes) (index : Nat) (duty : UInt8) :
    (editor.setNodeFrom channel base index duty).curve other =
      if other = channel then base.set index (max duty channel.minDuty) else editor.curve other := by
  cases channel <;> cases other <;> rfl

theorem applied_setNodeFrom (channel : Channel) (base : CurveNodes) (index : Nat) (duty : UInt8) :
    (editor.setNodeFrom channel base index duty).applied = editor.applied := by
  cases channel <;> rfl

theorem duty_loadDuty (channel other : Channel) (reading : Option UInt8) :
    (editor.loadDuty channel reading).duty other =
      if other = channel then (reading.map fun duty => max duty channel.minDuty).getD (editor.duty other)
      else editor.duty other := by
  cases reading with
  | none => cases channel <;> cases other <;> rfl
  | some duty => exact duty_setDuty channel other duty

theorem curve_loadDuty (channel other : Channel) (reading : Option UInt8) :
    (editor.loadDuty channel reading).curve other = editor.curve other := by
  cases reading with
  | none => rfl
  | some duty => exact curve_setDuty channel other duty

theorem applied_loadDuty (channel : Channel) (reading : Option UInt8) :
    (editor.loadDuty channel reading).applied = editor.applied := by
  cases reading with
  | none => rfl
  | some duty => exact applied_setDuty channel duty

theorem Sound.setMode (h : editor.Sound) (mode : CoolingMode) : (editor.setMode mode).Sound :=
  ⟨fun channel => by cases channel; exacts [h.curve .pump, h.curve .fan],
    fun channel => by cases channel; exacts [h.duty .pump, h.duty .fan], h.applied⟩

theorem Sound.setDuty (h : editor.Sound) (channel : Channel) (duty : UInt8) : (editor.setDuty channel duty).Sound := by
  refine ⟨fun other => ?_, fun other => ?_, ?_⟩
  · rw [curve_setDuty]
    exact h.curve other
  · rw [duty_setDuty]
    split
    · rename_i heq
      rw [heq]
      exact le_max_floor ..
    · exact h.duty other
  · rw [applied_setDuty]
    exact h.applied

theorem Sound.loadDuty (h : editor.Sound) (channel : Channel) (reading : Option UInt8) :
    (editor.loadDuty channel reading).Sound := by
  cases reading with
  | none => exact h
  | some duty => exact h.setDuty channel duty

theorem Sound.setNodeFrom (h : editor.Sound) {channel : Channel} {base : CurveNodes} (hbase : Drawable channel base)
    (index : Nat) (duty : UInt8) : (editor.setNodeFrom channel base index duty).Sound := by
  refine ⟨fun other => ?_, fun other => ?_, ?_⟩
  · rw [curve_setNodeFrom]
    split
    · rename_i heq
      rw [heq]
      exact drawable_set hbase index duty
    · exact h.curve other
  · rw [duty_setNodeFrom]
    exact h.duty other
  · rw [applied_setNodeFrom]
    exact h.applied

theorem Sound.setNode (h : editor.Sound) (channel : Channel) (index : Nat) (duty : UInt8) :
    (editor.setNode channel index duty).Sound := h.setNodeFrom (h.curve channel) index duty

theorem Sound.record (h : editor.Sound) {program : CoolingProgram} (hvalid : validateProgram program = .ok ()) :
    (editor.recordApplied program).Sound := by
  refine ⟨fun channel => ?_, fun channel => ?_, ?_⟩
  · cases channel
    exacts [h.curve .pump, h.curve .fan]
  · cases channel
    exacts [h.duty .pump, h.duty .fan]
  · rintro other ⟨⟩
    exact hvalid

theorem Sound.withCurves (h : editor.Sound) {pump fan : TemperatureCurve} {pumpCurve fanCurve : CurveNodes}
    (hvalid : validateProgram (.curve pump fan) = .ok ()) (hpump : CurveNodes.fromCurve pump = some pumpCurve)
    (hfan : CurveNodes.fromCurve fan = some fanCurve) : ({ editor with pumpCurve, fanCurve } : CoolingEditor).Sound := by
  obtain ⟨hvalidpump, hvalidfan⟩ := validateProgram_curve.mp hvalid
  refine ⟨fun channel => ?_, fun channel => ?_, h.applied⟩
  · cases channel
    exacts [drawable_of_fromCurve hvalidpump hpump, drawable_of_fromCurve hvalidfan hfan]
  · cases channel
    exacts [h.duty .pump, h.duty .fan]

theorem Sound.restoreCurves (h : editor.Sound) : editor.restoreCurves.Sound := by
  unfold CoolingEditor.restoreCurves
  split
  · rename_i pump fan happlied
    split
    · rename_i hpump hfan
      exact h.withCurves (h.applied _ happlied) hpump hfan
    · exact h
  · exact h

theorem Sound.cancel (h : editor.Sound) (kraken : Option KrakenTelemetry) : (editor.cancel kraken).Sound := by
  cases kraken with
  | none => exact h.restoreCurves.setMode .onboard
  | some kraken => exact ((h.restoreCurves.loadDuty .pump _).loadDuty .fan _).setMode _

theorem Sound.adopt (h : editor.Sound) {program : CoolingProgram} (hvalid : validateProgram program = .ok ()) :
    (editor.adopt program).Sound := by
  cases program with
  | onboard => exact (h.setMode .onboard).record hvalid
  | fixed pump fan => exact (((h.setDuty .pump pump).setDuty .fan fan).setMode .fixed).record hvalid
  | curve pump fan =>
    unfold CoolingEditor.adopt
    dsimp only
    split
    · rename_i hpump hfan
      exact ((h.withCurves hvalid hpump hfan).setMode .curve).record hvalid
    · exact h

theorem startingRamp_rising : CurveNodes.startingRamp.Rising := by
  unfold CurveNodes.Rising
  decide +kernel

theorem sound_new : new.Sound := by
  have hramp : ∀ channel, Drawable channel .startingRamp :=
    Channel.forall_iff.mpr ⟨⟨startingRamp_rising, by decide +kernel⟩, ⟨startingRamp_rising, by decide +kernel⟩⟩
  refine ⟨fun channel => ?_, fun channel => ?_, ?_⟩
  · cases channel
    exacts [hramp .pump, hramp .fan]
  · cases channel <;> decide
  · rintro program ⟨⟩

theorem Sound.apply (h : editor.Sound) {held : List CoolingEditor} (hheld : ∀ earlier ∈ held, earlier.Sound)
    {operation : CoolingOperation} (hadmitted : operation.Admitted held) :
    (operation.apply editor).Sound := by
  cases operation with
  | setDuty channel duty => exact h.setDuty channel duty
  | adjustDuty channel steps => exact h.setDuty channel _
  | adjustNode channel node steps =>
    unfold CoolingOperation.apply adjustNode
    exact h.setNode channel _ _
  | setNode channel index duty => exact h.setNode channel index duty
  | setNodeFrom channel base index duty =>
    obtain ⟨earlier, hmem, rfl⟩ := hadmitted
    exact h.setNodeFrom ((hheld earlier hmem).curve channel) index duty
  | setMode mode => exact h.setMode mode
  | adopt program =>
    unfold CoolingOperation.apply
    exact h.adopt hadmitted
  | recordApplied program => exact h.record hadmitted
  | cancel kraken => exact h.cancel kraken

theorem Held.sound {held : List CoolingEditor} (h : Held held) : ∀ editor ∈ held, editor.Sound := by
  induction h with
  | new =>
    intro editor hmem
    rw [List.mem_singleton.mp hmem]
    exact sound_new
  | step operation h hadmitted ih =>
    rw [List.forall_mem_cons]
    exact ⟨(ih _ List.mem_cons_self).apply ih hadmitted, ih⟩

/-! ## What it asks for is accepted -/

theorem Sound.accepted (h : editor.Sound) : validateProgram editor.program = .ok () := by
  unfold program
  split
  · rfl
  · exact validateProgram_fixed.mpr ⟨validateDuty_of_floor (h.duty .pump), validateDuty_of_floor (h.duty .fan)⟩
  · exact validateProgram_curve.mpr ⟨(h.curve .pump).validateCurve, (h.curve .fan).validateCurve⟩

theorem apply_other {operation : CoolingOperation} {channel other : Channel} (h : operation.channel = some channel)
    (hother : other ≠ channel) :
    (operation.apply editor).duty other = editor.duty other ∧
      (operation.apply editor).curve other = editor.curve other := by
  have hduty : ∀ duty, (editor.setDuty channel duty).duty other = editor.duty other ∧
      (editor.setDuty channel duty).curve other = editor.curve other := fun duty =>
    ⟨(duty_setDuty ..).trans (if_neg hother), curve_setDuty ..⟩
  have hnode : ∀ base index duty, (editor.setNodeFrom channel base index duty).duty other = editor.duty other ∧
      (editor.setNodeFrom channel base index duty).curve other = editor.curve other := fun base index duty =>
    ⟨duty_setNodeFrom .., (curve_setNodeFrom ..).trans (if_neg hother)⟩
  cases operation with
  | setDuty => cases h; exact hduty _
  | adjustDuty => cases h; exact hduty _
  | adjustNode => cases h; exact hnode _ _ _
  | setNode => cases h; exact hnode _ _ _
  | setNodeFrom => cases h; exact hnode _ _ _
  | setMode => cases h
  | adopt => cases h
  | recordApplied => cases h
  | cancel => cases h

theorem adopt_spec {program : CoolingProgram} (hvalid : validateProgram program = .ok ()) :
    (editor.adopt program).program = program ∧ (editor.adopt program).applied = some program ∨
      editor.adopt program = editor ∧ ∃ pump fan, program = .curve pump fan ∧
        ¬ ∃ pumpCurve fanCurve : CurveNodes, pumpCurve.interpolate = pump ∧ fanCurve.interpolate = fan := by
  cases program with
  | onboard => exact .inl ⟨rfl, rfl⟩
  | fixed pump fan =>
    obtain ⟨hpump, hfan⟩ := validateProgram_fixed.mp hvalid
    refine .inl ⟨?_, rfl⟩
    change CoolingProgram.fixed (max pump Channel.pump.minDuty) (max fan Channel.fan.minDuty) = .fixed pump fan
    rw [max_of_floor (validateDuty_ok hpump), max_of_floor (validateDuty_ok hfan)]
  | curve pump fan =>
    unfold adopt
    dsimp only
    split
    · rename_i pumpCurve fanCurve hpump hfan
      refine .inl ⟨?_, rfl⟩
      change CoolingProgram.curve pumpCurve.interpolate fanCurve.interpolate = .curve pump fan
      rw [CurveNodes.interpolate_of_fromCurve hpump, CurveNodes.interpolate_of_fromCurve hfan]
    · rename_i hnone
      refine .inr ⟨rfl, pump, fan, rfl, ?_⟩
      rintro ⟨pumpCurve, fanCurve, rfl, rfl⟩
      exact hnone _ _ (CurveNodes.fromCurve_interpolate _) (CurveNodes.fromCurve_interpolate _)

/-- Whatever was done with it, each mode of the editor is a program the daemon accepts. -/
theorem held_states_accepted {held : List CoolingEditor} (h : Held held) (hmem : editor ∈ held) :
    (∀ mode, validateProgram (editor.setMode mode).program = .ok ()) ∧
      (∀ channel, (editor.curve channel).Rising) ∧
      (∀ i, Channel.pump.minDuty ≤ (editor.curve .pump).duty.get i) ∧
      Channel.pump.minDuty ≤ editor.duty .pump ∧
      (∀ (operation : CoolingOperation) channel other, operation.channel = some channel → other ≠ channel →
        (operation.apply editor).duty other = editor.duty other ∧
          (operation.apply editor).curve other = editor.curve other) ∧
      ∀ program, validateProgram program = .ok () →
        (editor.adopt program).program = program ∧ (editor.adopt program).applied = some program ∨
          editor.adopt program = editor ∧ ∃ pump fan, program = .curve pump fan ∧
            ¬ ∃ pumpCurve fanCurve : CurveNodes, pumpCurve.interpolate = pump ∧ fanCurve.interpolate = fan := by
  have hsound := h.sound editor hmem
  refine ⟨fun mode => (hsound.setMode mode).accepted, fun channel => (hsound.curve channel).rising,
    (hsound.curve .pump).floor, hsound.duty .pump, ?_, fun program hvalid => adopt_spec hvalid⟩
  intro operation channel other hchannel hother
  exact apply_other hchannel hother

theorem held_states_accepted_dragged :
    let dragged := new.setNode .pump 3 255
    let redrawn := dragged.setNodeFrom .pump new.pumpCurve 5 0
    let adopted := redrawn.adopt (.fixed 60 10)
    let reverted := adopted.cancel none
    Held [reverted, adopted, redrawn, dragged, new] ∧
      (∀ mode, validateProgram (redrawn.setMode mode).program = .ok ()) ∧ redrawn.pumpCurve.Rising ∧
      adopted.program = .fixed 60 10 := by
  intro dragged redrawn adopted reverted
  have hvalid : validateProgram (.fixed 60 10) = .ok () := by decide
  have hdragged : Held [dragged, new] := .step (.setNode .pump 3 255) .new trivial
  have hredrawn : Held [redrawn, dragged, new] :=
    .step (.setNodeFrom .pump new.pumpCurve 5 0) hdragged ⟨new, by simp, rfl⟩
  have hadopted : Held [adopted, redrawn, dragged, new] := .step (.adopt (.fixed 60 10)) hredrawn hvalid
  have h : Held [reverted, adopted, redrawn, dragged, new] := .step (.cancel none) hadopted trivial
  obtain ⟨hprogram, hrising, -, -, -, hadopt⟩ := @held_states_accepted redrawn _ h (by simp)
  refine ⟨h, hprogram, hrising .pump, ?_⟩
  obtain ⟨hopened, -⟩ | ⟨-, pump, fan, hcurve, -⟩ := hadopt _ hvalid
  · exact hopened
  · cases hcurve

end CoolingEditor

end Kori
