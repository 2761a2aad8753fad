import Kori.Core.Curve.Rounding
import Kori.Core.Profile

/-! # The nodes an operator edits, and the curve they stand for -/

namespace Kori

/-! ## A curve that never falls is accepted above its floor -/

theorem get_ofFn {α : Type} {n : Nat} (f : Fin n → α) (i : Fin n) : (Vector.ofFn f).get i = f i := by
  simp only [Vector.get, Vector.toArray_ofFn, Array.getElem_ofFn]
  rfl

namespace TemperatureCurve

def firstPoint : Fin CURVE_POINT_COUNT := ⟨0, by decide⟩

/-- The duty never falls as the temperature rises. -/
def Rising (curve : TemperatureCurve) : Prop :=
  ∀ i j, i ≤ j → curve.points.get i ≤ curve.points.get j

end TemperatureCurve

theorem validatePoints_of_rising {channel : Channel} {curve : TemperatureCurve} (hrising : curve.Rising)
    {rest : List (Fin CURVE_POINT_COUNT)} (hsorted : rest.Pairwise (· ≤ ·))
    (hfloor : ∀ i ∈ rest, channel.minDuty ≤ curve.points.get i) {previous : Option (UInt8 × UInt8)}
    (hprevious : ∀ value temperature, previous = some (value, temperature) →
      ∀ i ∈ rest, value ≤ curve.points.get i) :
    validatePoints channel curve rest previous = .ok () := by
  induction rest generalizing previous with
  | nil => rfl
  | cons index rest ih =>
    rw [List.pairwise_cons] at hsorted
    have hnext : validatePoints channel curve rest
        (some (curve.points.get index, TemperatureCurve.temperatureAt index)) = .ok () := by
      refine ih hsorted.2 (fun i hi => hfloor i (List.mem_cons_of_mem _ hi)) ?_
      intro value temperature heq i hi
      obtain ⟨rfl, -⟩ := Prod.mk.inj (Option.some.inj heq)
      exact hrising index i (hsorted.1 i hi)
    have hmin : ¬ curve.points.get index < channel.minDuty :=
      UInt8.not_lt.mpr (hfloor index List.mem_cons_self)
    unfold validatePoints
    dsimp only
    rw [if_neg hmin]
    cases previous with
    | none => exact hnext
    | some previous =>
      have hover := hprevious previous.1 previous.2 rfl index List.mem_cons_self
      dsimp only
      rw [if_neg (UInt8.not_lt.mpr hover)]
      exact hnext

theorem validateCurve_of_rising {curve : TemperatureCurve} (hrising : curve.Rising) (channel : Channel) :
    validateCurve channel curve = .ok () ↔ channel.minDuty ≤ curve.points.get TemperatureCurve.firstPoint := by
  refine ⟨fun h => validateCurve_ok h _, fun h => ?_⟩
  refine validatePoints_of_rising hrising (List.pairwise_le_finRange _) ?_ (fun _ _ hnone => nomatch hnone)
  intro i _
  exact UInt8.le_trans h (hrising _ i (Nat.zero_le i.val))

theorem pairwise_of_validatePoints {channel : Channel} {curve : TemperatureCurve}
    {rest : List (Fin CURVE_POINT_COUNT)} {previous : Option (UInt8 × UInt8)}
    (h : validatePoints channel curve rest previous = .ok ()) :
    rest.Pairwise (fun i j => curve.points.get i ≤ curve.points.get j) ∧
      ∀ value temperature, previous = some (value, temperature) → ∀ i ∈ rest, value ≤ curve.points.get i := by
  induction rest generalizing previous with
  | nil => exact ⟨List.Pairwise.nil, by simp⟩
  | cons index rest ih =>
    unfold validatePoints at h
    dsimp only at h
    split at h
    · cases h
    · cases previous with
      | none =>
        obtain ⟨hrest, hnext⟩ := ih h
        exact ⟨List.Pairwise.cons (hnext _ _ rfl) hrest, by simp⟩
      | some previous =>
        dsimp only at h
        split at h
        · cases h
        · rename_i hover
          obtain ⟨hrest, hnext⟩ := ih h
          refine ⟨List.Pairwise.cons (hnext _ _ rfl) hrest, ?_⟩
          intro value temperature heq i hi
          cases heq
          have hfirst : value ≤ curve.points.get index := UInt8.not_lt.mp hover
          rcases List.mem_cons.mp hi with rfl | hi
          · exact hfirst
          · exact UInt8.le_trans hfirst (hnext _ _ rfl i hi)

theorem rising_of_validateCurve {channel : Channel} {curve : TemperatureCurve}
    (h : validateCurve channel curve = .ok ()) : curve.Rising := by
  have hpairs := List.pairwise_iff_getElem.mp (pairwise_of_validatePoints h).1
  intro i j hij
  rcases Nat.eq_or_lt_of_le hij with heq | hlt
  · rw [Fin.ext heq]
    exact UInt8.le_refl _
  · have hpair := hpairs i.val j.val (by simp) (by simp) hlt
    simpa using hpair

namespace CurveNodes

/-! ## Editing -/

/-- The nodes never fall from one to the next. -/
def Rising (nodes : CurveNodes) : Prop := ∀ i j, i ≤ j → nodes.duty.get i ≤ nodes.duty.get j

/-- The nodes after a sequence of edits. -/
def setAll (nodes : CurveNodes) (edits : List (Nat × UInt8)) : CurveNodes :=
  edits.foldl (fun nodes edit => nodes.set edit.1 edit.2) nodes

theorem Rising.set {nodes : CurveNodes} (h : nodes.Rising) (index : Nat) (duty : UInt8) :
    (nodes.set index duty).Rising := by
  unfold CurveNodes.set
  split
  · exact h
  · intro i j hij
    have hduty := h i j hij
    have hle : i.val ≤ j.val := hij
    simp only [get_ofFn]
    grind

theorem Rising.setAll {nodes : CurveNodes} (h : nodes.Rising) (edits : List (Nat × UInt8)) :
    (nodes.setAll edits).Rising := by
  induction edits generalizing nodes with
  | nil => exact h
  | cons edit edits ih => exact ih (h.set edit.1 edit.2)

/-! ## From nodes to a curve -/

theorem lowNode_succ_lt (point : Nat) :
    min (point / CURVE_NODE_STEP_C) (CURVE_NODE_COUNT - 2) + 1 < CURVE_NODE_COUNT :=
  Nat.lt_of_le_of_lt (Nat.succ_le_succ (Nat.min_le_right ..)) (by decide)

/-- The node at the start of the segment a point falls in. -/
def lowNode (point : Fin CURVE_POINT_COUNT) : Fin CURVE_NODE_COUNT :=
  ⟨min (point.val / CURVE_NODE_STEP_C) (CURVE_NODE_COUNT - 2), Nat.lt_of_succ_lt (lowNode_succ_lt _)⟩

/-- The node at its end. -/
def highNode (point : Fin CURVE_POINT_COUNT) : Fin CURVE_NODE_COUNT :=
  ⟨(lowNode point).val + 1, lowNode_succ_lt _⟩

theorem lowNode_le_highNode (point : Fin CURVE_POINT_COUNT) : lowNode point ≤ highNode point :=
  Nat.le_succ _

theorem highNode_congr {i j : Fin CURVE_POINT_COUNT} (h : lowNode i = lowNode j) : highNode i = highNode j :=
  Fin.ext (congrArg (fun node => node.val + 1) h)

/-- How far along its segment a point is. -/
def fraction (point : Fin CURVE_POINT_COUNT) : ℚ :=
  ((point.val : ℚ) - pointIndex (lowNode point)) / ((pointIndex (highNode point) : ℚ) - pointIndex (lowNode point))

/-- The number a point's duty is rounded from, on the line between its two nodes. -/
def line (nodes : CurveNodes) (point : Fin CURVE_POINT_COUNT) : ℚ :=
  ((nodes.duty.get (lowNode point)).toNat : ℚ) +
    ((nodes.duty.get (highNode point)).toNat - (nodes.duty.get (lowNode point)).toNat) * fraction point

/-- A number rounded to the nearest duty. -/
def nearestDuty (x : ℚ) : UInt8 := UInt8.ofNat (min (roundAway x).toNat MAX_DUTY.toNat)

theorem pointIndex_lt (index : Fin CURVE_NODE_COUNT) : pointIndex index < CURVE_POINT_COUNT :=
  Nat.lt_of_le_of_lt (Nat.min_le_right ..) (by decide)

/-- The curve point a node sits on. -/
def nodePoint (index : Fin CURVE_NODE_COUNT) : Fin CURVE_POINT_COUNT :=
  ⟨pointIndex index, pointIndex_lt index⟩

theorem get_interpolate (nodes : CurveNodes) (point : Fin CURVE_POINT_COUNT) :
    nodes.interpolate.points.get point = nearestDuty (nodes.line point) := by
  unfold interpolate
  rw [get_ofFn]
  rfl

theorem toNat_nearestDuty (x : ℚ) : (nearestDuty x).toNat = min (roundAway x).toNat 255 := by
  have hmax : MAX_DUTY.toNat = 255 := rfl
  rw [nearestDuty, hmax, UInt8.toNat_ofNat', Nat.mod_eq_of_lt]
  omega

theorem nearestDuty_mono {x y : ℚ} (h : x ≤ y) : nearestDuty x ≤ nearestDuty y := by
  rw [UInt8.le_iff_toNat_le, toNat_nearestDuty, toNat_nearestDuty]
  have hround := Int.toNat_le_toNat (roundAway_mono h)
  omega

theorem nearestDuty_cast (duty : UInt8) : nearestDuty duty.toNat = duty := by
  apply UInt8.toNat_inj.mp
  have hlt := duty.toNat_lt
  rw [toNat_nearestDuty, roundAway_natCast]
  omega

theorem segment_spec (point : Fin CURVE_POINT_COUNT) :
    (pointIndex (lowNode point) : ℚ) ≤ point.val ∧ (point.val : ℚ) ≤ pointIndex (highNode point) ∧
      (pointIndex (lowNode point) : ℚ) < pointIndex (highNode point) := by
  have hpoint := point.isLt
  norm_cast
  unfold highNode lowNode pointIndex
  simp only [CURVE_NODE_STEP_C, CURVE_NODE_COUNT, CURVE_POINT_COUNT] at hpoint ⊢
  omega

theorem fraction_between (point : Fin CURVE_POINT_COUNT) : 0 ≤ fraction point ∧ fraction point ≤ 1 := by
  obtain ⟨hlow, hhigh, hdistinct⟩ := segment_spec point
  constructor
  · exact div_nonneg (by linarith) (by linarith)
  · exact (div_le_one (by linarith)).mpr (by linarith)

theorem fraction_mono {i j : Fin CURVE_POINT_COUNT} (hij : i ≤ j) (hsame : lowNode i = lowNode j) :
    fraction i ≤ fraction j := by
  obtain ⟨-, -, hdistinct⟩ := segment_spec j
  have hpoints : (i.val : ℚ) ≤ j.val := by exact_mod_cast hij
  unfold fraction
  rw [hsame, highNode_congr hsame]
  exact div_le_div_of_nonneg_right (by linarith) (sub_nonneg.mpr hdistinct.le)

theorem Rising.cast_le {nodes : CurveNodes} (h : nodes.Rising) {i j : Fin CURVE_NODE_COUNT} (hij : i ≤ j) :
    ((nodes.duty.get i).toNat : ℚ) ≤ (nodes.duty.get j).toNat := by
  exact_mod_cast UInt8.le_iff_toNat_le.mp (h i j hij)

theorem line_between {nodes : CurveNodes} (h : nodes.Rising) (point : Fin CURVE_POINT_COUNT) :
    ((nodes.duty.get (lowNode point)).toNat : ℚ) ≤ nodes.line point ∧
      nodes.line point ≤ (nodes.duty.get (highNode point)).toNat := by
  have hrise := sub_nonneg.mpr (h.cast_le (lowNode_le_highNode point))
  obtain ⟨hzero, hone⟩ := fraction_between point
  constructor
  · exact le_add_of_nonneg_right (mul_nonneg hrise hzero)
  · have hpart := mul_le_of_le_one_right hrise hone
    unfold line
    linarith

theorem line_mono {nodes : CurveNodes} (h : nodes.Rising) {i j : Fin CURVE_POINT_COUNT} (hij : i ≤ j) :
    nodes.line i ≤ nodes.line j := by
  have hsegment : lowNode i ≤ lowNode j := min_le_min_right _ (Nat.div_le_div_right hij)
  rcases Nat.eq_or_lt_of_le hsegment with heq | hlt
  · have hrise := sub_nonneg.mpr (h.cast_le (lowNode_le_highNode j))
    unfold line
    rw [highNode_congr (Fin.ext heq), Fin.ext heq]
    exact add_le_add_right (mul_le_mul_of_nonneg_left (fraction_mono hij (Fin.ext heq)) hrise) _
  · calc nodes.line i ≤ (nodes.duty.get (highNode i)).toNat := (line_between h i).2
      _ ≤ (nodes.duty.get (lowNode j)).toNat := h.cast_le hlt
      _ ≤ nodes.line j := (line_between h j).1

theorem interpolate_rising {nodes : CurveNodes} (h : nodes.Rising) : nodes.interpolate.Rising := by
  intro i j hij
  rw [get_interpolate, get_interpolate]
  exact nearestDuty_mono (line_mono h hij)

theorem node_of_nodePoint : ∀ index : Fin CURVE_NODE_COUNT,
    index = lowNode (nodePoint index) ∨ index = highNode (nodePoint index) := by decide

theorem line_nodePoint (nodes : CurveNodes) (index : Fin CURVE_NODE_COUNT) :
    nodes.line (nodePoint index) = (nodes.duty.get index).toNat := by
  obtain ⟨-, -, hdistinct⟩ := segment_spec (nodePoint index)
  have hpoint : (nodePoint index).val = pointIndex index := rfl
  unfold line
  rcases node_of_nodePoint index with hlow | hhigh
  · have hfraction : fraction (nodePoint index) = 0 := by
      rw [fraction, ← hlow, hpoint, sub_self, zero_div]
    rw [hfraction, mul_zero, add_zero, ← hlow]
  · have hfraction : fraction (nodePoint index) = 1 := by
      rw [fraction, hpoint, ← hhigh]
      rw [← hhigh] at hdistinct
      exact div_self (sub_ne_zero.mpr hdistinct.ne')
    rw [hfraction, mul_one, add_sub_cancel, ← hhigh]

theorem get_interpolate_nodePoint (nodes : CurveNodes) (index : Fin CURVE_NODE_COUNT) :
    nodes.interpolate.points.get (nodePoint index) = nodes.duty.get index := by
  rw [get_interpolate, line_nodePoint, nearestDuty_cast]

/-! ## And back -/

/-- The nodes a curve would come from. -/
def sampled (curve : TemperatureCurve) : CurveNodes :=
  ⟨Vector.ofFn fun index => curve.points.get (nodePoint index)⟩

theorem ext_get {nodes others : CurveNodes} (h : ∀ i, nodes.duty.get i = others.duty.get i) : nodes = others := by
  obtain ⟨duties⟩ := nodes
  obtain ⟨others⟩ := others
  congr 1
  exact Vector.ext fun i hi => h ⟨i, hi⟩

theorem sampled_interpolate (nodes : CurveNodes) : sampled nodes.interpolate = nodes := by
  refine ext_get fun index => ?_
  rw [sampled, get_ofFn, get_interpolate_nodePoint]

theorem fromCurve_eq (curve : TemperatureCurve) :
    fromCurve curve = if (sampled curve).interpolate = curve then some (sampled curve) else none := rfl

theorem fromCurve_interpolate (nodes : CurveNodes) : fromCurve nodes.interpolate = some nodes := by
  rw [fromCurve_eq, sampled_interpolate, if_pos rfl]

theorem interpolate_of_fromCurve {curve : TemperatureCurve} {nodes : CurveNodes}
    (h : fromCurve curve = some nodes) : nodes.interpolate = curve := by
  rw [fromCurve_eq] at h
  split at h
  · rw [← Option.some.inj h]
    assumption
  · cases h

theorem get_of_fromCurve {curve : TemperatureCurve} {nodes : CurveNodes} (h : fromCurve curve = some nodes)
    (index : Fin CURVE_NODE_COUNT) : nodes.duty.get index = curve.points.get (nodePoint index) := by
  rw [← interpolate_of_fromCurve h, get_interpolate_nodePoint]

/-- Edited nodes rise, their curve rises through every node and is accepted above the floor, and the
editor reads back what it drew and only that. -/
theorem nodes_and_curves_agree :
    (∀ (nodes : CurveNodes) (edits : List (Nat × UInt8)), nodes.Rising →
      (nodes.setAll edits).Rising ∧ (nodes.setAll edits).interpolate.Rising ∧
        (∀ index, (nodes.setAll edits).interpolate.points.get (nodePoint index) =
          (nodes.setAll edits).duty.get index) ∧
        validateCurve .fan (nodes.setAll edits).interpolate = .ok () ∧
        (validateCurve .pump (nodes.setAll edits).interpolate = .ok () ↔
          MIN_PUMP_DUTY ≤ (nodes.setAll edits).duty.get ⟨0, by decide⟩)) ∧
      (∀ nodes : CurveNodes, fromCurve nodes.interpolate = some nodes) ∧
      ∀ (curve : TemperatureCurve) (nodes : CurveNodes), fromCurve curve = some nodes →
        nodes.interpolate = curve := by
  refine ⟨fun nodes edits h => ?_, fromCurve_interpolate, fun curve nodes => interpolate_of_fromCurve⟩
  have hedited := h.setAll edits
  have hcurve := interpolate_rising hedited
  have hfirst := get_interpolate_nodePoint (nodes.setAll edits) ⟨0, by decide⟩
  refine ⟨hedited, hcurve, get_interpolate_nodePoint _, ?_, ?_⟩
  · exact (validateCurve_of_rising hcurve .fan).mpr UInt8.zero_le
  · rw [validateCurve_of_rising hcurve .pump, ← hfirst]
    rfl

/-- Nodes that start at the pump floor and end at full speed. -/
def benchNodes : CurveNodes := ⟨#v[51, 51, 60, 80, 110, 150, 190, 240, 255]⟩

theorem benchNodes_agree :
    let edited := benchNodes.setAll [(4, 200), (7, 90), (12, 0)]
    edited.Rising ∧ edited.interpolate.Rising ∧
      (∀ index, edited.interpolate.points.get (nodePoint index) = edited.duty.get index) ∧
      validateCurve .fan edited.interpolate = .ok () ∧
      (validateCurve .pump edited.interpolate = .ok () ↔ MIN_PUMP_DUTY ≤ edited.duty.get ⟨0, by decide⟩) :=
  nodes_and_curves_agree.1 benchNodes [(4, 200), (7, 90), (12, 0)] (by unfold Rising; decide)

end CurveNodes

end Kori
