import Kori.Core.Channel
import Mathlib.Algebra.Order.Round
import Mathlib.Data.Rat.Floor

/-! # The curve the kernel takes: forty duties, one per degree -/

namespace Kori

/-- An `f32`. The product only asks which number a finite one is. -/
inductive F32 where
  | finite (value : ℚ)
  | notFinite
deriving DecidableEq, Repr

/-- `f32::round`, which rounds half away from zero. -/
def roundAway (x : ℚ) : ℤ := if 0 ≤ x then ⌊x + 1 / 2⌋ else ⌈x - 1 / 2⌉

/-- Kernel curve points, one per degree Celsius. -/
def CURVE_POINT_COUNT : Nat := 40
/-- Temperature of the first curve point, in degrees Celsius. -/
def CURVE_FIRST_TEMP_C : UInt8 := 20

/-- Exactly one PWM value per kernel curve point. -/
structure TemperatureCurve where
  points : Vector UInt8 CURVE_POINT_COUNT
deriving DecidableEq

namespace TemperatureCurve

def temperatureAt (index : Fin CURVE_POINT_COUNT) : UInt8 :=
  CURVE_FIRST_TEMP_C + UInt8.ofNat index

def flat (duty : UInt8) : TemperatureCurve := ⟨Vector.replicate CURVE_POINT_COUNT duty⟩

/-- The point that governs a temperature, clamped at both ends; a temperature that is not a
number names none. -/
def pointIndexFor : F32 → Option (Fin CURVE_POINT_COUNT)
  | .notFinite => none
  | .finite t =>
    some ⟨min (roundAway (t - CURVE_FIRST_TEMP_C.toNat)).toNat (CURVE_POINT_COUNT - 1), by
      simp only [CURVE_POINT_COUNT]; omega⟩

def dutyAt (curve : TemperatureCurve) (temperature : F32) : Option UInt8 :=
  (pointIndexFor temperature).map curve.points.get

/-- The last point, because a validated curve never decreases. -/
def highestDuty (curve : TemperatureCurve) : UInt8 :=
  curve.points.get ⟨CURVE_POINT_COUNT - 1, by decide⟩

theorem ext_get {c d : TemperatureCurve} (h : ∀ i, c.points.get i = d.points.get i) : c = d := by
  obtain ⟨p⟩ := c
  obtain ⟨q⟩ := d
  congr 1
  exact Vector.ext fun i hi => h ⟨i, hi⟩

end TemperatureCurve

/-! ## The editable form of a curve -/

/-- Degrees between two nodes. -/
def CURVE_NODE_STEP_C : Nat := 5
def CURVE_NODE_COUNT : Nat := 9

/-- One duty per node over the fixed kernel range. -/
structure CurveNodes where
  duty : Vector UInt8 CURVE_NODE_COUNT
deriving DecidableEq

namespace CurveNodes

/-- The curve point a node sits on; the last one sits on the last point there is. -/
def pointIndex (index : Nat) : Nat := min (index * CURVE_NODE_STEP_C) (CURVE_POINT_COUNT - 1)

/-- Sets one node: raising it lifts every node above it, lowering it pulls every node below it. -/
def set (index : Nat) (duty : UInt8) (nodes : CurveNodes) : CurveNodes :=
  if CURVE_NODE_COUNT ≤ index then nodes
  else ⟨Vector.ofFn fun i =>
    let value := nodes.duty.get i
    if i.val = index then duty
    else if index < i.val then (if value < duty then duty else value)
    else if duty < value then duty else value⟩

/-- Linear between nodes, rounded to the nearest integer. -/
def interpolate (nodes : CurveNodes) : TemperatureCurve :=
  ⟨Vector.ofFn fun point =>
    let lower := min (point.val / CURVE_NODE_STEP_C) (CURVE_NODE_COUNT - 2)
    have hlower : lower + 1 < CURVE_NODE_COUNT := by
      have hmin : lower ≤ CURVE_NODE_COUNT - 2 := Nat.min_le_right ..
      have hcount : CURVE_NODE_COUNT = 9 := rfl
      omega
    let low : ℚ := (nodes.duty.get ⟨lower, Nat.lt_of_succ_lt hlower⟩).toNat
    let high : ℚ := (nodes.duty.get ⟨lower + 1, hlower⟩).toNat
    let fraction : ℚ := ((point.val : ℚ) - pointIndex lower) / ((pointIndex (lower + 1) : ℚ) - pointIndex lower)
    UInt8.ofNat (min (roundAway (low + (high - low) * fraction)).toNat MAX_DUTY.toNat)⟩

/-- The curve the editor starts from: a ramp from 40% to 100%. -/
def startingRamp : CurveNodes :=
  ⟨Vector.ofFn fun index =>
    let percent : ℚ := 40 + index.val * (60 / ((CURVE_NODE_COUNT - 1 : Nat) : ℚ))
    dutyFromPercent (UInt8.ofNat (min (roundAway percent).toNat 100))⟩

/-- The nodes of a curve this editor could have drawn. -/
def fromCurve (curve : TemperatureCurve) : Option CurveNodes :=
  let nodes : CurveNodes := ⟨Vector.ofFn fun index =>
    curve.points.get ⟨pointIndex index.val, Nat.lt_of_le_of_lt (Nat.min_le_right ..) (by decide)⟩⟩
  if nodes.interpolate = curve then some nodes else none

end CurveNodes

end Kori
