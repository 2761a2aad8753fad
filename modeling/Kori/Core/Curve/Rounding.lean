import Kori.Core.Curve
import Mathlib.Tactic.Linarith

/-! # Rounding to the nearest integer keeps the order -/

namespace Kori

theorem roundAway_of_nonneg {x : ℚ} (h : 0 ≤ x) : roundAway x = ⌊x + 1 / 2⌋ := if_pos h

theorem roundAway_of_neg {x : ℚ} (h : x < 0) : roundAway x = ⌈x - 1 / 2⌉ := if_neg (not_le.mpr h)

theorem roundAway_natCast (n : Nat) : roundAway n = n := by
  rw [roundAway_of_nonneg (Nat.cast_nonneg n), Int.floor_eq_iff]
  constructor <;> push_cast <;> linarith

theorem roundAway_mono {x y : ℚ} (h : x ≤ y) : roundAway x ≤ roundAway y := by
  rcases lt_or_ge y 0 with hy | hy
  · rw [roundAway_of_neg hy, roundAway_of_neg (lt_of_le_of_lt h hy)]
    exact Int.ceil_le_ceil (sub_le_sub_right h _)
  · rw [roundAway_of_nonneg hy]
    rcases lt_or_ge x 0 with hx | hx
    · rw [roundAway_of_neg hx]
      have hleft : ⌈x - 1 / 2⌉ ≤ 0 := Int.ceil_le.mpr (by push_cast; linarith)
      have hright : 0 ≤ ⌊y + 1 / 2⌋ := Int.le_floor.mpr (by push_cast; linarith)
      exact hleft.trans hright
    · rw [roundAway_of_nonneg hx]
      exact Int.floor_le_floor (add_le_add_left h _)

/-- Clamped at zero, a step of one in the argument is at most a step of one in the result. Without
the clamp it may be two, across zero. -/
theorem toNat_roundAway_add_one_le {x y : ℚ} (h : y ≤ x + 1) :
    (roundAway y).toNat ≤ (roundAway x).toNat + 1 := by
  rcases lt_or_ge y 0 with hy | hy
  · have hzero : roundAway y ≤ 0 := by
      rw [roundAway_of_neg hy]
      exact Int.ceil_le.mpr (by push_cast; linarith)
    omega
  · rcases lt_or_ge x 0 with hx | hx
    · have hone : roundAway y < 2 := by
        rw [roundAway_of_nonneg hy]
        exact Int.floor_lt.mpr (by push_cast; linarith)
      omega
    · have hstep : roundAway y ≤ roundAway x + 1 := by
        rw [roundAway_of_nonneg hx, roundAway_of_nonneg hy, ← Int.floor_add_one]
        exact Int.floor_le_floor (by linarith)
      omega

end Kori
