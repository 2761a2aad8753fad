import Mathlib.Order.Monotone.Basic

/-! # Intervals laid end to end -/

namespace Timeline

variable {duration : Nat → Nat} {origin : Nat}

/-- Where an interval begins. -/
def start (duration : Nat → Nat) (origin : Nat) : Nat → Nat
  | 0 => origin
  | k + 1 => start duration origin k + duration k

/-- The interval an instant falls in. -/
def Within (duration : Nat → Nat) (origin k t : Nat) : Prop :=
  start duration origin k ≤ t ∧ t < start duration origin (k + 1)

theorem start_mono : Monotone (start duration origin) :=
  monotone_nat_of_le_succ fun _ => Nat.le_add_right _ _

theorem origin_le_start (k : Nat) : origin ≤ start duration origin k :=
  start_mono (Nat.zero_le k)

theorem within_unique {j k t : Nat} (h : Within duration origin j t)
    (h' : Within duration origin k t) : j = k := by
  rcases Nat.lt_trichotomy j k with hlt | heq | hgt
  · have hle : start duration origin (j + 1) ≤ start duration origin k := start_mono hlt
    exact absurd h.2 (Nat.not_lt.mpr (hle.trans h'.1))
  · exact heq
  · have hle : start duration origin (k + 1) ≤ start duration origin j := start_mono hgt
    exact absurd h'.2 (Nat.not_lt.mpr (hle.trans h.1))

theorem start_add_mul_le {least : Nat} (h : ∀ k, least ≤ duration k) (k n : Nat) :
    start duration origin k + n * least ≤ start duration origin (k + n) := by
  induction n with
  | zero => simp
  | succ n ih =>
    have hlast := h (k + n)
    have hsucc : start duration origin (k + (n + 1)) =
        start duration origin (k + n) + duration (k + n) := rfl
    rw [hsucc, Nat.succ_mul]
    omega

theorem start_const (d k : Nat) : start (fun _ => d) origin k = origin + k * d := by
  induction k with
  | zero => simp [start]
  | succ k ih =>
    rw [start, ih, Nat.succ_mul]
    omega

end Timeline
