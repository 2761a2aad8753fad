import Kori.Core.Telemetry
import Mathlib.Algebra.Order.Field.Rat

/-! # The sections of a snapshot, with their own stamps -/

namespace Kori

/-- Clamps a percentage; what is not a number has none. -/
def clampPercent : F32 → Option F32
  | .finite value => some (.finite (max 0 (min value 100)))
  | .notFinite => none

/-- A percentage. `measured` names what was being read. -/
def Reading.percent (value : F32) (measured : String) : Reading F32 :=
  match clampPercent value with
  | some percent => .valid percent
  | none => .unavailable (.unparsable (measured ++ " did not resolve to a finite percentage."))

/-- The part of a whole as a percentage of it; of nothing it is not a number. -/
def ratio (part whole : Nat) : F32 := if whole = 0 then .notFinite else .finite ((part : ℚ) / whole * 100)

structure MemoryUsage where
  usedBytes : Nat
  totalBytes : Nat
deriving DecidableEq

/-- Occupancy; a total of zero was never read. -/
def MemoryUsage.percent (usage : MemoryUsage) : Option F32 :=
  if usage.totalBytes = 0 then none else clampPercent (ratio usage.usedBytes usage.totalBytes)

/-- What the processor and the memory report, and when. -/
structure SystemSection extends SystemTelemetry where
  atUnixMs : Nat
  memory : Reading MemoryUsage
deriving DecidableEq

/-- What the graphics processor reports, and when. -/
structure GpuSection extends GpuTelemetry where
  atUnixMs : Nat
  name : Reading String
deriving DecidableEq

theorem ratio_range {part whole : Nat} (h : part ≤ whole) (hwhole : whole ≠ 0) :
    ∃ share : ℚ, ratio part whole = .finite share ∧ 0 ≤ share ∧ share ≤ 100 := by
  have hpos : (0 : ℚ) < whole := by exact_mod_cast Nat.pos_of_ne_zero hwhole
  have hle : (part : ℚ) / whole ≤ 1 := (div_le_one hpos).mpr (by exact_mod_cast h)
  exact ⟨_, if_neg hwhole, by positivity, by linarith⟩

theorem clampPercent_ratio {part whole : Nat} (h : part ≤ whole) (hwhole : whole ≠ 0) :
    clampPercent (ratio part whole) = some (ratio part whole) := by
  obtain ⟨share, hshare, hlow, hhigh⟩ := ratio_range h hwhole
  rw [hshare, clampPercent, min_eq_left hhigh, max_eq_right hlow]

end Kori
