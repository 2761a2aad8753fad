import Mathlib.Order.Defs.LinearOrder

/-! # Cooling channels and the duties they accept -/

namespace Kori

/-- Lowest duty the product will command on a liquid cooler pump. -/
def MIN_PUMP_DUTY : UInt8 := 51
/-- Lowest duty commanded on a fan channel. -/
def MIN_FAN_DUTY : UInt8 := 0
def MAX_DUTY : UInt8 := 255

/-- The device stores a percentage, so it has this many settings above its lowest. -/
def MAX_DUTY_PERCENT : UInt8 := 100

/-- The duty that means a percentage. -/
def dutyFromPercent (percent : UInt8) : UInt8 :=
  UInt8.ofNat (((min percent.toNat MAX_DUTY_PERCENT.toNat) * MAX_DUTY.toNat + 50) / 100)

/-- The percentage a duty becomes on the device. -/
def dutyToPercent (duty : UInt8) : UInt8 :=
  UInt8.ofNat ((duty.toNat * 100 + MAX_DUTY.toNat / 2) / MAX_DUTY.toNat)

theorem le_max_floor (duty floor : UInt8) : floor ≤ max duty floor := by
  change floor ≤ if duty ≤ floor then floor else duty
  split
  · exact UInt8.le_refl floor
  · exact UInt8.le_of_lt (UInt8.not_le.mp ‹_›)

inductive Channel where
  | pump
  | fan
deriving DecidableEq, Repr

namespace Channel

def label : Channel → String
  | pump => "Pump"
  | fan => "Fan"

def minDuty : Channel → UInt8
  | pump => MIN_PUMP_DUTY
  | fan => MIN_FAN_DUTY

theorem forall_iff {P : Channel → Prop} : (∀ channel, P channel) ↔ P pump ∧ P fan :=
  ⟨fun h => ⟨h _, h _⟩, fun h channel => by cases channel; exacts [h.1, h.2]⟩

instance {P : Channel → Prop} [DecidablePred P] : Decidable (∀ channel, P channel) :=
  decidable_of_iff _ forall_iff.symm

end Channel

end Kori
