import Kori.Core.Display
import Kori.Core.Text

/-! # Named cooling profiles, and the validation every value passes -/

namespace Kori

def CONFIG_SCHEMA_VERSION : Nat := 4
/-- Name of the built-in profile that is always available and always safe. -/
def SAFE_PROFILE_NAME : String := "Onboard safe"
def PROFILE_NAME_MIN_LEN : Nat := 1
def PROFILE_NAME_MAX_LEN : Nat := 48
/-- Shortest interval the daemon leaves between two writes to the thermal path. -/
def MIN_PROGRAM_INTERVAL_MS : Nat := 200

/-- What a profile asks the hardware to do. -/
inductive CoolingProgram where
  /-- Leave the device on its own firmware program. -/
  | onboard
  | fixed (pump fan : UInt8)
  | curve (pump fan : TemperatureCurve)
deriving DecidableEq

/-- Capabilities that must be writable before this program can be applied. -/
def CoolingProgram.requiredCapabilities : CoolingProgram → List CapabilityId
  | onboard => []
  | fixed .. => [.pumpDuty, .fanDuty]
  | curve .. => [.pumpCurve, .fanCurve]

/-- A named local profile. -/
structure Profile where
  name : String
  program : CoolingProgram
  device : Option DeviceId
  lighting : List LightingCommand
  display : Option DisplayPreset
deriving DecidableEq

/-- The built-in profile selected whenever configuration cannot be trusted. -/
def Profile.safe : Profile :=
  { name := SAFE_PROFILE_NAME, program := .onboard, device := none, lighting := [], display := none }

/-- Why a value or profile was refused. -/
inductive ValidationError where
  | nameLength (min max : Nat)
  | nameBlank
  | dutyOutOfRange (channel : Channel) (value min max : UInt8)
  | curvePointCount (expected actual : Nat)
  | curveDutyOutOfRange (channel : Channel) (temperatureC value min max : UInt8)
  | lighting (channel : UInt8) (source : LightingError)
  | display (source : DisplayError)
  | curveNotMonotonic (channel : Channel) (previous previousTemperatureC value temperatureC : UInt8)
deriving DecidableEq, Repr

def ValidationError.message : ValidationError → String
  | nameLength min max => s!"Profile name must be {min}-{max} characters."
  | nameBlank => "Profile name must not be blank or padded with whitespace."
  | dutyOutOfRange channel value min max =>
    s!"{channel.label} duty {value.toNat} is outside the accepted range {min.toNat}-{max.toNat}."
  | curvePointCount expected actual =>
    s!"A curve must contain exactly {expected} points, got {actual}."
  | curveDutyOutOfRange channel temperatureC value min max =>
    s!"{channel.label} curve duty at {temperatureC.toNat} C is {value.toNat}, outside the " ++
      s!"accepted range {min.toNat}-{max.toNat}."
  | lighting channel source => s!"Lighting on channel {channel.toNat} is invalid: {source.display}"
  | display source => s!"The panel preset is invalid: {source.display}"
  | curveNotMonotonic channel previous previousTemperatureC value temperatureC =>
    s!"{channel.label} curve duty must never decrease as temperature rises: {previous.toNat} at " ++
      s!"{previousTemperatureC.toNat} C then {value.toNat} at {temperatureC.toNat} C."

/-! ## Validation -/

def validateDuty (channel : Channel) (value : UInt8) : Except ValidationError Unit :=
  if value < channel.minDuty then
    .error (.dutyOutOfRange channel value channel.minDuty MAX_DUTY)
  else .ok ()

/-- The points still to check, with the duty and the temperature of the one before. -/
def validatePoints (channel : Channel) (curve : TemperatureCurve) :
    List (Fin CURVE_POINT_COUNT) → Option (UInt8 × UInt8) → Except ValidationError Unit
  | [], _ => .ok ()
  | index :: rest, previous => do
    let value := curve.points.get index
    let temperatureC := TemperatureCurve.temperatureAt index
    if value < channel.minDuty then
      .error (.curveDutyOutOfRange channel temperatureC value channel.minDuty MAX_DUTY)
    else
      match previous with
      | some (previousValue, previousTemperatureC) =>
        if value < previousValue then
          .error (.curveNotMonotonic channel previousValue previousTemperatureC value temperatureC)
        else validatePoints channel curve rest (some (value, temperatureC))
      | none => validatePoints channel curve rest (some (value, temperatureC))

/-- Validates a complete curve before any point is written. -/
def validateCurve (channel : Channel) (curve : TemperatureCurve) : Except ValidationError Unit :=
  validatePoints channel curve (List.finRange CURVE_POINT_COUNT) none

def validateName (name : String) : Except ValidationError Unit :=
  let trimmed := Text.trim name.toList
  if trimmed ≠ name.toList ∨ trimmed = [] then .error .nameBlank
  else if ¬ (PROFILE_NAME_MIN_LEN ≤ name.toList.length ∧ name.toList.length ≤ PROFILE_NAME_MAX_LEN) then
    .error (.nameLength PROFILE_NAME_MIN_LEN PROFILE_NAME_MAX_LEN)
  else .ok ()

/-- Validates every value a program carries, before any of it can be written. -/
def validateProgram : CoolingProgram → Except ValidationError Unit
  | .onboard => .ok ()
  | .fixed pump fan => do
    validateDuty .pump pump
    validateDuty .fan fan
  | .curve pump fan => do
    validateCurve .pump pump
    validateCurve .fan fan

def validateLighting : List LightingCommand → Except ValidationError Unit
  | [] => .ok ()
  | command :: rest => do
    (Lighting.validateProgram command.program).mapError (.lighting command.channel)
    validateLighting rest

/-- Validates a whole profile: name, then every value it carries. -/
def validateProfile (profile : Profile) : Except ValidationError Unit := do
  validateName profile.name
  validateProgram profile.program
  validateLighting profile.lighting
  match profile.display with
  | some preset => preset.validate.mapError .display
  | none => .ok ()

theorem validateDuty_ok {channel : Channel} {value : UInt8}
    (h : validateDuty channel value = .ok ()) : channel.minDuty ≤ value := by
  unfold validateDuty at h
  split at h
  · cases h
  · exact UInt8.not_lt.mp ‹_›

theorem validatePoints_ok {channel : Channel} {curve : TemperatureCurve}
    (rest : List (Fin CURVE_POINT_COUNT)) (previous : Option (UInt8 × UInt8))
    (h : validatePoints channel curve rest previous = .ok ()) :
    ∀ i ∈ rest, channel.minDuty ≤ curve.points.get i := by
  induction rest generalizing previous with
  | nil => simp
  | cons index rest ih =>
    simp only [validatePoints] at h
    split at h
    · cases h
    · rename_i hmin
      have hrest : ∀ i ∈ rest, channel.minDuty ≤ curve.points.get i := by
        split at h
        · split at h
          · cases h
          · exact ih _ h
        · exact ih _ h
      simpa using ⟨UInt8.not_lt.mp hmin, hrest⟩

theorem validateCurve_ok {channel : Channel} {curve : TemperatureCurve}
    (h : validateCurve channel curve = .ok ()) (i : Fin CURVE_POINT_COUNT) :
    channel.minDuty ≤ curve.points.get i :=
  validatePoints_ok _ _ h i (List.mem_finRange i)

/-! ## Compatibility -/

/-- A capability a profile needs that the device cannot provide. -/
structure Incompatibility where
  capability : CapabilityId
  reason : String
deriving DecidableEq, Repr

/-- Everything that prevents a program from being written to a device. -/
def programIncompatibilities (program : CoolingProgram) (device : DeviceRecord) :
    List Incompatibility :=
  program.requiredCapabilities.filterMap fun capability =>
    match device.capability capability with
    | some entry =>
      if entry.state.isWritable then none
      else some ⟨capability,
        entry.state.blockedReason.getD (capability.label ++ " is not writable.")⟩
    | none => some ⟨capability, capability.label ++ " is absent from the capability record."⟩

theorem programIncompatibilities_eq_nil {program : CoolingProgram} {device : DeviceRecord} :
    programIncompatibilities program device = [] ↔ ∀ id ∈ program.requiredCapabilities,
      ∃ entry, device.capability id = some entry ∧ entry.state.isWritable = true := by
  unfold programIncompatibilities
  rw [List.filterMap_eq_nil_iff]
  refine forall₂_congr fun id _ => ?_
  cases device.capability id with
  | none => simp
  | some entry => simp

/-- Everything that prevents a profile from being applied to a device. -/
def incompatibilities (profile : Profile) (device : DeviceRecord) : List Incompatibility :=
  (match profile.device with
    | some expected =>
      if expected ≠ device.id then
        [⟨.liquidTemperature, s!"Profile targets {expected.display} but the connected device is " ++
          s!"{device.id.display}."⟩]
      else []
    | none => []) ++
  programIncompatibilities profile.program device

end Kori
