import Kori.Core.Telemetry
import Kori.Core.Text
import Kori.Faulty.Logic

/-! # The attributes of one bound `kraken2023` instance -/

open Faulty

namespace Kori

/-! ## Attributes -/

/-- The attributes of one `hwmon` directory that the thermal path reads or writes. -/
inductive Attribute where
  | duty (channel : Channel)
  | mode (channel : Channel)
  | point (channel : Channel) (index : Fin CURVE_POINT_COUNT)
  | liquidTemperature
deriving DecidableEq

/-- Kernel index of a cooling channel. -/
def channelIndex : Channel → Nat
  | .pump => 1
  | .fan => 2

def Attribute.name : Attribute → String
  | duty channel => s!"pwm{channelIndex channel}"
  | mode channel => s!"pwm{channelIndex channel}_enable"
  | point channel index => s!"temp{channelIndex channel}_auto_point{index.val + 1}_pwm"
  | liquidTemperature => "temp1_input"

/-- What an attribute holds: text, or bytes that are not UTF-8. -/
inductive Contents where
  | text (chars : List Char)
  | binary
deriving DecidableEq

/-- A read that succeeded, trimmed and parsed; an empty attribute parses to nothing. -/
def Contents.parsed {α : Type} (parse : List Char → Option α) : Contents → Option α
  | text chars => if Text.trim chars = [] then none else parse (Text.trim chars)
  | binary => none

inductive IoErrorKind where
  | permissionDenied
  | notFound
  | other
deriving DecidableEq, Repr

structure IoError where
  kind : IoErrorKind
  detail : String
deriving DecidableEq, Repr

/-! ## The device -/

abbrev Attributes := Attribute → Contents

/-- One attribute write: the attribute and the number written to it. -/
structure AttributeWrite where
  attr : Attribute
  value : UInt8
deriving DecidableEq

/-- A successful write stores its value; a failed write leaves the attribute as it was. -/
def hwmonDevice : Device Attributes AttributeWrite Attribute Contents IoError IoError where
  act write s := Function.update s write.attr (.text (Text.decimal write.value))
  look attr s := s attr
  error := id
  spill _ _ s := s

abbrev Hw := Prog AttributeWrite Attribute Contents IoError
abbrev HwSeen := Seen Attributes AttributeWrite Attribute Contents
abbrev HwWorld := World Attributes AttributeWrite Attribute Contents IoError
abbrev HwEvent := Event Attributes AttributeWrite Attribute Contents

namespace Attributes

def mode (s : Attributes) (channel : Channel) : Option PwmMode :=
  ((s (.mode channel)).parsed Text.parseU8).bind PwmMode.fromKernel

def duty (s : Attributes) (channel : Channel) : Option UInt8 :=
  (s (.duty channel)).parsed Text.parseU8

def point (s : Attributes) (channel : Channel) (index : Fin CURVE_POINT_COUNT) : Option UInt8 :=
  (s (.point channel index)).parsed Text.parseU8

/-- The forty points hold exactly this curve. -/
def Holds (s : Attributes) (channel : Channel) (curve : TemperatureCurve) : Prop :=
  ∀ i, s.point channel i = some (curve.points.get i)

instance (s : Attributes) (channel : Channel) (curve : TemperatureCurve) :
    Decidable (s.Holds channel curve) :=
  inferInstanceAs (Decidable (∀ _, _))

theorem Holds.unique {s : Attributes} {channel : Channel} {c d : TemperatureCurve}
    (h : s.Holds channel c) (h' : s.Holds channel d) : c = d :=
  TemperatureCurve.ext_get fun i => Option.some.inj ((h i).symm.trans (h' i))

end Attributes

/-! ## Reading -/

/-- A bound instance, which is the path of its directory. -/
structure KrakenHwmon where
  path : String
deriving DecidableEq

namespace KrakenHwmon

/-- The path of an attribute's file. -/
def attributePath (hwmon : KrakenHwmon) (a : Attribute) : String := hwmon.path ++ "/" ++ a.name

/-- What is left of a reading once its cause is dropped, which is all the thermal path keeps. -/
def readParsed {α : Type} (parse : List Char → Option α) (a : Attribute) : Hw (Option α) := do
  match ← look a with
  | .ok contents => return contents.parsed parse
  | .error _ => return none

/-- The coolant temperature, from an attribute in millidegrees. -/
def liquidTemperatureC (_ : KrakenHwmon) : Hw (Option F32) := do
  return (← readParsed Text.parseI32 .liquidTemperature).map fun millidegrees =>
    .finite (millidegrees / 1000)

def duty (_ : KrakenHwmon) (channel : Channel) : Hw (Option UInt8) :=
  readParsed Text.parseU8 (.duty channel)

/-- The control mode; a number the kernel ABI does not name is no mode. -/
def mode (_ : KrakenHwmon) (channel : Channel) : Hw (Option PwmMode) := do
  return (← readParsed Text.parseU8 (.mode channel)).bind PwmMode.fromKernel

/-- The points still to read, into the array of the ones already read. -/
def curveFrom (channel : Channel) :
    List (Fin CURVE_POINT_COUNT) → Vector UInt8 CURVE_POINT_COUNT → Hw (Option TemperatureCurve)
  | [], points => return some ⟨points⟩
  | index :: rest, points => do
    match ← readParsed Text.parseU8 (.point channel index) with
    | some value => curveFrom channel rest (points.set index value)
    | none => return none

/-- The onboard curve: all forty points or none. -/
def curve (_ : KrakenHwmon) (channel : Channel) : Hw (Option TemperatureCurve) :=
  curveFrom channel (List.finRange CURVE_POINT_COUNT) (Vector.replicate _ 0)

end KrakenHwmon

end Kori
