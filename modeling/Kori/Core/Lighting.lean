import Kori.Core.Capability
import Kori.Core.Text

/-! # What a lighting request means, and what it must satisfy -/

namespace Kori

def MAX_BRIGHTNESS : UInt8 := 100
def HEX_COLOR_DIGITS : Nat := 6
/-- Shortest interval the daemon leaves between two commands on one channel. -/
def MIN_COMMAND_INTERVAL_MS : Nat := 50

/-- A 24-bit color. -/
structure Rgb where
  r : UInt8
  g : UInt8
  b : UInt8
deriving DecidableEq, Repr

namespace Rgb

def BLACK : Rgb := ⟨0, 0, 0⟩

def hexDigit (n : Nat) : Char := (Nat.digitChar n).toUpper

/-- The six-digit form, without a leading `#`. -/
def toHex (color : Rgb) : String :=
  String.ofList ([color.r, color.g, color.b].flatMap fun v =>
    [hexDigit (v.toNat / 16), hexDigit (v.toNat % 16)])

example : toHex ⟨0x7c, 0x5c, 0xff⟩ = "7C5CFF" := by decide

end Rgb

/-- A brightness percentage that cannot hold an out-of-range value. -/
structure Brightness where
  percent : UInt8
  inRange : percent ≤ MAX_BRIGHTNESS
deriving DecidableEq, Repr

def Brightness.FULL : Brightness := ⟨MAX_BRIGHTNESS, by decide⟩

/-- The color at a brightness, each channel rounded down. -/
def Rgb.scaled (color : Rgb) (brightness : Brightness) : Rgb :=
  let scale (channel : UInt8) : UInt8 :=
    UInt8.ofNat (channel.toNat * brightness.percent.toNat / MAX_BRIGHTNESS.toNat)
  { r := scale color.r, g := scale color.g, b := scale color.b }

/-- The animated effects this product exposes. -/
inductive LightingEffect where
  | breathing
  | spectrumWave
deriving DecidableEq, Repr

namespace LightingEffect

def label : LightingEffect → String
  | breathing => "Breathing"
  | spectrumWave => "Spectrum wave"

/-- How many colors the effect accepts, inclusive. -/
def colorRange : LightingEffect → Nat × Nat
  | breathing => (1, 8)
  | spectrumWave => (0, 0)

def acceptsDirection : LightingEffect → Bool
  | breathing => false
  | spectrumWave => true

end LightingEffect

inductive EffectSpeed where
  | slowest
  | slower
  | normal
  | faster
  | fastest
deriving DecidableEq, Repr

/-- The position of a speed in the firmware's tables. -/
def EffectSpeed.index : EffectSpeed → Fin 5
  | slowest => 0
  | slower => 1
  | normal => 2
  | faster => 3
  | fastest => 4

def EffectSpeed.label : EffectSpeed → String
  | slowest => "Slowest"
  | slower => "Slower"
  | normal => "Normal"
  | faster => "Faster"
  | fastest => "Fastest"

inductive EffectDirection where
  | forward
  | backward
deriving DecidableEq, Repr

def EffectDirection.label : EffectDirection → String
  | forward => "Forward"
  | backward => "Backward"

/-- What one channel should display. -/
inductive LightingProgram where
  | off
  | fixed (color : Rgb) (brightness : Brightness)
  | effect (effect : LightingEffect) (colors : List Rgb) (brightness : Brightness)
      (speed : EffectSpeed) (direction : EffectDirection)
deriving DecidableEq, Repr

namespace LightingProgram

def requiredCapability : LightingProgram → CapabilityId
  | off => .rgbFixedColor
  | fixed .. => .rgbFixedColor
  | effect .. => .rgbEffects

/-- One line describing the program, for diagnostics. -/
def summary : LightingProgram → String
  | off => "off"
  | fixed color brightness => s!"fixed #{color.toHex} at {brightness.percent.toNat}%"
  | effect eff _ _ speed direction =>
    if eff.acceptsDirection then
      s!"{eff.label} at {speed.label.toLower} speed, {direction.label.toLower}"
    else
      s!"{eff.label} at {speed.label.toLower} speed"

end LightingProgram

/-- A program addressed to one channel of the controller, one-based. -/
structure LightingCommand where
  channel : UInt8
  program : LightingProgram
deriving DecidableEq, Repr

/-- Why a lighting value or command was refused. -/
inductive LightingError where
  | colorDigits (expected actual : Nat)
  | colorAlphabet (value : String)
  | brightnessOutOfRange (value max : UInt8)
  | channelUnknown (channel available : UInt8)
  | colorCount (effect : String) (min max actual : Nat)
  | directionUnsupported (effect : String)
  | cadenceTooFast (channel : UInt8) (minimumIntervalMs elapsedMs : Nat)
deriving DecidableEq, Repr

def LightingError.display : LightingError → String
  | colorDigits expected actual =>
    s!"Enter {expected} hexadecimal digits, for example 7C5CFF. Got {actual}."
  | colorAlphabet value => s!"Only the digits 0-9 and the letters A-F are accepted, got {value}."
  | brightnessOutOfRange value max =>
    s!"Brightness {value.toNat} is outside the accepted range 0-{max.toNat}."
  | channelUnknown channel available =>
    s!"Channel {channel.toNat} does not exist. This controller exposes {available.toNat}."
  | colorCount effect min max actual => s!"{effect} accepts {min}-{max} colors, got {actual}."
  | directionUnsupported effect =>
    s!"{effect} ignores direction on this firmware, so it must stay forward."
  | cadenceTooFast channel minimumIntervalMs elapsedMs =>
    s!"Commands to channel {channel.toNat} are limited to one every {minimumIntervalMs} ms; " ++
      s!"the last one was {elapsedMs} ms ago."

/-- Parses six hexadecimal digits, with or without a leading `#`. -/
def Rgb.parseHex (value : String) : Except LightingError Rgb :=
  let trimmed := (Text.trim value.toList).dropWhile (· == '#')
  if Text.byteLength trimmed ≠ HEX_COLOR_DIGITS then
    .error (.colorDigits HEX_COLOR_DIGITS trimmed.length)
  else match Text.parseHexU32 trimmed with
    | none => .error (.colorAlphabet (String.ofList trimmed))
    | some packed =>
      .ok { r := ((packed >>> 16) &&& 0xff).toUInt8
            g := ((packed >>> 8) &&& 0xff).toUInt8
            b := (packed &&& 0xff).toUInt8 }

/-- A percentage, if the daemon accepts it. -/
def Brightness.new (percent : UInt8) : Except LightingError Brightness :=
  if h : percent ≤ MAX_BRIGHTNESS then .ok ⟨percent, h⟩ else .error (.brightnessOutOfRange percent MAX_BRIGHTNESS)

namespace Lighting

/-- Validates a program on its own, before the channel is even consulted. -/
def validateProgram : LightingProgram → Except LightingError Unit
  | .off => .ok ()
  | .fixed .. => .ok ()
  | .effect effect colors _ _ direction =>
    let (min, max) := effect.colorRange
    if ¬ (min ≤ colors.length ∧ colors.length ≤ max) then
      .error (.colorCount effect.label min max colors.length)
    else if direction ≠ .forward ∧ ¬ effect.acceptsDirection then
      .error (.directionUnsupported effect.label)
    else .ok ()

/-- Validates a command against a controller exposing `channelCount` channels. -/
def validateCommand (command : LightingCommand) (channelCount : UInt8) : Except LightingError Unit :=
  if command.channel = 0 ∨ channelCount < command.channel then
    .error (.channelUnknown command.channel channelCount)
  else validateProgram command.program

end Lighting

end Kori
