import Kori.Core.Lighting
import Kori.Faulty.Device

/-! # The RGB controller: the report of a command, and how it is sent -/

open Faulty

namespace Kori

def REPORT_BYTES : Nat := 64
/-- Channels the controller can address, and therefore the widest bitmask. -/
def MAX_CHANNELS : Nat := 3

abbrev Report := Vector UInt8 REPORT_BYTES

/-- Why a lighting command could not be sent. -/
inductive RgbError where
  | transport (detail : String)
  | unknownChannel (channel : UInt8)
  | tooManyColors (colors limit : Nat)
deriving DecidableEq, Repr

def RgbError.display : RgbError → String
  | transport detail => detail
  | unknownChannel channel => s!"channel {channel.toNat} is not addressable on this controller"
  | tooManyColors colors limit =>
    s!"the program carries {colors} colors, and one report holds at most {limit}"

/-! ## The wire format -/

namespace RgbController

/-- Accessories the controller reports per channel. -/
def MAX_ACCESSORIES_PER_CHANNEL : Nat := 6

/-- Firmware revisions whose commands were exercised on real hardware. -/
def VALIDATED_FIRMWARE : List String := ["1.5.0"]

def isValidatedFirmware (firmware : String) : Bool := VALIDATED_FIRMWARE.contains firmware

def CHANNEL_COUNT_OFFSET : Nat := 14
def ACCESSORY_OFFSET : Nat := 15

/-- Two lowercase hexadecimal digits. -/
def hex2 (n : UInt8) : String :=
  String.ofList [Nat.digitChar (n.toNat / 16), Nat.digitChar (n.toNat % 16)]

/-- Name of an accessory identifier, or an explicit unknown marker. -/
def accessoryName (id : UInt8) : String :=
  match id.toNat with
  | 0x01 => "HUE+ LED Strip"
  | 0x02 => "AER RGB 1"
  | 0x04 => "HUE 2 LED Strip 300 mm"
  | 0x05 => "HUE 2 LED Strip 250 mm"
  | 0x06 => "HUE 2 LED Strip 200 mm"
  | 0x07 => "HUE 2 Cable Comb"
  | 0x09 => "HUE 2 Underglow 300 mm"
  | 0x0a => "HUE 2 Underglow 200 mm"
  | 0x0b => "AER RGB 2 120 mm"
  | 0x0c => "AER RGB 2 140 mm"
  | 0x10 => "Kraken X Pump Ring"
  | 0x11 => "Kraken X Pump Logo"
  | 0x13 => "F120 RGB"
  | 0x14 => "F140 RGB"
  | 0x17 => "F140 RGB Core"
  | 0x1b => "F240 RGB Core"
  | 0x1d => "F360 RGB Core"
  | _ => "Unknown accessory 0x" ++ hex2 id

/-- The accessories of a channel, its slots padded with zeros. -/
def accessories (report : Report) (channel : Nat) : List RgbAccessory :=
  let slots := (List.range MAX_ACCESSORIES_PER_CHANNEL).map fun slot =>
    report.toList[ACCESSORY_OFFSET + channel * MAX_ACCESSORIES_PER_CHANNEL + slot]?.getD 0
  (slots.takeWhile (· ≠ 0)).map fun id => { id, name := accessoryName id }

/-- The channels an answer describes, never more than the controller can address. -/
def channels (report : Report) : List RgbChannel :=
  (List.range (min (report.toList[CHANNEL_COUNT_OFFSET]?.getD 0).toNat MAX_CHANNELS)).map fun channel =>
    { index := UInt8.ofNat channel + 1
      accessories := accessories report channel
      ledCount := .unknown "the controller reports accessory identifiers, not LED counts"
        "hidraw report 0x21 0x03" }

def COLOR_COMMAND : UInt8 × UInt8 := (0x2a, 0x04)
def FOOTER_BYTES : Nat := 9
def FOOTER_OFFSET : Nat := REPORT_BYTES - FOOTER_BYTES
/-- Largest number of colors that still leaves room for the trailer. -/
def MAX_COLORS : Nat := (FOOTER_OFFSET - 7) / 3

/-- Wire encoding of one program: mode byte, speed pair and trailer flag. -/
structure Encoding where
  mode : UInt8
  speed : UInt8 × UInt8
  variant : UInt8
  colors : List Rgb

/-- Speed table of an effect, slowest first. -/
def speedValues : LightingEffect → Vector (UInt8 × UInt8) 5
  | .breathing => #v[(0x28, 0x00), (0x1e, 0x00), (0x14, 0x00), (0x0a, 0x00), (0x04, 0x00)]
  | .spectrumWave => #v[(0x5e, 0x01), (0x2c, 0x01), (0xfa, 0x00), (0x96, 0x00), (0x50, 0x00)]

def encoding : LightingProgram → Encoding
  -- The firmware has no blank command, so off is one black step.
  | .off => { mode := 0x00, speed := (0x00, 0x00), variant := 0x00, colors := [Rgb.BLACK] }
  | .fixed color brightness =>
    { mode := 0x00, speed := (0x32, 0x00), variant := 0x00, colors := [color.scaled brightness] }
  | .effect effect colors brightness speed _ =>
    let step := (speedValues effect).get speed.index
    match effect with
    | .breathing =>
      { mode := 0x07, speed := step, variant := 0x08, colors := colors.map (·.scaled brightness) }
    | .spectrumWave => { mode := 0x02, speed := step, variant := 0x00, colors := [Rgb.BLACK] }

/-- The colors still to write, the first of them at an offset, each green, red, blue. -/
def writeColors : List Rgb → Nat → Report → Report
  | [], _, report => report
  | color :: rest, offset, report =>
    writeColors rest (offset + 3) (((report.setIfInBounds offset color.g).setIfInBounds (offset + 1)
      color.r).setIfInBounds (offset + 2) color.b)

def isBackward : LightingProgram → Bool
  | .effect _ _ _ _ .backward => true
  | _ => false

/-- The color command for one channel bitmask. -/
def colorCommand (channelBit : UInt8) (program : LightingProgram) : Except RgbError Report :=
  let encoding := encoding program
  if MAX_COLORS < encoding.colors.length then
    .error (.tooManyColors encoding.colors.length MAX_COLORS)
  else
    let report : Report := Vector.replicate REPORT_BYTES 0
    let report := (report.setIfInBounds 0 COLOR_COMMAND.1).setIfInBounds 1 COLOR_COMMAND.2
    let report := (report.setIfInBounds 2 channelBit).setIfInBounds 3 channelBit
    let report := report.setIfInBounds 4 encoding.mode
    let report := (report.setIfInBounds 5 encoding.speed.1).setIfInBounds 6 encoding.speed.2
    let report := writeColors encoding.colors 7 report
    let report := report.setIfInBounds FOOTER_OFFSET (if isBackward program then 0x02 else 0x00)
    let report := report.setIfInBounds (FOOTER_OFFSET + 1) (UInt8.ofNat encoding.colors.length)
    let report := report.setIfInBounds (FOOTER_OFFSET + 2) encoding.variant
    let report := (report.setIfInBounds (FOOTER_OFFSET + 3) 0x08).setIfInBounds (FOOTER_OFFSET + 4) 0x03
    .ok report

/-- Bitmask addressing a one-based channel. -/
def channelBit (channel : UInt8) : Option UInt8 :=
  if 1 ≤ channel ∧ channel.toNat ≤ MAX_CHANNELS then some (1 <<< (channel - 1)) else none

/-- The exact bytes one program for one channel is sent as. -/
def encode (channel : UInt8) (program : LightingProgram) : Except RgbError Report :=
  match channelBit channel with
  | none => .error (.unknownChannel channel)
  | some bit => colorCommand bit program

/-! ## Sending it -/

/-- A report that could not be written, and whether it reached the controller. -/
structure Fault where
  detail : String
  landed : Bool

/-- The controller: every report it took, oldest first. -/
def device : Device (List Report) Report Empty Unit Fault String where
  act report taken := taken ++ [report]
  look _ _ := ()
  error := Fault.detail
  spill fault report taken := if fault.landed then taken ++ [report] else taken

abbrev Io := Prog Report Empty Unit String
abbrev Outside := World (List Report) Report Empty Unit Fault

/-- Sends one program to one channel. -/
def apply (channel : UInt8) (program : LightingProgram) : Io (Except RgbError Report) :=
  match encode channel program with
  | .error error => return .error error
  | .ok report => do
    match ← issue report with
    | .ok () => return .ok report
    | .error detail => return .error (.transport detail)

end RgbController

end Kori
