import Kori.Core.Display
import Kori.Core.Text
import Kori.Faulty.Device

/-! # The panel: its brightness, and the frame on its glass -/

open Faulty

namespace Kori

def PANEL_WIDTH : Nat := 240
def PANEL_HEIGHT : Nat := 240
/-- Exact payload of one frame. -/
def FRAME_BYTES : Nat := PANEL_WIDTH * PANEL_HEIGHT * 2

/-- A picture in the bytes the transport takes. -/
abbrev Frame := List UInt8

/-- Why a panel operation could not complete. -/
inductive LcdError where
  | hid (detail : String)
  | bulk (detail : String)
  | frameSize (actual expected : Nat)
deriving DecidableEq, Repr

def LcdError.display : LcdError → String
  | hid detail => detail
  | bulk detail => detail
  | frameSize actual expected =>
    s!"the frame is {actual} bytes, and this panel takes exactly {expected}"

/-- What the panel is set to and shows. -/
structure Glass where
  brightness : Brightness
  picture : Frame
deriving DecidableEq

inductive LcdCommand where
  | setDisplay (brightness : Brightness)
  | sendFrame (frame : Frame)
deriving DecidableEq

/-- A command that failed: its error, and what the glass may have been left with. -/
structure LcdFault where
  error : LcdError
  brightness : Brightness
  picture : Frame

/-- A report that failed may have set the brightness to anything, and a transfer that failed may
have left any picture. -/
def lcd : Device Glass LcdCommand Empty Unit LcdFault LcdError where
  act
    | .setDisplay brightness, glass => { glass with brightness }
    | .sendFrame frame, glass => { glass with picture := frame }
  look _ _ := ()
  error := LcdFault.error
  spill fault
    | .setDisplay _, glass => { glass with brightness := fault.brightness }
    | .sendFrame _, glass => { glass with picture := fault.picture }

abbrev LcdIo := Prog LcdCommand Empty Unit LcdError
abbrev LcdWorld := World Glass LcdCommand Empty Unit LcdFault

namespace LcdLink

/-- The firmware generation whose transfer sequence is sent. -/
def SUPPORTED_FIRMWARE_MAJOR : UInt8 := 2

/-- Firmware revisions whose frames were shown on real hardware. -/
def VALIDATED_FIRMWARE : List String := ["2.0.0"]

def isValidatedFirmware (firmware : String) : Bool := VALIDATED_FIRMWARE.contains firmware

/-- The major component of a firmware revision, when it parses as one. -/
def firmwareMajor (firmware : String) : Option UInt8 :=
  Text.parseU8 (firmware.toList.takeWhile (· ≠ '.'))

def setDisplay (brightness : Brightness) : LcdIo (Except LcdError Unit) := issue (.setDisplay brightness)

/-- Sends one complete frame. The size is checked before the first byte leaves. -/
def sendFrame (payload : Frame) : LcdIo (Except LcdError Unit) :=
  if payload.length ≠ FRAME_BYTES then return .error (.frameSize payload.length FRAME_BYTES)
  else issue (.sendFrame payload)

end LcdLink

end Kori
