import Kori.Core.Ipc
import Kori.Hardware.Hwmon

/-! # The writes to the cooling hardware -/

open Faulty

namespace Kori

/-- A write that did not land, naming the exact attribute. -/
structure WriteFailure where
  attr : String
  detail : String
deriving DecidableEq, Repr

def WriteFailure.display (failure : WriteFailure) : String := failure.attr ++ ": " ++ failure.detail

/-- What one channel write produced: the readback, and how many attributes it touched. -/
structure Applied where
  readback : ChannelReadback
  writes : Nat
deriving DecidableEq, Repr

/-- What a transaction on one channel may change, captured before the first write. -/
structure ChannelSnapshot where
  channel : Channel
  mode : Option PwmMode
  duty : Option UInt8
  curve : Option TemperatureCurve
deriving DecidableEq

namespace ChannelSnapshot

/-- Attaches the last curve this process committed, when the device gave none. -/
def withCurve (snapshot : ChannelSnapshot) (curve : Option TemperatureCurve) : ChannelSnapshot :=
  if snapshot.curve.isNone then { snapshot with curve } else snapshot

/-- Whether restoring this snapshot puts the channel back on the same program. -/
def restoresBehavior (snapshot : ChannelSnapshot) : Bool :=
  match snapshot.mode with
  | none => false
  | some .fullSpeed => true
  | some .fixed => snapshot.duty.isSome
  | some .curve => snapshot.curve.isSome

end ChannelSnapshot

def describeIo (path : String) (error : IoError) : String :=
  match error.kind with
  | .permissionDenied => s!"permission denied on {path}. Check the installed udev rule."
  | .notFound => s!"{path} does not exist."
  | .other => s!"{path} could not be written: {error.detail}"

def describeMode : Option PwmMode → String
  | some mode => mode.label
  | none => "unreadable"

def describeDuty : Option UInt8 → String
  | some duty => toString duty.toNat
  | none => "unreadable"

/-- Closes one transaction: the readback, its mismatches, and what it cost. -/
def applied (readback : ChannelReadback) (mismatches : List String) (writes : Nat) : Applied :=
  if mismatches = [] then ⟨readback, writes⟩
  else ⟨{ readback with mismatch := some (String.intercalate "; " mismatches) }, writes⟩

/-- A program that stops at the first write that did not land. -/
abbrev Transaction := ExceptT WriteFailure Hw

/-- The writer for one bound Kraken. -/
structure CoolingControl where
  hwmon : KrakenHwmon
deriving DecidableEq

namespace CoolingControl

variable (control : CoolingControl) (channel : Channel)

/-- Writes one attribute, or says which one refused. -/
def write (attr : Attribute) (value : UInt8) : Transaction Unit := do
  match ← (issue ⟨attr, value⟩ : Hw _) with
  | .ok () => return ()
  | .error error => throw ⟨attr.name, describeIo (control.hwmon.attributePath attr) error⟩

/-- Captures the last known-good state of one channel. -/
def snapshot : Hw ChannelSnapshot := do
  let mode ← control.hwmon.mode channel
  let duty ← control.hwmon.duty channel
  let curve ← control.hwmon.curve channel
  return { channel, mode, duty, curve }

/-- Reads a channel's mode and duty back off the device. -/
def readBack : Hw ChannelReadback := do
  let mode ← control.hwmon.mode channel
  let duty ← control.hwmon.duty channel
  return { ChannelReadback.new channel with mode, duty }

/-- Puts one channel on a constant duty: the duty first, so that direct mode starts from it. -/
def applyFixed (duty : UInt8) : Transaction Applied := do
  control.write (.duty channel) duty
  control.write (.mode channel) PwmMode.fixed.toKernel
  let readback ← control.readBack channel
  let modeMismatch :=
    if readback.mode ≠ some .fixed then
      [s!"{(Attribute.mode channel).name} reads back as {describeMode readback.mode}, not direct PWM"]
    else []
  let dutyMismatch :=
    if readback.duty ≠ some duty then
      [s!"{(Attribute.duty channel).name} reads back as {describeDuty readback.duty}, not {duty.toNat}"]
    else []
  return applied readback (modeMismatch ++ dutyMismatch) 2

/-- The duty to hold a channel at while its curve points are rewritten. -/
def transitionDuty (curve : TemperatureCurve) : Hw UInt8 := do
  match ← control.hwmon.duty channel with
  | some duty => return max duty channel.minDuty
  | none =>
    let temperatureC ← control.hwmon.liquidTemperatureC
    return max ((temperatureC.bind curve.dutyAt).getD curve.highestDuty) channel.minDuty

/-- Leaves curve mode when the channel reads as being in it, and counts the writes. -/
def leaveCurve (curve : TemperatureCurve) : Transaction Nat := do
  if (← control.hwmon.mode channel) = some .curve then
    let holding ← control.transitionDuty channel curve
    control.write (.duty channel) holding
    control.write (.mode channel) PwmMode.fixed.toKernel
    return 2
  else return 0

/-- Puts forty curve points into the driver's array, and counts the writes. -/
def stageCurve (curve : TemperatureCurve) : Transaction Nat := do
  let writes ← control.leaveCurve channel curve
  (List.finRange CURVE_POINT_COUNT).forM fun index =>
    control.write (.point channel index) (curve.points.get index)
  return writes + CURVE_POINT_COUNT

/-- How many of the points read back are the ones written. -/
def confirmedPoints (written curve : TemperatureCurve) : Nat :=
  (List.finRange CURVE_POINT_COUNT).countP fun i => written.points.get i = curve.points.get i

/-- Puts one channel on an onboard curve: every point before the mode switches. -/
def applyCurve (curve : TemperatureCurve) : Transaction Applied := do
  let writes ← control.stageCurve channel curve
  control.write (.mode channel) PwmMode.curve.toKernel
  let readback ← control.readBack channel
  let written ← control.hwmon.curve channel
  let curvePointsConfirmed := written.map fun written => confirmedPoints written curve
  let curveMismatch :=
    match curvePointsConfirmed with
    | some confirmed =>
      if confirmed ≠ CURVE_POINT_COUNT then
        [s!"{confirmed} of {CURVE_POINT_COUNT} curve points read back as written"]
      else []
    | none => []
  let modeMismatch :=
    if readback.mode ≠ some .curve then
      [s!"{(Attribute.mode channel).name} reads back as {describeMode readback.mode}, not curve control"]
    else []
  return applied { readback with curvePointsConfirmed } (curveMismatch ++ modeMismatch) (writes + 1)

/-! ## Restoration -/

/-- Stages the curve of a snapshot taken while the channel was running one. -/
def restoreCurve (snapshot : ChannelSnapshot) : Transaction Unit :=
  match snapshot.mode, snapshot.curve with
  | some .curve, some curve => discard (control.stageCurve snapshot.channel curve)
  | _, _ => return ()

def restoreDuty (snapshot : ChannelSnapshot) : Transaction Unit :=
  match snapshot.duty with
  | some duty => do
    if (← control.hwmon.duty snapshot.channel) ≠ some duty then
      control.write (.duty snapshot.channel) duty
  | none => return ()

def restoreMode (snapshot : ChannelSnapshot) : Transaction Unit :=
  match snapshot.mode with
  | some mode => do
    if (← control.hwmon.mode snapshot.channel) ≠ some mode then
      control.write (.mode snapshot.channel) mode.toKernel
  | none => return ()

def modeHolds (snapshot : ChannelSnapshot) : Hw Bool :=
  match snapshot.mode with
  | some mode => do return decide ((← control.hwmon.mode snapshot.channel) = some mode)
  | none => return true

/-- Only a readable curve that disagrees with the snapshot counts against it. -/
def curveHolds (snapshot : ChannelSnapshot) : Hw Bool := do
  match snapshot.curve, ← control.hwmon.curve snapshot.channel with
  | some curve, some read => return decide (read = curve)
  | _, _ => return true

/-- The duty is only compared in direct mode: in curve mode it is the curve's own. -/
def dutyHolds (snapshot : ChannelSnapshot) : Hw Bool :=
  match snapshot.mode, snapshot.duty with
  | some .fixed, some duty => do
    return decide ((← control.hwmon.duty snapshot.channel) = some duty)
  | _, _ => return true

/-- Whether the channel reads back as the snapshot, as far as it can be read. -/
def confirmRestored (snapshot : ChannelSnapshot) : Hw Bool := do
  let modeHolds ← control.modeHolds snapshot
  let curveHolds ← control.curveHolds snapshot
  let dutyHolds ← control.dutyHolds snapshot
  return snapshot.restoresBehavior && modeHolds && curveHolds && dutyHolds

/-- Puts a channel back to a captured state after a failed transaction. The answer is whether it
could be proven back on its program. -/
def restore (snapshot : ChannelSnapshot) : Transaction Bool := do
  control.restoreCurve snapshot
  control.restoreDuty snapshot
  control.restoreMode snapshot
  control.confirmRestored snapshot

end CoolingControl

end Kori
