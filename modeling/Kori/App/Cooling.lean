import Kori.Core.Profile

/-! # The pending state of the Cooling screen -/

namespace Kori

/-- What the Cooling screen is asking the hardware to do. -/
inductive CoolingMode where
  | onboard
  | fixed
  | curve
deriving DecidableEq, Repr

/-- The pending program, and the last one this client saw confirmed on the hardware. -/
structure CoolingEditor where
  mode : CoolingMode
  pumpDuty : UInt8
  fanDuty : UInt8
  pumpCurve : CurveNodes
  fanCurve : CurveNodes
  applied : Option CoolingProgram
deriving DecidableEq

namespace CoolingEditor

def new : CoolingEditor :=
  { mode := .onboard, pumpDuty := dutyFromPercent 70, fanDuty := dutyFromPercent 50,
    pumpCurve := .startingRamp, fanCurve := .startingRamp, applied := none }

/-- The program the screen would write. -/
def program (editor : CoolingEditor) : CoolingProgram :=
  match editor.mode with
  | .onboard => .onboard
  | .fixed => .fixed editor.pumpDuty editor.fanDuty
  | .curve => .curve editor.pumpCurve.interpolate editor.fanCurve.interpolate

def curve (channel : Channel) (editor : CoolingEditor) : CurveNodes :=
  match channel with
  | .pump => editor.pumpCurve
  | .fan => editor.fanCurve

def duty (channel : Channel) (editor : CoolingEditor) : UInt8 :=
  match channel with
  | .pump => editor.pumpDuty
  | .fan => editor.fanDuty

/-- Sets a fixed duty, clamped into the channel's validated range. -/
def setDuty (channel : Channel) (duty : UInt8) (editor : CoolingEditor) : CoolingEditor :=
  let clamped := max duty channel.minDuty
  match channel with
  | .pump => { editor with pumpDuty := clamped }
  | .fan => { editor with fanDuty := clamped }

/-- A percentage moved by a number of points, inside the scale. -/
def stepped (duty : UInt8) (steps : Int) : UInt8 :=
  dutyFromPercent (UInt8.ofNat (max 0 (min ((dutyToPercent duty).toNat + steps) MAX_DUTY_PERCENT.toNat)).toNat)

/-- Moves the duty by percentage points. -/
def adjustDuty (channel : Channel) (steps : Int) (editor : CoolingEditor) : CoolingEditor :=
  editor.setDuty channel (stepped (editor.duty channel) steps)

/-- Sets one node against `base`, and selects the curve mode. -/
def setNodeFrom (channel : Channel) (base : CurveNodes) (index : Nat) (duty : UInt8) (editor : CoolingEditor) :
    CoolingEditor :=
  let nodes := base.set index (max duty channel.minDuty)
  match channel with
  | .pump => { editor with pumpCurve := nodes, mode := .curve }
  | .fan => { editor with fanCurve := nodes, mode := .curve }

def setNode (channel : Channel) (index : Nat) (duty : UInt8) (editor : CoolingEditor) : CoolingEditor :=
  editor.setNodeFrom channel (editor.curve channel) index duty

/-- Moves one node by percentage points. -/
def adjustNode (channel : Channel) (node : Nat) (steps : Int) (editor : CoolingEditor) : CoolingEditor :=
  let node : Fin CURVE_NODE_COUNT := ⟨min node (CURVE_NODE_COUNT - 1), Nat.lt_of_le_of_lt (Nat.min_le_right ..) (by decide)⟩
  editor.setNode channel node (stepped ((editor.curve channel).duty.get node) steps)

def setMode (mode : CoolingMode) (editor : CoolingEditor) : CoolingEditor := { editor with mode }

/-- Records the program the daemon confirmed. -/
def recordApplied (program : CoolingProgram) (editor : CoolingEditor) : CoolingEditor :=
  { editor with applied := some program }

/-- Opens on the program the daemon reports it has committed. A curve this editor could not have drawn
leaves it as it stands. -/
def adopt (program : CoolingProgram) (editor : CoolingEditor) : CoolingEditor :=
  match program with
  | .onboard => { editor with mode := .onboard, applied := some program }
  | .fixed pump fan =>
    { (editor.setDuty .pump pump).setDuty .fan fan with mode := .fixed, applied := some program }
  | .curve pump fan =>
    match CurveNodes.fromCurve pump, CurveNodes.fromCurve fan with
    | some pumpCurve, some fanCurve => { editor with pumpCurve, fanCurve, mode := .curve, applied := some program }
    | _, _ => editor

def confirmsFixed (kraken : Option KrakenTelemetry) (channel : Channel) (duty : UInt8) : Bool :=
  match kraken with
  | none => false
  | some kraken =>
    (kraken.channel channel).mode.copied = some .fixed ∧ (kraken.channel channel).duty.copied = some duty

def confirmsMode (kraken : Option KrakenTelemetry) (channel : Channel) (mode : PwmMode) : Bool :=
  kraken.any fun kraken => (kraken.channel channel).mode.copied = some mode

/-- Whether the pending edit differs from what the hardware confirms. A curve cannot be read back, so
it is checked against the record of the last confirmed write and the mode the device reports. -/
def pending (kraken : Option KrakenTelemetry) (editor : CoolingEditor) : Bool :=
  match editor.program with
  | .onboard => false
  | .fixed pump fan => !confirmsFixed kraken .pump pump || !confirmsFixed kraken .fan fan
  | .curve .. =>
    editor.applied != some editor.program || !confirmsMode kraken .pump .curve || !confirmsMode kraken .fan .curve

/-- The curves of the last confirmed program, if it was one this editor could have drawn. -/
def restoreCurves (editor : CoolingEditor) : CoolingEditor :=
  match editor.applied with
  | some (.curve pump fan) =>
    match CurveNodes.fromCurve pump, CurveNodes.fromCurve fan with
    | some pumpCurve, some fanCurve => { editor with pumpCurve, fanCurve }
    | _, _ => editor
  | _ => editor

/-- Sets a duty the device reports, if it reports one. -/
def loadDuty (channel : Channel) (reading : Option UInt8) (editor : CoolingEditor) : CoolingEditor :=
  match reading with
  | some duty => editor.setDuty channel duty
  | none => editor

/-- Discards pending edits and returns to what the hardware reports. -/
def cancel (kraken : Option KrakenTelemetry) (editor : CoolingEditor) : CoolingEditor :=
  match kraken with
  | none => { editor.restoreCurves with mode := .onboard }
  | some kraken =>
    { (editor.restoreCurves.loadDuty .pump kraken.pump.duty.copied).loadDuty .fan kraken.fan.duty.copied with
      mode := match kraken.pump.mode.copied with
        | some .fixed => .fixed
        | some .curve => .curve
        | _ => .onboard }

/-- The reason this edit would be refused before it is sent. -/
def validationError (editor : CoolingEditor) : Option ValidationError :=
  match validateProgram editor.program with
  | .error error => some error
  | .ok () => none

end CoolingEditor

end Kori
