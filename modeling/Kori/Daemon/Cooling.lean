import Kori.Hardware.Control

/-! # The serialized cooling executor -/

open Faulty

namespace Kori

/-- How long a curve is left alone before it is checked against what the device reports. -/
def CURVE_SETTLE_MS : Nat := 5000
/-- How far the reported duty may sit from the committed curve. -/
def CURVE_DUTY_TOLERANCE : UInt8 := 3

/-- What one channel was last told to do. -/
inductive Target where
  | fixed (duty : UInt8)
  | curve (curve : TemperatureCurve)
deriving DecidableEq

def Target.mode : Target → PwmMode
  | fixed _ => .fixed
  | curve _ => .curve

/-- A committed program, and when it was committed. -/
structure Commit where
  target : Target
  atUnixMs : Nat
deriving DecidableEq

/-- A committed curve the device turned out not to be running. -/
structure CurveDivergence where
  channel : Channel
  liquidTemperatureMc : Int
  expected : UInt8
  reported : UInt8
deriving DecidableEq

/-- Instants count nanoseconds. -/
abbrev Instant := Nat

def milliseconds (n : Nat) : Nat := n * 1000000

/-- What each channel of a program is told; nothing for the safe program. -/
def CoolingProgram.targets : CoolingProgram → Option (List (Channel × Target))
  | onboard => none
  | fixed pump fan => some [(.pump, .fixed pump), (.fan, .fixed fan)]
  | curve pump fan => some [(.pump, .curve pump), (.fan, .curve fan)]

/-- The sole writer of the thermal path. -/
structure CoolingExecutor where
  control : Option CoolingControl
  /-- The last program this process confirmed on each channel. -/
  committed : Channel → Option Commit
  /-- When an attribute was last written, whatever channel it belonged to. -/
  lastWrite : Option Instant

namespace CoolingExecutor

/-- The executor before any program. `located` is the bound instance discovery finds. -/
def opened (located : Option KrakenHwmon) : CoolingExecutor :=
  { control := located.map CoolingControl.mk, committed := fun _ => none, lastWrite := none }

variable (self : CoolingExecutor)

/-- Forgets what was committed, after the device went away. -/
def forget : CoolingExecutor := { self with committed := fun _ => none, control := none }

def resolve (located : Option KrakenHwmon) : CoolingExecutor :=
  if self.control.isNone then { self with control := located.map CoolingControl.mk } else self

def committedTarget (channel : Channel) : Option Target := (self.committed channel).map Commit.target

def committedCurve (channel : Channel) : Option TemperatureCurve :=
  match self.committedTarget channel with
  | some (.curve curve) => some curve
  | _ => none

/-- The program both channels are committed to, when they hold the same kind of target. -/
def committedProgram : Option CoolingProgram :=
  match self.committedTarget .pump, self.committedTarget .fan with
  | some (.fixed pump), some (.fixed fan) => some (.fixed pump fan)
  | some (.curve pump), some (.curve fan) => some (.curve pump fan)
  | _, _ => none

def commit (channel : Channel) (target : Target) : Hw CoolingExecutor := do
  let atUnixMs ← clock
  return { self with committed := Function.update self.committed channel (some { target, atUnixMs }) }

def uncommit (channel : Channel) : CoolingExecutor :=
  { self with committed := Function.update self.committed channel none }

/-! ## Applying a program -/

/-- Puts one channel on one target. -/
def write (control : CoolingControl) (channel : Channel) : Target → Transaction Applied
  | .fixed duty => control.applyFixed channel duty
  | .curve curve => control.applyCurve channel curve

/-- The current readback when the channel already holds the target. -/
def alreadyApplied (control : CoolingControl) (channel : Channel) (target : Target) :
    Hw (Option ChannelReadback) := do
  if self.committedTarget channel ≠ some target then
    return none
  else
    match ← control.hwmon.mode channel with
    | none => return none
    | some mode =>
      if mode ≠ target.mode then
        return none
      else
        let duty ← control.hwmon.duty channel
        let entry := { ChannelReadback.new channel with mode := some mode, duty }
        match target with
        | .fixed expected => if duty ≠ some expected then return none else return some entry
        | .curve _ => return some entry

/-- What a program is told that arrives sooner than the firmware is given. -/
def cadenceRefusal (elapsed : Nat) : ApplyOutcome :=
  .untouched (.notApplied
    (s!"Refused: {elapsed / 1000000} ms since the last write to the cooler, and the firmware is " ++
      s!"given at least {MIN_PROGRAM_INTERVAL_MS} ms between programs. Nothing was written. Try " ++
      "again in a moment."))

def refuseForCadence (now : Instant) (settled : List (Option ChannelReadback)) : Option ApplyOutcome :=
  if settled.all Option.isSome then none
  else match self.lastWrite with
    | none => none
    | some lastWrite =>
      let elapsed := now - lastWrite
      if milliseconds MIN_PROGRAM_INTERVAL_MS ≤ elapsed then none
      else some (cadenceRefusal elapsed)

/-- Turns the readbacks of a completed transaction into its outcome. -/
def settle (targets : List (Channel × Target)) (writes : Nat) (readback : List ChannelReadback) :
    ApplyOutcome × CoolingExecutor :=
  let mismatched := readback.filterMap fun entry =>
    entry.mismatch.map fun detail => s!"{entry.channel.label}: {detail}"
  if mismatched = [] then
    ({ hardware := .confirmed, writes, deduplicated := writes == 0, readback }, self)
  else
    ({ hardware := .uncertain ("The write completed but the hardware did not read back as written. " ++
          String.intercalate " " mismatched),
       writes, deduplicated := writes == 0, readback },
     targets.foldl (fun self target => self.uncommit target.1) self)

/-- Restores one channel. What could not be proven comes back as a detail. -/
def restoreChannel (control : CoolingControl) (snapshot : ChannelSnapshot) :
    Hw (CoolingExecutor × Option String) := do
  match ← (control.restore snapshot).run with
  | .ok true =>
    match snapshot.mode, snapshot.curve, snapshot.duty with
    | some .curve, some curve, _ => return (← self.commit snapshot.channel (.curve curve), none)
    | some .fixed, _, some duty => return (← self.commit snapshot.channel (.fixed duty), none)
    | _, _, _ => return (self.uncommit snapshot.channel, none)
  | .ok false =>
    return (self.uncommit snapshot.channel,
      some s!"{snapshot.channel.label} could not be confirmed back on its previous program.")
  | .error error =>
    return (self.uncommit snapshot.channel,
      some s!"Restoring {snapshot.channel.label} failed: {error.display}")

/-- Restores the channels still to do, after the details of the ones done. -/
def restoreChannels (control : CoolingControl) :
    CoolingExecutor → List String → List ChannelSnapshot → Hw (CoolingExecutor × List String)
  | self, details, [] => return (self, details)
  | self, details, snapshot :: rest => do
    let (self, detail) ← self.restoreChannel control snapshot
    restoreChannels control self (details ++ detail.toList) rest

/-- Undoes a failed transaction and reports what could be proven afterwards. -/
def abort (control : CoolingControl) (snapshots : List ChannelSnapshot) (failure : WriteFailure)
    (writes : Nat) (readback : List ChannelReadback) : Hw (ApplyOutcome × CoolingExecutor) := do
  let (self, details) ← restoreChannels control self [] snapshots
  let hardware :=
    if details = [] then
      HardwareState.notApplied (s!"The write failed at {failure.display}. Every channel was restored " ++
        "to the program it was running, confirmed by readback, and no further write was sent.")
    else
      HardwareState.uncertain (s!"The write failed at {failure.display}. " ++
        String.intercalate " " details ++ " The hardware state cannot be confirmed and no further " ++
        "write is sent until a readback succeeds.")
  return ({ hardware, writes, deduplicated := false, readback }, self)

/-- What each channel runs before the transaction, with this process's record folded in. -/
def snapshots (control : CoolingControl) : List (Channel × Target) → Hw (List ChannelSnapshot)
  | [] => return []
  | (channel, _) :: rest => do
    let snapshot ← control.snapshot channel
    let others ← snapshots control rest
    return snapshot.withCurve (self.committedCurve channel) :: others

/-- Which channels already hold their target. -/
def settledChannels (control : CoolingControl) :
    List (Channel × Target) → Hw (List (Option ChannelReadback))
  | [] => return []
  | (channel, target) :: rest => do
    let current ← self.alreadyApplied control channel target
    let others ← settledChannels control rest
    return current :: others

/-- Writes the channels still to do. `targets` are those of the whole program. -/
def writeChannels (control : CoolingControl) (now : Instant) (targets : List (Channel × Target))
    (snapshots : List ChannelSnapshot) :
    CoolingExecutor → Nat → List ChannelReadback →
    List ((Channel × Target) × Option ChannelReadback) → Hw (ApplyOutcome × CoolingExecutor)
  | self, writes, readback, [] => return self.settle targets writes readback
  | self, writes, readback, (_, some current) :: rest =>
    writeChannels control now targets snapshots self writes (readback ++ [current]) rest
  | self, writes, readback, ((channel, target), none) :: rest => do
    -- Stamped before the result is known: a write that failed still reached the device.
    let self := { self with lastWrite := some now }
    match ← (write control channel target).run with
    | .ok applied =>
      let self ← self.commit channel target
      writeChannels control now targets snapshots self (writes + applied.writes)
        (readback ++ [applied.readback]) rest
    | .error failure => self.abort control snapshots failure writes readback

/-- The transaction of a program, once its instance is bound. -/
def transact (control : CoolingControl) (now : Instant) (targets : List (Channel × Target)) :
    Hw (ApplyOutcome × CoolingExecutor) := do
  let snapshots ← self.snapshots control targets
  let settled ← self.settledChannels control targets
  match self.refuseForCadence now settled with
  | some refusal => return (refusal, self)
  | none => writeChannels control now targets snapshots self 0 [] (targets.zip settled)

/-- Applies one program, writing only what is not already in place. `located` is the instance
discovery finds if it is asked. -/
def apply (located : Option KrakenHwmon) (now : Instant) (program : CoolingProgram) :
    Hw (ApplyOutcome × CoolingExecutor) :=
  match program.targets with
  | none => return (.untouched .onboard, self)
  | some targets =>
    let self := self.resolve located
    match self.control with
    | none =>
      return (.untouched (.notApplied ("No kraken2023 hwmon instance is bound to an allowlisted " ++
        "device, so nothing was written.")), self)
    | some control => self.transact control now targets

/-! ## Checking curves -/

/-- Whether a reported duty is consistent with a curve around a liquid temperature. -/
def acceptsDuty (curve : TemperatureCurve) (liquid : F32) (reported : UInt8) : Bool :=
  match TemperatureCurve.pointIndexFor liquid with
  | none => true
  | some center =>
    let window := (List.finRange CURVE_POINT_COUNT).filterMap fun i =>
      if center.val - 1 ≤ i.val ∧ i.val ≤ center.val + 1 then some (curve.points.get i).toNat else none
    match window.min?, window.max? with
    | some low, some high =>
      low - CURVE_DUTY_TOLERANCE.toNat ≤ reported.toNat ∧
        reported.toNat ≤ min (high + CURVE_DUTY_TOLERANCE.toNat) 255
    | _, _ => true

/-- What one channel's report says against its committed curve. -/
def divergence (kraken : KrakenTelemetry) (nowUnixMs : Nat) (liquid : F32) (channel : Channel) :
    Option CurveDivergence := do
  let commit ← self.committed channel
  match commit.target with
  | .fixed _ => none
  | .curve curve =>
    if nowUnixMs - commit.atUnixMs < CURVE_SETTLE_MS then none
    else
      let entry := kraken.channel channel
      if entry.mode.copied ≠ some .curve then none
      else
        let reported ← entry.duty.copied
        let expected ← curve.dutyAt liquid
        if acceptsDuty curve liquid reported then none
        else
          let liquidTemperatureMc := match liquid with
            | .finite t => roundAway (t * 1000)
            | .notFinite => 0
          some { channel, liquidTemperatureMc, expected, reported }

/-- Checks every committed curve against the duty the device reports, and uncommits a channel that
disagrees. -/
def verifyCurves (kraken : KrakenTelemetry) (nowUnixMs : Nat) :
    List CurveDivergence × CoolingExecutor :=
  match kraken.liquidTemperatureC.copied with
  | none => ([], self)
  | some liquid =>
    let diverged := [Channel.pump, .fan].filterMap (self.divergence kraken nowUnixMs liquid)
    (diverged, diverged.foldl (fun self divergence => self.uncommit divergence.channel) self)

end CoolingExecutor

end Kori
