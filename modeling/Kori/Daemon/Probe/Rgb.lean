import Kori.Daemon.Probe
import Kori.Hardware.Rgb

/-! # The lighting write probe -/

open Faulty

namespace Kori

/-- Brightness the write probe uses on live hardware. -/
def PROBE_BRIGHTNESS : UInt8 := 10

def Brightness.OFF : Brightness := ⟨0, by decide⟩

def LightingEffect.ALL : List LightingEffect := [.breathing, .spectrumWave]
def EffectSpeed.ALL : List EffectSpeed := [.slowest, .slower, .normal, .faster, .fastest]
def EffectDirection.ALL : List EffectDirection := [.forward, .backward]

/-- The program the write probe applies while it tests a channel. -/
def RgbController.probeProgram (color : Rgb) : LightingProgram :=
  .fixed color ((Brightness.new PROBE_BRIGHTNESS).toOption.getD Brightness.OFF)

/-- The node: what is written to it and what is read from it. -/
inductive HidCall where
  | writeReport (report : Report)
  | readReport (timeoutMillis : Nat)

/-- The text of a failed write and the microseconds it took, or what was read. -/
abbrev HidCall.Answer : HidCall → Type
  | writeReport _ => Option String × Nat
  | readReport _ => Except String (Option Report)

abbrev RgbProbe := ProbeScript HidCall.Answer
abbrev RgbProbeSaid := ProbeSaid HidCall.Answer

namespace RgbProbe

/-- White exercises all three LED dies at once. -/
def PROBE_COLOR : Rgb := ⟨0xff, 0xff, 0xff⟩
def PROBE_LEVEL : Brightness := ⟨PROBE_BRIGHTNESS, by decide⟩
/-- Intervals the cadence measurement steps down through, in milliseconds. -/
def CADENCE_STEPS_MS : List Nat := [200, 100, 50, 25, 10]
/-- Commands sent at each cadence step. -/
def CADENCE_COMMANDS : Nat := 5

/-- One report the probe sent, with everything observable about it. -/
structure ProbeStep where
  channel : UInt8
  program : String
  reportHex : String
  responseHex : Option String
  writeMicros : UInt64
  error : Option String
  observed : String

structure CadenceObservation where
  triedMs : List Nat
  stableIntervalMs : Option Nat
  firstFailureMs : Option Nat
  detail : String

/-- Whether the controller was put back where the operator wanted it. -/
inductive Restoration where
  | confirmed (program observed : String)
  | unconfirmed (program reason : String)
  | notNeeded

/-- Everything a write probe run has to record. -/
structure WriteProbeReport where
  scope : String
  device : String
  node : String
  firmware : Evidenced String
  channels : List RgbChannel
  priorState : String
  steps : List ProbeStep
  cadence : CadenceObservation
  restoration : Restoration

/-- Why the probe refused to start. -/
inductive ProbeRefusal where
  | noTopology (reason : String)
  | notAuthorized

/-- Which commands a run is allowed to send. -/
inductive ProbeScope where
  | fixedAndOff
  | withEffects
  | effectSweep
deriving DecidableEq

def breathing : LightingProgram := .effect .breathing [PROBE_COLOR] PROBE_LEVEL .normal .forward
def spectrumWave : LightingProgram := .effect .spectrumWave [] PROBE_LEVEL .normal .forward

namespace ProbeScope

/-- The channels the scope addresses, out of the ones the controller reported. -/
def channels : ProbeScope → List RgbChannel → List RgbChannel
  | effectSweep, reported => reported.take 1
  | _, reported => reported

def key : ProbeScope → String
  | fixedAndOff => "fixed_and_off"
  | withEffects => "with_effects"
  | effectSweep => "effect_sweep"

/-- One program for each value the screen can select, then off. -/
def sweep : List LightingProgram :=
  (LightingEffect.ALL.flatMap fun effect =>
    let colors := List.replicate effect.colorRange.1 PROBE_COLOR
    let directions := if effect.acceptsDirection then EffectDirection.ALL else [.forward]
    directions.flatMap fun direction =>
      EffectSpeed.ALL.map fun speed => .effect effect colors PROBE_LEVEL speed direction) ++ [.off]

/-- The programs sent to each addressed channel, in order. -/
def programs : ProbeScope → List LightingProgram
  | effectSweep => sweep
  | fixedAndOff => [RgbController.probeProgram PROBE_COLOR, .off]
  | withEffects => [RgbController.probeProgram PROBE_COLOR, .off, breathing, spectrumWave, .off]

/-- What the run will send, in the words the operator authorizes. -/
def description : ProbeScope → String
  | fixedAndOff =>
    s!"Each channel is tested one at a time with a {PROBE_BRIGHTNESS.toNat}% white, then off. Nothing else is sent."
  | withEffects =>
    s!"Each channel is tested one at a time with a {PROBE_BRIGHTNESS.toNat}% white, then off, " ++
      s!"then Breathing and Spectrum Wave at {PROBE_BRIGHTNESS.toNat}%, then off again. Nothing else is sent."
  | effectSweep =>
    s!"The first channel only, at {PROBE_BRIGHTNESS.toNat}%: Breathing at each of the {EffectSpeed.ALL.length} " ++
      "speeds, then Spectrum Wave at each speed forward, then each speed backward, " ++
      s!"then off. {effectSweep.programs.length} programs, one at a time. Nothing else is sent."

end ProbeScope

def hex (bytes : List UInt8) : String := String.join (bytes.map RgbController.hex2)

def writeReport (report : Report) : RgbProbe (Option String × Nat) :=
  request (ProbeCall.device (HidCall.writeReport report))
def readReport (timeoutMillis : Nat) : RgbProbe (Except String (Option Report)) :=
  request (ProbeCall.device (HidCall.readReport timeoutMillis))

/-- Sends one program and records everything observable about the exchange. -/
def send (channel : UInt8) (program : LightingProgram) : RgbProbe ProbeStep :=
  match RgbController.encode channel program with
  | .error error => return {
      channel, program := program.summary, reportHex := "", responseHex := none, writeMicros := 0
      error := some s!"{error.display}, so nothing was sent", observed := "" }
  | .ok report => do
    let (error, micros) ← writeReport report
    let response ← readReport 50
    return {
      channel, program := program.summary, reportHex := hex report.toList
      responseHex := response.toOption.join.map fun answer => hex answer.toList
      writeMicros := UInt64.ofNat micros, error, observed := "" }

/-- Dim white and off, alternating. -/
def cadenceProgram (index : Nat) : LightingProgram :=
  if index % 2 = 0 then RgbController.probeProgram PROBE_COLOR else .off

/-- The commands of one cadence step that are left, and whether one failed. -/
def cadenceStep (channel : UInt8) (intervalMs : Nat) : List Nat → RgbProbe Bool
  | [] => return false
  | index :: rest => do
    let step ← send channel (cadenceProgram index)
    if step.error.isSome then return true
    sleep intervalMs
    cadenceStep channel intervalMs rest

/-- The intervals still to try, after those tried and the last that was stable. -/
def cadenceSteps (channel : UInt8) : List Nat → List Nat → Option Nat → RgbProbe (List Nat × Option Nat × Option Nat)
  | [], tried, stable => return (tried, stable, none)
  | interval :: rest, tried, stable => do
    let failed ← cadenceStep channel interval (List.range CADENCE_COMMANDS)
    if failed then return (tried ++ [interval], stable, some interval)
    cadenceSteps channel rest (tried ++ [interval]) (some interval)

def cadenceDetail : Option Nat → Option Nat → String
  | some stable, some failure =>
    s!"{CADENCE_COMMANDS} commands landed at {stable} ms; the first failure appeared at {failure} ms."
  | some stable, none =>
    s!"{CADENCE_COMMANDS} commands landed at every interval down to {stable} ms without an error."
  | none, some failure => s!"The controller refused a command at the slowest interval tried, {failure} ms."
  | none, none => "No cadence step completed."

/-- Steps the interval down until a command fails. -/
def measureCadence (channel : UInt8) : RgbProbe CadenceObservation := do
  let (triedMs, stableIntervalMs, firstFailureMs) ← cadenceSteps channel CADENCE_STEPS_MS [] none
  return { triedMs, stableIntervalMs, firstFailureMs, detail := cadenceDetail stableIntervalMs firstFailureMs }

/-- One channel put on the program the operator chose, and what went wrong. -/
def restoreChannel (program : LightingProgram) (channel : RgbChannel) : RgbProbe (Option String) := do
  let step ← send channel.index program
  sleep MIN_COMMAND_INTERVAL_MS
  return step.error.map fun error => s!"channel {channel.index.toNat}: {error}"

/-- Puts every channel on the program the operator chose, then asks. -/
def restore (channels : List RgbChannel) (program : LightingProgram) : RgbProbe Restoration := do
  let failures := (← Script.each (restoreChannel program) channels).reduceOption
  if ¬failures.isEmpty then
    return .unconfirmed program.summary ("; ".intercalate failures)
  let observed ← Operator.ask
    s!"Every channel was set to {program.summary}. Does the lighting look right? Describe what you see:"
  if observed.isEmpty then
    return .unconfirmed program.summary
      "the operator recorded no observation, so restoration is not confirmed"
  return .confirmed program.summary observed

def warning : String :=
  "This will send lighting commands to 1e71:2021 that this product has never validated on this firmware."

def priorQuestion : String :=
  "Describe what the lighting shows right now. This controller answers no report that reads a channel back, " ++
    "so this is the only capture there can be:"

/-- One program sent to one channel, and what the operator saw. -/
def testProgram (sent : UInt8 × LightingProgram) : RgbProbe ProbeStep := do
  let step ← send sent.1 sent.2
  let observed ← Operator.ask s!"Channel {sent.1.toNat} was sent {sent.2.summary}. What did it show?"
  sleep MIN_COMMAND_INTERVAL_MS
  return { step with observed }

/-- Runs the write probe against a controller the caller already opened. -/
def run (source : String) (topology : RgbTopology) (scope : ProbeScope) (restoreTo : LightingProgram) :
    RgbProbe (Except ProbeRefusal WriteProbeReport) :=
  match topology.channels.value with
  | none => return .error (.noTopology (topology.channels.reason.getD "no reason recorded"))
  | some reported => do
    Operator.note warning
    Operator.note scope.description
    if ¬(← authorized) then return .error .notAuthorized
    let priorState ← Operator.ask priorQuestion
    let addressed := scope.channels reported
    let steps ← Script.each testProgram
      (addressed.flatMap fun channel => scope.programs.map fun program => (channel.index, program))
    let cadence ← measureCadence ((addressed.head?.map (·.index)).getD 1)
    Operator.note cadence.detail
    let restoration ← restore reported restoreTo
    return .ok {
      scope := scope.key, device := RGB_CONTROLLER.display, node := source, firmware := topology.firmware
      channels := reported, priorState, steps, cadence, restoration }

end RgbProbe

end Kori
