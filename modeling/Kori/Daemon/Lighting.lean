import Kori.Core.Ipc
import Kori.Daemon.Cooling
import Kori.Hardware.Rgb

/-! # The only caller that writes to the RGB controller -/

open Faulty

namespace Kori

/-- One channel as the controller described it. -/
structure ChannelReport where
  index : UInt8
  accessories : List String
deriving DecidableEq

structure LightingExecutor where
  /-- Whether a transport to the controller is held. -/
  transport : Bool
  channels : List ChannelReport
  /-- The last program committed per one-based channel. -/
  committed : UInt8 → Option LightingProgram
  /-- When the last report was sent per one-based channel. -/
  lastSent : UInt8 → Option Instant

namespace LightingExecutor

/-- An executor with no controller behind it. -/
def absent : LightingExecutor :=
  { transport := false, channels := [], committed := fun _ => none, lastSent := fun _ => none }

/-- An executor bound to a controller that answered its topology. -/
def connected (channels : List ChannelReport) : LightingExecutor :=
  { absent with transport := true, channels }

variable (self : LightingExecutor)

def channelCount : UInt8 := UInt8.ofNat self.channels.length

/-- Per-channel state for the status. -/
def state : List ChannelState :=
  self.channels.map fun channel =>
    { channel := channel.index, accessories := channel.accessories,
      committed := self.committed channel.index }

/-- One answer about one command. -/
def answer (command : LightingCommand) (hardware : HardwareState) (writes : Nat) : LightingOutcome :=
  { channel := command.channel, program := command.program, hardware, writes,
    deduplicated := writes == 0 && hardware = .confirmed }

/-- Refuses a command arriving sooner than the controller is given. -/
def refuseForCadence (now : Instant) (command : LightingCommand) : Option LightingOutcome := do
  let elapsed := now - (← self.lastSent command.channel)
  if milliseconds MIN_COMMAND_INTERVAL_MS ≤ elapsed then none
  else
    let refusal : LightingError :=
      .cadenceTooFast command.channel MIN_COMMAND_INTERVAL_MS (elapsed / milliseconds 1)
    some (answer command
      (.notApplied s!"{refusal.display} Nothing was sent. Try again in a moment.") 0)

/-- Applies one command. A report that failed drops the record of every channel, since what the
failure says is about the link rather than the channel. -/
def apply (now : Instant) (command : LightingCommand) :
    RgbController.Io (LightingOutcome × LightingExecutor) :=
  if self.committed command.channel = some command.program then
    return (answer command .confirmed 0, self)
  else match self.refuseForCadence now command with
    | some refusal => return (refusal, self)
    | none =>
      if ¬ self.transport then
        return (answer command (.notApplied "No lighting controller is connected.") 0, self)
      else do
        let sent := { self with lastSent := Function.update self.lastSent command.channel (some now) }
        match ← RgbController.apply command.channel command.program with
        | .ok _ =>
          return (answer command .confirmed 1, { sent with
            committed := Function.update self.committed command.channel (some command.program) })
        | .error error =>
          return (answer command (.uncertain error.display) 0, { sent with committed := fun _ => none })

end LightingExecutor

end Kori
