import Kori.Core.Telemetry.Sections
import Kori.Core.Text.Lines
import Kori.Faulty.Turns
import Kori.Hardware.Sample

/-! # The processor and the memory, read from the kernel's own files -/

open Faulty

namespace Kori

/-- The `hwmon` drivers a processor temperature is read from. -/
def CPU_TEMPERATURE_DRIVERS : List String := ["k10temp"]

/-- The counters of the processor, in ticks. -/
structure CpuTimes where
  idle : Nat
  total : Nat
deriving DecidableEq

/-- Reads the aggregate `cpu` line: every field or none. The sums wrap, as the release build's do. -/
def Files.readCpuTimes (files : Files) (procRoot : String) : Except Unavailable CpuTimes :=
  let path := procRoot ++ "/stat"
  match files.readAttributeDetailed procRoot "stat" with
  | .error cause => .error cause
  | .ok text =>
    match (Text.lines text).find? fun line => "cpu ".toList.isPrefixOf line with
    | none => .error (.unparsable (path ++ " has no aggregate cpu line."))
    | some line =>
      match ((Text.words line).drop 1).mapM Text.parseU64 with
      | none => .error (.unparsable (path ++ " publishes a cpu field that is not a number."))
      | some fields =>
        match fields with
        | _ :: _ :: _ :: idle :: iowait :: _ =>
          .ok { idle := (idle + iowait) % 2 ^ 64, total := fields.sum % 2 ^ 64 }
        | _ => .error (.unparsable (path ++ s!" publishes {fields.length} cpu fields, fewer than the five required."))

/-- One `/proc/meminfo` field, converted from kibibytes to bytes. -/
def meminfoField (text key : List Char) : Option Nat := do
  let line ← (Text.lines text).find? fun line => (key ++ [':']).isPrefixOf line
  let word ← (Text.words line)[1]?
  let value ← Text.parseU64 word
  if value * 1024 < 2 ^ 64 then some (value * 1024) else none

/-- The directory of the first instance of a recognized driver that has a temperature. -/
def cpuTemperaturePath (root : Sysfs) : Option String :=
  (root.hwmon.find? fun entry => entry.name.any CPU_TEMPERATURE_DRIVERS.contains &&
    entry.files.any fun file => file.name = "temp1_input").map HwmonEntry.path

/-- The collectors, holding only what a difference needs. -/
structure SystemSensors where
  procRoot : String
  cpuTemperature : Option String
  previous : Option CpuTimes
deriving DecidableEq

namespace SystemSensors

/-- Resolves every source once, and takes the baseline of the first load. -/
def opened (root : Sysfs) (procRoot : String) (files : Files) : SystemSensors :=
  { procRoot, cpuTemperature := cpuTemperaturePath root,
    previous := match files.readCpuTimes procRoot with
      | .ok times => some times
      | .error _ => none }

/-- Busy time since the last published load, as a percentage. -/
def cpuLoadPercent (files : Files) : StateM SystemSensors (Reading F32) := do
  let sensors ← get
  let path := sensors.procRoot ++ "/stat"
  match files.readCpuTimes sensors.procRoot with
  | .error cause => return .unavailable cause
  | .ok current =>
    match sensors.previous with
    | none =>
      set { sensors with previous := some current }
      return .unavailable (.unreadable (path ++ " has not been sampled twice yet."))
    | some previous =>
      let total := current.total - previous.total
      let idle := current.idle - previous.idle
      -- Two reads inside one tick leave the baseline where it is.
      if total = 0 then return .unavailable (.unreadable (path ++ " advanced by zero ticks between samples."))
      else
        set { sensors with previous := some current }
        return .percent (ratio (total - idle) total) path

variable (debug : List Char → String) (sensors : SystemSensors) (files : Files)

/-- Package temperature. -/
def cpuTemperatureC : Reading F32 :=
  match sensors.cpuTemperature with
  | none =>
    .unavailable (.absent ("No " ++ String.intercalate " or " CPU_TEMPERATURE_DRIVERS ++
      " hwmon instance publishes a CPU temperature on this machine."))
  | some directory =>
    match files.readAttributeDetailed directory "temp1_input" with
    | .error cause => .unavailable cause
    | .ok text =>
      match Text.parseI32 text with
      | some millidegrees => .valid (.finite (millidegrees / 1000))
      | none => .unavailable (.unparsable (directory ++ "/temp1_input holds " ++ debug text ++ "."))

/-- Physical memory in use and installed. -/
def memory : Reading MemoryUsage :=
  let path := sensors.procRoot ++ "/meminfo"
  match files.readAttributeDetailed sensors.procRoot "meminfo" with
  | .error cause => .unavailable cause
  | .ok text =>
    match meminfoField text "MemTotal".toList, meminfoField text "MemAvailable".toList with
    | some total, some available =>
      if 0 < total then .valid { usedBytes := total - available, totalBytes := total }
      else .unavailable (.unparsable (path ++ " does not publish both MemTotal and MemAvailable."))
    | _, _ => .unavailable (.unparsable (path ++ " does not publish both MemTotal and MemAvailable."))

/-- One complete sample. -/
def telemetry (files : Files) (atUnixMs : Nat) : StateM SystemSensors SystemSection := do
  let cpuLoadPercent ← cpuLoadPercent files
  let sensors ← get
  return { atUnixMs, cpuLoadPercent, cpuTemperatureC := sensors.cpuTemperatureC debug files,
           memory := sensors.memory files }

end SystemSensors

end Kori
