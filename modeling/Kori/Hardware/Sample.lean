import Kori.Hardware.Probe

/-! # One sample of the cooler, with the cause of every reading that is missing -/

namespace Kori

namespace Text

/-- `u32::from_str`: an optional `+`, then digits that fit. -/
def parseU32 (text : List Char) : Option UInt32 := do
  let n ← digits (match text with | '+' :: rest => rest | _ => text)
  if n < 4294967296 then some (UInt32.ofNat n) else none

end Text

/-- What reading a file answers, by its directory and its name. -/
abbrev Files := String → String → Except IoError Contents

/-- The directory the driver is bound at, if it is. -/
def KrakenHwmon.locate (root : Sysfs) : Option KrakenHwmon :=
  (HwmonInstance.locate root).map fun found => ⟨found.path⟩

def rpmAttribute (channel : Channel) : String := s!"fan{channelIndex channel}_input"

namespace Files

variable (files : Files) (debug : List Char → String)

/-- Reads an attribute, telling an absent file from an unreadable one. -/
def readAttributeDetailed (directory name : String) : Except Unavailable (List Char) :=
  let path := directory ++ "/" ++ name
  match files directory name with
  | .error ⟨.notFound, _⟩ => .error (.absent (path ++ " does not exist."))
  | .error error => .error (.unreadable (path ++ " could not be read: " ++ error.detail))
  | .ok .binary => .error (.unparsable (path ++ " is not valid UTF-8."))
  | .ok (.text raw) =>
    if Text.trim raw = [] then .error (.unparsable (path ++ " is empty."))
    else .ok (Text.trim raw)

/-- The same, parsed. `debug` writes a text between quotes. -/
def readParsed {α : Type} (typeName : String) (parse : List Char → Option α) (directory name : String) :
    Except Unavailable α :=
  match files.readAttributeDetailed directory name with
  | .error cause => .error cause
  | .ok text =>
    match parse text with
    | some value => .ok value
    | none =>
      .error (.unparsable (directory ++ "/" ++ name ++ " holds " ++ debug text ++ ", which is not a " ++
        typeName ++ "."))

def reading {α : Type} (typeName : String) (parse : List Char → Option α) (directory name : String) :
    Reading α :=
  match files.readParsed debug typeName parse directory name with
  | .ok value => .valid value
  | .error cause => .unavailable cause

variable (hwmon : KrakenHwmon)

/-- Coolant temperature, from an attribute in millidegrees. -/
def liquidTemperatureC : Reading F32 :=
  match files.readParsed debug "i32" Text.parseI32 hwmon.path Attribute.liquidTemperature.name with
  | .ok millidegrees => .valid (.finite (millidegrees / 1000))
  | .error cause => .unavailable cause

def rpm (channel : Channel) : Reading Nat :=
  match files.reading debug "u32" Text.parseU32 hwmon.path (rpmAttribute channel) with
  | .valid value => .valid value.toNat
  | .unavailable cause => .unavailable cause

def duty (channel : Channel) : Reading UInt8 :=
  files.reading debug "u8" Text.parseU8 hwmon.path (Attribute.duty channel).name

def mode (channel : Channel) : Reading PwmMode :=
  match files.readParsed debug "u8" Text.parseU8 hwmon.path (Attribute.mode channel).name with
  | .error cause => .unavailable cause
  | .ok value =>
    match PwmMode.fromKernel value with
    | some mode => .valid mode
    | none =>
      .unavailable (.unparsable (hwmon.attributePath (.mode channel) ++
        s!" reports control mode {value.toNat}, which this build does not recognize."))

/-- Everything one channel reports in a single pass. -/
def channelTelemetry (channel : Channel) : ChannelTelemetry :=
  { channel, rpm := files.rpm debug hwmon channel, duty := files.duty debug hwmon channel,
    mode := files.mode debug hwmon channel }

/-- One complete sample of a bound instance. -/
def telemetry (atUnixMs : Nat) : KrakenTelemetry :=
  { atUnixMs, present := true, liquidTemperatureC := files.liquidTemperatureC debug hwmon,
    pump := files.channelTelemetry debug hwmon .pump, fan := files.channelTelemetry debug hwmon .fan }

end Files

namespace KrakenTelemetry

/-- Every reading of the sample is missing. -/
def Blind (kraken : KrakenTelemetry) : Bool :=
  kraken.liquidTemperatureC.copied.isNone && (kraken.pump.rpm.copied.isNone && kraken.fan.rpm.copied.isNone) &&
    (kraken.pump.duty.copied.isNone && kraken.fan.duty.copied.isNone) &&
    (kraken.pump.mode.copied.isNone && kraken.fan.mode.copied.isNone)

/-- The sample of a machine with no cooler. -/
def absent (atUnixMs : Nat) (cause : Unavailable) : KrakenTelemetry :=
  let unavailable (channel : Channel) : ChannelTelemetry :=
    { channel, rpm := .unavailable cause, duty := .unavailable cause, mode := .unavailable cause }
  { atUnixMs, present := false, liquidTemperatureC := .unavailable cause,
    pump := unavailable .pump, fan := unavailable .fan }

end KrakenTelemetry

end Kori
