import Kori.Core.Ipc
import Kori.Faulty.Logic

/-! # The configuration file: its shape, how it is read, and how it is replaced -/

open Faulty

namespace Kori

/-! ## The document -/

/-- What the daemon last committed, outside any named profile. -/
structure SessionState where
  program : Option CoolingProgram
  /-- One entry per channel. -/
  lighting : List LightingCommand
  display : Option DisplayPreset
deriving DecidableEq

/-- The program committed to a channel, when one was. -/
def SessionState.channel (session : SessionState) (channel : UInt8) : Option LightingCommand :=
  session.lighting.find? fun held => held.channel = channel

structure ConfigDocument where
  schemaVersion : Nat
  activeProfile : String
  profiles : List Profile
  session : SessionState
deriving DecidableEq

def ConfigDocument.default : ConfigDocument :=
  { schemaVersion := CONFIG_SCHEMA_VERSION, activeProfile := SAFE_PROFILE_NAME, profiles := [],
    session := { program := none, lighting := [], display := none } }

/-- Why a configuration file could not be used as-is. -/
inductive ConfigError where
  | parse (detail : String)
  | encode (detail : String)
  | unsupportedSchema (found supported : Nat)
  | invalidProfile (name : String) (source : ValidationError)
  | missingActiveProfile (name : String)
  | duplicateProfile (name : String)
  | io (detail : String)
deriving DecidableEq

def ConfigError.display : ConfigError → String
  | parse detail => s!"configuration file is not valid TOML: {detail}"
  | encode detail => s!"configuration could not be encoded as TOML: {detail}"
  | unsupportedSchema found supported =>
    s!"configuration declares schema {found}, this build understands {supported}"
  | invalidProfile name source => s!"profile {name} is invalid: {source.message}"
  | missingActiveProfile name => s!"active profile {name} is not in the file"
  | duplicateProfile name => s!"duplicate profile name {name}"
  | io detail => detail

/-- The profiles still to check, after the names already seen. -/
def checkProfiles : List Profile → List String → Except ConfigError (List String)
  | [], seen => .ok seen
  | profile :: rest, seen =>
    if profile.name = SAFE_PROFILE_NAME ∨ profile.name ∈ seen then
      .error (.duplicateProfile profile.name)
    else match validateProfile profile with
      | .error source => .error (.invalidProfile profile.name source)
      | .ok () => checkProfiles rest (seen ++ [profile.name])

/-- Everything a file must satisfy once it parses. -/
def ConfigDocument.check (document : ConfigDocument) : Except ConfigError Unit :=
  if CONFIG_SCHEMA_VERSION < document.schemaVersion ∨ document.schemaVersion = 0 then
    .error (.unsupportedSchema document.schemaVersion CONFIG_SCHEMA_VERSION)
  else match checkProfiles document.profiles [] with
    | .error error => .error error
    | .ok seen =>
      if document.activeProfile ≠ SAFE_PROFILE_NAME ∧ document.activeProfile ∉ seen then
        .error (.missingActiveProfile document.activeProfile)
      else .ok ()

variable {Raw : Type}

/-- The encoder and the decoder of the file, and what an empty file holds. -/
structure Toml (Raw : Type) where
  empty : Raw
  encode : ConfigDocument → Raw
  decode : Raw → Except String ConfigDocument

/-- What the contents of a file come to. -/
def Toml.read (toml : Toml Raw) (raw : Raw) : Except ConfigError ConfigDocument :=
  match toml.decode raw with
  | .error detail => .error (.parse detail)
  | .ok document =>
    match document.check with
    | .error error => .error error
    | .ok () => .ok document

/-! ## The disk -/

/-- A configuration file's path. -/
structure ConfigPath where
  directory : String
  stem : String
  extension : String
deriving DecidableEq

namespace ConfigPath

def display (path : ConfigPath) : String := path.directory ++ "/" ++ path.stem ++ "." ++ path.extension

def withExtension (path : ConfigPath) (extension : String) : ConfigPath := { path with extension }

end ConfigPath

/-- What the file and the temporary file beside it hold. -/
structure Disk (Raw : Type) where
  file : Option Raw
  temporary : Option Raw
deriving DecidableEq

inductive DiskQuery where
  | read
  | exists
deriving DecidableEq

inductive DiskCommand (Raw : Type) where
  | encode
  | createDirAll
  | create
  | setPermissions
  | writeAll (raw : Raw)
  | syncAll
  | rename
  | removeFile
  | openDirectory
  | syncDirectory
  | setAside
deriving DecidableEq

/-- A failed operation: its error, and what it may have left in the temporary file. -/
structure DiskFault (Raw : Type) where
  detail : String
  left : Option Raw

/-- Only a rename that succeeds, or a file set aside, changes what the file holds. -/
def disk (toml : Toml Raw) :
    Device (Disk Raw) (DiskCommand Raw) DiskQuery (Option Raw) (DiskFault Raw) String where
  act
    | .create, s => { s with temporary := some toml.empty }
    | .writeAll raw, s => { s with temporary := some raw }
    | .rename, s => match s.temporary with
      | some raw => { file := some raw, temporary := none }
      | none => s
    | .removeFile, s => { s with temporary := none }
    | .setAside, s => { s with file := none }
    | _, s => s
  look _ s := s.file
  error := DiskFault.detail
  spill fault _ s := { s with temporary := fault.left }

abbrev DiskIo (Raw : Type) := Prog (DiskCommand Raw) DiskQuery (Option Raw) String
abbrev DiskSeen (Raw : Type) := Seen (Disk Raw) (DiskCommand Raw) DiskQuery (Option Raw)
abbrev DiskWorld (Raw : Type) :=
  World (Disk Raw) (DiskCommand Raw) DiskQuery (Option Raw) (DiskFault Raw)

/-- Reads the file; a file that is not there is no error. -/
def readDocument (toml : Toml Raw) : DiskIo Raw (Except ConfigError (Option ConfigDocument)) := do
  match ← look .read with
  | .error detail => return .error (.io detail)
  | .ok none => return .ok none
  | .ok (some raw) => return (toml.read raw).map some

/-- Renames an unusable file aside, keeping it for diagnosis. -/
def preserve (path : ConfigPath) : DiskIo Raw (Option ConfigPath) := do
  match ← look .exists with
  | .ok (some _) =>
    let stamp ← clock
    match ← issue .setAside with
    | .ok () => return some (path.withExtension s!"corrupt.{stamp}")
    | .error _ => return none
  | _ => return none

/-- One step of a save, and how its failure is reported. -/
def perform (command : DiskCommand Raw) (report : String → ConfigError) :
    ExceptT ConfigError (DiskIo Raw) Unit := do
  match ← (issue command : DiskIo Raw _) with
  | .ok () => return ()
  | .error detail => throw (report detail)

/-- Serializes to a temporary file, flushes it, then renames it over the target. -/
def writeAtomically (toml : Toml Raw) (document : ConfigDocument) :
    ExceptT ConfigError (DiskIo Raw) Unit := do
  perform .encode .encode
  let encoded := toml.encode document
  perform .createDirAll .io
  perform .create .io
  perform .setPermissions .io
  perform (.writeAll encoded) .io
  perform .syncAll .io
  match ← (issue .rename : DiskIo Raw _) with
  | .error detail =>
    let _ ← (issue .removeFile : DiskIo Raw _)
    throw (.io detail)
  | .ok () =>
    -- The directory entry is persisted when it can be, and the save stands either way.
    match ← (issue .openDirectory : DiskIo Raw _) with
    | .ok () =>
      let _ ← (issue .syncDirectory : DiskIo Raw _)
      return ()
    | .error _ => return ()

end Kori
