import Kori.Daemon.Config.Document

/-! # The configuration the daemon holds, and what it asks of it -/

open Faulty

namespace Kori

/-- The thermal program a start replays, and whose name it answers to. -/
structure ProgramToRestore where
  program : CoolingProgram
  /-- The profile the program came from, or nothing when the session holds it. -/
  profile : Option String
deriving DecidableEq

/-- Replaces the first item of a kind, or adds one at the end. -/
def replaceOrPush {α : Type} (same : α → Bool) (item : α) : List α → List α
  | [] => [item]
  | x :: rest => if same x then item :: rest else x :: replaceOrPush same item rest

/-- Configuration in memory, with how it was obtained. -/
structure Configuration where
  path : ConfigPath
  document : ConfigDocument
  state : ConfigState
deriving DecidableEq

namespace Configuration

variable {Raw : Type}

def RECOVERY_ACTION : String :=
  "Save a profile to write a fresh configuration, or inspect the preserved file and restore it " ++
    "manually."

/-- Loads a file, recovering to safe defaults when it cannot be trusted. -/
def load (toml : Toml Raw) (path : ConfigPath) : DiskIo Raw Configuration := do
  match ← readDocument toml with
  | .ok (some document) => return { path, document, state := .loaded }
  | .ok none => return { path, document := .default, state := .defaults }
  | .error error =>
    let preserved ← preserve path
    let preservedPath := (preserved.getD path).display
    return { path, document := .default,
             state := .recovered error.display preservedPath RECOVERY_ACTION }

variable (toml : Toml Raw) (self : Configuration)

/-- Stored profiles, with the built-in safe profile first. -/
def profiles : List Profile := .safe :: self.document.profiles

def profile (name : String) : Option Profile := self.profiles.find? fun p => p.name = name

/-- The active profile, falling back to the safe profile if it vanished. -/
def activeProfile : Profile := (self.profile self.document.activeProfile).getD .safe

/-! ## Changing it -/

/-- Writes the document atomically. -/
def commit : DiskIo Raw (Except ConfigError Unit × Configuration) := do
  let self := { self with document := { self.document with schemaVersion := CONFIG_SCHEMA_VERSION } }
  match ← (writeAtomically toml self.document).run with
  | .ok () => return (.ok (), if self.state = .defaults then { self with state := .loaded } else self)
  | .error error => return (.error error, self)

/-- Applies a change to the document, then persists it. A failed write rolls the document back. -/
def commitChange {α : Type} (change : ConfigDocument → α × ConfigDocument) :
    DiskIo Raw (Except ConfigError α × Configuration) := do
  let previous := self.document
  let (value, document) := change previous
  match ← ({ self with document } : Configuration).commit toml with
  | (.ok (), self) => return (.ok value, self)
  | (.error error, self) => return (.error error, { self with document := previous })

/-- Stores a profile, replacing one with the same name. -/
def saveProfile (profile : Profile) : DiskIo Raw (Except ConfigError Unit × Configuration) :=
  match validateProfile profile with
  | .error source => return (.error (.invalidProfile profile.name source), self)
  | .ok () =>
    if profile.name = SAFE_PROFILE_NAME then
      return (.error (.duplicateProfile profile.name), self)
    else
      self.commitChange toml fun document => ((), { document with
        profiles := replaceOrPush (fun p => p.name = profile.name) profile document.profiles })

/-- Selects an existing profile as active. -/
def activate (name : String) : DiskIo Raw (Except ConfigError Profile × Configuration) :=
  match self.profile name with
  | none => return (.error (.missingActiveProfile name), self)
  | some profile =>
    self.commitChange toml fun document =>
      (profile, { document with activeProfile := profile.name })

/-- Removes a stored profile, activating the safe one when it was active. -/
def deleteProfile (name : String) : DiskIo Raw (Except ConfigError (Option String) × Configuration) :=
  if name = SAFE_PROFILE_NAME then return (.error (.missingActiveProfile name), self)
  else if ¬ self.document.profiles.any fun p => p.name = name then
    return (.error (.missingActiveProfile name), self)
  else
    self.commitChange toml fun document =>
      let document := { document with profiles := document.profiles.filter fun p => p.name ≠ name }
      if document.activeProfile = name then
        (some SAFE_PROFILE_NAME, { document with activeProfile := SAFE_PROFILE_NAME })
      else (none, document)

/-- Records the program the device was just confirmed to be running. -/
def recordProgram (program : CoolingProgram) : DiskIo Raw (Except ConfigError Unit × Configuration) :=
  if self.document.session.program = some program then return (.ok (), self)
  else
    self.commitChange toml fun document =>
      ((), { document with session := { document.session with program := some program } })

/-- Records the preset the panel was just told to show. -/
def recordDisplay (preset : DisplayPreset) : DiskIo Raw (Except ConfigError Unit × Configuration) :=
  if self.document.session.display.any fun held => held.Same preset then return (.ok (), self)
  else
    self.commitChange toml fun document =>
      ((), { document with session := { document.session with display := some preset } })

/-- Records the program a channel was just told to run. -/
def recordLighting (command : LightingCommand) : DiskIo Raw (Except ConfigError Unit × Configuration) :=
  if self.document.session.channel command.channel = some command then return (.ok (), self)
  else
    self.commitChange toml fun document =>
      ((), { document with session := { document.session with
        lighting := replaceOrPush (fun held => held.channel = command.channel) command
          document.session.lighting } })

/-! ## What a start puts back -/

/-- The active profile's lighting, with every channel the session has since committed over it. -/
def lightingToRestore : List LightingCommand :=
  let session := self.document.session
  let commands := self.activeProfile.lighting.map fun command =>
    (session.channel command.channel).getD command
  session.lighting.foldl (fun commands command =>
    if commands.any fun held => held.channel = command.channel then commands
    else commands ++ [command]) commands

/-- The thermal program a start should put back: the session's, or else the active profile's, and
nothing when that program writes nothing. -/
def programToRestore : Option ProgramToRestore :=
  let held : ProgramToRestore := match self.document.session.program with
    | some program => { program, profile := none }
    | none => { program := self.activeProfile.program, profile := some self.activeProfile.name }
  if held.program ≠ .onboard then some held else none

/-- The preset a start should put back on the panel. -/
def displayToRestore : Option DisplayPreset :=
  self.document.session.display.or self.activeProfile.display

end Configuration

end Kori
