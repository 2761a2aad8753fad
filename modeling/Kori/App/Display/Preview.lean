import Kori.App.Display
import Kori.Renderer.Picture

/-! # The picture the preview draws, compiled once and held -/

namespace Kori

namespace Preview

/-- What a picture depends on, besides the panel. -/
inductive Source where
  /-- What the frames of an image preset depend on, and nothing else. -/
  | image (image : Option String) (orientation : Orientation) (background : Rgb)
  /-- The whole preset, and the readings the frame carries. -/
  | readings (preset : DisplayPreset) (samples : MetricSample × MetricSample)

/-- `PartialEq` of what pictures depend on: a path is compared by its components. -/
def Source.Same : Source → Source → Prop
  | .image path orientation background, .image path' orientation' background' =>
    path.map Faulty.components = path'.map Faulty.components ∧ orientation = orientation' ∧ background = background'
  | .readings preset samples, .readings preset' samples' => preset.Same preset' ∧ samples = samples'
  | _, _ => False

instance : (source other : Source) → Decidable (source.Same other)
  | .image path orientation background, .image path' orientation' background' =>
    inferInstanceAs (Decidable (path.map Faulty.components = path'.map Faulty.components ∧
      orientation = orientation' ∧ background = background'))
  | .readings preset samples, .readings preset' samples' =>
    inferInstanceAs (Decidable (preset.Same preset' ∧ samples = samples'))
  | .image .., .readings .. => inferInstanceAs (Decidable False)
  | .readings .., .image .. => inferInstanceAs (Decidable False)

/-- Everything one compiled picture depends on. -/
structure Identity where
  panel : UInt16 × UInt16
  source : Source

def Identity.Same (identity other : Identity) : Prop :=
  identity.panel = other.panel ∧ identity.source.Same other.source

instance (identity other : Identity) : Decidable (identity.Same other) := inferInstanceAs (Decidable (_ ∧ _))

/-- Keys the picture a preset would produce on this panel, at these readings. -/
def Identity.of (preset : DisplayPreset) (panel : LcdPanel) (telemetry : Option TelemetrySnapshot) : Identity :=
  { panel := (panel.width, panel.height)
    source :=
      if preset.mode.usesImage then .image preset.image preset.orientation preset.background
      else .readings preset (match telemetry with
        | some snapshot => preset.samples snapshot
        | none => (.unavailable preset.readings.1.metric, .unavailable preset.readings.2.metric)) }

/-- What the preview has to draw, and what it was built from. -/
inductive Picture (Png : Type) where
  | none
  /-- One rendered frame. -/
  | still (identity : Identity) (png : Png)
  /-- The frames of an image preset with the delay each stays, and the one the preview is on. -/
  | film (identity : Identity) (frames : List (Png × Nat)) (cursor : Nat)

namespace Picture

variable {Png : Type}

def identity : Picture Png → Option Identity
  | none => .none
  | still identity _ => some identity
  | film identity .. => some identity

/-- Whether this picture is already the one the identity describes. -/
def is (identity : Identity) (picture : Picture Png) : Bool := picture.identity.any fun held => held.Same identity

/-- The bytes the preview draws, if any. -/
def png : Picture Png → Option Png
  | none => .none
  | still _ png => some png
  | film _ frames cursor => frames[cursor]?.map Prod.fst

/-- Shows the next frame, and says whether an animation is playing. -/
def advance : Picture Png → Bool × Picture Png
  | film identity frames cursor =>
    if 1 < frames.length then (true, film identity frames ((cursor + 1) % frames.length))
    else (false, film identity frames cursor)
  | picture => (false, picture)

/-- The picture as it was compiled. -/
def rewound : Picture Png → Picture Png
  | film identity frames _ => film identity frames 0
  | picture => picture

/-- The frames of a picture, each with the delay it stays: one without a delay for a rendered frame. -/
def frames : Picture Png → List (Png × Option Nat)
  | none => []
  | still _ png => [(png, .none)]
  | film _ frames _ => frames.map fun frame => (frame.1, some frame.2)

end Picture

variable {Image Png : Type}

/-- What compiling a picture takes: the files and what draws, and the encoder of a finished frame. -/
structure Compiler (Image Png : Type) where
  codec : PictureCodec Image
  draws : Artist Image
  toPng : Framebuffer → Except DisplayError Png

def Compiler.artist (compiler : Compiler Image Png) : Artist Image := compiler.codec.artist compiler.draws

/-- Builds the picture an identity describes. -/
def compile (compiler : Compiler Image Png) (preset : DisplayPreset) (panel : LcdPanel) (identity : Identity) :
    Option (Except DisplayError (Picture Png)) :=
  match identity.source with
  | .readings _ samples => (compiler.artist.render preset samples panel).map fun rendered => do
    return .still identity (← compiler.toPng (← rendered))
  | .image .. => (compiler.artist.renderImageFrames preset panel).map fun rendered => do
    let frames ← (← rendered).mapM fun entry => do return (← compiler.toPng entry.1, entry.2)
    return .film identity frames 0

end Preview

/-- The whole editable state of the LCD screen: what is typed, what can be shown, and the picture of it. -/
structure DisplayScreen (Png : Type) where
  editor : DisplayEditor
  lastValid : DisplayPreset
  picture : Preview.Picture Png
  /-- Why the picture could not be compiled, when it could not be. -/
  pictureError : Option DisplayError
  filmGeneration : UInt64

namespace DisplayScreen

open Preview

variable {Image Png : Type}

/-- A computation that counts the pictures it compiles, and stops where the renderer would. -/
abbrev Compiling := StateT Nat Option

def default : DisplayScreen Png :=
  { editor := .default
    lastValid := match DisplayEditor.default.preset with
      | .ok preset => preset
      | .error _ => .defaultInfographic
    picture := .none, pictureError := none, filmGeneration := 0 }

/-- Changes the editor and derives the preview again. An incomplete entry keeps the last whole preset. -/
def edit (edit : DisplayEditor → DisplayEditor) (screen : DisplayScreen Png) : DisplayScreen Png :=
  { screen with
    editor := edit screen.editor
    lastValid := match (edit screen.editor).preset with
      | .ok preset => preset
      | .error _ => screen.lastValid }

/-- Loads the whole screen from a preset the daemon reported committed. -/
def adopt (preset : HeldPreset) : DisplayScreen Png → DisplayScreen Png := edit fun _ => .fromPreset preset

/-- Shows the next frame of the animation, and says whether one is playing. -/
def advanceFilm (screen : DisplayScreen Png) : Bool × DisplayScreen Png :=
  (screen.picture.advance.1, { screen with picture := screen.picture.advance.2 })

/-- The generation a newly armed animation timer belongs to. -/
def nextFilmGeneration (screen : DisplayScreen Png) : UInt64 × DisplayScreen Png :=
  (screen.filmGeneration + 1, { screen with filmGeneration := screen.filmGeneration + 1 })

/-- Builds the picture the preview needs, unless it is already held, and says whether it was replaced. -/
def syncPicture (compiler : Compiler Image Png) (panel : Option LcdPanel) (telemetry : Option TelemetrySnapshot)
    (screen : DisplayScreen Png) : Compiling (Bool × DisplayScreen Png) := fun compiled =>
  match panel.filter fun panel => 0 < panel.width ∧ 0 < panel.height with
  | none =>
    let cleared := screen.picture.png.isSome || screen.pictureError.isSome
    some ((cleared, { screen with picture := .none, pictureError := none }), compiled)
  | some panel =>
    let wanted := Identity.of screen.lastValid panel telemetry
    if screen.picture.is wanted then some ((false, screen), compiled)
    else (compile compiler screen.lastValid panel wanted).map fun result => match result with
      | .ok picture => ((true, { screen with picture, pictureError := none }), compiled + 1)
      -- A file that fails to decode leaves an empty preview.
      | .error error => ((true, { screen with picture := .none, pictureError := some error }), compiled + 1)

/-- What is done with the screen. -/
inductive Act where
  | edit (edit : DisplayEditor → DisplayEditor)
  | advanceFilm
  | nextFilmGeneration
  | syncPicture (panel : Option LcdPanel) (telemetry : Option TelemetrySnapshot)

def perform (compiler : Compiler Image Png) (screen : DisplayScreen Png) : Act → Compiling (DisplayScreen Png)
  | .edit edit => fun compiled => some (screen.edit edit, compiled)
  | .advanceFilm => fun compiled => some (screen.advanceFilm.2, compiled)
  | .nextFilmGeneration => fun compiled => some (screen.nextFilmGeneration.2, compiled)
  | .syncPicture panel telemetry => fun compiled =>
    (screen.syncPicture compiler panel telemetry compiled).map fun synced => (synced.1.2, synced.2)

def run (compiler : Compiler Image Png) : List Act → DisplayScreen Png → Compiling (DisplayScreen Png)
  | [], screen => fun compiled => some (screen, compiled)
  | act :: rest, screen => fun compiled =>
    (screen.perform compiler act compiled).bind fun performed => run compiler rest performed.1 performed.2

end DisplayScreen

end Kori
