import Kori.Core.Display
import Kori.Faulty.Grid

/-! # The finished picture, at exactly the panel's own size -/

open Faulty

namespace Kori

namespace Orientation

def INCREMENT_DEGREES : UInt16 := 90

def degrees : Orientation → UInt16
  | deg0 => 0
  | deg90 => 90
  | deg180 => 180
  | deg270 => 270

def quarterTurns (orientation : Orientation) : UInt8 := (orientation.degrees / INCREMENT_DEGREES).toUInt8

end Orientation

/-! ## The canvas -/

/-- A straight buffer of colors, row after row. -/
structure Canvas where
  width : Nat
  height : Nat
  pixels : List Rgb
  full : pixels.length = width * height
deriving DecidableEq

/-- One coverage of one pixel: whether there is any, and the color it is mixed to. -/
structure Mark where
  x : Int
  y : Int
  covers : Bool
  mixed : Rgb → Rgb

namespace Canvas

def filled (width height : Nat) (background : Rgb) : Canvas where
  width
  height
  pixels := List.replicate (width * height) background
  full := List.length_replicate

/-- Mixes a color into one pixel. What lies outside is left out. -/
def blend (canvas : Canvas) (mark : Mark) : Canvas :=
  if ¬ mark.covers ∨ mark.x < 0 ∨ mark.y < 0 ∨ canvas.width ≤ mark.x ∨ canvas.height ≤ mark.y then canvas
  else
    let index := mark.y.toNat * canvas.width + mark.x.toNat
    { canvas with pixels := canvas.pixels.modify index mark.mixed
                  full := (List.length_modify ..).trans canvas.full }

/-- A drawing is nothing but marks. -/
def drawn (canvas : Canvas) (marks : List Mark) : Canvas := marks.foldl blend canvas

@[simp] theorem blend_size (canvas : Canvas) (mark : Mark) :
    (canvas.blend mark).width = canvas.width ∧ (canvas.blend mark).height = canvas.height := by
  unfold blend
  split <;> exact ⟨rfl, rfl⟩

theorem drawn_size (canvas : Canvas) (marks : List Mark) :
    (canvas.drawn marks).width = canvas.width ∧ (canvas.drawn marks).height = canvas.height := by
  induction marks generalizing canvas with
  | nil => exact ⟨rfl, rfl⟩
  | cons mark marks ih =>
    obtain ⟨hwidth, hheight⟩ := canvas.blend_size mark
    obtain ⟨hwidth', hheight'⟩ := ih (canvas.blend mark)
    exact ⟨hwidth'.trans hwidth, hheight'.trans hheight⟩

/-- What the canvas shows. -/
def picture (canvas : Canvas) : Picture Rgb := pictureOf canvas.width canvas.height canvas.pixels canvas.full

end Canvas

/-! ## Turning -/

/-- A rendered picture, at exactly the panel's own size. -/
structure Framebuffer where
  width : Nat
  height : Nat
  pixels : List Rgb
  full : pixels.length = width * height
deriving DecidableEq

/-! Arithmetic in 32 bits, which stops where it would wrap. -/

def subU32 (a b : Nat) : Option Nat := if b ≤ a then some (a - b) else none
def addU32 (a b : Nat) : Option Nat := if a + b < UInt32.size then some (a + b) else none
def mulU32 (a b : Nat) : Option Nat := if a * b < UInt32.size then some (a * b) else none

/-- The place of the upright picture that one of the turned picture shows. -/
def sourcePlace (quarter : UInt8) (width height : Nat) (place : Nat × Nat) : Option (Nat × Nat) := do
  let (x, y) := place
  if quarter = 1 then
    return (y, ← subU32 (← subU32 height 1) x)
  else if quarter = 2 then
    return (← subU32 (← subU32 width 1) x, ← subU32 (← subU32 height 1) y)
  else
    return (← subU32 (← subU32 width 1) y, x)

/-- Where that place is in the buffer. -/
def sourceIndex (quarter : UInt8) (width height : Nat) (place : Nat × Nat) : Option Nat := do
  let (sourceX, sourceY) ← sourcePlace quarter width height place
  addU32 (← mulU32 sourceY width) sourceX

/-- The pixels of the turned picture, row after row. An index out of range stops it, as an overflow does. -/
def turnedPixels (source : List Rgb) (quarter : UInt8) (width height turnedWidth turnedHeight : Nat) :
    Option (List Rgb) :=
  (rows turnedWidth turnedHeight).mapM fun place => do source[← sourceIndex quarter width height place]?

/-- The size of a picture once it is turned. -/
def turnedSize (quarter : UInt8) (width height : Nat) : Nat × Nat :=
  if quarter % 2 = 1 then (height, width) else (width, height)

theorem length_of_mapM {α β : Type} {f : α → Option β} {xs : List α} {ys : List β} (h : xs.mapM f = some ys) :
    ys.length = xs.length := by
  induction xs generalizing ys with
  | nil =>
    cases h
    rfl
  | cons x xs ih =>
    rw [List.mapM_cons] at h
    obtain ⟨y, -, hrest⟩ := Option.bind_eq_some_iff.mp h
    obtain ⟨rest, hmap, hys⟩ := Option.bind_eq_some_iff.mp hrest
    cases hys
    rw [List.length_cons, List.length_cons, ih hmap]

/-- One color in five bits of red, six of green and five of blue, most significant byte first. -/
def Rgb.toRgb565Be (pixel : Rgb) : List UInt8 :=
  let red := (pixel.r >>> 3).toUInt16
  let green := (pixel.g >>> 2).toUInt16
  let blue := (pixel.b >>> 3).toUInt16
  let packed := (red <<< 11) ||| (green <<< 5) ||| blue
  [(packed >>> 8).toUInt8, packed.toUInt8]

/-- The color with the bits the panel has no room for dropped. -/
def Rgb.quantized (pixel : Rgb) : Rgb :=
  { r := (pixel.r >>> 3) <<< 3, g := (pixel.g >>> 2) <<< 2, b := (pixel.b >>> 3) <<< 3 }

namespace Framebuffer

/-- Turns a finished canvas and takes its buffer. This is the single place a quarter turn is applied. -/
def fromCanvas (canvas : Canvas) (orientation : Orientation) : Option Framebuffer :=
  let quarter := orientation.quarterTurns
  if quarter = 0 then some { canvas with }
  else
    let size := turnedSize quarter canvas.width canvas.height
    match h : turnedPixels canvas.pixels quarter canvas.width canvas.height size.1 size.2 with
    | none => none
    | some pixels =>
      some { width := size.1, height := size.2, pixels, full := (length_of_mapM h).trans (length_rows ..) }

/-- The bytes the panel takes. -/
def toRgb565Be (frame : Framebuffer) : List UInt8 := frame.pixels.flatMap Rgb.toRgb565Be

/-- The same colors the panel will show, so the preview does not lie. -/
def quantized (frame : Framebuffer) : List Rgb := frame.pixels.map Rgb.quantized

end Framebuffer

/-! ## Rendering -/

/-- The size the content is laid out at, before the quarter turn. -/
def layoutSize (panel : LcdPanel) (orientation : Orientation) : Except DisplayError (Nat × Nat) :=
  if panel.width = 0 ∨ panel.height = 0 then .error .panelUnknown
  else if orientation.quarterTurns % 2 = 1 then .ok (panel.height.toNat, panel.width.toNat)
  else .ok (panel.width.toNat, panel.height.toNat)

/-- What draws: every drawing on a canvas of some size comes to marks, and a file to decoded images. -/
structure Artist (Image : Type) where
  still : DisplayPreset → Except DisplayError Image
  /-- Every image of a file, each with the delay it stays. -/
  frames : DisplayPreset → Except DisplayError (List (Image × Nat))
  draw : Image → Nat × Nat → List Mark
  infographic : DisplayPreset → MetricSample × MetricSample → Nat × Nat → List Mark
  single : DisplayPreset → MetricSample → Nat × Nat → List Mark

namespace Artist

variable {Image : Type} (artist : Artist Image)

/-- The marks of a preset on a canvas of some size. -/
def marks (preset : DisplayPreset) (samples : MetricSample × MetricSample) (size : Nat × Nat) :
    Except DisplayError (List Mark) :=
  match preset.mode with
  | .solid => .ok []
  | .image => (artist.still preset).map fun image => artist.draw image size
  | .dualInfographic => .ok (artist.infographic preset samples size)
  | .singleReading => .ok (artist.single preset samples.1 size)

/-- Renders a preset at the panel's exact geometry. -/
def render (preset : DisplayPreset) (samples : MetricSample × MetricSample) (panel : LcdPanel) :
    Option (Except DisplayError Framebuffer) :=
  match (do
    preset.validate
    let size ← layoutSize panel preset.orientation
    return (Canvas.filled size.1 size.2 preset.background).drawn (← artist.marks preset samples size)) with
  | .error error => some (.error error)
  | .ok canvas => (Framebuffer.fromCanvas canvas preset.orientation).map .ok

/-- Compiles the file of an image preset into the frames the panel will play. -/
def renderImageFrames (preset : DisplayPreset) (panel : LcdPanel) :
    Option (Except DisplayError (List (Framebuffer × Nat))) :=
  match (do
    preset.validate
    let size ← layoutSize panel preset.orientation
    let images ← artist.frames preset
    return (size, images)) with
  | .error error => some (.error error)
  | .ok (size, images) => (images.mapM fun (entry : Image × Nat) =>
      let canvas := (Canvas.filled size.1 size.2 preset.background).drawn (artist.draw entry.1 size)
      (Framebuffer.fromCanvas canvas preset.orientation).map fun frame => (frame, entry.2)).map .ok

end Artist

end Kori
