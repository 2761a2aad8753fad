import Kori.Renderer.Frame
import Kori.Daemon.Display
import Kori.Faulty.Turns

/-! # The file an operator picked, turned into images -/

open Faulty (ok_of_bind)

namespace Kori

def MAX_IMAGE_DIMENSION : Nat := 8192
/-- Most pixels this product will decode out of one picture. -/
def MAX_IMAGE_PIXELS : Nat := 33554432
/-- Most frames an animation may carry. -/
def MAX_ANIMATION_FRAMES : Nat := 120

/-- An open file: whether its bytes are a GIF, and what its decoders say of it. A decoder that could be
built has read the declared size, and answers with the picture, or with one frame after the other. -/
structure Reader (Image : Type) where
  gif : Bool
  still : Except String ((Nat × Nat) × Except String Image)
  animation : Except String ((Nat × Nat) × List (Except String (Image × Nat)))

/-- The files, as the decoders find them at each path. -/
structure PictureCodec (Image : Type) where
  openFile : String → Except String (Reader Image)

namespace PictureCodec

variable {Image : Type}

/-- The file this preset names, or the refusal that it names none. -/
def path (preset : DisplayPreset) : Except DisplayError String :=
  match preset.image.filter fun _ => preset.mode.usesImage with
  | some path => .ok path
  | none => .error .imagePathMissing

/-- Refuses what the header declares, before a single pixel is decoded. -/
def refuseUnusableSize (size : Nat × Nat) (path : String) : Except DisplayError Unit :=
  if MAX_IMAGE_DIMENSION < size.1 ∨ MAX_IMAGE_DIMENSION < size.2 then
    .error (.imageTooLarge size.1 size.2 MAX_IMAGE_DIMENSION)
  else if MAX_IMAGE_PIXELS < size.1 * size.2 then .error (.imageTooManyPixels (size.1 * size.2) MAX_IMAGE_PIXELS)
  else if size.1 = 0 ∨ size.2 = 0 then .error (.imageUndecodable path "the image has no pixels")
  else .ok ()

def decodeStill (reader : Reader Image) (path : String) : Except DisplayError Image := do
  let (size, picture) ← reader.still.mapError (.imageUndecodable path)
  refuseUnusableSize size path
  picture.mapError (.imageUndecodable path)

/-- The frames still to decode, after those that were. -/
def collect (path : String) : List (Except String (Image × Nat)) → List (Image × Nat) →
    Except DisplayError (List (Image × Nat))
  | [], composed =>
    if composed.isEmpty then .error (.imageUndecodable path "the file carries no frames") else .ok composed
  | frame :: rest, composed =>
    -- Refused rather than truncated.
    if composed.length = MAX_ANIMATION_FRAMES then .error (.animationTooLong MAX_ANIMATION_FRAMES)
    else match frame with
      | .error detail => .error (.imageUndecodable path detail)
      | .ok (image, delay) => collect path rest (composed ++ [(image, clampDelay delay)])

variable (codec : PictureCodec Image)

/-- The one picture a still preset draws. -/
def still (preset : DisplayPreset) : Except DisplayError Image := do
  let path ← path preset
  let reader ← (codec.openFile path).mapError (.imageUndecodable path)
  decodeStill reader path

/-- Every picture the file carries. -/
def frames (preset : DisplayPreset) : Except DisplayError (List (Image × Nat)) := do
  let path ← path preset
  let reader ← (codec.openFile path).mapError (.imageUndecodable path)
  if ¬ reader.gif then return [(← decodeStill reader path, milliseconds DEFAULT_FRAME_DELAY_MS)]
  else
    let (size, decoded) ← reader.animation.mapError (.imageUndecodable path)
    refuseUnusableSize size path
    collect path decoded []

/-- An artist that decodes the files a preset names. -/
def artist (draws : Artist Image) : Artist Image := { draws with still := codec.still, frames := codec.frames }

/-! ## Decoding a file under another spelling of its path -/

variable {codec} {preset other : DisplayPreset} {reader : Reader Image} {image : Image}

theorem refuseUnusableSize_ok {size : Nat × Nat} {path : String} (h : refuseUnusableSize size path = .ok ())
    (spelled : String) : refuseUnusableSize size spelled = .ok () := by
  unfold refuseUnusableSize at h ⊢
  split at h
  · cases h
  · rename_i hdimension
    rw [if_neg hdimension]
    split at h
    · cases h
    · rename_i hpixels
      rw [if_neg hpixels]
      split at h
      · cases h
      · rename_i hempty
        rw [if_neg hempty]

theorem decodeStill_ok {path : String} (h : decodeStill reader path = .ok image) (spelled : String) :
    decodeStill reader spelled = .ok image := by
  unfold decodeStill at h ⊢
  cases hstill : reader.still with
  | error detail =>
    rw [hstill] at h
    cases h
  | ok found =>
    obtain ⟨size, decoded⟩ := found
    rw [hstill] at h
    simp only [Except.mapError, bind, Except.bind] at h ⊢
    obtain ⟨⟨⟩, hsize, hpicture⟩ := ok_of_bind h
    rw [refuseUnusableSize_ok hsize spelled]
    cases decoded with
    | error detail => cases hpicture
    | ok picture => exact hpicture

theorem collect_ok {path : String} {decoded : List (Except String (Image × Nat))} {composed images : List (Image × Nat)}
    (h : collect path decoded composed = .ok images) (spelled : String) :
    collect spelled decoded composed = .ok images := by
  induction decoded generalizing composed with
  | nil =>
    unfold collect at h ⊢
    split at h
    · cases h
    · rename_i hsome
      rw [if_neg hsome]
      exact h
  | cons frame rest ih =>
    unfold collect at h ⊢
    split at h
    · cases h
    · rename_i hroom
      rw [if_neg hroom]
      cases frame with
      | error detail => cases h
      | ok entry => exact ih h

theorem frames_respelled {held path : String} {images : List (Image × Nat)} (hheld : PictureCodec.path preset = .ok held)
    (hpath : PictureCodec.path other = .ok path) (hopens : codec.openFile held = codec.openFile path)
    (h : codec.frames preset = .ok images) : codec.frames other = .ok images := by
  unfold frames at h ⊢
  rw [hheld] at h
  rw [hpath]
  simp only [bind, Except.bind] at h ⊢
  rw [hopens] at h
  cases hreader : codec.openFile path with
  | error detail =>
    rw [hreader] at h
    cases h
  | ok reader =>
    rw [hreader] at h
    simp only [Except.mapError] at h ⊢
    split at h
    · rename_i hgif
      rw [if_pos hgif]
      obtain ⟨image, himage, h⟩ := ok_of_bind h
      rw [decodeStill_ok himage path]
      exact h
    · rename_i hgif
      rw [if_neg hgif]
      cases hanimation : reader.animation with
      | error detail =>
        rw [hanimation] at h
        cases h
      | ok animation =>
        rw [hanimation] at h
        obtain ⟨⟨⟩, hsize, h⟩ := ok_of_bind h
        dsimp only
        rw [refuseUnusableSize_ok hsize path]
        exact collect_ok h path

end PictureCodec

end Kori
