import Kori.Core.Display

/-! # The pending state of the LCD screen -/

namespace Kori

/-! ## A path, and the text it is shown as -/

namespace Text

/-- Whether a character of three or four bytes may go on with this byte after its first. -/
def secondFits (first second : UInt8) : Bool :=
  if first = 0xE0 then 0xA0 ≤ second ∧ second ≤ 0xBF
  else if first = 0xED then 0x80 ≤ second ∧ second ≤ 0x9F
  else if first = 0xF0 then 0x90 ≤ second ∧ second ≤ 0xBF
  else if first = 0xF4 then 0x80 ≤ second ∧ second ≤ 0x8F
  else 0xE1 ≤ first ∧ first ≤ 0xF3 ∧ 0x80 ≤ second ∧ second ≤ 0xBF

/-- How much of bytes that start with no character one replacement stands for. -/
def illFormedLength (bytes : List UInt8) : Nat :=
  let first := bytes.getD 0 0
  let third := bytes.getD 2 0
  if ¬ secondFits first (bytes.getD 1 0) then 1
  else if first < 0xF0 ∨ third < 0x80 ∨ 0xBF < third then 2
  else 3

theorem length_drop_lt {α : Type} (first : α) (rest : List α) (n : Nat) :
    (rest.drop n).length < (first :: rest).length := by
  rw [List.length_drop, List.length_cons]
  omega

/-- The characters of some bytes, a replacement for each ill-formed part. -/
def replaced : List UInt8 → List Char
  | [] => []
  | first :: rest =>
    match (ByteArray.mk (first :: rest).toArray).utf8DecodeChar? 0 with
    | some c => c :: replaced (rest.drop (c.utf8Size - 1))
    | none => '\uFFFD' :: replaced (rest.drop (illFormedLength (first :: rest) - 1))
termination_by bytes => bytes.length
decreasing_by all_goals exact length_drop_lt first rest _

/-- `Path::display`. -/
def displayed (path : ByteArray) : String :=
  match String.fromUTF8? path with
  | some text => text
  | none => String.ofList (replaced path.toList)

end Text

/-! ## A preset as the process holds it -/

/-- A preset whose path is the bytes of a `PathBuf`. -/
structure HeldPreset where
  mode : DisplayMode
  readings : ReadingSlot × ReadingSlot
  background : Rgb
  logo : Option Rgb
  orientation : Orientation
  brightness : Brightness
  image : Option ByteArray

/-- A preset with a path that is text. -/
def DisplayPreset.held (preset : DisplayPreset) : HeldPreset :=
  { preset with image := preset.image.map String.toUTF8 }

/-- Refuses a preset the renderer could not honor. -/
def HeldPreset.validate (preset : HeldPreset) : Except DisplayError Unit :=
  if ¬ preset.mode.usesImage then .ok ()
  else match preset.image.filter (·.size ≠ 0) with
    | none => .error .imagePathMissing
    | some path =>
      if path.size > MAX_IMAGE_PATH_BYTES then .error (.imagePathTooLong path.size MAX_IMAGE_PATH_BYTES) else .ok ()

/-! ## The editor -/

/-- One of the colors the editor exposes. -/
inductive DisplayColorField where
  | readingOne
  | readingTwo
  | fadeOne
  | fadeTwo
  | textOne
  | textTwo
  | background
deriving DecidableEq, Repr

namespace DisplayColorField

def label : DisplayColorField → String
  | readingOne => "Band 1"
  | readingTwo => "Band 2"
  | fadeOne => "Fade 1"
  | fadeTwo => "Fade 2"
  | textOne => "Text 1"
  | textTwo => "Text 2"
  | background => "Background"

def index : DisplayColorField → Fin 7
  | readingOne => 0
  | readingTwo => 1
  | fadeOne => 2
  | fadeTwo => 3
  | textOne => 4
  | textTwo => 5
  | background => 6

end DisplayColorField

/-- The pending state of the whole screen. Each color is six digits as typed. -/
structure DisplayEditor where
  mode : DisplayMode
  metrics : LcdMetric × LcdMetric
  colors : Vector String 7
  orientation : Orientation
  brightness : UInt8
  imagePath : String
deriving DecidableEq

namespace DisplayEditor

/-- The digits currently in one field. -/
def colorText (field : DisplayColorField) (editor : DisplayEditor) : String := editor.colors.get field.index

/-- The color one field holds, or why it cannot be used. -/
def parsedColor (field : DisplayColorField) (editor : DisplayEditor) : Except DisplayError Rgb :=
  (Rgb.parseHex (editor.colorText field)).mapError (.color field.label)

/-- The path the image mode would send. -/
def image (editor : DisplayEditor) : Option String :=
  if ¬ editor.mode.usesImage then none
  else (some (String.ofList (Text.trim editor.imagePath.toList))).filter (· ≠ "")

/-- The preset this row would send, or the first reason it cannot be built. Every color is parsed,
including the ones the mode does not draw. -/
def preset (editor : DisplayEditor) : Except DisplayError DisplayPreset := do
  let readingOne ← editor.parsedColor .readingOne
  let fadeOne ← editor.parsedColor .fadeOne
  let textOne ← editor.parsedColor .textOne
  let readingTwo ← editor.parsedColor .readingTwo
  let fadeTwo ← editor.parsedColor .fadeTwo
  let textTwo ← editor.parsedColor .textTwo
  let background ← editor.parsedColor .background
  let brightness ← (Brightness.new editor.brightness).mapError (.color "Brightness")
  let preset : DisplayPreset :=
    { mode := editor.mode
      readings := ({ metric := editor.metrics.1, reading := readingOne, readingEnd := some fadeOne, text := textOne },
        { metric := editor.metrics.2, reading := readingTwo, readingEnd := some fadeTwo, text := textTwo })
      background, logo := none, orientation := editor.orientation, brightness, image := editor.image }
  preset.validate
  return preset

/-- Loads an editor from a preset the daemon reported. -/
def fromPreset (preset : HeldPreset) : DisplayEditor :=
  { mode := preset.mode
    metrics := (preset.readings.1.metric, preset.readings.2.metric)
    colors := #v[preset.readings.1.reading.toHex, preset.readings.2.reading.toHex, preset.readings.1.bandEnd.toHex,
      preset.readings.2.bandEnd.toHex, preset.readings.1.text.toHex, preset.readings.2.text.toHex,
      preset.background.toHex]
    orientation := preset.orientation
    brightness := preset.brightness.percent
    imagePath := (preset.image.map Text.displayed).getD "" }

/-- The editor the screen opens on. -/
def default : DisplayEditor := fromPreset DisplayPreset.defaultInfographic.held

end DisplayEditor

end Kori
