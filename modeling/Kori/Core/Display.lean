import Kori.Core.Lighting
import Kori.Core.Telemetry
import Kori.Faulty.Paths

/-! # What the panel is asked to show -/

namespace Kori

/-- Longest path a preset may carry. -/
def MAX_IMAGE_PATH_BYTES : Nat := 4096
/-- Shortest a frame may stay on the glass, in milliseconds. -/
def MIN_FRAME_DELAY_MS : Nat := 80
/-- What a frame declaring no delay at all is given, in milliseconds. -/
def DEFAULT_FRAME_DELAY_MS : Nat := 100

/-- What kind of picture the panel shows. -/
inductive DisplayMode where
  | dualInfographic
  | singleReading
  | solid
  | image
deriving DecidableEq, Repr

namespace DisplayMode

def key : DisplayMode → String
  | dualInfographic => "dual_infographic"
  | singleReading => "single_reading"
  | solid => "solid"
  | image => "image"

def label : DisplayMode → String
  | dualInfographic => "Dual infographic"
  | singleReading => "Single reading"
  | solid => "Solid color"
  | image => "Image or GIF"

/-- How many of the two reading slots this mode draws. -/
def readingSlots : DisplayMode → Nat
  | dualInfographic => 2
  | singleReading => 1
  | solid => 0
  | image => 0

def usesReadings (mode : DisplayMode) : Bool := 0 < mode.readingSlots

def usesImage (mode : DisplayMode) : Bool := mode = image

end DisplayMode

/-- A telemetry value a reading slot can be pointed at. -/
inductive LcdMetric where
  | cpuTemperature
  | gpuTemperature
  | liquidTemperature
  | cpuLoad
  | gpuLoad
deriving DecidableEq, Repr

/-- One metric as the panel is about to draw it. -/
structure MetricSample where
  metric : LcdMetric
  value : Option ℚ
deriving DecidableEq

/-- A sample nothing could be read for. -/
def MetricSample.unavailable (metric : LcdMetric) : MetricSample := { metric, value := none }

/-- Reads a metric out of a snapshot; a value that is not a number is no value. -/
def LcdMetric.sample (metric : LcdMetric) (telemetry : TelemetrySnapshot) : MetricSample :=
  let reading := match metric with
    | cpuTemperature => telemetry.system.cpuTemperatureC
    | gpuTemperature => telemetry.gpu.temperatureC
    | liquidTemperature => telemetry.kraken.liquidTemperatureC
    | cpuLoad => telemetry.system.cpuLoadPercent
    | gpuLoad => telemetry.gpu.loadPercent
  { metric, value := match reading.copied with
      | some (.finite q) => some q
      | _ => none }

inductive Orientation where
  | deg0
  | deg90
  | deg180
  | deg270
deriving DecidableEq, Repr

/-- One metric slot: what it shows and in which colors. -/
structure ReadingSlot where
  metric : LcdMetric
  reading : Rgb
  readingEnd : Option Rgb
  text : Rgb
deriving DecidableEq, Repr

/-- The color the band ends on, which is where it starts when it is solid. -/
def ReadingSlot.bandEnd (slot : ReadingSlot) : Rgb := slot.readingEnd.getD slot.reading

/-- Everything the panel needs, with no pixel and no protocol byte in it. -/
structure DisplayPreset where
  mode : DisplayMode
  readings : ReadingSlot × ReadingSlot
  background : Rgb
  /-- Accepted, never drawn, never written back. -/
  logo : Option Rgb
  orientation : Orientation
  brightness : Brightness
  image : Option String
deriving DecidableEq, Repr

/-- Every way a preset or a frame can be refused. -/
inductive DisplayError where
  | color (field : String) (source : LightingError)
  | imagePathMissing
  | imagePathTooLong (bytes maxBytes : Nat)
  | imageUndecodable (path detail : String)
  | imageTooLarge (width height max : Nat)
  | imageTooManyPixels (pixels max : Nat)
  | animationTooLong (max : Nat)
  | panelUnknown
deriving DecidableEq, Repr

def DisplayError.display : DisplayError → String
  | color field source => s!"{field}: {source.display}"
  | imagePathMissing => "Image mode needs a file to display."
  | imagePathTooLong bytes maxBytes =>
    s!"Image path is {bytes} bytes, above the {maxBytes} byte limit."
  | imageUndecodable path detail => s!"{path} could not be decoded as an image: {detail}"
  | imageTooLarge width height max => s!"Image is {width}x{height}, above the {max}x{max} limit."
  | imageTooManyPixels pixels max =>
    s!"Image carries {pixels} pixels, above the {max} this product decodes."
  | animationTooLong max =>
    s!"The animation has more than {max} frames, which is more than this panel holds."
  | panelUnknown => "The panel geometry is not known, so no frame can be laid out."

namespace DisplayPreset

/-- `PartialEq` of a preset: its path is compared by components. -/
def Same (preset other : DisplayPreset) : Prop :=
  preset.image.map Faulty.components = other.image.map Faulty.components ∧
    { preset with image := none } = { other with image := none }

instance (preset other : DisplayPreset) : Decidable (preset.Same other) := inferInstanceAs (Decidable (_ ∧ _))

/-- The preset a panel starts on: the dual infographic. -/
def defaultInfographic : DisplayPreset where
  mode := .dualInfographic
  readings :=
    ({ metric := .cpuTemperature, reading := ⟨0x6B, 0x00, 0xDE⟩, readingEnd := some ⟨0xD6, 0x00, 0xBF⟩
       text := ⟨0xFF, 0xFF, 0xFF⟩ },
     { metric := .gpuTemperature, reading := ⟨0xD6, 0x00, 0xBF⟩, readingEnd := some ⟨0x6B, 0x00, 0xDE⟩
       text := ⟨0xFF, 0xFF, 0xFF⟩ })
  background := .BLACK
  logo := none
  orientation := .deg0
  brightness := .FULL
  image := none

/-- Refuses a preset the renderer could not honor. -/
def validate (preset : DisplayPreset) : Except DisplayError Unit :=
  if ¬ preset.mode.usesImage then .ok ()
  else match preset.image.filter (· ≠ "") with
    | none => .error .imagePathMissing
    | some path =>
      if path.utf8ByteSize > MAX_IMAGE_PATH_BYTES then
        .error (.imagePathTooLong path.utf8ByteSize MAX_IMAGE_PATH_BYTES)
      else .ok ()

/-- Both reading slots resolved against one telemetry pass. -/
def samples (preset : DisplayPreset) (telemetry : TelemetrySnapshot) : MetricSample × MetricSample :=
  (preset.readings.1.metric.sample telemetry, preset.readings.2.metric.sample telemetry)

end DisplayPreset

end Kori
