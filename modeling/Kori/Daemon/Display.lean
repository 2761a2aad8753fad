import Kori.Core.Ipc
import Kori.Daemon.Cooling
import Kori.Hardware.Lcd

/-! # The only caller that sends a frame to the panel -/

open Faulty

namespace Kori

/-! ## Pictures -/

/-- What a frame's declared delay becomes: a zero is unspecified, the rest is raised to the floor. -/
def clampDelay (delay : Nat) : Nat :=
  if delay = 0 then milliseconds DEFAULT_FRAME_DELAY_MS
  else max delay (milliseconds MIN_FRAME_DELAY_MS)

/-- One picture of an animation, and how long it stays. -/
structure AnimationFrame where
  bytes : Frame
  delay : Nat
  minimum : milliseconds MIN_FRAME_DELAY_MS ≤ delay
deriving DecidableEq

/-- What the renderer makes of a preset at one moment, the files it names as they are then. -/
structure Renderer where
  render : DisplayPreset → MetricSample × MetricSample → LcdPanel → Except DisplayError Frame
  renderImageFrames : DisplayPreset → LcdPanel → Except DisplayError (List AnimationFrame)

/-- A compiled animation and where the panel is in it. -/
structure Animation where
  frames : List AnimationFrame
  cursor : Fin frames.length
  /-- When the frame after the current one is due. -/
  due : Instant

namespace Animation

def current (animation : Animation) : AnimationFrame := animation.frames.get animation.cursor

/-- One frame on, the last followed by the first. -/
def next (animation : Animation) : Animation :=
  let cursor : Fin animation.frames.length :=
    ⟨(animation.cursor.val + 1) % animation.frames.length,
      Nat.mod_lt _ (Nat.zero_lt_of_lt animation.cursor.isLt)⟩
  { animation with cursor, due := animation.due + (animation.frames.get cursor).delay }

theorem due_lt_next (animation : Animation) : animation.due < animation.next.due := by
  have h := (animation.frames.get animation.next.cursor).minimum
  have hpos : 0 < milliseconds MIN_FRAME_DELAY_MS := by decide
  have hdue : animation.next.due =
      animation.due + (animation.frames.get animation.next.cursor).delay := rfl
  rw [hdue]
  exact Nat.lt_add_of_pos_right (Nat.lt_of_lt_of_le hpos h)

/-- Walks the wall clock to the frame that is due, counting the ones it skips in 32 bits. -/
def catchUp (now : Instant) (animation : Animation) (skipped : Nat) : Animation × Nat :=
  if now < animation.next.due then (animation.next, skipped)
  else catchUp now animation.next ((skipped + 1) % UInt32.size)
termination_by now - animation.due
decreasing_by
  rename_i hlate
  have hlt := animation.due_lt_next
  exact Nat.sub_lt_sub_left (Nat.lt_of_lt_of_le hlt (Nat.le_of_not_lt hlate)) hlt

end Animation

/-! ## The executor -/

/-- What the panel is showing, and the frame that put it there. -/
structure Committed where
  preset : DisplayPreset
  frame : Frame
deriving DecidableEq

structure DisplayExecutor where
  /-- Whether a link to the panel is held. -/
  link : Bool
  /-- Geometry a frame must match. -/
  panel : Option LcdPanel
  /-- What the operator asked for. Survives a failed transfer. -/
  active : Option DisplayPreset
  committed : Option Committed
  /-- Brightness the panel was last told to use. -/
  brightness : Option Brightness
  /-- Why streaming stopped, once a transfer failed. -/
  faulted : Option String
  /-- Frames discarded because a newer sample replaced them. -/
  dropped : Nat
  animation : Option Animation

namespace DisplayExecutor

/-- An executor with no panel behind it. -/
def absent : DisplayExecutor :=
  { link := false, panel := none, active := none, committed := none, brightness := none,
    faulted := none, dropped := 0, animation := none }

/-- An executor bound to a panel that answered its display report. -/
def connected (panel : LcdPanel) : DisplayExecutor := { absent with link := true, panel := some panel }

variable (self : DisplayExecutor)

def isConnected : Bool := self.link && self.panel.isSome

/-- Whether a tick would currently produce anything. -/
def isStreaming : Bool :=
  if ¬ self.isConnected ∨ self.faulted.isSome then false
  else self.animation.isSome || self.active.any fun preset => preset.mode.usesReadings

/-- The panel's state for the status. -/
def state : DisplayState :=
  { panel := self.panel, committed := self.committed.map Committed.preset,
    streaming := self.isStreaming, faulted := self.faulted, droppedFrames := self.dropped }

/-- Counts one sample that arrived too late to become a frame, up to the largest count there is. -/
def dropFrame : DisplayExecutor := { self with dropped := min (self.dropped + 1) (UInt64.size - 1) }

def dropFrames (self : DisplayExecutor) : Nat → DisplayExecutor
  | 0 => self
  | n + 1 => self.dropFrame.dropFrames n

/-- Forgets what the panel is showing, after the device went away. -/
def forget : DisplayExecutor := { self with committed := none, brightness := none, faulted := none }

/-- The outcome of a command there is no panel for. -/
def absentOutcome (preset : DisplayPreset) : DisplayOutcome :=
  { preset, hardware := .notApplied "No panel answered on this device.", frames := 0,
    deduplicated := false, brightnessSent := false }

/-- A transfer that may or may not have landed: the record of the picture is dropped. -/
def uncertain (preset : DisplayPreset) (error : LcdError) (brightnessSent : Bool) :
    DisplayOutcome × DisplayExecutor :=
  ({ preset, hardware := .uncertain error.display, frames := 0, deduplicated := false, brightnessSent },
    { self with committed := none })

/-- The comparison against what the panel holds, and the transfer. -/
def sendPicture (preset : DisplayPreset) (frame : Frame) (brightnessSent : Bool) :
    LcdIo (DisplayOutcome × DisplayExecutor) :=
  if self.committed.any fun entry => entry.frame = frame then
    return ({ preset, hardware := .confirmed, frames := 0, deduplicated := true, brightnessSent }, self)
  else do
    match ← LcdLink.sendFrame frame with
    | .ok () =>
      return ({ preset, hardware := .confirmed, frames := 1, deduplicated := false, brightnessSent },
        { self with committed := some { preset, frame } })
    | .error error => return self.uncertain preset error brightnessSent

/-- Everything a frame goes through once it exists: the brightness first, then the picture. -/
def sendBytes (preset : DisplayPreset) (frame : Frame) : LcdIo (DisplayOutcome × DisplayExecutor) :=
  if ¬ self.link then return (absentOutcome preset, self)
  else if self.brightness ≠ some preset.brightness then do
    match ← LcdLink.setDisplay preset.brightness with
    | .error error => return self.uncertain preset error false
    | .ok () =>
      let self := { self with brightness := some preset.brightness }
      self.sendPicture preset frame true
  else self.sendPicture preset frame false

variable (renderer : Renderer)

def send (preset : DisplayPreset) (samples : MetricSample × MetricSample) :
    LcdIo (Except DisplayError (DisplayOutcome × DisplayExecutor)) :=
  match self.panel with
  | none => return .ok (absentOutcome preset, self)
  | some panel => do
    match renderer.render preset samples panel with
    | .error error => return .error error
    | .ok frame => return .ok (← self.sendBytes preset frame)

/-- Compiles the picture a preset names and puts its first frame on the glass. Only a file with
more than one frame is installed as an animation. -/
def startImage (preset : DisplayPreset) :
    LcdIo (Except DisplayError (DisplayOutcome × DisplayExecutor)) :=
  match self.panel with
  | none => return .ok (absentOutcome preset, self)
  | some panel => do
    match renderer.renderImageFrames preset panel with
    | .error error => return .error error
    | .ok [] => return .ok (absentOutcome preset, self)
    | .ok [first] => return .ok (← self.sendBytes preset first.bytes)
    | .ok (first :: second :: rest) =>
      let (outcome, self) ← self.sendBytes preset first.bytes
      let now ← clock
      let animation : Animation :=
        { frames := first :: second :: rest, cursor := ⟨0, Nat.zero_lt_succ _⟩, due := now + first.delay }
      return .ok (outcome, { self with animation := some animation })

/-- Renders a preset against two samples and sends the result. What was playing is dropped, and a
fault cleared, before the new picture is compiled. -/
def apply (preset : DisplayPreset) (samples : MetricSample × MetricSample) :
    LcdIo (Except DisplayError DisplayOutcome × DisplayExecutor) := do
  let self := { self with faulted := none, animation := none }
  match ← (if preset.mode.usesImage then self.startImage renderer preset
    else self.send renderer preset samples) with
  | .error error => return (.error error, self)
  | .ok (outcome, self) => return (.ok outcome, { self with active := some preset })

/-- Stops the stream after a transfer that could not be confirmed. -/
def stopIfUncertain (outcome : DisplayOutcome) : DisplayExecutor :=
  match outcome.hardware with
  | .uncertain reason => { self with faulted := some reason }
  | _ => self

/-- Puts the next frame of the animation on the glass, if one is due, and says when the frame after
it is. -/
def advanceAnimation (now : Instant) : LcdIo (Option Instant × DisplayExecutor) :=
  if ¬ self.isStreaming then return (none, self)
  else match self.animation with
    | none => return (none, self)
    | some animation =>
      if now < animation.due then return (some animation.due, self)
      else
        let (animation, skipped) := animation.catchUp now 0
        let self := { self with animation := some animation }
        match self.active with
        | none => return (none, self)
        | some preset => do
          let (outcome, self) ← (self.dropFrames skipped).sendBytes preset animation.current.bytes
          if outcome.hardware.isUncertain then return (none, self.stopIfUncertain outcome)
          else return (some animation.due, self)

/-- Redraws the active preset against a fresh sample, once per tick. -/
def refresh (samples : MetricSample × MetricSample) : LcdIo (Option DisplayOutcome × DisplayExecutor) :=
  if ¬ self.isStreaming ∨ self.animation.isSome then return (none, self)
  else match self.active with
    | none => return (none, self)
    | some preset => do
      match ← self.send renderer preset samples with
      | .ok (outcome, self) => return (some outcome, self.stopIfUncertain outcome)
      -- A preset that stopped rendering stops the stream rather than failing every second.
      | .error error => return (none, { self with faulted := some error.display })

end DisplayExecutor

/-! ## A panel on a bench -/

def benchPanel : LcdPanel :=
  { width := 240, height := 240, shape := .square, pixelFormat := "RGB565 big-endian",
    frameBytes := 115200, bulkEndpoint := 2, bulkInterface := 0 }

def benchFrame : AnimationFrame :=
  { bytes := List.replicate FRAME_BYTES 0, delay := milliseconds MIN_FRAME_DELAY_MS, minimum := by decide }

/-- A renderer whose only picture is an animation of two frames, while its file is there. -/
def benchRenderer (there : Bool) : Renderer :=
  { render := fun _ _ _ => .ok (List.replicate FRAME_BYTES 0)
    renderImageFrames := fun _ _ => if there then .ok [benchFrame, benchFrame]
      else .error (.imageUndecodable "/home/kori/cat.gif" "No such file or directory") }

/-- A preset that plays a file. -/
def benchImage : DisplayPreset :=
  let slot : ReadingSlot := { metric := .liquidTemperature, reading := .BLACK, readingEnd := none, text := .BLACK }
  { mode := .image, readings := (slot, slot), background := .BLACK, logo := none, orientation := .deg0,
    brightness := .FULL, image := some "/home/kori/cat.gif" }

/-- A preset that reads two temperatures. -/
def benchReadings (brightness : Brightness) : DisplayPreset :=
  { benchImage with mode := .dualInfographic, image := none, brightness }

def benchSamples : MetricSample × MetricSample :=
  let sample : MetricSample := { metric := .liquidTemperature, value := some 31 }
  (sample, sample)

end Kori
