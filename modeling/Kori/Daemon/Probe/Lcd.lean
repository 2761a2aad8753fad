import Kori.Daemon.Probe
import Kori.Daemon.Display
import Kori.Hardware.Lcd.Transfer

/-! # The frame write probe -/

open Faulty

namespace Kori

/-- A single-color field, which is the shape the transport probe sends. -/
def DisplayPreset.solid (color : Rgb) : DisplayPreset :=
  { DisplayPreset.defaultInfographic with mode := .solid, background := color }

/-- The link to the panel, and the clock read around it. -/
inductive LcdLinkCall where
  | setDisplay (brightness : Brightness)
  | sendFrame (payload : Frame)
  | elapsed

/-- How it went; for a frame that went through, how many of its commands were acknowledged. -/
abbrev LcdLinkCall.Answer : LcdLinkCall → Type
  | setDisplay _ => Except LcdError Unit
  | sendFrame _ => Except LcdError Nat
  | elapsed => Nat

abbrev LcdProbe := ProbeScript LcdLinkCall.Answer
abbrev LcdProbeSaid := ProbeSaid LcdLinkCall.Answer

namespace LcdProbe

/-- Colors the probe fills the panel with, in order. -/
def PROBE_COLORS : List (String × Rgb) :=
  [("red", ⟨0xff, 0x00, 0x00⟩), ("green", ⟨0x00, 0xff, 0x00⟩), ("blue", ⟨0x00, 0x00, 0xff⟩),
    ("white", ⟨0xff, 0xff, 0xff⟩)]

/-- Brightness every probe frame is sent at, as a percentage. -/
def PROBE_PERCENT : UInt8 := 50
def PROBE_LEVEL : Brightness := ⟨PROBE_PERCENT, by decide⟩

/-- One frame the probe sent, with everything observable about it. -/
structure ProbeStep where
  description : String
  transferStart : List UInt8
  bulkHeader : List UInt8
  payloadBytes : Nat
  transferEnd : List UInt8
  sequences : Nat
  acknowledged : Nat
  elapsedUs : Nat
  observed : String
  error : Option String

/-- Whether the panel was put back the way it was found. -/
inductive Restoration where
  | confirmed (observed : String)
  | unconfirmed (reason : String)
  | failed (reason : String)

/-- Everything one run recorded. -/
structure WriteProbeReport where
  firmware : String
  panel : String
  transport : String
  priorState : String
  steps : List ProbeStep
  restoration : Restoration

/-- Why a run refused to start. -/
inductive ProbeRefusal where
  | noPanel (reason : String)
  | noGeometry
  | notAuthorized

def setDisplay (brightness : Brightness) : LcdProbe (Except LcdError Unit) :=
  request (ProbeCall.device (LcdLinkCall.setDisplay brightness))

/-- Sends one complete frame, its size checked before the first byte leaves. -/
def sendFrame (payload : Frame) : LcdProbe (Except LcdError Transfer.FrameReport) :=
  if payload.length ≠ FRAME_BYTES then return .error (.frameSize payload.length FRAME_BYTES)
  else do
    let answer ← request (ProbeCall.device (LcdLinkCall.sendFrame payload))
    return answer.map fun acknowledged => {
      start := Transfer.transferStart, header := Transfer.bulkHeader (UInt32.ofNat payload.length)
      payloadBytes := payload.length, sequences := Transfer.SEQUENCES_PER_FRAME, acknowledged
      «end» := Transfer.transferEnd }

def elapsed : LcdProbe Nat := request (ProbeCall.device LcdLinkCall.elapsed)

/-- Sets the brightness, and sends the frame where that went through. -/
def setAndSend (brightness : Brightness) (frame : Frame) : LcdProbe (Except LcdError Transfer.FrameReport) := do
  match ← setDisplay brightness with
  | .error error => return .error error
  | .ok () => sendFrame frame

/-- A solid field reads no telemetry, so the samples are unavailable ones. -/
def samples : MetricSample × MetricSample :=
  (MetricSample.unavailable .cpuTemperature, MetricSample.unavailable .gpuTemperature)

variable (renderer : Renderer) (panel : LcdPanel)

/-- Renders one preset, sends it, and records what left the process. -/
def sendStep (preset : DisplayPreset) (description question : String) : LcdProbe ProbeStep := do
  Operator.note s!"Sending {description}."
  match renderer.render preset samples panel with
  | .error error => return {
      description, transferStart := [], bulkHeader := [], payloadBytes := 0, transferEnd := [], sequences := 0
      acknowledged := 0, elapsedUs := 0, observed := "", error := some error.display }
  | .ok frame =>
    let sent ← setAndSend preset.brightness frame
    let elapsedUs ← elapsed
    match sent with
    | .ok report =>
      let observed ← Operator.ask question
      return {
        description, transferStart := report.start.toList, bulkHeader := report.header
        payloadBytes := report.payloadBytes, transferEnd := report.«end».toList, sequences := report.sequences
        acknowledged := report.acknowledged, elapsedUs, observed, error := none }
    | .error error => return {
        description, transferStart := [], bulkHeader := [], payloadBytes := frame.length, transferEnd := []
        sequences := 0, acknowledged := 0, elapsedUs, observed := "", error := some error.display }

/-- Sends the default view, and asks whether anyone saw it. `debug` writes a text between quotes. -/
def restore (debug : String → String) (priorState : String) : LcdProbe Restoration := do
  Operator.note "Restoring the panel to this product's default view."
  match renderer.render .defaultInfographic samples panel with
  | .error error => return .failed error.display
  | .ok frame =>
    match ← setAndSend DisplayPreset.defaultInfographic.brightness frame with
    | .error error => return .failed error.display
    | .ok _ =>
      let observed ← Operator.ask
        s!"The panel was showing {debug priorState} before this run. What does it show now?"
      if observed.isEmpty then return .unconfirmed "nobody described the panel after restoration"
      return .confirmed observed

/-- The preset of one probe color, on the panel's own orientation. -/
def probePreset (color : Rgb) : DisplayPreset :=
  { DisplayPreset.solid color with brightness := PROBE_LEVEL, orientation := .deg0 }

def testColor (color : String × Rgb) : LcdProbe ProbeStep :=
  sendStep renderer panel (probePreset color.2) s!"solid {color.1} at {PROBE_PERCENT.toNat}%"
    s!"What does the panel show now? (expected: a {color.1} field)"

def warning (firmware : String) : String :=
  s!"About to send {PROBE_COLORS.length} unvalidated frames to a panel running firmware {firmware}.\n" ++
    s!"Each is one solid color at {PROBE_PERCENT.toNat}% brightness, laid out at " ++
    s!"{panel.width.toNat}x{panel.height.toNat} in {panel.pixelFormat}.\n" ++
    "Nothing else is sent: no orientation change, no image, no animation.\n" ++
    "Watch the panel while this runs."

def priorQuestion : String := "What is the panel showing right now? (free text)"

/-- Runs the write probe against a link the caller already opened. -/
def run (debug : String → String) (source : String) (topology : LcdTopology) :
    LcdProbe (Except ProbeRefusal WriteProbeReport) :=
  match topology.panel.value with
  | none => return .error .noGeometry
  | some panel =>
    if ¬topology.answered then
      return .error (.noPanel (topology.display.reason.getD "no reason was recorded"))
    else do
      let firmware := topology.firmware.value.getD "unknown"
      Operator.note (warning panel firmware)
      let priorState ← Operator.ask priorQuestion
      if ¬(← authorized) then return .error .notAuthorized
      let steps ← Script.each (testColor renderer panel) PROBE_COLORS
      let restoration ← restore renderer panel debug priorState
      return .ok {
        firmware
        panel := s!"{panel.width.toNat}x{panel.height.toNat} {panel.pixelFormat} " ++
          match panel.shape with
          | .circular => "circular"
          | .square => "square"
        transport := source, priorState, steps, restoration }

/-! ## What the panel is sent -/

/-- What the panel was sent, each with its answer, in order. -/
def shown (said : LcdProbeSaid) : List (Sigma LcdLinkCall.Answer) := (exchanged said).filter fun
  | ⟨.elapsed, _⟩ => false
  | _ => true

/-- How far a picture came: a frame is sent when it rendered, has the size the panel takes and the brightness before it
went through. -/
inductive Attempt (brightness : Brightness) : Except DisplayError Frame → Except String Nat →
    List (Sigma LcdLinkCall.Answer) → Prop
  | unrendered (error : DisplayError) : Attempt brightness (.error error) (.error error.display) []
  | dark (frame : Frame) (error : LcdError) :
    Attempt brightness (.ok frame) (.error error.display) [⟨.setDisplay brightness, .error error⟩]
  | misfit (frame : Frame) (hsize : frame.length ≠ FRAME_BYTES) :
    Attempt brightness (.ok frame) (.error (LcdError.frameSize frame.length FRAME_BYTES).display)
      [⟨.setDisplay brightness, .ok ()⟩]
  | broken (frame : Frame) (hsize : frame.length = FRAME_BYTES) (error : LcdError) :
    Attempt brightness (.ok frame) (.error error.display)
      [⟨.setDisplay brightness, .ok ()⟩, ⟨.sendFrame frame, .error error⟩]
  | landed (frame : Frame) (hsize : frame.length = FRAME_BYTES) (acknowledged : Nat) :
    Attempt brightness (.ok frame) (.ok acknowledged)
      [⟨.setDisplay brightness, .ok ()⟩, ⟨.sendFrame frame, .ok acknowledged⟩]

/-- What became of a picture, in what a caller is told. -/
def toldOf (sent : Except LcdError Transfer.FrameReport) : Except String Nat :=
  (sent.map (·.acknowledged)).mapError LcdError.display

@[simp] theorem toldOf_error (error : LcdError) : toldOf (.error error) = .error error.display := rfl
@[simp] theorem toldOf_ok (report : Transfer.FrameReport) : toldOf (.ok report) = .ok report.acknowledged := rfl

theorem setAndSend_spec (brightness : Brightness) (frame : Frame) :
    (setAndSend brightness frame).Always fun sent said => answered said = [] ∧
      (∀ report, sent = .ok report → report.payloadBytes = FRAME_BYTES) ∧
      Attempt brightness (.ok frame) (toldOf sent) (shown said) := by
  unfold setAndSend setDisplay
  rw [Script.always_bind, Script.always_request]
  intro answer
  cases answer with
  | error error => exact ⟨rfl, fun _ h => (by cases h), .dark frame error⟩
  | ok answer =>
    unfold sendFrame
    by_cases hsize : frame.length = FRAME_BYTES
    · rw [if_neg (not_not.mpr hsize), Script.always_bind, Script.always_request]
      intro answer
      cases answer with
      | error error => exact ⟨rfl, fun _ h => (by cases h), .broken frame hsize error⟩
      | ok acknowledged => exact ⟨rfl, fun _ h => (by cases h; exact hsize), .landed frame hsize acknowledged⟩
    · rw [if_pos hsize]
      exact ⟨rfl, fun _ h => (by cases h), .misfit frame hsize⟩

/-- A step is how far its picture came, and what the operator said of one that came all the way. -/
def Recorded (preset : DisplayPreset) (step : ProbeStep) (said : LcdProbeSaid) : Prop :=
  ∃ told, Attempt preset.brightness (renderer.render preset samples panel) told (shown said) ∧
    match told with
    | .ok acknowledged => step.error = none ∧ step.acknowledged = acknowledged ∧ step.payloadBytes = FRAME_BYTES ∧
      answered said = [step.observed]
    | .error error => step.error = some error ∧ step.sequences = 0 ∧ step.observed = "" ∧ answered said = []

theorem sendStep_spec (preset : DisplayPreset) (description question : String) :
    (sendStep renderer panel preset description question).Always (Recorded renderer panel preset) := by
  unfold sendStep Recorded
  rw [Script.always_bind, always_note]
  cases renderer.render preset samples panel with
  | error error => exact ⟨_, .unrendered error, rfl, rfl, rfl, rfl⟩
  | ok frame =>
    dsimp only
    rw [Script.always_bind]
    refine Script.always_mono (setAndSend_spec preset.brightness frame) fun sent said hsent => ?_
    obtain ⟨hanswered, hpayload, hattempt⟩ := hsent
    intro elapsed
    cases sent with
    | error error =>
      refine ⟨.error error.display, ?_, rfl, rfl, rfl, ?_⟩
      · simpa [shown] using hattempt
      · simpa using hanswered
    | ok report =>
      intro observed
      refine ⟨.ok report.acknowledged, ?_, rfl, rfl, hpayload report rfl, ?_⟩
      · simpa [shown] using hattempt
      · simpa using hanswered

theorem testColor_spec (color : String × Rgb) :
    (testColor renderer panel color).Always (Recorded renderer panel (probePreset color.2)) :=
  sendStep_spec renderer panel (probePreset color.2) _ _

/-- What became of the panel: confirmed when the default view went through and the operator said what they saw. -/
def PutBack (restoration : Restoration) (said : LcdProbeSaid) : Prop :=
  ∃ told, Attempt DisplayPreset.defaultInfographic.brightness
      (renderer.render DisplayPreset.defaultInfographic samples panel) told (shown said) ∧
    match restoration with
    | .confirmed observed => told.isOk ∧ observed ≠ "" ∧ answered said = [observed]
    | .unconfirmed _ => told.isOk ∧ answered said = [""]
    | .failed reason => told = .error reason ∧ answered said = []

theorem restore_spec (debug : String → String) (priorState : String) :
    (restore renderer panel debug priorState).Always (PutBack renderer panel) := by
  unfold restore PutBack
  rw [Script.always_bind, always_note]
  cases renderer.render DisplayPreset.defaultInfographic samples panel with
  | error error => exact ⟨_, .unrendered error, rfl, rfl⟩
  | ok frame =>
    dsimp only
    rw [Script.always_bind]
    refine Script.always_mono (setAndSend_spec _ frame) fun sent said hsent => ?_
    obtain ⟨hanswered, -, hattempt⟩ := hsent
    cases sent with
    | error error =>
      refine ⟨.error error.display, ?_, rfl, ?_⟩
      · simpa [shown] using hattempt
      · simpa using hanswered
    | ok report =>
      dsimp only
      rw [Script.always_bind, always_ask]
      intro observed
      by_cases hempty : observed.isEmpty
      · rw [if_pos hempty]
        refine ⟨.ok report.acknowledged, ?_, rfl, ?_⟩
        · simpa [shown] using hattempt
        · simp [hanswered, String.isEmpty_iff.mp hempty]
      · rw [if_neg hempty]
        refine ⟨.ok report.acknowledged, ?_, rfl, fun h => hempty (String.isEmpty_iff.mpr h), ?_⟩
        · simpa [shown] using hattempt
        · simpa using hanswered

/-- What is said before anything is sent. -/
def briefing (topology : LcdTopology) (priorState answer : String) : LcdProbeSaid :=
  [⟨.note (warning panel (topology.firmware.value.getD "unknown")), ()⟩, ⟨.ask priorQuestion, priorState⟩,
    ⟨.ask confirmation, answer⟩]

/-- How a run may go, and what it says and records. -/
def Went (topology : LcdTopology) (said : LcdProbeSaid) : Except ProbeRefusal WriteProbeReport → Prop
  | .error .noGeometry => topology.panel.value = none ∧ said = []
  | .error (.noPanel _) => topology.answered = false ∧ said = []
  | .error .notAuthorized => topology.answered ∧ ∃ panel, topology.panel.value = some panel ∧
    ∃ priorState, ∃ answer ≠ CONFIRMATION_PHRASE, said = briefing panel topology priorState answer
  | .ok report => topology.answered ∧ ∃ panel, topology.panel.value = some panel ∧ ∃ tests restoring,
    said = briefing panel topology report.priorState CONFIRMATION_PHRASE ++ (tests ++ restoring) ∧
    Script.Passes (fun color => Recorded renderer panel (probePreset color.2)) PROBE_COLORS report.steps tests ∧
    PutBack renderer panel report.restoration restoring

theorem run_spec (debug : String → String) (source : String) (topology : LcdTopology) :
    (run renderer debug source topology).Always fun outcome said => Went renderer topology said outcome := by
  unfold run
  cases hpanel : topology.panel.value with
  | none => exact ⟨hpanel, rfl⟩
  | some panel =>
    dsimp only
    by_cases hanswered : topology.answered
    · rw [if_neg (not_not.mpr hanswered), Script.always_bind, always_note, Script.always_bind, always_ask]
      intro priorState
      rw [Script.always_bind, authorized, Script.always_bind, always_ask]
      intro answer
      rw [Script.always_return]
      by_cases hanswer : answer = CONFIRMATION_PHRASE
      · subst hanswer
        rw [if_neg (by simp), Script.always_bind]
        refine Script.always_mono (Script.always_each_passes (testColor_spec renderer panel) PROBE_COLORS)
          fun steps tests hsteps => ?_
        rw [Script.always_bind]
        refine Script.always_mono (restore_spec renderer panel debug priorState) fun restoration restoring hback => ?_
        exact ⟨hanswered, panel, hpanel, tests, restoring, by simp [briefing], hsteps, hback⟩
      · rw [if_pos (by simpa using hanswer)]
        exact ⟨hanswered, panel, hpanel, priorState, answer, hanswer, rfl⟩
    · rw [if_pos hanswered]
      exact ⟨Bool.eq_false_of_not_eq_true hanswered, rfl⟩

end LcdProbe

end Kori
