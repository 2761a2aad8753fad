import Kori.App.Shell

/-! # The pending state of the Lighting screen -/

open Faulty

namespace Kori

/-- Color a channel starts on, before the operator picks one. -/
def DEFAULT_COLOR : String := "6F4EF2"

/-- What the screen is asking one channel to show. -/
inductive LightingMode where
  | off
  | fixed
  | effect (effect : LightingEffect)
deriving DecidableEq, Repr

/-- The pending state of one channel. Its color is six digits as typed. -/
structure ChannelEditor where
  channel : UInt8
  mode : LightingMode
  color : String
  brightness : UInt8
  speed : EffectSpeed
  direction : EffectDirection
deriving DecidableEq, Repr

namespace ChannelEditor

def new (channel : UInt8) : ChannelEditor :=
  { channel, mode := .fixed, color := DEFAULT_COLOR, brightness := 100, speed := .normal, direction := .forward }

/-- The color currently typed, or why it cannot be used. -/
def parsedColor (editor : ChannelEditor) : Except LightingError Rgb := Rgb.parseHex editor.color

/-- The colors an effect is sent with. -/
def effectColors (effect : LightingEffect) (editor : ChannelEditor) : Except LightingError (List Rgb) :=
  if effect.colorRange.2 = 0 then .ok [] else editor.parsedColor.map (List.replicate (max effect.colorRange.1 1))

/-- The program this row would send, or the first reason it cannot be built. Off never reads the color. -/
def program (editor : ChannelEditor) : Except LightingError LightingProgram := do
  let brightness ← Brightness.new editor.brightness
  match editor.mode with
  | .off => return .off
  | .fixed => return .fixed (← editor.parsedColor) brightness
  | .effect effect =>
    let colors ← editor.effectColors effect
    -- A direction the effect ignores is never sent.
    return .effect effect colors brightness editor.speed (if effect.acceptsDirection then editor.direction else .forward)

/-- The row as the window holds it. -/
def row (editor : ChannelEditor) : UInt8 × Option LightingProgram := (editor.channel, editor.program.toOption)

example : (new 1).row = (1, some DEFAULT_LIGHTING) := by decide

end ChannelEditor

/-- Every channel's pending state. -/
structure LightingEditor where
  channels : List ChannelEditor
deriving DecidableEq, Repr

/-- Rebuilds the editor for the channels the controller reported. A channel that is still there keeps what
the operator typed. -/
def LightingEditor.sync (channels : List UInt8) (editor : LightingEditor) : LightingEditor :=
  ⟨(channels.map fun channel =>
    (editor.channels.find? (·.channel = channel)).getD (.new channel)).insertionSort fun a b => a.channel ≤ b.channel⟩

/-! ## What a row sends is valid -/

theorem effectColors_length {editor : ChannelEditor} {effect : LightingEffect} {colors : List Rgb}
    (h : editor.effectColors effect = .ok colors) :
    effect.colorRange.1 ≤ colors.length ∧ colors.length ≤ effect.colorRange.2 := by
  unfold ChannelEditor.effectColors at h
  cases effect with
  | spectrumWave =>
    cases h
    decide
  | breathing =>
    rw [if_neg (by decide)] at h
    cases hcolor : editor.parsedColor with
    | error error =>
      rw [hcolor] at h
      cases h
    | ok color =>
      rw [hcolor] at h
      cases h
      simp [LightingEffect.colorRange]

theorem ChannelEditor.program_valid {editor : ChannelEditor} {program : LightingProgram}
    (h : editor.program = .ok program) : Lighting.validateProgram program = .ok () := by
  unfold ChannelEditor.program at h
  obtain ⟨brightness, -, h⟩ := ok_of_bind h
  split at h
  · cases h
    rfl
  · obtain ⟨color, -, h⟩ := ok_of_bind h
    cases h
    rfl
  · rename_i effect hmode
    obtain ⟨colors, hcolors, h⟩ := ok_of_bind h
    cases h
    obtain ⟨hmin, hmax⟩ := effectColors_length hcolors
    unfold Lighting.validateProgram
    dsimp only
    rw [if_neg (not_not.mpr ⟨hmin, hmax⟩)]
    exact if_neg fun ⟨hdirection, haccepts⟩ => hdirection (if_neg haccepts)

theorem ChannelEditor.row_new (channel : UInt8) : (new channel).row = (channel, some DEFAULT_LIGHTING) := by
  have hprogram : (new channel).program = (new 1).program := rfl
  have hrow : (new 1).program.toOption = some DEFAULT_LIGHTING := by decide
  unfold row
  rw [hprogram, hrow]
  rfl

theorem LightingEditor.rows_sync (channels : List UInt8) (editor : LightingEditor) :
    (editor.sync channels).channels.map ChannelEditor.row =
      Shell.syncLighting channels (editor.channels.map ChannelEditor.row) := by
  unfold LightingEditor.sync Shell.syncLighting
  refine (List.map_insertionSort (fun a b => a.channel ≤ b.channel) (fun a b => a.1 ≤ b.1) ChannelEditor.row _
    fun a _ b _ => Iff.rfl).trans ?_
  rw [List.map_map]
  congr 1
  refine List.map_congr_left fun channel _ => ?_
  rw [List.find?_map]
  have hpred : (fun row : UInt8 × Option LightingProgram => decide (row.1 = channel)) ∘ ChannelEditor.row =
      fun editor => decide (editor.channel = channel) := rfl
  rw [hpred]
  dsimp only [Function.comp]
  cases hfound : editor.channels.find? fun editor => decide (editor.channel = channel) with
  | none => exact ChannelEditor.row_new channel
  | some found =>
    have hchannel : found.channel = channel := by simpa using List.find?_some hfound
    rw [Option.getD_some, Option.map_some]
    exact Prod.ext hchannel rfl

end Kori
