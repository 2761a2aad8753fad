import Kori.Hardware.Rgb

/-!
# The report of a lighting command, byte for byte

`wire` is the documented layout. A command that validation lets through is sent as exactly that.
-/

namespace Kori.RgbController

/-! ## The documented layout -/

/-- The colors a program sends, each with the brightness it is shown at. -/
def asked : LightingProgram → List (Rgb × Brightness)
  | .fixed color brightness => [(color, brightness)]
  | .effect .breathing colors brightness _ _ => colors.map fun color => (color, brightness)
  | .off | .effect .spectrumWave .. => [(Rgb.BLACK, .FULL)]

def dim (channel : UInt8) (brightness : Brightness) : UInt8 :=
  UInt8.ofNat (channel.toNat * brightness.percent.toNat / 100)

/-- Green, red, blue. -/
def triplet (color : Rgb × Brightness) : List UInt8 :=
  [dim color.1.g color.2, dim color.1.r color.2, dim color.1.b color.2]

def modeByte : LightingProgram → UInt8
  | .effect .breathing .. => 0x07
  | .effect .spectrumWave .. => 0x02
  | .off | .fixed .. => 0x00

def speedBytes : LightingProgram → UInt8 × UInt8
  | .effect effect _ _ speed _ => (speedValues effect).get speed.index
  | .fixed .. => (0x32, 0x00)
  | .off => (0x00, 0x00)

def variantByte : LightingProgram → UInt8
  | .effect .breathing .. => 0x08
  | _ => 0x00

def wireHeader (command : LightingCommand) : List UInt8 :=
  let bit := UInt8.ofNat (2 ^ (command.channel.toNat - 1))
  [0x2a, 0x04, bit, bit, modeByte command.program, (speedBytes command.program).1,
    (speedBytes command.program).2]

def wireFooter (program : LightingProgram) : List UInt8 :=
  [if isBackward program then 0x02 else 0x00, UInt8.ofNat (asked program).length,
    variantByte program, 0x08, 0x03, 0x00, 0x00, 0x00, 0x00]

/-- Header, colors, zeros up to the footer, footer. -/
def wire (command : LightingCommand) : List UInt8 :=
  let block := (asked command.program).flatMap triplet
  wireHeader command ++ block ++ List.replicate (FOOTER_OFFSET - 7 - block.length) 0 ++
    wireFooter command.program

theorem length_flatMap_triplet (colors : List (Rgb × Brightness)) :
    (colors.flatMap triplet).length = 3 * colors.length := by
  induction colors with
  | nil => rfl
  | cons color colors ih =>
    rw [List.flatMap_cons, List.length_append, ih, List.length_cons]
    have htriplet : (triplet color).length = 3 := rfl
    omega

/-! ## What the encoder writes -/

/-- The bytes of colors already scaled. -/
def colorBytes (colors : List Rgb) : List UInt8 := colors.flatMap fun color => [color.g, color.r, color.b]

theorem toList_writeColors (colors : List Rgb) (front : List UInt8) (rest : Nat) (report : Report)
    (h : report.toList = front ++ List.replicate (3 * colors.length + rest) 0) :
    (writeColors colors front.length report).toList =
      front ++ colorBytes colors ++ List.replicate rest 0 := by
  induction colors generalizing front report with
  | nil => simpa [writeColors, colorBytes] using h
  | cons color colors ih =>
    have hzeros : List.replicate (3 * (color :: colors).length + rest) (0 : UInt8) =
        0 :: 0 :: 0 :: List.replicate (3 * colors.length + rest) 0 := by
      rw [List.length_cons, show 3 * (colors.length + 1) + rest =
        3 * colors.length + rest + 1 + 1 + 1 by omega]
      rfl
    have hstep := ih (front ++ [color.g, color.r, color.b])
      (((report.setIfInBounds front.length color.g).setIfInBounds (front.length + 1)
        color.r).setIfInBounds (front.length + 2) color.b) (by
        simp only [Vector.toList_setIfInBounds, h, hzeros]
        rw [List.set_append_right _ _ (by omega), List.set_append_right _ _ (by omega),
          List.set_append_right _ _ (by omega)]
        simp)
    unfold writeColors
    simpa [colorBytes] using hstep

theorem colorBytes_scaled (colors : List (Rgb × Brightness)) :
    colorBytes (colors.map fun color => color.1.scaled color.2) = colors.flatMap triplet := by
  unfold colorBytes
  rw [List.flatMap_map]
  rfl

theorem encoding_eq (program : LightingProgram) :
    encoding program =
      { mode := modeByte program, speed := speedBytes program, variant := variantByte program
        colors := (asked program).map fun color => color.1.scaled color.2 } := by
  cases program with
  | off => rfl
  | fixed color brightness => rfl
  | effect effect colors brightness speed direction =>
    cases effect with
    | spectrumWave => rfl
    | breathing => simp [encoding, modeByte, speedBytes, variantByte, asked]

theorem colorCommand_eq (bit : UInt8) (program : LightingProgram)
    (h : (asked program).length ≤ MAX_COLORS) :
    ∃ report, colorCommand bit program = .ok report ∧
      report.toList =
        [0x2a, 0x04, bit, bit, modeByte program, (speedBytes program).1, (speedBytes program).2] ++
          (asked program).flatMap triplet ++
          List.replicate (48 - 3 * (asked program).length) 0 ++ wireFooter program := by
  have hmax : MAX_COLORS = 16 := rfl
  have hfooter : FOOTER_OFFSET = 55 := rfl
  unfold colorCommand
  rw [encoding_eq]
  simp only [List.length_map]
  rw [if_neg (by omega)]
  refine ⟨_, rfl, ?_⟩
  -- The seven bytes of the header, on an empty report.
  have hheader : (List.replicate REPORT_BYTES (0 : UInt8)) =
      0 :: 0 :: 0 :: 0 :: 0 :: 0 :: 0 :: List.replicate 57 0 := rfl
  have hblock := toList_writeColors ((asked program).map fun color => color.1.scaled color.2)
    [0x2a, 0x04, bit, bit, modeByte program, (speedBytes program).1, (speedBytes program).2]
    (57 - 3 * (asked program).length)
    (((((((Vector.replicate REPORT_BYTES 0).setIfInBounds 0 COLOR_COMMAND.1).setIfInBounds 1
      COLOR_COMMAND.2).setIfInBounds 2 bit).setIfInBounds 3 bit).setIfInBounds 4
      (modeByte program)).setIfInBounds 5 (speedBytes program).1 |>.setIfInBounds 6
      (speedBytes program).2) (by
      rw [List.length_map, show 3 * (asked program).length + (57 - 3 * (asked program).length) = 57 by
        omega]
      simp only [Vector.toList_setIfInBounds, Vector.toList_replicate, hheader]
      rfl)
  rw [colorBytes_scaled] at hblock
  -- The footer, on the last nine bytes.
  have hzeros : List.replicate (57 - 3 * (asked program).length) (0 : UInt8) =
      List.replicate (48 - 3 * (asked program).length) 0 ++ List.replicate 9 0 := by
    rw [List.replicate_append_replicate]
    congr 1
    omega
  have hfront : ([0x2a, 0x04, bit, bit, modeByte program, (speedBytes program).1,
      (speedBytes program).2] ++ (asked program).flatMap triplet ++
      List.replicate (48 - 3 * (asked program).length) 0).length = 55 := by
    simp only [List.length_append, length_flatMap_triplet, List.length_replicate, List.length_cons,
      List.length_nil]
    omega
  have hlength : ([0x2a, 0x04, bit, bit, modeByte program, (speedBytes program).1,
      (speedBytes program).2] : List UInt8).length = 7 := rfl
  simp only [Vector.toList_setIfInBounds]
  rw [hlength] at hblock
  rw [hblock, hzeros, ← List.append_assoc, hfooter]
  generalize [0x2a, 0x04, bit, bit, modeByte program, (speedBytes program).1,
      (speedBytes program).2] ++ (asked program).flatMap triplet ++
      List.replicate (48 - 3 * (asked program).length) (0 : UInt8) = front at hfront
  rw [List.set_append_right _ _ (by omega), List.set_append_right _ _ (by omega),
    List.set_append_right _ _ (by omega), List.set_append_right _ _ (by omega),
    List.set_append_right _ _ (by omega), hfront]
  simp [wireFooter, List.replicate_succ]

/-! ## Validation and encoding agree -/

theorem length_asked_le {program : LightingProgram} (h : Lighting.validateProgram program = .ok ()) :
    (asked program).length ≤ 8 := by
  cases program with
  | off => decide
  | fixed color brightness => exact Nat.le_add_left 1 7
  | effect effect colors brightness speed direction =>
    cases effect with
    | spectrumWave => exact Nat.le_add_left 1 7
    | breathing =>
      have hcount : 1 ≤ colors.length ∧ colors.length ≤ 8 := by
        by_contra hcount
        simp [Lighting.validateProgram, LightingEffect.colorRange, hcount] at h
      simp only [asked, List.length_map]
      exact hcount.2

theorem length_channels_le (answer : Report) : (channels answer).length ≤ MAX_CHANNELS := by
  unfold channels
  rw [List.length_map, List.length_range]
  exact Nat.min_le_right _ _

theorem channelCount_answer (node firmware : Evidenced String) (source : String) (answer : Report) :
    RgbTopology.channelCount ⟨node, firmware, .known (channels answer) source⟩ =
      some (UInt8.ofNat (channels answer).length) := by
  have hle := length_channels_le answer
  have hmax : MAX_CHANNELS = 3 := rfl
  simp only [RgbTopology.channelCount, Evidenced.value, Option.bind_eq_bind, Option.bind_some]
  rw [if_pos (by omega)]

theorem channelBit_eq {channel : UInt8} (hpos : channel ≠ 0) (hle : channel.toNat ≤ MAX_CHANNELS) :
    channelBit channel = some (UInt8.ofNat (2 ^ (channel.toNat - 1))) := by
  have hthree : ∀ n : Fin 4, n ≠ 0 →
      channelBit (UInt8.ofNat n.val) = some (UInt8.ofNat (2 ^ (n.val - 1))) := by
    decide
  have hlt : channel.toNat < 4 := Nat.lt_succ_of_le hle
  have hne : (⟨channel.toNat, hlt⟩ : Fin 4) ≠ 0 := by
    intro hzero
    have hval : channel.toNat = 0 := Fin.mk.inj_iff.mp hzero
    exact hpos (UInt8.toNat_inj.mp hval)
  have heq := hthree ⟨channel.toNat, hlt⟩ hne
  rwa [UInt8.ofNat_toNat] at heq

/-- Whatever the controller answered, a command validated against it is sent as documented, its
colors short of the footer. -/
theorem validated_command_encodes (node firmware : Evidenced String) (source : String)
    (answer : Report) (command : LightingCommand) (count : UInt8)
    (hcount : RgbTopology.channelCount ⟨node, firmware, .known (channels answer) source⟩ = some count)
    (hvalid : Lighting.validateCommand command count = .ok ()) :
    ∃ report, encode command.channel command.program = .ok report ∧
      report.toList = wire command ∧
      7 + 3 * (asked command.program).length ≤ FOOTER_OFFSET := by
  have hmax : MAX_CHANNELS = 3 := rfl
  have hfooter : FOOTER_OFFSET = 55 := rfl
  have hcolors : MAX_COLORS = 16 := rfl
  have hchannels := length_channels_le answer
  rw [channelCount_answer, Option.some.injEq] at hcount
  unfold Lighting.validateCommand at hvalid
  split at hvalid
  · cases hvalid
  · rename_i hchannel
    rw [not_or] at hchannel
    obtain ⟨hpos, hle⟩ := hchannel
    have hcountLe : count.toNat ≤ MAX_CHANNELS := by
      rw [← hcount, UInt8.toNat_ofNat', Nat.mod_eq_of_lt (by omega)]
      exact hchannels
    have hchannelLe : command.channel.toNat ≤ MAX_CHANNELS := by
      rw [UInt8.lt_iff_toNat_lt] at hle
      omega
    have hasked := length_asked_le hvalid
    obtain ⟨report, hreport, hbytes⟩ :=
      colorCommand_eq (UInt8.ofNat (2 ^ (command.channel.toNat - 1))) command.program (by omega)
    refine ⟨report, ?_, ?_, by omega⟩
    · unfold encode
      rw [channelBit_eq hpos hchannelLe]
      exact hreport
    · rw [hbytes]
      simp only [wire, wireHeader, length_flatMap_triplet]
      rw [show FOOTER_OFFSET - 7 - 3 * (asked command.program).length =
        48 - 3 * (asked command.program).length by omega]

/-- Two colors breathing on the third of three channels. -/
theorem validated_command_encodes_breathing :
    ∃ report, encode 3 (.effect .breathing [⟨255, 0, 0⟩, ⟨0, 0, 255⟩] .FULL .normal .forward) =
        .ok report ∧
      report.toList = wire ⟨3, .effect .breathing [⟨255, 0, 0⟩, ⟨0, 0, 255⟩] .FULL .normal .forward⟩ ∧
      7 + 3 * (asked (.effect .breathing [⟨255, 0, 0⟩, ⟨0, 0, 255⟩] .FULL .normal .forward)).length ≤
        FOOTER_OFFSET :=
  validated_command_encodes (.known "/dev/hidraw12" "sysfs") (.known "1.5.0" "report 0x11") "report 0x21"
    ((Vector.replicate REPORT_BYTES 0).setIfInBounds CHANNEL_COUNT_OFFSET 3)
    ⟨3, .effect .breathing [⟨255, 0, 0⟩, ⟨0, 0, 255⟩] .FULL .normal .forward⟩ 3 rfl rfl

end Kori.RgbController
