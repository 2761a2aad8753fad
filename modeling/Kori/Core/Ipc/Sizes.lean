import Kori.Core.Ipc.Written

/-! # How many bytes an answer takes -/

open Faulty Value

namespace Kori

/-! ## Numbers -/

theorem size_numeral {n k : Nat} (hk : 0 < k) (h : n < 10 ^ k) : (numeral n).size ≤ k := digits_length hk h

theorem size_byte (n : UInt8) : (numeral n.toNat).size ≤ 3 :=
  size_numeral (by omega) (Nat.lt_trans n.toNat_lt (by decide))

theorem size_word (n : UInt16) : (numeral n.toNat).size ≤ 5 :=
  size_numeral (by omega) (Nat.lt_trans n.toNat_lt (by decide))

theorem size_doubleWord (n : UInt32) : (numeral n.toNat).size ≤ 10 :=
  size_numeral (by omega) (Nat.lt_trans n.toNat_lt (by decide))

theorem size_bool (b : Bool) : (Value.bool b).size ≤ 5 := by
  cases b
  · exact Nat.le_refl 5
  · exact Nat.le_succ 4

theorem size_orNull {α : Type} {write : α → Value} {n : Nat} (a : Option α) (hn : 4 ≤ n)
    (h : ∀ value, a = some value → (write value).size ≤ n) : (orNull write a).size ≤ n := by
  cases a with
  | none => exact hn
  | some value => exact h value rfl

theorem size_array {α : Type} {write : α → Value} {n : Nat} (items : List α)
    (h : ∀ item ∈ items, (write item).size ≤ n) : (Value.array (items.map write)).size ≤ items.length * (n + 1) + 2 := by
  have hitems := @sizeOfItems_le (items.map write) n (List.forall_mem_map.mpr h)
  rw [List.length_map] at hitems
  rw [Value.size]
  omega

/-! ## What a write came to -/

def HardwareState.reason : HardwareState → String
  | notApplied reason => reason
  | uncertain reason => reason
  | _ => ""

theorem size_hardware (hardware : HardwareState) :
    (HardwareState.codec.write hardware).size ≤ textSize hardware.reason + 45 := by
  have hstate : sizeOfNames ["state"] = 9 := rfl
  have hreason : sizeOfNames ["state", "reason"] = 19 := rfl
  have hkind : textSize hardware.kind ≤ 11 := by
    have hkinds : ["onboard", "confirmed", "not_applied", "uncertain"].all fun kind => textSize kind ≤ 11 := by
      decide
    refine of_decide_eq_true (List.all_eq_true.mp hkinds hardware.kind ?_)
    cases hardware <;> simp [HardwareState.kind]
  cases hardware with
  | onboard =>
    have h := size_object [("state", .string HardwareState.onboard.kind)]
    simp only [List.map_cons, List.map_nil, List.sum_cons, List.sum_nil, hstate, Value.size] at h
    exact Nat.le_trans h (by omega)
  | confirmed =>
    have h := size_object [("state", .string HardwareState.confirmed.kind)]
    simp only [List.map_cons, List.map_nil, List.sum_cons, List.sum_nil, hstate, Value.size] at h
    exact Nat.le_trans h (by omega)
  | notApplied reason =>
    have h := size_object [("state", .string (HardwareState.notApplied reason).kind), ("reason", .string reason)]
    simp only [List.map_cons, List.map_nil, List.sum_cons, List.sum_nil, hreason, Value.size] at h
    exact Nat.le_trans h (by change _ ≤ textSize reason + 45; omega)
  | uncertain reason =>
    have h := size_object [("state", .string (HardwareState.uncertain reason).kind), ("reason", .string reason)]
    simp only [List.map_cons, List.map_nil, List.sum_cons, List.sum_nil, hreason, Value.size] at h
    exact Nat.le_trans h (by change _ ≤ textSize reason + 45; omega)

/-- No text of a readback is longer than this. -/
def ChannelReadback.Within (n : Nat) (readback : ChannelReadback) : Prop :=
  ∀ mismatch, readback.mismatch = some mismatch → textSize mismatch ≤ n

theorem size_readback {readback : ChannelReadback} {n : Nat} (h : readback.Within n) : readback.json.size ≤ n + 110 := by
  have hnames : sizeOfNames ["channel", "mode", "duty", "curve_points_confirmed", "mismatch"] = 65 := rfl
  have hchannel : (Channel.codec.write readback.channel).size ≤ 6 := by cases readback.channel <;> decide
  have hmode : (orNull (fun mode : PwmMode => .string mode.key) readback.mode).size ≤ 12 :=
    size_orNull _ (by omega) fun mode _ => by cases mode <;> decide
  have hduty : (orNull (fun duty : UInt8 => numeral duty.toNat) readback.duty).size ≤ 4 :=
    size_orNull _ (Nat.le_refl 4) fun duty _ => Nat.le_succ_of_le (size_byte duty)
  have hpoints : (orNull (fun points : Nat => numeral (UInt16.ofNat points).toNat) readback.curvePointsConfirmed).size ≤ 5 :=
    size_orNull _ (by omega) fun points _ => size_word _
  have hmismatch : (orNull .string readback.mismatch).size ≤ n + 4 :=
    size_orNull _ (by omega) fun mismatch hmismatch => by
      have := h mismatch hmismatch
      rw [Value.size]
      omega
  refine Nat.le_trans (size_object _) ?_
  simp only [List.map_cons, List.map_nil, List.sum_cons, List.sum_nil, hnames]
  omega

/-- An outcome of at most two channels, none of whose texts is longer than this. -/
structure ApplyOutcome.Within (n : Nat) (outcome : ApplyOutcome) : Prop where
  reason : textSize outcome.hardware.reason ≤ n
  channels : outcome.readback.length ≤ 2
  readback : ∀ entry ∈ outcome.readback, entry.Within n

theorem ApplyOutcome.Within.size {outcome : ApplyOutcome} {n : Nat} (h : outcome.Within n) :
    sizeOfFields outcome.fields ≤ 3 * n + 350 := by
  have hnames : sizeOfNames ["hardware", "writes", "deduplicated", "readback"] = 50 := rfl
  have hhardware := size_hardware outcome.hardware
  have hreason := h.reason
  have hwrites := size_doubleWord (UInt32.ofNat outcome.writes)
  have hdeduplicated := size_bool outcome.deduplicated
  have hreadback := @size_array _ ChannelReadback.json _ outcome.readback fun entry hmem =>
    size_readback (h.readback entry hmem)
  have hchannels := Nat.mul_le_mul_right (n + 110 + 1) h.channels
  rw [sizeOfFields_eq, ApplyOutcome.fields]
  simp only [List.map_cons, List.map_nil, List.sum_cons, List.sum_nil, hnames]
  omega

theorem size_rgb (color : Rgb) : color.json.size ≤ 26 := by
  have hnames : sizeOfNames ["r", "g", "b"] = 15 := rfl
  have hr := size_byte color.r
  have hg := size_byte color.g
  have hb := size_byte color.b
  refine Nat.le_trans (size_object _) ?_
  simp only [List.map_cons, List.map_nil, List.sum_cons, List.sum_nil, hnames]
  omega

theorem colors_of_validated {effect : LightingEffect} {colors : List Rgb} {brightness : Brightness}
    {speed : EffectSpeed} {direction : EffectDirection}
    (h : Lighting.validateProgram (.effect effect colors brightness speed direction) = .ok ()) : colors.length ≤ 8 := by
  unfold Lighting.validateProgram at h
  dsimp only at h
  split at h
  · cases h
  · rename_i hcount
    have hrange : effect.colorRange.2 ≤ 8 := by cases effect <;> decide
    exact Nat.le_trans (Decidable.not_not.mp hcount).2 hrange

theorem size_lightingProgram {program : LightingProgram} (h : Lighting.validateProgram program = .ok ()) :
    program.json.size ≤ 400 := by
  have hoff : (LightingProgram.json .off).size ≤ 400 := by decide
  cases program with
  | off => exact hoff
  | fixed color brightness =>
    have hnames : sizeOfNames ["mode", "color", "brightness"] = 31 := rfl
    have hmode : textSize "fixed" = 5 := textSize_literal rfl
    have hcolor := size_rgb color
    have hbrightness := size_byte brightness.percent
    refine Nat.le_trans (size_object _) ?_
    simp only [List.map_cons, List.map_nil, List.sum_cons, List.sum_nil, hnames, Value.size, hmode, Brightness.json]
    omega
  | effect effect colors brightness speed direction =>
    have hnames : sizeOfNames ["mode", "effect", "colors", "brightness", "speed", "direction"] = 64 := rfl
    have hmode : textSize "effect" = 6 := textSize_literal rfl
    have heffect : textSize effect.key ≤ 13 := by cases effect <;> decide
    have hspeed : textSize speed.key ≤ 7 := by cases speed <;> decide
    have hdirection : textSize direction.key ≤ 8 := by cases direction <;> decide
    have hcolors := size_array colors fun color _ => size_rgb color
    have hcount := colors_of_validated h
    have hbrightness := size_byte brightness.percent
    refine Nat.le_trans (size_object _) ?_
    simp only [List.map_cons, List.map_nil, List.sum_cons, List.sum_nil, hnames, Value.size, hmode,
      Brightness.json] at hcolors ⊢
    omega

theorem size_lit {outcome : LightingOutcome} {n : Nat} (h : Lighting.validateProgram outcome.program = .ok ())
    (hreason : textSize outcome.hardware.reason ≤ n) : sizeOfFields outcome.fields ≤ n + 650 := by
  have hnames : sizeOfNames ["channel", "program", "hardware", "writes", "deduplicated"] = 60 := rfl
  have hchannel := size_byte outcome.channel
  have hprogram := size_lightingProgram h
  have hhardware := size_hardware outcome.hardware
  have hwrites := size_doubleWord (UInt32.ofNat outcome.writes)
  have hdeduplicated := size_bool outcome.deduplicated
  rw [sizeOfFields_eq, LightingOutcome.fields]
  simp only [List.map_cons, List.map_nil, List.sum_cons, List.sum_nil, hnames]
  omega

theorem size_shown {outcome : DisplayOutcome} {n : Nat} (hreason : textSize outcome.hardware.reason ≤ n) :
    sizeOfFields outcome.fields ≤ outcome.preset.json.size + n + 150 := by
  have hnames : sizeOfNames ["preset", "hardware", "frames", "deduplicated", "brightness_sent"] = 67 := rfl
  have hhardware := size_hardware outcome.hardware
  have hframes := size_doubleWord (UInt32.ofNat outcome.frames)
  have hdeduplicated := size_bool outcome.deduplicated
  have hsent := size_bool outcome.brightnessSent
  rw [sizeOfFields_eq, DisplayOutcome.fields]
  simp only [List.map_cons, List.map_nil, List.sum_cons, List.sum_nil, hnames]
  omega

theorem size_activated {outcome : ActivationOutcome} {applied : ApplyOutcome} {n : Nat}
    (happlied : outcome.applied = some applied) (h : applied.Within n) (hhardware : outcome.hardware = applied.hardware) :
    sizeOfFields outcome.fields ≤ textSize outcome.name + 4 * n + 450 := by
  have hnames : sizeOfNames ["name", "hardware", "applied"] = 31 := rfl
  have hsize := h.size
  have hstate := size_hardware outcome.hardware
  have hreason : textSize outcome.hardware.reason ≤ n := hhardware ▸ h.reason
  have hwritten : (orNull (fun applied : ApplyOutcome => .object applied.fields) outcome.applied).size ≤ 3 * n + 352 := by
    rw [happlied]
    change Value.size (.object applied.fields) ≤ _
    rw [Value.size]
    omega
  rw [sizeOfFields_eq, ActivationOutcome.fields]
  simp only [List.map_cons, List.map_nil, List.sum_cons, List.sum_nil, hnames, Value.size]
  omega

end Kori
