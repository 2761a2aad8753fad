import Kori.Core.Ipc.Sizes
import Kori.Faulty.Reported

/-! # How many bytes a refusal takes -/

open Faulty Value

namespace Kori

def LightingError.size (error : LightingError) : Nat := sizeOfFields (fields.write error)
def DisplayError.size (error : DisplayError) : Nat := sizeOfFields (fields.write error)
def ValidationError.size (error : ValidationError) : Nat := sizeOfFields (fields.write error)
def IpcError.size (error : IpcError) : Nat := sizeOfFields (codec.write error).fields

/-! ## Lighting -/

namespace Lighting

/-- The colors a command carries. -/
def colorCount : LightingProgram → Nat
  | .effect _ colors _ _ _ => colors.length
  | _ => 0

theorem size_channelUnknown (channel available : UInt8) : (LightingError.channelUnknown channel available).size ≤ 60 := by
  have hnames : sizeOfNames ["kind", "channel", "available"] = 32 := rfl
  have hkind : textSize "channel_unknown" = 15 := textSize_literal rfl
  have hchannel := size_byte channel
  have havailable := size_byte available
  change sizeOfFields [("kind", .string "channel_unknown"), ("channel", numeral channel.toNat),
    ("available", numeral available.toNat)] ≤ _
  rw [sizeOfFields_eq]
  simp only [List.map_cons, List.map_nil, List.sum_cons, List.sum_nil, hnames, Value.size, hkind]
  omega

theorem either_validateProgram {program : LightingProgram} (h : colorCount program < 10 ^ 20) :
    Either (fun error => error.size ≤ 150) (fun _ => True) (validateProgram program) := by
  cases program with
  | off => trivial
  | fixed color brightness => trivial
  | effect effect colors brightness speed direction =>
    have hlabel : textSize effect.label ≤ 13 := by cases effect <;> decide
    unfold validateProgram
    dsimp only
    split
    · have hnames : sizeOfNames ["kind", "effect", "min", "max", "actual"] = 42 := rfl
      have hkind : textSize "color_count" = 11 := textSize_literal rfl
      have hmin : (numeral effect.colorRange.1).size ≤ 1 := by cases effect <;> decide
      have hmax : (numeral effect.colorRange.2).size ≤ 1 := by cases effect <;> decide
      have hactual : (numeral colors.length).size ≤ 20 := size_numeral (by omega) h
      change sizeOfFields [("kind", .string "color_count"), ("effect", .string effect.label),
        ("min", numeral effect.colorRange.1), ("max", numeral effect.colorRange.2),
        ("actual", numeral colors.length)] ≤ _
      rw [sizeOfFields_eq]
      simp only [List.map_cons, List.map_nil, List.sum_cons, List.sum_nil, hnames, Value.size, hkind]
      omega
    · split
      · have hnames : sizeOfNames ["kind", "effect"] = 18 := rfl
        have hkind : textSize "direction_unsupported" = 21 := textSize_literal rfl
        change sizeOfFields [("kind", .string "direction_unsupported"), ("effect", .string effect.label)] ≤ _
        rw [sizeOfFields_eq]
        simp only [List.map_cons, List.map_nil, List.sum_cons, List.sum_nil, hnames, Value.size, hkind]
        omega
      · trivial

theorem either_validateCommand {command : LightingCommand} (channelCount : UInt8)
    (h : colorCount command.program < 10 ^ 20) :
    Either (fun error => error.size ≤ 150) (fun _ => True) (validateCommand command channelCount) := by
  unfold validateCommand
  split
  · exact Nat.le_trans (size_channelUnknown _ _) (by omega)
  · exact either_validateProgram h

end Lighting

/-! ## The panel -/

/-- The bytes of the path a preset carries. -/
def DisplayPreset.pathBytes (preset : DisplayPreset) : Nat := (preset.image.map String.utf8ByteSize).getD 0

theorem DisplayPreset.either_validate {preset : DisplayPreset} (h : preset.pathBytes < 10 ^ 20) :
    Either (fun error => error.size ≤ 100) (fun _ => True) preset.validate := by
  have hmissing : DisplayError.imagePathMissing.size ≤ 100 := by decide
  unfold validate
  split
  · trivial
  · split
    · exact hmissing
    · rename_i path hpath
      split
      · have hnames : sizeOfNames ["kind", "bytes", "max_bytes"] = 30 := rfl
        have hkind : textSize "image_path_too_long" = 19 := textSize_literal rfl
        have hmax : (numeral MAX_IMAGE_PATH_BYTES).size = 4 := rfl
        have himage : preset.image = some path := (Option.filter_eq_some_iff.mp hpath).1
        have hbytes : (numeral path.utf8ByteSize).size ≤ 20 := by
          refine size_numeral (by omega) ?_
          unfold pathBytes at h
          rw [himage] at h
          exact h
        change sizeOfFields [("kind", .string "image_path_too_long"), ("bytes", numeral path.utf8ByteSize),
          ("max_bytes", numeral MAX_IMAGE_PATH_BYTES)] ≤ _
        rw [sizeOfFields_eq]
        simp only [List.map_cons, List.map_nil, List.sum_cons, List.sum_nil, hnames, Value.size, hkind]
        omega
      · trivial

/-! ## Profiles -/

theorem size_channel (channel : Channel) : (Channel.codec.write channel).size ≤ 6 := by
  cases channel <;> decide

/-- A refusal of a duty or a point, in bytes and in words. -/
def ValidationError.Short (error : ValidationError) : Prop := error.size ≤ 250 ∧ textSize error.message ≤ 250

theorem textSize_label (channel : Channel) : textSize channel.label ≤ 4 := by
  cases channel <;> decide

theorem textSize_byte (n : UInt8) : textSize (toString n.toNat) ≤ 18 :=
  @textSize_toString _ 3 (by omega) (Nat.lt_trans n.toNat_lt (by decide))

theorem short_dutyOutOfRange (channel : Channel) (value min max : UInt8) :
    (ValidationError.dutyOutOfRange channel value min max).Short := by
  constructor
  · have hnames : sizeOfNames ["kind", "channel", "value", "min", "max"] = 42 := rfl
    have hkind : textSize "duty_out_of_range" = 17 := textSize_literal rfl
    have hchannel := size_channel channel
    have hvalue := size_byte value
    have hmin := size_byte min
    have hmax := size_byte max
    change sizeOfFields [("kind", .string "duty_out_of_range"), ("channel", Channel.codec.write channel),
      ("value", numeral value.toNat), ("min", numeral min.toNat), ("max", numeral max.toNat)] ≤ _
    rw [sizeOfFields_eq]
    simp only [List.map_cons, List.map_nil, List.sum_cons, List.sum_nil, hnames, Value.size, hkind]
    omega
  · have hduty : textSize " duty " = 6 := textSize_literal rfl
    have hrange : textSize " is outside the accepted range " = 31 := textSize_literal rfl
    have hdash : textSize "-" = 1 := textSize_literal rfl
    have hdot : textSize "." = 1 := textSize_literal rfl
    have hlabel := textSize_label channel
    have hvalue := textSize_byte value
    have hmin := textSize_byte min
    have hmax := textSize_byte max
    change textSize (channel.label ++ " duty " ++ toString value.toNat ++ " is outside the accepted range " ++
      toString min.toNat ++ "-" ++ toString max.toNat ++ ".") ≤ _
    simp only [textSize_append]
    omega

theorem short_curveDutyOutOfRange (channel : Channel) (temperatureC value min max : UInt8) :
    (ValidationError.curveDutyOutOfRange channel temperatureC value min max).Short := by
  constructor
  · have hnames : sizeOfNames ["kind", "channel", "temperature_c", "value", "min", "max"] = 59 := rfl
    have hkind : textSize "curve_duty_out_of_range" = 23 := textSize_literal rfl
    have hchannel := size_channel channel
    have htemperature := size_byte temperatureC
    have hvalue := size_byte value
    have hmin := size_byte min
    have hmax := size_byte max
    change sizeOfFields [("kind", .string "curve_duty_out_of_range"), ("channel", Channel.codec.write channel),
      ("temperature_c", numeral temperatureC.toNat), ("value", numeral value.toNat), ("min", numeral min.toNat),
      ("max", numeral max.toNat)] ≤ _
    rw [sizeOfFields_eq]
    simp only [List.map_cons, List.map_nil, List.sum_cons, List.sum_nil, hnames, Value.size, hkind]
    omega
  · have hduty : textSize " curve duty at " = 15 := textSize_literal rfl
    have his : textSize " C is " = 6 := textSize_literal rfl
    have houtside : textSize ", outside the " = 14 := textSize_literal rfl
    have hrange : textSize "accepted range " = 15 := textSize_literal rfl
    have hdash : textSize "-" = 1 := textSize_literal rfl
    have hdot : textSize "." = 1 := textSize_literal rfl
    have hlabel := textSize_label channel
    have htemperature := textSize_byte temperatureC
    have hvalue := textSize_byte value
    have hmin := textSize_byte min
    have hmax := textSize_byte max
    change textSize (channel.label ++ " curve duty at " ++ toString temperatureC.toNat ++ " C is " ++
      toString value.toNat ++ ", outside the " ++ ("accepted range " ++ toString min.toNat ++ "-" ++
        toString max.toNat ++ ".")) ≤ _
    simp only [textSize_append]
    omega

theorem short_curveNotMonotonic (channel : Channel) (previous previousTemperatureC value temperatureC : UInt8) :
    (ValidationError.curveNotMonotonic channel previous previousTemperatureC value temperatureC).Short := by
  constructor
  · have hnames : sizeOfNames ["kind", "channel", "previous", "previous_temperature_c", "value", "temperature_c"] = 83 :=
      rfl
    have hkind : textSize "curve_not_monotonic" = 19 := textSize_literal rfl
    have hchannel := size_channel channel
    have hprevious := size_byte previous
    have hearlier := size_byte previousTemperatureC
    have hvalue := size_byte value
    have htemperature := size_byte temperatureC
    change sizeOfFields [("kind", .string "curve_not_monotonic"), ("channel", Channel.codec.write channel),
      ("previous", numeral previous.toNat), ("previous_temperature_c", numeral previousTemperatureC.toNat),
      ("value", numeral value.toNat), ("temperature_c", numeral temperatureC.toNat)] ≤ _
    rw [sizeOfFields_eq]
    simp only [List.map_cons, List.map_nil, List.sum_cons, List.sum_nil, hnames, Value.size, hkind]
    omega
  · have hnever : textSize " curve duty must never decrease as temperature rises: " = 54 := textSize_literal rfl
    have hat : textSize " at " = 4 := textSize_literal rfl
    have hthen : textSize " C then " = 8 := textSize_literal rfl
    have hend : textSize " C." = 3 := textSize_literal rfl
    have hlabel := textSize_label channel
    have hprevious := textSize_byte previous
    have hearlier := textSize_byte previousTemperatureC
    have hvalue := textSize_byte value
    have htemperature := textSize_byte temperatureC
    change textSize (channel.label ++ " curve duty must never decrease as temperature rises: " ++
      toString previous.toNat ++ " at " ++ (toString previousTemperatureC.toNat ++ " C then " ++ toString value.toNat ++
        " at " ++ toString temperatureC.toNat ++ " C.")) ≤ _
    simp only [textSize_append]
    omega

theorem either_validateDuty (channel : Channel) (value : UInt8) :
    Either ValidationError.Short (fun _ => True) (validateDuty channel value) := by
  unfold validateDuty
  split
  · exact short_dutyOutOfRange ..
  · trivial

theorem either_validatePoints (channel : Channel) (curve : TemperatureCurve) (rest : List (Fin CURVE_POINT_COUNT))
    (previous : Option (UInt8 × UInt8)) :
    Either ValidationError.Short (fun _ => True) (validatePoints channel curve rest previous) := by
  induction rest generalizing previous with
  | nil => trivial
  | cons index rest ih =>
    simp only [validatePoints]
    split
    · exact short_curveDutyOutOfRange ..
    · split
      · split
        · exact short_curveNotMonotonic ..
        · exact ih _
      · exact ih _

theorem either_validateProgram (program : CoolingProgram) :
    Either ValidationError.Short (fun _ => True) (validateProgram program) := by
  cases program with
  | onboard => trivial
  | fixed pump fan => exact either_bind (either_validateDuty .pump pump) fun _ _ => either_validateDuty .fan fan
  | curve pump fan =>
    exact either_bind (either_validatePoints .pump pump _ _) fun _ _ => either_validatePoints .fan fan _ _

theorem either_validateName (name : String) :
    Either (fun error => error.size ≤ 250) (fun _ => name.length ≤ PROFILE_NAME_MAX_LEN) (validateName name) := by
  have hblank : ValidationError.nameBlank.size ≤ 250 := by decide
  have hlength : (ValidationError.nameLength PROFILE_NAME_MIN_LEN PROFILE_NAME_MAX_LEN).size ≤ 250 := by decide
  unfold validateName
  dsimp only
  split
  · exact hblank
  · split
    · exact hlength
    · rename_i hrange
      rw [← String.length_toList]
      exact (Decidable.not_not.mp hrange).2

theorem either_validateLighting {commands : List LightingCommand}
    (h : ∀ command ∈ commands, Lighting.colorCount command.program < 10 ^ 20) :
    Either (fun error => error.size ≤ 250) (fun _ => True) (validateLighting commands) := by
  induction commands with
  | nil => trivial
  | cons command rest ih =>
    have hcommand := Lighting.either_validateProgram (h command List.mem_cons_self)
    have hrest := ih fun other hmem => h other (List.mem_cons_of_mem _ hmem)
    rw [validateLighting]
    cases hvalid : Lighting.validateProgram command.program with
    | ok => exact hrest
    | error source =>
      rw [hvalid] at hcommand
      have hnames : sizeOfNames ["kind", "channel", "source"] = 29 := rfl
      have hkind : textSize "lighting" = 8 := textSize_literal rfl
      have hchannel := size_byte command.channel
      have hsource : source.size ≤ 150 := hcommand
      unfold LightingError.size at hsource
      change sizeOfFields [("kind", .string "lighting"), ("channel", numeral command.channel.toNat),
        ("source", .object (LightingError.fields.write source))] ≤ _
      rw [sizeOfFields_eq]
      simp only [List.map_cons, List.map_nil, List.sum_cons, List.sum_nil, hnames, Value.size, hkind]
      omega

/-- What a profile carries is counted in machine words. -/
structure Profile.Counted (profile : Profile) : Prop where
  colors : ∀ command ∈ profile.lighting, Lighting.colorCount command.program < 10 ^ 20
  path : ∀ preset, profile.display = some preset → preset.pathBytes < 10 ^ 20

theorem either_validateProfile {profile : Profile} (h : profile.Counted) :
    Either (fun error => error.size ≤ 250) (fun _ => profile.name.length ≤ PROFILE_NAME_MAX_LEN)
      (validateProfile profile) := by
  refine either_bind (either_validateName profile.name) fun _ hname => ?_
  refine either_bind (either_mono (either_validateProgram profile.program) (fun _ h => h.1) fun _ h => h) fun _ _ => ?_
  refine either_bind (either_validateLighting h.colors) fun _ _ => ?_
  cases hdisplay : profile.display with
  | none => exact hname
  | some preset =>
    have hvalidate := preset.either_validate (h.path preset hdisplay)
    dsimp only
    cases hvalid : preset.validate with
    | ok => exact hname
    | error source =>
      rw [hvalid] at hvalidate
      have hnames : sizeOfNames ["kind", "source"] = 18 := rfl
      have hkind : textSize "display" = 7 := textSize_literal rfl
      have hsource : source.size ≤ 100 := hvalidate
      unfold DisplayError.size at hsource
      change sizeOfFields [("kind", .string "display"), ("source", .object (DisplayError.fields.write source))] ≤ 250
      rw [sizeOfFields_eq]
      simp only [List.map_cons, List.map_nil, List.sum_cons, List.sum_nil, hnames, Value.size, hkind]
      omega

/-! ## Every refusal of the protocol -/

namespace IpcError

theorem size_unsupportedProtocol {requested : Nat} (h : requested < 2 ^ 32) :
    (unsupportedProtocol requested PROTOCOL_VERSION).size ≤ 100 := by
  have hnames : sizeOfNames ["error", "requested", "supported"] = 35 := rfl
  have hkind : textSize "unsupported_protocol" = 20 := textSize_literal rfl
  have hsupported : (numeral PROTOCOL_VERSION).size = 1 := rfl
  have hrequested : (numeral requested).size ≤ 10 := size_numeral (by omega) (Nat.lt_trans h (by decide))
  change sizeOfFields [("error", .string "unsupported_protocol"), ("requested", numeral requested),
    ("supported", numeral PROTOCOL_VERSION)] ≤ _
  rw [sizeOfFields_eq]
  simp only [List.map_cons, List.map_nil, List.sum_cons, List.sum_nil, hnames, Value.size, hkind]
  omega

theorem size_validation (source : ValidationError) : (validation source).size = source.size + 21 := by
  have hname : textSize "error" = 5 := textSize_literal rfl
  have hkind : textSize "validation" = 10 := textSize_literal rfl
  change sizeOfFields (("error", .string "validation") :: ValidationError.fields.write source) = _
  rw [sizeOfFields, Value.size, hname, hkind, ValidationError.size]
  omega

theorem size_lighting (source : LightingError) : (lighting source).size = source.size + 19 := by
  have hname : textSize "error" = 5 := textSize_literal rfl
  have hkind : textSize "lighting" = 8 := textSize_literal rfl
  change sizeOfFields (("error", .string "lighting") :: LightingError.fields.write source) = _
  rw [sizeOfFields, Value.size, hname, hkind, LightingError.size]
  omega

theorem size_display (source : DisplayError) : (display source).size = source.size + 18 := by
  have hname : textSize "error" = 5 := textSize_literal rfl
  have hkind : textSize "display" = 7 := textSize_literal rfl
  change sizeOfFields (("error", .string "display") :: DisplayError.fields.write source) = _
  rw [sizeOfFields, Value.size, hname, hkind, DisplayError.size]
  omega

theorem size_readOnly (reason : String) : (readOnly reason).size = textSize reason + 32 := by
  have hnames : sizeOfNames ["error", "reason"] = 19 := rfl
  have hkind : textSize "read_only" = 9 := textSize_literal rfl
  change sizeOfFields [("error", .string "read_only"), ("reason", .string reason)] = _
  rw [sizeOfFields_eq]
  simp only [List.map_cons, List.map_nil, List.sum_cons, List.sum_nil, hnames, Value.size, hkind]
  omega

theorem size_profileNotFound (name : String) : (profileNotFound name).size = textSize name + 38 := by
  have hnames : sizeOfNames ["error", "name"] = 17 := rfl
  have hkind : textSize "profile_not_found" = 17 := textSize_literal rfl
  change sizeOfFields [("error", .string "profile_not_found"), ("name", .string name)] = _
  rw [sizeOfFields_eq]
  simp only [List.map_cons, List.map_nil, List.sum_cons, List.sum_nil, hnames, Value.size, hkind]
  omega

theorem size_io (detail : String) : (io detail).size = textSize detail + 25 := by
  have hnames : sizeOfNames ["error", "detail"] = 19 := rfl
  have hkind : textSize "io" = 2 := textSize_literal rfl
  change sizeOfFields [("error", .string "io"), ("detail", .string detail)] = _
  rw [sizeOfFields_eq]
  simp only [List.map_cons, List.map_nil, List.sum_cons, List.sum_nil, hnames, Value.size, hkind]
  omega

theorem size_incompatible {details : List Incompatibility} {n : Nat}
    (h : ∀ incompatibility ∈ details, textSize incompatibility.reason ≤ n) :
    (incompatible details).size ≤ details.length * (n + 49 + 1) + 40 := by
  have hnames : sizeOfNames ["error", "details"] = 20 := rfl
  have hkind : textSize "incompatible" = 12 := textSize_literal rfl
  have hitem : ∀ incompatibility ∈ details, (Incompatibility.codec.write incompatibility).size ≤ n + 49 := by
    intro incompatibility hmem
    have hfields : sizeOfNames ["capability", "reason"] = 24 := rfl
    have hcapability : textSize incompatibility.capability.spelling ≤ 19 := by
      cases incompatibility.capability <;> decide
    have hreason := h incompatibility hmem
    refine Nat.le_trans (size_object [("capability", .string incompatibility.capability.spelling),
      ("reason", .string incompatibility.reason)]) ?_
    simp only [List.map_cons, List.map_nil, List.sum_cons, List.sum_nil, hfields, Value.size]
    omega
  have hdetails := @size_array _ Incompatibility.codec.write _ details hitem
  change sizeOfFields [("error", .string "incompatible"),
    ("details", .array (details.map Incompatibility.codec.write))] ≤ _
  rw [sizeOfFields_eq]
  simp only [List.map_cons, List.map_nil, List.sum_cons, List.sum_nil, hnames, Value.size, hkind] at hdetails ⊢
  omega

end IpcError

end Kori
