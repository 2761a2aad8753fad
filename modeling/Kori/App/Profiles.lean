import Kori.App.Cooling.Held
import Kori.App.Display
import Kori.App.Lighting

/-! # The profile the screens save -/

open Faulty

namespace Kori

/-- The three screens, in a state they can be brought to. -/
structure Screens where
  cooling : CoolingEditor
  lighting : LightingEditor
  lcd : DisplayEditor
  held : ∃ earlier, CoolingEditor.Held (cooling :: earlier)

/-- What the window calls a profile saved in a mode, when so many are published. -/
def generatedName (mode : CoolingMode) (count : Nat) : String :=
  String.ofList ((s!"{mode.label} {count}").toList.take 48)

namespace Screens

/-- The pending state of the whole machine. A channel whose color is mid-edit is left out. -/
def savedProfile (published : List Profile) (panelEnabled : Bool) (screens : Screens) : Profile :=
  { name := generatedName screens.cooling.mode published.length
    program := screens.cooling.program
    device := some KRAKEN_BASE
    lighting := screens.lighting.channels.filterMap fun editor =>
      editor.program.toOption.map fun program => { channel := editor.channel, program }
    display := if panelEnabled then screens.lcd.preset.toOption else none }

/-- A window that holds the three screens. -/
structure ShownBy (screens : Screens) (shell : Shell) : Prop where
  cooling : shell.cooling = screens.cooling
  lighting : shell.lighting = screens.lighting.channels.map ChannelEditor.row
  lcd : shell.lcd = screens.lcd.preset.toOption

theorem ShownBy.savedProfile {screens : Screens} {shell : Shell} (h : screens.ShownBy shell) (panelEnabled : Bool) :
    shell.savedProfile panelEnabled = screens.savedProfile shell.link.profiles panelEnabled := by
  unfold Shell.savedProfile Screens.savedProfile generatedName
  rw [h.cooling, h.lighting, h.lcd, List.filterMap_map]
  rfl

end Screens

/-! ## Its name -/

theorem label_start (mode : CoolingMode) : ∃ first rest, mode.label.toList = first :: rest ∧
    Text.isWhitespace first = false ∧ mode.label.toList.length ≤ 24 := by
  cases mode <;> exact ⟨_, _, rfl, by decide, by decide⟩

theorem not_whitespace_of_isDigit {c : Char} (h : c.isDigit = true) : Text.isWhitespace c = false := by
  have hc : 48 ≤ c.toNat ∧ c.toNat ≤ 57 := by
    simpa [Char.isDigit, UInt32.le_iff_toNat_le] using h
  unfold Text.isWhitespace
  simp
  omega

theorem toList_generatedName (mode : CoolingMode) (count : Nat) :
    (generatedName mode count).toList =
      mode.label.toList ++ ' ' :: (Nat.toDigits 10 count).take (47 - mode.label.toList.length) := by
  have hspelled : (s!"{mode.label} {count}").toList = mode.label.toList ++ ' ' :: Nat.toDigits 10 count := by
    change (mode.label ++ " " ++ Nat.repr count).toList = _
    rw [String.toList_append, String.toList_append, Nat.toList_repr, List.append_assoc]
    rfl
  obtain ⟨-, -, -, -, hlength⟩ := label_start mode
  have hroom : 48 - mode.label.toList.length = 47 - mode.label.toList.length + 1 := by omega
  unfold generatedName
  rw [String.toList_ofList, hspelled, List.take_append, List.take_of_length_le (by omega), hroom, List.take_succ_cons]

theorem trim_of_ends {first last : Char} {middle : List Char} (hfirst : Text.isWhitespace first = false)
    (hlast : Text.isWhitespace last = false) :
    Text.trim (first :: middle ++ [last]) = first :: middle ++ [last] := by
  have hdrop : (first :: middle ++ [last]).dropWhile Text.isWhitespace = first :: middle ++ [last] := by
    rw [List.cons_append, List.dropWhile_cons, hfirst]
    rfl
  unfold Text.trim
  rw [hdrop, List.rdropWhile_concat_neg]
  simp [hlast]

theorem validateName_generatedName (mode : CoolingMode) (count : Nat) :
    validateName (generatedName mode count) = .ok () := by
  obtain ⟨first, rest, hlabel, hfirst, hlength⟩ := label_start mode
  have hname := toList_generatedName mode count
  have hroom : ∃ k, 47 - mode.label.toList.length = k + 1 := ⟨46 - mode.label.toList.length, by omega⟩
  obtain ⟨k, hk⟩ := hroom
  -- The number is cut off at worst, and what is left of it still ends in a digit.
  have hdigits : (Nat.toDigits 10 count).take (k + 1) ≠ [] := by
    simp [Nat.toDigits_ne_nil]
  obtain ⟨digits, last, hlast⟩ := (List.eq_nil_or_concat' _).resolve_left hdigits
  have hdigit : last.isDigit = true := by
    have hmem : last ∈ (Nat.toDigits 10 count).take (k + 1) := by simp [hlast]
    exact Nat.isDigit_of_mem_toDigits (by omega) (by omega) (List.mem_of_mem_take hmem)
  have htext : (generatedName mode count).toList = first :: (rest ++ ' ' :: digits) ++ [last] := by
    rw [hname, hk, hlast, hlabel]
    simp
  have htrim := @trim_of_ends first last (rest ++ ' ' :: digits) hfirst (not_whitespace_of_isDigit hdigit)
  have hbounds : (generatedName mode count).toList.length ≤ 48 := by
    unfold generatedName
    rw [String.toList_ofList, List.length_take]
    omega
  unfold validateName
  rw [htext] at hbounds ⊢
  rw [htrim, if_neg (by simp), if_neg]
  rw [not_not]
  exact ⟨by simp [PROFILE_NAME_MIN_LEN], hbounds⟩

theorem generatedName_ne_safe (mode : CoolingMode) (count : Nat) : generatedName mode count ≠ SAFE_PROFILE_NAME := by
  intro h
  have hlength := congrArg (fun name => (name.toList.take 9)) h
  have hlabel : (generatedName mode count).toList.take 9 = mode.label.toList.take 9 := by
    rw [toList_generatedName, List.take_append_of_le_length]
    cases mode <;> decide
  rw [hlabel] at hlength
  revert hlength
  cases mode <;> decide

/-! ## Its contents -/

theorem DisplayEditor.preset_valid {editor : DisplayEditor} {preset : DisplayPreset} (h : editor.preset = .ok preset) :
    preset.validate = .ok () := by
  unfold DisplayEditor.preset at h
  obtain ⟨readingOne, -, h⟩ := ok_of_bind h
  obtain ⟨fadeOne, -, h⟩ := ok_of_bind h
  obtain ⟨textOne, -, h⟩ := ok_of_bind h
  obtain ⟨readingTwo, -, h⟩ := ok_of_bind h
  obtain ⟨fadeTwo, -, h⟩ := ok_of_bind h
  obtain ⟨textTwo, -, h⟩ := ok_of_bind h
  obtain ⟨background, -, h⟩ := ok_of_bind h
  obtain ⟨brightness, -, h⟩ := ok_of_bind h
  obtain ⟨⟨⟩, hvalid, h⟩ := ok_of_bind h
  rw [← Except.ok.inj h]
  exact hvalid

theorem ok_of_toOption {ε α : Type} {result : Except ε α} {value : α} (h : result.toOption = some value) :
    result = .ok value := by
  cases result with
  | error error => cases h
  | ok other =>
    cases h
    rfl

theorem validateLighting_of_forall {commands : List LightingCommand}
    (h : ∀ command ∈ commands, Lighting.validateProgram command.program = .ok ()) :
    validateLighting commands = .ok () := by
  induction commands with
  | nil => rfl
  | cons command rest ih =>
    rw [List.forall_mem_cons] at h
    unfold validateLighting
    rw [h.1]
    exact ih h.2

/-- Whatever is on the screens, the profile they save is one the daemon stores. -/
theorem Screens.savedProfile_valid (screens : Screens) (published : List Profile) (panelEnabled : Bool) :
    validateProfile (screens.savedProfile published panelEnabled) = .ok () := by
  obtain ⟨earlier, hheld⟩ := screens.held
  have hname := validateName_generatedName screens.cooling.mode published.length
  have hprogram := (hheld.sound screens.cooling List.mem_cons_self).accepted
  have hlighting : validateLighting (screens.savedProfile published panelEnabled).lighting = .ok () := by
    refine validateLighting_of_forall fun command hmem => ?_
    obtain ⟨editor, -, hcommand⟩ := List.mem_filterMap.mp hmem
    obtain ⟨program, hsent, rfl⟩ := Option.map_eq_some_iff.mp hcommand
    exact ChannelEditor.program_valid (ok_of_toOption hsent)
  have hdisplay : ∀ preset, (screens.savedProfile published panelEnabled).display = some preset →
      preset.validate = .ok () := by
    intro preset hpreset
    unfold savedProfile at hpreset
    dsimp only at hpreset
    split at hpreset
    · exact DisplayEditor.preset_valid (ok_of_toOption hpreset)
    · cases hpreset
  unfold validateProfile
  refine CoolingEditor.both_ok.mpr ⟨hname, CoolingEditor.both_ok.mpr ⟨hprogram, CoolingEditor.both_ok.mpr ⟨hlighting, ?_⟩⟩⟩
  split
  · rename_i preset hpreset
    rw [hdisplay preset hpreset]
    rfl
  · rfl

end Kori
