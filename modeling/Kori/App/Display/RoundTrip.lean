import Kori.App.Display
import Kori.Core.Lighting.Hex

/-! # What the panel editor sends back of the preset it was loaded from -/

namespace Kori

/-! ## A path that is text -/

namespace Text

theorem displayed_toUTF8 (text : String) : displayed text.toUTF8 = text := by
  have hdecoded : String.fromUTF8? text.toUTF8 = some text := dif_pos text.isValidUTF8
  unfold displayed
  rw [hdecoded]

theorem toUTF8_injective : Function.Injective String.toUTF8 := by
  intro text other h
  rw [← displayed_toUTF8 text, h, displayed_toUTF8]

theorem toUTF8_size_eq_zero {text : String} : text.toUTF8.size = 0 ↔ text = "" := String.utf8ByteSize_eq_zero_iff

end Text

/-! ## The fields of a loaded editor -/

theorem Brightness.new_percent (brightness : Brightness) : Brightness.new brightness.percent = .ok brightness :=
  dif_pos brightness.inRange

namespace DisplayEditor

variable {preset : HeldPreset}

theorem parsedColor_of_toHex {editor : DisplayEditor} {field : DisplayColorField} {color : Rgb}
    (h : editor.colorText field = color.toHex) : editor.parsedColor field = .ok color := by
  unfold parsedColor
  rw [h, Rgb.parseHex_of_digits (Rgb.stripped_toHex color)]
  rfl

/-- The preset as the editor writes it, with this path. -/
def shown (preset : HeldPreset) (image : Option String) : DisplayPreset :=
  { mode := preset.mode
    readings := ({ preset.readings.1 with readingEnd := some preset.readings.1.bandEnd },
      { preset.readings.2 with readingEnd := some preset.readings.2.bandEnd })
    background := preset.background, logo := none, orientation := preset.orientation
    brightness := preset.brightness, image }

theorem preset_fromPreset : (fromPreset preset).preset =
    (shown preset (fromPreset preset).image).validate.map fun _ => shown preset (fromPreset preset).image := by
  have hreadingOne : (fromPreset preset).parsedColor .readingOne = .ok preset.readings.1.reading :=
    parsedColor_of_toHex rfl
  have hfadeOne : (fromPreset preset).parsedColor .fadeOne = .ok preset.readings.1.bandEnd :=
    parsedColor_of_toHex rfl
  have htextOne : (fromPreset preset).parsedColor .textOne = .ok preset.readings.1.text :=
    parsedColor_of_toHex rfl
  have hreadingTwo : (fromPreset preset).parsedColor .readingTwo = .ok preset.readings.2.reading :=
    parsedColor_of_toHex rfl
  have hfadeTwo : (fromPreset preset).parsedColor .fadeTwo = .ok preset.readings.2.bandEnd :=
    parsedColor_of_toHex rfl
  have htextTwo : (fromPreset preset).parsedColor .textTwo = .ok preset.readings.2.text :=
    parsedColor_of_toHex rfl
  have hbackground : (fromPreset preset).parsedColor .background = .ok preset.background :=
    parsedColor_of_toHex rfl
  have hbrightness : Brightness.new (fromPreset preset).brightness = .ok preset.brightness :=
    Brightness.new_percent preset.brightness
  unfold DisplayEditor.preset
  rw [hreadingOne, hfadeOne, htextOne, hreadingTwo, hfadeTwo, htextTwo, hbackground, hbrightness]
  change (do (shown preset (fromPreset preset).image).validate; return shown preset (fromPreset preset).image) = _
  cases (shown preset (fromPreset preset).image).validate <;> rfl

theorem shown_of_preset {q : DisplayPreset} (h : (fromPreset preset).preset = .ok q) :
    q = shown preset (fromPreset preset).image := by
  rw [preset_fromPreset] at h
  cases hvalid : (shown preset (fromPreset preset).image).validate with
  | error error =>
    rw [hvalid] at h
    cases h
  | ok =>
    rw [hvalid] at h
    exact (Except.ok.inj h).symm

theorem image_of_other (h : preset.mode.usesImage = false) : (fromPreset preset).image = none := by
  have hmode : (fromPreset preset).mode.usesImage = false := h
  unfold image
  rw [if_pos (by simp [hmode])]

theorem image_of_path {path : ByteArray} (hmode : preset.mode.usesImage = true) (himage : preset.image = some path) :
    (fromPreset preset).image =
      (some (String.ofList (Text.trim (Text.displayed path).toList))).filter (· ≠ "") := by
  have huses : (fromPreset preset).mode.usesImage = true := hmode
  have hpath : (fromPreset preset).imagePath = Text.displayed path := by
    unfold fromPreset
    rw [himage]
    rfl
  unfold image
  rw [if_neg (by simp [huses]), hpath]

end DisplayEditor

/-! ## The path of an accepted preset -/

theorem DisplayPreset.validate_of_path {preset : DisplayPreset} {text : String} (himage : preset.image = some text)
    (hne : text ≠ "") (hlong : text.utf8ByteSize ≤ MAX_IMAGE_PATH_BYTES) : preset.validate = .ok () := by
  have hfilter : preset.image.filter (· ≠ "") = some text := by simp [himage, hne]
  unfold validate
  split
  · rfl
  · rw [hfilter]
    exact if_neg (Nat.not_lt.mpr hlong)

theorem DisplayPreset.held_injective : Function.Injective DisplayPreset.held := by
  intro preset other h
  cases preset
  cases other
  simp only [DisplayPreset.held, HeldPreset.mk.injEq] at h
  obtain ⟨rfl, rfl, rfl, rfl, rfl, rfl, himage⟩ := h
  rw [Option.map_injective Text.toUTF8_injective himage]

namespace HeldPreset

variable {preset : HeldPreset}

/-- The preset with every band shaded, no wordmark, and a path only where it is shown. -/
def normal (preset : HeldPreset) : HeldPreset :=
  { preset with
    readings := ({ preset.readings.1 with readingEnd := some preset.readings.1.bandEnd },
      { preset.readings.2 with readingEnd := some preset.readings.2.bandEnd })
    logo := none
    image := if preset.mode.usesImage then preset.image else none }

/-- The path of an image is text, and no white space stands at its ends. -/
def Typeable (preset : HeldPreset) : Prop :=
  preset.mode.usesImage = true → ∃ text : String, preset.image = some text.toUTF8 ∧ Text.trim text.toList = text.toList

theorem path_of_validate (h : preset.validate = .ok ()) (hmode : preset.mode.usesImage = true) :
    ∃ path, preset.image = some path ∧ path.size ≠ 0 ∧ path.size ≤ MAX_IMAGE_PATH_BYTES := by
  unfold validate at h
  rw [if_neg (by simp [hmode])] at h
  split at h
  · cases h
  · rename_i path hpath
    obtain ⟨himage, hsize⟩ := Option.filter_eq_some_iff.mp hpath
    split at h
    · cases h
    · rename_i hlong
      exact ⟨path, himage, by simpa using hsize, Nat.le_of_not_lt hlong⟩

theorem normal_normal : preset.normal.normal = preset.normal := by
  unfold normal
  cases preset.mode.usesImage <;> rfl

theorem validate_normal (h : preset.validate = .ok ()) : preset.normal.validate = .ok () := by
  have hmode : preset.normal.mode = preset.mode := rfl
  cases huses : preset.mode.usesImage with
  | false =>
    unfold validate
    rw [hmode, huses]
    rfl
  | true =>
    have himage : preset.normal.image = preset.image := by
      unfold normal
      exact if_pos huses
    unfold validate
    rw [hmode, himage]
    exact h

theorem Typeable.normal (h : preset.Typeable) : preset.normal.Typeable := by
  intro hmode
  have huses : preset.mode.usesImage = true := hmode
  obtain ⟨text, himage, htrim⟩ := h huses
  refine ⟨text, ?_, htrim⟩
  unfold HeldPreset.normal
  rw [← himage]
  exact if_pos huses

theorem Typeable.sent_back (h : preset.Typeable) (hvalid : preset.validate = .ok ()) :
    ∃ q : DisplayPreset, (DisplayEditor.fromPreset preset).preset = .ok q ∧ q.held = preset.normal := by
  cases hmode : preset.mode.usesImage with
  | false =>
    refine ⟨DisplayEditor.shown preset none, ?_, ?_⟩
    · rw [DisplayEditor.preset_fromPreset, DisplayEditor.image_of_other hmode]
      have hok : (DisplayEditor.shown preset none).validate = .ok () :=
        if_pos (by simp [DisplayEditor.shown, hmode])
      rw [hok]
      rfl
    · unfold HeldPreset.normal DisplayPreset.held DisplayEditor.shown
      rw [hmode]
      rfl
  | true =>
    obtain ⟨path, himage, hsize, hlong⟩ := path_of_validate hvalid hmode
    obtain ⟨text, htext, htrim⟩ := h hmode
    obtain rfl := Option.some.inj (himage.symm.trans htext)
    have hne : text ≠ "" := fun hempty => hsize (Text.toUTF8_size_eq_zero.mpr hempty)
    have hpath : (DisplayEditor.fromPreset preset).image = some text := by
      rw [DisplayEditor.image_of_path hmode himage, Text.displayed_toUTF8, htrim, String.ofList_toList]
      simp [hne]
    refine ⟨DisplayEditor.shown preset (some text), ?_, ?_⟩
    · have hok : (DisplayEditor.shown preset (some text)).validate = .ok () :=
        DisplayPreset.validate_of_path rfl hne hlong
      rw [DisplayEditor.preset_fromPreset, hpath, hok]
      rfl
    · unfold HeldPreset.normal DisplayPreset.held DisplayEditor.shown
      rw [hmode, himage]
      rfl

theorem typeable_of_preset {q : DisplayPreset} (hvalid : preset.validate = .ok ())
    (hq : (DisplayEditor.fromPreset preset).preset = .ok q) (h : q.held = preset.normal) : preset.Typeable := by
  intro hmode
  obtain ⟨path, himage, -, -⟩ := path_of_validate hvalid hmode
  have hshown := DisplayEditor.shown_of_preset hq
  have hbytes : q.image.map String.toUTF8 = some path := by
    have hsame := congrArg HeldPreset.image h
    unfold normal at hsame
    rw [hmode, himage] at hsame
    exact hsame
  obtain ⟨text, hsent, rfl⟩ := Option.map_eq_some_iff.mp hbytes
  rw [hshown] at hsent
  have htrimmed : (some (String.ofList (Text.trim text.toList))).filter (· ≠ "") = some text := by
    rw [← hsent]
    unfold DisplayEditor.shown
    rw [DisplayEditor.image_of_path hmode himage, Text.displayed_toUTF8]
  obtain ⟨htext, -⟩ := Option.filter_eq_some_iff.mp htrimmed
  refine ⟨text, himage, ?_⟩
  rw [← String.toList_ofList (l := Text.trim text.toList), Option.some.inj htext]

/-- The preset the editor sends back is the one it was loaded from just when its path is typeable; then
it sends that one back for ever. -/
theorem sent_back_iff (h : preset.validate = .ok ()) :
    (∃ q : DisplayPreset, (DisplayEditor.fromPreset preset).preset = .ok q ∧ q.held = preset.normal ∧
      (DisplayEditor.fromPreset q.held).preset = .ok q) ↔ preset.Typeable := by
  constructor
  · rintro ⟨q, hq, hheld, -⟩
    exact typeable_of_preset h hq hheld
  · intro htypeable
    obtain ⟨q, hq, hheld⟩ := htypeable.sent_back h
    refine ⟨q, hq, hheld, ?_⟩
    obtain ⟨again, hagain, hsame⟩ := htypeable.normal.sent_back (validate_normal h)
    rw [normal_normal, ← hheld] at hsame
    rw [hheld, hagain, DisplayPreset.held_injective hsame]

/-- A preset that shows the file at a path. -/
def showing (path : String) : HeldPreset :=
  { DisplayPreset.defaultInfographic.held with mode := .image, image := some path.toUTF8 }

theorem sent_back_image : ∃ q : DisplayPreset, (DisplayEditor.fromPreset (showing "/a b.png")).preset = .ok q ∧
    q.held = (showing "/a b.png").normal ∧ (DisplayEditor.fromPreset q.held).preset = .ok q :=
  (sent_back_iff (by decide)).mpr fun _ => ⟨"/a b.png", rfl, by decide⟩

/-- A path that ends in a space names another file, and one of spaces names none. -/
theorem trimmed_path_sent_back :
    (showing "/a.png ").validate = .ok () ∧
      (DisplayEditor.fromPreset (showing "/a.png ")).preset.map (·.image) = .ok (some "/a.png") ∧
      (¬ ∃ q : DisplayPreset, (DisplayEditor.fromPreset (showing "/a.png ")).preset = .ok q ∧
        q.held = (showing "/a.png ").normal ∧ (DisplayEditor.fromPreset q.held).preset = .ok q) ∧
      (showing " ").validate = .ok () ∧
      (DisplayEditor.fromPreset (showing " ")).preset = .error .imagePathMissing := by
  refine ⟨by decide, by decide, ?_, by decide, by decide⟩
  rintro ⟨q, hq, hheld, -⟩
  obtain ⟨text, himage, htrim⟩ := typeable_of_preset (by decide) hq hheld rfl
  obtain rfl := Text.toUTF8_injective (Option.some.inj himage)
  revert htrim
  decide

end HeldPreset

end Kori
