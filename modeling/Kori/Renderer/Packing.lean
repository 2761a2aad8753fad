import Kori.Hardware.Lcd
import Kori.Renderer.Turns

/-! # The bytes the panel is sent are the colors the preview shows -/

open Faulty

namespace Kori

/-! ## One color -/

/-- The color two bytes carry. -/
def Rgb.ofRgb565Be (high low : UInt8) : Rgb :=
  let packed := (high.toUInt16 <<< 8) ||| low.toUInt16
  { r := (packed >>> 11).toUInt8 <<< 3
    g := ((packed >>> 5) &&& 0x3f).toUInt8 <<< 2
    b := (packed &&& 0x1f).toUInt8 <<< 3 }

theorem or_of_lt {a b : Nat} (i : Nat) (h : b < 2 ^ i) : (a <<< i) ||| b = a * 2 ^ i + b := by
  rw [← Nat.shiftLeft_add_eq_or_of_lt h, Nat.shiftLeft_eq]

theorem toNat_joined (high low : UInt8) :
    ((high.toUInt16 <<< 8) ||| low.toUInt16).toNat = high.toNat * 256 + low.toNat := by
  have hhigh := high.toNat_lt
  have hlow := low.toNat_lt
  have h8 : (8 : UInt16).toNat % 16 = 8 := rfl
  have hshift : high.toNat <<< 8 % 2 ^ 16 = high.toNat <<< 8 := by
    rw [Nat.shiftLeft_eq]
    omega
  rw [UInt16.toNat_or, UInt16.toNat_shiftLeft, UInt8.toNat_toUInt16, UInt8.toNat_toUInt16, h8, hshift,
    or_of_lt 8 hlow]
  rfl

theorem toNat_packed {red green blue : UInt16} (hred : red.toNat < 32) (hgreen : green.toNat < 64)
    (hblue : blue.toNat < 32) : ((red <<< 11) ||| (green <<< 5) ||| blue).toNat =
      red.toNat * 2048 + green.toNat * 32 + blue.toNat := by
  have h11 : (11 : UInt16).toNat % 16 = 11 := rfl
  have h5 : (5 : UInt16).toNat % 16 = 5 := rfl
  have hredshift : red.toNat <<< 11 % 2 ^ 16 = red.toNat <<< 11 := by
    rw [Nat.shiftLeft_eq]
    omega
  have hgreenshift : green.toNat <<< 5 % 2 ^ 16 = green.toNat <<< 5 := by
    rw [Nat.shiftLeft_eq]
    omega
  rw [UInt16.toNat_or, UInt16.toNat_or, UInt16.toNat_shiftLeft, UInt16.toNat_shiftLeft, h11, h5, hredshift,
    hgreenshift, Nat.or_assoc, or_of_lt 5 hblue, or_of_lt 11 (by omega)]
  omega

theorem toNat_ofRgb565Be (high low : UInt8) :
    (Rgb.ofRgb565Be high low).r.toNat = (high.toNat * 256 + low.toNat) / 2048 * 8 ∧
    (Rgb.ofRgb565Be high low).g.toNat = (high.toNat * 256 + low.toNat) / 32 % 64 * 4 ∧
    (Rgb.ofRgb565Be high low).b.toNat = (high.toNat * 256 + low.toNat) % 32 * 8 := by
  have hvalue := toNat_joined high low
  have hhigh := high.toNat_lt
  have hlow := low.toNat_lt
  have h3 : (3 : UInt8).toNat % 8 = 3 := rfl
  have h2 : (2 : UInt8).toNat % 8 = 2 := rfl
  have h11 : (11 : UInt16).toNat % 16 = 11 := rfl
  have h5 : (5 : UInt16).toNat % 16 = 5 := rfl
  have hmask6 : (0x3f : UInt16).toNat = 2 ^ 6 - 1 := rfl
  have hmask5 : (0x1f : UInt16).toNat = 2 ^ 5 - 1 := rfl
  unfold Rgb.ofRgb565Be
  simp only [UInt8.toNat_shiftLeft, UInt16.toNat_toUInt8, UInt16.toNat_shiftRight, UInt16.toNat_and, h2, h3, h5, h11,
    hmask5, hmask6, Nat.and_two_pow_sub_one_eq_mod, Nat.shiftLeft_eq, Nat.shiftRight_eq_div_pow, hvalue]
  omega

theorem toNat_quantized (pixel : Rgb) :
    pixel.quantized.r.toNat = pixel.r.toNat / 8 * 8 ∧ pixel.quantized.g.toNat = pixel.g.toNat / 4 * 4 ∧
      pixel.quantized.b.toNat = pixel.b.toNat / 8 * 8 := by
  have hr := pixel.r.toNat_lt
  have hg := pixel.g.toNat_lt
  have hb := pixel.b.toNat_lt
  have h3 : (3 : UInt8).toNat % 8 = 3 := rfl
  have h2 : (2 : UInt8).toNat % 8 = 2 := rfl
  unfold Rgb.quantized
  simp only [UInt8.toNat_shiftLeft, UInt8.toNat_shiftRight, h2, h3, Nat.shiftLeft_eq, Nat.shiftRight_eq_div_pow]
  omega

theorem toRgb565Be_eq (pixel : Rgb) : ∃ high low : UInt8, pixel.toRgb565Be = [high, low] ∧
    high.toNat * 256 + low.toNat = pixel.r.toNat / 8 * 2048 + pixel.g.toNat / 4 * 32 + pixel.b.toNat / 8 := by
  have hr := pixel.r.toNat_lt
  have hg := pixel.g.toNat_lt
  have hb := pixel.b.toNat_lt
  have h3 : (3 : UInt8).toNat % 8 = 3 := rfl
  have h2 : (2 : UInt8).toNat % 8 = 2 := rfl
  have h8 : (8 : UInt16).toNat % 16 = 8 := rfl
  have hred : (pixel.r >>> 3).toUInt16.toNat = pixel.r.toNat / 8 := by
    rw [UInt8.toNat_toUInt16, UInt8.toNat_shiftRight, h3, Nat.shiftRight_eq_div_pow]
  have hgreen : (pixel.g >>> 2).toUInt16.toNat = pixel.g.toNat / 4 := by
    rw [UInt8.toNat_toUInt16, UInt8.toNat_shiftRight, h2, Nat.shiftRight_eq_div_pow]
  have hblue : (pixel.b >>> 3).toUInt16.toNat = pixel.b.toNat / 8 := by
    rw [UInt8.toNat_toUInt16, UInt8.toNat_shiftRight, h3, Nat.shiftRight_eq_div_pow]
  have hpacked := @toNat_packed (pixel.r >>> 3).toUInt16 (pixel.g >>> 2).toUInt16 (pixel.b >>> 3).toUInt16
    (by omega) (by omega) (by omega)
  refine ⟨_, _, rfl, ?_⟩
  rw [UInt16.toNat_toUInt8, UInt16.toNat_toUInt8, UInt16.toNat_shiftRight, h8, Nat.shiftRight_eq_div_pow, hpacked,
    hred, hgreen, hblue]
  omega

theorem ofRgb565Be_toRgb565Be (pixel : Rgb) : ∃ high low : UInt8, pixel.toRgb565Be = [high, low] ∧
    Rgb.ofRgb565Be high low = pixel.quantized := by
  obtain ⟨high, low, hbytes, hvalue⟩ := toRgb565Be_eq pixel
  obtain ⟨hr, hg, hb⟩ := toNat_ofRgb565Be high low
  obtain ⟨hr', hg', hb'⟩ := toNat_quantized pixel
  have hrlt : pixel.r.toNat / 8 < 32 := Nat.div_lt_of_lt_mul pixel.r.toNat_lt
  have hglt : pixel.g.toNat / 4 < 64 := Nat.div_lt_of_lt_mul pixel.g.toNat_lt
  have hblt : pixel.b.toNat / 8 < 32 := Nat.div_lt_of_lt_mul pixel.b.toNat_lt
  rw [hvalue] at hr hg hb
  have hsame : Rgb.ofRgb565Be high low = pixel.quantized := by
    cases hcolor : Rgb.ofRgb565Be high low with
    | mk r g b =>
      cases hshown : pixel.quantized with
      | mk r' g' b' =>
        rw [hcolor] at hr hg hb
        rw [hshown] at hr' hg' hb'
        dsimp only at hr hg hb hr' hg' hb'
        generalize pixel.r.toNat / 8 = five at *
        generalize pixel.g.toNat / 4 = six at *
        generalize pixel.b.toNat / 8 = last at *
        have hred : r = r' := UInt8.toNat_inj.mp (by omega)
        have hgreen : g = g' := UInt8.toNat_inj.mp (by omega)
        have hblue : b = b' := UInt8.toNat_inj.mp (by omega)
        rw [hred, hgreen, hblue]
  exact ⟨high, low, hbytes, hsame⟩

/-! ## A frame -/

/-- The colors some bytes carry, two bytes each. -/
def fromRgb565Be : List UInt8 → List Rgb
  | high :: low :: rest => Rgb.ofRgb565Be high low :: fromRgb565Be rest
  | _ => []

theorem fromRgb565Be_flatMap (pixels : List Rgb) :
    fromRgb565Be (pixels.flatMap Rgb.toRgb565Be) = pixels.map Rgb.quantized := by
  induction pixels with
  | nil => rfl
  | cons pixel pixels ih =>
    obtain ⟨high, low, hbytes, hcolor⟩ := ofRgb565Be_toRgb565Be pixel
    rw [List.flatMap_cons, hbytes, List.map_cons, ← hcolor, ← ih]
    rfl

theorem length_flatMap_toRgb565Be (pixels : List Rgb) :
    (pixels.flatMap Rgb.toRgb565Be).length = 2 * pixels.length := by
  induction pixels with
  | nil => rfl
  | cons pixel pixels ih =>
    rw [List.flatMap_cons, List.length_append, ih, List.length_cons]
    have htwo : pixel.toRgb565Be.length = 2 := rfl
    omega

theorem drop_flatMap_toRgb565Be {pixels : List Rgb} {i : Nat} {pixel : Rgb} (h : pixels[i]? = some pixel) :
    ((pixels.flatMap Rgb.toRgb565Be).drop (2 * i)).take 2 = pixel.toRgb565Be := by
  induction pixels generalizing i with
  | nil => cases h
  | cons first pixels ih =>
    cases i with
    | zero =>
      cases h
      rfl
    | succ i => exact ih h

theorem toRgb565Be_exact (frame : Framebuffer) :
    frame.toRgb565Be.length = 2 * (frame.width * frame.height) ∧ fromRgb565Be frame.toRgb565Be = frame.quantized ∧
      ∀ (x y : Nat) (pixel : Rgb), frame.picture.look x y = some pixel →
        (frame.toRgb565Be.drop (2 * (y * frame.width + x))).take 2 = pixel.toRgb565Be := by
  refine ⟨?_, fromRgb565Be_flatMap frame.pixels, fun x y pixel hlook => ?_⟩
  · rw [← frame.full]
    exact length_flatMap_toRgb565Be frame.pixels
  · apply drop_flatMap_toRgb565Be
    unfold Framebuffer.picture pictureOf at hlook
    dsimp only at hlook
    split at hlook
    · exact hlook
    · cases hlook

/-! ## Turn after turn -/

namespace Framebuffer

variable {frame : Framebuffer}

theorem turn_picture (orientation : Orientation) (hwidth : frame.width ≤ 65535) (hheight : frame.height ≤ 65535) :
    ∃ turned, frame.turn orientation = some turned ∧ turned.picture = orientation.turns +ᵥ frame.picture ∧
      turned.width ≤ 65535 ∧ turned.height ≤ 65535 := by
  obtain ⟨turned, hturn, hpicture⟩ := @fromCanvas_picture { frame with } orientation hwidth hheight
  have hpicture : turned.picture = orientation.turns +ᵥ frame.picture := hpicture
  have hsize := size_vadd orientation frame.picture
  rw [← hpicture] at hsize
  have hcases : turnedSize orientation.quarterTurns frame.width frame.height = (frame.height, frame.width) ∨
      turnedSize orientation.quarterTurns frame.width frame.height = (frame.width, frame.height) := by
    unfold turnedSize
    split
    · exact .inl rfl
    · exact .inr rfl
  rcases hcases with hswapped | hkept
  · have hsame := hsize.trans hswapped
    exact ⟨turned, hturn, hpicture, (congrArg Prod.fst hsame).trans_le hheight, (congrArg Prod.snd hsame).trans_le hwidth⟩
  · have hsame := hsize.trans hkept
    exact ⟨turned, hturn, hpicture, (congrArg Prod.fst hsame).trans_le hwidth, (congrArg Prod.snd hsame).trans_le hheight⟩

theorem turn_turn (hwidth : frame.width ≤ 65535) (hheight : frame.height ≤ 65535) {first second both : Orientation}
    (hboth : both.turns = second.turns + first.turns) :
    (frame.turn first).bind (·.turn second) = frame.turn both := by
  obtain ⟨once, honce, hpicture, hwidth', hheight'⟩ := turn_picture first hwidth hheight
  obtain ⟨twice, htwice, hpicture', -, -⟩ := turn_picture second hwidth' hheight'
  obtain ⟨straight, hstraight, hpicture'', -, -⟩ := turn_picture both hwidth hheight
  have hsame : twice.picture = straight.picture := by
    rw [hpicture', hpicture, hpicture'', hboth, add_vadd]
  rw [honce, Option.bind_some, htwice, hstraight, picture_injective hsame]

theorem turn_deg0 (frame : Framebuffer) : frame.turn .deg0 = some frame := rfl

theorem turn_four (hwidth : frame.width ≤ 65535) (hheight : frame.height ≤ 65535) :
    (((frame.turn .deg90).bind (·.turn .deg90)).bind (·.turn .deg90)).bind (·.turn .deg90) = some frame := by
  rw [@turn_turn frame hwidth hheight .deg90 .deg90 .deg180 rfl, @turn_turn frame hwidth hheight .deg180 .deg90 .deg270 rfl,
    @turn_turn frame hwidth hheight .deg270 .deg90 .deg0 rfl, turn_deg0]

theorem turn_moves (orientation : Orientation) (hwidth : frame.width ≤ 65535) (hheight : frame.height ≤ 65535) :
    ∃ turned cell, frame.turn orientation = some turned ∧ turned.picture = orientation.turns +ᵥ frame.picture ∧
      Set.BijOn cell (places turned.width turned.height) (places frame.width frame.height) ∧
      ∀ place ∈ places turned.width turned.height,
        turned.picture.look place.1 place.2 = frame.picture.look (cell place).1 (cell place).2 ∧
        (orientation.quarterTurns ≠ 0 → ∃ index < frame.pixels.length,
          sourceIndex orientation.quarterTurns frame.width frame.height place = some index) := by
  obtain ⟨turned, hturn, hpicture, -, -⟩ := turn_picture orientation hwidth hheight
  by_cases hzero : orientation.quarterTurns = 0
  · have hsame : frame.turn orientation = some frame := if_pos hzero
    cases hturn.symm.trans hsame
    exact ⟨frame, id, hturn, hpicture, Set.bijOn_id _, fun _ _ => ⟨rfl, fun hnonzero => absurd hzero hnonzero⟩⟩
  · obtain ⟨found, hfound, hsize, hlook⟩ := @fromCanvas_turned { frame with } orientation hzero hwidth hheight
    cases hturn.symm.trans hfound
    have hturned := turned_quarterTurns hzero
    have hfwidth : turned.width = (turnedSize orientation.quarterTurns frame.width frame.height).1 :=
      congrArg Prod.fst hsize
    have hfheight : turned.height = (turnedSize orientation.quarterTurns frame.width frame.height).2 :=
      congrArg Prod.snd hsize
    refine ⟨turned, sourceCell orientation.quarterTurns frame.width frame.height, hturn, hpicture, ?_, ?_⟩
    · rw [hfwidth, hfheight]
      exact bijOn_sourceCell hturned
    · intro place hplace
      refine ⟨hlook place hplace, fun _ => ?_⟩
      rw [hfwidth, hfheight] at hplace
      obtain ⟨hx, hy⟩ := (bijOn_sourceCell hturned).mapsTo hplace
      exact ⟨_, (row_major_lt hx hy).trans_eq frame.full.symm, sourceIndex_eq hturned hwidth hheight hplace⟩

end Framebuffer

/-! ## Rendering -/

section Rendering

variable {Image : Type} {artist : Artist Image} {preset : DisplayPreset} {samples : MetricSample × MetricSample}
  {panel : LcdPanel} {size : Nat × Nat}

theorem layoutSize_turned {orientation : Orientation} (h : layoutSize panel orientation = .ok size) :
    turnedSize orientation.quarterTurns size.1 size.2 = (panel.width.toNat, panel.height.toNat) ∧
      size.1 ≤ 65535 ∧ size.2 ≤ 65535 := by
  have hwidth := Nat.le_of_lt_succ panel.width.toNat_lt
  have hheight := Nat.le_of_lt_succ panel.height.toNat_lt
  unfold layoutSize at h
  split at h
  · cases h
  · split at h
    · rename_i hodd
      cases h
      exact ⟨if_pos hodd, hheight, hwidth⟩
    · rename_i heven
      cases h
      exact ⟨if_neg heven, hwidth, hheight⟩

theorem fromCanvas_fits {canvas : Canvas} {orientation : Orientation} (h : layoutSize panel orientation = .ok size)
    (hwidth : canvas.width = size.1) (hheight : canvas.height = size.2) :
    ∃ frame, Framebuffer.fromCanvas canvas orientation = some frame ∧ frame.width = panel.width.toNat ∧
      frame.height = panel.height.toNat := by
  obtain ⟨hturned, hwidth', hheight'⟩ := layoutSize_turned h
  obtain ⟨frame, hframe, hpicture⟩ := fromCanvas_picture orientation (hwidth.trans_le hwidth') (hheight.trans_le hheight')
  have hsize := size_vadd orientation canvas.picture
  have hcanvas : turnedSize orientation.quarterTurns canvas.picture.width canvas.picture.height =
      (panel.width.toNat, panel.height.toNat) := by
    rw [← hturned, ← hwidth, ← hheight]
    rfl
  rw [← hpicture, hcanvas] at hsize
  exact ⟨frame, hframe, congrArg Prod.fst hsize, congrArg Prod.snd hsize⟩

theorem drawn_filled (marks : List Mark) (background : Rgb) :
    ((Canvas.filled size.1 size.2 background).drawn marks).width = size.1 ∧
      ((Canvas.filled size.1 size.2 background).drawn marks).height = size.2 := Canvas.drawn_size ..

theorem layoutSize_error {orientation : Orientation} {error : DisplayError}
    (h : layoutSize panel orientation = .error error) : panel.width = 0 ∨ panel.height = 0 := by
  unfold layoutSize at h
  split at h
  · assumption
  · split at h <;> cases h

theorem marks_error {error : DisplayError} (h : artist.marks preset samples size = .error error) :
    preset.mode = .image ∧ artist.still preset = .error error := by
  unfold Artist.marks at h
  split at h
  · cases h
  · rename_i himage
    cases hstill : artist.still preset with
    | error other =>
      rw [hstill] at h
      cases h
      exact ⟨himage, rfl⟩
    | ok image =>
      rw [hstill] at h
      cases h
  · cases h
  · cases h

/-- Rendering always comes to something: a frame of exactly the panel's size, or a refusal with its reason. -/
theorem render_fits (artist : Artist Image) (preset : DisplayPreset) (samples : MetricSample × MetricSample)
    (panel : LcdPanel) : ∃ result, artist.render preset samples panel = some result ∧
      (∀ frame, result = .ok frame → frame.width = panel.width.toNat ∧ frame.height = panel.height.toNat) ∧
      ∀ error, result = .error error → preset.validate = .error error ∨ panel.width = 0 ∨ panel.height = 0 ∨
        preset.mode = .image ∧ artist.still preset = .error error := by
  unfold Artist.render
  cases hvalid : preset.validate with
  | error error =>
    refine ⟨.error error, rfl, fun _ h => (nomatch h), fun other h => .inl ?_⟩
    cases h
    rfl
  | ok =>
    cases hlayout : layoutSize panel preset.orientation with
    | error error =>
      refine ⟨.error error, rfl, fun _ h => (nomatch h), fun other h => .inr ?_⟩
      exact (layoutSize_error hlayout).imp_right .inl
    | ok size =>
      cases hmarks : artist.marks preset samples size with
      | error error =>
        refine ⟨.error error, ?_, fun _ h => (nomatch h), fun other h => ?_⟩
        · simp [bind, Except.bind, hmarks]
        · cases h
          exact .inr (.inr (.inr (marks_error hmarks)))
      | ok marks =>
        obtain ⟨hwidth, hheight⟩ := @drawn_filled size marks preset.background
        obtain ⟨frame, hframe, hfits⟩ := fromCanvas_fits hlayout hwidth hheight
        refine ⟨.ok frame, ?_, fun other h => ?_, fun _ h => nomatch h⟩
        · simp [bind, Except.bind, pure, Except.pure, hmarks, hframe]
        · cases h
          exact hfits

theorem renderImageFrames_fit (artist : Artist Image) (preset : DisplayPreset) (panel : LcdPanel) :
    ∃ result, artist.renderImageFrames preset panel = some result ∧
      ∀ frames, result = .ok frames → ∀ entry ∈ frames,
        entry.1.width = panel.width.toNat ∧ entry.1.height = panel.height.toNat := by
  unfold Artist.renderImageFrames
  cases hvalid : preset.validate with
  | error error => exact ⟨.error error, rfl, fun _ h => nomatch h⟩
  | ok =>
    cases hlayout : layoutSize panel preset.orientation with
    | error error => exact ⟨.error error, rfl, fun _ h => nomatch h⟩
    | ok size =>
      cases himages : artist.frames preset with
      | error error => exact ⟨.error error, rfl, fun _ h => nomatch h⟩
      | ok images =>
        have hcompose : ∀ image : Image × Nat, ∃ frame, Framebuffer.fromCanvas
            ((Canvas.filled size.1 size.2 preset.background).drawn (artist.draw image.1 size)) preset.orientation =
              some frame ∧ frame.width = panel.width.toNat ∧ frame.height = panel.height.toNat := fun image =>
          fromCanvas_fits hlayout (drawn_filled _ _).1 (drawn_filled _ _).2
        have hall : ∀ image ∈ images, ∃ entry : Framebuffer × Nat, ((Framebuffer.fromCanvas
            ((Canvas.filled size.1 size.2 preset.background).drawn (artist.draw image.1 size)) preset.orientation).map
              fun frame => (frame, image.2)) = some entry := fun image _ => by
          obtain ⟨frame, hframe, -⟩ := hcompose image
          exact ⟨(frame, image.2), by rw [hframe]; rfl⟩
        obtain ⟨entries, hentries⟩ := exists_mapM hall
        refine ⟨.ok entries, ?_, fun frames h entry hentry => ?_⟩
        · simp [bind, Except.bind, pure, Except.pure, hentries]
        · cases h
          obtain ⟨i, hi⟩ := List.getElem?_of_mem hentry
          rw [getElem?_of_mapM hentries] at hi
          obtain ⟨image, -, himage⟩ := Option.bind_eq_some_iff.mp hi
          obtain ⟨frame, hframe, hfits⟩ := hcompose image
          rw [hframe] at himage
          cases himage
          exact hfits

end Rendering

/-- A turned frame shows its picture turned, whatever sides of 16 bits it has, its bytes are the colors the
preview shows, and what is rendered has exactly the panel's size. -/
theorem rotation_and_packing_exact :
    (∀ frame : Framebuffer, frame.width ≤ 65535 → frame.height ≤ 65535 →
      (∀ orientation, ∃ turned cell, frame.turn orientation = some turned ∧
        turned.picture = orientation.turns +ᵥ frame.picture ∧
        Set.BijOn cell (places turned.width turned.height) (places frame.width frame.height) ∧
        ∀ place ∈ places turned.width turned.height,
          turned.picture.look place.1 place.2 = frame.picture.look (cell place).1 (cell place).2 ∧
          (orientation.quarterTurns ≠ 0 → ∃ index < frame.pixels.length,
            sourceIndex orientation.quarterTurns frame.width frame.height place = some index)) ∧
      (∀ first second both : Orientation, both.turns = second.turns + first.turns →
        (frame.turn first).bind (·.turn second) = frame.turn both) ∧
      (((frame.turn .deg90).bind (·.turn .deg90)).bind (·.turn .deg90)).bind (·.turn .deg90) = some frame ∧
      frame.toRgb565Be.length = 2 * (frame.width * frame.height) ∧
      (∀ (x y : Nat) (pixel : Rgb), frame.picture.look x y = some pixel →
        (frame.toRgb565Be.drop (2 * (y * frame.width + x))).take 2 = pixel.toRgb565Be) ∧
      fromRgb565Be frame.toRgb565Be = frame.quantized) ∧
    ∀ (Image : Type) (artist : Artist Image) (preset : DisplayPreset) (samples : MetricSample × MetricSample)
      (panel : LcdPanel), ∃ result, artist.render preset samples panel = some result ∧
        (∀ frame, result = .ok frame → frame.width = panel.width.toNat ∧ frame.height = panel.height.toNat) ∧
        ∀ error, result = .error error → preset.validate = .error error ∨ panel.width = 0 ∨ panel.height = 0 ∨
          preset.mode = .image ∧ artist.still preset = .error error := by
  refine ⟨fun frame hwidth hheight => ?_, fun _ => render_fits⟩
  obtain ⟨hlength, hcolors, hplaces⟩ := toRgb565Be_exact frame
  exact ⟨fun orientation => frame.turn_moves orientation hwidth hheight,
    fun _ _ _ => Framebuffer.turn_turn hwidth hheight, Framebuffer.turn_four hwidth hheight, hlength, hplaces, hcolors⟩

/-- Four pixels in a row over two. -/
def benchFramebuffer : Framebuffer :=
  { width := 4, height := 2, pixels := List.replicate 7 Rgb.BLACK ++ [⟨0xff, 0xa7, 0x1f⟩], full := rfl }

theorem bench_framebuffer_turned :
    (((benchFramebuffer.turn .deg90).bind (·.turn .deg90)).bind (·.turn .deg90)).bind (·.turn .deg90) =
      some benchFramebuffer ∧ fromRgb565Be benchFramebuffer.toRgb565Be = benchFramebuffer.quantized := by
  obtain ⟨-, -, hfour, -, -, hcolors⟩ := rotation_and_packing_exact.1 benchFramebuffer (by decide) (by decide)
  exact ⟨hfour, hcolors⟩

end Kori
