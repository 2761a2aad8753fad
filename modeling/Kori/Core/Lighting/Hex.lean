import Kori.Core.Lighting

/-!
# The colors `parseHex` takes

Against the grammar of its documentation: an optional `#`, then six digits.
-/

namespace Kori

open Text

namespace Text

theorem toDigit16_lt {c : Char} {n : Nat} (h : toDigit16 c = some n) : n < 16 := by
  unfold toDigit16 at h
  simp at h
  split at h
  · simp at h
    omega
  · split at h
    · simp at h
      omega
    · split at h
      · simp at h
        omega
      · cases h

theorem toDigit16_some {c : Char} {n : Nat} (h : toDigit16 c = some n) :
    c.utf8Size = 1 ∧ c ≠ '#' ∧ c ≠ '+' := by
  have hc : (48 ≤ c.toNat ∧ c.toNat ≤ 57) ∨ (97 ≤ c.toNat ∧ c.toNat ≤ 102) ∨
      (65 ≤ c.toNat ∧ c.toNat ≤ 70) := by
    unfold toDigit16 at h
    simp at h
    split at h
    · omega
    · split at h
      · omega
      · split at h
        · omega
        · cases h
  refine ⟨?_, ?_, ?_⟩
  · have hle : c.toNat ≤ 127 := by omega
    rw [Char.utf8Size_eq_one_iff]
    exact hle
  · rintro rfl
    revert hc
    decide
  · rintro rfl
    revert hc
    decide

/-- The number a string of digits stands for, the first digit the highest. -/
def place (values : List Nat) : Nat := values.foldl (fun acc v => 16 * acc + v) 0

theorem foldl_toDigit16 (text : List Char) (start : Nat) (n : Nat) :
    text.foldl (fun acc c => do return 16 * (← acc) + (← toDigit16 c)) (some start) = some n ↔
      ∃ values : List Nat, text.map toDigit16 = values.map some ∧
        n = values.foldl (fun acc v => 16 * acc + v) start := by
  induction text generalizing start with
  | nil =>
    constructor
    · intro h
      cases h
      exact ⟨[], rfl, rfl⟩
    · rintro ⟨values, hmap, rfl⟩
      cases values with
      | nil => rfl
      | cons value values => cases hmap
  | cons c text ih =>
    cases hc : toDigit16 c with
    | none =>
      -- One character that is no digit, and the rest is read for nothing.
      have hnone : ∀ text : List Char, text.foldl
          (fun acc c => do return 16 * (← acc) + (← toDigit16 c)) none = (none : Option Nat) := by
        intro text
        induction text with
        | nil => rfl
        | cons c text ih => exact ih
      constructor
      · intro h
        rw [List.foldl_cons, hc] at h
        exact absurd ((hnone text).symm.trans h) (by simp)
      · rintro ⟨values, hmap, -⟩
        cases values with
        | nil => cases hmap
        | cons value values => simp [hc] at hmap
    | some v =>
      rw [List.foldl_cons, hc]
      refine Iff.trans (ih (16 * start + v)) ⟨?_, ?_⟩
      · rintro ⟨values, hmap, rfl⟩
        exact ⟨v :: values, by simp [hc, hmap], rfl⟩
      · rintro ⟨values, hmap, rfl⟩
        cases values with
        | nil => cases hmap
        | cons value values =>
          simp only [List.map_cons, List.cons.injEq, hc, Option.some.injEq] at hmap
          obtain ⟨rfl, hmap⟩ := hmap
          exact ⟨values, hmap, rfl⟩

theorem hexDigits_eq_some {text : List Char} {n : Nat} :
    hexDigits text = some n ↔
      text ≠ [] ∧ ∃ values : List Nat, text.map toDigit16 = values.map some ∧ n = place values := by
  cases text with
  | nil => simp [hexDigits]
  | cons c text =>
    refine (foldl_toDigit16 (c :: text) 0 n).trans ⟨?_, ?_⟩
    · rintro ⟨values, hmap, hn⟩
      exact ⟨by simp, values, hmap, hn⟩
    · rintro ⟨-, values, hmap, hn⟩
      exact ⟨values, hmap, hn⟩

theorem digits_of_map {text : List Char} {values : List Nat}
    (h : text.map toDigit16 = values.map some) : ∀ c ∈ text, ∃ n, toDigit16 c = some n := by
  intro c hc
  have hmem : toDigit16 c ∈ values.map some := by
    rw [← h]
    exact List.mem_map_of_mem hc
  obtain ⟨n, -, hn⟩ := List.mem_map.mp hmem
  exact ⟨n, hn.symm⟩

theorem values_lt {text : List Char} {values : List Nat}
    (h : text.map toDigit16 = values.map some) : ∀ v ∈ values, v < 16 := by
  intro v hv
  have hmem : some v ∈ text.map toDigit16 := by
    rw [h]
    exact List.mem_map_of_mem hv
  obtain ⟨c, -, hc⟩ := List.mem_map.mp hmem
  exact toDigit16_lt hc

theorem exists_values {text : List Char} (h : ∀ c ∈ text, ∃ n, toDigit16 c = some n) :
    ∃ values : List Nat, text.map toDigit16 = values.map some := by
  induction text with
  | nil => exact ⟨[], rfl⟩
  | cons c text ih =>
    obtain ⟨n, hn⟩ := h c (by simp)
    obtain ⟨values, hvalues⟩ := ih fun d hd => h d (by simp [hd])
    exact ⟨n :: values, by simp [hn, hvalues]⟩

theorem place_lt {values : List Nat} (h : ∀ v ∈ values, v < 16) :
    place values < 16 ^ values.length := by
  unfold place
  induction values using List.reverseRecOn with
  | nil => simp
  | append_singleton values v ih =>
    have hrest := ih fun w hw => h w (by simp [hw])
    have hlast := h v (by simp)
    rw [List.foldl_append, List.length_append, List.length_singleton, Nat.pow_succ]
    simp only [List.foldl_cons, List.foldl_nil]
    omega

theorem byteLength_digits {text : List Char} (h : ∀ c ∈ text, ∃ n, toDigit16 c = some n) :
    byteLength text = text.length := by
  unfold byteLength
  induction text with
  | nil => rfl
  | cons c text ih =>
    obtain ⟨n, hn⟩ := h c (by simp)
    have hrest := ih fun d hd => h d (by simp [hd])
    simp only [List.map_cons, List.sum_cons, List.length_cons, (toDigit16_some hn).1, hrest]
    omega

end Text

namespace Rgb

/-- The six half-bytes of a color, in the order they are written. -/
def nibbles (color : Rgb) : List Nat :=
  [color.r, color.g, color.b].flatMap fun v => [v.toNat / 16, v.toNat % 16]

/-- The three channels in one number, as `parseHex` takes it apart. -/
def pack (color : Rgb) : Nat := color.r.toNat * 65536 + color.g.toNat * 256 + color.b.toNat

theorem place_nibbles (color : Rgb) : place color.nibbles = color.pack := by
  simp only [place, nibbles, pack, List.flatMap_cons, List.flatMap_nil, List.append_nil,
    List.cons_append, List.nil_append, List.foldl_cons, List.foldl_nil]
  omega

theorem pack_lt (color : Rgb) : color.pack < 16777216 := by
  have hr := color.r.toNat_lt
  have hg := color.g.toNat_lt
  have hb := color.b.toNat_lt
  unfold pack
  omega

theorem channels_pack (color : Rgb) :
    ((UInt32.ofNat color.pack >>> 16) &&& 0xff).toUInt8 = color.r ∧
    ((UInt32.ofNat color.pack >>> 8) &&& 0xff).toUInt8 = color.g ∧
    (UInt32.ofNat color.pack &&& 0xff).toUInt8 = color.b := by
  have hr := color.r.toNat_lt
  have hg := color.g.toNat_lt
  have hb := color.b.toNat_lt
  have hlt := color.pack_lt
  have hmask (n : Nat) : n &&& 255 = n % 256 := Nat.and_two_pow_sub_one_eq_mod n 8
  have hmod : color.pack % 4294967296 = color.pack := Nat.mod_eq_of_lt (by omega)
  refine ⟨?_, ?_, ?_⟩
  · rw [← UInt8.toNat_inj]
    simp [hmask, hmod, Nat.shiftRight_eq_div_pow]
    unfold pack
    omega
  · rw [← UInt8.toNat_inj]
    simp [hmask, hmod, Nat.shiftRight_eq_div_pow]
    unfold pack
    omega
  · rw [← UInt8.toNat_inj]
    simp [hmask]
    unfold pack
    omega

theorem exists_nibbles {values : List Nat} (hlength : values.length = 6)
    (hlt : ∀ v ∈ values, v < 16) : ∃ color : Rgb, color.nibbles = values := by
  match values, hlength with
  | [a, b, c, d, e, f], _ =>
    simp only [List.mem_cons, List.not_mem_nil, or_false, forall_eq_or_imp, forall_eq] at hlt
    refine ⟨⟨UInt8.ofNat (16 * a + b), UInt8.ofNat (16 * c + d), UInt8.ofNat (16 * e + f)⟩, ?_⟩
    simp [nibbles]
    omega

theorem parse_nibbles {text : List Char} {color : Rgb}
    (h : text.map toDigit16 = color.nibbles.map some) :
    hexDigits text = some color.pack ∧ text.length = 6 := by
  have hlength : text.length = 6 := by
    simpa [nibbles] using congrArg List.length h
  refine ⟨hexDigits_eq_some.mpr ⟨?_, color.nibbles, h, color.place_nibbles.symm⟩, hlength⟩
  rintro rfl
  cases hlength

/-! ## The grammar -/

/-- The text without its optional `#`. -/
def unmarked : List Char → List Char
  | '#' :: rest => rest
  | text => text

/-- The color a text spells: an optional `#`, then the six digits of the color. -/
def Spells (text : List Char) (color : Rgb) : Prop :=
  ∃ digits, (text = digits ∨ text = '#' :: digits) ∧
    digits.map toDigit16 = color.nibbles.map some

/-- A text of so many hexadecimal digits and nothing else. -/
def Digits (count : Nat) (text : List Char) : Prop :=
  text.length = count ∧ ∀ c ∈ text, ∃ n, toDigit16 c = some n

theorem digits_six_iff {text : List Char} :
    Digits 6 text ↔ ∃ color : Rgb, text.map toDigit16 = color.nibbles.map some := by
  constructor
  · rintro ⟨hlength, hall⟩
    obtain ⟨values, hvalues⟩ := exists_values hall
    have hsix : values.length = 6 := by
      simpa [hlength] using (congrArg List.length hvalues).symm
    obtain ⟨color, rfl⟩ := exists_nibbles hsix (values_lt hvalues)
    exact ⟨color, hvalues⟩
  · rintro ⟨color, hcolor⟩
    exact ⟨(parse_nibbles hcolor).2, digits_of_map hcolor⟩

/-- The text between the marks and the end, as `parseHex` reads it. -/
def stripped (value : String) : List Char := (Text.trim value.toList).dropWhile (· == '#')

theorem parseHex_eq (value : String) :
    parseHex value =
      if byteLength (stripped value) ≠ HEX_COLOR_DIGITS then
        .error (.colorDigits HEX_COLOR_DIGITS (stripped value).length)
      else match parseHexU32 (stripped value) with
        | none => .error (.colorAlphabet (String.ofList (stripped value)))
        | some packed =>
          .ok { r := ((packed >>> 16) &&& 0xff).toUInt8
                g := ((packed >>> 8) &&& 0xff).toUInt8
                b := (packed &&& 0xff).toUInt8 } := rfl

/-- A `+` and five digits: the number parser takes the sign. -/
def Signed (text : List Char) : Prop := ∃ digits, text = '+' :: digits ∧ Digits 5 digits

theorem parseHexU32_digits {text : List Char} {color : Rgb}
    (h : text.map toDigit16 = color.nibbles.map some) :
    parseHexU32 text = some (UInt32.ofNat color.pack) := by
  obtain ⟨hdigits, -⟩ := parse_nibbles h
  have hlt := color.pack_lt
  have hplus : ∀ rest, text ≠ '+' :: rest := by
    rintro rest rfl
    obtain ⟨n, hn⟩ := digits_of_map h '+' (by simp)
    exact (toDigit16_some hn).2.2 rfl
  unfold parseHexU32
  split
  · exact absurd rfl (hplus _)
  · simp only [hdigits, Option.bind_eq_bind, Option.bind_some]
    rw [if_pos (by omega)]

theorem parseHexU32_some {text : List Char} {packed : UInt32} (hlength : byteLength text = 6)
    (h : parseHexU32 text = some packed) :
    Signed text ∨ ∃ color : Rgb, text.map toDigit16 = color.nibbles.map some ∧
      packed = UInt32.ofNat color.pack := by
  unfold parseHexU32 at h
  split at h
  · rename_i rest
    cases hdigits : hexDigits rest with
    | none => simp [hdigits] at h
    | some n =>
      obtain ⟨-, values, hmap, -⟩ := hexDigits_eq_some.mp hdigits
      have hall := digits_of_map hmap
      have hbytes := byteLength_digits hall
      have hplus : byteLength ('+' :: rest) = 1 + byteLength rest := rfl
      exact .inl ⟨rest, rfl, by omega, hall⟩
  · cases hdigits : hexDigits text with
    | none => simp [hdigits] at h
    | some n =>
      obtain ⟨-, values, hmap, rfl⟩ := hexDigits_eq_some.mp hdigits
      have hall := digits_of_map hmap
      have hsix : text.length = 6 := (byteLength_digits hall).symm.trans hlength
      obtain ⟨color, hcolor⟩ := exists_nibbles
        (by simpa [hsix] using (congrArg List.length hmap).symm) (values_lt hmap)
      subst hcolor
      have hlt := color.pack_lt
      simp only [hdigits, place_nibbles, Option.bind_eq_bind, Option.bind_some] at h
      rw [if_pos (by omega)] at h
      cases h
      exact .inr ⟨color, hmap, rfl⟩

theorem parseHex_ok {value : String} {color : Rgb} (h : parseHex value = .ok color) :
    Signed (stripped value) ∨
      (stripped value).map toDigit16 = color.nibbles.map some := by
  rw [parseHex_eq] at h
  split at h
  · cases h
  · rename_i hbytes
    have hsix : byteLength (stripped value) = 6 := not_ne_iff.mp hbytes
    split at h
    · cases h
    · rename_i packed hpacked
      rcases parseHexU32_some hsix hpacked with hsigned | ⟨spelled, hmap, rfl⟩
      · exact .inl hsigned
      · obtain ⟨hr, hg, hb⟩ := spelled.channels_pack
        rw [hr, hg, hb] at h
        cases h
        exact .inr hmap

theorem parseHex_of_digits {value : String} {color : Rgb}
    (h : (stripped value).map toDigit16 = color.nibbles.map some) :
    parseHex value = .ok color := by
  have hbytes : byteLength (stripped value) = HEX_COLOR_DIGITS := by
    rw [byteLength_digits (digits_of_map h), (parse_nibbles h).2]
    rfl
  obtain ⟨hr, hg, hb⟩ := color.channels_pack
  rw [parseHex_eq, if_neg (not_ne_iff.mpr hbytes), parseHexU32_digits h]
  simp only [hr, hg, hb]

theorem parseHex_of_signed {value : String} (h : Signed (stripped value)) :
    ∃ color, parseHex value = .ok color := by
  obtain ⟨digits, hstripped, hlength, hall⟩ := h
  obtain ⟨values, hvalues⟩ := exists_values hall
  have hfive : values.length = 5 := by
    simpa [hlength] using (congrArg List.length hvalues).symm
  have hplace := place_lt (values_lt hvalues)
  rw [hfive] at hplace
  have hnumber : parseHexU32 (stripped value) = some (UInt32.ofNat (place values)) := by
    have hdigits : hexDigits digits = some (place values) := by
      refine hexDigits_eq_some.mpr ⟨?_, values, hvalues, rfl⟩
      rintro rfl
      cases hlength
    rw [hstripped]
    unfold parseHexU32
    simp only [hdigits, Option.bind_eq_bind, Option.bind_some]
    rw [if_pos (by omega)]
  have hbytes : byteLength (stripped value) = HEX_COLOR_DIGITS := by
    have hplus : byteLength ('+' :: digits) = 1 + byteLength digits := rfl
    rw [hstripped, hplus, byteLength_digits hall, hlength]
    rfl
  rw [parseHex_eq, if_neg (not_ne_iff.mpr hbytes), hnumber]
  exact ⟨_, rfl⟩

/-! ## Where the parser keeps to the grammar -/

/-- The text is taken if and only if it spells a color, for that color, and is refused for the
number of its digits only where that number is not six. -/
def ParsesAsSpelled (value : String) : Prop :=
  (∀ color, parseHex value = .ok color ↔ Spells (trim value.toList) color) ∧
  ∀ expected actual, parseHex value = .error (.colorDigits expected actual) →
    (unmarked (trim value.toList)).length ≠ HEX_COLOR_DIGITS

/-- At most one `#` before six digits, no sign, and six bytes where there are six characters. -/
def Plain (value : String) : Prop :=
  ¬ Signed (stripped value) ∧
  ((unmarked (trim value.toList)).head? = some '#' → ¬ Digits 6 (stripped value)) ∧
  ((unmarked (trim value.toList)).length = HEX_COLOR_DIGITS →
    byteLength (stripped value) = HEX_COLOR_DIGITS)

theorem stripped_of_spells {value : String} {color : Rgb}
    (h : Spells (trim value.toList) color) :
    (stripped value).map toDigit16 = color.nibbles.map some ∧
      (unmarked (trim value.toList)).head? ≠ some '#' := by
  obtain ⟨digits, htext, hdigits⟩ := h
  have hhead : digits.head? ≠ some '#' := by
    intro hmark
    obtain ⟨n, hn⟩ := digits_of_map hdigits '#' (List.mem_of_mem_head? hmark)
    exact (toDigit16_some hn).2.1 rfl
  have hdrop : digits.dropWhile (· == '#') = digits := by
    cases digits with
    | nil => rfl
    | cons c digits =>
      have hc : c ≠ '#' := by simpa using hhead
      simp [hc]
  have hunmarked : unmarked digits = digits := by
    unfold unmarked
    split
    · simp at hhead
    · rfl
  unfold stripped
  rcases htext with htext | htext
  · rw [htext, hdrop, hunmarked]
    exact ⟨hdigits, hhead⟩
  · rw [htext]
    simp only [List.dropWhile_cons, beq_self_eq_true, if_true, hdrop, unmarked]
    exact ⟨hdigits, hhead⟩

theorem spells_of_stripped {value : String} {color : Rgb}
    (h : (stripped value).map toDigit16 = color.nibbles.map some)
    (hone : (unmarked (trim value.toList)).head? ≠ some '#') :
    Spells (trim value.toList) color := by
  unfold stripped at h
  refine ⟨_, ?_, h⟩
  generalize trim value.toList = text at hone
  cases text with
  | nil => exact .inl rfl
  | cons c text =>
    by_cases hc : c = '#'
    · subst hc
      have hdrop : text.dropWhile (· == '#') = text := by
        cases text with
        | nil => rfl
        | cons d text =>
          have hd : d ≠ '#' := by simpa [unmarked] using hone
          simp [hd]
      exact .inr (by simp [hdrop])
    · exact .inl (by simp [hc])

theorem parseHex_colorDigits_iff {value : String} :
    (∃ expected actual, parseHex value = .error (.colorDigits expected actual)) ↔
      byteLength (stripped value) ≠ HEX_COLOR_DIGITS := by
  rw [parseHex_eq]
  constructor
  · rintro ⟨expected, actual, h⟩
    split at h
    · assumption
    · split at h
      · cases h
      · cases h
  · intro h
    exact ⟨_, _, by rw [if_pos h]⟩

theorem stripped_toHex (color : Rgb) :
    (stripped color.toHex).map toDigit16 = color.nibbles.map some := by
  have hdigit : ∀ n < 16, isWhitespace (hexDigit n) = false ∧ hexDigit n ≠ '#' ∧
      toDigit16 (hexDigit n) = some n := by
    decide
  have hlist : color.toHex.toList = color.nibbles.map hexDigit := by
    unfold toHex
    rw [String.toList_ofList]
    rfl
  have hlt : ∀ v ∈ color.nibbles, v < 16 := by
    have hr := color.r.toNat_lt
    have hg := color.g.toNat_lt
    have hb := color.b.toNat_lt
    simp only [nibbles, List.flatMap_cons, List.flatMap_nil, List.cons_append, List.nil_append,
      List.mem_cons, List.not_mem_nil, or_false, forall_eq_or_imp, forall_eq]
    omega
  have hcons : ∃ v rest, color.nibbles = v :: rest := ⟨_, _, rfl⟩
  obtain ⟨v, rest, hrest⟩ := hcons
  have htrim : trim (color.nibbles.map hexDigit) = color.nibbles.map hexDigit := by
    have hfirst : (color.nibbles.map hexDigit).dropWhile isWhitespace =
        color.nibbles.map hexDigit := by
      rw [hrest, List.map_cons, List.dropWhile_cons, (hdigit v (hlt v (by simp [hrest]))).1]
      rfl
    unfold trim
    rw [hfirst, List.rdropWhile_eq_self_iff]
    intro hne
    obtain ⟨w, hw, hlast⟩ := List.mem_map.mp (List.getLast_mem hne)
    rw [← hlast, (hdigit w (hlt w hw)).1]
    decide
  have hmark : (color.nibbles.map hexDigit).dropWhile (· == '#') =
      color.nibbles.map hexDigit := by
    rw [hrest, List.map_cons, List.dropWhile_cons]
    have hv := (hdigit v (hlt v (by simp [hrest]))).2.1
    simp [hv]
  unfold stripped
  rw [hlist, htrim, hmark, List.map_map]
  refine List.map_congr_left fun v hv => ?_
  exact (hdigit v (hlt v hv)).2.2

/-- The parser keeps to the grammar on the plain texts and on no others, and reads back
every color that is written. -/
theorem parses_as_spelled_iff (value : String) (color : Rgb) :
    (ParsesAsSpelled value ↔ Plain value) ∧ parseHex color.toHex = .ok color := by
  refine ⟨⟨?_, ?_⟩, parseHex_of_digits (stripped_toHex color)⟩
  · rintro ⟨htaken, hcount⟩
    refine ⟨fun hsigned => ?_, fun hmarks hsix => ?_, fun hlength => ?_⟩
    · obtain ⟨color, hcolor⟩ := parseHex_of_signed hsigned
      have hdigits := (stripped_of_spells ((htaken color).mp hcolor)).1
      obtain ⟨digits, hstripped, -⟩ := hsigned
      obtain ⟨n, hn⟩ := digits_of_map hdigits '+' (by simp [hstripped])
      exact (toDigit16_some hn).2.2 rfl
    · obtain ⟨color, hcolor⟩ := digits_six_iff.mp hsix
      have hspells := (htaken color).mp (parseHex_of_digits hcolor)
      exact (stripped_of_spells hspells).2 hmarks
    · by_contra hbytes
      obtain ⟨expected, actual, herror⟩ := parseHex_colorDigits_iff.mpr hbytes
      exact hcount expected actual herror hlength
  · rintro ⟨hunsigned, hmarks, hbytes⟩
    refine ⟨fun color => ⟨fun hcolor => ?_, fun hspells => ?_⟩, fun expected actual herror => ?_⟩
    · rcases parseHex_ok hcolor with hsigned | hdigits
      · exact absurd hsigned hunsigned
      · refine spells_of_stripped hdigits fun hmark => ?_
        exact hmarks hmark (digits_six_iff.mpr ⟨color, hdigits⟩)
    · exact parseHex_of_digits (stripped_of_spells hspells).1
    · intro hlength
      exact parseHex_colorDigits_iff.mp ⟨expected, actual, herror⟩ (hbytes hlength)

/-- A sign is read as a digit, and six characters are refused for not being six. -/
theorem signed_color_taken :
    parseHex "+12345" = .ok ⟨0x01, 0x23, 0x45⟩ ∧
      ¬ Spells (trim "+12345".toList) ⟨0x01, 0x23, 0x45⟩ ∧
      parseHex "é23456" = .error (.colorDigits 6 6) ∧
      ¬ ParsesAsSpelled "+12345" ∧ ¬ ParsesAsSpelled "é23456" := by
  have htaken : parseHex "+12345" = .ok ⟨0x01, 0x23, 0x45⟩ := by decide
  have hcount : parseHex "é23456" = .error (.colorDigits 6 6) := by decide
  have hspelled : ¬ Spells (trim "+12345".toList) ⟨0x01, 0x23, 0x45⟩ := by
    intro h
    obtain ⟨n, hn⟩ := digits_of_map (stripped_of_spells h).1 '+' (by decide)
    exact (toDigit16_some hn).2.2 rfl
  refine ⟨htaken, hspelled, hcount, ?_, ?_⟩
  · rintro ⟨htaken', -⟩
    exact hspelled ((htaken' _).mp htaken)
  · rintro ⟨-, hcount'⟩
    exact hcount' 6 6 hcount (by decide)

end Rgb

end Kori
