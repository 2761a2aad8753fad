import Kori.Faulty.Codec
import Mathlib.Algebra.GroupWithZero.Nat
import Mathlib.Algebra.Order.BigOperators.Group.List

/-! # Documents as compact JSON, and how many bytes they take

`value.compact` is the line a document is sent as, and `value.size` is its length.
-/

namespace Faulty

/-! ## Texts -/

/-- The digit of half a byte. -/
def hexByte (n : Nat) : UInt8 := UInt8.ofNat (if n < 10 then 0x30 + n else 0x57 + n)

/-- A character, between the quotes of a text. -/
def escaped (c : Char) : List UInt8 :=
  match c.toNat with
  | 0x22 => [0x5c, 0x22]
  | 0x5c => [0x5c, 0x5c]
  | 0x08 => [0x5c, 0x62]
  | 0x09 => [0x5c, 0x74]
  | 0x0a => [0x5c, 0x6e]
  | 0x0c => [0x5c, 0x66]
  | 0x0d => [0x5c, 0x72]
  | n => if n < 0x20 then [0x5c, 0x75, 0x30, 0x30, hexByte (n / 16), hexByte (n % 16)] else String.utf8EncodeChar c

def escapedText (text : String) : List UInt8 := text.toList.flatMap escaped

/-- The bytes a text takes between its quotes. -/
def textSize (text : String) : Nat := (escapedText text).length

theorem escaped_length (c : Char) : (escaped c).length ≤ 6 := by
  unfold escaped
  split
  case h_8 =>
    split
    · exact Nat.le_refl 6
    · have h := Char.utf8Size_le_four c
      rw [String.length_utf8EncodeChar]
      omega
  all_goals decide

theorem textSize_literal {cs : List Char} {n : Nat} (h : (cs.flatMap escaped).length = n) :
    textSize (String.ofList cs) = n := by
  rw [textSize, escapedText, String.toList_ofList, h]

@[simp] theorem textSize_append (front back : String) :
    textSize (front ++ back) = textSize front + textSize back := by
  simp [textSize, escapedText]

theorem textSize_le (text : String) : textSize text ≤ 6 * text.length := by
  unfold textSize escapedText
  rw [← String.length_toList]
  induction text.toList with
  | nil => exact Nat.le_refl 0
  | cons c rest ih =>
    have hc := escaped_length c
    simp only [List.flatMap_cons, List.length_append, List.length_cons]
    omega

theorem textSize_intercalate {separator : String} {texts : List String} {n : Nat} (h : ∀ text ∈ texts, textSize text ≤ n) :
    textSize (String.intercalate separator texts) ≤ texts.length * (n + textSize separator) := by
  induction texts with
  | nil => simp [textSize, escapedText]
  | cons text rest ih =>
    have htext := h text List.mem_cons_self
    have hrest := ih fun other hmem => h other (List.mem_cons_of_mem _ hmem)
    rw [List.length_cons, Nat.succ_mul]
    cases rest with
    | nil =>
      rw [String.intercalate_singleton]
      omega
    | cons next rest =>
      rw [String.intercalate_cons_cons, textSize_append, textSize_append]
      omega

theorem textSize_toString {n k : Nat} (hk : 0 < k) (h : n < 10 ^ k) : textSize (toString n) ≤ 6 * k :=
  Nat.le_trans (textSize_le _) (Nat.mul_le_mul_left 6 ((Nat.length_repr_le_iff hk).mpr h))

theorem toNat_of_newline_mem {c : Char} (h : 10 ∈ String.utf8EncodeChar c) : c.toNat = 10 := by
  have hbyte : ∀ n, n < 256 → 10 = UInt8.ofNat n → n = 10 := by
    intro n hn heq
    have hnat := congrArg UInt8.toNat heq
    rw [UInt8.toNat_ofNat', Nat.mod_eq_of_lt hn] at hnat
    exact hnat.symm
  have hval : c.toNat = c.val.toNat := rfl
  rw [hval]
  unfold String.utf8EncodeChar at h
  generalize c.val.toNat = v at h ⊢
  dsimp only at h
  split at h
  · exact hbyte v (by omega) (List.mem_singleton.mp h)
  -- Every byte of a longer form is above the ASCII ones.
  · exfalso
    split at h
    · simp only [List.mem_cons, List.not_mem_nil, or_false] at h
      rcases h with h | h <;> have := hbyte _ (by omega) h <;> omega
    · split at h
      · simp only [List.mem_cons, List.not_mem_nil, or_false] at h
        rcases h with h | h | h <;> have := hbyte _ (by omega) h <;> omega
      · simp only [List.mem_cons, List.not_mem_nil, or_false] at h
        rcases h with h | h | h | h <;> have := hbyte _ (by omega) h <;> omega

/-- A text is sent on one line. -/
theorem newline_notMem_escapedText (text : String) : 10 ∉ escapedText text := by
  have hchar : ∀ c, 10 ∉ escaped c := by
    intro c hmem
    unfold escaped at hmem
    split at hmem
    case h_8 =>
      split at hmem
      · rename_i hlow
        have hdigit : ∀ k < 16, 10 ≠ hexByte k := by decide
        have hfirst := hdigit (c.toNat / 16) (by omega)
        have hlast := hdigit (c.toNat % 16) (Nat.mod_lt _ (by omega))
        simp [hfirst, hlast] at hmem
      · have h := toNat_of_newline_mem hmem
        contradiction
    all_goals exact absurd hmem (by decide)
  simpa [escapedText] using fun c _ => hchar c

namespace Value

/-! ## Documents -/

/-- The fields of a document that is an object. -/
def fields : Value → Object
  | .object fields => fields
  | _ => []

/-- The decimal form of a number. -/
def digits (n : Int) : List UInt8 := (toString n).toList.map fun c => UInt8.ofNat c.toNat

mutual

def compact : Value → List UInt8
  | .null => [0x6e, 0x75, 0x6c, 0x6c]
  | .bool true => [0x74, 0x72, 0x75, 0x65]
  | .bool false => [0x66, 0x61, 0x6c, 0x73, 0x65]
  | .number value => digits value
  | .string text => 0x22 :: (escapedText text ++ [0x22])
  -- A comma stands before each item and each field, the first one excepted.
  | .array items => 0x5b :: ((compactItems items).tail ++ [0x5d])
  | .object fields => 0x7b :: ((compactFields fields).tail ++ [0x7d])

def compactItems : List Value → List UInt8
  | [] => []
  | item :: rest => 0x2c :: (item.compact ++ compactItems rest)

def compactFields : List (String × Value) → List UInt8
  | [] => []
  | (name, value) :: rest => 0x2c :: 0x22 :: (escapedText name ++ 0x22 :: 0x3a :: (value.compact ++ compactFields rest))

end

mutual

def size : Value → Nat
  | .null => 4
  | .bool true => 4
  | .bool false => 5
  | .number value => (digits value).length
  | .string text => textSize text + 2
  | .array items => sizeOfItems items - 1 + 2
  | .object fields => sizeOfFields fields - 1 + 2

def sizeOfItems : List Value → Nat
  | [] => 0
  | item :: rest => item.size + 1 + sizeOfItems rest

def sizeOfFields : List (String × Value) → Nat
  | [] => 0
  | (name, value) :: rest => textSize name + value.size + 4 + sizeOfFields rest

end

mutual

theorem length_compact : ∀ value : Value, value.compact.length = value.size
  | .null => rfl
  | .bool true => rfl
  | .bool false => rfl
  | .number _ => rfl
  | .string text => by simp [compact, size, textSize]
  | .array items => by simp [compact, size, length_compactItems items]
  | .object fields => by simp [compact, size, length_compactFields fields]

theorem length_compactItems : ∀ items, (compactItems items).length = sizeOfItems items
  | [] => rfl
  | item :: rest => by
    simp [compactItems, sizeOfItems, length_compact item, length_compactItems rest]
    omega

theorem length_compactFields : ∀ fields, (compactFields fields).length = sizeOfFields fields
  | [] => rfl
  | (name, value) :: rest => by
    simp [compactFields, sizeOfFields, length_compact value, length_compactFields rest, textSize]
    omega

end

theorem newline_notMem_digits (n : Int) : 10 ∉ digits n := by
  have hrepr : ∀ k : Nat, ∀ c ∈ (Nat.repr k).toList, c.isDigit = true := by
    intro k c hc
    rw [Nat.toList_repr] at hc
    exact Nat.isDigit_of_mem_toDigits (by omega) (by omega) hc
  have hdigit : ∀ c : Char, c.isDigit = true → UInt8.ofNat c.toNat ≠ 10 := by
    intro c hc heq
    obtain ⟨hlow, hhigh⟩ : 48 ≤ c.toNat ∧ c.toNat ≤ 57 := Char.isDigit_iff_toNat.mp hc
    have hnat := congrArg UInt8.toNat heq
    rw [UInt8.toNat_ofNat', Nat.mod_eq_of_lt (by omega)] at hnat
    have hten : UInt8.toNat 10 = 10 := rfl
    omega
  intro hmem
  obtain ⟨c, hc, heq⟩ := List.mem_map.mp hmem
  rw [Int.toString_eq_repr, Int.repr_eq_if] at hc
  split at hc
  · exact hdigit c (hrepr _ c hc) heq
  · rw [String.toList_append] at hc
    rcases List.mem_append.mp hc with hc | hc
    · obtain rfl : c = '-' := List.mem_singleton.mp hc
      exact absurd heq (by decide)
    · exact hdigit c (hrepr _ c hc) heq

/-! A document is sent on one line. -/

mutual

theorem newline_notMem_compact : ∀ value : Value, 10 ∉ value.compact
  | .null => by decide
  | .bool true => by decide
  | .bool false => by decide
  | .number value => newline_notMem_digits value
  | .string text => by simp [compact, newline_notMem_escapedText text]
  | .array items => by
    have hitems : 10 ∉ (compactItems items).tail := fun hmem =>
      newline_notMem_compactItems items (List.mem_of_mem_tail hmem)
    simp [compact, hitems]
  | .object fields => by
    have hfields : 10 ∉ (compactFields fields).tail := fun hmem =>
      newline_notMem_compactFields fields (List.mem_of_mem_tail hmem)
    simp [compact, hfields]

theorem newline_notMem_compactItems : ∀ items, 10 ∉ compactItems items
  | [] => List.not_mem_nil
  | item :: rest => by simp [compactItems, newline_notMem_compact item, newline_notMem_compactItems rest]

theorem newline_notMem_compactFields : ∀ fields, 10 ∉ compactFields fields
  | [] => List.not_mem_nil
  | (name, value) :: rest => by
    simp [compactFields, newline_notMem_escapedText name, newline_notMem_compact value,
      newline_notMem_compactFields rest]

end

theorem sizeOfItems_map {α : Type} (f : α → Value) (items : List α) :
    sizeOfItems (items.map f) = (items.map fun item => (f item).size + 1).sum := by
  induction items with
  | nil => rfl
  | cons item rest ih => simp [sizeOfItems, ih]

theorem sizeOfFields_append (front back : List (String × Value)) :
    sizeOfFields (front ++ back) = sizeOfFields front + sizeOfFields back := by
  induction front with
  | nil => simp [sizeOfFields]
  | cons field front ih =>
    simp only [List.cons_append, sizeOfFields, ih]
    omega

theorem size_object_append (front : List (String × Value)) (name : String) (value : Value) :
    (object (front ++ [(name, value)])).size = sizeOfFields front + textSize name + value.size + 5 := by
  rw [size, sizeOfFields_append, sizeOfFields, sizeOfFields]
  omega

/-- The bytes of the names of some fields, with the marks around them. -/
def sizeOfNames (names : List String) : Nat := (names.map fun name => textSize name + 4).sum

theorem sizeOfFields_eq (fields : List (String × Value)) :
    sizeOfFields fields = sizeOfNames (fields.map Prod.fst) + (fields.map fun field => field.2.size).sum := by
  induction fields with
  | nil => rfl
  | cons field rest ih =>
    simp only [sizeOfFields, ih, sizeOfNames, List.map_cons, List.sum_cons]
    omega

theorem size_object (fields : List (String × Value)) :
    (object fields).size ≤ sizeOfNames (fields.map Prod.fst) + (fields.map fun field => field.2.size).sum + 2 := by
  rw [size, sizeOfFields_eq]
  omega

theorem sizeOfItems_le {items : List Value} {n : Nat} (h : ∀ item ∈ items, item.size ≤ n) :
    sizeOfItems items ≤ items.length * (n + 1) := by
  induction items with
  | nil => simp [sizeOfItems]
  | cons item rest ih =>
    have hitem := h item List.mem_cons_self
    have hrest := ih fun other hmem => h other (List.mem_cons_of_mem _ hmem)
    rw [sizeOfItems, List.length_cons, Nat.succ_mul]
    omega

theorem digits_length {n k : Nat} (hk : 0 < k) (h : n < 10 ^ k) : (digits n).length ≤ k := by
  have hrepr : toString (n : Int) = Nat.repr n := rfl
  rw [digits, List.length_map, String.length_toList, hrepr]
  exact (Nat.length_repr_le_iff hk).mpr h

end Value

end Faulty
