import Mathlib.Data.List.Basic

/-! # The JSON of texts that need no escape -/

namespace Kori

/-- The bytes of a text of ASCII characters. -/
def ascii (text : String) : List UInt8 := text.toList.map fun c => UInt8.ofNat c.toNat

/-- A text none of whose characters needs an escape, as JSON. -/
def quoted (text : String) : String := "\"" ++ text ++ "\""

/-- Texts with commas between them. -/
def joined : List String → String
  | [] => ""
  | [text] => text
  | text :: rest => text ++ "," ++ joined rest

/-- An object, from its fields. -/
def object (fields : List (String × String)) : String :=
  "\x7b" ++ joined (fields.map fun field => quoted field.1 ++ ":" ++ field.2) ++ "\x7d"

theorem ascii_length (text : String) : (ascii text).length = text.length := by
  rw [ascii, List.length_map, String.length_toList]

theorem le_joined {text : String} {texts : List String} (h : text ∈ texts) : text.length ≤ (joined texts).length := by
  induction texts using joined.induct with
  | case1 => cases h
  | case2 only =>
    rw [List.mem_singleton.mp h]
    exact Nat.le_refl _
  | case3 first rest hrest ih =>
    rw [joined, String.length_append, String.length_append]
    · rcases List.mem_cons.mp h with rfl | hmem
      · exact Nat.le_add_right_of_le (Nat.le_add_right _ _)
      · exact Nat.le_add_left_of_le (ih hmem)
    · exact hrest

theorem le_object {key value : String} {fields : List (String × String)} (h : (key, value) ∈ fields) :
    value.length ≤ (object fields).length := by
  have hfield := le_joined (List.mem_map_of_mem (f := fun field : String × String => quoted field.1 ++ ":" ++ field.2) h)
  simp only [object, String.length_append] at hfield ⊢
  omega

end Kori
