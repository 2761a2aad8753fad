import Mathlib.Data.List.Basic

/-! # Documents of nested values, and the texts in them -/

namespace Faulty

/-- A document, as it is exchanged. -/
inductive Value where
  | null
  | bool (value : Bool)
  | number (value : Int)
  | string (text : String)
  | array (items : List Value)
  | object (fields : List (String × Value))

namespace Value

variable (f : String → String)

/-! Every text of a document; the names of its fields are none. -/

mutual

def strings : Value → List String
  | .string text => [text]
  | .array items => stringsOfItems items
  | .object fields => stringsOfFields fields
  | _ => []

def stringsOfItems : List Value → List String
  | [] => []
  | item :: rest => item.strings ++ stringsOfItems rest

def stringsOfFields : List (String × Value) → List String
  | [] => []
  | (_, value) :: rest => value.strings ++ stringsOfFields rest

end

/-! The document with every text changed. -/

mutual

def mapStrings : Value → Value
  | .string text => .string (f text)
  | .array items => .array (mapItems items)
  | .object fields => .object (mapFields fields)
  | value => value

def mapItems : List Value → List Value
  | [] => []
  | item :: rest => item.mapStrings :: mapItems rest

def mapFields : List (String × Value) → List (String × Value)
  | [] => []
  | (name, value) :: rest => (name, value.mapStrings) :: mapFields rest

end

mutual

theorem strings_mapStrings : ∀ value : Value, (value.mapStrings f).strings = value.strings.map f
  | .null => rfl
  | .bool _ => rfl
  | .number _ => rfl
  | .string _ => rfl
  | .array items => stringsOfItems_mapItems items
  | .object fields => stringsOfFields_mapFields fields

theorem stringsOfItems_mapItems : ∀ items, stringsOfItems (mapItems f items) = (stringsOfItems items).map f
  | [] => rfl
  | item :: rest => by
    rw [mapItems, stringsOfItems, stringsOfItems, List.map_append, strings_mapStrings item, stringsOfItems_mapItems rest]

theorem stringsOfFields_mapFields : ∀ fields, stringsOfFields (mapFields f fields) = (stringsOfFields fields).map f
  | [] => rfl
  | (_, value) :: rest => by
    rw [mapFields, stringsOfFields, stringsOfFields, List.map_append, strings_mapStrings value,
      stringsOfFields_mapFields rest]

end

mutual

theorem mapStrings_of_kept : ∀ value : Value, (∀ text ∈ value.strings, f text = text) → value.mapStrings f = value
  | .null, _ => rfl
  | .bool _, _ => rfl
  | .number _, _ => rfl
  | .string text, h => congrArg Value.string (h text List.mem_cons_self)
  | .array items, h => congrArg Value.array (mapItems_of_kept items h)
  | .object fields, h => congrArg Value.object (mapFields_of_kept fields h)

theorem mapItems_of_kept : ∀ items, (∀ text ∈ stringsOfItems items, f text = text) → mapItems f items = items
  | [], _ => rfl
  | item :: rest, h => by
    rw [mapItems, mapStrings_of_kept item fun text htext => h text (List.mem_append_left _ htext),
      mapItems_of_kept rest fun text htext => h text (List.mem_append_right _ htext)]

theorem mapFields_of_kept : ∀ fields, (∀ text ∈ stringsOfFields fields, f text = text) → mapFields f fields = fields
  | [], _ => rfl
  | (_, value) :: rest, h => by
    rw [mapFields, mapStrings_of_kept value fun text htext => h text (List.mem_append_left _ htext),
      mapFields_of_kept rest fun text htext => h text (List.mem_append_right _ htext)]

end

theorem stringsOfFields_append (front back : List (String × Value)) :
    stringsOfFields (front ++ back) = stringsOfFields front ++ stringsOfFields back := by
  induction front with
  | nil => rfl
  | cons field front ih =>
    rw [List.cons_append, stringsOfFields, stringsOfFields, ih, List.append_assoc]

theorem mapFields_append (front back : List (String × Value)) :
    mapFields f (front ++ back) = mapFields f front ++ mapFields f back := by
  induction front with
  | nil => rfl
  | cons field front ih =>
    rw [List.cons_append, mapFields, mapFields, ih, List.cons_append]

theorem mapFields_names {fields : List (String × Value)} {field : String × Value} (h : field ∈ mapFields f fields) :
    ∃ value, (field.1, value) ∈ fields := by
  induction fields with
  | nil => cases h
  | cons first fields ih =>
    rcases List.mem_cons.mp h with rfl | h
    · exact ⟨first.2, List.mem_cons_self⟩
    · obtain ⟨value, hvalue⟩ := ih h
      exact ⟨value, List.mem_cons_of_mem _ hvalue⟩

theorem mem_stringsOfFields {fields : List (String × Value)} {name : String} {value : Value} {text : String}
    (h : (name, value) ∈ fields) (htext : text ∈ value.strings) : text ∈ stringsOfFields fields := by
  induction fields with
  | nil => cases h
  | cons first fields ih =>
    rcases List.mem_cons.mp h with rfl | h
    · exact List.mem_append_left _ htext
    · exact List.mem_append_right _ (ih h)

end Value

end Faulty
