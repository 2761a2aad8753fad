import Kori.Faulty.Document

/-! # Typed values, written to documents and read back -/

namespace Faulty

open Value

variable {α β : Type}

/-- How a type is written and read back. -/
structure Codec (α : Type) where
  write : α → Value
  read : Value → Option α
  read_write : ∀ a, read (write a) = some a
  /-- What is read brings no text that is not in the document. -/
  strings_read : ∀ {value a}, read value = some a → (write a).strings ⊆ value.strings

namespace Codec

def text : Codec String where
  write := .string
  read
    | .string text => some text
    | _ => none
  read_write _ := rfl
  strings_read {value a} h := by
    cases value <;> cases h
    exact List.Subset.refl _

def flag : Codec Bool where
  write := .bool
  read
    | .bool value => some value
    | _ => none
  read_write _ := rfl
  strings_read _ := List.nil_subset _

/-- A number whose type takes some of the numbers there are. -/
def numberOf (toInt : α → Int) (ofInt : Int → Option α) (h : ∀ a, ofInt (toInt a) = some a) : Codec α where
  write a := .number (toInt a)
  read
    | .number n => ofInt n
    | _ => none
  read_write := h
  strings_read _ := List.nil_subset _

def int : Codec Int := numberOf id some fun _ => rfl

def natural : Codec Nat :=
  numberOf Int.ofNat (fun | .ofNat n => some n | .negSucc _ => none) fun _ => rfl

def byte : Codec UInt8 :=
  numberOf (fun n => n.toNat) (fun n => if 0 ≤ n ∧ n < 256 then some (UInt8.ofNat n.toNat) else none) fun n => by
    have hlt := n.toNat_lt
    rw [if_pos (by omega)]
    simp

def word : Codec UInt16 :=
  numberOf (fun n => n.toNat) (fun n => if 0 ≤ n ∧ n < 65536 then some (UInt16.ofNat n.toNat) else none) fun n => by
    have hlt := n.toNat_lt
    rw [if_pos (by omega)]
    simp

def doubleWord : Codec UInt32 :=
  numberOf (fun n => n.toNat) (fun n => if 0 ≤ n ∧ n < 4294967296 then some (UInt32.ofNat n.toNat) else none) fun n => by
    have hlt := n.toNat_lt
    rw [if_pos (by omega)]
    simp

/-- A type of names, each with a spelling. -/
def named (spelling : α → String) (all : List α)
    (h : ∀ a, all.find? (fun other => spelling other == spelling a) = some a) : Codec α where
  write a := .string (spelling a)
  read
    | .string text => all.find? fun other => spelling other == text
    | _ => none
  read_write := h
  strings_read {value a} h := by
    cases value with
    | string text =>
      have hfind : all.find? (fun other => spelling other == text) = some a := h
      have hspelled := List.find?_some hfind
      have hsame : spelling a = text := eq_of_beq hspelled
      rw [hsame]
      exact List.Subset.refl _
    | _ => cases h

variable (codec : Codec α)

def readAll : List Value → Option (List α)
  | [] => some []
  | item :: rest => do return (← codec.read item) :: (← readAll rest)

theorem readAll_map (items : List α) : codec.readAll (items.map codec.write) = some items := by
  induction items with
  | nil => rfl
  | cons item items ih => simp [readAll, codec.read_write, ih]

theorem strings_readAll {values : List Value} {items : List α} (h : codec.readAll values = some items) :
    stringsOfItems (items.map codec.write) ⊆ stringsOfItems values := by
  induction values generalizing items with
  | nil =>
    cases h
    exact List.nil_subset _
  | cons value values ih =>
    obtain ⟨item, hitem, hrest⟩ := Option.bind_eq_some_iff.mp h
    obtain ⟨rest, hreadAll, heq⟩ := Option.bind_eq_some_iff.mp hrest
    cases heq
    exact List.append_subset.mpr ⟨List.subset_append_of_subset_left _ (codec.strings_read hitem),
      List.subset_append_of_subset_right _ (ih hreadAll)⟩

def list : Codec (List α) where
  write items := .array (items.map codec.write)
  read
    | .array values => codec.readAll values
    | _ => none
  read_write := codec.readAll_map
  strings_read {value items} h := by
    cases value with
    | array values => exact codec.strings_readAll h
    | _ => cases h

end Codec

/-! ## Fields of an object -/

abbrev Object := List (String × Value)

theorem strings_of_lookup {object : Object} {name : String} {value : Value} (h : object.lookup name = some value) :
    value.strings ⊆ stringsOfFields object := by
  obtain ⟨front, back, rfl, -⟩ := List.lookup_eq_some_iff.mp h
  exact fun _ => mem_stringsOfFields (List.mem_append_right _ List.mem_cons_self)

theorem lookup_of_notMem {object : Object} {name : String} (h : ∀ field ∈ object, field.1 ≠ name) :
    object.lookup name = none := by
  rw [List.lookup_eq_none_iff]
  intro field hfield
  exact bne_iff_ne.mpr (Ne.symm (h field hfield))

/-- How a type is spread over the fields of an object, which may have others. -/
structure Fields (α : Type) where
  names : List String
  write : α → Object
  read : Object → Option α
  write_names : ∀ a, ∀ field ∈ write a, field.1 ∈ names
  /-- What is read depends on the fields of these names alone. -/
  read_of_agrees : ∀ a object, (∀ name ∈ names, object.lookup name = (write a).lookup name) → read object = some a
  strings_read : ∀ {object a}, read object = some a → stringsOfFields (write a) ⊆ stringsOfFields object

namespace Fields

/-- No field at all. -/
def empty : Fields Unit where
  names := []
  write _ := []
  read _ := some ()
  write_names _ _ h := nomatch h
  read_of_agrees _ _ _ := rfl
  strings_read _ := List.nil_subset _

def field (name : String) (codec : Codec α) : Fields α where
  names := [name]
  write a := [(name, codec.write a)]
  read object := (object.lookup name).bind codec.read
  write_names a field h := by
    obtain rfl := List.mem_singleton.mp h
    exact List.mem_singleton_self name
  read_of_agrees a object h := by
    rw [h name (List.mem_singleton_self name), List.lookup_cons_self, Option.bind_some, codec.read_write]
  strings_read {object a} h := by
    obtain ⟨value, hvalue, hread⟩ := Option.bind_eq_some_iff.mp h
    rw [stringsOfFields, stringsOfFields, List.append_nil]
    exact List.Subset.trans (codec.strings_read hread) (strings_of_lookup hvalue)

abbrev text (name : String) : Fields String := field name .text
abbrev flag (name : String) : Fields Bool := field name .flag
abbrev natural (name : String) : Fields Nat := field name .natural
abbrev byte (name : String) : Fields UInt8 := field name .byte

/-- A value that may be missing, which is written as null. -/
def optional (name : String) (codec : Codec α) (hnull : ∀ a, codec.write a ≠ .null) : Fields (Option α) where
  names := [name]
  write a := [(name, (a.map codec.write).getD .null)]
  read object := match object.lookup name with
    | none => some none
    | some .null => some none
    | some value => (codec.read value).map some
  write_names a field h := by
    obtain rfl := List.mem_singleton.mp h
    exact List.mem_singleton_self name
  read_of_agrees a object h := by
    rw [h name (List.mem_singleton_self name), List.lookup_cons_self]
    cases a with
    | none => rfl
    | some a =>
      have hsome := hnull a
      have hread := codec.read_write a
      change (match some (codec.write a) with
        | none => some none
        | some .null => some none
        | some value => (codec.read value).map some) = some (some a)
      generalize codec.write a = value at hsome hread
      cases value <;> simp_all
  strings_read {object a} h := by
    rw [stringsOfFields, stringsOfFields, List.append_nil]
    cases a with
    | none => exact List.nil_subset _
    | some a =>
      cases hvalue : object.lookup name with
      | none =>
        rw [hvalue] at h
        cases h
      | some value =>
        rw [hvalue] at h
        have hread : codec.read value = some a := by
          cases value <;> simp_all
        exact List.Subset.trans (codec.strings_read hread) (strings_of_lookup hvalue)

/-- The fields of two types side by side. -/
def both (f : Fields α) (g : Fields β) (h : ∀ name ∈ f.names, name ∉ g.names := by decide) :
    Fields (α × β) where
  names := f.names ++ g.names
  write a := f.write a.1 ++ g.write a.2
  read object := do return (← f.read object, ← g.read object)
  write_names a field hfield := by
    rcases List.mem_append.mp hfield with hfield | hfield
    · exact List.mem_append_left _ (f.write_names _ _ hfield)
    · exact List.mem_append_right _ (g.write_names _ _ hfield)
  read_of_agrees a object hagrees := by
    have hf : f.read object = some a.1 := by
      refine f.read_of_agrees _ _ fun name hname => ?_
      have hother : (g.write a.2).lookup name = none :=
        lookup_of_notMem fun field hfield heq => h name hname (heq ▸ g.write_names _ _ hfield)
      rw [hagrees name (List.mem_append_left _ hname), List.lookup_append, hother, Option.or_none]
    have hg : g.read object = some a.2 := by
      refine g.read_of_agrees _ _ fun name hname => ?_
      have hother : (f.write a.1).lookup name = none :=
        lookup_of_notMem fun field hfield heq => h name (heq ▸ f.write_names _ _ hfield) hname
      rw [hagrees name (List.mem_append_right _ hname), List.lookup_append, hother, Option.none_or]
    rw [hf, hg]
    rfl
  strings_read {object a} hread := by
    obtain ⟨first, hfirst, hrest⟩ := Option.bind_eq_some_iff.mp hread
    obtain ⟨second, hsecond, heq⟩ := Option.bind_eq_some_iff.mp hrest
    cases heq
    rw [stringsOfFields_append]
    exact List.append_subset.mpr ⟨f.strings_read hfirst, g.strings_read hsecond⟩

/-- The same fields for a type that is another one's values in a new form. -/
def as (f : Fields α) (make : α → β) (parts : β → α) (hmake : ∀ b, make (parts b) = b := by exact fun _ => rfl)
    (hparts : ∀ a, parts (make a) = a := by exact fun _ => rfl) : Fields β where
  names := f.names
  write b := f.write (parts b)
  read object := (f.read object).map make
  write_names b := f.write_names (parts b)
  read_of_agrees b object h := by
    rw [f.read_of_agrees (parts b) object h, Option.map_some, hmake]
  strings_read {object b} h := by
    obtain ⟨a, ha, rfl⟩ := Option.map_eq_some_iff.mp h
    rw [hparts]
    exact f.strings_read ha

end Fields

/-- A type whose values are objects. -/
def Codec.object (f : Fields α) : Codec α where
  write a := .object (f.write a)
  read
    | .object fields => f.read fields
    | _ => none
  read_write a := f.read_of_agrees a _ fun _ _ => rfl
  strings_read {value a} h := by
    cases value with
    | object fields => exact f.strings_read h
    | _ => cases h

/-! ## Variants, told apart by a field -/

/-- One of the forms a value may have, with the fields of that form. The field `tag` names the form. -/
structure Variant (tag : String) (kind : α → String) : Type 1 where
  Payload : Type
  name : String
  fields : Fields Payload
  make : Payload → α
  take : α → Option Payload
  tag_notMem : tag ∉ fields.names
  kind_make : ∀ p, kind (make p) = name
  take_make : ∀ p, take (make p) = some p
  make_take : ∀ a p, take a = some p → make p = a

namespace Variant

variable {tag : String} {kind : α → String}

def of (name : String) (fields : Fields β) (make : β → α) (take : α → Option β)
    (tag_notMem : tag ∉ fields.names := by decide)
    (kind_make : ∀ p, kind (make p) = name := by exact fun _ => rfl)
    (take_make : ∀ p, take (make p) = some p := by exact fun _ => rfl)
    (make_take : ∀ a p, take a = some p → make p = a := by
      intro a p h
      cases a <;> cases h <;> rfl) : Variant tag kind :=
  ⟨β, name, fields, make, take, tag_notMem, kind_make, take_make, make_take⟩

end Variant

/-- A type of variants, each of its values having one of them. -/
def Fields.tagged (tag : String) (kind : α → String) (variants : List (Variant tag kind))
    (hcover : ∀ a, ∃ variant p, variants.find? (fun variant => variant.name == kind a) = some variant ∧
      variant.take a = some p) : Fields α where
  names := tag :: variants.flatMap fun variant => variant.fields.names
  write a := (tag, .string (kind a)) :: (((variants.find? fun variant => variant.name == kind a).bind fun variant =>
    (variant.take a).map variant.fields.write).getD [])
  read object := match object.lookup tag with
    | some (.string name) => (variants.find? fun variant => variant.name == name).bind fun variant =>
      (variant.fields.read object).map variant.make
    | _ => none
  write_names a field hfield := by
    obtain ⟨variant, p, hfind, htake⟩ := hcover a
    rw [hfind, Option.bind_some, htake] at hfield
    rcases List.mem_cons.mp hfield with rfl | hfield
    · exact List.mem_cons_self
    · refine List.mem_cons_of_mem _ (List.mem_flatMap.mpr ⟨variant, List.mem_of_find?_eq_some hfind, ?_⟩)
      exact variant.fields.write_names p field hfield
  read_of_agrees a object hagrees := by
    obtain ⟨variant, p, hfind, htake⟩ := hcover a
    have hmem := List.mem_of_find?_eq_some hfind
    rw [hfind, Option.bind_some, htake] at hagrees
    have hname : object.lookup tag = some (.string (kind a)) := by
      rw [hagrees tag List.mem_cons_self, List.lookup_cons_self]
    have hread : variant.fields.read object = some p := by
      refine variant.fields.read_of_agrees p object fun name hin => ?_
      rw [hagrees name (List.mem_cons_of_mem _ (List.mem_flatMap.mpr ⟨variant, hmem, hin⟩)), List.lookup_cons]
      have hne : (name == tag) = false := beq_eq_false_iff_ne.mpr fun heq => variant.tag_notMem (heq ▸ hin)
      rw [hne]
      rfl
    rw [hname]
    dsimp only
    rw [hfind, Option.bind_some, hread, Option.map_some, variant.make_take a p htake]
  strings_read {object a} hread := by
    cases hname : object.lookup tag with
    | none =>
      rw [hname] at hread
      cases hread
    | some value =>
      rw [hname] at hread
      cases value with
      | string name =>
        obtain ⟨variant, hfind, hmake⟩ := Option.bind_eq_some_iff.mp hread
        obtain ⟨p, hp, rfl⟩ := Option.map_eq_some_iff.mp hmake
        have hnamed := List.find?_some hfind
        have hsame : kind (variant.make p) = name := (variant.kind_make p).trans (eq_of_beq hnamed)
        rw [hsame, hfind, Option.bind_some, variant.take_make]
        exact List.append_subset.mpr ⟨strings_of_lookup hname, variant.fields.strings_read hp⟩
      | _ => cases hread

/-! ## Values read back from a document whose texts have changed -/

section Changed

variable (f : String → String)

/-- What is read back, if anything is, is related to what was written. -/
def Codec.Keeps (codec : Codec α) (R : α → α → Prop) : Prop :=
  ∀ {a b}, codec.read ((codec.write a).mapStrings f) = some b → R a b

def Fields.Keeps (fields : Fields α) (R : α → α → Prop) : Prop :=
  ∀ {a b object}, (∀ name ∈ fields.names, object.lookup name = (mapFields f (fields.write a)).lookup name) →
    fields.read object = some b → R a b

variable {f} {R : α → α → Prop} {S : β → β → Prop} {codec : Codec α} {fields : Fields α}

theorem Codec.keeps_object (h : fields.Keeps f R) : (Codec.object fields).Keeps f R :=
  fun hread => h (fun _ _ => rfl) hread

theorem Codec.keeps_list (h : codec.Keeps f R) : codec.list.Keeps f (List.Forall₂ R) := by
  intro items others hread
  change codec.readAll (mapItems f (items.map codec.write)) = some others at hread
  induction items generalizing others with
  | nil =>
    cases hread
    exact .nil
  | cons item items ih =>
    obtain ⟨other, hother, hrest⟩ := Option.bind_eq_some_iff.mp hread
    obtain ⟨rest, hreadAll, heq⟩ := Option.bind_eq_some_iff.mp hrest
    cases heq
    exact .cons (h hother) (ih hreadAll)

theorem Fields.keeps_any : fields.Keeps f fun _ _ => True := fun _ _ => trivial

theorem Fields.keeps_field {name : String} (h : codec.Keeps f R) : (field name codec).Keeps f R := by
  intro a b object hagrees hread
  obtain ⟨value, hvalue, hread⟩ := Option.bind_eq_some_iff.mp hread
  rw [hagrees name (List.mem_singleton_self name)] at hvalue
  obtain rfl : (codec.write a).mapStrings f = value :=
    Option.some.inj ((List.lookup_cons_self (k := name) (b := (codec.write a).mapStrings f)).symm.trans hvalue)
  exact h hread

theorem Fields.keeps_both {other : Fields β} {hnames : ∀ name ∈ fields.names, name ∉ other.names}
    (h : fields.Keeps f R) (hother : other.Keeps f S) :
    (fields.both other hnames).Keeps f fun a b => R a.1 b.1 ∧ S a.2 b.2 := by
  intro a b object hagrees hread
  obtain ⟨first, hfirst, hrest⟩ := Option.bind_eq_some_iff.mp hread
  obtain ⟨second, hsecond, heq⟩ := Option.bind_eq_some_iff.mp hrest
  cases heq
  have hwritten : mapFields f ((fields.both other hnames).write a) =
      mapFields f (fields.write a.1) ++ mapFields f (other.write a.2) := mapFields_append f _ _
  refine ⟨h (fun name hname => ?_) hfirst, hother (fun name hname => ?_) hsecond⟩
  · have hmissing : (mapFields f (other.write a.2)).lookup name = none := by
      refine lookup_of_notMem fun field hfield heq => ?_
      obtain ⟨value, hvalue⟩ := mapFields_names f hfield
      have hnamed : field.1 ∈ other.names := other.write_names _ (field.1, value) hvalue
      exact hnames name hname (heq ▸ hnamed)
    rw [hagrees name (List.mem_append_left _ hname), hwritten, List.lookup_append, hmissing, Option.or_none]
  · have hmissing : (mapFields f (fields.write a.1)).lookup name = none := by
      refine lookup_of_notMem fun field hfield heq => ?_
      obtain ⟨value, hvalue⟩ := mapFields_names f hfield
      have hnamed : field.1 ∈ fields.names := fields.write_names _ (field.1, value) hvalue
      exact hnames name (heq ▸ hnamed) hname
    rw [hagrees name (List.mem_append_right _ hname), hwritten, List.lookup_append, hmissing, Option.none_or]

theorem Fields.keeps_as {make : α → β} {parts : β → α} {hmake : ∀ b, make (parts b) = b}
    {hparts : ∀ a, parts (make a) = a} (h : fields.Keeps f R) :
    (fields.as make parts hmake hparts).Keeps f fun a b => R (parts a) (parts b) := by
  intro a b object hagrees hread
  obtain ⟨other, hother, rfl⟩ := Option.map_eq_some_iff.mp hread
  rw [hparts]
  exact h hagrees hother

theorem Fields.keeps_optional {name : String} {hnull : ∀ a, codec.write a ≠ .null} (h : codec.Keeps f R) :
    (optional name codec hnull).Keeps f fun a b => ∀ y, b = some y → ∃ x, a = some x ∧ R x y := by
  rintro a b object hagrees hread y rfl
  have hvalue : object.lookup name = some (((a.map codec.write).getD .null).mapStrings f) := by
    rw [hagrees name (List.mem_singleton_self name)]
    exact List.lookup_cons_self
  cases a with
  | none =>
    change (match object.lookup name with
      | none => some none
      | some .null => some none
      | some value => (codec.read value).map some) = some (some y) at hread
    rw [hvalue] at hread
    cases hread
  | some x =>
    refine ⟨x, rfl, h ?_⟩
    change object.lookup name = some ((codec.write x).mapStrings f) at hvalue
    change (match object.lookup name with
      | none => some none
      | some .null => some none
      | some value => (codec.read value).map some) = some (some y) at hread
    rw [hvalue] at hread
    generalize (codec.write x).mapStrings f = value at hread
    cases value <;> simp_all

theorem Fields.keeps_tagged {tag : String} {kind : α → String} {variants : List (Variant tag kind)}
    {hcover : ∀ a, ∃ variant p, variants.find? (fun variant => variant.name == kind a) = some variant ∧
      variant.take a = some p} : (tagged tag kind variants hcover).Keeps f fun a b => kind b = f (kind a) := by
  intro a b object hagrees hread
  have hname : object.lookup tag = some (.string (f (kind a))) := by
    rw [hagrees tag List.mem_cons_self]
    exact List.lookup_cons_self
  unfold tagged at hread
  dsimp only at hread
  rw [hname] at hread
  obtain ⟨variant, hfind, hmake⟩ := Option.bind_eq_some_iff.mp hread
  obtain ⟨p, -, rfl⟩ := Option.map_eq_some_iff.mp hmake
  have hnamed := List.find?_some hfind
  exact (variant.kind_make p).trans (eq_of_beq hnamed)

end Changed

end Faulty
