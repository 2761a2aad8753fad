import Mathlib.Data.List.Basic

/-! # Streams: what is left to read, how it ends, and one delimited read of it -/

namespace Faulty

variable {α : Type} [DecidableEq α]

/-- How a stream ends once its items are read. -/
inductive Ending where
  | closed
  | failed (detail : String)

def Ending.failure : Ending → Option String
  | closed => none
  | failed detail => some detail

structure Incoming (α : Type) where
  items : List α
  ending : Ending

/-- The items one read took, whether the stream failed under it, and what it left. -/
structure Taken (α : Type) where
  items : List α
  failure : Option String
  rest : Incoming α

namespace Incoming

/-- Reads up to the first delimiter, that one included, and at most `limit` items. -/
def readUntil (delimiter : α) : Nat → Incoming α → Taken α
  | 0, stream => ⟨[], none, stream⟩
  | limit + 1, stream =>
    match stream.items with
    | [] => ⟨[], stream.ending.failure, stream⟩
    | item :: items =>
      if item = delimiter then ⟨[item], none, { stream with items }⟩
      else
        let taken := readUntil delimiter limit { stream with items }
        { taken with items := item :: taken.items }

variable {delimiter : α} {limit : Nat} {ending : Ending}

@[simp] theorem readUntil_zero (stream : Incoming α) :
    stream.readUntil delimiter 0 = ⟨[], none, stream⟩ := rfl

@[simp] theorem readUntil_nil : readUntil delimiter (limit + 1) ⟨[], ending⟩ =
    ⟨[], ending.failure, ⟨[], ending⟩⟩ := rfl

theorem readUntil_cons (item : α) (items : List α) : readUntil delimiter (limit + 1) ⟨item :: items, ending⟩ =
    if item = delimiter then ⟨[item], none, ⟨items, ending⟩⟩
    else { readUntil delimiter limit ⟨items, ending⟩ with
      items := item :: (readUntil delimiter limit ⟨items, ending⟩).items } := rfl

/-! ## What it takes -/

theorem readUntil_split (items : List α) :
    items = (readUntil delimiter limit ⟨items, ending⟩).items ++
      (readUntil delimiter limit ⟨items, ending⟩).rest.items := by
  induction limit generalizing items with
  | zero => rfl
  | succ limit ih =>
    cases items with
    | nil => rfl
    | cons item items =>
      rw [readUntil_cons]
      split
      · rfl
      · exact congrArg (item :: ·) (ih items)

theorem readUntil_length (items : List α) :
    (readUntil delimiter limit ⟨items, ending⟩).items.length ≤ limit := by
  induction limit generalizing items with
  | zero => exact Nat.le_refl 0
  | succ limit ih =>
    cases items with
    | nil => exact Nat.zero_le _
    | cons item items =>
      rw [readUntil_cons]
      split
      · exact Nat.succ_le_succ (Nat.zero_le _)
      · exact Nat.succ_le_succ (ih items)

theorem readUntil_dropLast (items : List α) :
    delimiter ∉ (readUntil delimiter limit ⟨items, ending⟩).items.dropLast := by
  induction limit generalizing items with
  | zero => exact List.not_mem_nil
  | succ limit ih =>
    cases items with
    | nil => exact List.not_mem_nil
    | cons item items =>
      rw [readUntil_cons]
      split
      · exact List.not_mem_nil
      · rename_i hitem
        dsimp only
        generalize htaken : (readUntil delimiter limit ⟨items, ending⟩).items = taken
        have hrest := htaken ▸ ih items
        cases taken with
        | nil => exact List.not_mem_nil
        | cons next taken =>
          rw [List.dropLast_cons_cons, List.mem_cons]
          exact fun h => h.elim (fun heq => hitem heq.symm) hrest

/-! ## How it comes out -/

variable {line rest : List α}

theorem readUntil_line (hline : delimiter ∉ line) (hlimit : line.length < limit) :
    readUntil delimiter limit ⟨line ++ delimiter :: rest, ending⟩ =
      ⟨line ++ [delimiter], none, ⟨rest, ending⟩⟩ := by
  induction line generalizing limit with
  | nil =>
    obtain ⟨limit, rfl⟩ := Nat.exists_eq_add_one.mpr hlimit
    exact (readUntil_cons delimiter rest).trans (if_pos rfl)
  | cons item line ih =>
    obtain ⟨limit, rfl⟩ := Nat.exists_eq_add_one.mpr (Nat.zero_lt_of_lt hlimit)
    rw [List.mem_cons, not_or] at hline
    rw [List.cons_append, readUntil_cons, if_neg (Ne.symm hline.1),
      ih hline.2 (Nat.lt_of_succ_lt_succ hlimit)]
    rfl

theorem readUntil_full (hline : delimiter ∉ line) (hlimit : line.length = limit) :
    readUntil delimiter limit ⟨line ++ rest, ending⟩ = ⟨line, none, ⟨rest, ending⟩⟩ := by
  induction line generalizing limit with
  | nil =>
    subst hlimit
    rfl
  | cons item line ih =>
    subst hlimit
    rw [List.mem_cons, not_or] at hline
    rw [List.cons_append, List.length_cons, readUntil_cons, if_neg (Ne.symm hline.1), ih hline.2 rfl]

theorem readUntil_short (hline : delimiter ∉ line) (hlimit : line.length < limit) :
    readUntil delimiter limit ⟨line, ending⟩ = ⟨line, ending.failure, ⟨[], ending⟩⟩ := by
  induction line generalizing limit with
  | nil =>
    obtain ⟨limit, rfl⟩ := Nat.exists_eq_add_one.mpr hlimit
    rfl
  | cons item line ih =>
    obtain ⟨limit, rfl⟩ := Nat.exists_eq_add_one.mpr (Nat.zero_lt_of_lt hlimit)
    rw [List.mem_cons, not_or] at hline
    rw [readUntil_cons, if_neg (Ne.symm hline.1), ih hline.2 (Nat.lt_of_succ_lt_succ hlimit)]

end Incoming

end Faulty
