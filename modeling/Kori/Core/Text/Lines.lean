import Kori.Core.Text

/-! # Lines and words of a text, and numbers written in decimal -/

namespace Kori.Text

/-- `str::lines`: what stands between line feeds, without the carriage return before one. -/
def linesFrom (line : List Char) : List Char → List (List Char)
  | [] => if line = [] then [] else [line]
  | c :: rest =>
    if c = '\n' then (if line.getLast? = some '\r' then line.dropLast else line) :: linesFrom [] rest
    else linesFrom (line ++ [c]) rest

def lines (text : List Char) : List (List Char) := linesFrom [] text

/-- `str::split_whitespace`. -/
def wordsFrom (word : List Char) : List Char → List (List Char)
  | [] => if word = [] then [] else [word]
  | c :: rest =>
    if isWhitespace c then (if word = [] then wordsFrom [] rest else word :: wordsFrom [] rest)
    else wordsFrom (word ++ [c]) rest

def words (text : List Char) : List (List Char) := wordsFrom [] text

/-- `u64::from_str`: an optional `+`, then digits that fit. -/
def parseU64 (text : List Char) : Option Nat := do
  let n ← digits (match text with | '+' :: rest => rest | _ => text)
  if n < 2 ^ 64 then some n else none

/-! ## Lines -/

theorem linesFrom_append {line front : List Char} (hfront : '\n' ∉ front) (rest : List Char) :
    linesFrom line (front ++ rest) = linesFrom (line ++ front) rest := by
  induction front generalizing line with
  | nil => simp
  | cons c front ih =>
    rw [List.mem_cons, not_or] at hfront
    rw [List.cons_append, linesFrom, if_neg (Ne.symm hfront.1), ih hfront.2, List.append_assoc]
    rfl

/-- A line on its own: no line feed in it, and no space at either end. -/
structure Plain (line : List Char) : Prop where
  ne_nil : line ≠ []
  feed : '\n' ∉ line
  head : ∀ c ∈ line.head?, isWhitespace c = false
  last : ∀ c ∈ line.getLast?, isWhitespace c = false

variable {line : List Char}

theorem lines_cons (h : Plain line) (rest : List Char) : lines (line ++ '\n' :: rest) = line :: lines rest := by
  have hreturn : line.getLast? ≠ some '\r' := fun hlast => absurd (h.last _ hlast) (by decide)
  unfold lines
  rw [linesFrom_append h.feed, List.nil_append, linesFrom, if_pos rfl, if_neg hreturn]

theorem lines_last (h : Plain line) : lines line = [line] := by
  have happend := @linesFrom_append [] line h.feed []
  rw [List.append_nil, List.nil_append] at happend
  rw [lines, happend, linesFrom, if_neg h.ne_nil]

theorem trim_append {front : List Char} (hne : front ≠ []) (hhead : ∀ c ∈ front.head?, isWhitespace c = false)
    (hlast : ∀ c ∈ front.getLast?, isWhitespace c = false) (back : List Char) :
    trim (front ++ back) = front ++ back.rdropWhile isWhitespace := by
  have hkept : (front ++ back).dropWhile isWhitespace = front ++ back := by
    obtain ⟨c, rest, rfl⟩ := List.exists_cons_of_ne_nil hne
    rw [List.cons_append, List.dropWhile_cons_of_neg (by simp [hhead c rfl])]
  rw [trim, hkept]
  clear hkept
  induction back using List.reverseRecOn with
  | nil =>
    obtain ⟨init, c, rfl⟩ := (List.eq_nil_or_concat' front).resolve_left hne
    rw [List.append_nil, List.rdropWhile_nil, List.append_nil,
      List.rdropWhile_concat_neg _ _ _ (by simp [hlast c (List.getLast?_concat ..)])]
  | append_singleton back c ih =>
    rw [← List.append_assoc, List.rdropWhile_concat, List.rdropWhile_concat]
    split
    · exact ih
    · rw [List.append_assoc]

/-- Lines written one after another. -/
def unlines (all : List (List Char)) : List Char := all.flatMap fun line => line ++ ['\n']

theorem lines_unlines_append {all : List (List Char)} (h : ∀ line ∈ all, Plain line) (rest : List Char) :
    lines (unlines all ++ rest) = all ++ lines rest := by
  induction all with
  | nil => rfl
  | cons line all ih =>
    rw [List.forall_mem_cons] at h
    rw [unlines, List.flatMap_cons, ← unlines, List.append_assoc, List.append_assoc, List.singleton_append,
      lines_cons h.1, ih h.2]
    rfl

theorem lines_trim_unlines {all : List (List Char)} (h : ∀ line ∈ all, Plain line) :
    lines (trim (unlines all)) = all := by
  rcases List.eq_nil_or_concat' all with rfl | ⟨init, last, rfl⟩
  · rfl
  have hlast := h last (by simp)
  have hinit : ∀ line ∈ init, Plain line := fun line hmem => h line (by simp [hmem])
  have hsplit : unlines (init ++ [last]) = (unlines init ++ last) ++ ['\n'] := by
    unfold unlines
    rw [List.flatMap_append, List.flatMap_singleton, List.append_assoc]
  have hhead : ∀ c ∈ (unlines init ++ last).head?, isWhitespace c = false := by
    cases init with
    | nil => exact hlast.head
    | cons first rest =>
      have hfirst := hinit first (by simp)
      obtain ⟨c, tail, rfl⟩ := List.exists_cons_of_ne_nil hfirst.ne_nil
      exact hfirst.head
  have hend : ∀ c ∈ (unlines init ++ last).getLast?, isWhitespace c = false := by
    rw [List.getLast?_append_of_ne_nil _ hlast.ne_nil]
    exact hlast.last
  have hfeed : ['\n'].rdropWhile isWhitespace = [] := rfl
  rw [hsplit, trim_append (by simp [hlast.ne_nil]) hhead hend, hfeed, List.append_nil, lines_unlines_append hinit,
    lines_last hlast]

theorem lines_trim_cons (h : Plain line) (rest : List Char) :
    ∃ others, lines (trim (line ++ '\n' :: rest)) = line :: others := by
  rw [trim_append h.ne_nil h.head h.last]
  have hfront : ('\n' :: rest).rdropWhile isWhitespace <+: '\n' :: rest := List.rdropWhile_prefix ..
  rcases List.prefix_cons_iff.mp hfront with hnil | ⟨kept, hkept, -⟩
  · rw [hnil, List.append_nil, lines_last h]
    exact ⟨[], rfl⟩
  · rw [hkept, lines_cons h]
    exact ⟨_, rfl⟩

/-! ## Words -/

theorem wordsFrom_append {word front : List Char} (hfront : ∀ c ∈ front, isWhitespace c = false) (rest : List Char) :
    wordsFrom word (front ++ rest) = wordsFrom (word ++ front) rest := by
  induction front generalizing word with
  | nil => simp
  | cons c front ih =>
    rw [List.forall_mem_cons] at hfront
    rw [List.cons_append, wordsFrom, if_neg (by simp [hfront.1]), ih hfront.2, List.append_assoc]
    rfl

variable {word : List Char}

theorem words_cons (hword : ∀ c ∈ word, isWhitespace c = false) (hne : word ≠ []) {c : Char}
    (hc : isWhitespace c = true) (rest : List Char) : words (word ++ c :: rest) = word :: words rest := by
  unfold words
  rw [wordsFrom_append hword, List.nil_append, wordsFrom, if_pos hc, if_neg hne]

theorem words_last (hword : ∀ c ∈ word, isWhitespace c = false) (hne : word ≠ []) : words word = [word] := by
  have happend := @wordsFrom_append [] word hword []
  rw [List.append_nil, List.nil_append] at happend
  rw [words, happend, wordsFrom, if_neg hne]

theorem words_space {c : Char} (hc : isWhitespace c = true) (rest : List Char) : words (c :: rest) = words rest := by
  unfold words
  rw [wordsFrom, if_pos hc, if_pos rfl]

theorem words_spaces (n : Nat) (rest : List Char) : words (List.replicate n ' ' ++ rest) = words rest := by
  induction n with
  | zero => rfl
  | succ n ih => rw [List.replicate_succ, List.cons_append, words_space rfl, ih]

/-! ## Numbers -/

theorem digit_digitChar {n : Nat} (h : n < 10) : digit n.digitChar = some n := by
  revert n
  decide

theorem digits_append (front : List Char) (c : Char) {n d : Nat} (hfront : front ≠ []) (hn : digits front = some n)
    (hd : digit c = some d) : digits (front ++ [c]) = some (10 * n + d) := by
  cases front with
  | nil => exact absurd rfl hfront
  | cons first front =>
    unfold digits at hn ⊢
    dsimp only at hn
    rw [List.cons_append]
    dsimp only
    rw [← List.cons_append, List.foldl_append, hn]
    simp [hd]

theorem digits_toDigits (n : Nat) : digits (Nat.toDigits 10 n) = some n := by
  induction n using Nat.strongRecOn with
  | ind n ih =>
    by_cases hsmall : n < 10
    · rw [Nat.toDigits_of_lt_base hsmall]
      simp [digits, digit_digitChar hsmall]
    · have hbase : 10 ≤ n := Nat.le_of_not_lt hsmall
      rw [Nat.toDigits_of_base_le (by decide) hbase,
        digits_append _ _ (Nat.toDigits_ne_nil) (ih (n / 10) (by omega)) (digit_digitChar (Nat.mod_lt n (by decide)))]
      congr 1
      omega

theorem isDigit_of_mem_toDigits {n : Nat} {c : Char} (h : c ∈ Nat.toDigits 10 n) : '0' ≤ c ∧ c ≤ '9' := by
  have hdigit := Nat.isDigit_of_mem_toDigits (by decide) (by decide) h
  simpa [Char.isDigit, Char.le_def] using hdigit

theorem isWhitespace_of_mem_toDigits {n : Nat} {c : Char} (h : c ∈ Nat.toDigits 10 n) : isWhitespace c = false := by
  have hdigit := isDigit_of_mem_toDigits h
  have hlow : 48 ≤ c.toNat := hdigit.1
  have hhigh : c.toNat ≤ 57 := hdigit.2
  simp [isWhitespace]
  omega

theorem parseU64_toDigits (n : Nat) : parseU64 (Nat.toDigits 10 n) = if n < 2 ^ 64 then some n else none := by
  unfold parseU64
  split
  · rename_i rest heq
    have hplus := (isDigit_of_mem_toDigits (heq ▸ List.mem_cons_self : '+' ∈ Nat.toDigits 10 n)).1
    exact absurd hplus (by decide)
  · rw [digits_toDigits]
    rfl

theorem words_numbers (numbers : List Nat) :
    words (numbers.flatMap fun n => ' ' :: Nat.toDigits 10 n) = numbers.map (Nat.toDigits 10) := by
  have hword (n : Nat) : ∀ c ∈ Nat.toDigits 10 n, isWhitespace c = false := fun c hc => isWhitespace_of_mem_toDigits hc
  induction numbers with
  | nil => rfl
  | cons n rest ih =>
    rw [List.flatMap_cons, List.cons_append, words_space rfl, List.map_cons, ← ih]
    cases rest with
    | nil =>
      rw [List.flatMap_nil, List.append_nil, words_last (hword n) Nat.toDigits_ne_nil]
      rfl
    | cons m rest =>
      rw [List.flatMap_cons, List.cons_append, words_cons (hword n) Nat.toDigits_ne_nil rfl, words_space rfl]

theorem mapM_parseU64 (numbers : List Nat) :
    (numbers.map (Nat.toDigits 10)).mapM parseU64 = if ∀ n ∈ numbers, n < 2 ^ 64 then some numbers else none := by
  induction numbers with
  | nil => rfl
  | cons n rest ih =>
    rw [List.map_cons, List.mapM_cons, parseU64_toDigits, ih]
    simp only [List.forall_mem_cons]
    by_cases hn : n < 2 ^ 64
    · by_cases hrest : ∀ m ∈ rest, m < 2 ^ 64
      · rw [if_pos hn, if_pos hrest, if_pos ⟨hn, hrest⟩]
        rfl
      · rw [if_pos hn, if_neg hrest, if_neg fun h => hrest h.2]
        rfl
    · have hall : ¬(n < 2 ^ 64 ∧ ∀ m ∈ rest, m < 2 ^ 64) := fun h => hn h.1
      rw [if_neg hn, if_neg hall]
      rfl

end Kori.Text
