import Mathlib.Data.List.Induction
import Mathlib.Data.List.Infix

/-! # Replacing words, one after the other, by a mark between two brackets -/

namespace Faulty

variable {α : Type}

theorem infix_append_cons {part front back : List α} {c : α} (hc : c ∉ part) (h : part <:+: front ++ c :: back) :
    part <:+: front ∨ part <:+: back := by
  obtain ⟨before, after, heq⟩ := h
  rcases List.append_eq_append_iff.mp heq with ⟨rest, hfront, -⟩ | ⟨rest, hfront, hback⟩
  · exact .inl ⟨before, rest, hfront.symm⟩
  · cases rest with
    | nil => exact .inl ⟨before, [], by rw [hfront, List.append_nil, List.append_nil]⟩
    | cons first rest =>
      cases hback
      rcases List.append_eq_append_iff.mp hfront with ⟨cut, -, hpart⟩ | ⟨cut, -, hcut⟩
      · exact absurd (hpart ▸ List.mem_append_right cut List.mem_cons_self) hc
      · cases cut with
        | nil =>
          cases hcut
          exact absurd List.mem_cons_self hc
        | cons first cut =>
          cases hcut
          exact .inr ⟨cut, after, rfl⟩

variable [DecidableEq α]

/-- Replaces every occurrence of a word, from left to right. The word has at least one letter. -/
def replaceAll (word mark : List α) : List α → List α
  | [] => []
  | c :: rest =>
    if word <+: c :: rest then mark ++ replaceAll word mark (rest.drop (word.length - 1))
    else c :: replaceAll word mark rest
termination_by text => text.length
decreasing_by
  · simp only [List.length_drop, List.length_cons]
    omega
  · exact Nat.lt_succ_self _

section Mark

variable {word part text : List α} {opening closing : α} {middle : List α}

theorem prefix_of_prefix_replaceAll (hopening : opening ∉ part)
    (h : part <+: replaceAll word (opening :: (middle ++ [closing])) text) : part <+: text := by
  cases part with
  | nil => exact List.nil_prefix
  | cons first part =>
    fun_induction replaceAll word (opening :: (middle ++ [closing])) text generalizing first part with
    | case1 => exact h
    | case2 c rest hword ih =>
      rw [List.cons_append, List.cons_prefix_cons] at h
      exact absurd (h.1 ▸ List.mem_cons_self) hopening
    | case3 c rest hword ih =>
      obtain ⟨rfl, hrest⟩ := List.cons_prefix_cons.mp h
      refine List.cons_prefix_cons.mpr ⟨rfl, ?_⟩
      cases part with
      | nil => exact List.nil_prefix
      | cons second part => exact ih second part (mt (List.mem_cons_of_mem _) hopening) hrest

theorem infix_of_infix_replaceAll (hopening : opening ∉ part) (hclosing : closing ∉ part)
    (hmark : ¬ part <:+: opening :: (middle ++ [closing]))
    (h : part <:+: replaceAll word (opening :: (middle ++ [closing])) text) : part <:+: text := by
  fun_induction replaceAll word (opening :: (middle ++ [closing])) text with
  | case1 => exact h
  | case2 c rest hword ih =>
    have hsplit : opening :: (middle ++ [closing]) ++
        replaceAll word (opening :: (middle ++ [closing])) (rest.drop (word.length - 1)) =
          (opening :: middle) ++ closing ::
            replaceAll word (opening :: (middle ++ [closing])) (rest.drop (word.length - 1)) := by simp
    rw [hsplit] at h
    rcases infix_append_cons hclosing h with hin | hbehind
    · exact absurd (hin.trans ⟨[], [closing], rfl⟩) hmark
    · exact ((ih hbehind).trans (List.drop_suffix _ _).isInfix).trans (List.suffix_cons c rest).isInfix
  | case3 c rest hword ih =>
    rcases List.infix_cons_iff.mp h with hstart | hrest
    · have hunreplaced : replaceAll word (opening :: (middle ++ [closing])) (c :: rest) =
          c :: replaceAll word (opening :: (middle ++ [closing])) rest := by
        rw [replaceAll, if_neg hword]
      rw [← hunreplaced] at hstart
      exact (prefix_of_prefix_replaceAll hopening hstart).isInfix
    · exact (ih hrest).trans (List.suffix_cons c rest).isInfix

theorem not_infix_replaceAll (hempty : word ≠ []) (hopening : opening ∉ word) (hclosing : closing ∉ word)
    (hmark : ¬ word <:+: opening :: (middle ++ [closing])) :
    ¬ word <:+: replaceAll word (opening :: (middle ++ [closing])) text := by
  fun_induction replaceAll word (opening :: (middle ++ [closing])) text with
  | case1 => exact fun h => hempty (List.infix_nil.mp h)
  | case2 c rest hword ih =>
    have hsplit : opening :: (middle ++ [closing]) ++
        replaceAll word (opening :: (middle ++ [closing])) (rest.drop (word.length - 1)) =
          (opening :: middle) ++ closing ::
            replaceAll word (opening :: (middle ++ [closing])) (rest.drop (word.length - 1)) := by simp
    rw [hsplit]
    intro h
    rcases infix_append_cons hclosing h with hin | hbehind
    · exact hmark (hin.trans ⟨[], [closing], rfl⟩)
    · exact ih hbehind
  | case3 c rest hword ih =>
    intro h
    rcases List.infix_cons_iff.mp h with hstart | hrest
    · have hunreplaced : replaceAll word (opening :: (middle ++ [closing])) (c :: rest) =
          c :: replaceAll word (opening :: (middle ++ [closing])) rest := by
        rw [replaceAll, if_neg hword]
      rw [← hunreplaced] at hstart
      exact hword (prefix_of_prefix_replaceAll hopening hstart)
    · exact ih hrest

end Mark

theorem mark_infix_replaceAll {word mark text : List α} (hempty : word ≠ []) (h : word <:+: text) :
    mark <:+: replaceAll word mark text := by
  fun_induction replaceAll word mark text with
  | case1 => exact absurd (List.infix_nil.mp h) hempty
  | case2 c rest hword ih => exact (List.prefix_append mark _).isInfix
  | case3 c rest hword ih =>
    rcases List.infix_cons_iff.mp h with hstart | hrest
    · exact absurd hstart hword
    · exact (ih hrest).trans (List.suffix_cons c _).isInfix

/-! ## One word after the other -/

/-- Replaces every word that is there, in order. -/
def replaceEach (words : List (List α)) (mark text : List α) : List α :=
  words.foldl (fun text word => if word <:+: text then replaceAll word mark text else text) text

theorem replaceEach_eq_or_mark {words : List (List α)} {mark text : List α} (h : ∀ word ∈ words, word ≠ []) :
    replaceEach words mark text = text ∨ mark <:+: replaceEach words mark text := by
  induction words using List.reverseRecOn with
  | nil => exact .inl rfl
  | append_singleton words word ih =>
    have hwords := ih fun other hother => h other (List.mem_append_left _ hother)
    have hempty := h word (List.mem_append_right _ (List.mem_singleton_self word))
    unfold replaceEach at hwords ⊢
    rw [List.foldl_append, List.foldl_cons, List.foldl_nil]
    split
    · rename_i hthere
      exact .inr (mark_infix_replaceAll hempty hthere)
    · exact hwords

/-- A word that can be replaced: it has a letter, holds no bracket and is no part of the mark. -/
structure Replaceable (opening : α) (middle : List α) (closing : α) (word : List α) : Prop where
  nonempty : word ≠ []
  noOpening : opening ∉ word
  noClosing : closing ∉ word
  notMark : ¬ word <:+: opening :: (middle ++ [closing])

variable {opening closing : α} {middle : List α} {words : List (List α)} {text : List α}

theorem not_infix_step {word part : List α} (hpart : Replaceable opening middle closing part)
    (h : ¬ part <:+: text) :
    ¬ part <:+: if word <:+: text then replaceAll word (opening :: (middle ++ [closing])) text else text := by
  split
  · exact mt (infix_of_infix_replaceAll hpart.noOpening hpart.noClosing hpart.notMark) h
  · exact h

theorem not_infix_replaceEach_of_absent {part : List α} (hpart : Replaceable opening middle closing part)
    (h : ¬ part <:+: text) : ¬ part <:+: replaceEach words (opening :: (middle ++ [closing])) text := by
  induction words generalizing text with
  | nil => exact h
  | cons word words ih => exact ih (not_infix_step hpart h)

/-- Whatever their order and however they overlap, none of the words is left. -/
theorem not_infix_replaceEach {word : List α} (hword : Replaceable opening middle closing word) (h : word ∈ words) :
    ¬ word <:+: replaceEach words (opening :: (middle ++ [closing])) text := by
  induction words generalizing text with
  | nil => cases h
  | cons first words ih =>
    rcases List.mem_cons.mp h with rfl | h
    · have hstep : ¬ word <:+: if word <:+: text then replaceAll word (opening :: (middle ++ [closing])) text
          else text := by
        split
        · exact not_infix_replaceAll hword.nonempty hword.noOpening hword.noClosing hword.notMark
        · assumption
      exact @not_infix_replaceEach_of_absent _ _ _ _ _ words _ word hword hstep
    · exact ih h

theorem replaceEach_of_clean {mark : List α} (h : ∀ word ∈ words, ¬ word <:+: text) :
    replaceEach words mark text = text := by
  induction words with
  | nil => rfl
  | cons word words ih =>
    unfold replaceEach
    rw [List.foldl_cons, if_neg (h word List.mem_cons_self)]
    exact ih fun other hother => h other (List.mem_cons_of_mem _ hother)

end Faulty
