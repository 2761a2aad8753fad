import Kori.Faulty.Logic
import Mathlib.Data.List.TakeWhile

/-! # How many commands landed before the first that did not -/

namespace Faulty

variable {σ C R V Φ ε α β F ι : Type} {D : Device σ C R V Φ ε}

namespace Event

def isLanded : Event σ C R V → Bool
  | looked .. => false
  | issued _ ok .. => ok

def isRefused : Event σ C R V → Bool
  | looked .. => false
  | issued _ ok .. => !ok

theorem isIssued_of_landed {e : Event σ C R V} (h : e.isLanded = true) : e.isIssued = true := by
  cases e with
  | looked q a => cases h
  | issued c ok met left => rfl

theorem issued_of_refused {e : Event σ C R V} (h : e.isRefused = true) :
    e.isIssued = true ∧ e.isLanded = false := by
  cases e with
  | looked q a => cases h
  | issued c ok met left => simpa [isRefused, isLanded, isIssued] using h

end Event

/-- How many commands of a log landed. -/
def landed (log : List (Event σ C R V)) : Nat := log.countP Event.isLanded

@[simp] theorem landed_nil : landed ([] : List (Event σ C R V)) = 0 := rfl

@[simp] theorem landed_append (l l' : List (Event σ C R V)) :
    landed (l ++ l') = landed l + landed l' := List.countP_append

@[simp] theorem landed_cons (e : Event σ C R V) (l : List (Event σ C R V)) :
    landed (e :: l) = landed l + (if e.isLanded then 1 else 0) := List.countP_cons

theorem landed_eq_zero {l : List (Event σ C R V)} : landed l = 0 ↔ ∀ e ∈ l, e.isLanded = false := by
  unfold landed
  rw [List.countP_eq_zero]
  simp

/-! ## The first refusal -/

/-- What a log holds up to its first refused command, and from it on. -/
def beforeRefusal (log : List (Event σ C R V)) : List (Event σ C R V) :=
  log.takeWhile fun e => !e.isRefused

def fromRefusal (log : List (Event σ C R V)) : List (Event σ C R V) :=
  log.dropWhile fun e => !e.isRefused

section Split

variable {l : List (Event σ C R V)} (h : ∀ e ∈ l, e.isRefused = false)

include h

theorem fromRefusal_of_none : fromRefusal l = [] := by
  unfold fromRefusal
  rw [List.dropWhile_eq_nil_iff]
  intro e he
  simp [h e he]

theorem beforeRefusal_append {e : Event σ C R V} (rest : List (Event σ C R V))
    (he : e.isRefused = true) : beforeRefusal (l ++ e :: rest) = l := by
  unfold beforeRefusal
  rw [List.takeWhile_append_of_pos (by simpa using h)]
  simp [he]

theorem fromRefusal_append {e : Event σ C R V} (rest : List (Event σ C R V))
    (he : e.isRefused = true) : fromRefusal (l ++ e :: rest) = e :: rest := by
  unfold fromRefusal
  rw [List.dropWhile_append_of_pos (by simpa using h)]
  simp [he]

end Split

/-! ## Tallies -/

namespace Seen

/-- From `s` to `t` so many commands landed and none was refused. -/
def Lands (n : Nat) (s t : Seen σ C R V) : Prop :=
  ∃ added, t.log = s.log ++ added ∧ (∀ e ∈ added, e.isRefused = false) ∧ landed added = n

/-- From `s` to `t` commands landed until one was refused, which ended it. -/
def Stops (s t : Seen σ C R V) : Prop :=
  ∃ added last, t.log = s.log ++ (added ++ [last]) ∧ (∀ e ∈ added, e.isRefused = false) ∧
    last.isRefused = true

variable {n m : Nat} {s t u : Seen σ C R V}

theorem Lands.refl : s.Lands 0 s := ⟨[], by simp, by simp, rfl⟩

theorem Lands.trans (h : s.Lands n t) (h' : t.Lands m u) : s.Lands (n + m) u := by
  obtain ⟨l, hl, hclean, hn⟩ := h
  obtain ⟨l', hl', hclean', hm⟩ := h'
  refine ⟨l ++ l', by rw [hl', hl, List.append_assoc], ?_, by rw [landed_append, hn, hm]⟩
  simpa [or_imp, forall_and] using ⟨hclean, hclean'⟩

theorem Lands.stops (h : s.Lands n t) (h' : t.Stops u) : s.Stops u := by
  obtain ⟨l, hl, hclean, -⟩ := h
  obtain ⟨l', last, hl', hclean', hlast⟩ := h'
  refine ⟨l ++ l', last, by rw [hl', hl]; simp, ?_, hlast⟩
  simpa [or_imp, forall_and] using ⟨hclean, hclean'⟩

theorem Adds.lands (h : s.Adds (fun e => e.isIssued = false) t) : s.Lands 0 t := by
  obtain ⟨l, hl, hlooks⟩ := h
  have hneither : ∀ e ∈ l, e.isRefused = false ∧ e.isLanded = false := by
    intro e he
    have hno := hlooks e he
    cases e with
    | looked query answer => exact ⟨rfl, rfl⟩
    | issued c ok met left => cases hno
  exact ⟨l, hl, fun e he => (hneither e he).1, landed_eq_zero.mpr fun e he => (hneither e he).2⟩

theorem lands_issued (c : C) (left : σ) : s.Lands 1 (s.issued c true left) :=
  ⟨_, rfl, by simp [Event.isRefused], by simp [Event.isLanded]⟩

theorem stops_issued (c : C) (left : σ) : s.Stops (s.issued c false left) :=
  ⟨[], _, rfl, by simp, rfl⟩

/-- What a program that stops at its first refused command comes to: it landed what its result
costs, or it stopped. -/
def Tallies (cost : α → Nat) (s : Seen σ C R V) : Except F α → Seen σ C R V → Prop
  | .ok a, t => s.Lands (cost a) t
  | .error _, t => s.Stops t

end Seen

variable {n : Nat} {base s : Seen σ C R V} {cost : β → Nat}

theorem tally_look {p : Prog C R V ε α} {f : α → ExceptT F (Prog C R V ε) β}
    (hp : Looks p) (h : base.Lands n s)
    (h' : ∀ a t, base.Lands n t → wp D (f a).run (base.Tallies cost) t) :
    wp D (liftM p >>= f : ExceptT F (Prog C R V ε) β).run (base.Tallies cost) s := by
  refine wp_run_lift_step (wp_looks hp) fun a t hlooks => ?_
  exact h' a t (h.trans hlooks.2.lands)

theorem tally_bind {x : ExceptT F (Prog C R V ε) α} {f : α → ExceptT F (Prog C R V ε) β}
    {spent : α → Nat} (h : wp D x.run (base.Tallies spent) s)
    (h' : ∀ a t, base.Lands (spent a) t → wp D (f a).run (base.Tallies cost) t) :
    wp D (x >>= f).run (base.Tallies cost) s :=
  wp_run_step h (fun _ _ hstop => hstop) h'

theorem tally_forM (l : List ι) (body : ι → ExceptT F (Prog C R V ε) PUnit) (h : base.Lands n s)
    (hbody : ∀ i k t, base.Lands k t → wp D (body i).run (base.Tallies fun _ => k + 1) t) :
    wp D (l.forM body).run (base.Tallies fun _ => n + l.length) s := by
  refine wp_run_forM l body (fun past t => base.Lands (n + past.length) t) _ ?_
    (fun t ht => ht) h
  intro past i t _ ht
  refine wp_mono (hbody i _ t ht) ?_
  rintro (e | ⟨⟩) t' h'
  · exact h'
  · rw [List.length_append]
    exact h'

end Faulty
