import Kori.Faulty.Device

/-! # What holds of a program under every fault

`wp D p Q s` says that `p`, started from `s`, ends with `Q` whichever of its operations fail.
-/

namespace Faulty

variable {σ C R V Φ ε α β F ι : Type} {D : Device σ C R V Φ ε}

/-! ## The weakest precondition -/

def wp (D : Device σ C R V Φ ε) :
    Prog C R V ε α → (α → Seen σ C R V → Prop) → Seen σ C R V → Prop
  | .done a, Q, s => Q a s
  | .look q next, Q, s =>
    (∀ f, wp D (next (.error (D.error f))) Q (s.noted q none)) ∧
    wp D (next (.ok (D.look q s.state))) Q (s.noted q (some (D.look q s.state)))
  | .issue c next, Q, s =>
    (∀ f, wp D (next (.error (D.error f))) Q (s.issued c false (D.spill f c s.state))) ∧
    wp D (next (.ok ())) Q (s.issued c true (D.act c s.state))
  | .clock next, Q, s => ∀ t, wp D (next t) Q s

variable {p : Prog C R V ε α} {s : Seen σ C R V}

@[simp] theorem wp_pure (a : α) (Q : α → Seen σ C R V → Prop) :
    wp D (pure a : Prog C R V ε α) Q s ↔ Q a s := Iff.rfl

theorem wp_bind (p : Prog C R V ε α) (f : α → Prog C R V ε β) (Q : β → Seen σ C R V → Prop) :
    wp D (p >>= f) Q s ↔ wp D p (fun a => wp D (f a) Q) s := by
  change wp D (p.bind f) Q s ↔ _
  induction p generalizing s with
  | done a => rfl
  | look q next ih => simp only [Prog.bind, wp, ih]
  | issue c next ih => simp only [Prog.bind, wp, ih]
  | clock next ih => simp only [Prog.bind, wp, ih]

theorem wp_look (q : R) (Q : Except ε V → Seen σ C R V → Prop) :
    wp D (look q) Q s ↔ (∀ f, Q (.error (D.error f)) (s.noted q none)) ∧
      Q (.ok (D.look q s.state)) (s.noted q (some (D.look q s.state))) := Iff.rfl

theorem wp_issue (c : C) (Q : Except ε Unit → Seen σ C R V → Prop) :
    wp D (issue c) Q s ↔
      (∀ f, Q (.error (D.error f)) (s.issued c false (D.spill f c s.state))) ∧
      Q (.ok ()) (s.issued c true (D.act c s.state)) := Iff.rfl

theorem wp_clock (Q : Nat → Seen σ C R V → Prop) :
    wp D (clock : Prog C R V ε Nat) Q s ↔ ∀ t, Q t s := Iff.rfl

theorem wp_mono {Q Q' : α → Seen σ C R V → Prop} (h : wp D p Q s)
    (himp : ∀ a s', Q a s' → Q' a s') : wp D p Q' s := by
  induction p generalizing s with
  | done a => exact himp _ _ h
  | look q next ih => exact ⟨fun f => ih _ (h.1 f), ih _ h.2⟩
  | issue c next ih => exact ⟨fun f => ih _ (h.1 f), ih _ h.2⟩
  | clock next ih => exact fun t => ih _ (h t)

theorem wp_and {Q Q' : α → Seen σ C R V → Prop} (h : wp D p Q s) (h' : wp D p Q' s) :
    wp D p (fun a s' => Q a s' ∧ Q' a s') s := by
  induction p generalizing s with
  | done a => exact ⟨h, h'⟩
  | look q next ih => exact ⟨fun f => ih _ (h.1 f) (h'.1 f), ih _ h.2 h'.2⟩
  | issue c next ih => exact ⟨fun f => ih _ (h.1 f) (h'.1 f), ih _ h.2 h'.2⟩
  | clock next ih => exact fun t => ih _ (h t) (h' t)

theorem wp_forall {κ : Sort*} {Q : κ → α → Seen σ C R V → Prop} (h : ∀ k, wp D p (Q k) s) :
    wp D p (fun a s' => ∀ k, Q k a s') s := by
  induction p generalizing s with
  | done a => exact h
  | look q next ih => exact ⟨fun f => ih _ fun k => (h k).1 f, ih _ fun k => (h k).2⟩
  | issue c next ih => exact ⟨fun f => ih _ fun k => (h k).1 f, ih _ fun k => (h k).2⟩
  | clock next ih => exact fun t => ih _ fun k => h k t

theorem wp_true : wp D p (fun _ _ => True) s := by
  induction p generalizing s with
  | done a => trivial
  | look q next ih => exact ⟨fun _ => ih _, ih _⟩
  | issue c next ih => exact ⟨fun _ => ih _, ih _⟩
  | clock next ih => exact fun t => ih t

theorem wp_step {f : α → Prog C R V ε β} {M : α → Seen σ C R V → Prop}
    {Q : β → Seen σ C R V → Prop} (h : wp D p M s) (h' : ∀ a s', M a s' → wp D (f a) Q s') :
    wp D (p >>= f) Q s :=
  (wp_bind p f Q).mpr (wp_mono h h')

/-- A run ends in what the weakest precondition promises, whatever its faults and clock. -/
theorem wp_run {Q : α → Seen σ C R V → Prop} (w : World σ C R V Φ) (h : wp D p Q w.toSeen) :
    Q (p.run D w).1 (p.run D w).2.toSeen := by
  induction p generalizing w with
  | done a => exact h
  | look q next ih =>
    simp only [Prog.run]
    split
    · exact ih _ (w.spent _) h.2
    · exact ih _ (w.spent _) (h.1 _)
  | issue c next ih =>
    simp only [Prog.run]
    split
    · exact ih _ (w.spent _) h.2
    · exact ih _ (w.spent _) (h.1 _)
  | clock next ih => exact ih _ { w with times := fun n => w.times (n + 1) } (h _)

/-! ## Programs that stop at the first error -/

section Errors

variable (x : ExceptT F (Prog C R V ε) α) (f : α → ExceptT F (Prog C R V ε) β)

theorem wp_run_bind (Q : Except F β → Seen σ C R V → Prop) :
    wp D (x >>= f).run Q s ↔
      wp D x.run (fun r s' => match r with
        | .ok a => wp D (f a).run Q s'
        | .error e => Q (.error e) s') s := by
  rw [ExceptT.run_bind, wp_bind]
  constructor <;> intro h <;> refine wp_mono h ?_ <;> rintro (e | a) s' h' <;> exact h'

theorem run_run_bind (w : World σ C R V Φ) :
    (x >>= f).run.run D w = match x.run.run D w with
      | (.ok a, w') => (f a).run.run D w'
      | (.error e, w') => (.error e, w') := by
  rw [ExceptT.run_bind, run_bind]
  rcases x.run.run D w with ⟨e | a, w'⟩ <;> rfl

theorem run_run_lift_bind (p : Prog C R V ε α) (w : World σ C R V Φ) :
    (liftM p >>= f : ExceptT F (Prog C R V ε) β).run.run D w =
      (f (p.run D w).1).run.run D (p.run D w).2 := by
  rw [run_run_bind]
  change (match (p >>= fun a => pure (Except.ok a)).run D w with
    | (.ok a, w') => (f a).run.run D w'
    | (.error e, w') => (.error e, w')) = _
  rw [run_bind]
  rfl

@[simp] theorem wp_run_pure (a : α) (Q : Except F α → Seen σ C R V → Prop) :
    wp D (pure a : ExceptT F (Prog C R V ε) α).run Q s ↔ Q (.ok a) s := Iff.rfl

@[simp] theorem wp_run_throw (e : F) (Q : Except F α → Seen σ C R V → Prop) :
    wp D (throw e : ExceptT F (Prog C R V ε) α).run Q s ↔ Q (.error e) s := Iff.rfl

theorem wp_run_lift (p : Prog C R V ε α) (Q : Except F α → Seen σ C R V → Prop) :
    wp D (liftM p : ExceptT F (Prog C R V ε) α).run Q s ↔ wp D p (fun a => Q (.ok a)) s := by
  change wp D (p >>= fun a => pure (Except.ok a)) Q s ↔ _
  rw [wp_bind]
  rfl

theorem wp_run_step {x : ExceptT F (Prog C R V ε) α} {f : α → ExceptT F (Prog C R V ε) β}
    {M : Except F α → Seen σ C R V → Prop} {Q : Except F β → Seen σ C R V → Prop}
    (h : wp D x.run M s) (herr : ∀ e s', M (.error e) s' → Q (.error e) s')
    (hok : ∀ a s', M (.ok a) s' → wp D (f a).run Q s') : wp D (x >>= f).run Q s := by
  rw [wp_run_bind]
  refine wp_mono h ?_
  rintro (e | a) s' h'
  · exact herr e s' h'
  · exact hok a s' h'

theorem wp_run_lift_step {f : α → ExceptT F (Prog C R V ε) β} {M : α → Seen σ C R V → Prop}
    {Q : Except F β → Seen σ C R V → Prop} (h : wp D p M s)
    (h' : ∀ a s', M a s' → wp D (f a).run Q s') : wp D (liftM p >>= f).run Q s := by
  rw [wp_run_bind, wp_run_lift]
  exact wp_mono h h'

/-- A loop over a list: `I` holds of the items done so far, and an error leaves the loop. -/
theorem wp_run_forM (l : List ι) (body : ι → ExceptT F (Prog C R V ε) PUnit)
    (I : List ι → Seen σ C R V → Prop) (Q : Except F PUnit → Seen σ C R V → Prop)
    (hstep : ∀ past i s, i ∈ l → I past s → wp D (body i).run (fun r s' => match r with
      | .ok _ => I (past ++ [i]) s'
      | .error e => Q (.error e) s') s)
    (hdone : ∀ s, I l s → Q (.ok ⟨⟩) s) (h : I [] s) : wp D (l.forM body).run Q s := by
  suffices ∀ (rest past : List ι) (s : Seen σ C R V), past ++ rest = l → I past s →
      wp D (rest.forM body).run Q s from this l [] s rfl h
  intro rest
  induction rest with
  | nil =>
    intro past s hl hI
    rw [List.append_nil] at hl
    exact hdone s (hl ▸ hI)
  | cons i rest ih =>
    intro past s hl hI
    change wp D (body i >>= fun _ => rest.forM body).run Q s
    rw [wp_run_bind]
    refine wp_mono (hstep past i s (by rw [← hl]; simp) hI) ?_
    rintro (e | a) s' h'
    · exact h'
    · exact ih (past ++ [i]) s' (by simpa using hl) h'

end Errors

/-! ## What a program may issue -/

/-- Every command `p` may issue satisfies `φ`, whatever it is answered. -/
def Issues (φ : C → Prop) : Prog C R V ε α → Prop
  | .done _ => True
  | .look _ next => ∀ r, Issues φ (next r)
  | .issue c next => φ c ∧ ∀ r, Issues φ (next r)
  | .clock next => ∀ t, Issues φ (next t)

/-- A program that only looks. -/
abbrev Looks (p : Prog C R V ε α) : Prop := Issues (fun _ => False) p

/-- Every result `p` may end with satisfies `P`, whatever it is answered. -/
def Returns (P : α → Prop) : Prog C R V ε α → Prop
  | .done a => P a
  | .look _ next => ∀ r, Returns P (next r)
  | .issue _ next => ∀ r, Returns P (next r)
  | .clock next => ∀ t, Returns P (next t)

theorem returns_bind {P : β → Prop} {f : α → Prog C R V ε β} (h : ∀ a, Returns P (f a)) :
    Returns P (p >>= f) := by
  change Returns P (p.bind f)
  induction p with
  | done a => exact h a
  | look q next ih => exact fun r => ih r
  | issue c next ih => exact fun r => ih r
  | clock next ih => exact fun t => ih t

theorem wp_returns {P : α → Prop} (h : Returns P p) : wp D p (fun a _ => P a) s := by
  induction p generalizing s with
  | done a => exact h
  | look q next ih => exact ⟨fun f => ih _ (h _), ih _ (h _)⟩
  | issue c next ih => exact ⟨fun f => ih _ (h _), ih _ (h _)⟩
  | clock next ih => exact fun t => ih t (h t)

theorem returns_step {P : α → Prop} {P' : β → Prop} {f : α → Prog C R V ε β} (h : Returns P p)
    (h' : ∀ a, P a → Returns P' (f a)) : Returns P' (p >>= f) := by
  change Returns P' (p.bind f)
  induction p with
  | done a => exact h' a h
  | look q next ih => exact fun r => ih r (h r)
  | issue c next ih => exact fun r => ih r (h r)
  | clock next ih => exact fun t => ih t (h t)

theorem issues_bind_returns {φ : C → Prop} {P : α → Prop} {f : α → Prog C R V ε β}
    (h : Issues φ p) (hr : Returns P p) (h' : ∀ a, P a → Issues φ (f a)) : Issues φ (p >>= f) := by
  change Issues φ (p.bind f)
  induction p with
  | done a => exact h' a hr
  | look q next ih => exact fun r => ih r (h r) (hr r)
  | issue c next ih => exact ⟨h.1, fun r => ih r (h.2 r) (hr r)⟩
  | clock next ih => exact fun t => ih t (h t) (hr t)

theorem returns_true : Returns (fun _ => True) p := by
  induction p with
  | done a => trivial
  | look q next ih => exact ih
  | issue c next ih => exact ih
  | clock next ih => exact ih

theorem issues_bind {φ : C → Prop} {f : α → Prog C R V ε β} (h : Issues φ p)
    (h' : ∀ a, Issues φ (f a)) : Issues φ (p >>= f) :=
  issues_bind_returns h returns_true fun a _ => h' a

theorem issues_mono {φ ψ : C → Prop} (h : Issues φ p) (himp : ∀ c, φ c → ψ c) : Issues ψ p := by
  induction p with
  | done a => trivial
  | look q next ih => exact fun r => ih r (h r)
  | issue c next ih => exact ⟨himp _ h.1, fun r => ih r (h.2 r)⟩
  | clock next ih => exact fun t => ih t (h t)

theorem issues_run_bind {φ : C → Prop} {x : ExceptT F (Prog C R V ε) α}
    {f : α → ExceptT F (Prog C R V ε) β} (h : Issues φ x.run) (h' : ∀ a, Issues φ (f a).run) :
    Issues φ (x >>= f).run := by
  rw [ExceptT.run_bind]
  refine issues_bind h ?_
  rintro (e | a)
  · trivial
  · exact h' a

theorem issues_run_lift_bind {φ : C → Prop} {P : α → Prop} {f : α → ExceptT F (Prog C R V ε) β}
    (h : Issues φ p) (hr : Returns P p) (h' : ∀ a, P a → Issues φ (f a).run) :
    Issues φ (liftM p >>= f : ExceptT F (Prog C R V ε) β).run := by
  have heq : (liftM p >>= f : ExceptT F (Prog C R V ε) β).run = p >>= fun a => (f a).run := by
    rw [ExceptT.run_bind]
    change (p.bind fun a => Prog.done (Except.ok a)).bind _ = p.bind _
    clear h hr h'
    induction p with
    | done a => rfl
    | look q next ih => exact congrArg (Prog.look q) (funext ih)
    | issue c next ih => exact congrArg (Prog.issue c) (funext ih)
    | clock next ih => exact congrArg Prog.clock (funext ih)
  rw [heq]
  exact issues_bind_returns h hr h'

theorem issues_run_lift {φ : C → Prop} (h : Issues φ p) :
    Issues φ (liftM p : ExceptT F (Prog C R V ε) α).run :=
  issues_bind h fun _ => trivial

theorem issues_run_forM {φ : C → Prop} {l : List ι} {body : ι → ExceptT F (Prog C R V ε) PUnit}
    (h : ∀ i ∈ l, Issues φ (body i).run) : Issues φ (l.forM body).run := by
  induction l with
  | nil => trivial
  | cons i rest ih =>
    change Issues φ (body i >>= fun _ => rest.forM body).run
    exact issues_run_bind (h i (by simp)) fun _ => ih fun j hj => h j (by simp [hj])

/-! ## The log -/

namespace Event

def isIssued : Event σ C R V → Bool
  | looked .. => false
  | issued .. => true

end Event

namespace Seen

/-- Between `s` and `t` only events with `P` were added to the log. -/
def Adds (P : Event σ C R V → Prop) (s t : Seen σ C R V) : Prop :=
  ∃ added, t.log = s.log ++ added ∧ ∀ e ∈ added, P e

variable {P P' : Event σ C R V → Prop} {s t u : Seen σ C R V}

theorem Adds.of_log_eq (h : t.log = s.log) : s.Adds P t := ⟨[], by simp [h], by simp⟩

theorem Adds.refl : s.Adds P s := .of_log_eq rfl

theorem Adds.trans (h : s.Adds P t) (h' : t.Adds P u) : s.Adds P u := by
  obtain ⟨l, hl, hP⟩ := h
  obtain ⟨l', hl', hP'⟩ := h'
  refine ⟨l ++ l', by rw [hl', hl, List.append_assoc], ?_⟩
  simpa [or_imp, forall_and] using ⟨hP, hP'⟩

theorem Adds.mono (h : s.Adds P t) (himp : ∀ e, P e → P' e) : s.Adds P' t := by
  obtain ⟨l, hl, hP⟩ := h
  exact ⟨l, hl, fun e he => himp e (hP e he)⟩

theorem adds_noted {q : R} {a : Option V} (h : P (.looked q a)) : s.Adds P (s.noted q a) :=
  ⟨[.looked q a], rfl, by simpa using h⟩

theorem adds_issued {c : C} {ok : Bool} {left : σ} (h : P (.issued c ok s.state left)) :
    s.Adds P (s.issued c ok left) :=
  ⟨[.issued c ok s.state left], rfl, by simpa using h⟩

theorem Adds.log {s t : Seen σ C R V} (h : s.Adds P t) (hs : ∀ e ∈ s.log, P e) : ∀ e ∈ t.log, P e := by
  obtain ⟨l, hl, hP⟩ := h
  rw [hl]
  simpa [or_imp, forall_and] using ⟨hs, hP⟩

end Seen

/-- What every allowed command keeps is kept by the program, and what every allowed command does
from there is all that the log gains. -/
theorem wp_events {φ : C → Prop} (hp : Issues φ p) (S : σ → Prop) (P : Event σ C R V → Prop)
    (hlook : ∀ q a, P (.looked q a))
    (hact : ∀ c t, φ c → S t → S (D.act c t) ∧ P (.issued c true t (D.act c t)))
    (hspill : ∀ f c t, φ c → S t → S (D.spill f c t) ∧ P (.issued c false t (D.spill f c t)))
    (h : S s.state) : wp D p (fun _ s' => S s'.state ∧ s.Adds P s') s := by
  suffices ∀ (base s : Seen σ C R V), base.Adds P s → S s.state →
      wp D p (fun _ s' => S s'.state ∧ base.Adds P s') s from this s s .refl h
  clear h
  induction p with
  | done a => exact fun base s hadds h => ⟨h, hadds⟩
  | look q next ih =>
    intro base s hadds h
    exact ⟨fun f => ih _ (hp _) base _ (hadds.trans (Seen.adds_noted (hlook _ _))) h,
      ih _ (hp _) base _ (hadds.trans (Seen.adds_noted (hlook _ _))) h⟩
  | issue c next ih =>
    intro base s hadds h
    refine ⟨fun f => ?_, ?_⟩
    · obtain ⟨hS, hP⟩ := hspill f c s.state hp.1 h
      exact ih _ (hp.2 _) base _ (hadds.trans (Seen.adds_issued hP)) hS
    · obtain ⟨hS, hP⟩ := hact c s.state hp.1 h
      exact ih _ (hp.2 _) base _ (hadds.trans (Seen.adds_issued hP)) hS
  | clock next ih => exact fun base s hadds h t => ih t (hp t) base s hadds h

/-- What every allowed command keeps is kept by the program. -/
theorem wp_frame {φ : C → Prop} (hp : Issues φ p) (S : σ → Prop)
    (hact : ∀ c t, φ c → S t → S (D.act c t)) (hspill : ∀ f c t, φ c → S t → S (D.spill f c t))
    (h : S s.state) : wp D p (fun _ s' => S s'.state) s :=
  wp_mono (wp_events hp S (fun _ => True) (fun _ _ => trivial)
    (fun c t hc ht => ⟨hact c t hc ht, trivial⟩) (fun f c t hc ht => ⟨hspill f c t hc ht, trivial⟩) h)
    fun _ _ h' => h'.1

theorem wp_looks (hp : Looks p) :
    wp D p (fun _ s' => s'.state = s.state ∧ s.Adds (fun e => e.isIssued = false) s') s :=
  wp_events hp (· = s.state) _ (fun _ _ => rfl) (fun _ _ h => h.elim) (fun _ _ _ h => h.elim) rfl

theorem issues_true : Issues (fun _ => True) p := by
  induction p with
  | done a => trivial
  | look q next ih => exact ih
  | issue c next ih => exact ⟨trivial, ih⟩
  | clock next ih => exact ih

theorem run_adds {φ : C → Prop} (hp : Issues φ p) (P : Event σ C R V → Prop)
    (hlook : ∀ q a, P (.looked q a)) (hissue : ∀ c ok t u, φ c → P (.issued c ok t u))
    (w : World σ C R V Φ) : w.toSeen.Adds P (p.run D w).2.toSeen :=
  (wp_run w (wp_events hp (fun _ => True) P hlook (fun c _ hc _ => ⟨trivial, hissue c _ _ _ hc⟩)
    (fun _ c _ hc _ => ⟨trivial, hissue c _ _ _ hc⟩) trivial)).2

theorem run_adds_bind {P : Event σ C R V → Prop} {x : ExceptT F (Prog C R V ε) α}
    {f : α → ExceptT F (Prog C R V ε) β} {w : World σ C R V Φ}
    (h : w.toSeen.Adds P (x.run.run D w).2.toSeen)
    (h' : ∀ a w', x.run.run D w = (.ok a, w') → w'.toSeen.Adds P ((f a).run.run D w').2.toSeen) :
    w.toSeen.Adds P ((x >>= f).run.run D w).2.toSeen := by
  rw [run_run_bind]
  rcases hr : x.run.run D w with ⟨e | a, w'⟩
  · rwa [hr] at h
  · rw [hr] at h
    exact h.trans (h' a w' hr)

theorem wp_log_grows : wp D p (fun _ s' => s.log <+: s'.log) s :=
  wp_mono (wp_events issues_true (fun _ => True) (fun _ => True) (fun _ _ => trivial)
    (fun _ _ _ _ => ⟨trivial, trivial⟩) (fun _ _ _ _ _ => ⟨trivial, trivial⟩) trivial)
    fun _ _ h => h.2.elim fun l hl => ⟨l, hl.1.symm⟩

theorem run_log_grows (w : World σ C R V Φ) : w.log <+: (p.run D w).2.log :=
  wp_run w wp_log_grows

theorem run_bind_log_grows (p : Prog C R V ε α) (f : α → Prog C R V ε β) (w : World σ C R V Φ) :
    (p.run D w).2.log <+: ((p >>= f).run D w).2.log := by
  rw [run_bind]
  exact run_log_grows _

theorem run_run_bind_log_grows (x : ExceptT F (Prog C R V ε) α) (f : α → ExceptT F (Prog C R V ε) β)
    (w : World σ C R V Φ) : (x.run.run D w).2.log <+: ((x >>= f).run.run D w).2.log := by
  rw [ExceptT.run_bind]
  exact run_bind_log_grows ..

theorem prefix_of_issued {l done rest : List (Event σ C R V)} {e : Event σ C R V}
    (h : l <+: done ++ e :: rest) (hl : ∀ x ∈ l, x.isIssued = false) (he : e.isIssued = true) :
    l <+: done := by
  have hdone := List.prefix_append done (e :: rest)
  rcases Nat.le_total l.length done.length with hle | hle
  · exact List.prefix_of_prefix_length_le h hdone hle
  · obtain ⟨t, rfl⟩ := List.prefix_of_prefix_length_le hdone h hle
    cases t with
    | nil => simp
    | cons x t =>
      rw [List.prefix_append_right_inj, List.cons_prefix_cons] at h
      have hx := hl x (by simp)
      rw [h.1, he] at hx
      cases hx

/-! ## Without faults -/

theorem run_issue_ok (c : C) {w : World σ C R V Φ} (h : w.faults 0 = none) :
    (issue c).run D w = (.ok (), w.spent (w.issued c true (D.act c w.state))) := by
  unfold issue Prog.run
  rw [h]
  rfl

/-- The device with no fault to meet. -/
def Device.reliable (D : Device σ C R V Φ ε) : Device σ C R V Empty ε where
  act := D.act
  look := D.look
  error := nofun
  spill := nofun

theorem wp_reliable_of_wp {Q : α → Seen σ C R V → Prop} (h : wp D p Q s) : wp D.reliable p Q s := by
  induction p generalizing s with
  | done a => exact h
  | look q next ih => exact ⟨nofun, ih _ h.2⟩
  | issue c next ih => exact ⟨nofun, ih _ h.2⟩
  | clock next ih => exact fun t => ih t (h t)

/-- A run without faults ends in what the reliable device promises, and no fault is left. -/
theorem wp_reliable {Q : α → Seen σ C R V → Prop} (w : World σ C R V Φ)
    (hfaults : ∀ n, w.faults n = none) (h : wp D.reliable p Q w.toSeen) :
    Q (p.run D w).1 (p.run D w).2.toSeen ∧ ∀ n, (p.run D w).2.faults n = none := by
  induction p generalizing w with
  | done a => exact ⟨h, hfaults⟩
  | look q next ih =>
    simp only [Prog.run]
    rw [hfaults 0]
    exact ih _ (w.spent _) (fun n => hfaults (n + 1)) h.2
  | issue c next ih =>
    simp only [Prog.run]
    rw [hfaults 0]
    exact ih _ (w.spent _) (fun n => hfaults (n + 1)) h.2
  | clock next ih => exact ih _ { w with times := fun n => w.times (n + 1) } hfaults (h _)

end Faulty
