import Mathlib.Order.Defs.Unbundled

/-! # Turns: one state, call after call, and what a computation returns and keeps -/

namespace Faulty

variable {S K A α β : Type}

/-! ## What a computation that may fail returns -/

theorem ok_of_bind {ε : Type} {first : Except ε α} {next : α → Except ε β} {result : β}
    (h : (first >>= next) = .ok result) : ∃ value, first = .ok value ∧ next value = .ok result := by
  cases first with
  | error error => cases h
  | ok value => exact ⟨value, rfl, h⟩

/-! ## What a computation keeps -/

theorem bind_apply (f : StateM S α) (g : α → StateM S β) (s : S) : (f >>= g) s = g (f s).1 (f s).2 := rfl

theorem map_apply (f : α → β) (g : StateM S α) (s : S) : (f <$> g) s = (f (g s).1, (g s).2) := rfl

theorem pure_apply (a : α) (s : S) : (pure a : StateM S α) s = (a, s) := rfl

theorem get_apply (s : S) : (get : StateM S S) s = (s, s) := rfl

/-- Whatever it starts from, `f` ends in a state related to that one. -/
def Keeps (R : S → S → Prop) (f : StateM S α) : Prop := ∀ s, R s (f s).2

namespace Keeps

variable {R : S → S → Prop} [IsPreorder S R] {f : StateM S α} {g : α → StateM S β}

theorem pure (a : α) : Keeps R (Pure.pure a : StateM S α) := fun s => refl_of R s

theorem get : Keeps R (MonadState.get : StateM S S) := fun s => refl_of R s

theorem bind (hf : Keeps R f) (hg : ∀ a, Keeps R (g a)) : Keeps R (f >>= g) := fun s =>
  trans_of R (hf s) (hg _ _)

end Keeps

/-- `f` neither reads nor keeps what `put` puts into a state: put there before, it comes out the
same but for what was put. -/
def Overlooks {L : Type} (put : L → S → S) (f : StateM S α) : Prop :=
  ∀ s l, ∃ l', f (put l s) = ((f s).1, put l' (f s).2)

namespace Overlooks

variable {L : Type} {put : L → S → S} {f : StateM S α} {g : α → StateM S β} {k : S → StateM S α}

theorem pure (a : α) : Overlooks put (Pure.pure a : StateM S α) := fun _ l => ⟨l, rfl⟩

theorem bind (hf : Overlooks put f) (hg : ∀ a, Overlooks put (g a)) : Overlooks put (f >>= g) := by
  intro s l
  obtain ⟨l', hfirst⟩ := hf s l
  obtain ⟨l'', hrest⟩ := hg (f s).1 (f s).2 l'
  refine ⟨l'', ?_⟩
  rw [bind_apply, hfirst]
  exact hrest

theorem map (h : α → β) (hf : Overlooks put f) : Overlooks put (h <$> f) := by
  intro s l
  obtain ⟨l', hfirst⟩ := hf s l
  exact ⟨l', by rw [map_apply, hfirst]; rfl⟩

theorem get (hread : ∀ s l, k (put l s) = k s) (hk : ∀ s, Overlooks put (k s)) :
    Overlooks put (MonadState.get >>= k) := by
  intro s l
  obtain ⟨l', hrest⟩ := hk s s l
  refine ⟨l', ?_⟩
  rw [bind_apply, get_apply, hread]
  exact hrest

end Overlooks

/-! ## Turns -/

structure Turn (S K A : Type) where
  before : S
  call : K
  answer : A
  after : S

variable (step : K → StateM S A)

def turn (s : S) (call : K) : Turn S K A :=
  { before := s, call, answer := (step call s).1, after := (step call s).2 }

def turns : S → List K → List (Turn S K A)
  | _, [] => []
  | s, call :: rest => turn step s call :: turns (turn step s call).after rest

/-- The state after every call. -/
def afterAll : S → List K → S
  | s, [] => s
  | s, call :: rest => afterAll (turn step s call).after rest

variable {step}

theorem afterAll_append (s : S) (calls more : List K) :
    afterAll step s (calls ++ more) = afterAll step (afterAll step s calls) more := by
  induction calls generalizing s with
  | nil => rfl
  | cons call rest ih => exact ih _

theorem afterAll_concat (s : S) (calls : List K) (call : K) :
    afterAll step s (calls ++ [call]) = (turn step (afterAll step s calls) call).after :=
  afterAll_append s calls [call]

theorem turns_append (s : S) (calls more : List K) :
    turns step s (calls ++ more) = turns step s calls ++ turns step (afterAll step s calls) more := by
  induction calls generalizing s with
  | nil => rfl
  | cons call rest ih => exact congrArg _ (ih _)

/-- An invariant that every turn of a run keeps. `Cond` is what is asked of each turn. -/
theorem turns_invariant (Inv : S → Prop) (Cond : Turn S K A → Prop)
    (hturn : ∀ s call, Inv s → Cond (turn step s call) → Inv (turn step s call).after)
    {s : S} (calls : List K) (h : Inv s) (hcond : ∀ t ∈ turns step s calls, Cond t) :
    Inv (afterAll step s calls) ∧ ∀ t ∈ turns step s calls, Inv t.after := by
  induction calls generalizing s with
  | nil => exact ⟨h, by simp [turns]⟩
  | cons call rest ih =>
    simp only [turns, List.mem_cons, forall_eq_or_imp] at hcond ⊢
    have hfirst := hturn s call h hcond.1
    obtain ⟨hend, hrest⟩ := ih hfirst hcond.2
    exact ⟨hend, hfirst, hrest⟩

theorem turns_before (Inv : S → Prop) (hturn : ∀ s call, Inv s → Inv (turn step s call).after) {s : S}
    {calls : List K} (h : Inv s) {t : Turn S K A} (hmem : t ∈ turns step s calls) : Inv t.before := by
  induction calls generalizing s with
  | nil => simp [turns] at hmem
  | cons call rest ih =>
    rw [turns, List.mem_cons] at hmem
    rcases hmem with rfl | hmem
    · exact h
    · exact ih (hturn s call h) hmem

/-- A run is right exactly when each of its turns meets the condition. -/
theorem turns_iff (Inv : S → Prop) {Cond Post : Turn S K A → Prop}
    (hturn : ∀ s call, Inv s → ((Inv (turn step s call).after ∧ Post (turn step s call)) ↔
      Cond (turn step s call))) {s : S} (calls : List K) (h : Inv s) :
    (∀ t ∈ turns step s calls, Inv t.after ∧ Post t) ↔ ∀ t ∈ turns step s calls, Cond t := by
  induction calls generalizing s with
  | nil => simp [turns]
  | cons call rest ih =>
    simp only [turns, List.mem_cons, forall_eq_or_imp, hturn s call h]
    refine and_congr_right fun hcond => ?_
    exact ih ((hturn s call h).mpr hcond).1

/-- What the turns so far say of the state they led to, and what each turn promises from it. -/
theorem turns_since (Says : List (Turn S K A) → S → Prop) {Post : List (Turn S K A) → Turn S K A → Prop}
    (hturn : ∀ past s call, Says past s →
      Post past (turn step s call) ∧ Says (past ++ [turn step s call]) (turn step s call).after)
    {s : S} {calls : List K} {past earlier later : List (Turn S K A)} {t : Turn S K A} (h : Says past s)
    (hsplit : turns step s calls = earlier ++ t :: later) : Post (past ++ earlier) t := by
  induction earlier generalizing s calls past with
  | nil =>
    cases calls with
    | nil => cases hsplit
    | cons call rest =>
      obtain ⟨rfl, -⟩ := List.cons.inj hsplit
      rw [List.append_nil]
      exact (hturn past s call h).1
  | cons first earlier ih =>
    cases calls with
    | nil => cases hsplit
    | cons call rest =>
      obtain ⟨rfl, hrest⟩ := List.cons.inj hsplit
      have hlater := ih (hturn past s call h).2 hrest
      rwa [List.append_assoc] at hlater

theorem says_afterAll (Says : List (Turn S K A) → S → Prop)
    (hturn : ∀ past s call, Says past s → Says (past ++ [turn step s call]) (turn step s call).after)
    {s : S} {past : List (Turn S K A)} (calls : List K) (h : Says past s) :
    Says (past ++ turns step s calls) (afterAll step s calls) := by
  induction calls generalizing s past with
  | nil =>
    rw [turns, List.append_nil]
    exact h
  | cons call rest ih =>
    have hrest := ih (hturn past s call h)
    rwa [List.append_assoc] at hrest

/-- What follows a turn of a run is itself a run, from where the turn ended to where the run did. -/
theorem afterAll_split {s : S} {calls : List K} {earlier later : List (Turn S K A)} {t : Turn S K A}
    (h : turns step s calls = earlier ++ t :: later) :
    ∃ rest, later = turns step t.after rest ∧ afterAll step s calls = afterAll step t.after rest := by
  induction earlier generalizing s calls with
  | nil =>
    cases calls with
    | nil => cases h
    | cons call rest =>
      obtain ⟨rfl, rfl⟩ := List.cons.inj h
      exact ⟨rest, rfl, rfl⟩
  | cons first earlier ih =>
    cases calls with
    | nil => cases h
    | cons call rest =>
      have hrest := ih (List.cons.inj h).2
      exact hrest

theorem turns_split {s : S} {calls : List K} {earlier later : List (Turn S K A)} {t : Turn S K A}
    (h : turns step s calls = earlier ++ t :: later) : ∃ rest, later = turns step t.after rest := by
  obtain ⟨rest, hrest, -⟩ := afterAll_split h
  exact ⟨rest, hrest⟩

theorem eq_of_mem_turns {s : S} {calls : List K} {t : Turn S K A} (h : t ∈ turns step s calls) :
    turn step t.before t.call = t := by
  induction calls generalizing s with
  | nil => simp [turns] at h
  | cons call rest ih =>
    rw [turns, List.mem_cons] at h
    rcases h with rfl | h
    · rfl
    · exact ih h

theorem call_mem_of_mem_turns {s : S} {calls : List K} {t : Turn S K A}
    (h : t ∈ turns step s calls) : t.call ∈ calls := by
  induction calls generalizing s with
  | nil => simp [turns] at h
  | cons call rest ih =>
    rw [turns, List.mem_cons] at h
    rcases h with rfl | h
    · exact List.mem_cons_self
    · exact List.mem_cons_of_mem _ (ih h)

theorem afterAll_same {B : Type} (f : S → B) {s : S} {calls : List K}
    (h : ∀ t ∈ turns step s calls, f t.after = f t.before) : f (afterAll step s calls) = f s := by
  induction calls generalizing s with
  | nil => rfl
  | cons call rest ih =>
    rw [turns, List.forall_mem_cons] at h
    exact (ih h.2).trans h.1

variable (step) in
/-- These turns were a run that led to this state. -/
def LedTo (past : List (Turn S K A)) (s : S) : Prop :=
  ∃ first calls, past = turns step first calls ∧ s = afterAll step first calls

namespace LedTo

variable {past earlier later : List (Turn S K A)} {t : Turn S K A} {s : S}

theorem start (s : S) : LedTo step [] s := ⟨s, [], rfl, rfl⟩

theorem snoc (h : LedTo step past s) (call : K) : LedTo step (past ++ [turn step s call]) (turn step s call).after := by
  obtain ⟨first, calls, rfl, rfl⟩ := h
  refine ⟨first, calls ++ [call], ?_, ?_⟩
  · rw [turns_append]
    rfl
  · rw [afterAll_append]
    rfl

theorem turn_eq (h : LedTo step past s) (hmem : t ∈ past) : turn step t.before t.call = t := by
  obtain ⟨first, calls, rfl, rfl⟩ := h
  exact eq_of_mem_turns hmem

theorem same_since {B : Type} (h : LedTo step (earlier ++ t :: later) s) (f : S → B)
    (hlater : ∀ u ∈ later, f u.after = f u.before) : f s = f t.after := by
  obtain ⟨first, calls, hsplit, rfl⟩ := h
  obtain ⟨rest, rfl, hend⟩ := afterAll_split hsplit.symm
  rw [hend]
  exact afterAll_same f hlater

end LedTo

/-! ## What is followed by something -/

/-- Each of these that is `p` has one that is `q` after it. -/
def Followed (p q : α → Prop) : List α → Prop
  | [] => True
  | a :: later => (p a → ∃ b ∈ later, q b) ∧ Followed p q later

instance Followed.decide (p q : α → Prop) [DecidablePred p] [DecidablePred q] : DecidablePred (Followed p q)
  | [] => .isTrue trivial
  | _ :: later => @instDecidableAnd _ _ inferInstance (decide p q later)

theorem followed_snoc_iff {p q : α → Prop} {past : List α} {a : α} :
    Followed p q (past ++ [a]) ↔ ¬ p a ∧ (q a ∨ Followed p q past) := by
  induction past with
  | nil => simp [Followed]
  | cons b past ih =>
    simp only [List.cons_append, Followed, List.mem_append, List.mem_singleton, ih]
    constructor
    · rintro ⟨hb, hnone, hpast⟩
      refine ⟨hnone, ?_⟩
      by_cases ha : q a
      · exact .inl ha
      · refine .inr ⟨fun hp => ?_, hpast.resolve_left ha⟩
        obtain ⟨c, hc | rfl, hq⟩ := hb hp
        · exact ⟨c, hc, hq⟩
        · exact absurd hq ha
    · rintro ⟨hnone, ha | ⟨hb, hpast⟩⟩
      · exact ⟨fun _ => ⟨a, .inr rfl, ha⟩, hnone, .inl ha⟩
      · refine ⟨fun hp => ?_, hnone, .inr hpast⟩
        obtain ⟨c, hc, hq⟩ := hb hp
        exact ⟨c, .inl hc, hq⟩

/-- Each of these is `p`, given what comes before it. -/
def Since (p : List α → α → Prop) : List α → List α → Prop
  | _, [] => True
  | past, a :: later => p past a ∧ Since p (past ++ [a]) later

instance Since.decide (p : List α → α → Prop) [∀ past, DecidablePred (p past)] (past : List α) : DecidablePred (Since p past)
  | [] => .isTrue trivial
  | a :: later => @instDecidableAnd _ _ inferInstance (decide p (past ++ [a]) later)

theorem since_append_iff {p : List α → α → Prop} {past first rest : List α} :
    Since p past (first ++ rest) ↔ Since p past first ∧ Since p (past ++ first) rest := by
  induction first generalizing past with
  | nil => simp [Since]
  | cons a first ih => simp [Since, ih, and_assoc]

end Faulty
