import Kori.Faulty.Turns

/-! # Queues over a run: what went in comes out in order, or is still there -/

namespace Faulty

variable {S K A α : Type} {step : K → StateM S A} (rest : S → List α) (put taken : Turn S K A → List α)

/-- One turn loses, duplicates and reorders nothing. -/
def Turn.Accounts (t : Turn S K A) : Prop := taken t ++ rest t.after = rest t.before ++ put t

/-- What was taken and what is left are what was there at first and what was put in. -/
def Accounted (first : List α) (past : List (Turn S K A)) (s : S) : Prop :=
  past.flatMap taken ++ rest s = first ++ past.flatMap put

variable {rest put taken} {first : List α} {past : List (Turn S K A)} {s : S} {t : Turn S K A}

theorem accounted_snoc_iff (h : Accounted rest put taken first past t.before) :
    Accounted rest put taken first (past ++ [t]) t.after ↔ t.Accounts rest put taken := by
  have hsplit : ∀ f : Turn S K A → List α, (past ++ [t]).flatMap f = past.flatMap f ++ f t := by
    intro f
    simp
  unfold Accounted at h ⊢
  unfold Turn.Accounts
  rw [hsplit, hsplit, List.append_assoc, ← List.append_assoc first, ← h, List.append_assoc]
  exact List.append_right_inj _

/-- A run accounts for everything at every moment exactly when each of its turns does. -/
theorem accounted_iff {calls : List K} (h : Accounted rest put taken first past s) :
    (∀ earlier t later, turns step s calls = earlier ++ t :: later →
      Accounted rest put taken first (past ++ earlier ++ [t]) t.after) ↔
    ∀ t ∈ turns step s calls, t.Accounts rest put taken := by
  induction calls generalizing s past with
  | nil => simp [turns]
  | cons call later ih =>
    have hfirst := accounted_snoc_iff (t := turn step s call) h
    constructor
    · intro hall t hmem
      have hturn := hfirst.mp (by simpa using hall [] _ _ rfl)
      rcases List.mem_cons.mp hmem with rfl | hlater
      · exact hturn
      · refine (ih (hfirst.mpr hturn)).mp (fun earlier t' later' hsplit => ?_) t hlater
        have hrun := hall (turn step s call :: earlier) t' later' (by rw [turns, hsplit]; rfl)
        simpa using hrun
    · intro hall earlier t' later' hsplit
      obtain ⟨hturn, hrest⟩ := List.forall_mem_cons.mp hall
      cases earlier with
      | nil =>
        obtain ⟨rfl, -⟩ := List.cons.inj hsplit
        simpa using hfirst.mpr hturn
      | cons head earlier =>
        obtain ⟨rfl, htail⟩ := List.cons.inj hsplit
        simpa using (ih (hfirst.mpr hturn)).mpr hrest earlier t' later' htail

theorem accounted_before {calls : List K} {earlier later : List (Turn S K A)}
    (h : Accounted rest put taken first past s) (hall : ∀ t ∈ turns step s calls, t.Accounts rest put taken)
    (hsplit : turns step s calls = earlier ++ t :: later) :
    Accounted rest put taken first (past ++ earlier) t.before := by
  induction earlier generalizing s calls past with
  | nil =>
    cases calls with
    | nil => cases hsplit
    | cons call calls =>
      obtain ⟨rfl, -⟩ := List.cons.inj hsplit
      rw [List.append_nil]
      exact h
  | cons head earlier ih =>
    cases calls with
    | nil => cases hsplit
    | cons call calls =>
      obtain ⟨rfl, htail⟩ := List.cons.inj hsplit
      obtain ⟨hturn, hrest⟩ := List.forall_mem_cons.mp hall
      have hnext := ih ((accounted_snoc_iff h).mpr hturn) hrest htail
      rwa [List.append_assoc] at hnext

end Faulty
