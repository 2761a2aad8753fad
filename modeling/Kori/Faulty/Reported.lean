import Kori.Faulty.Logic

/-! # What a program ends with, when the errors it may meet are known

`Gives φ P p` says that `p` ends with `P` whatever it is answered, as long as every error it is answered
satisfies `φ`.
-/

namespace Faulty

variable {σ C R V Φ ε α β F ι : Type} {D : Device σ C R V Φ ε} {φ : ε → Prop} {p : Prog C R V ε α}
variable {P : α → Prop} {Q : β → Prop}

def Gives (φ : ε → Prop) (P : α → Prop) : Prog C R V ε α → Prop
  | .done a => P a
  | .look _ next => (∀ v, Gives φ P (next (.ok v))) ∧ ∀ e, φ e → Gives φ P (next (.error e))
  | .issue _ next => Gives φ P (next (.ok ())) ∧ ∀ e, φ e → Gives φ P (next (.error e))
  | .clock next => ∀ t, Gives φ P (next t)

theorem gives_step {f : α → Prog C R V ε β} (h : Gives φ P p) (h' : ∀ a, P a → Gives φ Q (f a)) :
    Gives φ Q (p >>= f) := by
  change Gives φ Q (p.bind f)
  induction p with
  | done a => exact h' a h
  | look q next ih => exact ⟨fun v => ih _ (h.1 v), fun e he => ih _ (h.2 e he)⟩
  | issue c next ih => exact ⟨ih _ h.1, fun e he => ih _ (h.2 e he)⟩
  | clock next ih => exact fun t => ih t (h t)

theorem gives_true : Gives φ (fun _ => True) p := by
  induction p with
  | done a => trivial
  | look q next ih => exact ⟨fun v => ih _, fun e _ => ih _⟩
  | issue c next ih => exact ⟨ih _, fun e _ => ih _⟩
  | clock next ih => exact ih

/-- A program about whose answers nothing has to be known. -/
theorem gives_bind {f : α → Prog C R V ε β} (h : ∀ a, Gives φ Q (f a)) : Gives φ Q (p >>= f) :=
  gives_step gives_true fun a _ => h a

theorem gives_mono {P' : α → Prop} (h : Gives φ P p) (himp : ∀ a, P a → P' a) : Gives φ P' p := by
  induction p with
  | done a => exact himp a h
  | look q next ih => exact ⟨fun v => ih _ (h.1 v), fun e he => ih _ (h.2 e he)⟩
  | issue c next ih => exact ⟨ih _ h.1, fun e he => ih _ (h.2 e he)⟩
  | clock next ih => exact fun t => ih t (h t)

/-- A run whose faults are all known ends so. -/
theorem run_gives {w : World σ C R V Φ} (h : Gives φ P p)
    (hfaults : ∀ n fault, w.faults n = some fault → φ (D.error fault)) : P (p.run D w).1 := by
  induction p generalizing w with
  | done a => exact h
  | look q next ih =>
    simp only [Prog.run]
    split
    · exact ih _ (h.1 _) fun n => hfaults (n + 1)
    · rename_i fault hfault
      exact ih _ (h.2 _ (hfaults 0 fault hfault)) fun n => hfaults (n + 1)
  | issue c next ih =>
    simp only [Prog.run]
    split
    · exact ih _ h.1 fun n => hfaults (n + 1)
    · rename_i fault hfault
      exact ih _ (h.2 _ (hfaults 0 fault hfault)) fun n => hfaults (n + 1)
  | clock next ih => exact ih _ (h _) hfaults

/-! ## Programs that stop at the first error -/

section Errors

variable {x : ExceptT F (Prog C R V ε) α} {f : α → ExceptT F (Prog C R V ε) β} {T : F → Prop}

/-- A result, or an error that satisfies `T`. -/
def Either (T : F → Prop) (P : α → Prop) : Except F α → Prop
  | .error e => T e
  | .ok a => P a

theorem either_mono {y : Except F α} {T' : F → Prop} {P' : α → Prop} (h : Either T P y) (hT : ∀ e, T e → T' e)
    (hP : ∀ a, P a → P' a) : Either T' P' y := by
  cases y with
  | error e => exact hT e h
  | ok a => exact hP a h

theorem either_mapError {E : Type} {y : Except E α} {g : E → F} (h : Either (fun e => T (g e)) P y) :
    Either T P (y.mapError g) := by
  cases y with
  | error e => exact h
  | ok a => exact h

theorem either_bind {y : Except F α} {g : α → Except F β} (h : Either T P y) (h' : ∀ a, P a → Either T Q (g a)) :
    Either T Q (y >>= g) := by
  cases y with
  | error e => exact h
  | ok a => exact h' a h

theorem gives_run_step (h : Gives φ (Either T P) x.run) (h' : ∀ a, P a → Gives φ (Either T Q) (f a).run) :
    Gives φ (Either T Q) (x >>= f).run := by
  rw [ExceptT.run_bind]
  refine gives_step h ?_
  rintro (e | a) hresult
  · exact hresult
  · exact h' a hresult

theorem gives_run_lift_step (h : ∀ a, Gives φ (Either T Q) (f a).run) :
    Gives φ (Either T Q) (liftM p >>= f : ExceptT F (Prog C R V ε) β).run :=
  gives_run_step (gives_bind fun _ => trivial) fun a (_ : True) => h a

theorem gives_run_forM {l : List ι} {body : ι → ExceptT F (Prog C R V ε) PUnit}
    (h : ∀ i ∈ l, Gives φ (Either T fun _ => True) (body i).run) :
    Gives φ (Either T fun _ => True) (l.forM body).run := by
  induction l with
  | nil => trivial
  | cons i rest ih =>
    change Gives φ _ (body i >>= fun _ => rest.forM body).run
    exact gives_run_step (h i List.mem_cons_self) fun _ _ => ih fun j hj => h j (List.mem_cons_of_mem _ hj)

end Errors

end Faulty
