import Kori.Faulty.Logic

/-! # Runs: one owner of a device, call after call -/

namespace Faulty

variable {σ C R V Φ ε K A X : Type}

/-- The owner's memory, and the device it drives. The log is that of the owner's last call. -/
structure Rig (X σ C R V Φ : Type) where
  owner : X
  world : World σ C R V Φ

structure Step (K A X σ C R V Φ : Type) where
  before : Rig X σ C R V Φ
  call : K
  answer : A
  after : Rig X σ C R V Φ

namespace Rig

variable (D : Device σ C R V Φ ε) (handle : K → X → Prog C R V ε (A × X))

def step (rig : Rig X σ C R V Φ) (call : K) : Step K A X σ C R V Φ :=
  let r := (handle call rig.owner).run D rig.world.fresh
  { before := rig, call, answer := r.1.1, after := ⟨r.1.2, r.2⟩ }

def steps : Rig X σ C R V Φ → List K → List (Step K A X σ C R V Φ)
  | _, [] => []
  | rig, call :: rest => rig.step D handle call :: steps (rig.step D handle call).after rest

/-- The rig after every call. -/
def afterAll : Rig X σ C R V Φ → List K → Rig X σ C R V Φ
  | rig, [] => rig
  | rig, call :: rest => afterAll (rig.step D handle call).after rest

variable {D handle}

theorem step_of_wp {rig : Rig X σ C R V Φ} {call : K}
    {P : A → X → Seen σ C R V → Prop}
    (h : wp D (handle call rig.owner) (fun r s' => P r.1 r.2 s') rig.world.fresh.toSeen) :
    P (rig.step D handle call).answer (rig.step D handle call).after.owner
      (rig.step D handle call).after.world.toSeen :=
  wp_run rig.world.fresh h

/-- An invariant that every step keeps, and what every step promises from it. `Cond` is what is
asked of each step of the run. -/
theorem steps_of_step (Inv : Rig X σ C R V Φ → Prop) (Cond : Rig X σ C R V Φ → K → Prop)
    {Post : Step K A X σ C R V Φ → Prop}
    (hstep : ∀ rig call, Inv rig → Cond rig call →
      Inv (rig.step D handle call).after ∧ Post (rig.step D handle call))
    {rig : Rig X σ C R V Φ} (calls : List K) (h : Inv rig)
    (hcond : ∀ step ∈ rig.steps D handle calls, Cond step.before step.call) :
    ∀ step ∈ rig.steps D handle calls, Inv step.before ∧ Inv step.after ∧ Post step := by
  induction calls generalizing rig with
  | nil => simp [steps]
  | cons call rest ih =>
    simp only [steps, List.mem_cons, forall_eq_or_imp] at hcond ⊢
    have hfirst := hstep rig call h hcond.1
    exact ⟨⟨h, hfirst⟩, ih hfirst.1 hcond.2⟩

theorem eq_of_mem_steps {rig : Rig X σ C R V Φ} {calls : List K} {step : Step K A X σ C R V Φ}
    (h : step ∈ rig.steps D handle calls) : step.before.step D handle step.call = step := by
  induction calls generalizing rig with
  | nil => simp [steps] at h
  | cons call rest ih =>
    rw [steps, List.mem_cons] at h
    rcases h with rfl | h
    · rfl
    · exact ih h

theorem call_mem_of_mem_steps {rig : Rig X σ C R V Φ} {calls : List K} {step : Step K A X σ C R V Φ}
    (h : step ∈ rig.steps D handle calls) : step.call ∈ calls := by
  induction calls generalizing rig with
  | nil => simp [steps] at h
  | cons call rest ih =>
    rw [steps, List.mem_cons] at h
    rcases h with rfl | h
    · exact List.mem_cons_self
    · exact List.mem_cons_of_mem _ (ih h)

theorem steps_forall {Post : Step K A X σ C R V Φ → Prop}
    (hstep : ∀ (rig : Rig X σ C R V Φ) call, Post (rig.step D handle call))
    (rig : Rig X σ C R V Φ) (calls : List K) :
    ∀ step ∈ rig.steps D handle calls, Post step := by
  intro step hmem
  have h : ∀ step ∈ rig.steps D handle calls, True ∧ True ∧ Post step :=
    steps_of_step (fun _ => True) (fun _ _ => True) (fun rig call _ _ => ⟨trivial, hstep rig call⟩)
      calls trivial (fun _ _ => trivial)
  exact (h step hmem).2.2

/-- What the steps so far say of where the rig has come. -/
theorem steps_history (Says : List (Step K A X σ C R V Φ) → Rig X σ C R V Φ → Prop)
    (hstep : ∀ past (rig : Rig X σ C R V Φ) call, Says past rig →
      Says (past ++ [rig.step D handle call]) (rig.step D handle call).after)
    {rig : Rig X σ C R V Φ} (calls : List K) (h : Says [] rig) :
    Says (rig.steps D handle calls) (rig.afterAll D handle calls) := by
  suffices hfrom : ∀ (past : List (Step K A X σ C R V Φ)) (rig : Rig X σ C R V Φ), Says past rig →
      Says (past ++ rig.steps D handle calls) (rig.afterAll D handle calls) from hfrom [] rig h
  induction calls with
  | nil =>
    intro past rig h
    rwa [steps, List.append_nil]
  | cons call rest ih =>
    intro past rig h
    have hrest := ih _ _ (hstep past rig call h)
    rwa [List.append_assoc] at hrest

/-- What the steps so far say of where the rig has come, and what each step promises from it. -/
theorem steps_since (Says : List (Step K A X σ C R V Φ) → Rig X σ C R V Φ → Prop)
    (Post : List (Step K A X σ C R V Φ) → Step K A X σ C R V Φ → Prop)
    (hstep : ∀ past (rig : Rig X σ C R V Φ) call, Says past rig →
      Post past (rig.step D handle call) ∧
        Says (past ++ [rig.step D handle call]) (rig.step D handle call).after)
    {rig : Rig X σ C R V Φ} {calls : List K} {earlier later : List (Step K A X σ C R V Φ)}
    {step : Step K A X σ C R V Φ} (h : Says [] rig)
    (hsplit : rig.steps D handle calls = earlier ++ step :: later) : Post earlier step := by
  suffices hfrom : ∀ (past : List (Step K A X σ C R V Φ)) (rig : Rig X σ C R V Φ) (calls : List K), Says past rig →
      rig.steps D handle calls = earlier ++ step :: later → Post (past ++ earlier) step from
    hfrom [] rig calls h hsplit
  clear h hsplit
  induction earlier with
  | nil =>
    intro past rig calls h hsplit
    cases calls with
    | nil => cases hsplit
    | cons call rest =>
      obtain ⟨rfl, -⟩ := List.cons.inj hsplit
      rw [List.append_nil]
      exact (hstep past rig call h).1
  | cons first earlier ih =>
    intro past rig calls h hsplit
    cases calls with
    | nil => cases hsplit
    | cons call rest =>
      obtain ⟨rfl, hrest⟩ := List.cons.inj hsplit
      have hlater := ih _ _ rest (hstep past rig call h).2 hrest
      rwa [List.append_assoc] at hlater

theorem steps_pairwise (Keeps : Step K A X σ C R V Φ → Rig X σ C R V Φ → Prop)
    {Related : Step K A X σ C R V Φ → Step K A X σ C R V Φ → Prop}
    (hleft : ∀ (rig : Rig X σ C R V Φ) call,
      Keeps (rig.step D handle call) (rig.step D handle call).after)
    (hkept : ∀ earlier (rig : Rig X σ C R V Φ) call, Keeps earlier rig →
      Related earlier (rig.step D handle call) ∧ Keeps earlier (rig.step D handle call).after)
    (rig : Rig X σ C R V Φ) (calls : List K) : (rig.steps D handle calls).Pairwise Related := by
  have hlater : ∀ (calls : List K) (earlier : Step K A X σ C R V Φ) (rig : Rig X σ C R V Φ),
      Keeps earlier rig → ∀ later ∈ rig.steps D handle calls, Related earlier later := by
    intro calls
    induction calls with
    | nil => simp [steps]
    | cons call rest ih =>
      intro earlier rig h
      obtain ⟨hrelated, hkeeps⟩ := hkept earlier rig call h
      simp only [steps, List.mem_cons, forall_eq_or_imp]
      exact ⟨hrelated, ih earlier _ hkeeps⟩
  induction calls generalizing rig with
  | nil => exact List.Pairwise.nil
  | cons call rest ih => exact List.Pairwise.cons (hlater rest _ _ (hleft rig call)) (ih _)

end Rig

end Faulty
