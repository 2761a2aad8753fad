import Mathlib.Logic.Function.Basic

/-! # Programs that drive a device whose every operation may fail -/

namespace Faulty

variable {σ C R V Φ ε α β : Type}

/-- A device: what a command does to its state, what a query sees, the error a fault reports,
and what a command that met the fault left behind. -/
structure Device (σ C R V Φ ε : Type) where
  act : C → σ → σ
  look : R → σ → V
  error : Φ → ε
  spill : Φ → C → σ → σ

/-- What an operation did. A command is kept with the state it met and the state it left. -/
inductive Event (σ C R V : Type) where
  | looked (query : R) (answer : Option V)
  | issued (command : C) (ok : Bool) (met left : σ)

/-- A program over the commands and queries of a device, with a clock it may read. -/
inductive Prog (C R V ε : Type) (α : Type) : Type where
  | done (a : α)
  | look (query : R) (next : Except ε V → Prog C R V ε α)
  | issue (command : C) (next : Except ε Unit → Prog C R V ε α)
  | clock (next : Nat → Prog C R V ε α)

namespace Prog

def bind : Prog C R V ε α → (α → Prog C R V ε β) → Prog C R V ε β
  | done a, f => f a
  | look q next, f => look q fun r => (next r).bind f
  | issue c next, f => issue c fun r => (next r).bind f
  | clock next, f => clock fun t => (next t).bind f

instance : Monad (Prog C R V ε) where
  pure := done
  bind := bind

end Prog

/-- One query. -/
def look (q : R) : Prog C R V ε (Except ε V) := .look q .done

/-- One command. -/
def issue (c : C) : Prog C R V ε (Except ε Unit) := .issue c .done

/-- One reading of the clock. -/
def clock : Prog C R V ε Nat := .clock .done

/-- The device and everything done to it so far, oldest first. -/
structure Seen (σ C R V : Type) where
  state : σ
  log : List (Event σ C R V)

namespace Seen

def noted (s : Seen σ C R V) (q : R) (answer : Option V) : Seen σ C R V :=
  { s with log := s.log ++ [.looked q answer] }

def issued (s : Seen σ C R V) (c : C) (ok : Bool) (left : σ) : Seen σ C R V :=
  { state := left, log := s.log ++ [.issued c ok s.state left] }

@[simp] theorem noted_state (s : Seen σ C R V) (q : R) (a : Option V) :
    (s.noted q a).state = s.state := rfl
@[simp] theorem noted_log (s : Seen σ C R V) (q : R) (a : Option V) :
    (s.noted q a).log = s.log ++ [.looked q a] := rfl
@[simp] theorem issued_state (s : Seen σ C R V) (c : C) (ok : Bool) (left : σ) :
    (s.issued c ok left).state = left := rfl
@[simp] theorem issued_log (s : Seen σ C R V) (c : C) (ok : Bool) (left : σ) :
    (s.issued c ok left).log = s.log ++ [.issued c ok s.state left] := rfl

end Seen

/-- What is seen, the fault of each operation still to come, and the clock readings to come. -/
structure World (σ C R V Φ : Type) extends Seen σ C R V where
  faults : Nat → Option Φ
  times : Nat → Nat

namespace World

/-- The world after one operation that left `s`. -/
def spent (w : World σ C R V Φ) (s : Seen σ C R V) : World σ C R V Φ :=
  { toSeen := s, faults := fun n => w.faults (n + 1), times := w.times }

/-- The world with an empty log, so that the next program's own operations can be told apart. -/
def fresh (w : World σ C R V Φ) : World σ C R V Φ := { w with log := [] }

@[simp] theorem fresh_state (w : World σ C R V Φ) : w.fresh.state = w.state := rfl
@[simp] theorem fresh_log (w : World σ C R V Φ) : w.fresh.log = [] := rfl
@[simp] theorem fresh_faults (w : World σ C R V Φ) : w.fresh.faults = w.faults := rfl
@[simp] theorem spent_toSeen (w : World σ C R V Φ) (s : Seen σ C R V) : (w.spent s).toSeen = s := rfl

end World

variable (D : Device σ C R V Φ ε)

/-- Runs a program against one plan of faults. -/
def Prog.run : Prog C R V ε α → World σ C R V Φ → α × World σ C R V Φ
  | .done a, w => (a, w)
  | .look q next, w =>
    match w.faults 0 with
    | none => (next (.ok (D.look q w.state))).run (w.spent (w.noted q (some (D.look q w.state))))
    | some f => (next (.error (D.error f))).run (w.spent (w.noted q none))
  | .issue c next, w =>
    match w.faults 0 with
    | none => (next (.ok ())).run (w.spent (w.issued c true (D.act c w.state)))
    | some f => (next (.error (D.error f))).run (w.spent (w.issued c false (D.spill f c w.state)))
  | .clock next, w => (next (w.times 0)).run { w with times := fun n => w.times (n + 1) }

@[simp] theorem run_pure (a : α) (w : World σ C R V Φ) :
    (pure a : Prog C R V ε α).run D w = (a, w) := rfl

theorem run_bind (p : Prog C R V ε α) (f : α → Prog C R V ε β) (w : World σ C R V Φ) :
    (p >>= f).run D w = (f (p.run D w).1).run D (p.run D w).2 := by
  change (p.bind f).run D w = _
  induction p generalizing w with
  | done a => rfl
  | look q next ih =>
    simp only [Prog.bind, Prog.run]
    split <;> exact ih _ _
  | issue c next ih =>
    simp only [Prog.bind, Prog.run]
    split <;> exact ih _ _
  | clock next ih => exact ih _ _

theorem run_congr (p : Prog C R V ε α) {w v : World σ C R V Φ} (hstate : w.state = v.state)
    (hfaults : w.faults = v.faults) (htimes : w.times = v.times) :
    (p.run D w).1 = (p.run D v).1 ∧ (p.run D w).2.state = (p.run D v).2.state := by
  induction p generalizing w v with
  | done a => exact ⟨rfl, hstate⟩
  | look q next ih =>
    simp only [Prog.run, hstate, hfaults]
    split
    · exact ih _ hstate (funext fun n => congrFun hfaults (n + 1)) htimes
    · exact ih _ hstate (funext fun n => congrFun hfaults (n + 1)) htimes
  | issue c next ih =>
    simp only [Prog.run, hstate, hfaults]
    split
    · exact ih _ rfl (funext fun n => congrFun hfaults (n + 1)) htimes
    · exact ih _ rfl (funext fun n => congrFun hfaults (n + 1)) htimes
  | clock next ih =>
    simp only [Prog.run, htimes]
    exact ih _ hstate hfaults rfl

end Faulty
