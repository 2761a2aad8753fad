import Mathlib.Logic.Function.Basic
import Mathlib.Order.Defs.Unbundled

/-! # Processes that share a host

Each process runs a script of calls to the host. Between two calls of one, the others may make any
number of theirs, and any of them may be killed at any point.
-/

namespace Faulty

variable {P C K H α β : Type} {A : C → Type}

/-! ## Scripts -/

/-- A program of calls, each with an answer of its own type. -/
inductive Script (C : Type) (A : C → Type) (α : Type) : Type where
  | done (a : α)
  | call (c : C) (next : A c → Script C A α)

namespace Script

def bind : Script C A α → (α → Script C A β) → Script C A β
  | done a, f => f a
  | call c next, f => call c fun answer => (next answer).bind f

instance : Monad (Script C A) where
  pure := done
  bind := bind

end Script

/-- One call. -/
def request (c : C) : Script C A (A c) := .call c .done

/-! ## The host -/

/-- What a call answers and leaves, given who makes it and how it goes, and what the end of a process
leaves. -/
structure Kernel (P C : Type) (A : C → Type) (K H : Type) where
  serve : P → (c : C) → K → H → A c × H
  ends : P → H → H

/-- Who runs what, and the host they share. -/
structure Processes (P C : Type) (A : C → Type) (H α : Type) where
  running : P → Option (Script C A α)
  host : H

/-- What may happen next. -/
inductive Move (P C : Type) (A : C → Type) (K α : Type) where
  | start (p : P) (script : Script C A α)
  /-- The process makes its next call, which goes the given way. -/
  | call (p : P) (luck : K)
  /-- The process returned, or was killed. -/
  | stop (p : P)

variable (kernel : Kernel P C A K H)

def Processes.move [DecidableEq P] (all : Processes P C A H α) : Move P C A K α → Processes P C A H α
  | .start p script =>
    if (all.running p).isSome then all
    else { all with running := Function.update all.running p (some script) }
  | .call p luck =>
    match all.running p with
    | some (.call c next) =>
      let answered := kernel.serve p c luck all.host
      { running := Function.update all.running p (some (next answered.1)), host := answered.2 }
    | _ => all
  | .stop p =>
    match all.running p with
    | none => all
    | some _ => { running := Function.update all.running p none, host := kernel.ends p all.host }

/-- What a list of moves leads to. -/
def Processes.moves [DecidableEq P] (all : Processes P C A H α) (moves : List (Move P C A K α)) : Processes P C A H α :=
  moves.foldl (Processes.move kernel) all

/-! ## What a process keeps while the others run

`rely p` is what the moves of the others may do to the host, `Inv` what every process keeps, and
`pre p c` what the host must be when `p` makes the call `c`.
-/

structure Discipline (P C H : Type) where
  rely : P → H → H → Prop
  preorder : ∀ p, IsPreorder H (rely p)
  Inv : H → Prop
  pre : P → C → H → Prop
  /-- What the host has of a process that does not run: nothing. -/
  Clear : P → H → Prop
  clear : ∀ {p h h'}, Clear p h → rely p h h' → Clear p h'

namespace Discipline

variable (d : Discipline P C H) (p : P)

/-- Started from this host, the script makes every call where it may, keeps to what the others rely
on, and ends with `Q`, whatever the others do in between. -/
def Keeps : Script C A α → (α → H → Prop) → H → Prop
  | .done a, Q, h => Q a h
  | .call c next, Q, h => ∀ h', d.rely p h h' → d.Inv h' → d.pre p c h' ∧ ∀ luck,
    d.Inv (kernel.serve p c luck h').2 ∧ (∀ q ≠ p, d.rely q h' (kernel.serve p c luck h').2) ∧
    Keeps (next (kernel.serve p c luck h').1) Q (kernel.serve p c luck h').2

variable {kernel d p} {script : Script C A α} {h : H}

theorem keeps_bind (f : α → Script C A β) (Q : β → H → Prop) :
    d.Keeps kernel p (script >>= f) Q h ↔ d.Keeps kernel p script (fun a => d.Keeps kernel p (f a) Q) h := by
  change d.Keeps kernel p (script.bind f) Q h ↔ _
  induction script generalizing h with
  | done a => rfl
  | call c next ih => simp only [Script.bind, Keeps, ih]

theorem keeps_mono {Q Q' : α → H → Prop} (hkeeps : d.Keeps kernel p script Q h)
    (himp : ∀ a h, Q a h → Q' a h) : d.Keeps kernel p script Q' h := by
  induction script generalizing h with
  | done a => exact himp _ _ hkeeps
  | call c next ih =>
    intro h' hrely hinv
    obtain ⟨hpre, hserve⟩ := hkeeps h' hrely hinv
    refine ⟨hpre, fun luck => ?_⟩
    obtain ⟨hafter, hothers, hnext⟩ := hserve luck
    exact ⟨hafter, hothers, ih _ hnext⟩

theorem keeps_step {f : α → Script C A β} {M : α → H → Prop} {Q : β → H → Prop}
    (hkeeps : d.Keeps kernel p script M h) (hrest : ∀ a h, M a h → d.Keeps kernel p (f a) Q h) :
    d.Keeps kernel p (script >>= f) Q h :=
  (keeps_bind f Q).mpr (keeps_mono hkeeps hrest)

theorem keeps_rely {Q : α → H → Prop} (hQ : ∀ a h h', Q a h → d.rely p h h' → Q a h') {h' : H}
    (hkeeps : d.Keeps kernel p script Q h) (hrely : d.rely p h h') : d.Keeps kernel p script Q h' := by
  cases script with
  | done a => exact hQ a h h' hkeeps hrely
  | call c next => exact fun h'' hrely' => hkeeps h'' ((d.preorder p).trans _ _ _ hrely hrely')

theorem keeps_request {c : C} {Q : A c → H → Prop} (I : H → Prop)
    (hstable : ∀ h h', I h → d.rely p h h' → I h') (hI : I h)
    (hcall : ∀ h, I h → d.Inv h → d.pre p c h ∧ ∀ luck,
      d.Inv (kernel.serve p c luck h).2 ∧ (∀ q ≠ p, d.rely q h (kernel.serve p c luck h).2) ∧
      Q (kernel.serve p c luck h).1 (kernel.serve p c luck h).2) :
    d.Keeps kernel p (request c) Q h :=
  fun h' hrely hinv => hcall h' (hstable h h' hI hrely) hinv

/-! ## Any interleaving -/

/-- What holds of a process that runs the given script, or none. -/
def Stands (d : Discipline P C H) (kernel : Kernel P C A K H) (p : P) (h : H) : Option (Script C A α) → Prop
  | none => d.Clear p h
  | some script => d.Keeps kernel p script (fun _ _ => True) h

def Holds (d : Discipline P C H) (kernel : Kernel P C A K H) (all : Processes P C A H α) : Prop :=
  d.Inv all.host ∧ ∀ p, d.Stands kernel p all.host (all.running p)

/-- The end of a process breaks nothing the others rely on. -/
structure Ends (d : Discipline P C H) (kernel : Kernel P C A K H) : Prop where
  inv : ∀ p h, d.Inv h → d.Inv (kernel.ends p h)
  others : ∀ p h, d.Inv h → ∀ q ≠ p, d.rely q h (kernel.ends p h)
  clear : ∀ p h, d.Clear p (kernel.ends p h)

/-- A script that keeps to the discipline wherever the host has nothing of the process. -/
def Sound (d : Discipline P C H) (kernel : Kernel P C A K H) (p : P) (script : Script C A α) : Prop :=
  ∀ h, d.Inv h → d.Clear p h → d.Keeps kernel p script (fun _ _ => True) h

variable {all : Processes P C A H α}

theorem stands_rely {running : Option (Script C A α)} {h' : H} (hstands : d.Stands kernel p h running)
    (hrely : d.rely p h h') : d.Stands kernel p h' running := by
  cases running with
  | none => exact d.clear hstands hrely
  | some script => exact keeps_rely (fun _ _ _ _ _ => trivial) hstands hrely

theorem Holds.pre (hholds : d.Holds kernel all) {c : C} {next : A c → Script C A α}
    (hnext : all.running p = some (.call c next)) : d.pre p c all.host := by
  have hkeeps := hholds.2 p
  rw [hnext] at hkeeps
  exact (hkeeps all.host ((d.preorder p).refl _) hholds.1).1

theorem Holds.clear (hholds : d.Holds kernel all) (hnone : all.running p = none) : d.Clear p all.host := by
  have hclear := hholds.2 p
  rwa [hnone] at hclear

variable [DecidableEq P]

theorem holds_update (hholds : d.Holds kernel all) {running : Option (Script C A α)} {h' : H} (hinv : d.Inv h')
    (hothers : ∀ q ≠ p, d.rely q all.host h') (hstands : d.Stands kernel p h' running) :
    d.Holds kernel { running := Function.update all.running p running, host := h' } := by
  refine ⟨hinv, fun q => ?_⟩
  by_cases hq : q = p
  · subst hq
    simpa only [Function.update_self] using hstands
  · simpa only [Function.update_of_ne hq] using stands_rely (hholds.2 q) (hothers q hq)

theorem holds_move (hends : d.Ends kernel) (hholds : d.Holds kernel all) (move : Move P C A K α)
    (hstart : ∀ p script, move = .start p script → d.Sound kernel p script) :
    d.Holds kernel (all.move kernel move) := by
  unfold Processes.move
  cases move with
  | start p script =>
    dsimp only
    split
    · exact hholds
    · rename_i hnone
      have hclear := hholds.clear (Option.not_isSome_iff_eq_none.mp hnone)
      exact holds_update hholds hholds.1 (fun q _ => (d.preorder q).refl _) (hstart p script rfl _ hholds.1 hclear)
  | call p luck =>
    dsimp only
    split
    · rename_i c next hrunning
      have hkeeps := hholds.2 p
      rw [hrunning] at hkeeps
      obtain ⟨-, hserve⟩ := hkeeps all.host ((d.preorder p).refl _) hholds.1
      obtain ⟨hinv, hothers, hnext⟩ := hserve luck
      exact holds_update hholds hinv hothers hnext
    · exact hholds
  | stop p =>
    dsimp only
    split
    · exact hholds
    · exact holds_update hholds (hends.inv p _ hholds.1) (hends.others p _ hholds.1) (hends.clear p _)

/-- Scripts that each keep to the discipline keep to it in any interleaving, with any of them killed
anywhere. -/
theorem holds_moves (hends : d.Ends kernel) (hholds : d.Holds kernel all) (moves : List (Move P C A K α))
    (hstart : ∀ p script, .start p script ∈ moves → d.Sound kernel p script) :
    d.Holds kernel (all.moves kernel moves) := by
  induction moves generalizing all with
  | nil => exact hholds
  | cons move rest ih =>
    refine ih (holds_move hends hholds move fun p script hmove => ?_) fun p script hmem => ?_
    · exact hstart p script (hmove ▸ List.mem_cons_self)
    · exact hstart p script (List.mem_cons_of_mem _ hmem)

end Discipline

/-! ## One process alone

While nobody else moves, and every call goes in a way that is `ok`.
-/

namespace Script

variable (kernel : Kernel P C A K H) (p : P) (ok : K → Prop)

def Ends : Script C A α → (α → H → Prop) → H → Prop
  | .done a, Q, h => Q a h
  | .call c next, Q, h => ∀ luck, ok luck → (next (kernel.serve p c luck h).1).Ends Q (kernel.serve p c luck h).2

/-- However the calls go, the script comes to one that is `V`. -/
def Visits (V : C → H → Prop) : Script C A α → H → Prop
  | .done _, _ => False
  | .call c next, h =>
    V c h ∨ ∀ luck, ok luck → (next (kernel.serve p c luck h).1).Visits V (kernel.serve p c luck h).2

variable {kernel p ok} {script : Script C A α} {h : H} {Q Q' : α → H → Prop}

theorem ends_bind {f : α → Script C A β} {Q : β → H → Prop}
    (hends : script.Ends kernel p ok (fun a => (f a).Ends kernel p ok Q) h) :
    (script >>= f).Ends kernel p ok Q h := by
  change (script.bind f).Ends kernel p ok Q h
  induction script generalizing h with
  | done a => exact hends
  | call c next ih => exact fun luck hok => ih _ (hends luck hok)

theorem ends_mono (hends : script.Ends kernel p ok Q h) (himp : ∀ a h, Q a h → Q' a h) :
    script.Ends kernel p ok Q' h := by
  induction script generalizing h with
  | done a => exact himp a h hends
  | call c next ih => exact fun luck hok => ih _ (hends luck hok)

theorem ends_and (hends : script.Ends kernel p ok Q h) (hends' : script.Ends kernel p ok Q' h) :
    script.Ends kernel p ok (fun a h => Q a h ∧ Q' a h) h := by
  induction script generalizing h with
  | done a => exact ⟨hends, hends'⟩
  | call c next ih => exact fun luck hok => ih _ (hends luck hok) (hends' luck hok)

theorem ends_of_keeps {d : Discipline P C H} (hkeeps : d.Keeps kernel p script Q h) (hinv : d.Inv h) :
    script.Ends kernel p ok (fun a h => Q a h ∧ d.Inv h) h := by
  induction script generalizing h with
  | done a => exact ⟨hkeeps, hinv⟩
  | call c next ih =>
    intro luck _
    obtain ⟨hafter, -, hnext⟩ := (hkeeps h ((d.preorder p).refl _) hinv).2 luck
    exact ih _ hnext hafter

theorem visits_bind {V : C → H → Prop} {f : α → Script C A β} {M : α → H → Prop}
    (hends : script.Ends kernel p ok M h) (hvisits : ∀ a h, M a h → (f a).Visits kernel p ok V h) :
    (script >>= f).Visits kernel p ok V h := by
  change (script.bind f).Visits kernel p ok V h
  induction script generalizing h with
  | done a => exact hvisits a h hends
  | call c next ih => exact .inr fun luck hok => ih _ (hends luck hok)

theorem visits_first {V : C → H → Prop} (f : α → Script C A β) (hvisits : script.Visits kernel p ok V h) :
    (script >>= f).Visits kernel p ok V h := by
  change (script.bind f).Visits kernel p ok V h
  induction script generalizing h with
  | done a => exact hvisits.elim
  | call c next ih => exact hvisits.imp id fun hlater luck hok => ih _ (hlater luck hok)

theorem visits_moves [DecidableEq P] {V : C → H → Prop} {all : Processes P C A H α}
    (hrunning : all.running p = some script) (hvisits : script.Visits kernel p ok V all.host) (lucks : Nat → K)
    (hok : ∀ n, ok (lucks n)) : ∃ n c next,
      let after := all.moves kernel ((List.range n).map fun i => Move.call p (lucks i))
      after.running p = some (.call c next) ∧ V c after.host := by
  induction script generalizing all lucks with
  | done a => exact hvisits.elim
  | call c next ih =>
    rcases hvisits with hhere | hlater
    · exact ⟨0, c, next, hrunning, hhere⟩
    · have hmove : all.move kernel (.call p (lucks 0)) =
          { running := Function.update all.running p (some (next (kernel.serve p c (lucks 0) all.host).1))
            host := (kernel.serve p c (lucks 0) all.host).2 } := by
        unfold Processes.move
        dsimp only
        rw [hrunning]
      have hnext : (all.move kernel (.call p (lucks 0))).running p =
          some (next (kernel.serve p c (lucks 0) all.host).1) := by
        rw [hmove]
        exact Function.update_self ..
      obtain ⟨n, c', next', hafter⟩ := ih _ hnext (by rw [hmove]; exact hlater (lucks 0) (hok 0))
        (fun i => lucks (i + 1)) fun i => hok (i + 1)
      refine ⟨n + 1, c', next', ?_⟩
      rw [List.range_succ_eq_map, List.map_cons, List.map_map]
      exact hafter

end Script

end Faulty
