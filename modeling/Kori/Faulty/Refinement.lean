import Kori.Faulty.Logic

/-! # A device seen through a coarser one

What a program does on the finer device is, seen coarsely, what it does on the coarser one.
-/

namespace Faulty

variable {σ τ C R V Φ ε α : Type}

def Event.map (view : σ → τ) : Event σ C R V → Event τ C R V
  | .looked query answer => .looked query answer
  | .issued command ok met left => .issued command ok (view met) (view left)

def Seen.map (view : σ → τ) (s : Seen σ C R V) : Seen τ C R V :=
  { state := view s.state, log := s.log.map (Event.map view) }

/-- Every operation of the finer device is, through the view, the one of the coarser. -/
structure Refines (fine : Device σ C R V Φ ε) (coarse : Device τ C R V Φ ε) (view : σ → τ) : Prop where
  act : ∀ command s, view (fine.act command s) = coarse.act command (view s)
  look : ∀ query s, fine.look query s = coarse.look query (view s)
  error : ∀ fault, fine.error fault = coarse.error fault
  spill : ∀ fault command s, view (fine.spill fault command s) = coarse.spill fault command (view s)

namespace Refines

variable {fine : Device σ C R V Φ ε} {coarse : Device τ C R V Φ ε} {view : σ → τ} {s : Seen σ C R V}

theorem noted (query : R) (answer : Option V) : (s.noted query answer).map view = (s.map view).noted query answer := by
  simp [Seen.map, Seen.noted, Event.map]

theorem issued (command : C) (ok : Bool) (left : σ) :
    (s.issued command ok left).map view = (s.map view).issued command ok (view left) := by
  simp [Seen.map, Seen.issued, Event.map]

/-- What holds on the coarser device holds of the finer one's states, as they are seen. -/
theorem wp (h : Refines fine coarse view) {p : Prog C R V ε α} {Q : α → Seen τ C R V → Prop}
    (hp : wp coarse p Q (s.map view)) : wp fine p (fun a t => Q a (t.map view)) s := by
  induction p generalizing s with
  | done a => exact hp
  | look query next ih =>
    refine ⟨fun fault => ih _ ?_, ih _ ?_⟩
    · rw [noted, h.error]
      exact hp.1 fault
    · rw [noted, h.look]
      exact hp.2
  | issue command next ih =>
    refine ⟨fun fault => ih _ ?_, ih _ ?_⟩
    · rw [issued, h.error, h.spill]
      exact hp.1 fault
    · rw [issued, h.act]
      exact hp.2
  | clock next ih => exact fun t => ih t (hp t)

end Refines

end Faulty
