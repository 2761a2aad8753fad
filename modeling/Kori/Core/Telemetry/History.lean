import Mathlib.Data.List.Basic
import Mathlib.Data.List.Induction

/-! # The rolling series of one metric -/

namespace Kori

/-- One charted point. A missing value marks a gap. -/
structure HistoryPoint (α : Type) where
  atUnixMs : Nat
  value : Option α
deriving DecidableEq

/-- A series in memory, bounded by its window. -/
structure History (α : Type) where
  points : List (HistoryPoint α)
  windowMs : Nat
deriving DecidableEq

namespace History

variable {α : Type}

def new (windowMs : Nat) : History α := { points := [], windowMs := max windowMs 1 }

/-- Appends a point and drops everything outside the window. A point older than the newest one is
ignored. -/
def push (atUnixMs : Nat) (value : Option α) (history : History α) : History α :=
  if history.points.getLast?.any fun last => atUnixMs < last.atUnixMs then history
  else
    let newest : HistoryPoint α := { atUnixMs, value }
    let cutoff := atUnixMs - history.windowMs
    { history with points := (history.points ++ [newest]).dropWhile fun point => point.atUnixMs < cutoff }

def pushAll (pushes : List (HistoryPoint α)) (history : History α) : History α :=
  pushes.foldl (fun history point => history.push point.atUnixMs point.value) history

/-! ## What is kept -/

/-- A point is accepted unless its stamp goes back behind the last accepted one. -/
def accept (taken : List (HistoryPoint α)) (point : HistoryPoint α) : List (HistoryPoint α) :=
  if taken.getLast?.any fun last => point.atUnixMs < last.atUnixMs then taken else taken ++ [point]

def accepted (pushes : List (HistoryPoint α)) : List (HistoryPoint α) := pushes.foldl accept []

/-- The points no further than the window behind the newest one. -/
def withinWindow (windowMs : Nat) (taken : List (HistoryPoint α)) : List (HistoryPoint α) :=
  taken.filter fun point => taken.getLast?.all fun newest => newest.atUnixMs ≤ point.atUnixMs + windowMs

abbrev Ordered (taken : List (HistoryPoint α)) : Prop := taken.Pairwise fun a b => a.atUnixMs ≤ b.atUnixMs

theorem ordered_snoc {taken : List (HistoryPoint α)} {point : HistoryPoint α} (h : Ordered taken)
    (hlast : taken.getLast?.any (fun last => point.atUnixMs < last.atUnixMs) = false) :
    Ordered (taken ++ [point]) ∧ ∀ other ∈ taken, other.atUnixMs ≤ point.atUnixMs := by
  have hall : ∀ other ∈ taken, other.atUnixMs ≤ point.atUnixMs := by
    intro other hmem
    obtain ⟨front, last, rfl⟩ := (List.eq_nil_or_concat' taken).resolve_left (List.ne_nil_of_mem hmem)
    have hbound : last.atUnixMs ≤ point.atUnixMs := by simpa using hlast
    rcases List.mem_append.mp hmem with hmem | hmem
    · exact Nat.le_trans ((List.pairwise_append.mp h).2.2 other hmem last (List.mem_singleton_self _)) hbound
    · rw [List.mem_singleton.mp hmem]
      exact hbound
  refine ⟨List.pairwise_append.mpr ⟨h, List.pairwise_singleton _ _, fun other hmem new hnew => ?_⟩, hall⟩
  rw [List.mem_singleton.mp hnew]
  exact hall other hmem

theorem dropWhile_eq_filter {taken : List (HistoryPoint α)} (h : Ordered taken) (cutoff : Nat) :
    taken.dropWhile (fun point => point.atUnixMs < cutoff) = taken.filter fun point => cutoff ≤ point.atUnixMs := by
  induction taken with
  | nil => rfl
  | cons point rest ih =>
    obtain ⟨hfirst, hrest⟩ := List.pairwise_cons.mp h
    by_cases hold : point.atUnixMs < cutoff
    · rw [List.dropWhile_cons_of_pos (by simpa using hold), List.filter_cons_of_neg (by simpa using hold), ih hrest]
    · have hkept : ∀ other ∈ rest, decide (cutoff ≤ other.atUnixMs) = true := fun other hmem => by
        have hbound := hfirst other hmem
        simp
        omega
      rw [List.dropWhile_cons_of_neg (by simpa using hold), List.filter_cons_of_pos (by simpa using hold),
        List.filter_eq_self.mpr hkept]

theorem getLast?_withinWindow (windowMs : Nat) (taken : List (HistoryPoint α)) :
    (withinWindow windowMs taken).getLast? = taken.getLast? := by
  rcases List.eq_nil_or_concat' taken with rfl | ⟨front, last, rfl⟩
  · rfl
  · unfold withinWindow
    rw [List.filter_append, List.getLast?_concat, List.filter_cons_of_pos (by simp), List.filter_nil,
      List.getLast?_concat]

theorem push_spec {history : History α} {taken : List (HistoryPoint α)} (h : Ordered taken)
    (hpoints : history.points = withinWindow history.windowMs taken) (point : HistoryPoint α) :
    Ordered (accept taken point) ∧
      (history.push point.atUnixMs point.value).points = withinWindow history.windowMs (accept taken point) ∧
      (history.push point.atUnixMs point.value).windowMs = history.windowMs := by
  -- The newest accepted point is within its own window, so the series ends in it too.
  have hnewest : history.points.getLast? = taken.getLast? := by
    rw [hpoints]
    exact getLast?_withinWindow ..
  unfold push accept
  rw [hnewest]
  cases hback : taken.getLast?.any fun last => point.atUnixMs < last.atUnixMs with
  | true => exact ⟨h, hpoints, rfl⟩
  | false =>
    obtain ⟨hordered, hall⟩ := ordered_snoc h hback
    rw [if_neg Bool.false_ne_true, if_neg Bool.false_ne_true]
    have hkept : history.points ++ [point] = (taken ++ [point]).filter fun other =>
        taken.getLast?.all (fun newest => newest.atUnixMs ≤ other.atUnixMs + history.windowMs) := by
      have hlast : taken.getLast?.all (fun newest => newest.atUnixMs ≤ point.atUnixMs + history.windowMs) = true := by
        rw [Option.all_eq_true]
        intro newest hmem
        have hbound := hall newest (List.mem_of_getLast? hmem)
        simp
        omega
      rw [List.filter_append, List.filter_cons_of_pos (by exact hlast), List.filter_nil, hpoints]
      rfl
    refine ⟨hordered, ?_, rfl⟩
    change (history.points ++ [point]).dropWhile (fun other => other.atUnixMs < point.atUnixMs - history.windowMs) = _
    rw [dropWhile_eq_filter (hkept ▸ hordered.sublist List.filter_sublist), hkept, List.filter_filter]
    refine List.filter_congr fun other hmem => ?_
    -- The new cutoff is no earlier than the old one.
    rw [List.getLast?_concat, Option.all_some, Bool.eq_iff_iff]
    simp only [Bool.and_eq_true, decide_eq_true_eq, Option.all_eq_true]
    constructor
    · rintro ⟨hcutoff, -⟩
      omega
    · intro hwindow
      refine ⟨by omega, fun newest hnew => ?_⟩
      have hbound := hall newest (List.mem_of_getLast? hnew)
      omega

/-- Whatever is pushed, the series is the accepted points within the window of the newest, in order. -/
theorem history_keeps_window (windowMs : Nat) (pushes : List (HistoryPoint α)) :
    ((new windowMs).pushAll pushes).points = withinWindow (max windowMs 1) (accepted pushes) ∧
      Ordered ((new windowMs).pushAll pushes).points := by
  have hspec : Ordered (accepted pushes) ∧
      ((new windowMs : History α).pushAll pushes).points = withinWindow (max windowMs 1) (accepted pushes) ∧
      ((new windowMs : History α).pushAll pushes).windowMs = max windowMs 1 := by
    induction pushes using List.reverseRecOn with
    | nil => exact ⟨List.Pairwise.nil, rfl, rfl⟩
    | append_singleton pushes point ih =>
      obtain ⟨hordered, hpoints, hwindow⟩ := ih
      unfold pushAll accepted at *
      rw [List.foldl_append, List.foldl_append]
      rw [← hwindow] at hpoints ⊢
      exact push_spec hordered hpoints point
  exact ⟨hspec.2.1, hspec.2.1 ▸ hspec.1.sublist List.filter_sublist⟩

end History

end Kori
