import Kori.Daemon.Display.Schedule
import Kori.Daemon.State.Refusals
import Mathlib.Algebra.Order.Ring.Nat

/-! # The daemon's own clock -/

open Faulty

namespace Kori

/-- Longest the ticker sleeps between two looks at the clock. -/
def TICK_POLL : Nat := milliseconds 50

/-- Shortest that same sleep is allowed to be. -/
def TICK_FLOOR : Nat := milliseconds 1

/-- How long to sleep before looking at the clock again. -/
def napUntil (deadline now : Instant) : Nat := max TICK_FLOOR (min (deadline - now) TICK_POLL)

theorem napUntil_spec (deadline now : Instant) : TICK_FLOOR ≤ napUntil deadline now ∧
    napUntil deadline now ≤ TICK_POLL ∧ now + napUntil deadline now ≤ max deadline (now + TICK_FLOOR) := by
  have hclamp : ∀ deadline now least most : Nat, least ≤ most → least ≤ max least (min (deadline - now) most) ∧
      max least (min (deadline - now) most) ≤ most ∧
      now + max least (min (deadline - now) most) ≤ max deadline (now + least) := by omega
  exact hclamp deadline now TICK_FLOOR TICK_POLL (by decide)

/-- The cadence of the telemetry pass, and when the next one is due. -/
structure Ticker where
  interval : Nat
  positive : 0 < interval
  next : Instant

/-- One look at the clock: the instant it reads, what surrounds the daemon then, and what it reads
once the pass is over. -/
structure Wake where
  now : Instant
  around : Surroundings
  later : Instant

namespace Ticker

def start (interval : Nat) (positive : 0 < interval) (now : Instant) : Ticker :=
  { interval, positive, next := now + interval }

def advance (ticker : Ticker) : Ticker := { ticker with next := ticker.next + ticker.interval }

/-- Walks the due tick to the last one that is not in the future, counting the ones it leaves in 32 bits. -/
def catchUp (now : Instant) (ticker : Ticker) (missed : Nat) : Ticker × Nat :=
  if ticker.next + ticker.interval ≤ now then catchUp now ticker.advance ((missed + 1) % UInt32.size)
  else (ticker, missed)
termination_by now - ticker.next
decreasing_by
  rename_i hlate
  have hlt : ticker.next < ticker.advance.next := Nat.lt_add_of_pos_right ticker.positive
  exact Nat.sub_lt_sub_left (Nat.lt_of_lt_of_le hlt hlate) hlt

/-- What one pass asks of the daemon, and the tick it waits for next. -/
def pass (wake : Wake) (ticker : Ticker) : List Machine.Call × Ticker :=
  if ticker.next ≤ wake.now then
    let caught := ticker.catchUp wake.now 0
    (.tickAnimation wake.now :: (List.replicate caught.2 .dropDisplayFrame ++ [.tick wake.around]), caught.1.advance)
  else ([.tickAnimation wake.now], ticker)

end Ticker

/-- The ticker and the daemon it shares with the clients. -/
structure Ticking (Raw : Type) where
  ticker : Ticker
  machine : Machine Raw

/-- One pass: what was asked of the daemon, and how long the ticker sleeps after it. -/
structure TickerPass where
  calls : List Machine.Call
  nap : Nat

namespace Ticking

variable {Raw : Type} (toml : Toml Raw)

def step (wake : Wake) : StateM (Ticking Raw) TickerPass := fun ticking =>
  let (calls, ticker) := ticking.ticker.pass wake
  let deadline := match (Machine.tickAnimation wake.now ticking.machine).1 with
    | some due => min due ticker.next
    | none => ticker.next
  ({ calls, nap := napUntil deadline wake.later },
    { ticker, machine := afterAll (Machine.serve toml) ticking.machine calls })

abbrev TickerTurn (Raw : Type) := Turn (Ticking Raw) Wake TickerPass

/-- How often the pass told the daemon of a tick it had dropped. -/
def recorded (t : TickerTurn Raw) : Nat :=
  (t.answer.calls.filter fun call => call matches .dropDisplayFrame).length

/-- How many whole intervals had gone by since the tick that was due. -/
def missed (t : TickerTurn Raw) : Nat := (t.call.now - t.before.ticker.next) / t.before.ticker.interval

end Ticking

/-- The next tick lies in the interval ahead of an instant, whole intervals after the start. -/
structure OnGrid (interval : Nat) (start now : Instant) (ticker : Ticker) : Prop where
  cadence : ticker.interval = interval
  ahead : now < ticker.next
  near : ticker.next ≤ now + interval
  grid : ticker.next % interval = start % interval

/-! ## One pass -/

theorem whole_intervals {next now interval : Nat} (positive : 0 < interval) (h : next ≤ now) :
    next + (now - next) / interval * interval ≤ now ∧
      now < next + (now - next) / interval * interval + interval := by
  have hleft := Nat.div_mul_le_self (now - next) interval
  have hmost := Nat.lt_div_mul_add positive (a := now - next)
  omega

namespace Ticker

variable {ticker : Ticker} {now start last : Instant} {wake : Wake} {interval : Nat}

theorem catchUp_spec {missed : Nat} (h : ticker.next ≤ now) (hmissed : missed < UInt32.size) :
    let n := (now - ticker.next) / ticker.interval
    ticker.catchUp now missed =
      ({ ticker with next := ticker.next + n * ticker.interval }, (missed + n) % UInt32.size) := by
  induction ticker, missed using catchUp.induct now with
  | case1 ticker missed hlate ih =>
    have hstep := ih hlate (Nat.mod_lt _ (by decide))
    have hnext : ticker.advance.next = ticker.next + ticker.interval := rfl
    have hn : (now - ticker.next) / ticker.interval = (now - ticker.advance.next) / ticker.interval + 1 := by
      rw [hnext, ← Nat.sub_sub, ← Nat.add_div_right _ ticker.positive, Nat.sub_add_cancel]
      exact Nat.le_sub_of_add_le' hlate
    unfold catchUp
    rw [if_pos hlate]
    dsimp only at hstep ⊢
    rw [hstep, hn, Nat.mod_add_mod, Nat.succ_mul, hnext]
    simp only [advance]
    congr 2
    · rw [Nat.add_assoc, Nat.add_comm ticker.interval]
    · omega
  | case2 ticker missed hearly =>
    have hzero : (now - ticker.next) / ticker.interval = 0 :=
      Nat.div_eq_of_lt (Nat.sub_lt_left_of_lt_add h (Nat.lt_of_not_le hearly))
    unfold catchUp
    rw [if_neg hearly]
    dsimp only
    rw [hzero, Nat.zero_mul, Nat.add_zero, Nat.add_zero, Nat.mod_eq_of_lt hmissed]

theorem pass_late (h : ticker.next ≤ wake.now) :
    let n := (wake.now - ticker.next) / ticker.interval
    ticker.pass wake =
      (.tickAnimation wake.now :: (List.replicate (n % UInt32.size) .dropDisplayFrame ++ [.tick wake.around]),
        { ticker with next := ticker.next + n * ticker.interval + ticker.interval }) := by
  unfold pass
  rw [if_pos h, catchUp_spec h (by decide), Nat.zero_add]
  rfl

theorem pass_early (h : ¬ ticker.next ≤ wake.now) : ticker.pass wake = ([.tickAnimation wake.now], ticker) := by
  unfold pass
  rw [if_neg h]

theorem onGrid_start (positive : 0 < interval) : OnGrid interval start start (Ticker.start interval positive start) where
  cadence := rfl
  ahead := Nat.lt_add_of_pos_right positive
  near := Nat.le_refl _
  grid := Nat.add_mod_right ..

theorem onGrid_pass (h : OnGrid interval start last ticker) (hclock : last ≤ wake.now) :
    OnGrid interval start wake.now (ticker.pass wake).2 := by
  obtain ⟨rfl, hahead, hnear, hgrid⟩ := h
  by_cases hlate : ticker.next ≤ wake.now
  · obtain ⟨hleft, hmost⟩ := whole_intervals ticker.positive hlate
    rw [pass_late hlate]
    refine ⟨rfl, hmost, Nat.add_le_add_right hleft _, ?_⟩
    dsimp only
    rw [Nat.add_mod_right, Nat.add_mul_mod_self_right, hgrid]
  · rw [pass_early hlate]
    exact ⟨rfl, Nat.lt_of_not_le hlate, Nat.le_trans hnear (Nat.add_le_add_right hclock _), hgrid⟩

end Ticker

/-! ## Every pass -/

namespace Ticking

variable {Raw : Type} {toml : Toml Raw}

theorem recorded_eq (ticking : Ticking Raw) (wake : Wake) :
    recorded (turn (step toml) ticking wake) = missed (turn (step toml) ticking wake) % UInt32.size := by
  change ((ticking.ticker.pass wake).1.filter _).length = (wake.now - ticking.ticker.next) / ticking.ticker.interval % _
  by_cases hlate : ticking.ticker.next ≤ wake.now
  · rw [Ticker.pass_late hlate]
    simp
  · rw [Ticker.pass_early hlate, Nat.sub_eq_zero_of_le (Nat.le_of_not_le hlate), Nat.zero_div]
    rfl

/-- The ticker sleeps past neither the next tick nor the next frame, but for the shortest sleep there is. -/
theorem nap_spec (ticking : Ticking Raw) (wake : Wake) :
    let t := turn (step toml) ticking wake
    TICK_FLOOR ≤ t.answer.nap ∧ t.answer.nap ≤ TICK_POLL ∧
      wake.later + t.answer.nap ≤ max t.after.ticker.next (wake.later + TICK_FLOOR) ∧
      ∀ due, (Machine.tickAnimation wake.now ticking.machine).1 = some due →
        wake.later + t.answer.nap ≤ max due (wake.later + TICK_FLOOR) := by
  intro t
  have hnap : t.answer.nap = napUntil (match (Machine.tickAnimation wake.now ticking.machine).1 with
    | some due => min due t.after.ticker.next
    | none => t.after.ticker.next) wake.later := rfl
  rw [hnap]
  cases (Machine.tickAnimation wake.now ticking.machine).1 with
  | none =>
    obtain ⟨hfloor, hpoll, hnext⟩ := napUntil_spec t.after.ticker.next wake.later
    exact ⟨hfloor, hpoll, hnext, fun due hdue => nomatch hdue⟩
  | some due =>
    obtain ⟨hfloor, hpoll, hfirst⟩ := napUntil_spec (min due t.after.ticker.next) wake.later
    refine ⟨hfloor, hpoll, Nat.le_trans hfirst (max_le_max_right _ (Nat.min_le_right ..)), fun other hdue => ?_⟩
    cases hdue
    exact Nat.le_trans hfirst (max_le_max_right _ (Nat.min_le_left ..))

theorem drops_counted (machine : Machine Raw) (n : Nat) :
    (afterAll (Machine.serve toml) machine (List.replicate n .dropDisplayFrame)).daemon.display =
      { machine.daemon.display with dropped := counted machine.daemon.display.dropped n } := by
  rw [← DisplayExecutor.dropFrames_count]
  induction n generalizing machine with
  | zero => rfl
  | succ n ih => exact ih _

theorem turns_onGrid {interval : Nat} {start : Instant} (wakes : List Wake) (ticking : Ticking Raw) (last : Instant)
    (h : OnGrid interval start last ticking.ticker) (hclock : (last :: wakes.map Wake.now).Pairwise (· ≤ ·)) :
    ∀ t ∈ turns (step toml) ticking wakes,
      OnGrid interval start t.call.now t.after.ticker ∧ recorded t = missed t % UInt32.size := by
  induction wakes generalizing ticking last with
  | nil => simp [turns]
  | cons wake rest ih =>
    obtain ⟨hfirst, hrest⟩ := List.pairwise_cons.mp hclock
    have hnext := Ticker.onGrid_pass h (hfirst _ (List.mem_cons_self ..))
    rw [turns, List.forall_mem_cons]
    exact ⟨⟨hnext, recorded_eq ticking wake⟩, ih _ _ hnext hrest⟩

/-- The next tick stays on the grid at every pass, and a pass records what it missed when that is under 2^32. -/
theorem ticker_keeps_up_iff (toml : Toml Raw) {interval : Nat} (positive : 0 < interval) (start : Instant)
    (machine : Machine Raw) (wakes : List Wake) (hclock : (start :: wakes.map Wake.now).Pairwise (· ≤ ·)) :
    ∀ t ∈ turns (step toml) ⟨.start interval positive start, machine⟩ wakes,
      OnGrid interval start t.call.now t.after.ticker ∧
        (OnGrid interval start t.call.now t.after.ticker ∧ recorded t = missed t ↔ missed t < UInt32.size) := by
  intro t hmem
  obtain ⟨hgrid, hrecorded⟩ := turns_onGrid wakes _ start (Ticker.onGrid_start positive) hclock t hmem
  refine ⟨hgrid, ?_⟩
  rw [hrecorded]
  constructor
  · rintro ⟨-, hcount⟩
    rw [← hcount]
    exact Nat.mod_lt _ (by decide)
  · exact fun hfew => ⟨hgrid, Nat.mod_eq_of_lt hfew⟩

def benchWake (now : Instant) : Wake := { now, around := benchSurroundings true true, later := now }

/-- A first pass on time, and one that comes two whole seconds late. -/
theorem ticker_keeps_up_iff_bench :
    let run := turns (step plainToml) ⟨.start 1000000000 (Nat.succ_pos _) 0, benchMachine (fun _ => false) fun _ => false⟩
      [benchWake (milliseconds 1020), benchWake (milliseconds 4200)]
    run.length = 2 ∧
      ∀ t ∈ run, OnGrid 1000000000 0 t.call.now t.after.ticker ∧ recorded t = missed t := by
  intro run
  refine ⟨rfl, fun t hmem => ?_⟩
  have hkept := ticker_keeps_up_iff plainToml (Nat.succ_pos _) 0 (benchMachine (fun _ => false) fun _ => false)
    [benchWake (milliseconds 1020), benchWake (milliseconds 4200)] (by decide) t hmem
  refine hkept.2.mpr ?_
  have hnow : t.call.now < UInt32.size := by
    have hcall := call_mem_of_mem_turns hmem
    simp only [List.mem_cons, List.not_mem_nil, or_false] at hcall
    rcases hcall with hcall | hcall <;> rw [hcall] <;> decide
  exact Nat.lt_of_le_of_lt (Nat.div_le_self ..) (Nat.lt_of_le_of_lt (Nat.sub_le ..) hnow)

/-- At one tick a nanosecond, a pass that comes 2^32 ticks late tells the daemon of none of them. -/
theorem missed_ticks_unrecorded :
    let t := turn (step plainToml)
      ⟨.start 1 Nat.one_pos 0, benchMachine (fun _ => false) fun _ => false⟩ (benchWake 4294967297)
    missed t = 4294967296 ∧ recorded t = 0 := by
  intro t
  have hmissed : missed t = 4294967296 := by
    change (4294967297 - (0 + 1)) / 1 = 4294967296
    norm_num
  refine ⟨hmissed, ?_⟩
  rw [recorded_eq, hmissed]
  rfl

end Ticking

end Kori
