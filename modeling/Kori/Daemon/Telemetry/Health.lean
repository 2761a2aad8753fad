import Kori.Daemon.State.Refusals
import Kori.Daemon.Telemetry
import Kori.Faulty.Changes

/-! # Collector health, logged exactly at its changes -/

open Faulty

namespace Kori

/-! ## What a snapshot says, and what a log says -/

/-- The detail a collector fails with in a snapshot: the last of its entries counts. -/
def failing (snapshot : TelemetrySnapshot) (collector : Collector) : Option String :=
  ((snapshot.failed.filter fun failure => failure.collector = collector).getLast?).map CollectorFailure.detail

/-- What it failed with in the snapshot before. -/
def failingBefore (snapshots : List TelemetrySnapshot) (i : Nat) (collector : Collector) : Option String :=
  ((snapshots.take i).getLast?).bind fun snapshot => failing snapshot collector

/-- The detail a log last reported a collector under, when it has not recovered since. -/
def lastReported (collector : Collector) (log : List EventKind) : Option String :=
  log.foldl (fun last event => match event with
    | .collectorFailed failed detail => if failed = collector then some detail else last
    | .collectorRecovered recovered => if recovered = collector then none else last
    | _ => last) none

theorem currentFailures_eq (snapshot : TelemetrySnapshot) : Machine.currentFailures snapshot = failing snapshot := by
  funext collector
  unfold Machine.currentFailures failing
  generalize snapshot.failed = failed
  induction failed using List.reverseRecOn with
  | nil => rfl
  | append_singleton failed failure ih =>
    rw [List.foldl_append, List.foldl_cons, List.foldl_nil, List.filter_append, List.getLast?_append]
    by_cases hcollector : failure.collector = collector
    · subst hcollector
      simp [Function.update_self]
    · rw [Function.update_of_ne (Ne.symm hcollector), ih]
      simp [hcollector]

/-! ## One snapshot -/

/-- A change of a collector's failure, as it is logged. -/
def toEvent : Change Collector String → EventKind
  | (collector, some detail) => .collectorFailed collector detail
  | (collector, none) => .collectorRecovered collector

theorem toEvent_injective : Function.Injective toEvent := by
  rintro ⟨collector, detail⟩ ⟨collector', detail'⟩ h
  cases detail <;> cases detail' <;> cases h <;> rfl

namespace Machine

variable {Raw : Type}

theorem noteAll_apply (events : List EventKind) (machine : Machine Raw) : (noteAll events machine).2 =
    { machine with daemon := { machine.daemon with diagnostics := machine.daemon.diagnostics ++ events } } := by
  induction events generalizing machine with
  | nil =>
    rw [List.append_nil]
    rfl
  | cons event events ih =>
    change (noteAll events { machine with daemon := machine.daemon.note event }).2 = _
    rw [ih]
    simp [Daemon.note]

theorem recordCollectorHealth_apply (snapshot : TelemetrySnapshot) (machine : Machine Raw) :
    (recordCollectorHealth snapshot machine).2 = { machine with daemon := { machine.daemon with
      diagnostics := machine.daemon.diagnostics ++
        (changes collectors machine.daemon.reportedFailures (failing snapshot)).map toEvent
      reportedFailures := failing snapshot } } := by
  have hevents : ∀ old new : Collector → Option String, (changes collectors old new).map toEvent =
      (collectors.filterMap fun collector => (new collector).bind fun detail =>
        if old collector ≠ some detail then some (.collectorFailed collector detail) else none) ++
      collectors.filterMap fun collector =>
        if (old collector).isSome ∧ (new collector).isNone then some (.collectorRecovered collector) else none := by
    intro old new
    unfold changes
    rw [List.map_append, List.map_filterMap, List.map_filterMap]
    congr 2
    · funext collector
      cases new collector with
      | none => rfl
      | some detail =>
        dsimp only [Option.bind_some]
        split <;> rfl
    · funext collector
      split <;> rfl
  rw [hevents, ← currentFailures_eq, ← List.append_assoc]
  unfold recordCollectorHealth
  simp only [bind_apply, get_apply, noteAll_apply]
  rfl

/-- Snapshot after snapshot. -/
def watch : List TelemetrySnapshot → Act Raw Unit
  | [] => return ()
  | snapshot :: rest => do
    recordCollectorHealth snapshot
    watch rest

theorem watch_apply (snapshots : List TelemetrySnapshot) (machine : Machine Raw) :
    (watch snapshots machine).2.daemon.diagnostics = machine.daemon.diagnostics ++
      ((history collectors machine.daemon.reportedFailures (snapshots.map failing)).map (·.map toEvent)).flatten := by
  induction snapshots generalizing machine with
  | nil => exact (List.append_nil _).symm
  | cons snapshot rest ih =>
    change (watch rest (recordCollectorHealth snapshot machine).2).2.daemon.diagnostics = _
    rw [ih, recordCollectorHealth_apply]
    simp [history]

end Machine

/-! ## The log of a run -/

theorem lastReported_append (collector : Collector) (log more : List EventKind) :
    lastReported collector (log ++ more) = more.foldl (fun last event => match event with
      | .collectorFailed failed detail => if failed = collector then some detail else last
      | .collectorRecovered recovered => if recovered = collector then none else last
      | _ => last) (lastReported collector log) := List.foldl_append

theorem lastReported_map_toEvent (collector : Collector) (log : List (Change Collector String)) :
    lastReported collector (log.map toEvent) = replay log (fun _ => none) collector := by
  induction log using List.reverseRecOn with
  | nil => rfl
  | append_singleton log change ih =>
    obtain ⟨changed, detail⟩ := change
    rw [List.map_append, lastReported_append, ih, replay_append]
    change _ = Function.update (replay log fun _ => none) changed detail collector
    by_cases hcollector : changed = collector
    · subst hcollector
      rw [Function.update_self]
      cases detail <;> exact if_pos rfl
    · rw [Function.update_of_ne (Ne.symm hcollector)]
      cases detail <;> exact if_neg hcollector

theorem nodup_collectors : Machine.collectors.Nodup := by decide

theorem mem_collectors (collector : Collector) : collector ∈ Machine.collectors := by cases collector <;> decide

theorem before_failing (snapshots : List TelemetrySnapshot) (i : Nat) :
    before (fun _ => none) (snapshots.map failing) i = failingBefore snapshots i := by
  funext collector
  unfold before failingBefore
  rw [← List.map_take, List.getLast?_map]
  cases (snapshots.take i).getLast? <;> rfl

theorem mem_logged {old new : Collector → Option String} {collector : Collector} {detail : Option String} :
    toEvent (collector, detail) ∈ (changes Machine.collectors old new).map toEvent ↔
      new collector = detail ∧ old collector ≠ detail := by
  rw [List.mem_map_of_injective toEvent_injective, mem_changes]
  exact and_iff_right (mem_collectors collector)

theorem failed_before_recovered {snapshots : List TelemetrySnapshot} {collector : Collector}
    {earlier later : List EventKind}
    (h : ((history Machine.collectors (fun _ => none) (snapshots.map failing)).map (·.map toEvent)).flatten =
      earlier ++ .collectorRecovered collector :: later) :
    ∃ before detail since, earlier = before ++ .collectorFailed collector detail :: since ∧
      .collectorRecovered collector ∉ since := by
  rw [← List.map_flatten] at h
  obtain ⟨past, rest, hlog, hearlier, hrest⟩ := List.map_eq_append_iff.mp h
  obtain ⟨⟨gone, value⟩, future, hfuture, hgone, -⟩ := List.map_eq_cons_iff.mp hrest
  have hchange : (gone, value) = (collector, none) := toEvent_injective hgone
  cases hchange
  subst hfuture
  have hthere := goneWereThere_history nodup_collectors mem_collectors (fun _ => none) (snapshots.map failing)
    past collector future hlog
  obtain ⟨detail, hdetail⟩ := Option.ne_none_iff_exists'.mp hthere
  obtain ⟨before, since, hpast, hsince⟩ := exists_of_replay hdetail
  refine ⟨before.map toEvent, detail, since.map toEvent, ?_, ?_⟩
  · rw [← hearlier, hpast, List.map_append, List.map_cons]
    rfl
  · intro hmem
    obtain ⟨change, hchange, hrecovered⟩ := List.mem_map.mp hmem
    have hsame : change = (collector, none) := toEvent_injective hrecovered
    exact hsince (List.mem_map.mpr ⟨change, hchange, by rw [hsame]⟩)

/-- Whatever the snapshots, a failure is logged exactly where a collector fails with another detail than the one it
was last reported under, and a recovery exactly where it stops failing. -/
theorem collector_health_logged_at_changes {Raw : Type} {machine : Machine Raw}
    (hnew : machine.daemon.reportedFailures = fun _ => none) (snapshots : List TelemetrySnapshot) :
    ∃ logged : List (List EventKind), logged.length = snapshots.length ∧
      (Machine.watch snapshots machine).2.daemon.diagnostics = machine.daemon.diagnostics ++ logged.flatten ∧
      (∀ (i : Nat) (snapshot : TelemetrySnapshot) (events : List EventKind),
        snapshots[i]? = some snapshot → logged[i]? = some events →
          events.Nodup ∧
          (∀ event ∈ events, ∃ collector, event = .collectorRecovered collector ∨
            ∃ detail, event = .collectorFailed collector detail) ∧
          ∀ collector, lastReported collector (logged.take i).flatten = failingBefore snapshots i collector ∧
            (∀ detail, .collectorFailed collector detail ∈ events ↔
              failing snapshot collector = some detail ∧
                lastReported collector (logged.take i).flatten ≠ some detail) ∧
            (.collectorRecovered collector ∈ events ↔
              failing snapshot collector = none ∧ failingBefore snapshots i collector ≠ none)) ∧
      ∀ (collector : Collector) (earlier later : List EventKind),
        logged.flatten = earlier ++ .collectorRecovered collector :: later →
          ∃ before detail since, earlier = before ++ .collectorFailed collector detail :: since ∧
            .collectorRecovered collector ∉ since := by
  refine ⟨(history Machine.collectors (fun _ => none) (snapshots.map failing)).map (·.map toEvent), ?_, ?_, ?_,
    fun _ _ _ => failed_before_recovered⟩
  · rw [List.length_map, length_history, List.length_map]
  · rw [← hnew]
    exact Machine.watch_apply snapshots machine
  · intro i snapshot events hsnapshot hevents
    rw [List.getElem?_map, getElem?_history, List.getElem?_map, hsnapshot, before_failing] at hevents
    obtain rfl : (changes Machine.collectors (failingBefore snapshots i) (failing snapshot)).map toEvent = events :=
      Option.some.inj hevents
    have hlast : ∀ collector, lastReported collector (((history Machine.collectors (fun _ => none)
        (snapshots.map failing)).map (·.map toEvent)).take i).flatten = failingBefore snapshots i collector := by
      intro collector
      rw [← List.map_take, ← List.map_flatten, lastReported_map_toEvent,
        replay_history nodup_collectors mem_collectors, before_failing]
    refine ⟨?_, ?_, fun collector => ⟨hlast collector, fun detail => ?_, ?_⟩⟩
    · exact (List.Nodup.of_map _ (nodup_changes nodup_collectors _ _)).map toEvent_injective
    · intro event hevent
      obtain ⟨⟨collector, detail⟩, -, rfl⟩ := List.mem_map.mp hevent
      cases detail with
      | none => exact ⟨collector, .inl rfl⟩
      | some detail => exact ⟨collector, .inr ⟨detail, rfl⟩⟩
    · rw [hlast]
      exact @mem_logged _ _ collector (some detail)
    · exact @mem_logged _ _ collector none

/-- A machine that has reported no failure, and a collector that fails twice and then recovers. -/
theorem bench_failure_logged_once :
    let machine : Machine ConfigDocument := { benchMachine (fun _ => false) fun _ => false with
      daemon := { (benchMachine (fun _ => false) fun _ => false).daemon with reportedFailures := fun _ => none } }
    let broken : TelemetrySnapshot := { benchSnapshot true with failed := [⟨.gpu, "old"⟩, ⟨.gpu, "lost"⟩] }
    ∃ first second third, (Machine.watch [broken, broken, benchSnapshot true] machine).2.daemon.diagnostics =
        machine.daemon.diagnostics ++ [first, second, third].flatten ∧
      .collectorFailed .gpu "lost" ∈ first ∧ .collectorFailed .gpu "lost" ∉ second ∧
      .collectorRecovered .gpu ∈ third := by
  intro machine broken
  obtain ⟨logged, hlength, hlog, hevents, -⟩ :=
    collector_health_logged_at_changes (show machine.daemon.reportedFailures = fun _ => none from rfl)
      [broken, broken, benchSnapshot true]
  obtain ⟨first, second, third, rfl⟩ := List.length_eq_three.mp hlength
  refine ⟨first, second, third, hlog, ?_, ?_, ?_⟩
  · exact (((hevents 0 broken first rfl rfl).2.2 .gpu).2.1 "lost").mpr ⟨by decide, nofun⟩
  · obtain ⟨hlast, hfailed, -⟩ := (hevents 1 broken second rfl rfl).2.2 .gpu
    intro hmem
    refine ((hfailed "lost").mp hmem).2 (hlast.trans ?_)
    decide
  · exact ((hevents 2 (benchSnapshot true) third rfl rfl).2.2 .gpu).2.2.mpr ⟨by decide, by decide⟩

end Kori
