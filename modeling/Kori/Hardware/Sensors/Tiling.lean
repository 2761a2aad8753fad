import Kori.Faulty.Records
import Kori.Hardware.Sensors

/-! # The published loads cover the ticks, each once -/

open Faulty

namespace Kori

namespace CpuTimes

/-- The busy share of the ticks between two readings. -/
def load (interval : CpuTimes × CpuTimes) : F32 :=
  let total := interval.2.total - interval.1.total
  ratio (total - (interval.2.idle - interval.1.idle)) total

end CpuTimes

/-- The readings of a run that could be read. -/
def Files.cpuTimes (procRoot : String) (passes : List Files) : List CpuTimes :=
  passes.filterMap fun files => (files.readCpuTimes procRoot).toOption

namespace SystemSensors

abbrev Passes := List (Turn SystemSensors Files (Reading F32))

/-- The loads a run published, oldest first. -/
def published (passes : Passes) : List F32 := passes.filterMap fun pass => pass.answer.copied

variable {sensors : SystemSensors} {files : Files}

theorem cpuLoadPercent_cases (sensors : SystemSensors) (files : Files) :
    match files.readCpuTimes sensors.procRoot, sensors.previous with
    | .error cause, _ => cpuLoadPercent files sensors = (.unavailable cause, sensors)
    | .ok current, none => ∃ cause,
      cpuLoadPercent files sensors = (.unavailable cause, { sensors with previous := some current })
    | .ok current, some previous =>
      if previous.total < current.total then cpuLoadPercent files sensors =
        (.valid (CpuTimes.load (previous, current)), { sensors with previous := some current })
      else ∃ cause, cpuLoadPercent files sensors = (.unavailable cause, sensors) := by
  unfold cpuLoadPercent
  rw [bind_apply, get_apply]
  cases hread : files.readCpuTimes sensors.procRoot with
  | error cause => rfl
  | ok current =>
    cases hprevious : sensors.previous with
    | none => exact ⟨_, rfl⟩
    | some previous =>
      dsimp only
      by_cases hpast : previous.total < current.total
      · have hticks : current.total - previous.total ≠ 0 := Nat.sub_ne_zero_of_lt hpast
        have hclamp := clampPercent_ratio (Nat.sub_le (current.total - previous.total)
          (current.idle - previous.idle)) hticks
        rw [if_pos hpast, if_neg hticks, Reading.percent, hclamp]
        rfl
      · have hticks : current.total - previous.total = 0 := Nat.sub_eq_zero_of_le (Nat.le_of_not_lt hpast)
        rw [if_neg hpast, if_pos hticks]
        exact ⟨_, rfl⟩

theorem cpuTimes_cons (procRoot : String) (files : Files) (rest : List Files) :
    Files.cpuTimes procRoot (files :: rest) =
      (files.readCpuTimes procRoot).toOption.toList ++ Files.cpuTimes procRoot rest := by
  unfold Files.cpuTimes
  rw [List.filterMap_cons]
  cases files.readCpuTimes procRoot <;> rfl

theorem published_cons (pass : Turn SystemSensors Files (Reading F32)) (rest : Passes) :
    published (pass :: rest) = pass.answer.copied.toList ++ published rest := by
  unfold published
  rw [List.filterMap_cons]
  cases pass.answer.copied <;> rfl

theorem published_of_baseline (passes : List Files) {baseline : CpuTimes} (h : sensors.previous = some baseline) :
    let readings := Files.cpuTimes sensors.procRoot passes
    let records := baseline :: recordsAfter CpuTimes.total (some baseline.total) readings
    published (turns cpuLoadPercent sensors passes) = (pairs records).map CpuTimes.load ∧
      (afterAll cpuLoadPercent sensors passes).previous = records.getLast? := by
  induction passes generalizing sensors baseline with
  | nil => exact ⟨rfl, h⟩
  | cons files rest ih =>
    have hpass := cpuLoadPercent_cases sensors files
    rw [h] at hpass
    simp only [turns, afterAll, turn, published_cons, cpuTimes_cons]
    cases hread : files.readCpuTimes sensors.procRoot with
    | error cause =>
      rw [hread] at hpass
      rw [hpass]
      exact ih h
    | ok current =>
      rw [hread] at hpass
      by_cases hpast : baseline.total < current.total
      · simp only [if_pos hpast] at hpass
        have hrest := @ih { sensors with previous := some current } current rfl
        have hrecords : recordsAfter CpuTimes.total (some baseline.total)
            (current :: Files.cpuTimes sensors.procRoot rest) =
            current :: recordsAfter CpuTimes.total (some current.total) (Files.cpuTimes sensors.procRoot rest) :=
          recordsAfter_cons_of_past (by simpa using hpast)
        rw [hpass]
        simp only [Except.toOption, Option.toList, List.singleton_append, hrecords]
        refine ⟨congrArg (CpuTimes.load (baseline, current) :: ·) hrest.1, ?_⟩
        rw [List.getLast?_cons_cons]
        exact hrest.2
      · simp only [if_neg hpast] at hpass
        obtain ⟨cause, hpass⟩ := hpass
        have hrecords : recordsAfter CpuTimes.total (some baseline.total)
            (current :: Files.cpuTimes sensors.procRoot rest) =
            recordsAfter CpuTimes.total (some baseline.total) (Files.cpuTimes sensors.procRoot rest) :=
          recordsAfter_cons_of_not_past (Nat.le_of_not_lt hpast)
        rw [hpass]
        simp only [Except.toOption, Option.toList, List.singleton_append, hrecords]
        exact ih h

theorem published_of_none (passes : List Files) (h : sensors.previous = none) :
    let records := recordsAfter CpuTimes.total none (Files.cpuTimes sensors.procRoot passes)
    published (turns cpuLoadPercent sensors passes) = (pairs records).map CpuTimes.load ∧
      (afterAll cpuLoadPercent sensors passes).previous = records.getLast? := by
  induction passes generalizing sensors with
  | nil => exact ⟨rfl, h⟩
  | cons files rest ih =>
    have hpass := cpuLoadPercent_cases sensors files
    rw [h] at hpass
    simp only [turns, afterAll, turn, published_cons, cpuTimes_cons]
    cases hread : files.readCpuTimes sensors.procRoot with
    | error cause =>
      rw [hread] at hpass
      rw [hpass]
      exact ih h
    | ok current =>
      rw [hread] at hpass
      obtain ⟨cause, hpass⟩ := hpass
      rw [hpass]
      exact @published_of_baseline { sensors with previous := some current } rest current rfl

theorem opened_previous (root : Sysfs) (procRoot : String) (files : Files) :
    (opened root procRoot files).previous = (files.readCpuTimes procRoot).toOption := by
  unfold opened
  cases files.readCpuTimes procRoot <;> rfl

end SystemSensors

open SystemSensors in
/-- Whatever the files answer, the published loads are those between neighbouring records of the tick count, so that
their intervals cover the ticks from the first baseline to the last one, each once; and each is a percentage. -/
theorem cpu_loads_tile (root : Sysfs) (procRoot : String) (atOpen : Files) (passes : List Files) :
    let sensors := SystemSensors.opened root procRoot atOpen
    let baselines := recordsAfter CpuTimes.total none (Files.cpuTimes procRoot (atOpen :: passes))
    published (turns cpuLoadPercent sensors passes) = (pairs baselines).map CpuTimes.load ∧
      (afterAll cpuLoadPercent sensors passes).previous = baselines.getLast? ∧
      (∀ load ∈ published (turns cpuLoadPercent sensors passes), ∃ share : ℚ, load = .finite share ∧ 0 ≤ share ∧
        share ≤ 100) ∧
      ∀ first last, baselines.head? = some first → baselines.getLast? = some last →
        ((pairs baselines).map fun interval => interval.2.total - interval.1.total).sum = last.total - first.total := by
  intro sensors baselines
  have hordered : baselines.Pairwise fun a b => a.total < b.total := recordsAfter_pairwise _
  have hrun : published (turns cpuLoadPercent sensors passes) = (pairs baselines).map CpuTimes.load ∧
      (afterAll cpuLoadPercent sensors passes).previous = baselines.getLast? := by
    cases hread : atOpen.readCpuTimes procRoot with
    | error cause =>
      have hnone : sensors.previous = none := by
        rw [opened_previous, hread]
        rfl
      have hbaselines : baselines = recordsAfter CpuTimes.total none (Files.cpuTimes procRoot passes) := by
        change recordsAfter _ _ (Files.cpuTimes procRoot (atOpen :: passes)) = _
        rw [cpuTimes_cons, hread]
        rfl
      rw [hbaselines]
      exact published_of_none passes hnone
    | ok times =>
      have hsome : sensors.previous = some times := by
        rw [opened_previous, hread]
        rfl
      have hbaselines : baselines =
          times :: recordsAfter CpuTimes.total (some times.total) (Files.cpuTimes procRoot passes) := by
        change recordsAfter _ _ (Files.cpuTimes procRoot (atOpen :: passes)) = _
        rw [cpuTimes_cons, hread]
        rfl
      rw [hbaselines]
      exact published_of_baseline passes hsome
  refine ⟨hrun.1, hrun.2, fun load hload => ?_, fun first last hfirst hlast => ?_⟩
  · rw [hrun.1] at hload
    obtain ⟨interval, hmem, rfl⟩ := List.mem_map.mp hload
    exact ratio_range (Nat.sub_le ..) (Nat.sub_ne_zero_of_lt (rel_of_mem_pairs hordered hmem))
  · obtain ⟨rest, hcons⟩ := List.head?_eq_some_iff.mp hfirst
    rw [hcons] at hordered hlast ⊢
    exact sum_pairs hordered hlast

end Kori
