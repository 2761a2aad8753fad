import Kori.Core.Telemetry.History
import Kori.Core.Telemetry.Sections
import Kori.Core.Telemetry.View
import Kori.Faulty.Records

/-! # The client's rolling view of every metric -/

open Faulty

namespace Kori

/-- Longest history the product keeps: fifteen minutes. -/
def HISTORY_WINDOW_MS : Nat := 15 * 60 * 1000

/-- What a snapshot holds for the metrics. -/
structure MetricSections where
  kraken : KrakenTelemetry
  system : SystemSection
  gpu : GpuSection
deriving DecidableEq

/-- One numeric metric: its last valid value and its recent series. -/
structure MetricSeries where
  tracked : Tracked F32
  history : History F32
deriving DecidableEq

namespace MetricSeries

def new : MetricSeries := { tracked := .new, history := .new HISTORY_WINDOW_MS }

/-- A gap is recorded as a gap. -/
def observe (series : MetricSeries) (reading : Reading F32) (atUnixMs : Nat) (record : Bool) : MetricSeries :=
  { tracked := series.tracked.observe reading atUnixMs
    history := if record then series.history.push atUnixMs reading.copied else series.history }

def view (series : MetricSeries) (nowUnixMs : Nat) : MetricView F32 := series.tracked.view nowUnixMs

end MetricSeries

/-- The readings of one cooling channel. -/
structure ChannelMetrics where
  rpm : MetricSeries
  duty : Tracked UInt8
  mode : Tracked PwmMode
deriving DecidableEq

def ChannelMetrics.new : ChannelMetrics := { rpm := .new, duty := .new, mode := .new }

/-- The speed as it is charted. -/
def rpmReading : Reading Nat → Reading F32
  | .valid value => .valid (.finite value)
  | .unavailable cause => .unavailable cause

def ChannelMetrics.observe (metrics : ChannelMetrics) (source : ChannelTelemetry) (atUnixMs : Nat) (record : Bool) :
    ChannelMetrics :=
  { rpm := metrics.rpm.observe (rpmReading source.rpm) atUnixMs record, duty := metrics.duty.observe source.duty atUnixMs,
    mode := metrics.mode.observe source.mode atUnixMs }

/-- Every metric the interface shows. -/
structure MetricBook where
  cpuLoad : MetricSeries
  cpuTemperature : MetricSeries
  gpuLoad : MetricSeries
  gpuTemperature : MetricSeries
  gpuName : Tracked String
  memoryPercent : MetricSeries
  memory : Tracked MemoryUsage
  liquid : MetricSeries
  pump : ChannelMetrics
  fan : ChannelMetrics
  krakenAtUnixMs : Nat
  systemAtUnixMs : Nat
  gpuAtUnixMs : Nat
deriving DecidableEq

namespace MetricBook

def new : MetricBook :=
  { cpuLoad := .new, cpuTemperature := .new, gpuLoad := .new, gpuTemperature := .new, gpuName := .new,
    memoryPercent := .new, memory := .new, liquid := .new, pump := .new, fan := .new,
    krakenAtUnixMs := 0, systemAtUnixMs := 0, gpuAtUnixMs := 0 }

/-- Whether a section's own clock moved, and what it stands at then. -/
def advanced (last atUnixMs : Nat) : Bool × Nat := if last < atUnixMs then (true, atUnixMs) else (false, last)

theorem advanced_eq (last atUnixMs : Nat) : advanced last atUnixMs = (decide (last < atUnixMs), max last atUnixMs) := by
  unfold advanced
  split
  · rename_i hpast
    rw [decide_eq_true hpast, Nat.max_eq_right (Nat.le_of_lt hpast)]
  · rename_i hheld
    rw [decide_eq_false hheld, Nat.max_eq_left (Nat.le_of_not_lt hheld)]

/-- Occupancy is derived, so it can be missing where the memory reading is not. -/
def occupancy : Reading MemoryUsage → Reading F32
  | .valid usage =>
    match usage.percent with
    | some percent => .valid percent
    | none => .unavailable (.unparsable
      "The memory collector reported no total, so occupancy has no percentage.")
  | .unavailable cause => .unavailable cause

def observeKraken (book : MetricBook) (kraken : KrakenTelemetry) (record : Bool) : MetricBook :=
  let at_ := kraken.atUnixMs
  { book with
    liquid := book.liquid.observe kraken.liquidTemperatureC at_ record
    pump := book.pump.observe kraken.pump at_ record
    fan := book.fan.observe kraken.fan at_ record }

/-- Folds one snapshot in. Each section is recorded only when its own stamp advanced. -/
def observe (book : MetricBook) (snapshot : MetricSections) : MetricBook :=
  let (freshKraken, krakenAtUnixMs) := advanced book.krakenAtUnixMs snapshot.kraken.atUnixMs
  let book := { book with krakenAtUnixMs }.observeKraken snapshot.kraken freshKraken
  let system := snapshot.system
  let (freshSystem, systemAtUnixMs) := advanced book.systemAtUnixMs system.atUnixMs
  let gpu := snapshot.gpu
  let (freshGpu, gpuAtUnixMs) := advanced book.gpuAtUnixMs gpu.atUnixMs
  { book with
    systemAtUnixMs
    cpuLoad := book.cpuLoad.observe system.cpuLoadPercent system.atUnixMs freshSystem
    cpuTemperature := book.cpuTemperature.observe system.cpuTemperatureC system.atUnixMs freshSystem
    memory := book.memory.observe system.memory system.atUnixMs
    memoryPercent := book.memoryPercent.observe (occupancy system.memory) system.atUnixMs freshSystem
    gpuAtUnixMs
    gpuLoad := book.gpuLoad.observe gpu.loadPercent gpu.atUnixMs freshGpu
    gpuTemperature := book.gpuTemperature.observe gpu.temperatureC gpu.atUnixMs freshGpu
    gpuName := book.gpuName.observe gpu.name gpu.atUnixMs }

def channel (book : MetricBook) : Channel → ChannelMetrics
  | .pump => book.pump
  | .fan => book.fan

def observeAll (book : MetricBook) (snapshots : List MetricSections) : MetricBook := snapshots.foldl observe book

theorem observe_again {α : Type} (tracked : Tracked α) (reading : Reading α) (atUnixMs : Nat) :
    (tracked.observe reading atUnixMs).observe reading atUnixMs = tracked.observe reading atUnixMs := by
  cases reading with
  | unavailable cause => rfl
  | valid value =>
    unfold Tracked.observe
    dsimp only
    split
    · rfl
    · rw [if_neg (by simp)]

theorem series_observe_again (series : MetricSeries) (reading : Reading F32) (atUnixMs : Nat) (record : Bool) :
    (series.observe reading atUnixMs record).observe reading atUnixMs false = series.observe reading atUnixMs record := by
  unfold MetricSeries.observe
  rw [observe_again]
  rfl

theorem observe_observe (book : MetricBook) (snapshot : MetricSections) :
    (book.observe snapshot).observe snapshot = book.observe snapshot := by
  have hheld (last atUnixMs : Nat) : decide (max last atUnixMs < atUnixMs) = false :=
    decide_eq_false (Nat.not_lt.mpr (Nat.le_max_right ..))
  have hmax (last atUnixMs : Nat) : max (max last atUnixMs) atUnixMs = max last atUnixMs :=
    Nat.max_eq_left (Nat.le_max_right ..)
  simp only [observe, observeKraken, ChannelMetrics.observe, advanced_eq, hheld, hmax, observe_again,
    series_observe_again]

theorem observeAll_repeated (book : MetricBook) (polls : List (MetricSections × Nat)) :
    book.observeAll (polls.flatMap fun poll => List.replicate (poll.2 + 1) poll.1) =
      book.observeAll (polls.map Prod.fst) := by
  have hrepeat (book : MetricBook) (snapshot : MetricSections) (times : Nat) :
      book.observeAll (List.replicate (times + 1) snapshot) = book.observe snapshot := by
    induction times generalizing book with
    | zero => rfl
    | succ times ih =>
      rw [List.replicate_succ, observeAll, List.foldl_cons, ← observeAll, ih, observe_observe]
  induction polls generalizing book with
  | nil => rfl
  | cons poll rest ih =>
    rw [List.flatMap_cons, observeAll, List.foldl_append, ← observeAll, ← observeAll, hrepeat, ih]
    rfl

end MetricBook

/-! ## The charted metrics -/

/-- The metrics that are charted. -/
inductive Metric where
  | cpuLoad
  | cpuTemperature
  | gpuLoad
  | gpuTemperature
  | memoryPercent
  | liquid
  | rpm (channel : Channel)
deriving DecidableEq

namespace Metric

def series (book : MetricBook) : Metric → MetricSeries
  | cpuLoad => book.cpuLoad
  | cpuTemperature => book.cpuTemperature
  | gpuLoad => book.gpuLoad
  | gpuTemperature => book.gpuTemperature
  | memoryPercent => book.memoryPercent
  | liquid => book.liquid
  | rpm channel => (book.channel channel).rpm

/-- The clock of the section a metric is in. -/
def clock (book : MetricBook) : Metric → Nat
  | cpuLoad | cpuTemperature | memoryPercent => book.systemAtUnixMs
  | gpuLoad | gpuTemperature => book.gpuAtUnixMs
  | liquid | rpm _ => book.krakenAtUnixMs

def reading (metric : Metric) (snapshot : MetricSections) : Reading F32 :=
  match metric with
  | cpuLoad => snapshot.system.cpuLoadPercent
  | cpuTemperature => snapshot.system.cpuTemperatureC
  | gpuLoad => snapshot.gpu.loadPercent
  | gpuTemperature => snapshot.gpu.temperatureC
  | memoryPercent => MetricBook.occupancy snapshot.system.memory
  | liquid => snapshot.kraken.liquidTemperatureC
  | rpm .pump => rpmReading snapshot.kraken.pump.rpm
  | rpm .fan => rpmReading snapshot.kraken.fan.rpm

def stamp (metric : Metric) (snapshot : MetricSections) : Nat :=
  match metric with
  | cpuLoad | cpuTemperature | memoryPercent => snapshot.system.atUnixMs
  | gpuLoad | gpuTemperature => snapshot.gpu.atUnixMs
  | liquid | rpm _ => snapshot.kraken.atUnixMs

/-- What one snapshot adds to the chart. -/
def point (metric : Metric) (snapshot : MetricSections) : HistoryPoint F32 :=
  { atUnixMs := metric.stamp snapshot, value := (metric.reading snapshot).copied }

theorem series_observe (metric : Metric) (book : MetricBook) (snapshot : MetricSections) :
    metric.series (book.observe snapshot) =
      (metric.series book).observe (metric.reading snapshot) (metric.stamp snapshot)
        (metric.clock book < metric.stamp snapshot) := by
  unfold MetricBook.observe
  simp only [MetricBook.advanced_eq]
  cases metric with
  | rpm channel =>
    cases channel with
    | pump => rfl
    | fan => rfl
  | _ => rfl

theorem clock_observe (metric : Metric) (book : MetricBook) (snapshot : MetricSections) :
    metric.clock (book.observe snapshot) = max (metric.clock book) (metric.stamp snapshot) := by
  unfold MetricBook.observe
  simp only [MetricBook.advanced_eq]
  cases metric with
  | _ => rfl

theorem clock_new (metric : Metric) : metric.clock .new = 0 := by
  cases metric with
  | _ => rfl

theorem series_new (metric : Metric) : metric.series .new = .new := by
  cases metric with
  | rpm channel =>
    cases channel with
    | pump => rfl
    | fan => rfl
  | _ => rfl

theorem tracked_observeAll (metric : Metric) (book : MetricBook) (snapshots : List MetricSections) :
    (metric.series (book.observeAll snapshots)).tracked =
      (snapshots.map fun snapshot => (metric.reading snapshot, metric.stamp snapshot)).foldl
        (fun tracked sample => tracked.observe sample.1 sample.2) (metric.series book).tracked := by
  induction snapshots generalizing book with
  | nil => rfl
  | cons snapshot rest ih =>
    rw [MetricBook.observeAll, List.foldl_cons, ← MetricBook.observeAll, ih, series_observe]
    rfl

/-- The chart is the window over what was taken, and nothing taken is ahead of the section's clock. -/
structure Charted (metric : Metric) (book : MetricBook) (taken : List (HistoryPoint F32)) : Prop where
  ordered : History.Ordered taken
  points : (metric.series book).history.points = History.withinWindow HISTORY_WINDOW_MS taken
  window : (metric.series book).history.windowMs = HISTORY_WINDOW_MS
  behind : ∀ point ∈ taken, point.atUnixMs ≤ metric.clock book

variable {metric : Metric} {book : MetricBook} {taken : List (HistoryPoint F32)}

theorem charted_new (metric : Metric) : Charted metric .new [] where
  ordered := List.Pairwise.nil
  points := by rw [series_new]; rfl
  window := by rw [series_new]; rfl
  behind := fun _ h => nomatch h

theorem Charted.moved (h : Charted metric book taken) {snapshot : MetricSections}
    (hpast : metric.clock book < metric.stamp snapshot) :
    Charted metric (book.observe snapshot) (taken ++ [metric.point snapshot]) := by
  have haccept : History.accept taken (metric.point snapshot) = taken ++ [metric.point snapshot] := by
    refine if_neg ?_
    rw [Option.any_eq_true]
    rintro ⟨last, hlast, hbehind⟩
    have hclock := h.behind last (List.mem_of_getLast? hlast)
    have hstamp : metric.stamp snapshot < last.atUnixMs := of_decide_eq_true hbehind
    omega
  obtain ⟨hordered, hpoints, hwindow⟩ :=
    History.push_spec h.ordered (h.window ▸ h.points) (metric.point snapshot)
  rw [haccept] at hordered hpoints
  have hseries : (metric.series (book.observe snapshot)).history =
      (metric.series book).history.push (metric.stamp snapshot) (metric.reading snapshot).copied := by
    rw [series_observe]
    exact if_pos (decide_eq_true hpast)
  refine { ordered := hordered, points := ?_, window := ?_, behind := fun point hmem => ?_ }
  · rw [hseries, ← h.window]
    exact hpoints
  · rw [hseries, ← h.window]
    exact hwindow
  · rw [clock_observe]
    rcases List.mem_append.mp hmem with hmem | hmem
    · have hclock := h.behind point hmem
      omega
    · rw [List.mem_singleton.mp hmem]
      exact Nat.le_max_right ..

theorem Charted.held (h : Charted metric book taken) {snapshot : MetricSections}
    (hheld : metric.stamp snapshot ≤ metric.clock book) : Charted metric (book.observe snapshot) taken := by
  have hseries : (metric.series (book.observe snapshot)).history = (metric.series book).history := by
    rw [series_observe]
    exact if_neg (by simpa using hheld)
  refine { ordered := h.ordered, points := hseries ▸ h.points, window := hseries ▸ h.window, behind := ?_ }
  rw [clock_observe, Nat.max_eq_left hheld]
  exact h.behind

theorem Charted.observeAll (h : Charted metric book taken) (snapshots : List MetricSections) :
    Charted metric (book.observeAll snapshots)
      (taken ++ (recordsAfter metric.stamp (some (metric.clock book)) snapshots).map metric.point) := by
  induction snapshots generalizing book taken with
  | nil =>
    rw [recordsAfter, List.map_nil, List.append_nil]
    exact h
  | cons snapshot rest ih =>
    rw [MetricBook.observeAll, List.foldl_cons, ← MetricBook.observeAll]
    by_cases hpast : metric.clock book < metric.stamp snapshot
    · have hrest := ih (h.moved hpast)
      rw [clock_observe, Nat.max_eq_right (Nat.le_of_lt hpast)] at hrest
      rw [recordsAfter_cons_of_past (by simpa using hpast), List.map_cons, List.append_cons]
      exact hrest
    · have hle := Nat.le_of_not_lt hpast
      have hrest := ih (h.held hle)
      rw [clock_observe, Nat.max_eq_left hle] at hrest
      rw [recordsAfter_cons_of_not_past hle]
      exact hrest

end Metric

/-- However often each snapshot is polled, every metric holds what the snapshots told it once each, and its
chart is the window over one point for every time its own section moved on, at strictly increasing stamps. -/
theorem book_of_polls (polls : List (MetricSections × Nat)) :
    let book := MetricBook.new.observeAll (polls.flatMap fun poll => List.replicate (poll.2 + 1) poll.1)
    let snapshots := polls.map Prod.fst
    book = MetricBook.new.observeAll snapshots ∧
      ∀ metric : Metric,
        (metric.series book).tracked =
          Tracked.observeAll (snapshots.map fun snapshot => (metric.reading snapshot, metric.stamp snapshot)) ∧
        (metric.series book).history.points =
          History.withinWindow HISTORY_WINDOW_MS
            ((recordsAfter metric.stamp (some 0) snapshots).map metric.point) ∧
        (metric.series book).history.points.Pairwise fun a b => a.atUnixMs < b.atUnixMs := by
  intro book snapshots
  have hbook : book = MetricBook.new.observeAll snapshots := MetricBook.observeAll_repeated .new polls
  refine ⟨hbook, fun metric => ?_⟩
  have hcharted := (Metric.charted_new metric).observeAll snapshots
  rw [Metric.clock_new, List.nil_append, ← hbook] at hcharted
  refine ⟨?_, hcharted.points, ?_⟩
  · rw [hbook, Metric.tracked_observeAll, Metric.series_new]
    rfl
  · have hincreasing : ((recordsAfter metric.stamp (some 0) snapshots).map metric.point).Pairwise
        fun a b => a.atUnixMs < b.atUnixMs := List.pairwise_map.mpr (recordsAfter_pairwise snapshots)
    rw [hcharted.points]
    exact hincreasing.sublist List.filter_sublist

end Kori
