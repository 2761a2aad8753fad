import Kori.Core.Telemetry.History
import Mathlib.Algebra.Field.Rat
import Mathlib.Algebra.BigOperators.Group.List.Basic

/-! # A chart of one metric, with its gaps -/

namespace Kori

/-- Most points a chart ever plots. -/
def MAX_PLOTTED_POINTS : Nat := 180

/-- Consecutive pieces of a length, the last one possibly shorter. A length of 0 is not asked for. -/
def chunks {α : Type} (size : Nat) (samples : List α) : List (List α) :=
  if samples = [] ∨ size = 0 then [] else samples.take size :: chunks size (samples.drop size)
termination_by samples.length
decreasing_by
  rename_i h
  have hlength : 0 < samples.length := List.length_pos_iff.mpr fun hnil => h (.inl hnil)
  have hsize : size ≠ 0 := fun hzero => h (.inr hzero)
  rw [List.length_drop]
  omega

def divCeil (total count : Nat) : Nat := if 0 < total % count then total / count + 1 else total / count

section Chunks

variable {α : Type} {size : Nat}

theorem flatten_chunks (h : 0 < size) (samples : List α) : (chunks size samples).flatten = samples := by
  induction samples using chunks.induct size with
  | case1 samples hdone =>
    unfold chunks
    rw [if_pos hdone, hdone.resolve_right (by omega)]
    rfl
  | case2 samples hmore ih =>
    unfold chunks
    rw [if_neg hmore, List.flatten_cons, ih, List.take_append_drop]

theorem chunks_ne_nil (samples : List α) {chunk : List α} (h : chunk ∈ chunks size samples) : chunk ≠ [] := by
  induction samples using chunks.induct size with
  | case1 samples hdone =>
    unfold chunks at h
    rw [if_pos hdone] at h
    exact absurd h List.not_mem_nil
  | case2 samples hmore ih =>
    unfold chunks at h
    rw [if_neg hmore, List.mem_cons] at h
    rcases h with rfl | hrest
    · rw [Ne, List.take_eq_nil_iff]
      tauto
    · exact ih hrest

theorem length_chunks_lt (h : 0 < size) (samples : List α) :
    (chunks size samples).length * size < samples.length + size := by
  induction samples using chunks.induct size with
  | case1 samples hdone =>
    unfold chunks
    rw [if_pos hdone, List.length_nil]
    omega
  | case2 samples hmore ih =>
    have hsome : 0 < samples.length := List.length_pos_iff.mpr fun hnil => hmore (.inl hnil)
    unfold chunks
    rw [if_neg hmore, List.length_cons, Nat.succ_mul]
    rw [List.length_drop] at ih
    by_cases hshort : samples.length < size
    -- The last piece is short, and nothing follows it.
    · have hlast : (chunks size (samples.drop size)).length < 1 := by
        apply Nat.lt_of_mul_lt_mul_right (a := size)
        omega
      rw [Nat.lt_one_iff.mp hlast]
      omega
    · omega

end Chunks

theorem le_divCeil_mul (total : Nat) {count : Nat} (h : 0 < count) : total ≤ divCeil total count * count := by
  have hdiv := Nat.div_add_mod' total count
  have hmod := Nat.mod_lt total h
  unfold divCeil
  split
  · rw [Nat.succ_mul]
    omega
  · omega

/-- The point drawn for one bucket of samples. -/
def bucketPoint (chunk : List (Option ℚ)) : Option ℚ :=
  if chunk.any Option.isNone then none else some ((chunk.filterMap id).sum / chunk.length)

/-- Reduces a series to at most `limit` plotted points. -/
def downsample (history : History ℚ) (limit : Nat) : List (Option ℚ) :=
  let samples := history.points.map HistoryPoint.value
  if samples.length ≤ limit ∨ limit = 0 then samples
  else (chunks (divCeil samples.length limit) samples).map bucketPoint

/-- A point is missing when some sample of its bucket is, and is the mean of the bucket otherwise. -/
structure Plots (point : Option ℚ) (bucket : List (Option ℚ)) : Prop where
  missing : point = none ↔ none ∈ bucket
  mean : ∀ values : List ℚ, bucket = values.map some → point = some (values.sum / values.length)

theorem plots_sample (sample : Option ℚ) : Plots sample [sample] where
  missing := by rw [List.mem_singleton, eq_comm]
  mean values h := by
    cases values with
    | nil => cases h
    | cons value rest =>
      obtain ⟨rfl, hrest⟩ := List.cons.inj h
      rw [List.map_eq_nil_iff.mp hrest.symm]
      simp

theorem plots_bucketPoint (bucket : List (Option ℚ)) : Plots (bucketPoint bucket) bucket where
  missing := by
    unfold bucketPoint
    split <;> simp_all
  mean values h := by
    subst h
    unfold bucketPoint
    rw [if_neg (by simp)]
    simp [List.filterMap_map]

/-- Consecutive buckets that hold every sample once, in order, each drawn as one point. -/
structure Bucketed (samples points : List (Option ℚ)) (buckets : List (List (Option ℚ))) : Prop where
  covered : buckets.flatten = samples
  nonempty : ∀ bucket ∈ buckets, bucket ≠ []
  plotted : List.Forall₂ Plots points buckets

theorem downsample_spec (history : History ℚ) {limit : Nat} (h : 1 ≤ limit) :
    (downsample history limit).length ≤ limit ∧
      ∃ buckets, Bucketed (history.points.map HistoryPoint.value) (downsample history limit) buckets := by
  unfold downsample
  generalize history.points.map HistoryPoint.value = samples
  by_cases hfew : samples.length ≤ limit
  · rw [if_pos (.inl hfew)]
    refine ⟨hfew, samples.map fun sample => [sample], ?_, ?_, ?_⟩
    · rw [← List.flatMap_def, List.flatMap_singleton']
    · simp
    · exact List.forall₂_map_right_iff.mpr (List.forall₂_same.mpr fun sample _ => plots_sample sample)
  · have hsize : 0 < divCeil samples.length limit := by
      have hcover := le_divCeil_mul samples.length h
      by_contra hzero
      rw [Nat.eq_zero_of_not_pos hzero, Nat.zero_mul] at hcover
      omega
    rw [if_neg (by omega)]
    refine ⟨?_, chunks (divCeil samples.length limit) samples, flatten_chunks hsize samples,
      fun bucket => chunks_ne_nil samples, ?_⟩
    · have hcover := le_divCeil_mul samples.length h
      have hcount := length_chunks_lt hsize samples
      rw [List.length_map]
      apply Nat.le_of_lt_succ
      apply Nat.lt_of_mul_lt_mul_right (a := divCeil samples.length limit)
      rw [Nat.succ_mul, Nat.mul_comm limit]
      omega
    · exact List.forall₂_map_left_iff.mpr (List.forall₂_same.mpr fun bucket _ => plots_bucketPoint bucket)

/-! ## The line -/

structure Sparkline where
  history : List (Option ℚ)
  min : ℚ
  max : ℚ

namespace Sparkline

def new (history : History ℚ) (min max : ℚ) : Sparkline :=
  { history := downsample history MAX_PLOTTED_POINTS, min, max }

/-- What the scan carries: the runs closed so far, and where the open one began. -/
structure Scan where
  runs : List (Nat × Nat)
  start : Option Nat

def scanSample (scan : Scan) (sample : Option ℚ × Nat) : Scan :=
  match sample.1, scan.start with
  | some _, none => { scan with start := some sample.2 }
  | none, some first => { runs := scan.runs ++ [(first, sample.2 - 1)], start := none }
  | _, _ => scan

/-- Runs of consecutive present samples, as index ranges. -/
def segments (sparkline : Sparkline) : List (Nat × Nat) :=
  let scan := sparkline.history.zipIdx.foldl scanSample { runs := [], start := none }
  match scan.start with
  | some first => scan.runs ++ [(first, sparkline.history.length - 1)]
  | none => scan.runs

end Sparkline

/-! ## The runs -/

def Present (values : List (Option ℚ)) (index : Nat) : Prop := ∃ value, values[index]? = some (some value)

/-- Present points from the first to the last index, with no present point on either side. -/
structure MaximalRun (values : List (Option ℚ)) (run : Nat × Nat) : Prop where
  ordered : run.1 ≤ run.2
  present : ∀ index, run.1 ≤ index → index ≤ run.2 → Present values index
  starts : run.1 = 0 ∨ ¬ Present values (run.1 - 1)
  ends : ¬ Present values (run.2 + 1)

variable {values : List (Option ℚ)} {run : Nat × Nat} {first : Nat}

theorem Present.lt {index : Nat} (h : Present values index) : index < values.length := by
  obtain ⟨value, hvalue⟩ := h
  exact (List.getElem?_eq_some_iff.mp hvalue).1

theorem present_concat (sample : Option ℚ) (index : Nat) :
    Present (values ++ [sample]) index ↔ Present values index ∨ index = values.length ∧ sample.isSome := by
  rcases Nat.lt_trichotomy index values.length with hlt | rfl | hlt
  · unfold Present
    rw [List.getElem?_append_left hlt]
    simp [Nat.ne_of_lt hlt]
  · unfold Present
    simp [Option.isSome_iff_exists]
  · constructor
    · intro h
      have hbound := h.lt
      rw [List.length_append, List.length_singleton] at hbound
      omega
    · rintro (h | ⟨rfl, -⟩)
      · have hbound := h.lt
        omega
      · omega

theorem present_concat_none (index : Nat) : Present (values ++ [none]) index ↔ Present values index := by
  rw [present_concat]
  simp

theorem maximalRun_congr {others : List (Option ℚ)}
    (h : ∀ index ≤ run.2 + 1, (Present values index ↔ Present others index)) :
    MaximalRun values run ↔ MaximalRun others run := by
  constructor
  · rintro ⟨hordered, hpresent, hstarts, hends⟩
    exact ⟨hordered, fun index hfirst hlast => (h index (by omega)).mp (hpresent index hfirst hlast),
      hstarts.imp_right (mt (h _ (by omega)).mpr), mt (h _ (Nat.le_refl _)).mpr hends⟩
  · rintro ⟨hordered, hpresent, hstarts, hends⟩
    exact ⟨hordered, fun index hfirst hlast => (h index (by omega)).mpr (hpresent index hfirst hlast),
      hstarts.imp_right (mt (h _ (by omega)).mp), mt (h _ (Nat.le_refl _)).mp hends⟩

theorem maximalRun_concat {sample : Option ℚ} (h : run.2 + 1 < values.length) :
    MaximalRun (values ++ [sample]) run ↔ MaximalRun values run := by
  apply maximalRun_congr
  intro index hindex
  rw [present_concat]
  have hne : index ≠ values.length := by omega
  simp [hne]

theorem maximalRun_concat_some (value : ℚ) :
    MaximalRun (values ++ [some value]) (first, values.length) ↔
      first = values.length ∧ ¬ Present values (values.length - 1) ∨ MaximalRun values (first, values.length - 1) := by
  have hlt : ∀ index, Present values index → index < values.length := fun _ h => h.lt
  constructor
  · rintro ⟨hordered, hpresent, hstarts, hends⟩
    simp only [present_concat] at hpresent hstarts
    by_cases hfirst : first = values.length
    · grind
    · refine .inr ⟨by grind, fun index hfrom hto => ?_, by grind, by grind⟩
      have hindex := hpresent index hfrom (by grind)
      grind
  · rintro (⟨rfl, hbefore⟩ | ⟨hordered, hpresent, hstarts, hends⟩)
    · constructor <;> simp only [present_concat] <;> grind
    · constructor <;> simp only [present_concat] <;> grind

/-- The scan of some points has closed the runs that are over, and holds the start of one that may not be. -/
structure Scanned (values : List (Option ℚ)) (scan : Sparkline.Scan) : Prop where
  closed : ∀ run, run ∈ scan.runs ↔ MaximalRun values run ∧ run.2 + 1 < values.length
  ordered : scan.runs.Pairwise fun a b => a.2 < b.1
  opened : ∀ first, scan.start = some first ↔ MaximalRun values (first, values.length - 1)
  idle : scan.start = none → ¬ Present values (values.length - 1)

theorem scanSample_present {scan : Sparkline.Scan} (h : Scanned values scan) (value : ℚ) :
    Scanned (values ++ [some value]) (Sparkline.scanSample scan (some value, values.length)) := by
  have hpresent : Present (values ++ [some value]) values.length := by simp [present_concat]
  have hlast : (values ++ [some value]).length - 1 = values.length := by simp
  have hidle : Present (values ++ [some value]) ((values ++ [some value]).length - 1) := hlast.symm ▸ hpresent
  -- No run is over at a present point.
  have hclosed : ∀ run, run ∈ scan.runs ↔
      MaximalRun (values ++ [some value]) run ∧ run.2 + 1 < (values ++ [some value]).length := by
    intro run
    rw [h.closed, List.length_append, List.length_singleton]
    constructor
    · rintro ⟨hrun, hover⟩
      exact ⟨(maximalRun_concat hover).mpr hrun, by omega⟩
    · rintro ⟨hrun, hover⟩
      have hne : run.2 + 1 ≠ values.length := fun heq => hrun.ends (heq ▸ hpresent)
      have hover : run.2 + 1 < values.length := by omega
      exact ⟨(maximalRun_concat hover).mp hrun, hover⟩
  unfold Sparkline.scanSample
  cases hstart : scan.start with
  | none =>
    have hbefore := h.idle hstart
    refine ⟨hclosed, h.ordered, fun first => ?_, fun hnone => nomatch hnone⟩
    have hnone : ¬ MaximalRun values (first, values.length - 1) := fun hrun => by
      have hopen := (h.opened first).mpr hrun
      rw [hstart] at hopen
      cases hopen
    rw [hlast, maximalRun_concat_some, Option.some_inj]
    tauto
  | some start =>
    have hbefore : Present values (values.length - 1) :=
      ((h.opened start).mp hstart).present _ ((h.opened start).mp hstart).ordered (Nat.le_refl _)
    refine ⟨hclosed, h.ordered, fun first => ?_, fun hnone => ?_⟩
    · rw [hlast, maximalRun_concat_some, h.opened]
      tauto
    · rw [hstart] at hnone
      cases hnone

/-- The runs of a scan that stops: the open one ends at the last point. -/
def finished (scan : Sparkline.Scan) (length : Nat) : List (Nat × Nat) :=
  match scan.start with
  | some first => scan.runs ++ [(first, length - 1)]
  | none => scan.runs

theorem finished_spec {scan : Sparkline.Scan} (h : Scanned values scan) :
    (∀ run, run ∈ finished scan values.length ↔ MaximalRun values run) ∧
      (finished scan values.length).Pairwise fun a b => a.2 < b.1 := by
  -- A run is over before the last point, or reaches it.
  have hcases : ∀ run, MaximalRun values run ↔ MaximalRun values run ∧ run.2 + 1 < values.length ∨
      MaximalRun values (run.1, values.length - 1) ∧ run.2 = values.length - 1 := by
    intro run
    constructor
    · intro hmax
      have hbound := (hmax.present _ hmax.ordered (Nat.le_refl _)).lt
      by_cases hend : run.2 = values.length - 1
      · refine .inr ⟨?_, hend⟩
        rw [← hend]
        exact hmax
      · exact .inl ⟨hmax, by omega⟩
    · rintro (⟨hmax, -⟩ | ⟨hmax, hend⟩)
      · exact hmax
      · rw [← hend] at hmax
        exact hmax
  unfold finished
  cases hstart : scan.start with
  | none =>
    refine ⟨fun run => ?_, h.ordered⟩
    rw [hcases, h.closed, ← h.opened, hstart]
    simp
  | some start =>
    have hreaches := (h.opened start).mp hstart
    refine ⟨fun run => ?_, ?_⟩
    · rw [hcases, List.mem_append, List.mem_singleton, h.closed, ← h.opened, hstart, Option.some_inj, Prod.ext_iff]
      tauto
    · refine List.pairwise_append.mpr ⟨h.ordered, List.pairwise_singleton _ _, fun closed hmem last hlast => ?_⟩
      rw [List.mem_singleton.mp hlast]
      obtain ⟨hclosed, hbound⟩ := (h.closed closed).mp hmem
      by_contra hcross
      exact hclosed.ends (hreaches.present _ (by simp at hcross ⊢; omega) (by simp; omega))

theorem scanSample_missing {scan : Sparkline.Scan} (h : Scanned values scan) :
    Scanned (values ++ [none]) (Sparkline.scanSample scan (none, values.length)) := by
  have hlast : (values ++ [none]).length - 1 = values.length := by simp
  have hmissing : ¬ Present (values ++ [none]) values.length := by
    rw [present_concat_none]
    exact fun hpresent => Nat.lt_irrefl _ hpresent.lt
  have hrun : ∀ run, MaximalRun (values ++ [none]) run ↔ MaximalRun values run := fun run =>
    maximalRun_congr fun index _ => present_concat_none index
  have hscan : Sparkline.scanSample scan (none, values.length) = { runs := finished scan values.length, start := none } := by
    obtain ⟨runs, start⟩ := scan
    cases start <;> rfl
  obtain ⟨hruns, hordered⟩ := finished_spec h
  rw [hscan]
  refine ⟨fun run => ?_, hordered, fun first => ?_, fun _ => hlast.symm ▸ hmissing⟩
  -- A missing point ends every run there is so far.
  · rw [hruns, hrun, List.length_append, List.length_singleton]
    refine ⟨fun hmax => ⟨hmax, ?_⟩, And.left⟩
    have hbound := (hmax.present _ hmax.ordered (Nat.le_refl _)).lt
    omega
  · rw [hlast]
    exact iff_of_false (fun hnone => nomatch hnone) fun hreaches =>
      hmissing (hreaches.present _ hreaches.ordered (Nat.le_refl _))

theorem scanned (values : List (Option ℚ)) :
    Scanned values (values.zipIdx.foldl Sparkline.scanSample { runs := [], start := none }) := by
  induction values using List.reverseRecOn with
  | nil =>
    have hempty : ∀ index, ¬ Present [] index := fun index h => Nat.not_lt_zero _ h.lt
    refine ⟨fun run => ?_, List.Pairwise.nil, fun first => ?_, fun _ => hempty _⟩
    · simp
    · refine iff_of_false (fun hnone => nomatch hnone) fun hrun => ?_
      exact hempty _ (hrun.present _ hrun.ordered (Nat.le_refl _))
  | append_singleton values sample ih =>
    rw [List.zipIdx_append, List.foldl_append, Nat.zero_add, List.zipIdx_singleton, List.foldl_cons, List.foldl_nil]
    cases sample with
    | some value => exact scanSample_present ih value
    | none => exact scanSample_missing ih

theorem Sparkline.segments_spec (sparkline : Sparkline) :
    (∀ run, run ∈ sparkline.segments ↔ MaximalRun sparkline.history run) ∧
      sparkline.segments.Pairwise fun a b => a.2 < b.1 := finished_spec (scanned sparkline.history)

theorem none_notMem_of_present {points : List (Option ℚ)} {buckets : List (List (Option ℚ))}
    (h : List.Forall₂ Plots points buckets) {index : Nat} (hpresent : Present points index)
    {bucket : List (Option ℚ)} (hbucket : buckets[index]? = some bucket) : none ∉ bucket := by
  obtain ⟨value, hvalue⟩ := hpresent
  induction h generalizing index with
  | nil => cases hvalue
  | cons hplots _ ih =>
    cases index with
    | zero =>
      cases hvalue
      cases hbucket
      exact fun hmem => nomatch hplots.missing.mpr hmem
    | succ index => exact ih hbucket hvalue

/-- A chart shows every gap: its points stand for consecutive buckets, and its line is the runs of present points,
none of which takes in a missing sample. -/
theorem chart_shows_gaps (history : History ℚ) (limit : Nat) (min max : ℚ) (h : 1 ≤ limit) :
    let sparkline : Sparkline := { history := downsample history limit, min, max }
    sparkline.history.length ≤ limit ∧
      (∃ buckets, Bucketed (history.points.map HistoryPoint.value) sparkline.history buckets ∧
        ∀ run ∈ sparkline.segments, ∀ index, run.1 ≤ index → index ≤ run.2 →
          ∀ bucket, buckets[index]? = some bucket → none ∉ bucket) ∧
      (∀ run, run ∈ sparkline.segments ↔ MaximalRun sparkline.history run) ∧
      sparkline.segments.Pairwise fun a b => a.2 < b.1 := by
  intro sparkline
  obtain ⟨hlength, buckets, hbuckets⟩ := downsample_spec history h
  obtain ⟨hruns, hordered⟩ := sparkline.segments_spec
  refine ⟨hlength, ⟨buckets, hbuckets, fun run hrun index hfirst hlast bucket hbucket => ?_⟩, hruns, hordered⟩
  exact none_notMem_of_present hbuckets.plotted (((hruns run).mp hrun).present index hfirst hlast) hbucket

def gappedHistory : History ℚ :=
  { points := [⟨0, some 1⟩, ⟨1, some 3⟩, ⟨2, none⟩, ⟨3, some 5⟩, ⟨4, some 7⟩], windowMs := 10 }

theorem chart_shows_gaps_gapped :
    let sparkline : Sparkline := { history := downsample gappedHistory 3, min := 0, max := 10 }
    sparkline.history.length ≤ 3 ∧
      (∃ buckets, Bucketed (gappedHistory.points.map HistoryPoint.value) sparkline.history buckets ∧
        ∀ run ∈ sparkline.segments, ∀ index, run.1 ≤ index → index ≤ run.2 →
          ∀ bucket, buckets[index]? = some bucket → none ∉ bucket) ∧
      (∀ run, run ∈ sparkline.segments ↔ MaximalRun sparkline.history run) ∧
      sparkline.segments.Pairwise fun a b => a.2 < b.1 := chart_shows_gaps gappedHistory 3 0 10 (by decide)

end Kori
