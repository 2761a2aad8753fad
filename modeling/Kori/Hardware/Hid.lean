import Kori.Faulty.Line
import Kori.Hardware.Rgb

/-! # Reports over a `hidraw` node: requests out, answers in -/

open Faulty

namespace Kori

namespace Hid

variable {ε : Type}

/-- Reports one query reads before it gives up matching answers. -/
def MAX_QUERY_READS : Nat := 12

/-- The two bytes a report starts with. -/
abbrev Identifier := UInt8 × UInt8

/-- A request and the answer it is paired with. -/
abbrev Exchange := Identifier × Identifier

def FIRMWARE_REQUEST : Identifier := (0x10, 0x01)
def FIRMWARE_ANSWER : Identifier := (0x11, 0x01)

/-- A request carrying nothing but its identifier. -/
def query (identifier : Identifier) : Report :=
  ((Vector.replicate REPORT_BYTES 0).setIfInBounds 0 identifier.1).setIfInBounds 1 identifier.2

theorem zero_lt_reportBytes : 0 < REPORT_BYTES := by decide
theorem one_lt_reportBytes : 1 < REPORT_BYTES := by decide

/-- Whether a report is the answer of that identifier. -/
def answers (report : Report) (identifier : Identifier) : Bool :=
  report.get ⟨0, zero_lt_reportBytes⟩ == identifier.1 && report.get ⟨1, one_lt_reportBytes⟩ == identifier.2

/-- The place of the request a report answers. -/
def slotOf (exchanges : List Exchange) (report : Report) : Option Nat :=
  exchanges.findIdx? fun exchange => answers report exchange.2

/-- Reads answers into their places, until all are there, nothing comes in time or the budget is spent. -/
def collect (exchanges : List Exchange) : Nat → List (Option Report) →
    LineIo Report Report ε (List (Option Report))
  | 0, received => pure received
  | budget + 1, received =>
    if received.all Option.isSome then pure received
    else do
      match ← listen with
      | none => pure received
      | some report =>
        match slotOf exchanges report with
        | some slot => collect exchanges budget (received.set slot (some report))
        | none => collect exchanges budget received

/-- Sends every request, then collects the answers that came back. -/
def ask (exchanges : List Exchange) : LineIo Report Report ε (List (Option Report)) := do
  postAll (exchanges.map fun exchange => query exchange.1)
  collect exchanges MAX_QUERY_READS (List.replicate exchanges.length none)

/-! ## What is collected -/

/-- The reports that arrive from some read on, within a budget of reads and before the first time-out. -/
def arrivals (incoming : Nat → Option Report) : Nat → Nat → List Report
  | _, 0 => []
  | n, budget + 1 =>
    match incoming n with
    | none => []
    | some report => report :: arrivals incoming (n + 1) budget

/-- What becomes of the places once some reports have arrived. -/
structure Collected (exchanges : List Exchange) (arrived : List Report) (received final : List (Option Report)) :
    Prop where
  length : final.length = received.length
  missing : ∀ i, final[i]? = some none → received[i]? = some none ∧
    ∀ report ∈ arrived, slotOf exchanges report ≠ some i
  found : ∀ i report, final[i]? = some (some report) → received[i]? = some (some report) ∨
    report ∈ arrived ∧ slotOf exchanges report = some i

theorem Collected.none_arrived (exchanges : List Exchange) (received : List (Option Report)) :
    Collected exchanges [] received received :=
  ⟨rfl, fun _ h => ⟨h, fun _ hmem => nomatch hmem⟩, fun _ _ h => .inl h⟩

theorem Collected.all_there {exchanges : List Exchange} {received : List (Option Report)}
    (h : received.all Option.isSome = true) (arrived : List Report) :
    Collected exchanges arrived received received := by
  refine ⟨rfl, fun i hnone => ?_, fun _ _ h => .inl h⟩
  have hsome := List.all_eq_true.mp h none (List.mem_of_getElem? hnone)
  cases hsome

theorem Collected.kept {exchanges : List Exchange} {received final : List (Option Report)} {report : Report}
    {arrived : List Report} (hslot : slotOf exchanges report = none)
    (h : Collected exchanges arrived received final) :
    Collected exchanges (report :: arrived) received final := by
  refine ⟨h.length, fun i hi => ⟨(h.missing i hi).1, ?_⟩, fun i other hi => ?_⟩
  · intro other hother
    rcases List.mem_cons.mp hother with rfl | hother
    · rw [hslot]
      exact fun hnot => nomatch hnot
    · exact (h.missing i hi).2 other hother
  · rcases h.found i other hi with hheld | ⟨hmem, hplace⟩
    · exact .inl hheld
    · exact .inr ⟨List.mem_cons_of_mem _ hmem, hplace⟩

theorem Collected.placed {exchanges : List Exchange} {received final : List (Option Report)} {report : Report}
    {arrived : List Report} {slot : Nat} (hslot : slotOf exchanges report = some slot)
    (h : Collected exchanges arrived (received.set slot (some report)) final) :
    Collected exchanges (report :: arrived) received final := by
  refine ⟨h.length.trans (List.length_set ..), fun i hi => ?_, fun i other hi => ?_⟩
  · obtain ⟨hnone, hothers⟩ := h.missing i hi
    rw [List.getElem?_set] at hnone
    split at hnone
    · split at hnone <;> cases hnone
    · rename_i hne
      refine ⟨hnone, fun other hother => ?_⟩
      rcases List.mem_cons.mp hother with rfl | hother
      · rw [hslot]
        exact fun heq => hne (Option.some.inj heq)
      · exact hothers other hother
  · rcases h.found i other hi with hheld | ⟨hmem, hplace⟩
    · rw [List.getElem?_set] at hheld
      split at hheld
      · rename_i heq
        split at hheld
        · cases hheld
          exact .inr ⟨List.mem_cons_self, heq ▸ hslot⟩
        · cases hheld
      · exact .inl hheld
    · exact .inr ⟨List.mem_cons_of_mem _ hmem, hplace⟩

theorem collect_spec (exchanges : List Exchange) (incoming : Nat → Option Report) (budget : Nat)
    (received : List (Option Report)) (line : Line Report Report ε)
    (hincoming : ∀ n, line.incoming n = .ok (incoming n)) :
    ∃ (final : List (Option Report)) (reads : List (Except ε (Option Report))),
      (collect exchanges budget received line).1 = .ok final ∧
      (collect exchanges budget received line).2.log = line.log ++ reads.map .heard ∧ reads.length ≤ budget ∧
        Collected exchanges (arrivals incoming line.heard.length budget) received final := by
  induction budget generalizing received line with
  | zero => exact ⟨received, [], rfl, by simp [collect, lineIo_pure], Nat.le_refl _, .none_arrived _ _⟩
  | succ budget ih =>
    unfold collect arrivals
    by_cases hall : received.all Option.isSome = true
    · rw [if_pos hall, lineIo_pure]
      exact ⟨received, [], rfl, by simp, Nat.zero_le _, .all_there hall _⟩
    · rw [if_neg hall, lineIo_bind]
      unfold Faulty.listen
      rw [hincoming]
      cases hread : incoming line.heard.length with
      | none =>
        refine ⟨received, [.ok none], rfl, ?_, Nat.succ_le_succ (Nat.zero_le _), .none_arrived _ _⟩
        simp [lineIo_pure, Line.listened, hincoming, hread]
      | some report =>
        have hnext : ∀ n, line.listened.incoming n = .ok (incoming n) := hincoming
        have hcount : line.listened.heard.length = line.heard.length + 1 := by simp
        have hlog : line.listened.log = line.log ++ [.heard (.ok (some report))] := by
          simp [Line.listened, hincoming, hread]
        dsimp only
        cases hslot : slotOf exchanges report with
        | none =>
          obtain ⟨final, reads, hresult, htrace, hbound, hcollected⟩ := ih received _ hnext
          rw [hcount] at hcollected
          refine ⟨final, .ok (some report) :: reads, hresult, ?_, Nat.succ_le_succ hbound, hcollected.kept hslot⟩
          rw [htrace, hlog, List.map_cons, List.append_assoc, List.singleton_append]
        | some slot =>
          obtain ⟨final, reads, hresult, htrace, hbound, hcollected⟩ :=
            ih (received.set slot (some report)) _ hnext
          rw [hcount] at hcollected
          refine ⟨final, .ok (some report) :: reads, hresult, ?_, Nat.succ_le_succ hbound, hcollected.placed hslot⟩
          rw [htrace, hlog, List.map_cons, List.append_assoc, List.singleton_append]

theorem ask_spec (exchanges : List Exchange) (incoming : Nat → Option Report) (took : Nat → Nat) :
    ∃ (final : List (Option Report)) (reads : List (Except ε (Option Report))),
      (ask exchanges (.sound incoming took : Line Report Report ε)).1 = .ok final ∧
      (ask exchanges (.sound incoming took : Line Report Report ε)).2.log =
        (exchanges.map fun exchange => Traffic.sent (query exchange.1)) ++ reads.map .heard ∧
      reads.length ≤ MAX_QUERY_READS ∧
      Collected exchanges (arrivals incoming 0 MAX_QUERY_READS) (List.replicate exchanges.length none) final := by
  unfold ask
  rw [lineIo_bind, postAll_of_accepted fun _ => rfl]
  obtain ⟨final, reads, hresult, hlog, hbound, hcollected⟩ := collect_spec exchanges incoming MAX_QUERY_READS
    (List.replicate exchanges.length none)
    ((Line.sound incoming took : Line Report Report ε).postedAll (exchanges.map fun exchange => query exchange.1))
    fun _ => rfl
  rw [Line.postedAll_heard] at hcollected
  refine ⟨final, reads, hresult, ?_, hbound, hcollected⟩
  rw [hlog, Line.postedAll, List.map_map]
  rfl

/-! ## Answers find their requests -/

theorem answers_unique {report : Report} {identifier other : Identifier} (h : answers report identifier = true)
    (hother : answers report other = true) : identifier = other := by
  simp only [answers, Bool.and_eq_true, beq_iff_eq] at h hother
  exact Prod.ext (h.1.symm.trans hother.1) (h.2.symm.trans hother.2)

theorem slotOf_eq_some_iff {exchanges : List Exchange} (hdistinct : (exchanges.map Prod.snd).Nodup)
    (report : Report) {i : Nat} {exchange : Exchange} (hi : exchanges[i]? = some exchange) :
    slotOf exchanges report = some i ↔ answers report exchange.2 = true := by
  obtain ⟨hlt, rfl⟩ := List.getElem?_eq_some_iff.mp hi
  unfold slotOf
  rw [List.findIdx?_eq_some_iff_getElem]
  refine ⟨fun ⟨_, h, _⟩ => h, fun h => ⟨hlt, h, fun j hj hanswers => ?_⟩⟩
  have hsame := answers_unique hanswers h
  have hdiffer := List.pairwise_iff_getElem.mp (List.pairwise_map.mp hdistinct) j i (hj.trans hlt) hlt hj
  exact hdiffer hsame

variable {exchanges : List Exchange} {arrived : List Report} {received final other : List (Option Report)}

theorem getElem?_replicate_none (n i : Nat) (report : Report) :
    (List.replicate n (none : Option Report))[i]? ≠ some (some report) := by
  rw [List.getElem?_replicate]
  split <;> simp

theorem Collected.filled_iff (hdistinct : (exchanges.map Prod.snd).Nodup)
    (h : Collected exchanges arrived (List.replicate exchanges.length none) final) {i : Nat}
    {exchange : Exchange} (hi : exchanges[i]? = some exchange) :
    (∃ report, final[i]? = some (some report)) ↔ ∃ report ∈ arrived, answers report exchange.2 = true := by
  constructor
  · rintro ⟨report, hreport⟩
    rcases h.found i report hreport with hheld | ⟨hmem, hslot⟩
    · exact absurd hheld (getElem?_replicate_none _ _ _)
    · exact ⟨report, hmem, (slotOf_eq_some_iff hdistinct report hi).mp hslot⟩
  · rintro ⟨report, hmem, hanswers⟩
    have hlt : i < final.length := by
      rw [h.length, List.length_replicate]
      exact (List.getElem?_eq_some_iff.mp hi).1
    cases hfinal : final[i] with
    | none =>
      have hnone := (h.missing i (List.getElem?_eq_some_iff.mpr ⟨hlt, hfinal⟩)).2 report hmem
      exact absurd ((slotOf_eq_some_iff hdistinct report hi).mpr hanswers) hnone
    | some held => exact ⟨held, List.getElem?_eq_some_iff.mpr ⟨hlt, hfinal⟩⟩

theorem Collected.answer_of_filled (hdistinct : (exchanges.map Prod.snd).Nodup)
    (h : Collected exchanges arrived (List.replicate exchanges.length none) final) {i : Nat}
    {exchange : Exchange} (hi : exchanges[i]? = some exchange) {report : Report}
    (hreport : final[i]? = some (some report)) : report ∈ arrived ∧ answers report exchange.2 = true := by
  rcases h.found i report hreport with hheld | ⟨hmem, hslot⟩
  · exact absurd hheld (getElem?_replicate_none _ _ _)
  · exact ⟨hmem, (slotOf_eq_some_iff hdistinct report hi).mp hslot⟩

theorem Collected.order (hdistinct : (exchanges.map Prod.snd).Nodup) {rearranged : List Report}
    (h : Collected exchanges arrived (List.replicate exchanges.length none) final)
    (hother : Collected exchanges rearranged (List.replicate exchanges.length none) other)
    (hperm : rearranged.Perm arrived)
    (hsingle : ∀ exchange ∈ exchanges, ∀ report ∈ arrived, ∀ again ∈ arrived,
      answers report exchange.2 = true → answers again exchange.2 = true → report = again) :
    other = final := by
  have hlength : other.length = final.length := hother.length.trans h.length.symm
  refine List.ext_getElem hlength fun i hlt hlt' => ?_
  have hi : i < exchanges.length := by
    rw [h.length, List.length_replicate] at hlt'
    exact hlt'
  have hexchange : exchanges[i]? = some exchanges[i] := List.getElem?_eq_getElem hi
  have hfilled := h.filled_iff hdistinct hexchange
  have hfilled' := hother.filled_iff hdistinct hexchange
  have hsame : (∃ report ∈ rearranged, answers report exchanges[i].2 = true) ↔
      ∃ report ∈ arrived, answers report exchanges[i].2 = true := by
    simp only [hperm.mem_iff]
  rw [← hfilled, ← hfilled', List.getElem?_eq_getElem hlt, List.getElem?_eq_getElem hlt'] at hsame
  cases hfirst : final[i] with
  | none =>
    cases hsecond : other[i] with
    | none => rfl
    | some report =>
      obtain ⟨held, hheld⟩ := hsame.mp ⟨report, by rw [hsecond]⟩
      rw [hfirst] at hheld
      cases hheld
  | some report =>
    obtain ⟨again, hagain⟩ := hsame.mpr ⟨report, by rw [hfirst]⟩
    rw [Option.some.inj hagain]
    obtain ⟨hmem, hanswers⟩ := h.answer_of_filled hdistinct hexchange
      (List.getElem?_eq_some_iff.mpr ⟨hlt', hfirst⟩)
    obtain ⟨hmem', hanswers'⟩ := hother.answer_of_filled hdistinct hexchange
      (List.getElem?_eq_some_iff.mpr ⟨hlt, Option.some.inj hagain⟩)
    rw [hsingle exchanges[i] (List.getElem_mem hi) report hmem again (hperm.mem_iff.mp hmem') hanswers hanswers']

/-- Requests go out once each and first, reads are bounded, each place is filled exactly by an answer to its
own request that arrived in time, and the order in which different answers arrive does not matter. -/
theorem ask_pairs_requests_with_answers (exchanges : List Exchange)
    (hdistinct : (exchanges.map Prod.snd).Nodup) (incoming : Nat → Option Report) (took : Nat → Nat) :
    ∃ (final : List (Option Report)) (reads : List (Except ε (Option Report))),
      (ask exchanges (.sound incoming took : Line Report Report ε)).1 = .ok final ∧
      (ask exchanges (.sound incoming took : Line Report Report ε)).2.log =
        (exchanges.map fun exchange => Traffic.sent (query exchange.1)) ++ reads.map .heard ∧
      reads.length ≤ MAX_QUERY_READS ∧ final.length = exchanges.length ∧
      (∀ (i : Nat) (exchange : Exchange), exchanges[i]? = some exchange →
        ((∃ report, final[i]? = some (some report)) ↔
          ∃ report ∈ arrivals incoming 0 MAX_QUERY_READS, answers report exchange.2 = true) ∧
        ∀ report, final[i]? = some (some report) → answers report exchange.2 = true ∧
          ∀ (j : Nat) (other : Exchange), exchanges[j]? = some other → answers report other.2 = true → j = i) ∧
      ∀ (rearranged : Nat → Option Report) (took' : Nat → Nat),
        (arrivals rearranged 0 MAX_QUERY_READS).Perm (arrivals incoming 0 MAX_QUERY_READS) →
        (∀ exchange ∈ exchanges, ∀ report ∈ arrivals incoming 0 MAX_QUERY_READS,
          ∀ again ∈ arrivals incoming 0 MAX_QUERY_READS,
            answers report exchange.2 = true → answers again exchange.2 = true → report = again) →
          (ask exchanges (.sound rearranged took' : Line Report Report ε)).1 = .ok final := by
  obtain ⟨final, reads, hresult, hlog, hbound, hcollected⟩ := ask_spec (ε := ε) exchanges incoming took
  refine ⟨final, reads, hresult, hlog, hbound, hcollected.length.trans (List.length_replicate ..), ?_, ?_⟩
  · intro i exchange hi
    refine ⟨hcollected.filled_iff hdistinct hi, fun report hreport => ?_⟩
    have hanswers := (hcollected.answer_of_filled hdistinct hi hreport).2
    refine ⟨hanswers, fun j other hj hother => ?_⟩
    have hslot := (slotOf_eq_some_iff hdistinct report hi).mpr hanswers
    exact Option.some.inj (((slotOf_eq_some_iff hdistinct report hj).mpr hother).symm.trans hslot)
  · intro rearranged took' hperm hsingle
    obtain ⟨other, -, hresult', -, -, hcollected'⟩ := ask_spec (ε := ε) exchanges rearranged took'
    rw [hresult', hcollected.order hdistinct hcollected' hperm hsingle]

/-- What the panel is asked at a start. -/
def benchExchanges : List Exchange := [(FIRMWARE_REQUEST, FIRMWARE_ANSWER), ((0x30, 0x01), (0x31, 0x01))]

theorem bench_answers_in_either_order :
    (ask benchExchanges (.sound (fun n => [query (0x31, 0x01), query FIRMWARE_ANSWER][n]?) fun _ => 0 :
        Line Report Report Unit)).1 =
      (ask benchExchanges (.sound (fun n => [query FIRMWARE_ANSWER, query (0x31, 0x01)][n]?) fun _ => 0)).1 := by
  obtain ⟨final, -, hresult, -, -, -, -, horder⟩ := ask_pairs_requests_with_answers (ε := Unit) benchExchanges
    (by decide) (fun n => [query FIRMWARE_ANSWER, query (0x31, 0x01)][n]?) fun _ => 0
  have hsingle : (benchExchanges.all fun exchange =>
      (arrivals (fun n => [query FIRMWARE_ANSWER, query (0x31, 0x01)][n]?) 0 MAX_QUERY_READS).all fun report =>
        (arrivals (fun n => [query FIRMWARE_ANSWER, query (0x31, 0x01)][n]?) 0 MAX_QUERY_READS).all fun again =>
          !(answers report exchange.2 && answers again exchange.2) || report == again) = true := by decide +kernel
  rw [hresult]
  refine horder _ _ (by decide) fun exchange hexchange report hreport again hagain hfirst hsecond => ?_
  have hsame := List.all_eq_true.mp (List.all_eq_true.mp (List.all_eq_true.mp hsingle exchange hexchange) report
    hreport) again hagain
  rw [hfirst, hsecond] at hsame
  exact eq_of_beq hsame

end Hid

end Kori
