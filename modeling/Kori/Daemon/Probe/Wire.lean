import Kori.Daemon.Probe.Rgb

/-! # What the lighting write probe puts on the wire, and what it records of it -/

open Faulty Faulty.Script

namespace Kori

namespace RgbProbe

/-! ## The transcript -/

/-- The reports handed to the node, in order. -/
def written (said : RgbProbeSaid) : List Report := (exchanged said).filterMap fun
  | ⟨.writeReport report, _⟩ => some report
  | _ => none

/-- How each write went, in order. -/
def outcomes (said : RgbProbeSaid) : List (Option String) := (exchanged said).filterMap fun
  | ⟨.writeReport _, answer⟩ => some answer.1
  | _ => none

/-- The report of a program for a channel, when it has one. -/
def encoded (sent : UInt8 × LightingProgram) : List Report := (RgbController.encode sent.1 sent.2).toOption.toList

@[simp] theorem written_nil : written [] = [] := rfl
@[simp] theorem outcomes_nil : outcomes [] = [] := rfl

@[simp] theorem written_append (said more : RgbProbeSaid) : written (said ++ more) = written said ++ written more := by
  simp [written]

@[simp] theorem outcomes_append (said more : RgbProbeSaid) :
    outcomes (said ++ more) = outcomes said ++ outcomes more := by
  simp [outcomes]

@[simp] theorem written_sleep (millis : Nat) (answer : Unit) (said : RgbProbeSaid) :
    written (⟨.sleep millis, answer⟩ :: said) = written said := rfl

@[simp] theorem outcomes_sleep (millis : Nat) (answer : Unit) (said : RgbProbeSaid) :
    outcomes (⟨.sleep millis, answer⟩ :: said) = outcomes said := rfl

@[simp] theorem written_ask (question answer : String) (said : RgbProbeSaid) :
    written (⟨.ask question, answer⟩ :: said) = written said := rfl

@[simp] theorem outcomes_ask (question answer : String) (said : RgbProbeSaid) :
    outcomes (⟨.ask question, answer⟩ :: said) = outcomes said := rfl

/-! ## One program -/

theorem hex_ne_empty (report : Report) : hex report.toList ≠ "" := by
  intro h
  have hlist : (hex report.toList).toList = [] := by rw [h]; rfl
  rw [hex, String.toList_join, List.flatMap_map, List.flatMap_eq_nil_iff] at hlist
  have hlength : 0 < report.toList.length := by
    rw [Vector.length_toList]
    decide
  have hfirst := hlist _ (List.getElem_mem hlength)
  rw [RgbController.hex2, String.toList_ofList] at hfirst
  cases hfirst

/-- A step is what was sent and how it went. -/
structure Sent (sent : UInt8 × LightingProgram) (step : ProbeStep) (said : RgbProbeSaid) : Prop where
  channel : step.channel = sent.1
  program : step.program = sent.2.summary
  hex : step.reportHex = String.join ((encoded sent).map fun report => hex report.toList)
  calls : said.map Sigma.fst = (encoded sent).flatMap fun report =>
    [.device (.writeReport report), .device (.readReport 50)]
  written : written said = encoded sent
  outcomes : outcomes said = (encoded sent).map fun _ => step.error
  silent : encoded sent = [] → step.error.isSome
  answered : answered said = []

theorem send_spec (sent : UInt8 × LightingProgram) : (send sent.1 sent.2).Always (Sent sent) := by
  unfold send
  cases hencode : RgbController.encode sent.1 sent.2 with
  | error error =>
    have hencoded : encoded sent = [] := by rw [encoded, hencode]; rfl
    rw [always_return]
    refine ⟨rfl, rfl, ?_, ?_, ?_, ?_, fun _ => rfl, rfl⟩ <;> rw [hencoded] <;> rfl
  | ok report =>
    have hencoded : encoded sent = [report] := by rw [encoded, hencode]; rfl
    intro answer response
    refine ⟨rfl, rfl, ?_, ?_, ?_, ?_, fun h => ?_, rfl⟩
    · rw [hencoded, List.map_singleton, String.join_cons, String.join_nil, String.append_empty]
    · rw [hencoded]; rfl
    · rw [hencoded]; rfl
    · rw [hencoded]; rfl
    · rw [hencoded] at h
      cases h

/-! ## The tests -/

/-- The steps are what was written, how it went and what the operator answered. -/
structure Faithful (sents : List (UInt8 × LightingProgram)) (steps : List ProbeStep) (said : RgbProbeSaid) : Prop where
  named : steps.map (fun step => (step.channel, step.program)) = sents.map fun sent => (sent.1, sent.2.summary)
  hexes : steps.map (·.reportHex) =
    sents.map fun sent => String.join ((encoded sent).map fun report => RgbProbe.hex report.toList)
  written : RgbProbe.written said = sents.flatMap encoded
  outcomes : RgbProbe.outcomes said = (steps.filter fun step => step.reportHex ≠ "").map (·.error)
  refused : ∀ step ∈ steps, step.reportHex = "" → step.error.isSome
  observed : answered said = steps.map (·.observed)

theorem encoded_cases (sent : UInt8 × LightingProgram) : encoded sent = [] ∨ ∃ report, encoded sent = [report] := by
  unfold encoded
  cases (RgbController.encode sent.1 sent.2).toOption with
  | none => exact .inl rfl
  | some report => exact .inr ⟨report, rfl⟩

theorem Sent.reportHex_eq_iff {sent : UInt8 × LightingProgram} {step : ProbeStep} {said : RgbProbeSaid}
    (h : Sent sent step said) : step.reportHex = "" ↔ encoded sent = [] := by
  rw [h.hex]
  rcases encoded_cases sent with hnone | ⟨report, hsome⟩
  · rw [hnone]
    exact ⟨fun _ => rfl, fun _ => rfl⟩
  · rw [hsome, List.map_singleton, String.join_cons, String.join_nil, String.append_empty]
    exact ⟨fun hhex => (hex_ne_empty report hhex).elim, fun hnil => (by cases hnil)⟩

theorem tests_faithful (sents : List (UInt8 × LightingProgram)) :
    (each testProgram sents).Always (Faithful sents) := by
  refine always_each ⟨rfl, rfl, rfl, rfl, fun _ h => (by cases h), rfl⟩ (fun sent rest => ?_) sents
  unfold testProgram
  rw [always_bind]
  refine always_mono (send_spec sent) fun step said hsent observed _ steps more hsteps => ?_
  have hhex := hsent.reportHex_eq_iff
  refine ⟨?_, ?_, ?_, ?_, ?_, ?_⟩
  · rw [List.map_cons, List.map_cons, hsteps.named, hsent.channel, hsent.program]
  · rw [List.map_cons, List.map_cons, hsteps.hexes, hsent.hex]
  · simp [hsent.written, hsteps.written]
  · have hpass : (({ step with observed } :: steps).filter fun step => step.reportHex ≠ "").map (·.error) =
        (encoded sent).map (fun _ => step.error) ++ (steps.filter fun step => step.reportHex ≠ "").map (·.error) := by
      rcases encoded_cases sent with hnone | ⟨report, hsome⟩
      · rw [List.filter_cons_of_neg (by simpa using hhex.mpr hnone), hnone]
        rfl
      · rw [List.filter_cons_of_pos (by simp [hhex, hsome]), hsome]
        rfl
    rw [hpass]
    simp [hsent.outcomes, hsteps.outcomes]
  · intro entry hmem hempty
    rcases List.mem_cons.mp hmem with rfl | hlater
    · exact hsent.silent (hhex.mp hempty)
    · exact hsteps.refused entry hlater hempty
  · simp [hsent.answered, hsteps.observed]

/-! ## The cadence -/

/-- The commands of a cadence step, each followed by its wait. -/
def command (channel : UInt8) (intervalMs index : Nat) : List (ProbeCall HidCall) :=
  (encoded (channel, cadenceProgram index)).flatMap fun report =>
    [.device (.writeReport report), .device (.readReport 50), .sleep intervalMs]

def burst (channel : UInt8) (intervalMs : Nat) : List (ProbeCall HidCall) :=
  (List.range CADENCE_COMMANDS).flatMap (command channel intervalMs)

/-- Every command of these was sent and taken. -/
def Landed (commands : List (ProbeCall HidCall)) (said : RgbProbeSaid) : Prop :=
  said.map Sigma.fst = commands ∧ ∀ outcome ∈ outcomes said, outcome = none

/-- The commands up to one that failed, and nothing after it. -/
def Stopped (channel : UInt8) (intervalMs : Nat) (indices : List Nat) (said : RgbProbeSaid) : Prop :=
  ∃ before index after full last, indices = before ++ index :: after ∧ said = full ++ last ∧
    Landed (before.flatMap (command channel intervalMs)) full ∧
    written last = encoded (channel, cadenceProgram index) ∧ answered last = [] ∧
    ∀ outcome ∈ outcomes last, outcome ≠ none

theorem Landed.append {commands commands' : List (ProbeCall HidCall)} {said said' : RgbProbeSaid}
    (h : Landed commands said) (h' : Landed commands' said') : Landed (commands ++ commands') (said ++ said') := by
  refine ⟨by rw [List.map_append, h.1, h'.1], fun outcome hmem => ?_⟩
  rw [outcomes_append] at hmem
  exact (List.mem_append.mp hmem).elim (h.2 outcome) (h'.2 outcome)

theorem cadenceStep_spec (channel : UInt8) (intervalMs : Nat) (indices : List Nat) :
    (cadenceStep channel intervalMs indices).Always fun failed said =>
      if failed then Stopped channel intervalMs indices said
      else Landed (indices.flatMap (command channel intervalMs)) said := by
  induction indices with
  | nil => exact ⟨rfl, fun _ h => (by cases h)⟩
  | cons index rest ih =>
    unfold cadenceStep
    rw [always_bind]
    refine always_mono (send_spec (channel, cadenceProgram index)) fun step said hsent => ?_
    by_cases herror : step.error.isSome
    · rw [if_pos herror, always_return, List.append_nil]
      refine ⟨[], index, rest, [], said, rfl, rfl, ⟨rfl, fun _ h => (by cases h)⟩, hsent.written, hsent.answered,
        fun outcome hmem hnone => ?_⟩
      rw [hsent.outcomes, List.mem_map] at hmem
      obtain ⟨_, _, rfl⟩ := hmem
      rw [hnone] at herror
      cases herror
    · rw [if_neg herror, always_bind, always_sleep]
      have hfirst : Landed (command channel intervalMs index) (said ++ [⟨.sleep intervalMs, ()⟩]) := by
        obtain hnone | ⟨report, hsome⟩ := encoded_cases (channel, cadenceProgram index)
        · exact (herror (hsent.silent hnone)).elim
        · refine ⟨by rw [List.map_append, hsent.calls, command, hsome]; rfl, fun outcome hmem => ?_⟩
          rw [outcomes_append, outcomes_sleep, outcomes_nil, List.append_nil, hsent.outcomes, hsome] at hmem
          rw [List.mem_singleton.mp hmem]
          exact Option.not_isSome_iff_eq_none.mp herror
      refine always_mono ih fun failed more hrest => ?_
      rw [← List.append_assoc]
      cases failed with
      | false => exact hfirst.append hrest
      | true =>
        obtain ⟨before, failing, after, full, last, rfl, rfl, hfull, hlast⟩ := hrest
        refine ⟨index :: before, failing, after, said ++ [⟨.sleep intervalMs, ()⟩] ++ full, last, rfl, ?_, ?_, hlast⟩
        · exact (List.append_assoc ..).symm
        · rw [List.flatMap_cons]
          exact hfirst.append hfull

/-- The intervals that landed whole, and the one that failed when one did. -/
def Stepped (channel : UInt8) (intervals tried : List Nat) (stable failure : Option Nat) (said : RgbProbeSaid) : Prop :=
  ∃ landed left full last, intervals = landed ++ left ∧ said = full ++ last ∧ tried = landed ++ left.take 1 ∧
    stable = landed.getLast? ∧ failure = left.head? ∧ Landed (landed.flatMap (burst channel)) full ∧
    match left with
    | [] => last = []
    | interval :: _ => Stopped channel interval (List.range CADENCE_COMMANDS) last

theorem cadenceSteps_spec (channel : UInt8) (intervals tried : List Nat) (stable : Option Nat) :
    (cadenceSteps channel intervals tried stable).Always fun result said =>
      ∃ steps last, result.1 = tried ++ steps ∧ result.2.1 = last.or stable ∧
        Stepped channel intervals steps last result.2.2 said := by
  induction intervals generalizing tried stable with
  | nil =>
    exact ⟨[], none, (List.append_nil tried).symm, rfl, [], [], [], [], rfl, rfl, rfl, rfl, rfl,
      ⟨rfl, fun _ h => (by cases h)⟩, rfl⟩
  | cons interval rest ih =>
    unfold cadenceSteps
    rw [always_bind]
    refine always_mono (cadenceStep_spec channel interval (List.range CADENCE_COMMANDS)) fun failed said hstep => ?_
    cases failed with
    | true =>
      exact ⟨[interval], none, rfl, rfl, [], interval :: rest, [], said ++ [], rfl, rfl, rfl, rfl, rfl,
        ⟨rfl, fun _ h => (by cases h)⟩, by rw [List.append_nil]; exact hstep⟩
    | false =>
      refine always_mono (ih (tried ++ [interval]) (some interval)) ?_
      rintro result more ⟨steps, last, htried, hstable, hstepped⟩
      obtain ⟨landed, left, full, final, rfl, rfl, rfl, rfl, hfailure, hfull, hleft⟩ := hstepped
      refine ⟨interval :: (landed ++ left.take 1), (interval :: landed).getLast?, ?_, ?_, interval :: landed, left,
        said ++ full, final, rfl, (List.append_assoc ..).symm, rfl, rfl, hfailure, ?_, hleft⟩
      · rw [htried, List.append_assoc]
        rfl
      · rw [hstable, List.getLast?_cons]
        cases landed.getLast? <;> rfl
      · exact Landed.append hstep hfull

/-! ## The restoration -/

/-- What was sent to restore these channels, and what went wrong. -/
structure PutBack (program : LightingProgram) (channels : List RgbChannel) (failures : List (Option String))
    (said : RgbProbeSaid) : Prop where
  written : RgbProbe.written said = channels.flatMap fun channel => encoded (channel.index, program)
  answered : Kori.answered said = []
  failures : (∀ failure ∈ failures, failure = none) ↔
    (∀ outcome ∈ outcomes said, outcome = none) ∧ ∀ channel ∈ channels, encoded (channel.index, program) ≠ []

theorem putBack_each (program : LightingProgram) (channels : List RgbChannel) :
    (each (restoreChannel program) channels).Always (PutBack program channels) := by
  refine always_each ⟨rfl, rfl, fun _ => ⟨fun _ h => (by cases h), fun _ h => (by cases h)⟩, fun _ _ h => (by cases h)⟩
    (fun channel rest => ?_) channels
  unfold restoreChannel
  rw [always_bind]
  refine always_mono (send_spec (channel.index, program)) fun step said hsent _ failures more hmore => ?_
  refine ⟨by simp [hsent.written, hmore.written], by simp [hsent.answered, hmore.answered], ?_⟩
  have houtcomes := hsent.outcomes
  have hsilent := hsent.silent
  rcases encoded_cases (channel.index, program) with hnone | ⟨report, hsome⟩
  · obtain ⟨error, herror⟩ := Option.isSome_iff_exists.mp (hsilent hnone)
    simp [herror, hnone]
  · cases herror : step.error with
    | none => simpa [herror, hsome, houtcomes] using hmore.failures
    | some error => simp [herror, hsome, houtcomes]

/-- What became of the lighting, and why it is or is not confirmed. -/
def Restored (program : LightingProgram) (channels : List RgbChannel) (said : RgbProbeSaid) : Restoration → Prop
  | .confirmed summary observed => summary = program.summary ∧ answered said = [observed] ∧ observed ≠ "" ∧
    (∀ outcome ∈ outcomes said, outcome = none) ∧ ∀ channel ∈ channels, encoded (channel.index, program) ≠ []
  | .unconfirmed summary _ => summary = program.summary ∧ (answered said = [""] ∨ answered said = [] ∧
    ((∃ outcome ∈ outcomes said, outcome ≠ none) ∨ ∃ channel ∈ channels, encoded (channel.index, program) = []))
  | .notNeeded => False

theorem restore_spec (channels : List RgbChannel) (program : LightingProgram) :
    (restore channels program).Always fun restoration said =>
      written said = (channels.flatMap fun channel => encoded (channel.index, program)) ∧
        Restored program channels said restoration := by
  unfold restore
  rw [always_bind]
  refine always_mono (putBack_each program channels) fun failures said hput => ?_
  have hreduce : failures.reduceOption.isEmpty ↔ ∀ failure ∈ failures, failure = none := by
    rw [List.isEmpty_iff]
    change failures.filterMap id = [] ↔ _
    rw [List.filterMap_eq_nil_iff]
    exact Iff.rfl
  by_cases hfailed : failures.reduceOption.isEmpty
  · have hall := hput.failures.mp (hreduce.mp hfailed)
    rw [if_neg (not_not.mpr hfailed), always_bind, always_ask]
    intro observed
    by_cases hempty : observed.isEmpty
    · rw [if_pos hempty]
      refine ⟨by simp [hput.written], rfl, .inl ?_⟩
      simp [hput.answered, String.isEmpty_iff.mp hempty]
    · rw [if_neg hempty]
      refine ⟨by simp [hput.written], rfl, by simp [hput.answered], fun h => hempty (String.isEmpty_iff.mpr h), ?_⟩
      simpa using hall
  · rw [if_pos hfailed]
    refine ⟨by simp [hput.written], rfl, .inr ⟨by simp [hput.answered], ?_⟩⟩
    rw [hreduce, hput.failures, not_and_or] at hfailed
    simpa using hfailed

/-! ## The run -/

/-- What a scope sends, out of the channels reported. -/
def tested (scope : ProbeScope) (reported : List RgbChannel) : List (UInt8 × LightingProgram) :=
  (scope.channels reported).flatMap fun channel => scope.programs.map fun program => (channel.index, program)

/-- The channel the cadence is measured on. -/
def measured (scope : ProbeScope) (reported : List RgbChannel) : UInt8 :=
  (((scope.channels reported).head?).map (·.index)).getD 1

/-- No brighter than the probe says it is. -/
def Dim : LightingProgram → Prop
  | .off => True
  | .fixed _ brightness => brightness = PROBE_LEVEL
  | .effect _ _ brightness _ _ => brightness = PROBE_LEVEL

instance : DecidablePred Dim
  | .off => inferInstanceAs (Decidable True)
  | .fixed _ brightness => inferInstanceAs (Decidable (brightness = PROBE_LEVEL))
  | .effect _ _ brightness _ _ => inferInstanceAs (Decidable (brightness = PROBE_LEVEL))

theorem programs_dim (scope : ProbeScope) :
    ∀ program ∈ scope.programs, Dim program ∧ Lighting.validateProgram program = .ok () := by
  cases scope <;> decide

theorem tested_dim (scope : ProbeScope) (reported : List RgbChannel) :
    ∀ sent ∈ tested scope reported, Dim sent.2 ∧ Lighting.validateProgram sent.2 = .ok () := by
  intro sent hmem
  obtain ⟨channel, -, hsent⟩ := List.mem_flatMap.mp hmem
  obtain ⟨program, hprogram, rfl⟩ := List.mem_map.mp hsent
  exact programs_dim scope program hprogram

/-- What is said before anything is sent. -/
def briefing (scope : ProbeScope) (answer : String) : RgbProbeSaid :=
  [⟨.note warning, ()⟩, ⟨.note scope.description, ()⟩, ⟨.ask confirmation, answer⟩]

/-- A run that went ahead: what it said, and what it recorded of it. -/
structure Ran (source : String) (topology : RgbTopology) (scope : ProbeScope) (restoreTo : LightingProgram)
    (reported : List RgbChannel) (said : RgbProbeSaid) (report : WriteProbeReport)
    (tests cadence restoring : RgbProbeSaid) : Prop where
  said : said = briefing scope CONFIRMATION_PHRASE ++ (⟨.ask priorQuestion, report.priorState⟩ ::
    (tests ++ (cadence ++ (⟨.note report.cadence.detail, ()⟩ :: restoring))))
  steps : Faithful (tested scope reported) report.steps tests
  cadence : Stepped (measured scope reported) CADENCE_STEPS_MS report.cadence.triedMs report.cadence.stableIntervalMs
    report.cadence.firstFailureMs cadence
  wire : written restoring = reported.flatMap fun channel => encoded (channel.index, restoreTo)
  restored : Restored restoreTo reported restoring report.restoration
  record : report.scope = scope.key ∧ report.node = source ∧ report.firmware = topology.firmware ∧
    report.channels = reported

theorem measureCadence_spec (channel : UInt8) : (measureCadence channel).Always fun observation said =>
    Stepped channel CADENCE_STEPS_MS observation.triedMs observation.stableIntervalMs observation.firstFailureMs said := by
  unfold measureCadence
  rw [always_bind]
  refine always_mono (cadenceSteps_spec channel CADENCE_STEPS_MS [] none) ?_
  rintro ⟨tried, stable, failure⟩ said ⟨steps, last, rfl, rfl, hstepped⟩
  rw [always_return, List.append_nil]
  rw [Option.or_none] at hstepped ⊢
  exact hstepped

theorem run_spec (source : String) (topology : RgbTopology) (scope : ProbeScope) (restoreTo : LightingProgram) :
    (run source topology scope restoreTo).Always fun outcome said =>
      match topology.channels.value, outcome with
      | none, outcome => outcome = .error (.noTopology (topology.channels.reason.getD "no reason recorded")) ∧ said = []
      | some _, .error refusal => refusal = .notAuthorized ∧
        ∃ answer ≠ CONFIRMATION_PHRASE, said = briefing scope answer
      | some reported, .ok report =>
        ∃ tests cadence restoring, Ran source topology scope restoreTo reported said report tests cadence restoring := by
  unfold run
  cases topology.channels.value with
  | none => exact ⟨rfl, rfl⟩
  | some reported =>
    dsimp only
    rw [always_bind, always_note, always_bind, always_note, always_bind, authorized, always_bind, always_ask]
    intro answer
    rw [always_return]
    by_cases hanswer : answer = CONFIRMATION_PHRASE
    · subst hanswer
      rw [if_neg (by simp), always_bind, always_ask]
      intro priorState
      rw [always_bind]
      refine always_mono (tests_faithful _) fun steps tests hsteps => ?_
      rw [always_bind]
      refine always_mono (measureCadence_spec _) fun observation cadence hcadence => ?_
      rw [always_bind, always_note, always_bind]
      refine always_mono (restore_spec reported restoreTo) fun restoration restoring hrestore => ?_
      rw [always_return]
      refine ⟨tests, cadence, restoring, ?_, hsteps, hcadence, hrestore.1, hrestore.2, rfl, rfl, rfl, rfl⟩
      simp [briefing]
    · rw [if_pos (by simpa using hanswer)]
      exact ⟨rfl, answer, hanswer, rfl⟩

/-! ## The wire -/

def reportOf : ProbeCall HidCall → Option Report
  | .device (.writeReport report) => some report
  | _ => none

theorem written_eq (said : RgbProbeSaid) : written said = (said.map Sigma.fst).filterMap reportOf := by
  induction said with
  | nil => rfl
  | cons first rest ih =>
    obtain ⟨call, answer⟩ := first
    cases call with
    | ask question => exact ih
    | note message => exact ih
    | sleep millis => exact ih
    | device call =>
      cases call with
      | readReport timeout => exact ih
      | writeReport report => exact congrArg (report :: ·) ih

/-- The reports of a cadence step. -/
def flashes (channel : UInt8) (indices : List Nat) : List Report :=
  indices.flatMap fun index => encoded (channel, cadenceProgram index)

theorem reports_commands (channel : UInt8) (intervalMs : Nat) (indices : List Nat) :
    (indices.flatMap (command channel intervalMs)).filterMap reportOf = flashes channel indices := by
  rw [List.filterMap_flatMap, flashes]
  congr 1
  funext index
  rw [command, List.filterMap_flatMap]
  exact List.flatMap_singleton' _

theorem Stopped.written_isPrefix {channel : UInt8} {intervalMs : Nat} {indices : List Nat} {said : RgbProbeSaid}
    (h : Stopped channel intervalMs indices said) : written said <+: flashes channel indices := by
  obtain ⟨before, index, after, full, last, rfl, rfl, hfull, hlast, -, -⟩ := h
  rw [written_append, written_eq full, hfull.1, reports_commands, hlast, flashes, flashes, List.flatMap_append,
    List.flatMap_cons, ← List.append_assoc]
  exact List.prefix_append ..

theorem Stepped.written_isPrefix {channel : UInt8} {intervals tried : List Nat} {stable failure : Option Nat}
    {said : RgbProbeSaid} (h : Stepped channel intervals tried stable failure said) :
    written said <+: intervals.flatMap fun _ => flashes channel (List.range CADENCE_COMMANDS) := by
  obtain ⟨landed, left, full, last, rfl, rfl, -, -, -, hfull, hleft⟩ := h
  have hwritten : written full = landed.flatMap fun _ => flashes channel (List.range CADENCE_COMMANDS) := by
    rw [written_eq, hfull.1, List.filterMap_flatMap]
    congr 1
    funext interval
    exact reports_commands channel interval _
  rw [written_append, hwritten, List.flatMap_append, List.prefix_append_right_inj]
  cases left with
  | nil =>
    subst hleft
    exact List.nil_prefix
  | cons interval rest =>
    rw [List.flatMap_cons]
    exact (Stopped.written_isPrefix hleft).trans (List.prefix_append ..)

end RgbProbe

open RgbProbe in
/-- The write probe asks before it sends; of what it then sends, the tests are the ones described, the cadence is dim
white and off on one channel, and the last report for every channel is the program to restore. -/
theorem rgb_probe_wire (oracle : Oracle (ProbeCall.Answer HidCall.Answer)) (source : String) (topology : RgbTopology)
    (scope : ProbeScope) (restoreTo : LightingProgram) :
    let played := (RgbProbe.run source topology scope restoreTo).play oracle []
    match topology.channels.value, played.1 with
    | none, outcome =>
      outcome = .error (.noTopology (topology.channels.reason.getD "no reason recorded")) ∧ played.2 = []
    | some _, .error refusal => refusal = .notAuthorized ∧
      ∃ answer ≠ CONFIRMATION_PHRASE, played.2 = briefing scope answer
    | some reported, .ok _ =>
      ∃ rest cadence, played.2 = briefing scope CONFIRMATION_PHRASE ++ rest ∧
        (∀ sent ∈ tested scope reported, Dim sent.2) ∧
        written rest = (tested scope reported).flatMap encoded ++ cadence ++
          (reported.flatMap fun channel => encoded (channel.index, restoreTo)) ∧
        cadence <+: CADENCE_STEPS_MS.flatMap fun _ =>
          flashes (measured scope reported) (List.range CADENCE_COMMANDS) := by
  intro played
  have hrun := always_play (run_spec source topology scope restoreTo) oracle []
  change match topology.channels.value, played.1 with | none, _ => _ | some _, .error _ => _ | some _, .ok _ => _ at hrun
  cases hchannels : topology.channels.value with
  | none =>
    rw [hchannels] at hrun
    exact hrun
  | some reported =>
    rw [hchannels] at hrun
    cases houtcome : played.1 with
    | error refusal =>
      rw [houtcome] at hrun
      exact hrun
    | ok report =>
      rw [houtcome] at hrun
      obtain ⟨tests, cadence, restoring, hran⟩ := hrun
      refine ⟨_, written cadence, hran.said, fun sent hmem => (tested_dim scope reported sent hmem).1, ?_,
        hran.cadence.written_isPrefix⟩
      rw [written_ask, written_append, written_append, hran.steps.written, List.append_assoc]
      exact congrArg (fun wire => _ ++ (_ ++ wire)) hran.wire

open RgbProbe in
/-- The record says what was said: the steps name what was sent and hold the bytes that left, how each write went and
what the operator answered; the stable interval is the last at which every command landed; a restoration is confirmed
when every channel took it and the operator said what they saw. -/
theorem rgb_probe_record (oracle : Oracle (ProbeCall.Answer HidCall.Answer)) (source : String) (topology : RgbTopology)
    (scope : ProbeScope) (restoreTo : LightingProgram) :
    let played := (RgbProbe.run source topology scope restoreTo).play oracle []
    match played.1 with
    | .error _ => exchanged played.2 = []
    | .ok report => topology.channels.value = some report.channels ∧ ∃ tests cadence restoring,
      Ran source topology scope restoreTo report.channels played.2 report tests cadence restoring := by
  intro played
  have hrun := always_play (run_spec source topology scope restoreTo) oracle []
  change match topology.channels.value, played.1 with | none, _ => _ | some _, .error _ => _ | some _, .ok _ => _ at hrun
  cases hchannels : topology.channels.value with
  | none =>
    rw [hchannels] at hrun
    rw [hrun.1]
    exact congrArg exchanged hrun.2
  | some reported =>
    rw [hchannels] at hrun
    cases houtcome : played.1 with
    | error refusal =>
      rw [houtcome] at hrun
      obtain ⟨-, answer, -, hsaid⟩ := hrun
      exact congrArg exchanged hsaid
    | ok report =>
      rw [houtcome] at hrun
      obtain ⟨tests, cadence, restoring, hran⟩ := hrun
      obtain ⟨-, -, -, rfl⟩ := hran.record
      exact ⟨rfl, tests, cadence, restoring, hran⟩

end Kori
