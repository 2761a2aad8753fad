import Kori.Hardware.Sensors

/-! # What the kernel publishes of the processor and the memory reads back -/

namespace Kori

/-! ## The processor -/

/-- The aggregate line, as the kernel writes it. -/
def statLine (fields : List Nat) : List Char := "cpu ".toList ++ fields.flatMap fun n => ' ' :: Nat.toDigits 10 n

theorem plain_statLine {fields : List Nat} (h : fields ≠ []) : Text.Plain (statLine fields) where
  ne_nil := List.append_ne_nil_of_left_ne_nil (by decide) _
  feed := fun hmem => by
    rcases List.mem_append.mp hmem with hmem | hmem
    · exact absurd hmem (by decide)
    · obtain ⟨n, -, hc⟩ := List.mem_flatMap.mp hmem
      rcases List.mem_cons.mp hc with hc | hc
      · exact absurd hc (by decide)
      · exact absurd (Text.isWhitespace_of_mem_toDigits hc) (by decide)
  head := fun c hc => by
    cases hc
    decide
  last := fun c hc => by
    obtain ⟨init, n, rfl⟩ := (List.eq_nil_or_concat' fields).resolve_left h
    have hne : ' ' :: Nat.toDigits 10 n ≠ [] := List.cons_ne_nil _ _
    have hdigits : Nat.toDigits 10 n ≠ [] := Nat.toDigits_ne_nil
    rw [statLine, List.flatMap_append, ← List.append_assoc, List.flatMap_singleton,
      List.getLast?_append_of_ne_nil _ hne, List.getLast?_cons_of_ne_nil hdigits] at hc
    exact Text.isWhitespace_of_mem_toDigits (List.mem_of_getLast? hc)

/-- What the kernel publishes of the processor reads back: all of it or none of it. -/
theorem stat_reads_back (files : Files) (procRoot : String) {fields : List Nat} (rest : List Char) (hne : fields ≠ [])
    (hfile : files procRoot "stat" = .ok (.text (statLine fields ++ '\n' :: rest))) :
    files.readCpuTimes procRoot =
      if ¬∀ n ∈ fields, n < 2 ^ 64 then
        .error (.unparsable (procRoot ++ "/stat" ++ " publishes a cpu field that is not a number."))
      else if fields.length < 5 then
        .error (.unparsable (procRoot ++ "/stat" ++
          s!" publishes {fields.length} cpu fields, fewer than the five required."))
      else .ok { idle := (fields.getD 3 0 + fields.getD 4 0) % 2 ^ 64, total := fields.sum % 2 ^ 64 } := by
  have hplain := plain_statLine hne
  obtain ⟨others, hlines⟩ := Text.lines_trim_cons hplain rest
  have htrim : Text.trim (statLine fields ++ '\n' :: rest) ≠ [] := by
    rw [Text.trim_append hplain.ne_nil hplain.head hplain.last]
    exact List.append_ne_nil_of_left_ne_nil hplain.ne_nil _
  have hread : files.readAttributeDetailed procRoot "stat" = .ok (Text.trim (statLine fields ++ '\n' :: rest)) := by
    unfold Files.readAttributeDetailed
    rw [hfile]
    exact if_neg htrim
  have hfind : (statLine fields :: others).find? (fun line => "cpu ".toList.isPrefixOf line) = some (statLine fields) :=
    List.find?_cons_of_pos rfl
  have hwords : (Text.words (statLine fields)).drop 1 = fields.map (Nat.toDigits 10) := by
    have hcpu : statLine fields = "cpu".toList ++ ' ' :: fields.flatMap fun n => ' ' :: Nat.toDigits 10 n := rfl
    have hword : ("cpu".toList.all fun c => !Text.isWhitespace c) = true := rfl
    rw [hcpu, Text.words_cons (by simpa using hword) (by decide) rfl, Text.words_numbers]
    rfl
  unfold Files.readCpuTimes
  rw [hread]
  dsimp only
  rw [hlines, hfind]
  dsimp only
  rw [hwords, Text.mapM_parseU64]
  by_cases hsmall : ∀ n ∈ fields, n < 2 ^ 64
  · rw [if_pos hsmall, if_neg (not_not_intro hsmall)]
    clear hfile hne hplain hlines htrim hread hfind hwords hsmall
    rcases fields with _ | ⟨user, _ | ⟨nice, _ | ⟨system, _ | ⟨idle, _ | ⟨iowait, more⟩⟩⟩⟩⟩
    · rfl
    · rfl
    · rfl
    · rfl
    · rfl
    · exact (if_neg (by simp)).symm
  · rw [if_neg hsmall, if_pos hsmall]

/-- A half idle processor, read from the aggregate line and not from its first core's. -/
theorem half_idle_reads_back :
    Files.readCpuTimes (fun _ _ => .ok (.text "cpu  50 0 0 40 10 0\ncpu0 50 0 0 50 0 0\n".toList)) "/proc" =
      .ok { idle := 50, total := 100 } :=
  (@stat_reads_back _ "/proc" [50, 0, 0, 40, 10, 0] "cpu0 50 0 0 50 0 0\n".toList (by decide) rfl).trans rfl

/-! ## The memory -/

/-- One line of the memory's accounting. -/
structure MeminfoEntry where
  name : List Char
  padding : Nat
  kibibytes : Nat
  hasUnit : Bool
  plain : name.all fun c => c != ':' && !Text.isWhitespace c

/-- As the kernel writes it. -/
def MeminfoEntry.line (entry : MeminfoEntry) : List Char :=
  entry.name ++ ':' :: (List.replicate (entry.padding + 1) ' ' ++
    (Nat.toDigits 10 entry.kibibytes ++ if entry.hasUnit then " kB".toList else []))

namespace MeminfoEntry

variable (entry : MeminfoEntry)

theorem of_mem_name {c : Char} (h : c ∈ entry.name) : c ≠ ':' ∧ Text.isWhitespace c = false := by
  simpa using List.all_eq_true.mp entry.plain c h

theorem plain_line : Text.Plain entry.line where
  ne_nil := by simp [line]
  feed := fun hmem => by
    unfold line at hmem
    simp only [List.mem_append, List.mem_cons, List.mem_replicate] at hmem
    rcases hmem with hmem | hmem | ⟨-, hmem⟩ | hmem | hmem
    · exact absurd (entry.of_mem_name hmem).2 (by decide)
    · exact absurd hmem (by decide)
    · exact absurd hmem (by decide)
    · exact absurd (Text.isWhitespace_of_mem_toDigits hmem) (by decide)
    · split at hmem
      · exact absurd hmem (by decide)
      · cases hmem
  head := fun c hc => by
    unfold line at hc
    cases hname : entry.name with
    | nil =>
      rw [hname] at hc
      cases hc
      decide
    | cons first rest =>
      rw [hname] at hc
      cases hc
      exact (entry.of_mem_name (hname ▸ List.mem_cons_self)).2
  last := fun c hc => by
    have hdigits : Nat.toDigits 10 entry.kibibytes ≠ [] := Nat.toDigits_ne_nil
    unfold line at hc
    rw [List.getLast?_append_of_ne_nil _ (by simp), List.getLast?_cons_of_ne_nil (by simp),
      List.getLast?_append_of_ne_nil _ (by simp)] at hc
    split at hc
    · rw [List.getLast?_append_of_ne_nil _ (by simp)] at hc
      cases hc
      decide
    · rw [List.append_nil] at hc
      exact Text.isWhitespace_of_mem_toDigits (List.mem_of_getLast? hc)

theorem isPrefixOf_line {key : List Char} (hkey : ':' ∉ key) :
    (key ++ [':']).isPrefixOf entry.line = decide (entry.name = key) := by
  have hname : ':' ∉ entry.name := fun hmem => (entry.of_mem_name hmem).1 rfl
  unfold line
  generalize entry.name = name at hname
  induction key generalizing name with
  | nil =>
    cases name with
    | nil => rfl
    | cons c name =>
      have hc : (':' == c) = false := by
        rw [List.mem_cons, not_or] at hname
        exact beq_false_of_ne hname.1
      simp [List.isPrefixOf, hc]
  | cons d key ih =>
    rw [List.mem_cons, not_or] at hkey
    cases name with
    | nil =>
      have hd : (d == ':') = false := beq_false_of_ne (Ne.symm hkey.1)
      simp [List.isPrefixOf, hd]
    | cons c name =>
      rw [List.mem_cons, not_or] at hname
      rw [List.cons_append, List.cons_append, List.isPrefixOf_cons_cons, ih hkey.2 name hname.2]
      by_cases hsame : c = d
      · simp [hsame]
      · simp [hsame, Ne.symm hsame]

theorem words_line : (Text.words entry.line)[1]? = some (Nat.toDigits 10 entry.kibibytes) := by
  have hname : ∀ c ∈ entry.name ++ [':'], Text.isWhitespace c = false := fun c hc => by
    rcases List.mem_append.mp hc with hc | hc
    · exact (entry.of_mem_name hc).2
    · rw [List.mem_singleton.mp hc]
      decide
  have hdigits : ∀ c ∈ Nat.toDigits 10 entry.kibibytes, Text.isWhitespace c = false := fun c hc =>
    Text.isWhitespace_of_mem_toDigits hc
  have hline : entry.line = (entry.name ++ [':']) ++ ' ' :: (List.replicate entry.padding ' ' ++
      (Nat.toDigits 10 entry.kibibytes ++ if entry.hasUnit then " kB".toList else [])) := by
    rw [line, List.append_assoc, List.replicate_succ]
    rfl
  rw [hline, Text.words_cons hname (by simp) rfl, Text.words_spaces, List.getElem?_cons_succ]
  split
  · have hunit : " kB".toList = ' ' :: "kB".toList := rfl
    rw [hunit, Text.words_cons hdigits Nat.toDigits_ne_nil rfl]
    rfl
  · rw [List.append_nil, Text.words_last hdigits Nat.toDigits_ne_nil]
    rfl

end MeminfoEntry

/-- The whole accounting, as the kernel writes it. -/
def meminfoText (entries : List MeminfoEntry) : List Char := Text.unlines (entries.map MeminfoEntry.line)

/-- What is published under a name, in bytes, where that fits. -/
def publishedBytes (entries : List MeminfoEntry) (key : List Char) : Option Nat :=
  (entries.find? fun entry => entry.name = key).bind fun entry =>
    if entry.kibibytes * 1024 < 2 ^ 64 then some (entry.kibibytes * 1024) else none

theorem meminfoField_meminfoText (entries : List MeminfoEntry) {key : List Char} (hkey : ':' ∉ key) :
    meminfoField (Text.trim (meminfoText entries)) key = publishedBytes entries key := by
  have hplain : ∀ line ∈ entries.map MeminfoEntry.line, Text.Plain line := fun line hmem => by
    obtain ⟨entry, -, rfl⟩ := List.mem_map.mp hmem
    exact entry.plain_line
  have hfind : (Text.lines (Text.trim (meminfoText entries))).find? (fun line => (key ++ [':']).isPrefixOf line) =
      (entries.find? fun entry => entry.name = key).map MeminfoEntry.line := by
    rw [meminfoText, Text.lines_trim_unlines hplain, List.find?_map]
    congr 2
    exact funext fun entry => entry.isPrefixOf_line hkey
  unfold meminfoField publishedBytes
  rw [hfind]
  cases entries.find? fun entry => entry.name = key with
  | none => rfl
  | some entry =>
    rw [Option.map_some, Option.bind_some]
    change ((Text.words entry.line)[1]?.bind fun word => (Text.parseU64 word).bind fun value =>
      if value * 1024 < 2 ^ 64 then some (value * 1024) else none) = _
    rw [entry.words_line, Option.bind_some, Text.parseU64_toDigits]
    split
    · rfl
    · rename_i hlarge
      rw [if_neg (by omega)]
      rfl

/-- Whatever else the kernel publishes, memory is the bytes under the two names themselves, and never half a figure. -/
theorem meminfo_reads_back (sensors : SystemSensors) (files : Files) (entries : List MeminfoEntry)
    (hfile : files sensors.procRoot "meminfo" = .ok (.text (meminfoText entries))) :
    (sensors.memory files).copied =
      (publishedBytes entries "MemTotal".toList).bind fun total =>
        (publishedBytes entries "MemAvailable".toList).bind fun available =>
          if 0 < total then some { usedBytes := total - available, totalBytes := total } else none := by
  have htotal := meminfoField_meminfoText entries (show ':' ∉ "MemTotal".toList by decide)
  have havailable := meminfoField_meminfoText entries (show ':' ∉ "MemAvailable".toList by decide)
  rw [← htotal, ← havailable]
  unfold SystemSensors.memory Files.readAttributeDetailed
  rw [hfile]
  dsimp only
  by_cases hempty : Text.trim (meminfoText entries) = []
  · rw [if_pos hempty, hempty]
    rfl
  · rw [if_neg hempty]
    dsimp only
    cases meminfoField (Text.trim (meminfoText entries)) "MemTotal".toList with
    | none => rfl
    | some total =>
      cases meminfoField (Text.trim (meminfoText entries)) "MemAvailable".toList with
      | none => rfl
      | some available =>
        dsimp only [Option.bind_some]
        split
        · rfl
        · rfl

/-- Three quarters used; what is merely free is not what is available. -/
theorem used_memory_reads_back :
    let entries : List MeminfoEntry :=
      [⟨"MemTotal".toList, 6, 4096, true, rfl⟩, ⟨"MemFree".toList, 8, 512, true, rfl⟩,
        ⟨"MemAvailable".toList, 2, 1024, true, rfl⟩]
    let sensors : SystemSensors := { procRoot := "/proc", cpuTemperature := none, previous := none }
    (sensors.memory fun _ _ => .ok (.text (meminfoText entries))).copied =
      some { usedBytes := 3 * 2 ^ 20, totalBytes := 4 * 2 ^ 20 } := by
  intro entries sensors
  rw [meminfo_reads_back sensors _ entries rfl]
  rfl

end Kori
