import Kori.Daemon.Ownership
import Mathlib.Data.List.Pairwise

/-! # Which holders a start sees -/

namespace Kori

/-! ## What the scan reports of one process -/

/-- An open descriptor of the process is on a node of the device. -/
def ProcEntry.Holds (nodes : List (String × DeviceId)) (entry : ProcEntry) (device : DeviceId) : Prop :=
  ∃ descriptors target, entry.descriptors = some descriptors ∧ some target ∈ descriptors ∧
    deviceOf nodes target = some device

/-- A conflict names the process and the device. -/
def Reports (conflicts : List OwnershipConflict) (pid : UInt32) (comm : Option String) (device : DeviceId) : Prop :=
  ∃ conflict ∈ conflicts, conflict.device = some device ∧ conflict.detail = heldDetail pid comm

def entriesOf (proc : Option ProcessTable) : List ProcEntry := (proc.map ProcessTable.entries).getD []

variable {ownPid : UInt32} {proc : Option ProcessTable} {nodes : List (String × DeviceId)}

theorem holder_eq_some {entry : ProcEntry} {conflict : OwnershipConflict}
    (h : holder ownPid nodes entry = some conflict) :
    ∃ pid device, entry.pid = some pid ∧ pid ≠ ownPid ∧ conflict.device = some device ∧
      conflict.detail = heldDetail pid entry.comm ∧ entry.Holds nodes device := by
  obtain ⟨pid, hpid, h⟩ := Option.bind_eq_some_iff.mp h
  split at h
  · cases h
  · rename_i hforeign
    obtain ⟨descriptors, hdescriptors, h⟩ := Option.bind_eq_some_iff.mp h
    obtain ⟨descriptor, hmem, h⟩ := List.exists_of_findSome?_eq_some h
    obtain ⟨target, htarget, hfound⟩ := Option.bind_eq_some_iff.mp h
    obtain ⟨device, hdevice, hconflict⟩ := Option.bind_eq_some_iff.mp hfound
    rw [← Option.some.inj hconflict]
    exact ⟨pid, device, hpid, hforeign, rfl, rfl, descriptors, target, hdescriptors, htarget ▸ hmem, hdevice⟩

theorem holder_isSome {entry : ProcEntry} {pid : UInt32} {device : DeviceId} (hpid : entry.pid = some pid)
    (hforeign : pid ≠ ownPid) (h : entry.Holds nodes device) : (holder ownPid nodes entry).isSome = true := by
  obtain ⟨descriptors, target, hdescriptors, hmem, hdevice⟩ := h
  unfold holder
  rw [hpid, Option.bind_eq_bind, Option.bind_some, if_neg hforeign, hdescriptors, Option.bind_eq_bind,
    Option.bind_some, List.findSome?_isSome_iff]
  exact ⟨some target, hmem, by simp [hdevice]⟩

/-! ## The text of a conflict names its process -/

theorem takeWhile_isDigit_toDigits (n : Nat) (rest : List Char) :
    (Nat.toDigits 10 n ++ ' ' :: rest).takeWhile Char.isDigit = Nat.toDigits 10 n := by
  rw [List.takeWhile_append_of_pos fun c hc => Nat.isDigit_of_mem_toDigits (by decide) (by decide) hc,
    List.takeWhile_cons_of_neg (by decide), List.append_nil]

theorem toDigits_inj {m n : Nat} (h : Nat.toDigits 10 m = Nat.toDigits 10 n) : m = n := by
  rw [← Nat.ofDigitChars_ten_toDigits (n := m), h, Nat.ofDigitChars_ten_toDigits]

theorem toList_heldDetail (pid : UInt32) (comm : Option String) :
    ∃ rest, (heldDetail pid comm).toList = "Process ".toList ++ (Nat.toDigits 10 pid.toNat ++ ' ' :: rest) := by
  refine ⟨'(' :: (((comm.map trimmed).getD "unknown").toList ++ ") already holds this device node.".toList), ?_⟩
  have hopen : " (".toList = [' ', '('] := rfl
  unfold heldDetail
  simp only [toString, String.toList_append, Nat.toList_repr, hopen, List.append_assoc, List.cons_append,
    List.nil_append]

theorem heldDetail_pid {pid other : UInt32} {comm comm' : Option String}
    (h : heldDetail pid comm = heldDetail other comm') : pid = other := by
  obtain ⟨rest, hrest⟩ := toList_heldDetail pid comm
  obtain ⟨rest', hrest'⟩ := toList_heldDetail other comm'
  rw [h, hrest'] at hrest
  have hdigits := congrArg (List.takeWhile Char.isDigit) (List.append_cancel_left hrest)
  rw [takeWhile_isDigit_toDigits, takeWhile_isDigit_toDigits] at hdigits
  exact UInt32.toNat_inj.mp (toDigits_inj hdigits).symm

/-! ## Every holder of every device -/

/-- A process of the table that is not this one. -/
def Foreign (ownPid : UInt32) (proc : Option ProcessTable) (entry : ProcEntry) : Prop :=
  entry ∈ entriesOf proc ∧ ∃ pid, entry.pid = some pid ∧ pid ≠ ownPid

theorem observedHolders_eq (ownPid : UInt32) (proc : Option ProcessTable) (nodes : List (String × DeviceId)) :
    observedHolders ownPid proc nodes = (entriesOf proc).filterMap (holder ownPid nodes) := by
  unfold observedHolders entriesOf
  cases proc with
  | none => split <;> rfl
  | some table =>
    split
    · rename_i hempty
      refine (List.filterMap_eq_nil_iff.mpr fun entry _ => ?_).symm
      by_contra hsome
      obtain ⟨conflict, hconflict⟩ := Option.ne_none_iff_exists'.mp hsome
      obtain ⟨-, device, -, -, -, -, -, target, -, -, hdevice⟩ := holder_eq_some hconflict
      rw [List.isEmpty_iff.mp hempty] at hdevice
      cases hdevice
    · rfl

theorem entry_of_pid {entry other : ProcEntry} {pid : UInt32} (hmem : entry ∈ entriesOf proc)
    (hother : other ∈ entriesOf proc) (hpid : entry.pid = some pid) (hsame : other.pid = some pid) :
    entry = other := by
  cases proc with
  | none => cases hmem
  | some table =>
    have : Std.Symm fun entry other : ProcEntry => ∀ pid, entry.pid = some pid → other.pid ≠ some pid :=
      ⟨fun _ _ h pid hpid hsame => h pid hsame hpid⟩
    by_contra hne
    exact table.distinct.forall hmem hother hne pid hpid hsame

theorem reports_iff {entry : ProcEntry} {pid : UInt32} (hmem : entry ∈ entriesOf proc)
    (hpid : entry.pid = some pid) (device : DeviceId) :
    Reports (observedHolders ownPid proc nodes) pid entry.comm device ↔
      ∃ conflict, holder ownPid nodes entry = some conflict ∧ conflict.device = some device := by
  rw [observedHolders_eq]
  constructor
  · rintro ⟨conflict, hconflict, hdevice, hdetail⟩
    obtain ⟨other, hother, hholder⟩ := List.mem_filterMap.mp hconflict
    obtain ⟨pid', -, hpid', -, -, hdetail', -⟩ := holder_eq_some hholder
    rw [hdetail] at hdetail'
    rw [← heldDetail_pid hdetail'] at hpid'
    rw [entry_of_pid hmem hother hpid hpid']
    exact ⟨conflict, hholder, hdevice⟩
  · rintro ⟨conflict, hholder, hdevice⟩
    obtain ⟨pid', -, hpid', -, -, hdetail, -⟩ := holder_eq_some hholder
    cases hpid.symm.trans hpid'
    exact ⟨conflict, List.mem_filterMap.mpr ⟨entry, hmem, hholder⟩, hdevice, hdetail⟩

/-- No supported device of this id had its lock refused. -/
def LocksTaken (capabilities : CapabilityRecord) (sites : Nat → Site) (id : DeviceId) : Prop :=
  ∀ device i, (device, i) ∈ capabilities.supported.zipIdx → device.id = id → (sites i).attempt = .taken

/-- Each process is reported for exactly the devices it holds. -/
def EveryReported (ownPid : UInt32) (proc : Option ProcessTable) (nodes : List (String × DeviceId)) : Prop :=
  ∀ entry ∈ entriesOf proc, ∀ pid, entry.pid = some pid → ∀ device,
    (Reports (observedHolders ownPid proc nodes) pid entry.comm device ↔ pid ≠ ownPid ∧ entry.Holds nodes device)

/-- No other process holds nodes of two devices. -/
def OneDeviceEach (ownPid : UInt32) (proc : Option ProcessTable) (nodes : List (String × DeviceId)) : Prop :=
  ∀ entry, Foreign ownPid proc entry → ∀ device other, entry.Holds nodes device → entry.Holds nodes other → device = other

/-- A start reports every holder, and then calls a device owned exactly when no other process holds it. -/
structure EveryHolder (daemon : Daemon) (runtimeDir : String) (ownPid : UInt32) (proc : Option ProcessTable)
    (capabilities : CapabilityRecord) (sites : Nat → Site) : Prop where
  scan : EveryReported ownPid proc (deviceNodes capabilities sites)
  owned : ∀ device, (({ daemon with conflicts := (takeOwnership runtimeDir ownPid proc capabilities sites).2.1 } :
    Daemon).deviceStatus device).owned = true ↔
      ∀ entry, Foreign ownPid proc entry → ¬ entry.Holds (deviceNodes capabilities sites) device.id

theorem acquire_device {runtimeDir : String} {device : DeviceId} {attempt : LockAttempt}
    {conflict : OwnershipConflict} (h : acquire runtimeDir device attempt = .error conflict) :
    conflict.device = some device ∧ attempt ≠ .taken := by
  cases attempt with
  | taken => cases h
  | unopened error => exact ⟨by cases h; rfl, fun hnot => nomatch hnot⟩
  | refused error content => exact ⟨by cases h; rfl, fun hnot => nomatch hnot⟩

theorem acquire_error {runtimeDir : String} {device : DeviceId} {attempt : LockAttempt}
    (h : attempt ≠ .taken) : ∃ conflict, acquire runtimeDir device attempt = .error conflict := by
  cases attempt with
  | taken => exact absurd rfl h
  | unopened error => exact ⟨_, rfl⟩
  | refused error content => exact ⟨_, rfl⟩

theorem locksTaken_iff {runtimeDir : String} {capabilities : CapabilityRecord} {sites : Nat → Site}
    {refused : List OwnershipConflict}
    (hrefused : refused = (attempts runtimeDir capabilities sites).filterMap fun (_, attempt) =>
      match attempt with
      | .ok _ => none
      | .error conflict => some conflict) (id : DeviceId) :
    (∀ conflict ∈ refused, conflict.device ≠ some id) ↔ LocksTaken capabilities sites id := by
  have hmem : ∀ conflict, conflict ∈ refused ↔ ∃ device i, (device, i) ∈ capabilities.supported.zipIdx ∧
      acquire runtimeDir device.id (sites i).attempt = .error conflict := by
    intro conflict
    rw [hrefused, List.mem_filterMap]
    constructor
    · rintro ⟨⟨id, attempt⟩, hattempt, hconflict⟩
      obtain ⟨⟨device, i⟩, hdevice, heq⟩ := List.mem_map.mp hattempt
      obtain ⟨rfl, rfl⟩ := Prod.mk.inj heq
      refine ⟨device, i, hdevice, ?_⟩
      cases htried : acquire runtimeDir device.id (sites i).attempt with
      | ok path =>
        rw [htried] at hconflict
        cases hconflict
      | error other =>
        rw [htried] at hconflict
        rw [Option.some.inj hconflict]
    · rintro ⟨device, i, hdevice, heq⟩
      refine ⟨(device.id, acquire runtimeDir device.id (sites i).attempt),
        List.mem_map.mpr ⟨(device, i), hdevice, rfl⟩, ?_⟩
      rw [heq]
  constructor
  · intro h device i hdevice hid
    by_contra htaken
    obtain ⟨conflict, hconflict⟩ : ∃ conflict, acquire runtimeDir device.id (sites i).attempt = .error conflict :=
      acquire_error htaken
    exact h conflict ((hmem conflict).mpr ⟨device, i, hdevice, hconflict⟩) (hid ▸ (acquire_device hconflict).1)
  · intro h conflict hconflict hdevice
    obtain ⟨device, i, hsupported, heq⟩ := (hmem conflict).mp hconflict
    obtain ⟨hown, htaken⟩ := acquire_device heq
    exact htaken (h device i hsupported (Option.some.inj (hown.symm.trans hdevice)))

theorem holder_of_observed {conflict : OwnershipConflict} {id : DeviceId}
    (h : conflict ∈ observedHolders ownPid proc nodes) (hdevice : conflict.device = some id) :
    ∃ entry, Foreign ownPid proc entry ∧ entry.Holds nodes id := by
  rw [observedHolders_eq] at h
  obtain ⟨entry, hentry, hholder⟩ := List.mem_filterMap.mp h
  obtain ⟨pid, device, hpid, hforeign, hfound, -, hholds⟩ := holder_eq_some hholder
  cases hfound.symm.trans hdevice
  exact ⟨entry, ⟨hentry, pid, hpid, hforeign⟩, hholds⟩

theorem everyReported_iff : EveryReported ownPid proc nodes ↔ OneDeviceEach ownPid proc nodes := by
  constructor
  · rintro h entry ⟨hentry, pid, hpid, hforeign⟩ device other hdevice hother
    obtain ⟨conflict, hconflict, hfor⟩ := (reports_iff hentry hpid device).mp
      ((h entry hentry pid hpid device).mpr ⟨hforeign, hdevice⟩)
    obtain ⟨conflict', hconflict', hfor'⟩ := (reports_iff hentry hpid other).mp
      ((h entry hentry pid hpid other).mpr ⟨hforeign, hother⟩)
    cases hconflict.symm.trans hconflict'
    exact Option.some.inj (hfor.symm.trans hfor')
  · intro hone entry hentry pid hpid device
    rw [reports_iff hentry hpid]
    constructor
    · rintro ⟨conflict, hconflict, hdevice⟩
      obtain ⟨pid', found, hpid', hforeign, hfound, -, hholds⟩ := holder_eq_some hconflict
      cases hpid.symm.trans hpid'
      cases hfound.symm.trans hdevice
      exact ⟨hforeign, hholds⟩
    · rintro ⟨hforeign, hholds⟩
      obtain ⟨conflict, hconflict⟩ := Option.isSome_iff_exists.mp (holder_isSome hpid hforeign hholds)
      obtain ⟨-, found, -, -, hfound, -, hheld⟩ := holder_eq_some hconflict
      exact ⟨conflict, hconflict, hone entry ⟨hentry, pid, hpid, hforeign⟩ found device hheld hholds ▸ hfound⟩

theorem owned_iff (daemon : Daemon) (runtimeDir : String) (capabilities : CapabilityRecord) (sites : Nat → Site)
    (hscan : EveryReported ownPid proc (deviceNodes capabilities sites)) (device : DeviceRecord) :
    (({ daemon with conflicts := (takeOwnership runtimeDir ownPid proc capabilities sites).2.1 } :
      Daemon).deviceStatus device).owned = true ↔ LocksTaken capabilities sites device.id ∧
        ∀ entry, Foreign ownPid proc entry → ¬ entry.Holds (deviceNodes capabilities sites) device.id := by
  have howned : (({ daemon with conflicts := (takeOwnership runtimeDir ownPid proc capabilities sites).2.1 } :
      Daemon).deviceStatus device).owned = true ↔
        ∀ conflict ∈ (takeOwnership runtimeDir ownPid proc capabilities sites).2.1, conflict.device ≠ some device.id := by
    simp [Daemon.deviceStatus]
  rw [howned, ← locksTaken_iff rfl]
  constructor
  · intro h
    refine ⟨fun conflict hconflict => h conflict (List.mem_append_left _ hconflict), ?_⟩
    rintro entry ⟨hentry, pid, hpid, hforeign⟩ hholds
    obtain ⟨conflict, hconflict, hdevice, -⟩ := (hscan entry hentry pid hpid device.id).mpr ⟨hforeign, hholds⟩
    exact h conflict (List.mem_append_right _ hconflict) hdevice
  · rintro ⟨hlocks, hnone⟩ conflict hconflict hdevice
    rcases List.mem_append.mp hconflict with hrefused | hobserved
    · exact hlocks conflict hrefused hdevice
    · obtain ⟨entry, hforeign, hholds⟩ := holder_of_observed hobserved hdevice
      exact hnone entry hforeign hholds

/-- Every holder of every device is reported exactly when no other process holds two devices, and a start then
calls exactly the devices owned that no other process holds when each lock was taken, or else somebody is
seen to hold its device. -/
theorem everyHolder_iff_one_device_each (ownPid : UInt32) (proc : Option ProcessTable) :
    (∀ nodes, EveryReported ownPid proc nodes ↔ OneDeviceEach ownPid proc nodes) ∧
    ∀ (daemon : Daemon) (runtimeDir : String) (capabilities : CapabilityRecord) (sites : Nat → Site),
      EveryHolder daemon runtimeDir ownPid proc capabilities sites ↔
        OneDeviceEach ownPid proc (deviceNodes capabilities sites) ∧
        ∀ device i, (device, i) ∈ capabilities.supported.zipIdx → (sites i).attempt = .taken ∨
          ∃ entry, Foreign ownPid proc entry ∧ entry.Holds (deviceNodes capabilities sites) device.id := by
  refine ⟨fun nodes => everyReported_iff, fun daemon runtimeDir capabilities sites => ?_⟩
  constructor
  · rintro ⟨hscan, howned⟩
    refine ⟨everyReported_iff.mp hscan, fun device i hdevice => or_iff_not_imp_right.mpr fun hnone => ?_⟩
    have hfree : ∀ entry, Foreign ownPid proc entry → ¬ entry.Holds (deviceNodes capabilities sites) device.id :=
      fun entry hforeign hholds => hnone ⟨entry, hforeign, hholds⟩
    exact ((owned_iff daemon runtimeDir capabilities sites hscan device).mp ((howned device).mpr hfree)).1 device i
      hdevice rfl
  · rintro ⟨hone, htaken⟩
    have hscan := everyReported_iff.mpr hone
    refine ⟨hscan, fun device => (owned_iff daemon runtimeDir capabilities sites hscan device).trans ?_⟩
    refine and_iff_right_of_imp fun hfree supported i hsupported hid => ?_
    refine (htaken supported i hsupported).resolve_right ?_
    rintro ⟨entry, hforeign, hholds⟩
    exact hfree entry hforeign (hid ▸ hholds)

/-- A process with a descriptor on a node of each of the two devices. -/
def benchHolder : ProcEntry :=
  { pid := some 700, comm := some "openrgb", descriptors := some [some "/dev/hidraw0", some "/dev/hidraw1"] }

/-- The controller's holder goes unreported, because it also holds the cooler. -/
theorem second_device_of_holder_unreported :
    ¬ EveryReported 100 (some ⟨[benchHolder], List.pairwise_singleton _ _⟩)
      [("/dev/hidraw0", KRAKEN_BASE), ("/dev/hidraw1", RGB_CONTROLLER)] := by
  intro h
  have hholds : benchHolder.Holds [("/dev/hidraw0", KRAKEN_BASE), ("/dev/hidraw1", RGB_CONTROLLER)] RGB_CONTROLLER :=
    ⟨_, "/dev/hidraw1", rfl, by decide, by decide⟩
  obtain ⟨conflict, hconflict, hdevice, -⟩ :=
    (h benchHolder (List.mem_singleton_self _) 700 rfl RGB_CONTROLLER).mpr ⟨by decide, hholds⟩
  rw [observedHolders_eq] at hconflict
  obtain ⟨entry, hentry, hholder⟩ := List.mem_filterMap.mp hconflict
  cases List.mem_singleton.mp hentry
  cases hholder
  exact absurd hdevice (by decide)

end Kori
