import Kori.Hardware.Usb.Probe

/-! # Which sensors belong to the Kraken, and what does not depend on the order of a listing -/

namespace Kori

namespace SysfsTree

variable (tree : SysfsTree)

/-- Of the directories a path is in, the nearest one that publishes both identifiers. -/
structure Owns (start above : SysPath) (id : DeviceId) : Prop where
  holds : above <:+ start
  published : tree.identifiers above = some id
  nearest : ∀ nearer, nearer <:+ start → above <:+ nearer → nearer ≠ above → tree.identifiers nearer = none

variable {tree} {start above : SysPath} {id : DeviceId}

theorem Owns.self (h : tree.identifiers start = some id) : tree.Owns start start id where
  holds := List.suffix_rfl
  published := h
  nearest := fun _ hstart habove hne => absurd (hstart.eq_of_length (Nat.le_antisymm hstart.length_le habove.length_le)) hne

theorem Owns.cons {name : String} (h : tree.Owns start above id) (hname : tree.identifiers (name :: start) = none) :
    tree.Owns (name :: start) above id where
  holds := h.holds.trans (List.suffix_cons ..)
  published := h.published
  nearest := fun nearer hstart habove hne => by
    rcases List.suffix_cons_iff.mp hstart with rfl | hstart
    · exact hname
    · exact h.nearest nearer hstart habove hne

theorem Owns.unique {other : SysPath} {otherId : DeviceId} (h : tree.Owns start above id)
    (hother : tree.Owns start other otherId) : above = other ∧ id = otherId := by
  have hsame : above = other := by
    by_contra hne
    rcases List.suffix_or_suffix_of_suffix h.holds hother.holds with hle | hle
    · have hnone := h.nearest other hother.holds hle (Ne.symm hne)
      rw [hother.published] at hnone
      cases hnone
    · have hnone := hother.nearest above h.holds hle hne
      rw [h.published] at hnone
      cases hnone
  subst hsame
  have hids := h.published.symm.trans hother.published
  exact ⟨rfl, Option.some.inj hids⟩

theorem ownerAbove_eq_some : tree.ownerAbove start = some (id, above) ↔ tree.Owns start above id ∧ above ≠ [] := by
  induction start with
  | nil =>
    constructor
    · intro h
      cases h
    · rintro ⟨h, hne⟩
      exact absurd (List.suffix_nil.mp h.holds) hne
  | cons name start ih =>
    unfold ownerAbove
    cases hids : tree.identifiers (name :: start) with
    | some found =>
      have hself := Owns.self hids
      constructor
      · intro h
        cases h
        exact ⟨hself, List.cons_ne_nil _ _⟩
      · rintro ⟨h, -⟩
        obtain ⟨rfl, rfl⟩ := hself.unique h
        rfl
    | none =>
      dsimp only
      rw [ih]
      constructor
      · rintro ⟨h, hne⟩
        exact ⟨h.cons hids, hne⟩
      · rintro ⟨h, hne⟩
        refine ⟨⟨?_, h.published, fun nearer hstart => h.nearest nearer (hstart.trans (List.suffix_cons ..))⟩, hne⟩
        rcases List.suffix_cons_iff.mp h.holds with rfl | hsuffix
        · rw [h.published] at hids
          cases hids
        · exact hsuffix

theorem owningDevice_eq_some {path : SysPath} : tree.owningDevice path = some (id, above) ↔
    ∃ start, tree.canonical path = some start ∧ tree.Owns start above id ∧ (above = [] → start = []) := by
  unfold owningDevice
  cases tree.canonical path with
  | none => simp
  | some start =>
    simp only [Option.bind_eq_bind, Option.bind_some, Option.some.injEq, exists_eq_left']
    by_cases hroot : start = []
    · subst hroot
      rw [if_pos rfl]
      constructor
      · intro h
        obtain ⟨found, hids, hfound⟩ := Option.map_eq_some_iff.mp h
        cases hfound
        exact ⟨Owns.self hids, fun _ => rfl⟩
      · rintro ⟨h, -⟩
        have hnil := List.suffix_nil.mp h.holds
        subst hnil
        rw [h.published]
        rfl
    · rw [if_neg hroot, ownerAbove_eq_some]
      constructor
      · rintro ⟨h, hne⟩
        exact ⟨h, fun hnil => absurd hnil hne⟩
      · rintro ⟨h, hnil⟩
        exact ⟨h, fun habove => hroot (hnil habove)⟩

/-! ## The sensors of the Kraken -/

variable (tree)

/-- An entry of the sensors' class is the driver's, and the nearest device it hangs off is the Kraken. -/
structure IsKraken (entry : SysPath) : Prop where
  driver : tree.readAttribute entry "name" = some KRAKEN_DRIVER.toList
  owner : ∃ start above, tree.canonical ("device" :: entry) = some start ∧ tree.Owns start above KRAKEN_BASE ∧
    (above = [] → start = [])

theorem hwmonEntry_name (entry : SysPath) :
    (tree.hwmonEntry entry).name = some KRAKEN_DRIVER ↔ tree.readAttribute entry "name" = some KRAKEN_DRIVER.toList := by
  unfold hwmonEntry
  dsimp only
  rw [Option.map_eq_some_iff]
  constructor
  · rintro ⟨text, hread, htext⟩
    rw [hread, ← htext, String.toList_ofList]
  · intro hread
    exact ⟨_, hread, String.ofList_toList⟩

theorem hwmonEntry_owner (entry : SysPath) : (tree.hwmonEntry entry).owner = some KRAKEN_BASE ↔
    ∃ start above, tree.canonical ("device" :: entry) = some start ∧ tree.Owns start above KRAKEN_BASE ∧
      (above = [] → start = []) := by
  unfold hwmonEntry
  dsimp only
  rw [Option.map_eq_some_iff]
  constructor
  · rintro ⟨⟨id, above⟩, howner, hid⟩
    dsimp only at hid
    subst hid
    obtain ⟨start, hstart, howns⟩ := owningDevice_eq_some.mp howner
    exact ⟨start, above, hstart, howns⟩
  · rintro ⟨start, above, hstart, howns⟩
    exact ⟨(KRAKEN_BASE, above), owningDevice_eq_some.mpr ⟨start, hstart, howns⟩, rfl⟩

open Classical in
/-- Every write of a duty, a mode or a curve goes to the first entry of the sensors' class, by name, that is the
driver's and hangs off the Kraken. -/
theorem locate_hangs_off_kraken : HwmonInstance.locate tree.sysfs =
    ((tree.sortedEntries tree.hwmon).find? fun entry => tree.IsKraken entry).map fun entry =>
      { device := KRAKEN_BASE, driver := KRAKEN_DRIVER, path := (tree.hwmonEntry entry).path,
        files := (tree.hwmonEntry entry).files } := by
  unfold HwmonInstance.locate HwmonInstance.discover sysfs
  dsimp only
  induction tree.sortedEntries tree.hwmon with
  | nil => rfl
  | cons entry rest ih =>
    by_cases h : tree.IsKraken entry
    · have hname := (tree.hwmonEntry_name entry).mpr h.driver
      have howner := (tree.hwmonEntry_owner entry).mpr h.owner
      rw [List.find?_cons_of_pos (by simpa using h), List.map_cons, List.filterMap_cons]
      simp [hname, howner]
    · have hother : ¬((tree.hwmonEntry entry).owner = some KRAKEN_BASE ∧
          (tree.hwmonEntry entry).name = some KRAKEN_DRIVER) := fun ⟨howner, hname⟩ =>
        h ⟨(tree.hwmonEntry_name entry).mp hname, (tree.hwmonEntry_owner entry).mp howner⟩
      rw [List.find?_cons_of_neg (by simpa using h), ← ih, List.map_cons, List.filterMap_cons]
      cases hname : (tree.hwmonEntry entry).name with
      | none => rfl
      | some driver =>
        cases howner : (tree.hwmonEntry entry).owner with
        | none => rfl
        | some device =>
          have hskip : ¬(device = KRAKEN_BASE ∧ driver = KRAKEN_DRIVER) := by
            rintro ⟨rfl, rfl⟩
            exact hother ⟨howner, hname⟩
          exact List.find?_cons_of_neg (by simpa using hskip)

/-! ## The order of a listing -/

/-- The same tree, its directories listed in another order. -/
def relisted (names : SysPath → List String) : SysfsTree := { tree with names }

variable {tree} {names : SysPath → List String}

theorem sortedEntries_relisted (h : ∀ path, (names path).Perm (tree.names path)) :
    (tree.relisted names).sortedEntries = tree.sortedEntries := by
  funext path
  have htrans (a b c : String) (hab : decide (a ≤ b) = true) (hbc : decide (b ≤ c) = true) : decide (a ≤ c) = true := by
    simp only [decide_eq_true_eq] at *
    exact le_trans hab hbc
  have htotal (a b : String) : (decide (a ≤ b) || decide (b ≤ a)) = true := by
    simp only [Bool.or_eq_true, decide_eq_true_eq]
    exact le_total a b
  have hsame : (names path).mergeSort (fun a b => a ≤ b) = (tree.names path).mergeSort fun a b => a ≤ b := by
    refine List.Perm.eq_of_pairwise ?_ (List.pairwise_mergeSort htrans htotal _) (List.pairwise_mergeSort htrans htotal _)
      (((names path).mergeSort_perm _).trans ((h path).trans ((tree.names path).mergeSort_perm _).symm))
    intro a b _ _ hab hba
    simp only [decide_eq_true_eq] at *
    exact le_antisymm hab hba
  exact congrArg (List.map fun name => name :: path) hsame

theorem owningDevice_relisted : (tree.relisted names).owningDevice = tree.owningDevice := by
  have habove : (tree.relisted names).ownerAbove = tree.ownerAbove := by
    funext path
    induction path with
    | nil => rfl
    | cons name above ih =>
      unfold ownerAbove
      rw [ih]
      rfl
  funext path
  unfold owningDevice
  rw [habove]
  rfl

variable (h : ∀ path, (names path).Perm (tree.names path))
include h

theorem interfaceDirs_relisted : (tree.relisted names).interfaceDirs = tree.interfaceDirs := by
  funext device
  unfold interfaceDirs
  rw [sortedEntries_relisted h]

theorem interfaces_relisted : (tree.relisted names).interfaces = tree.interfaces := by
  have hinterface : (tree.relisted names).interface = tree.interface := by
    funext entry
    unfold interface endpoints
    rw [sortedEntries_relisted h]
    rfl
  funext device
  unfold interfaces
  rw [interfaceDirs_relisted h, hinterface]

theorem hidrawNode_relisted : (tree.relisted names).hidrawNode = tree.hidrawNode := by
  funext device
  unfold hidrawNode
  rw [interfaceDirs_relisted h, sortedEntries_relisted h]

theorem enumerate_relisted : (tree.relisted names).enumerate = tree.enumerate := by
  unfold enumerate
  rw [sortedEntries_relisted h]
  rfl

theorem hwmonEntry_relisted : (tree.relisted names).hwmonEntry = tree.hwmonEntry := by
  funext entry
  unfold hwmonEntry
  rw [owningDevice_relisted, sortedEntries_relisted h]
  rfl

theorem sysfs_relisted : (tree.relisted names).sysfs = tree.sysfs := by
  unfold sysfs
  rw [enumerate_relisted h, hwmonEntry_relisted h, sortedEntries_relisted h]
  rfl

theorem probe_relisted : (tree.relisted names).probe = tree.probe := by
  have hinstance : (tree.relisted names).instanceAt = tree.instanceAt := by
    funext entry
    unfold instanceAt
    rw [hwmonEntry_relisted h]
    rfl
  have hrecord : (tree.relisted names).deviceRecord = tree.deviceRecord := by
    funext device
    unfold deviceRecord
    rw [hinstance, interfaces_relisted h, sortedEntries_relisted h]
    rfl
  funext context
  unfold probe
  rw [enumerate_relisted h, hrecord]

end SysfsTree

/-- In whatever order the kernel lists its directories, the probe writes the same record, controls read the same sensors
and the start opens and claims the same nodes. -/
theorem listing_order_hidden (tree : SysfsTree) (names : SysPath → List String)
    (h : ∀ path, (names path).Perm (tree.names path)) (usbfs : Usbfs)
    (opens : String → Except String (List Report × Hid.HidLine)) :
    (tree.relisted names).probe = tree.probe ∧ (tree.relisted names).sysfs = tree.sysfs ∧
      (tree.relisted names).nodes usbfs opens = tree.nodes usbfs opens := by
  refine ⟨SysfsTree.probe_relisted h, SysfsTree.sysfs_relisted h, ?_⟩
  have hpath : (tree.relisted names).devicePath = tree.devicePath := by
    funext id
    unfold SysfsTree.devicePath
    rw [SysfsTree.enumerate_relisted h]
  have hclaim : usbfs.claim (tree.relisted names) = usbfs.claim tree := by
    funext device n
    unfold Usbfs.claim SysfsTree.interfaceDriver
    rw [SysfsTree.interfaceDirs_relisted h]
    rfl
  unfold SysfsTree.nodes
  rw [hpath, hclaim, SysfsTree.hidrawNode_relisted h]

/-- A directory listed the other way round hides nothing and adds nothing. -/
theorem swapped_listing_hidden :
    let files : Files := fun directory name =>
      if directory = "/sys/bus/usb/devices/1-4" ∧ name = "idVendor" then .ok (.text "1e71\n".toList)
      else if directory = "/sys/bus/usb/devices/1-4" ∧ name = "idProduct" then .ok (.text "300e\n".toList)
      else .error ⟨.notFound, "No such file or directory"⟩
    let tree : SysfsTree :=
      { root := ["sys"], files, names := fun _ => ["usb1", "1-4"], link := fun _ => none, canonical := some,
        directory := fun _ => false, isFile := fun _ => false, readable := fun _ => false, writable := fun _ => false }
    (tree.relisted fun _ => ["1-4", "usb1"]).probe = tree.probe := by
  intro files tree
  have usbfs : Usbfs := { root := "/dev/bus/usb", opened := fun _ => .ok (), claimed := fun _ _ => .ok () }
  exact (listing_order_hidden tree (fun _ => ["1-4", "usb1"]) (fun _ => .swap ..) usbfs fun _ => .error "").1

end Kori
