import Kori.Daemon.Ownership.Holders
import Kori.Daemon.State.Access
import Kori.Faulty.Sorting
import Kori.Faulty.Walk
import Kori.Hardware.Usb.Claim
import Mathlib.Data.List.Infix

/-! # The nodes a start looks for holders of, and the node it opens -/

open Faulty Relation

namespace Kori

namespace SysfsTree

variable (tree : SysfsTree)

/-- Only interface and class directories are gone into. -/
def goesInto (name : String) : Bool := name.toList.contains ':' || name == "hwmon"

/-- The entries of a directory that are directories themselves. -/
def directoriesIn (path : SysPath) : List String := (tree.names path).filter fun name => tree.directory (name :: path)

/-- The walk through the directories of a device to the nodes it has. -/
def hidWalk : Walk SysPath String where
  found path := ((tree.directoriesIn path).filter fun name => name == "hidraw").flatMap fun name =>
    ((tree.names (name :: path)).filter fun node => "hidraw".isPrefixOf node).map fun node => "/dev/" ++ node
  next path := ((tree.directoriesIn path).filter fun name => name != "hidraw" && goesInto name).map fun name =>
    name :: path

/-- The HID device nodes that belong to a directory, by name. -/
def hidNodes (fuel : Nat) (device : SysPath) : Option (List String) :=
  (tree.hidWalk.run fuel [device] []).map fun nodes => (nodes.mergeSort fun a b => a ≤ b).destutter (· ≠ ·)

/-- A node that the walk from a device comes to. -/
def HidNode (device : SysPath) (node : String) : Prop :=
  ∃ place, ReflTransGen tree.hidWalk.Leads device place ∧ node ∈ tree.hidWalk.found place

/-- The supported devices of the record, as they were found. -/
def supported : List DiscoveredDevice := tree.enumerate.filter fun found => isAllowlisted found.id

/-- What a start meets at each device: what trying its lock comes to, and the nodes it has. -/
def sites (fuel : Nat) (attempts : Nat → LockAttempt) (i : Nat) : Site :=
  { attempt := attempts i
    hidNodes := (tree.supported[i]?.bind fun found => tree.hidNodes fuel found.path).getD [] }

/-- What a start finds in the tree: the record with the answers of the devices, and who is in the way. -/
def found (usbfs : Usbfs) (opens : String → Except String (List Report × Hid.HidLine)) (rgb : RgbBackend)
    (lcd : LcdBackend) (runtimeDir : String) (ownPid : UInt32) (proc : Option ProcessTable)
    (attempts : Nat → LockAttempt) (fuel : Nat) (socketPath : String) : Found :=
  let record := (Startup.found (tree.nodes usbfs opens) tree.sysfs rgb lcd [] socketPath).capabilities
  let (_, conflicts, _) := takeOwnership runtimeDir ownPid proc record (tree.sites fuel attempts)
  Startup.found (tree.nodes usbfs opens) tree.sysfs rgb lcd conflicts socketPath

/-! ## The walk -/

variable {tree}

theorem hidNodes_spec {device : SysPath} (h : tree.hidWalk.Ends device) :
    ∃ enough, ∀ fuel, enough ≤ fuel → ∃ nodes, tree.hidNodes fuel device = some nodes ∧ nodes.Pairwise (· < ·) ∧
      ∀ node, node ∈ nodes ↔ tree.HidNode device node := by
  obtain ⟨enough, hrun⟩ := Walk.run_spec h
  refine ⟨enough, fun fuel hfuel => ?_⟩
  obtain ⟨nodes, hnodes, hmem⟩ := hrun fuel hfuel
  refine ⟨_, congrArg (Option.map _) hnodes, pairwise_destutter_mergeSort nodes, fun node => ?_⟩
  rw [mem_destutter_ne, List.mem_mergeSort]
  exact hmem node

theorem mem_sortedEntries {path entry : SysPath} :
    entry ∈ tree.sortedEntries path ↔ ∃ name ∈ tree.names path, name :: path = entry := by
  unfold sortedEntries
  simp

variable (tree) in
/-- How the kernel lays out what it knows of HID devices: under an interface of the device, in a directory whose name
has a colon in it, as the names of HID devices have. -/
structure HidLayout : Prop where
  listed : ∀ path name, tree.names (name :: path) ≠ [] → name ∈ tree.names path
  directory : ∀ device, ∀ dir ∈ tree.interfaceDirs device, ∀ entry ∈ tree.sortedEntries dir,
    tree.names ("hidraw" :: entry) ≠ [] →
      tree.directory dir = true ∧ tree.directory entry = true ∧ tree.directory ("hidraw" :: entry) = true
  colon : ∀ device, ∀ dir ∈ tree.interfaceDirs device, ∀ entry ∈ tree.sortedEntries dir,
    tree.names ("hidraw" :: entry) ≠ [] → ∀ name ∈ entry.head?, ':' ∈ name.toList

theorem leads_of_colon {path : SysPath} {name : String} (hlisted : name ∈ tree.names path)
    (hdirectory : tree.directory (name :: path) = true) (hcolon : ':' ∈ name.toList) :
    tree.hidWalk.Leads path (name :: path) := by
  refine List.mem_map.mpr ⟨name, List.mem_filter.mpr ⟨List.mem_filter.mpr ⟨hlisted, hdirectory⟩, ?_⟩, rfl⟩
  have hne : name ≠ "hidraw" := by
    rintro rfl
    exact absurd hcolon (by decide)
  rw [Bool.and_eq_true]
  exact ⟨bne_iff_ne.mpr hne, Bool.or_eq_true_iff.mpr (.inl (List.contains_iff_mem.mpr hcolon))⟩

theorem colon_of_interface {device dir : SysPath} (h : dir ∈ tree.interfaceDirs device) :
    ∃ name ∈ tree.names device, dir = name :: device ∧ ':' ∈ name.toList := by
  unfold interfaceDirs at h
  cases hname : device.head? with
  | none =>
    rw [hname] at h
    cases h
  | some own =>
    rw [hname] at h
    obtain ⟨hentry, hfound⟩ := List.mem_filter.mp h
    obtain ⟨name, hlisted, rfl⟩ := mem_sortedEntries.mp hentry
    refine ⟨name, hlisted, rfl, ?_⟩
    have hstarts : (own ++ ":").toList <+: name.toList := String.startsWith_string_iff.mp hfound
    exact hstarts.subset (by rw [String.toList_append]; exact List.mem_append_right _ (List.mem_singleton_self _))

theorem HidLayout.hidNode_of_hidrawNode (h : tree.HidLayout) {device : SysPath} {node : String}
    (hnode : tree.hidrawNode device = some node) : tree.HidNode device node := by
  obtain ⟨path, hpath, hfound⟩ := List.exists_of_findSome?_eq_some hnode
  obtain ⟨entry, hentry, hpath⟩ := List.mem_flatMap.mp hpath
  obtain ⟨dir, hdir, hentry⟩ := List.mem_flatMap.mp hentry
  obtain ⟨last, hlast, rfl⟩ := mem_sortedEntries.mp hpath
  obtain ⟨own, hlisted, rfl, hcolon⟩ := colon_of_interface hdir
  have hnonempty : tree.names ("hidraw" :: entry) ≠ [] := List.ne_nil_of_mem hlast
  obtain ⟨hinterface, hhid, hclass⟩ := h.directory device _ hdir entry hentry hnonempty
  obtain ⟨name, hname, rfl⟩ := mem_sortedEntries.mp hentry
  have hnamed : ':' ∈ name.toList := h.colon device _ hdir _ hentry hnonempty name rfl
  refine ⟨name :: own :: device, .tail (.single (leads_of_colon hlisted hinterface hcolon))
    (leads_of_colon hname hhid hnamed), List.mem_flatMap.mpr ⟨"hidraw", ?_, ?_⟩⟩
  · exact List.mem_filter.mpr ⟨List.mem_filter.mpr ⟨h.listed _ _ hnonempty, hclass⟩, rfl⟩
  · rw [List.head?_cons, Option.bind_some] at hfound
    split at hfound
    · rename_i hstarts
      cases hfound
      exact List.mem_map.mpr ⟨last, List.mem_filter.mpr ⟨hlast, hstarts⟩, rfl⟩
    · cases hfound

/-! ## The start -/

theorem hidraw_nodes {usbfs : Usbfs} {opens : String → Except String (List Report × Hid.HidLine)} {id : DeviceId}
    {node : Hid.Node} (h : (tree.nodes usbfs opens).hidraw id = some node) :
    ∃ found ∈ tree.supported, found.id = id ∧ tree.hidrawNode found.path = some node.source := by
  obtain ⟨path, hpath, h⟩ := Option.bind_eq_some_iff.mp h
  have hsource : tree.hidrawNode path = some node.source := by
    cases hfound : tree.hidrawNode path with
    | none =>
      rw [hfound] at h
      cases h
    | some source =>
      rw [hfound] at h
      cases h
      rfl
  unfold devicePath at hpath
  split at hpath
  · rename_i hallowed
    obtain ⟨found, hfound, rfl⟩ := Option.map_eq_some_iff.mp hpath
    have hid := List.find?_some hfound
    rw [decide_eq_true_eq] at hid
    refine ⟨found, List.mem_filter.mpr ⟨List.mem_of_find?_eq_some hfound, ?_⟩, hid, ?_⟩
    · rw [hid]
      exact hallowed
    · exact hsource
  · cases hpath

end SysfsTree

/-- A device of a record, and whether it is supported. -/
def DeviceRecord.listed (device : DeviceRecord) : DeviceId × SupportState := (device.id, device.support)

theorem map_updateDevice {α : Type} (f : DeviceRecord → α) (change : DeviceRecord → DeviceRecord)
    (h : ∀ device, f (change device) = f device) (id : DeviceId) (devices : List DeviceRecord) :
    (updateDevice id change devices).map f = devices.map f := by
  induction devices with
  | nil => rfl
  | cons device devices ih =>
    unfold updateDevice
    split
    · rw [List.map_cons, List.map_cons, h]
    · rw [List.map_cons, List.map_cons, ih]

namespace Startup

variable (nodes : Nodes) (root : Sysfs) (rgb : RgbBackend) (lcd : LcdBackend) (conflicts : List OwnershipConflict)
variable (socketPath : String)

theorem devices_found :
    (found nodes root rgb lcd conflicts socketPath).capabilities.devices.map DeviceRecord.listed =
      (probe root).devices.map DeviceRecord.listed := by
  obtain ⟨controller, hrgb, -⟩ := connectLighting_eq nodes rgb (probe root)
  obtain ⟨panel, hlcd, -⟩ := connectDisplay_eq nodes lcd (controller.elim (probe root) (probe root).attachRgbTopology)
  have hcapabilities : (found nodes root rgb lcd conflicts socketPath).capabilities =
      panel.elim (controller.elim (probe root) (probe root).attachRgbTopology)
        (controller.elim (probe root) (probe root).attachRgbTopology).attachLcdTopology := by
    unfold found
    rw [hrgb]
    dsimp only
    rw [hlcd]
  have hlighting : (controller.elim (probe root) (probe root).attachRgbTopology).devices.map DeviceRecord.listed =
      (probe root).devices.map DeviceRecord.listed := by
    cases controller with
    | none => rfl
    | some topology => exact map_updateDevice _ (·.withRgb topology) (fun _ => rfl) _ _
  rw [hcapabilities, ← hlighting]
  cases panel with
  | none => rfl
  | some topology => exact map_updateDevice _ (·.withLcd topology) (fun _ => rfl) _ _

theorem idle_found : (found nodes root rgb lcd conflicts socketPath).display.Idle := by
  obtain ⟨panel, hlcd, -⟩ := connectDisplay_eq nodes lcd (connectLighting nodes rgb (probe root)).2
  have hdisplay : (found nodes root rgb lcd conflicts socketPath).display = panel.elim .absent displayFor := by
    unfold found
    dsimp only
    rw [hlcd]
  rw [hdisplay]
  cases panel with
  | none => exact ⟨rfl, rfl⟩
  | some topology =>
    change (displayFor topology).Idle
    unfold displayFor
    split
    · exact ⟨rfl, rfl⟩
    · exact ⟨rfl, rfl⟩

end Startup

theorem SysfsTree.supported_found (tree : SysfsTree) (nodes : Nodes) (rgb : RgbBackend) (lcd : LcdBackend)
    (conflicts : List OwnershipConflict) (socketPath : String) :
    (Startup.found nodes tree.sysfs rgb lcd conflicts socketPath).capabilities.supported.map DeviceRecord.id =
      tree.supported.map DiscoveredDevice.id := by
  have hdevices := Startup.devices_found nodes tree.sysfs rgb lcd conflicts socketPath
  have hprobed : (Kori.probe tree.sysfs).devices.map DeviceRecord.listed =
      tree.supported.map fun found => (found.id, SupportState.supported) := by
    unfold Kori.probe sysfs supported
    dsimp only
    rw [List.map_map, List.filter_map, List.map_map]
    rfl
  rw [hprobed] at hdevices
  have hall : ∀ device ∈ (Startup.found nodes tree.sysfs rgb lcd conflicts socketPath).capabilities.devices,
      device.isSupported = true := by
    intro device hdevice
    have hmem : device.listed ∈ tree.supported.map fun found => (found.id, SupportState.supported) :=
      hdevices ▸ List.mem_map_of_mem hdevice
    obtain ⟨found, -, heq⟩ := List.mem_map.mp hmem
    exact decide_eq_true (Prod.mk.inj heq).2.symm
  unfold CapabilityRecord.supported
  rw [List.filter_eq_self.mpr hall]
  have hids := congrArg (List.map Prod.fst) hdevices
  rw [List.map_map, List.map_map] at hids
  exact hids

theorem SysfsTree.mem_deviceNodes {tree : SysfsTree} {record : CapabilityRecord} {fuel : Nat}
    {attempts : Nat → LockAttempt}
    (hrecord : record.supported.map DeviceRecord.id = tree.supported.map DiscoveredDevice.id)
    {found : DiscoveredDevice} (hfound : found ∈ tree.supported) {nodes : List String} {node : String}
    (hnodes : tree.hidNodes fuel found.path = some nodes) (hnode : node ∈ nodes) :
    (node, found.id) ∈ deviceNodes record (tree.sites fuel attempts) := by
  obtain ⟨i, hi⟩ := List.mem_iff_getElem?.mp hfound
  have hid : (record.supported[i]?).map DeviceRecord.id = some found.id := by
    rw [← List.getElem?_map, hrecord, List.getElem?_map, hi, Option.map_some]
  obtain ⟨device, hdevice, heq⟩ := Option.map_eq_some_iff.mp hid
  refine List.mem_flatMap.mpr ⟨(device, i), List.mk_mem_zipIdx_iff_getElem?.mpr hdevice, ?_⟩
  refine List.mem_map.mpr ⟨node, ?_, Prod.ext rfl heq⟩
  change node ∈ ((tree.supported[i]?.bind fun found => tree.hidNodes fuel found.path).getD [])
  rw [hi, Option.bind_some, hnodes]
  exact hnode

theorem isSome_deviceOf {nodes : List (String × DeviceId)} {target : String} {id : DeviceId}
    (h : (target, id) ∈ nodes) : ∃ device, deviceOf nodes target = some device := by
  have hfind : (nodes.find? fun node => Faulty.SamePath node.1 target).isSome :=
    List.find?_isSome.mpr ⟨_, h, decide_eq_true (.refl target)⟩
  obtain ⟨node, hnode⟩ := Option.isSome_iff_exists.mp hfind
  exact ⟨node.2, by rw [deviceOf, hnode]; rfl⟩

theorem observedHolders_ne_nil {ownPid : UInt32} {proc : Option ProcessTable} {nodes : List (String × DeviceId)}
    {entry : ProcEntry} (hforeign : Foreign ownPid proc entry) {descriptors : List (Option String)}
    (hread : entry.descriptors = some descriptors) {target : String} {id : DeviceId} (hheld : some target ∈ descriptors)
    (hnode : (target, id) ∈ nodes) : observedHolders ownPid proc nodes ≠ [] := by
  obtain ⟨hentry, pid, hpid, hother⟩ := hforeign
  obtain ⟨device, hdevice⟩ := isSome_deviceOf hnode
  obtain ⟨conflict, hconflict⟩ := Option.isSome_iff_exists.mp
    (holder_isSome hpid hother ⟨descriptors, target, hread, hheld, hdevice⟩)
  rw [observedHolders_eq]
  exact List.ne_nil_of_mem (List.mem_filterMap.mpr ⟨entry, hentry, hconflict⟩)

/-- A node that the start would reach a device at and that another process is seen to hold keeps the daemon from every
device once it has asked them what they are, at the start and for as long as it runs. -/
theorem held_node_left_alone {Raw : Type} (toml : Toml Raw) (tree : SysfsTree) (hlayout : tree.HidLayout)
    (hends : ∀ found ∈ tree.enumerate, tree.hidWalk.Ends found.path) (usbfs : Usbfs)
    (opens : String → Except String (List Report × Hid.HidLine)) {id : DeviceId} {node : Hid.Node}
    (hnode : (tree.nodes usbfs opens).hidraw id = some node) {ownPid : UInt32} {proc : Option ProcessTable}
    {entry : ProcEntry} (hforeign : Foreign ownPid proc entry) {descriptors : List (Option String)}
    (hread : entry.descriptors = some descriptors) (hheld : some node.source ∈ descriptors) :
    ∃ enough, ∀ fuel, enough ≤ fuel → ∀ rgb lcd runtimeDir attempts socketPath path around outside calls device,
      let found := tree.found usbfs opens rgb lcd runtimeDir ownPid proc attempts fuel socketPath
      ¬ outside.Reached (Machine.start toml path around found outside).outside device ∧
      ∀ t ∈ turns (Machine.serve toml) (Machine.start toml path around found outside) calls,
        ¬ t.before.outside.Reached t.after.outside device := by
  obtain ⟨owner, howner, -, hsource⟩ := SysfsTree.hidraw_nodes hnode
  obtain ⟨enough, hwalk⟩ := SysfsTree.hidNodes_spec (hends owner (List.mem_filter.mp howner).1)
  refine ⟨enough, fun fuel hfuel rgb lcd runtimeDir attempts socketPath path around outside calls device => ?_⟩
  intro found
  obtain ⟨nodes, hnodes, -, hmem⟩ := hwalk fuel hfuel
  have hscanned : (node.source, owner.id) ∈
      deviceNodes (Startup.found (tree.nodes usbfs opens) tree.sysfs rgb lcd [] socketPath).capabilities
        (tree.sites fuel attempts) :=
    SysfsTree.mem_deviceNodes (tree.supported_found _ rgb lcd [] socketPath) howner hnodes
      ((hmem _).mpr (hlayout.hidNode_of_hidrawNode hsource))
  have hconflicts : found.conflicts ≠ [] := fun h =>
    observedHolders_ne_nil hforeign hread hheld hscanned (List.append_eq_nil_iff.mp h).2
  obtain ⟨woken, -, hwoken, hstart, hturns⟩ :=
    Machine.allowed_of_reached toml path around found (Startup.idle_found ..) outside calls device
  have hnever (hmay : woken.MayWrite device) : False := hconflicts (hwoken ▸ (Daemon.mayWrite_spec hmay).1)
  exact ⟨fun h => hnever (hstart h), fun t ht h => hnever (hturns t ht h)⟩

/-! ## A cooler whose node another program holds -/

/-- The path of the node of a cooler, innermost component first. -/
def benchChain : SysPath :=
  ["hidraw4", "hidraw", "0003:1E71:300E.0001", "1-4:1.1", "1-4", "devices", "usb", "bus", "sys"]

/-- A tree with that path in it, and nothing else. -/
def benchTree : SysfsTree :=
  { root := ["sys"]
    files := fun directory name =>
      if directory = "/sys/bus/usb/devices/1-4" ∧ name = "idVendor" then .ok (.text "1e71\n".toList)
      else if directory = "/sys/bus/usb/devices/1-4" ∧ name = "idProduct" then .ok (.text "300e\n".toList)
      else .error ⟨.notFound, "No such file or directory"⟩
    names := fun path => benchChain.tails.filterMap fun entry => match entry with
      | name :: above => if above = path then some name else none
      | [] => none
    link := fun _ => none, canonical := some, directory := fun _ => true, isFile := fun _ => false
    readable := fun _ => false, writable := fun _ => false }

theorem mem_names_benchTree {path : SysPath} {name : String} :
    name ∈ benchTree.names path ↔ name :: path ∈ benchChain.tails := by
  unfold benchTree
  dsimp only
  rw [List.mem_filterMap]
  constructor
  · rintro ⟨entry, hentry, h⟩
    cases entry with
    | nil => cases h
    | cons own above =>
      dsimp only at h
      split at h
      · rename_i habove
        cases h
        exact habove ▸ hentry
      · cases h
  · intro h
    exact ⟨_, h, if_pos rfl⟩

theorem benchTree_layout : benchTree.HidLayout where
  listed path name h := by
    obtain ⟨last, hlast⟩ := List.exists_mem_of_ne_nil _ h
    rw [mem_names_benchTree, List.mem_tails] at hlast ⊢
    exact (List.suffix_cons last _).trans hlast
  directory _ _ _ _ _ _ := ⟨rfl, rfl, rfl⟩
  colon device dir _ entry _ h name hname := by
    obtain ⟨last, hlast⟩ := List.exists_mem_of_ne_nil _ h
    rw [mem_names_benchTree] at hlast
    have hentry : entry = benchChain.drop 2 := by
      have hall : ∀ path ∈ benchChain.tails, path.tail.head? = some "hidraw" → path.drop 2 = benchChain.drop 2 := by
        decide
      exact hall _ hlast rfl
    rw [hentry] at hname
    cases hname
    decide

theorem benchTree_ends (path : SysPath) : benchTree.hidWalk.Ends path := by
  refine Walk.ends_of_rank (fun path => benchChain.length - path.length) (fun path other h => ?_) path
  obtain ⟨name, hname, rfl⟩ := List.mem_map.mp h
  have hlisted := (List.mem_filter.mp (List.mem_filter.mp hname).1).1
  rw [mem_names_benchTree, List.mem_tails] at hlisted
  have hlength := hlisted.length_le
  rw [List.length_cons] at hlength ⊢
  omega

/-- A program that holds the cooler's node keeps the daemon from writing anything. -/
theorem cooler_held_left_alone :
    let usbfs : Usbfs := { root := "/dev/bus/usb", opened := fun _ => .ok (), claimed := fun _ _ => .ok () }
    let opens : String → Except String (List Report × Hid.HidLine) := fun _ => .error "busy"
    let holder : ProcEntry := { pid := some 700, comm := some "cam", descriptors := some [none, some "/dev/hidraw4"] }
    ∃ enough, ∀ fuel, enough ≤ fuel → ∀ rgb lcd runtimeDir attempts socketPath path around outside calls device,
      let found := benchTree.found usbfs opens rgb lcd runtimeDir 100 (some ⟨[holder], List.pairwise_singleton _ _⟩)
        attempts fuel socketPath
      ¬ outside.Reached (Machine.start plainToml path around found outside).outside device ∧
      ∀ t ∈ turns (Machine.serve plainToml) (Machine.start plainToml path around found outside) calls,
        ¬ t.before.outside.Reached t.after.outside device := by
  intro usbfs opens holder
  have hnode : (benchTree.nodes usbfs opens).hidraw KRAKEN_BASE =
      some { source := "/dev/hidraw4", opened := .error "busy" } := by
    have hsorted (name : String) {path : SysPath} (h : benchTree.names path = [name]) :
        benchTree.sortedEntries path = [name :: path] := by
      unfold SysfsTree.sortedEntries
      rw [h]
      simp
    have hdevices : benchTree.enumerate = [⟨KRAKEN_BASE, benchChain.drop 4⟩] := by
      unfold SysfsTree.enumerate
      rw [hsorted "1-4" (by decide)]
      decide
    have hinterfaces : benchTree.interfaceDirs (benchChain.drop 4) = [benchChain.drop 3] := by
      unfold SysfsTree.interfaceDirs
      rw [hsorted "1-4:1.1" (by decide)]
      have hstarts : ("1-4" ++ ":").isPrefixOf "1-4:1.1" = true := String.startsWith_string_iff.mpr (by decide)
      exact List.filter_cons_of_pos hstarts
    have hfound : benchTree.hidrawNode (benchChain.drop 4) = some "/dev/hidraw4" := by
      unfold SysfsTree.hidrawNode
      have hstarts : "hidraw".isPrefixOf "hidraw4" = true := String.startsWith_string_iff.mpr (by decide)
      simp only [hinterfaces, List.flatMap_cons, List.flatMap_nil, List.append_nil]
      rw [hsorted "0003:1E71:300E.0001" (by decide)]
      simp only [List.flatMap_cons, List.flatMap_nil, List.append_nil]
      rw [hsorted "hidraw4" (by decide)]
      simp [hstarts]
    have hpath : benchTree.devicePath KRAKEN_BASE = some (benchChain.drop 4) := by
      unfold SysfsTree.devicePath
      rw [hdevices]
      decide
    unfold SysfsTree.nodes
    dsimp only
    rw [hpath, Option.bind_eq_bind, Option.bind_some, hfound]
    rfl
  have hforeign : Foreign 100 (some ⟨[holder], List.pairwise_singleton _ _⟩) holder :=
    ⟨List.mem_singleton_self _, 700, rfl, by decide⟩
  exact held_node_left_alone plainToml benchTree benchTree_layout (fun found _ => benchTree_ends found.path) usbfs opens
    hnode hforeign rfl (by decide)

end Kori
