import Kori.Faulty.Sorting
import Kori.Daemon.Startup.Matches
import Kori.Hardware.Usb

/-! # What the record shows of an interface is what its claim goes by -/

open Faulty

namespace Kori

namespace SysfsTree

variable (tree : SysfsTree)

theorem any_interface (entry : SysPath) (n : UInt8) :
    (tree.interface entry).any (fun found => found.number = n) =
      decide (tree.readHexU8 entry "bInterfaceNumber" = some n) := by
  unfold interface
  cases tree.readHexU8 entry "bInterfaceNumber" with
  | none => rfl
  | some number => simp

theorem find?_interfaces (device : SysPath) (n : UInt8) :
    (tree.interfaces device).find? (fun found => found.number = n) =
      ((tree.interfaceDirs device).find? fun entry => tree.readHexU8 entry "bInterfaceNumber" = some n).bind
        tree.interface := by
  unfold interfaces
  rw [find?_mergeSort]
  · rw [List.find?_filterMap]
    simp only [any_interface]
  · intro a b c hab hbc
    simp only [decide_eq_true_eq] at *
    exact UInt8.le_trans hab hbc
  · intro a b
    simp only [Bool.or_eq_true, decide_eq_true_eq]
    exact UInt8.le_total ..
  · intro a b ha hb
    simp only [decide_eq_true_eq] at *
    rw [ha, hb]
    exact UInt8.le_refl _

theorem interfaceDriver_eq (device : SysPath) (n : UInt8) :
    tree.interfaceDriver device n =
      ((tree.interfaces device).find? fun found => found.number = n).bind fun found => found.driver.value := by
  rw [find?_interfaces]
  unfold interfaceDriver
  cases hentry : (tree.interfaceDirs device).find? fun entry =>
      tree.readHexU8 entry "bInterfaceNumber" = some n with
  | none => rfl
  | some entry =>
    have hnumber := List.find?_some hentry
    rw [decide_eq_true_eq] at hnumber
    rw [Option.bind_some, Option.bind_some]
    unfold interface
    rw [hnumber]
    cases tree.boundDriver entry with
    | none => rfl
    | some driver => rfl

/-- The driver the record shows under an interface number. -/
def shownDriver (device : SysPath) (n : UInt8) : Option String :=
  ((tree.interfaces device).find? fun found => found.number = n).bind fun found => found.driver.value

end SysfsTree

namespace Usbfs

variable (usbfs : Usbfs) (tree : SysfsTree) (device : SysPath) (n : UInt8)

theorem claim_of_shown {driver : String} (h : tree.shownDriver device n = some driver) :
    usbfs.claim tree device n = .error (.driverBound n driver) := by
  unfold claim
  rw [tree.interfaceDriver_eq, ← SysfsTree.shownDriver, h]

theorem claim_of_free (h : tree.shownDriver device n = none) (driver : String) :
    usbfs.claim tree device n ≠ .error (.driverBound n driver) := by
  unfold claim
  rw [tree.interfaceDriver_eq, ← SysfsTree.shownDriver, h]
  dsimp only
  split
  · simp
  · split
    · rename_i error _
      rcases error with ⟨kind, detail⟩
      cases kind <;> simp [UsbfsError.ofIo]
    · split
      · rename_i errno _
        cases errno <;> simp [UsbfsError.ofErrno]
      · simp

end Usbfs

/-- What a claim refuses is what the record shows: an interface with a driver is refused for it before anything is opened,
and no other is refused for one. -/
theorem record_shows_what_claim_refuses (tree : SysfsTree) (usbfs : Usbfs) (device : SysPath) (n : UInt8) :
    (∀ driver, usbfs.claim tree device n = .error (.driverBound n driver) ↔ tree.shownDriver device n = some driver) ∧
      (tree.shownDriver device n ≠ none → ∀ other : Usbfs, other.claim tree device n = usbfs.claim tree device n) := by
  cases hshown : tree.shownDriver device n with
  | none =>
    refine ⟨fun driver => ?_, fun h => absurd rfl h⟩
    constructor
    · intro h
      exact absurd h (usbfs.claim_of_free tree device n hshown driver)
    · intro h
      cases h
  | some shown =>
    have hclaim := fun usbfs : Usbfs => usbfs.claim_of_shown tree device n hshown
    refine ⟨fun driver => ?_, fun _ other => ?_⟩
    · rw [hclaim]
      simp
    · rw [hclaim, hclaim]

/-! ## Starting -/

theorem SysfsTree.device_probe (tree : SysfsTree) (id : DeviceId) :
    (Kori.probe tree.sysfs).device id = (tree.devicePath id).map fun _ => probeDevice tree.sysfs id := by
  have hfind : (Kori.probe tree.sysfs).device id =
      (tree.enumerate.find? fun found => isAllowlisted found.id && decide (found.id = id)).map fun found =>
        probeDevice tree.sysfs found.id := by
    unfold CapabilityRecord.device Kori.probe sysfs
    dsimp only
    rw [List.find?_map, List.find?_filter, List.find?_map, Option.map_map]
    congr 2
    funext found
    rw [Bool.eq_iff_iff, Function.comp_apply, decide_eq_true_iff, Bool.and_eq_true]
    rfl
  rw [hfind]
  unfold devicePath
  by_cases hallowed : isAllowlisted id
  · have hsame : (fun found : DiscoveredDevice => isAllowlisted found.id && decide (found.id = id)) =
        fun found => decide (found.id = id) := by
      funext found
      by_cases hid : found.id = id
      · rw [hid, hallowed, Bool.true_and]
      · rw [decide_eq_false hid, Bool.and_false]
    rw [if_pos hallowed, hsame, Option.map_map]
    cases hfound : tree.enumerate.find? fun found => found.id = id with
    | none => rfl
    | some found =>
      have hid := List.find?_some hfound
      rw [decide_eq_true_eq] at hid
      rw [Option.map_some, hid]
      rfl
  · rw [if_neg hallowed, List.find?_eq_none.mpr]
    · rfl
    · intro found _ hfound
      simp only [Bool.and_eq_true, decide_eq_true_eq] at hfound
      rw [hfound.2] at hfound
      exact hallowed hfound.1

namespace Startup

theorem bulkNode_of_refused {claim : Option (Except String String)} (h : ∀ source, claim ≠ some (.ok source))
    (node : Option Hid.Node) : (LcdLink.connect claim node).1.bulkNode.isKnown = false := by
  unfold LcdLink.connect
  cases node with
  | none => rfl
  | some node =>
    dsimp only
    cases node.opened with
    | error error => rfl
    | ok opened =>
      dsimp only
      rw [(inspect_panel _ _ _).1]
      cases claim with
      | none => rfl
      | some result =>
        cases result with
        | error reason => rfl
        | ok source => exact absurd rfl (h source)

theorem absent_of_refused (nodes : Nodes) (record : CapabilityRecord) {reason : String}
    (h : nodes.usbfs = .error reason) : (connectDisplay nodes .nodes record).1 = .absent := by
  have hclaim (source : String) : (devicePath record KRAKEN_BASE).map (fun _ => nodes.usbfs) ≠ some (.ok source) := by
    rw [h]
    cases devicePath record KRAKEN_BASE <;> simp
  unfold connectDisplay askLcd
  dsimp only
  rw [connect_display, displayFor, bulkNode_of_refused hclaim, Bool.and_false]
  rfl

end Startup

/-- Whatever the tree, the bus and the devices answer, a start that comes to hold a panel claimed an interface on which
the record shows no driver. -/
theorem panel_on_free_interface (tree : SysfsTree) (usbfs : Usbfs)
    (opens : String → Except String (List Report × Hid.HidLine)) (rgb : RgbBackend)
    (conflicts : List OwnershipConflict) (socketPath : String) :
    (Startup.found (tree.nodes usbfs opens) tree.sysfs rgb .nodes conflicts socketPath).display = .absent ∨
      ∃ device source, (probe tree.sysfs).device KRAKEN_BASE = some (probeDevice tree.sysfs KRAKEN_BASE) ∧
        tree.devicePath KRAKEN_BASE = some device ∧ usbfs.claim tree device BULK_INTERFACE = .ok source ∧
        tree.shownDriver device BULK_INTERFACE = none := by
  have hrefused (reason : String) (h : (tree.nodes usbfs opens).usbfs = .error reason) :
      (Startup.found (tree.nodes usbfs opens) tree.sysfs rgb .nodes conflicts socketPath).display = .absent :=
    Startup.absent_of_refused _ _ h
  cases hdevice : tree.devicePath KRAKEN_BASE with
  | none =>
    refine .inl (hrefused "the device publishes no usbfs node for its bulk interface" ?_)
    unfold SysfsTree.nodes
    rw [hdevice]
  | some device =>
    cases hclaim : usbfs.claim tree device BULK_INTERFACE with
    | error error =>
      refine .inl (hrefused error.message ?_)
      unfold SysfsTree.nodes
      rw [hdevice]
      dsimp only
      rw [hclaim]
      rfl
    | ok source =>
      have hrecord := tree.device_probe KRAKEN_BASE
      rw [hdevice] at hrecord
      refine .inr ⟨device, source, hrecord, rfl, hclaim, ?_⟩
      cases hshown : tree.shownDriver device BULK_INTERFACE with
      | none => rfl
      | some driver =>
        rw [usbfs.claim_of_shown tree device BULK_INTERFACE hshown] at hclaim
        cases hclaim

end Kori
