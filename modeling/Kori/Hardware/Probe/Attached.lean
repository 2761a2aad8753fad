import Kori.Hardware.Probe
import Mathlib.Data.List.Induction

/-! # What the answers of the devices make of a probed record -/

namespace Kori

/-! ## The ladders -/

/-- What a panel must have answered before it is sent a command. -/
structure LcdTopology.Proven (topology : LcdTopology) : Prop where
  node : topology.hidNode.isKnown = true
  answered : topology.answered = true
  firmware : ∃ firmware, topology.firmware.value = some firmware ∧
    LcdLink.isValidatedFirmware firmware = true

/-- What a controller must have answered: a channel list that is neither empty nor longer than a
channel byte can address. -/
structure RgbTopology.Proven (topology : RgbTopology) : Prop where
  node : topology.node.isKnown = true
  channels : ∃ channels, topology.channels.value = some channels ∧ 1 ≤ channels.length ∧
    channels.length ≤ 255
  firmware : ∃ firmware, topology.firmware.value = some firmware ∧
    RgbController.isValidatedFirmware firmware = true

theorem firmwareGate_writable (firmware : Evidenced String) (isValidated : String → Bool)
    (subject node : String) :
    ((firmwareGate firmware isValidated subject).getD (.available true node)).isWritable = true ↔
      ∃ revision, firmware.value = some revision ∧ isValidated revision = true := by
  unfold firmwareGate
  cases firmware.value with
  | none => simp [CapabilityState.isWritable]
  | some revision => cases h : isValidated revision <;> simp [CapabilityState.isWritable, h]

theorem firmwareMajor_of_validated {firmware : String}
    (h : LcdLink.isValidatedFirmware firmware = true) :
    LcdLink.firmwareMajor firmware = some LcdLink.SUPPORTED_FIRMWARE_MAJOR := by
  unfold LcdLink.isValidatedFirmware LcdLink.VALIDATED_FIRMWARE at h
  simp only [List.contains_eq_mem, List.mem_singleton, decide_eq_true_eq] at h
  subst h
  decide

theorem lcdState_writable (topology : Option LcdTopology) :
    (lcdState topology).isWritable = true ↔ ∃ t, topology = some t ∧ t.Proven := by
  cases topology with
  | none => simp [lcdState, CapabilityState.isWritable]
  | some t =>
    have hproven : (∃ t', some t = some t' ∧ t'.Proven) ↔ t.Proven := by simp
    rw [hproven]
    unfold lcdState
    dsimp only
    cases hnode : t.hidNode.value with
    | none =>
      refine iff_of_false (by simp [CapabilityState.isWritable]) fun h => ?_
      simpa [Evidenced.isKnown, hnode] using h.node
    | some node =>
      dsimp only
      split
      · rename_i hsilent
        exact iff_of_false (by simp [CapabilityState.isWritable]) fun h => hsilent h.answered
      rename_i hanswered
      rw [not_not] at hanswered
      split
      · rename_i firmware hother
        rw [Option.filter_eq_some_iff] at hother
        refine iff_of_false (by simp [CapabilityState.isWritable]) fun h => ?_
        obtain ⟨revision, hrevision, hvalidated⟩ := h.firmware
        cases hother.1.symm.trans hrevision
        simpa [firmwareMajor_of_validated hvalidated] using hother.2
      · rw [firmwareGate_writable]
        exact ⟨fun h => ⟨by simp [Evidenced.isKnown, hnode], hanswered, h⟩, fun h => h.firmware⟩

theorem lcdFrameState_writable (topology : Option LcdTopology) :
    (lcdFrameState topology).isWritable = true ↔
      ∃ t, topology = some t ∧ t.Proven ∧ t.bulkNode.isKnown = true := by
  have hcontrol := lcdState_writable topology
  unfold lcdFrameState
  cases topology with
  | none => simp [lcdState, CapabilityState.isWritable]
  | some t =>
    have hproven : (∃ t', some t = some t' ∧ t'.Proven) ↔ t.Proven := by simp
    rw [hproven] at hcontrol
    have hgoal : (∃ t', some t = some t' ∧ t'.Proven ∧ t'.bulkNode.isKnown = true) ↔
        t.Proven ∧ t.bulkNode.isKnown = true := by simp
    rw [hgoal, ← hcontrol]
    cases lcdState (some t) with
    | available writable source =>
      dsimp only
      split
      · rename_i hbulk
        exact (and_iff_left hbulk).symm
      · rename_i hbulk
        exact iff_of_false (by simp [CapabilityState.isWritable]) fun h => hbulk h.2
    | unvalidated reason => simp [CapabilityState.isWritable]
    | unavailable reason => simp [CapabilityState.isWritable]

theorem channelCount_eq_zero (topology : RgbTopology) :
    topology.channelCount.getD 0 = 0 ↔ ∀ channels, topology.channels.value = some channels →
      ¬ (1 ≤ channels.length ∧ channels.length ≤ 255) := by
  unfold RgbTopology.channelCount
  cases topology.channels.value with
  | none => simp
  | some channels =>
    simp only [Option.bind_eq_bind, Option.bind_some, Option.some.injEq, forall_eq']
    split
    · rename_i hlt
      rw [Option.getD_some]
      constructor
      · intro hzero
        have h := congrArg UInt8.toNat hzero
        simp only [UInt8.toNat_ofNat', UInt8.toNat_zero] at h
        omega
      · intro hnot
        have hlength : channels.length = 0 := by omega
        rw [hlength]
        rfl
    · exact iff_of_true rfl (by omega)

theorem rgbState_writable (topology : Option RgbTopology) :
    (rgbState topology).isWritable = true ↔ ∃ t, topology = some t ∧ t.Proven := by
  cases topology with
  | none => simp [rgbState, CapabilityState.isWritable]
  | some t =>
    have hproven : (∃ t', some t = some t' ∧ t'.Proven) ↔ t.Proven := by simp
    rw [hproven]
    unfold rgbState
    dsimp only
    cases hnode : t.node.value with
    | none =>
      refine iff_of_false (by simp [CapabilityState.isWritable]) fun h => ?_
      simpa [Evidenced.isKnown, hnode] using h.node
    | some node =>
      dsimp only
      cases hreason : t.channels.reason with
      | some reason =>
        refine iff_of_false (by simp [CapabilityState.isWritable]) fun h => ?_
        obtain ⟨channels, hchannels, -⟩ := h.channels
        cases hlist : t.channels with
        | known value source => simp [hlist, Evidenced.reason] at hreason
        | unknown reason source => simp [hlist, Evidenced.value] at hchannels
      | none =>
        dsimp only
        split
        · rename_i hzero
          rw [channelCount_eq_zero] at hzero
          refine iff_of_false (by simp [CapabilityState.isWritable]) fun h => ?_
          obtain ⟨channels, hchannels, hbounds⟩ := h.channels
          exact hzero channels hchannels hbounds
        · rename_i hcount
          rw [channelCount_eq_zero] at hcount
          push Not at hcount
          rw [firmwareGate_writable]
          exact ⟨fun h => ⟨by simp [Evidenced.isKnown, hnode], hcount, h⟩, fun h => h.firmware⟩

/-! ## Answers folded in -/

/-- One answer folded into the record. -/
inductive Attach where
  | lcd (topology : LcdTopology)
  | rgb (topology : RgbTopology)

namespace Attach

def apply (record : CapabilityRecord) : Attach → CapabilityRecord
  | lcd topology => record.attachLcdTopology topology
  | rgb topology => record.attachRgbTopology topology

def lcd? : Attach → Option LcdTopology
  | lcd topology => some topology
  | rgb _ => none

def rgb? : Attach → Option RgbTopology
  | lcd _ => none
  | rgb topology => some topology

end Attach

def attachAll (record : CapabilityRecord) (attaches : List Attach) : CapabilityRecord :=
  attaches.foldl Attach.apply record

/-- The last topology each device answered. -/
def lastLcd (attaches : List Attach) : Option LcdTopology := (attaches.filterMap Attach.lcd?).getLast?
def lastRgb (attaches : List Attach) : Option RgbTopology := (attaches.filterMap Attach.rgb?).getLast?

/-- What a device's record comes to: only the last answers show in it. -/
def resolved (root : Sysfs) (attaches : List Attach) (id : DeviceId) : DeviceRecord :=
  let probed := probeDevice root id
  if id = KRAKEN_BASE then
    { probed with
      capabilities := krakenCapabilities probed.hwmon ++ lcdCapabilities (lastLcd attaches)
      lcd := lastLcd attaches }
  else if id = RGB_CONTROLLER then
    { probed with capabilities := rgbCapabilities (lastRgb attaches), rgb := lastRgb attaches }
  else probed

theorem krakenCapabilities_ids (hwmon : Option HwmonCapabilities) :
    (krakenCapabilities hwmon).map Capability.id = THERMAL_CAPABILITIES := by
  cases hwmon <;> rfl

@[simp] theorem resolved_id (root : Sysfs) (attaches : List Attach) (id : DeviceId) :
    (resolved root attaches id).id = id := by
  unfold resolved probeDevice
  dsimp only
  split
  · rfl
  · split <;> rfl

theorem resolved_nil (root : Sysfs) (id : DeviceId) : resolved root [] id = probeDevice root id := by
  unfold resolved probeDevice capabilitiesFor
  dsimp only
  split
  · rfl
  · split <;> rfl

theorem filter_kraken (hwmon : Option HwmonCapabilities) :
    (krakenCapabilities hwmon).filter (fun c => !LCD_CAPABILITIES.contains c.id) =
      krakenCapabilities hwmon := by
  rw [List.filter_eq_self]
  intro c hc
  have hid : c.id ∈ THERMAL_CAPABILITIES := by
    rw [← krakenCapabilities_ids hwmon]
    exact List.mem_map_of_mem hc
  revert hid
  generalize c.id = id
  revert id
  decide

theorem filter_lcd (topology : Option LcdTopology) :
    (lcdCapabilities topology).filter (fun c => !LCD_CAPABILITIES.contains c.id) = [] := by
  unfold lcdCapabilities LCD_CAPABILITIES
  simp

theorem filter_rgb (topology : Option RgbTopology) :
    (rgbCapabilities topology).filter (fun c => !RGB_CAPABILITIES.contains c.id) = [] := by
  unfold rgbCapabilities RGB_CAPABILITIES
  simp

theorem resolved_withLcd (root : Sysfs) (attaches : List Attach) (topology : LcdTopology) :
    (resolved root attaches KRAKEN_BASE).withLcd topology =
      resolved root (attaches ++ [.lcd topology]) KRAKEN_BASE := by
  have hlast : lastLcd (attaches ++ [.lcd topology]) = some topology := by
    simp [lastLcd, Attach.lcd?]
  unfold resolved DeviceRecord.withLcd replaceCapabilities
  simp only [if_true, hlast, List.filter_append, filter_kraken, filter_lcd, List.append_nil]

theorem resolved_withRgb (root : Sysfs) (attaches : List Attach) (topology : RgbTopology) :
    (resolved root attaches RGB_CONTROLLER).withRgb topology =
      resolved root (attaches ++ [.rgb topology]) RGB_CONTROLLER := by
  have hlast : lastRgb (attaches ++ [.rgb topology]) = some topology := by
    simp [lastRgb, Attach.rgb?]
  have hne : RGB_CONTROLLER ≠ KRAKEN_BASE := by decide
  unfold resolved DeviceRecord.withRgb replaceCapabilities
  simp only [if_neg hne, if_true, hlast, filter_rgb, List.nil_append]

theorem resolved_congr (root : Sysfs) {attaches attaches' : List Attach} {id : DeviceId}
    (hlcd : id = KRAKEN_BASE → lastLcd attaches' = lastLcd attaches)
    (hrgb : id = RGB_CONTROLLER → lastRgb attaches' = lastRgb attaches) :
    resolved root attaches' id = resolved root attaches id := by
  unfold resolved
  dsimp only
  split
  · rw [hlcd ‹_›]
  split
  · rw [hrgb ‹_›]
  · rfl

theorem resolved_lcd_of_ne (root : Sysfs) (attaches : List Attach) (topology : LcdTopology)
    {id : DeviceId} (h : id ≠ KRAKEN_BASE) :
    resolved root (attaches ++ [.lcd topology]) id = resolved root attaches id :=
  resolved_congr root (fun hid => absurd hid h) fun _ => by simp [lastRgb, Attach.rgb?]

theorem resolved_rgb_of_ne (root : Sysfs) (attaches : List Attach) (topology : RgbTopology)
    {id : DeviceId} (h : id ≠ RGB_CONTROLLER) :
    resolved root (attaches ++ [.rgb topology]) id = resolved root attaches id :=
  resolved_congr root (fun _ => by simp [lastLcd, Attach.lcd?]) fun hid => absurd hid h

theorem updateDevice_map (target : DeviceId) (change : DeviceRecord → DeviceRecord)
    (f g : DeviceId → DeviceRecord) (hid : ∀ id, (f id).id = id)
    (hsame : change (f target) = g target) (hother : ∀ id, id ≠ target → f id = g id)
    (ids : List DeviceId) (hnodup : ids.Nodup) :
    updateDevice target change (ids.map f) = ids.map g := by
  induction ids with
  | nil => rfl
  | cons id rest ih =>
    rw [List.nodup_cons] at hnodup
    simp only [List.map_cons, updateDevice, hid]
    split
    · rename_i heq
      subst heq
      have hrest : rest.map f = rest.map g :=
        List.map_congr_left fun other hmem => hother other fun heq => hnodup.1 (heq ▸ hmem)
      rw [hsame, hrest]
    · rename_i hne
      rw [ih hnodup.2, hother id hne]

/-- The devices the probe records. -/
def probedIds (root : Sysfs) : List DeviceId := root.usb.filter fun id => isAllowlisted id

theorem attachAll_devices (root : Sysfs) (hnodup : (probedIds root).Nodup) (attaches : List Attach) :
    (attachAll (probe root) attaches).devices = (probedIds root).map (resolved root attaches) := by
  induction attaches using List.reverseRecOn with
  | nil => exact List.map_congr_left fun id _ => (resolved_nil root id).symm
  | append_singleton attaches last ih =>
    have hfold : attachAll (probe root) (attaches ++ [last]) =
        last.apply (attachAll (probe root) attaches) := by
      simp [attachAll]
    rw [hfold]
    cases last with
    | lcd topology =>
      change updateDevice KRAKEN_BASE (·.withLcd topology) (attachAll (probe root) attaches).devices = _
      rw [ih]
      exact updateDevice_map _ _ _ _ (resolved_id root attaches) (resolved_withLcd root attaches topology)
        (fun id hne => (resolved_lcd_of_ne root attaches topology hne).symm) _ hnodup
    | rgb topology =>
      change updateDevice RGB_CONTROLLER (·.withRgb topology) (attachAll (probe root) attaches).devices = _
      rw [ih]
      exact updateDevice_map _ _ _ _ (resolved_id root attaches) (resolved_withRgb root attaches topology)
        (fun id hne => (resolved_rgb_of_ne root attaches topology hne).symm) _ hnodup

/-! ## What the record comes to -/

theorem probe_devices (root : Sysfs) : (probe root).devices = (probedIds root).map (probeDevice root) := rfl

theorem find_map_device (f : DeviceId → DeviceRecord) (hid : ∀ id, (f id).id = id)
    (ids : List DeviceId) (id : DeviceId) :
    (ids.map f).find? (fun d => d.id = id) = if id ∈ ids then some (f id) else none := by
  induction ids with
  | nil => rfl
  | cons other rest ih =>
    rw [List.map_cons, List.find?_cons, ih]
    by_cases h : other = id
    · subst h
      simp [hid]
    · simp [hid, h, Ne.symm h]

/-- The device a capability belongs to. -/
def CapabilityId.owner : CapabilityId → DeviceId
  | .rgbFixedColor | .rgbEffects => RGB_CONTROLLER
  | _ => KRAKEN_BASE

theorem resolved_capability_count (root : Sysfs) (attaches : List Attach) (id : DeviceId)
    (c : CapabilityId) :
    ((resolved root attaches id).capabilities.map Capability.id).count c =
      if c.owner = id then 1 else 0 := by
  unfold resolved
  dsimp only
  split
  · rename_i hkraken
    subst hkraken
    simp only [List.map_append, krakenCapabilities_ids]
    cases c <;> rfl
  split
  · rename_i hrgb
    subst hrgb
    cases c <;> rfl
  · rename_i hkraken hrgb
    have hempty : (probeDevice root id).capabilities = [] := by
      simp [probeDevice, capabilitiesFor, hkraken, hrgb]
    have howner : c.owner ≠ id := by
      cases c <;> first | exact Ne.symm hkraken | exact Ne.symm hrgb
    rw [hempty, if_neg howner]
    rfl

theorem count_resolved (root : Sysfs) (attaches : List Attach) (c : CapabilityId)
    {ids : List DeviceId} (hnodup : ids.Nodup) :
    (ids.flatMap fun id => (resolved root attaches id).capabilities.map Capability.id).count c =
      if c.owner ∈ ids then 1 else 0 := by
  induction ids with
  | nil => rfl
  | cons id rest ih =>
    rw [List.nodup_cons] at hnodup
    rw [List.flatMap_cons, List.count_append, resolved_capability_count, ih hnodup.2]
    by_cases h : c.owner = id
    · subst h
      simp [hnodup.1]
    · simp [h]

/-- What is writable of a record that the answers were folded into, and what they left alone. -/
structure EvidenceDecides (probed after : CapabilityRecord) (attaches : List Attach) : Prop where
  frame : ∀ device ∈ after.devices, ∀ c ∈ device.capabilities, c.id = .lcdFrame →
    (c.state.isWritable = true ↔
      ∃ t, lastLcd attaches = some t ∧ t.Proven ∧ t.bulkNode.isKnown = true)
  control : ∀ device ∈ after.devices, ∀ c ∈ device.capabilities, c.id = .lcdDisplayControl →
    (c.state.isWritable = true ↔ ∃ t, lastLcd attaches = some t ∧ t.Proven)
  lighting : ∀ device ∈ after.devices, ∀ c ∈ device.capabilities, c.id ∈ RGB_CAPABILITIES →
    (c.state.isWritable = true ↔ ∃ t, lastRgb attaches = some t ∧ t.Proven)
  once : ∀ c : CapabilityId,
    (after.devices.flatMap fun device => device.capabilities.map Capability.id).count c =
      if (probed.device c.owner).isSome then 1 else 0
  devices : after.devices.map DeviceRecord.id = probed.devices.map DeviceRecord.id
  silent : ∀ id : DeviceId, (id = KRAKEN_BASE → lastLcd attaches = none) →
    (id = RGB_CONTROLLER → lastRgb attaches = none) → after.device id = probed.device id
  others : ∀ id before device, probed.device id = some before → after.device id = some device →
    device.support = before.support ∧ device.hwmon = before.hwmon ∧
    (id ≠ KRAKEN_BASE → device.lcd = before.lcd) ∧ (id ≠ RGB_CONTROLLER → device.rgb = before.rgb) ∧
    ∀ c : CapabilityId, ¬ (id = KRAKEN_BASE ∧ c ∈ LCD_CAPABILITIES) →
      ¬ (id = RGB_CONTROLLER ∧ c ∈ RGB_CAPABILITIES) → device.capability c = before.capability c

theorem mem_resolved {root : Sysfs} {attaches : List Attach} {id : DeviceId} {c : Capability}
    (h : c ∈ (resolved root attaches id).capabilities) :
    c.id ∈ THERMAL_CAPABILITIES ∨ c ∈ lcdCapabilities (lastLcd attaches) ∨
      c ∈ rgbCapabilities (lastRgb attaches) := by
  unfold resolved at h
  dsimp only at h
  split at h
  · rw [List.mem_append] at h
    refine h.imp (fun hc => ?_) .inl
    rw [← krakenCapabilities_ids]
    exact List.mem_map_of_mem hc
  split at h
  · exact .inr (.inr h)
  · rename_i hkraken hrgb
    simp [probeDevice, capabilitiesFor, hkraken, hrgb] at h

theorem lcdCapabilities_state {topology : Option LcdTopology} {c : Capability}
    (h : c ∈ lcdCapabilities topology) :
    (c.id = .lcdFrame ∧ c.state = lcdFrameState topology) ∨
      (c.id = .lcdDisplayControl ∧ c.state = lcdState topology) := by
  unfold lcdCapabilities at h
  simp only [List.mem_cons, List.not_mem_nil, or_false] at h
  rcases h with rfl | rfl
  · exact .inl ⟨rfl, rfl⟩
  · exact .inr ⟨rfl, rfl⟩

theorem rgbCapabilities_state {topology : Option RgbTopology} {c : Capability}
    (h : c ∈ rgbCapabilities topology) : c.id ∈ RGB_CAPABILITIES ∧ c.state = rgbState topology := by
  unfold rgbCapabilities at h
  rw [List.mem_map] at h
  obtain ⟨id, hid, rfl⟩ := h
  exact ⟨hid, rfl⟩

theorem find_lcd_none (topology : Option LcdTopology) {c : CapabilityId} (h : c ∉ LCD_CAPABILITIES) :
    (lcdCapabilities topology).find? (fun x => x.id = c) = none := by
  rw [List.find?_eq_none]
  rintro x hx heq
  rw [decide_eq_true_eq] at heq
  subst heq
  rcases lcdCapabilities_state hx with ⟨hid, -⟩ | ⟨hid, -⟩ <;> simp [hid, LCD_CAPABILITIES] at h

theorem find_rgb_none (topology : Option RgbTopology) {c : CapabilityId} (h : c ∉ RGB_CAPABILITIES) :
    (rgbCapabilities topology).find? (fun x => x.id = c) = none := by
  rw [List.find?_eq_none]
  rintro x hx heq
  rw [decide_eq_true_eq] at heq
  subst heq
  exact h (rgbCapabilities_state hx).1

theorem resolved_others (root : Sysfs) (attaches : List Attach) (id : DeviceId) :
    (resolved root attaches id).support = (probeDevice root id).support ∧
    (resolved root attaches id).hwmon = (probeDevice root id).hwmon ∧
    (id ≠ KRAKEN_BASE → (resolved root attaches id).lcd = (probeDevice root id).lcd) ∧
    (id ≠ RGB_CONTROLLER → (resolved root attaches id).rgb = (probeDevice root id).rgb) ∧
    ∀ c : CapabilityId, ¬ (id = KRAKEN_BASE ∧ c ∈ LCD_CAPABILITIES) →
      ¬ (id = RGB_CONTROLLER ∧ c ∈ RGB_CAPABILITIES) →
      (resolved root attaches id).capability c = (probeDevice root id).capability c := by
  have hne : RGB_CONTROLLER ≠ KRAKEN_BASE := by decide
  by_cases hkraken : id = KRAKEN_BASE
  · subst hkraken
    simp only [resolved, if_true]
    refine ⟨trivial, trivial, fun h => absurd rfl h, fun _ => trivial, fun c hlcd _ => ?_⟩
    have hc : c ∉ LCD_CAPABILITIES := fun h => hlcd ⟨trivial, h⟩
    simp only [DeviceRecord.capability, probeDevice, capabilitiesFor, if_true, List.find?_append,
      find_lcd_none _ hc]
  by_cases hrgb : id = RGB_CONTROLLER
  · subst hrgb
    simp only [resolved, if_neg hne, if_true]
    refine ⟨trivial, trivial, fun _ => trivial, fun h => absurd rfl h, fun c _ hlighting => ?_⟩
    have hc : c ∉ RGB_CAPABILITIES := fun h => hlighting ⟨trivial, h⟩
    simp only [DeviceRecord.capability, probeDevice, capabilitiesFor, if_neg hne, if_true,
      find_rgb_none _ hc]
  · simp [resolved, hkraken, hrgb]

section Resolved

variable {root : Sysfs} {attaches : List Attach} {id : DeviceId} {c : Capability}

theorem resolved_state (h : c ∈ (resolved root attaches id).capabilities) :
    c.id ∈ THERMAL_CAPABILITIES ∨ (c.id = .lcdFrame ∧ c.state = lcdFrameState (lastLcd attaches)) ∨
      (c.id = .lcdDisplayControl ∧ c.state = lcdState (lastLcd attaches)) ∨
      (c.id ∈ RGB_CAPABILITIES ∧ c.state = rgbState (lastRgb attaches)) := by
  rcases mem_resolved h with hthermal | hlcd | hrgb
  · exact .inl hthermal
  · rcases lcdCapabilities_state hlcd with hframe | hcontrol
    · exact .inr (.inl hframe)
    · exact .inr (.inr (.inl hcontrol))
  · exact .inr (.inr (.inr (rgbCapabilities_state hrgb)))

theorem resolved_frame (h : c ∈ (resolved root attaches id).capabilities) (hid : c.id = .lcdFrame) :
    c.state = lcdFrameState (lastLcd attaches) := by
  have hstate := resolved_state h
  rw [hid] at hstate
  rcases hstate with hthermal | ⟨-, hstate⟩ | ⟨hother, -⟩ | ⟨hother, -⟩
  · exact absurd hthermal (by decide)
  · exact hstate
  · cases hother
  · exact absurd hother (by decide)

theorem resolved_control (h : c ∈ (resolved root attaches id).capabilities) (hid : c.id = .lcdDisplayControl) :
    c.state = lcdState (lastLcd attaches) := by
  have hstate := resolved_state h
  rw [hid] at hstate
  rcases hstate with hthermal | ⟨hother, -⟩ | ⟨-, hstate⟩ | ⟨hother, -⟩
  · exact absurd hthermal (by decide)
  · cases hother
  · exact hstate
  · exact absurd hother (by decide)

theorem resolved_lighting (h : c ∈ (resolved root attaches id).capabilities) (hid : c.id ∈ RGB_CAPABILITIES) :
    c.state = rgbState (lastRgb attaches) := by
  rcases resolved_state h with hthermal | ⟨hother, -⟩ | ⟨hother, -⟩ | ⟨-, hstate⟩
  · have hdisjoint : ∀ id ∈ RGB_CAPABILITIES, id ∉ THERMAL_CAPABILITIES := by decide
    exact absurd hthermal (hdisjoint _ hid)
  · rw [hother] at hid
    exact absurd hid (by decide)
  · rw [hother] at hid
    exact absurd hid (by decide)
  · exact hstate

theorem device_probe : (probe root).device id = if id ∈ probedIds root then some (probeDevice root id) else none :=
  find_map_device (probeDevice root) (fun _ => rfl) (probedIds root) id

theorem device_attachAll (hdistinct : (probedIds root).Nodup) :
    (attachAll (probe root) attaches).device id =
      if id ∈ probedIds root then some (resolved root attaches id) else none := by
  unfold CapabilityRecord.device
  rw [attachAll_devices root hdistinct attaches]
  exact find_map_device _ (resolved_id root attaches) (probedIds root) id

end Resolved

/-- Over every probed record and every sequence of answers folded into it, what is writable of the
panel and of the lighting depends on the last answers only, each capability is there once, and
nothing else changes. -/
theorem attached_evidence_decides (root : Sysfs)
    (hdistinct : ((probe root).devices.map DeviceRecord.id).Nodup) (attaches : List Attach) :
    EvidenceDecides (probe root) (attachAll (probe root) attaches) attaches := by
  have hids : (probe root).devices.map DeviceRecord.id = probedIds root := by
    rw [probe_devices, List.map_map]
    exact List.map_id' (probedIds root)
  rw [hids] at hdistinct
  have hafter := attachAll_devices root hdistinct attaches
  have hresolved : ∀ device ∈ (attachAll (probe root) attaches).devices,
      ∃ id, resolved root attaches id = device := by
    intro device hin
    rw [hafter, List.mem_map] at hin
    obtain ⟨id, -, hdevice⟩ := hin
    exact ⟨id, hdevice⟩
  constructor
  case frame =>
    intro device hin c hc hid
    obtain ⟨_, rfl⟩ := hresolved device hin
    rw [resolved_frame hc hid]
    exact lcdFrameState_writable _
  case control =>
    intro device hin c hc hid
    obtain ⟨_, rfl⟩ := hresolved device hin
    rw [resolved_control hc hid]
    exact lcdState_writable _
  case lighting =>
    intro device hin c hc hid
    obtain ⟨_, rfl⟩ := hresolved device hin
    rw [resolved_lighting hc hid]
    exact rgbState_writable _
  case once =>
    intro c
    have hpresent : ((probe root).device c.owner).isSome = true ↔ c.owner ∈ probedIds root := by
      rw [device_probe]
      split <;> simp [*]
    rw [hafter, List.flatMap_map, if_congr hpresent rfl rfl]
    exact count_resolved root attaches c hdistinct
  case devices =>
    rw [hids, hafter, List.map_map]
    have hid : DeviceRecord.id ∘ resolved root attaches = id := funext (resolved_id root attaches)
    rw [hid, List.map_id]
  case silent =>
    intro id hlcd hrgb
    rw [device_probe, device_attachAll hdistinct]
    split
    · rw [← resolved_nil root id]
      exact congrArg some (resolved_congr root hlcd hrgb)
    · rfl
  case others =>
    intro id before device hbefore hnow
    rw [device_probe] at hbefore
    rw [device_attachAll hdistinct] at hnow
    split at hbefore
    · rename_i hpresent
      rw [if_pos hpresent] at hnow
      cases hbefore
      cases hnow
      exact resolved_others root attaches id
    · cases hbefore

/-- A bus with the cooler and a lighting controller. -/
def benchBus : Sysfs := { usb := [KRAKEN_BASE, RGB_CONTROLLER], hwmon := [] }

/-- A controller of a validated firmware that answered so many channels. -/
def answeredRgb (channels : Nat) : RgbTopology :=
  { node := .known "/dev/hidraw12" "sysfs"
    firmware := .known "1.5.0" "report 0x11 0x01"
    channels := .known (List.replicate channels
      { index := 1, accessories := [], ledCount := .unknown "not reported" "report 0x21 0x03" })
      "report 0x21 0x03" }

theorem attached_evidence_decides_bench :
    EvidenceDecides (probe benchBus) (attachAll (probe benchBus) [.rgb (answeredRgb 3), .rgb (answeredRgb 0)])
      [.rgb (answeredRgb 3), .rgb (answeredRgb 0)] :=
  attached_evidence_decides benchBus (by decide) _

/-- A controller that answers 256 channels, more than a channel byte can address, is refused. -/
theorem crowded_controller_refused :
    (answeredRgb 256).node.isKnown = true ∧
    ((answeredRgb 256).channels.value.map List.length) = some 256 ∧
    ((answeredRgb 256).firmware.value.map RgbController.isValidatedFirmware) = some true ∧
    (((attachAll (probe benchBus) [.rgb (answeredRgb 256)]).device RGB_CONTROLLER).bind
      (·.capability .rgbFixedColor)).map (·.state.isWritable) = some false := by
  decide +kernel

end Kori
