import Kori.Daemon.Startup
import Kori.Daemon.State.Access
import Kori.Hardware.Probe.Attached

/-! # The handles the daemon holds are the ones its record says it may use -/

open Faulty

namespace Kori

/-! ## What asking sends -/

namespace Hid

theorem postAll_sent {ε : Type} (messages : List Report) (line : Line Report Report ε) :
    ∃ k, (postAll messages line).2.sent = line.sent ++ messages.take k := by
  induction messages generalizing line with
  | nil => exact ⟨0, (List.append_nil _).symm⟩
  | cons message rest ih =>
    rw [postAll, lineIo_bind, post]
    cases hrefuses : line.refuses line.sent.length with
    | some error => exact ⟨0, (List.append_nil _).symm⟩
    | none =>
      obtain ⟨k, hsent⟩ := ih (line.posted message)
      refine ⟨k + 1, hsent.trans ?_⟩
      rw [Line.posted_sent, List.append_assoc]
      rfl

theorem collect_sent {ε : Type} (exchanges : List Hid.Exchange) (budget : Nat) (received : List (Option Report))
    (line : Line Report Report ε) : (collect exchanges budget received line).2.sent = line.sent := by
  induction budget generalizing received line with
  | zero => rfl
  | succ budget ih =>
    rw [collect]
    split
    · rfl
    · have hlisten : listen line = (line.incoming line.heard.length, line.listened) := rfl
      rw [lineIo_bind, hlisten]
      cases line.incoming line.heard.length with
      | error error => exact line.listened_sent
      | ok answer =>
        cases answer with
        | none => exact line.listened_sent
        | some report =>
          dsimp only
          cases slotOf exchanges report with
          | none => exact (ih _ _).trans line.listened_sent
          | some slot => exact (ih _ _).trans line.listened_sent

theorem ask_sent {ε : Type} (exchanges : List Hid.Exchange) (line : Line Report Report ε) :
    ∃ k, (ask exchanges line).2.sent = line.sent ++ (exchanges.map fun exchange => query exchange.1).take k := by
  obtain ⟨k, hsent⟩ := postAll_sent (exchanges.map fun exchange => query exchange.1) line
  refine ⟨k, ?_⟩
  rw [ask, lineIo_bind]
  split
  · rename_i heq
    rw [heq] at hsent
    rw [collect_sent]
    exact hsent
  · rename_i heq
    rw [heq] at hsent
    exact hsent

end Hid

theorem RgbController.inspect_line (source : String) (line : Hid.HidLine) :
    (RgbController.inspect source line).2 = (Hid.ask RgbController.QUERY line).2 := by
  unfold RgbController.inspect
  cases Hid.ask RgbController.QUERY line with
  | mk result after => cases result <;> rfl

theorem LcdLink.inspect_line (source : String) (bulkNode : Evidenced String) (line : Hid.HidLine) :
    (LcdLink.inspect source bulkNode line).2 = (Hid.ask LcdLink.QUERY line).2 := by
  unfold LcdLink.inspect
  cases Hid.ask LcdLink.QUERY line with
  | mk result after => cases result <;> rfl

/-! ## The record -/

namespace CapabilityRecord

theorem device_updateDevice (change : DeviceRecord → DeviceRecord) (hid : ∀ device, (change device).id = device.id)
    (devices : List DeviceRecord) (target id : DeviceId) :
    (updateDevice target change devices).find? (fun device => device.id = id) =
      if id = target then (devices.find? fun device => device.id = id).map change
      else devices.find? fun device => device.id = id := by
  induction devices with
  | nil => simp [updateDevice]
  | cons device rest ih =>
    unfold updateDevice
    by_cases htarget : device.id = target
    · rw [if_pos htarget]
      by_cases hsame : id = target
      · simp [hid, htarget, hsame]
      · have hother : device.id ≠ id := fun h => hsame (h.symm.trans htarget)
        simp [hid, hother, hsame]
    · rw [if_neg htarget]
      by_cases hfound : device.id = id
      · have hother : id ≠ target := fun h => htarget (hfound.trans h)
        simp [hfound, hother]
      · rw [List.find?_cons_of_neg (by simpa using hfound), List.find?_cons_of_neg (by simpa using hfound), ih]

theorem device_attachLcd (record : CapabilityRecord) (topology : LcdTopology) (id : DeviceId) :
    (record.attachLcdTopology topology).device id =
      if id = KRAKEN_BASE then (record.device id).map (·.withLcd topology) else record.device id :=
  device_updateDevice (·.withLcd topology) (fun _ => rfl) record.devices KRAKEN_BASE id

theorem device_attachRgb (record : CapabilityRecord) (topology : RgbTopology) (id : DeviceId) :
    (record.attachRgbTopology topology).device id =
      if id = RGB_CONTROLLER then (record.device id).map (·.withRgb topology) else record.device id :=
  device_updateDevice (·.withRgb topology) (fun _ => rfl) record.devices RGB_CONTROLLER id

end CapabilityRecord

/-! ## One answer, two uses -/

namespace Startup

/-- The executor a topology gives: connected when it names a channel. -/
def lightingFor (topology : RgbTopology) : LightingExecutor :=
  match topology.channels.value with
  | some (channel :: rest) => .connected (reportsOf (channel :: rest))
  | _ => .absent

/-- The executor a topology gives: connected when the panel answered and the bulk interface was claimed. -/
def displayFor (topology : LcdTopology) : DisplayExecutor :=
  if topology.answered && topology.bulkNode.isKnown then .connected LcdLink.candidatePanel else .absent

theorem lightingOf_eq (topology : RgbTopology) (link : Option Hid.HidLine)
    (hlink : link.isSome = topology.channels.isKnown) :
    lightingOf (topology.channels.value.getD []) link = lightingFor topology := by
  unfold lightingOf lightingFor
  rw [hlink, Evidenced.isKnown]
  cases topology.channels.value with
  | none => rfl
  | some channels => cases channels <;> rfl

theorem connect_isSome (node : Option Hid.Node) :
    (RgbController.connect node).2.isSome = (RgbController.connect node).1.channels.isKnown := by
  unfold RgbController.connect
  cases node with
  | none => rfl
  | some node =>
    dsimp only
    cases node.opened with
    | error error => rfl
    | ok opened =>
      dsimp only
      cases (RgbController.inspect node.source (Hid.drain opened.1 opened.2)).1.channels.isKnown <;> rfl

theorem inspect_panel (source : String) (bulkNode : Evidenced String) (line : Hid.HidLine) :
    let topology := (LcdLink.inspect source bulkNode line).1
    topology.bulkNode = bulkNode ∧
      topology.panel.value = if topology.answered then some LcdLink.candidatePanel else none := by
  unfold LcdLink.inspect
  cases Hid.ask LcdLink.QUERY line with
  | mk result after =>
    cases result with
    | error error => exact ⟨rfl, rfl⟩
    | ok received =>
      dsimp only
      cases received[1]?.join.bind LcdLink.displaySettings with
      | none => exact ⟨rfl, rfl⟩
      | some settings => exact ⟨rfl, rfl⟩

theorem displayOf_eq (source : String) (bulkNode : Evidenced String) (line : Hid.HidLine) (link : Option Hid.HidLine)
    (hlink : link.isSome = ((LcdLink.inspect source bulkNode line).1.answered && bulkNode.isKnown)) :
    displayOf (LcdLink.inspect source bulkNode line).1.panel.value link =
      displayFor (LcdLink.inspect source bulkNode line).1 := by
  obtain ⟨hbulk, hpanel⟩ := inspect_panel source bulkNode line
  rw [displayFor, hbulk, hpanel, ← hlink]
  cases link with
  | none =>
    unfold displayOf
    split <;> simp_all
  | some link =>
    obtain ⟨hanswered, -⟩ := Bool.and_eq_true_iff.mp hlink.symm
    rw [if_pos hanswered]
    rfl

theorem connect_display (claim : Option (Except String String)) (node : Option Hid.Node) :
    displayOf (LcdLink.connect claim node).1.panel.value (LcdLink.connect claim node).2 =
      displayFor (LcdLink.connect claim node).1 := by
  unfold LcdLink.connect
  cases node with
  | none => rfl
  | some node =>
    dsimp only
    cases node.opened with
    | error error => rfl
    | ok opened =>
      dsimp only
      cases claim.getD (.error "the device publishes no usbfs node for its bulk interface") with
      | error reason => exact displayOf_eq _ _ _ _ (Bool.and_false _).symm
      | ok bulkSource =>
        refine displayOf_eq _ _ _ _ ?_
        dsimp only
        cases (LcdLink.inspect node.source (.known bulkSource "usbfs") (Hid.drain opened.1 opened.2)).1.answered <;> rfl

variable (nodes : Nodes)

theorem connectLighting_eq (backend : RgbBackend) (record : CapabilityRecord) : ∃ attached : Option RgbTopology,
    connectLighting nodes backend record =
      (attached.elim .absent lightingFor, attached.elim record record.attachRgbTopology) ∧
    (record.device RGB_CONTROLLER = none → attached.elim .absent lightingFor = .absent ∨
      ∃ source line, backend = .transport source line) := by
  cases backend with
  | none => exact ⟨none, rfl, fun _ => .inl rfl⟩
  | hidraw =>
    refine ⟨some (RgbController.connect (hidrawNode nodes record RGB_CONTROLLER)).1, ?_, fun habsent => .inl ?_⟩
    · unfold connectLighting askRgb
      exact Prod.ext (lightingOf_eq _ _ (connect_isSome _)) rfl
    · have hnode : hidrawNode nodes record RGB_CONTROLLER = none := by
        simp [hidrawNode, devicePath, habsent]
      rw [hnode]
      rfl
  | transport source line =>
    refine ⟨some (RgbController.inspect source line).1, ?_, fun _ => .inr ⟨source, line, rfl⟩⟩
    unfold connectLighting
    refine Prod.ext (lightingOf_eq _ _ ?_) rfl
    cases (RgbController.inspect source line).1.channels.isKnown <;> rfl

theorem connectDisplay_eq (backend : LcdBackend) (record : CapabilityRecord) : ∃ attached : Option LcdTopology,
    connectDisplay nodes backend record =
      (attached.elim .absent displayFor, attached.elim record record.attachLcdTopology) ∧
    (record.device KRAKEN_BASE = none → attached.elim .absent displayFor = .absent ∨
      ∃ hidSource bulkSource line, backend = .link hidSource bulkSource line) := by
  cases backend with
  | none => exact ⟨none, rfl, fun _ => .inl rfl⟩
  | nodes =>
    refine ⟨some (LcdLink.connect ((devicePath record KRAKEN_BASE).map fun _ => nodes.usbfs)
      (hidrawNode nodes record KRAKEN_BASE)).1, ?_, fun habsent => .inl ?_⟩
    · unfold connectDisplay askLcd
      exact Prod.ext (connect_display _ _) rfl
    · have hnode : hidrawNode nodes record KRAKEN_BASE = none := by
        simp [hidrawNode, devicePath, habsent]
      rw [hnode]
      rfl
  | link hidSource bulkSource line =>
    refine ⟨some (LcdLink.inspect hidSource (.known bulkSource "usbfs") line).1, ?_,
      fun _ => .inr ⟨hidSource, bulkSource, line, rfl⟩⟩
    unfold connectDisplay
    refine Prod.ext (displayOf_eq _ _ _ _ ?_) rfl
    cases (LcdLink.inspect hidSource (.known bulkSource "usbfs") line).1.answered <;> rfl

/-- The handles are the ones the record tells of, and nothing asks for the panel yet. -/
structure Agrees (rgb : RgbBackend) (lcd : LcdBackend) (found : Found) : Prop where
  lighting : ∀ device, found.capabilities.device RGB_CONTROLLER = some device →
    (found.lighting.transport ↔ ∃ topology channels, device.rgb = some topology ∧
      topology.channels.value = some channels ∧ channels ≠ []) ∧
    found.lighting.channels = reportsOf ((device.rgb.bind (·.channels.value)).getD [])
  lit : ∀ device, found.capabilities.device RGB_CONTROLLER = some device →
    device.canWrite .rgbFixedColor ∨ device.canWrite .rgbEffects → found.lighting.transport
  display : ∀ device, found.capabilities.device KRAKEN_BASE = some device →
    (found.display.isConnected ↔ ∃ topology, device.lcd = some topology ∧ topology.answered ∧ topology.bulkNode.isKnown)
  panel : found.display.isConnected → found.display.panel = some LcdLink.candidatePanel
  shown : ∀ device, found.capabilities.device KRAKEN_BASE = some device →
    device.canWrite .lcdFrame → found.display.isConnected
  absent : found.capabilities.device RGB_CONTROLLER = none → found.lighting.transport →
    ∃ source line, rgb = .transport source line
  gone : found.capabilities.device KRAKEN_BASE = none → found.display.isConnected →
    ∃ hidSource bulkSource line, lcd = .link hidSource bulkSource line
  idle : found.display.Idle

/-- The record of each device is what the answers folded in so far make of it. -/
def Resolves (root : Sysfs) (attaches : List Attach) (record : CapabilityRecord) : Prop :=
  ∀ id device, record.device id = some device → device = resolved root attaches id

theorem resolves_probe (root : Sysfs) : Resolves root [] (probe root) := by
  intro id device h
  rw [device_probe] at h
  split at h
  · rw [resolved_nil]
    exact (Option.some.inj h).symm
  · cases h

theorem Resolves.apply {root : Sysfs} {attaches : List Attach} {record : CapabilityRecord}
    (h : Resolves root attaches record) (answer : Attach) : Resolves root (attaches ++ [answer]) (answer.apply record) := by
  intro id device hdevice
  cases answer with
  | lcd topology =>
    have hattach := record.device_attachLcd topology id
    rw [Attach.apply, hattach] at hdevice
    split at hdevice
    · rename_i hid
      subst hid
      obtain ⟨before, hbefore, rfl⟩ := Option.map_eq_some_iff.mp hdevice
      rw [h _ before hbefore, resolved_withLcd]
    · rename_i hid
      rw [resolved_lcd_of_ne root attaches topology hid]
      exact h id device hdevice
  | rgb topology =>
    have hattach := record.device_attachRgb topology id
    rw [Attach.apply, hattach] at hdevice
    split at hdevice
    · rename_i hid
      subst hid
      obtain ⟨before, hbefore, rfl⟩ := Option.map_eq_some_iff.mp hdevice
      rw [h _ before hbefore, resolved_withRgb]
    · rename_i hid
      rw [resolved_rgb_of_ne root attaches topology hid]
      exact h id device hdevice

theorem device_none_of_apply {record : CapabilityRecord} (answer : Attach) {id : DeviceId}
    (h : (answer.apply record).device id = none) : record.device id = none := by
  cases answer with
  | lcd topology =>
    rw [Attach.apply, record.device_attachLcd] at h
    split at h
    · exact Option.map_eq_none_iff.mp h
    · exact h
  | rgb topology =>
    rw [Attach.apply, record.device_attachRgb] at h
    split at h
    · exact Option.map_eq_none_iff.mp h
    · exact h

theorem canWrite_state {device : DeviceRecord} {id : CapabilityId} (h : device.canWrite id) :
    ∃ c ∈ device.capabilities, c.id = id ∧ c.state.isWritable := by
  rw [DeviceRecord.canWrite, Bool.and_eq_true] at h
  obtain ⟨c, hfind, hwritable⟩ := (Option.any_eq_true _ _).mp h.2
  rw [DeviceRecord.capability] at hfind
  exact ⟨c, List.mem_of_find?_eq_some hfind, by simpa using List.find?_some hfind, hwritable⟩

theorem lighting_transport (attached : Option RgbTopology) :
    (attached.elim LightingExecutor.absent lightingFor).transport ↔ ∃ topology channels, attached = some topology ∧
      topology.channels.value = some channels ∧ channels ≠ [] := by
  cases attached with
  | none => exact ⟨fun h => (by cases h), fun ⟨_, _, h, _⟩ => (by cases h)⟩
  | some topology =>
    change (lightingFor topology).transport ↔ _
    unfold lightingFor
    cases hvalue : topology.channels.value with
    | none => simp [LightingExecutor.absent, hvalue]
    | some channels => cases channels <;> simp [LightingExecutor.absent, LightingExecutor.connected, hvalue]

theorem lighting_channels (attached : Option RgbTopology) :
    (attached.elim LightingExecutor.absent lightingFor).channels =
      reportsOf ((attached.bind (·.channels.value)).getD []) := by
  cases attached with
  | none => rfl
  | some topology =>
    change (lightingFor topology).channels = reportsOf (topology.channels.value.getD [])
    unfold lightingFor
    cases topology.channels.value with
    | none => rfl
    | some channels => cases channels <;> rfl

theorem display_connected (attached : Option LcdTopology) :
    ((attached.elim DisplayExecutor.absent displayFor).isConnected ↔
      ∃ topology, attached = some topology ∧ topology.answered ∧ topology.bulkNode.isKnown) ∧
    ((attached.elim DisplayExecutor.absent displayFor).isConnected →
      (attached.elim DisplayExecutor.absent displayFor).panel = some LcdLink.candidatePanel) ∧
    (attached.elim DisplayExecutor.absent displayFor).Idle := by
  cases attached with
  | none => exact ⟨⟨fun h => (by cases h), fun ⟨_, h, _⟩ => (by cases h)⟩, fun h => (by cases h), rfl, rfl⟩
  | some topology =>
    rw [Option.elim_some]
    by_cases hboth : topology.answered ∧ topology.bulkNode.isKnown
    · have hfor : displayFor topology = .connected LcdLink.candidatePanel := if_pos (Bool.and_eq_true_iff.mpr hboth)
      rw [hfor]
      exact ⟨iff_of_true rfl ⟨topology, rfl, hboth⟩, fun _ => rfl, rfl, rfl⟩
    · have hfor : displayFor topology = .absent := if_neg fun h => hboth (Bool.and_eq_true_iff.mp h)
      rw [hfor]
      refine ⟨iff_of_false (fun h => (by cases h)) ?_, fun h => (by cases h), rfl, rfl⟩
      rintro ⟨_, hsome, hknown⟩
      cases hsome
      exact hboth hknown

theorem agrees_of_resolves {rgb : RgbBackend} {lcd : LcdBackend} {found : Found} {root : Sysfs} {attaches : List Attach}
    (hresolves : Resolves root attaches found.capabilities)
    (hlighting : found.lighting = (lastRgb attaches).elim .absent lightingFor)
    (hdisplay : found.display = (lastLcd attaches).elim .absent displayFor)
    (habsent : found.capabilities.device RGB_CONTROLLER = none → found.lighting = .absent ∨
      ∃ source line, rgb = .transport source line)
    (hgone : found.capabilities.device KRAKEN_BASE = none → found.display = .absent ∨
      ∃ hidSource bulkSource line, lcd = .link hidSource bulkSource line) : Agrees rgb lcd found := by
  have hrgb : (resolved root attaches RGB_CONTROLLER).rgb = lastRgb attaches := rfl
  have hlcd : (resolved root attaches KRAKEN_BASE).lcd = lastLcd attaches := rfl
  have hpanel := display_connected (lastLcd attaches)
  rw [← hdisplay] at hpanel
  refine ⟨fun device h => ?_, fun device h hwritable => ?_, fun device h => ?_, hpanel.2.1, fun device h hwritable => ?_,
    fun h htransport => ?_, fun h hconnected => ?_, hpanel.2.2⟩
  · rw [hresolves _ device h, hrgb, hlighting]
    exact ⟨lighting_transport _, lighting_channels _⟩
  · have hstate : (rgbState (lastRgb attaches)).isWritable := by
      rcases hwritable with hwritable | hwritable
      · obtain ⟨c, hmem, hid, hc⟩ := canWrite_state hwritable
        rw [hresolves _ device h] at hmem
        rwa [resolved_lighting hmem (by rw [hid]; decide)] at hc
      · obtain ⟨c, hmem, hid, hc⟩ := canWrite_state hwritable
        rw [hresolves _ device h] at hmem
        rwa [resolved_lighting hmem (by rw [hid]; decide)] at hc
    obtain ⟨topology, hlast, hproven⟩ := (rgbState_writable _).mp hstate
    obtain ⟨channels, hvalue, hlength, -⟩ := hproven.channels
    rw [hlighting]
    refine (lighting_transport _).mpr ⟨topology, channels, hlast, hvalue, fun hnil => ?_⟩
    rw [hnil] at hlength
    cases hlength
  · rw [hresolves _ device h, hlcd]
    exact hpanel.1
  · obtain ⟨c, hmem, hid, hc⟩ := canWrite_state hwritable
    rw [hresolves _ device h] at hmem
    rw [resolved_frame hmem hid] at hc
    obtain ⟨topology, hlast, hproven, hbulk⟩ := (lcdFrameState_writable _).mp hc
    exact hpanel.1.mpr ⟨topology, hlast, hproven.answered, hbulk⟩
  · exact (habsent h).resolve_left fun hgiven => by rw [hgiven] at htransport; cases htransport
  · exact (hgone h).resolve_left fun hgiven => by rw [hgiven] at hconnected; cases hconnected

end Startup

open Startup in
/-- However the nodes open and whatever the devices answer, the daemon comes up holding a handle to the controller
exactly where its record lists a channel, and one to the panel where it answered and its bulk interface is known, so
that nothing it may write lacks one; asking sent the queries and nothing else. -/
theorem startup_holds_what_answered (nodes : Nodes) (root : Sysfs) (rgb : RgbBackend) (lcd : LcdBackend)
    (conflicts : List OwnershipConflict) (socketPath : String) :
    Agrees rgb lcd (found nodes root rgb lcd conflicts socketPath) ∧
    (∀ source line, ∃ k, (RgbController.inspect source line).2.sent =
      line.sent ++ (RgbController.QUERY.map fun exchange => Hid.query exchange.1).take k) ∧
    ∀ source bulkNode line, ∃ k, (LcdLink.inspect source bulkNode line).2.sent =
      line.sent ++ (LcdLink.QUERY.map fun exchange => Hid.query exchange.1).take k := by
  obtain ⟨attachedRgb, hrgb, hrgbAbsent⟩ := connectLighting_eq nodes rgb (probe root)
  obtain ⟨attachedLcd, hlcd, hlcdAbsent⟩ :=
    connectDisplay_eq nodes lcd (attachedRgb.elim (probe root) (probe root).attachRgbTopology)
  have hfound : found nodes root rgb lcd conflicts socketPath =
      { capabilities := attachedLcd.elim (attachedRgb.elim (probe root) (probe root).attachRgbTopology)
          (attachedRgb.elim (probe root) (probe root).attachRgbTopology).attachLcdTopology
        conflicts, lighting := attachedRgb.elim .absent lightingFor, display := attachedLcd.elim .absent displayFor
        socketPath } := by
    unfold found
    rw [hrgb]
    dsimp only
    rw [hlcd]
  obtain ⟨attaches, hresolves, hlastRgb, hlastLcd⟩ : ∃ attaches, Resolves root attaches
      (found nodes root rgb lcd conflicts socketPath).capabilities ∧
      lastRgb attaches = attachedRgb ∧ lastLcd attaches = attachedLcd := by
    rw [hfound]
    have hprobe := resolves_probe root
    cases attachedRgb with
    | none =>
      cases attachedLcd with
      | none => exact ⟨_, hprobe, rfl, rfl⟩
      | some panel => exact ⟨_, hprobe.apply (.lcd panel), rfl, rfl⟩
    | some controller =>
      cases attachedLcd with
      | none => exact ⟨_, hprobe.apply (.rgb controller), rfl, rfl⟩
      | some panel => exact ⟨_, (hprobe.apply (.rgb controller)).apply (.lcd panel), rfl, rfl⟩
  have hsome : ∀ id, (attachedRgb.elim (probe root) (probe root).attachRgbTopology).device id = none →
      (probe root).device id = none := by
    intro id h
    cases attachedRgb with
    | none => exact h
    | some controller => exact device_none_of_apply (.rgb controller) h
  refine ⟨agrees_of_resolves hresolves ?_ ?_ (fun h => ?_) fun h => ?_, fun source line => ?_,
    fun source bulkNode line => ?_⟩
  · rw [hfound, hlastRgb]
  · rw [hfound, hlastLcd]
  · rw [hfound] at h ⊢
    refine hrgbAbsent (hsome _ ?_)
    cases attachedLcd with
    | none => exact h
    | some panel => exact device_none_of_apply (.lcd panel) h
  · rw [hfound] at h ⊢
    refine hlcdAbsent ?_
    cases attachedLcd with
    | none => exact h
    | some panel => exact device_none_of_apply (.lcd panel) h
  · rw [RgbController.inspect_line]
    exact Hid.ask_sent _ line
  · rw [LcdLink.inspect_line]
    exact Hid.ask_sent _ line

end Kori
