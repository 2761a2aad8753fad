import Kori.Core.Profile
import Kori.Daemon.Cooling.Counted
import Kori.Hardware.Probe.Attached

/-! # What the capability gate covers of a transaction -/

open Faulty

namespace Kori

/-! ## Counting curve points -/

/-- What the channels counted so far say of the files seen so far. -/
structure CountsFiles (files : List SysfsFile) (channels : List CurveChannel) : Prop where
  nodup : (channels.map CurveChannel.tempIndex).Nodup
  covers : ∀ file ∈ files, ∀ n, parseCurvePoint file.name = some n →
    n ∈ channels.map CurveChannel.tempIndex
  writable : ∀ c ∈ channels, c.writable = true → ∀ file ∈ files,
    parseCurvePoint file.name = some c.tempIndex → file.writable = true

theorem countPoint_indices (n : UInt8) (w : Bool) (channels : List CurveChannel) :
    (countPoint n w channels).map CurveChannel.tempIndex =
      if n ∈ channels.map CurveChannel.tempIndex then channels.map CurveChannel.tempIndex
      else channels.map CurveChannel.tempIndex ++ [n] := by
  induction channels with
  | nil => simp [countPoint]
  | cons c rest ih =>
    unfold countPoint
    by_cases h : c.tempIndex = n
    · simp [h]
    · rw [if_neg h, List.map_cons, ih]
      by_cases hmem : n ∈ rest.map CurveChannel.tempIndex
      · simp [hmem]
      · simp [hmem, Ne.symm h]

theorem mem_countPoint {n : UInt8} {w : Bool} {channels : List CurveChannel} {c : CurveChannel}
    (hnodup : (channels.map CurveChannel.tempIndex).Nodup) (h : c ∈ countPoint n w channels) :
    (c ∈ channels ∧ c.tempIndex ≠ n) ∨
    (c.tempIndex = n ∧ (c.writable = true → w = true) ∧
      (n ∈ channels.map CurveChannel.tempIndex →
        ∃ old ∈ channels, old.tempIndex = n ∧ (c.writable = true → old.writable = true))) := by
  induction channels with
  | nil =>
    rw [countPoint, List.mem_singleton] at h
    subst h
    exact .inr ⟨rfl, id, by simp⟩
  | cons first rest ih =>
    rw [List.map_cons, List.nodup_cons] at hnodup
    unfold countPoint at h
    split at h
    · rename_i hfirst
      rw [List.mem_cons] at h
      rcases h with rfl | h
      · refine .inr ⟨hfirst, fun hw => ?_, fun _ => ⟨first, by simp, hfirst, fun hw => ?_⟩⟩
        · exact (Bool.and_eq_true_iff.mp hw).2
        · exact (Bool.and_eq_true_iff.mp hw).1
      · refine .inl ⟨List.mem_cons_of_mem _ h, fun heq => hnodup.1 ?_⟩
        rw [hfirst, ← heq]
        exact List.mem_map_of_mem h
    · rename_i hfirst
      rw [List.mem_cons] at h
      rcases h with rfl | h
      · exact .inl ⟨List.mem_cons_self, hfirst⟩
      · refine (ih hnodup.2 h).imp (fun hold => ⟨List.mem_cons_of_mem _ hold.1, hold.2⟩) ?_
        rintro ⟨hn, hw, hold⟩
        refine ⟨hn, hw, fun hmem => ?_⟩
        rw [List.map_cons, List.mem_cons] at hmem
        obtain ⟨old, hin, hindex⟩ := hold (hmem.resolve_left fun heq => hfirst heq.symm)
        exact ⟨old, List.mem_cons_of_mem _ hin, hindex⟩

theorem CountsFiles.step {files : List SysfsFile} {channels : List CurveChannel}
    (h : CountsFiles files channels) (file : SysfsFile) :
    CountsFiles (files ++ [file]) (match parseCurvePoint file.name with
      | none => channels
      | some index => countPoint index file.writable channels) := by
  cases hparse : parseCurvePoint file.name with
  | none =>
    refine ⟨h.nodup, fun f hf n hn => ?_, fun c hc hw f hf hn => ?_⟩
    all_goals
      rw [List.mem_append, List.mem_singleton] at hf
      rcases hf with hf | rfl
    · exact h.covers f hf n hn
    · simp [hparse] at hn
    · exact h.writable c hc hw f hf hn
    · simp [hparse] at hn
  | some index =>
    dsimp only
    have hindices := countPoint_indices index file.writable channels
    refine ⟨?_, fun f hf n hn => ?_, fun c hc hw f hf hn => ?_⟩
    · rw [hindices]
      split
      · exact h.nodup
      · rename_i hnew
        simpa [List.nodup_append] using ⟨h.nodup, fun x hx heq => hnew (heq ▸ List.mem_map_of_mem hx)⟩
    · rw [hindices]
      rw [List.mem_append, List.mem_singleton] at hf
      rcases hf with hf | rfl
      · have hold := h.covers f hf n hn
        split
        · exact hold
        · exact List.mem_append_left _ hold
      · cases hparse.symm.trans hn
        split
        · assumption
        · simp
    · rw [List.mem_append, List.mem_singleton] at hf
      rcases mem_countPoint h.nodup hc with ⟨hold, hne⟩ | ⟨hindex, hnow, hbefore⟩
      · rcases hf with hf | rfl
        · exact h.writable c hold hw f hf hn
        · exact absurd (Option.some.inj (hn.symm.trans hparse)) hne
      · rcases hf with hf | rfl
        · rw [hindex] at hn
          obtain ⟨old, hold, holdIndex, holdWritable⟩ := hbefore (h.covers f hf index hn)
          exact h.writable old hold (holdWritable hw) f hf (holdIndex ▸ hn)
        · exact hnow hw

theorem countsFiles_fold (files : List SysfsFile) :
    CountsFiles files (files.foldl (fun channels file =>
      match parseCurvePoint file.name with
      | none => channels
      | some index => countPoint index file.writable channels) []) := by
  induction files using List.reverseRecOn with
  | nil => exact ⟨List.nodup_nil, by simp, by simp⟩
  | append_singleton files file ih =>
    rw [List.foldl_append, List.foldl_cons, List.foldl_nil]
    exact ih.step file

theorem curveChannels_writable {files : List SysfsFile} {c : CurveChannel}
    (h : c ∈ curveChannels files) (hw : c.writable = true) {file : SysfsFile} (hfile : file ∈ files)
    (hname : parseCurvePoint file.name = some c.tempIndex) : file.writable = true := by
  unfold curveChannels at h
  dsimp only at h
  rw [List.mem_mergeSort] at h
  exact (countsFiles_fold files).writable c h hw file hfile hname

/-! ## What an open gate vouches for -/

namespace HwmonInstance

variable {found : HwmonInstance}

theorem canWrite_of_controlState {name : String}
    (h : (controlState (readCapabilities found) name).isWritable = true) : found.canWrite name = true := by
  unfold controlState at h
  split at h
  · rename_i entry hentry
    have hname : entry.name = name := by simpa using List.find?_some hentry
    have hmem := List.mem_of_find?_eq_some hentry
    simp only [readCapabilities, List.mem_filterMap] at hmem
    obtain ⟨file, hfile, hattr⟩ := hmem
    split at hattr
    · cases hattr
    split at hattr
    · cases hattr
    cases hattr
    refine List.any_eq_true.mpr ⟨file, hfile, ?_⟩
    rw [CapabilityState.isWritable] at h
    simp only [Bool.and_eq_true, decide_eq_true_eq]
    exact ⟨hname, h⟩
  · cases h

theorem canWrite_of_curveState {n : UInt8} {name : String}
    (h : (curveState (readCapabilities found) n).isWritable = true)
    (hname : parseCurvePoint name = some n) (hexposes : found.exposes name = true) :
    found.canWrite name = true := by
  obtain ⟨file, hfile, heq⟩ := List.any_eq_true.mp hexposes
  rw [decide_eq_true_eq] at heq
  unfold curveState at h
  split at h
  · rename_i channel hchannel
    split at h
    · have hindex : channel.tempIndex = n := by simpa using List.find?_some hchannel
      have hwritable : file.writable = true :=
        curveChannels_writable (List.mem_of_find?_eq_some hchannel) h hfile
          (by rw [heq, hname, hindex])
      refine List.any_eq_true.mpr ⟨file, hfile, ?_⟩
      simp only [Bool.and_eq_true, decide_eq_true_eq]
      exact ⟨heq, hwritable⟩
    · cases h
  · cases h

end HwmonInstance

/-- The instance the record of the cooler describes, whatever driver it is bound to. -/
def probedInstance (root : Sysfs) : Option HwmonInstance :=
  (HwmonInstance.discover root).find? fun found => found.device = KRAKEN_BASE

theorem probedInstance_of_locate {root : Sysfs} {found : HwmonInstance}
    (h : HwmonInstance.locate root = some found) : ∃ probed, probedInstance root = some probed := by
  unfold probedInstance
  rw [← Option.isSome_iff_exists, List.find?_isSome]
  have hfound := List.find?_some h
  simp only [decide_eq_true_eq] at hfound
  exact ⟨found, List.mem_of_find?_eq_some h, by simpa using hfound.1⟩

theorem kraken_capability {root : Sysfs} {kraken : DeviceRecord} {probed : HwmonInstance}
    (hkraken : (probe root).device KRAKEN_BASE = some kraken) (hprobed : probedInstance root = some probed) :
    kraken.capabilities = krakenCapabilities (some (readCapabilities probed)) ++ lcdCapabilities none := by
  rw [device_probe] at hkraken
  split at hkraken
  · cases hkraken
    unfold probedInstance at hprobed
    simp only [probeDevice, capabilitiesFor, if_true, hprobed, Option.map_some]
  · cases hkraken

theorem toList_point_name (channel : Channel) (i : Fin CURVE_POINT_COUNT) :
    (Attribute.point channel i).name.toList = "temp".toList ++ Nat.toDigits 10 (channelIndex channel) ++
      "_auto_point".toList ++ Nat.toDigits 10 (i.val + 1) ++ "_pwm".toList := by
  simp only [Attribute.name, String.toList_append, Nat.toString_eq_repr, Nat.toList_repr]
  rfl

theorem parseCurvePoint_point (channel : Channel) (i : Fin CURVE_POINT_COUNT) :
    parseCurvePoint (Attribute.point channel i).name = some (UInt8.ofNat (channelIndex channel)) := by
  unfold parseCurvePoint
  rw [toList_point_name]
  revert channel i
  decide +kernel

theorem vouched_of_open {root : Sysfs} {program : CoolingProgram} {kraken : DeviceRecord}
    {probed : HwmonInstance} (hkraken : (probe root).device KRAKEN_BASE = some kraken)
    (hprobed : probedInstance root = some probed) (hopen : programIncompatibilities program kraken = []) :
    match program with
    | .onboard => True
    | .fixed .. => ∀ channel, probed.canWrite (Attribute.duty channel).name = true
    | .curve .. => ∀ channel i, probed.exposes (Attribute.point channel i).name = true →
        probed.canWrite (Attribute.point channel i).name = true := by
  have hcapabilities := kraken_capability hkraken hprobed
  cases program with
  | onboard => trivial
  | fixed pump fan =>
    intro channel
    cases channel with
    | pump =>
      obtain ⟨entry, hentry, hw⟩ := programIncompatibilities_eq_nil.mp hopen _ (by decide : CapabilityId.pumpDuty ∈ [_, _])
      rw [DeviceRecord.capability, hcapabilities] at hentry
      cases hentry
      exact HwmonInstance.canWrite_of_controlState hw
    | fan =>
      obtain ⟨entry, hentry, hw⟩ := programIncompatibilities_eq_nil.mp hopen _ (by decide : CapabilityId.fanDuty ∈ [_, _])
      rw [DeviceRecord.capability, hcapabilities] at hentry
      cases hentry
      exact HwmonInstance.canWrite_of_controlState hw
  | curve pump fan =>
    intro channel i hexposes
    have hname := parseCurvePoint_point channel i
    cases channel with
    | pump =>
      obtain ⟨entry, hentry, hw⟩ := programIncompatibilities_eq_nil.mp hopen _ (by decide : CapabilityId.pumpCurve ∈ [_, _])
      rw [DeviceRecord.capability, hcapabilities] at hentry
      cases hentry
      exact HwmonInstance.canWrite_of_curveState hw hname hexposes
    | fan =>
      obtain ⟨entry, hentry, hw⟩ := programIncompatibilities_eq_nil.mp hopen _ (by decide : CapabilityId.fanCurve ∈ [_, _])
      rw [DeviceRecord.capability, hcapabilities] at hentry
      cases hentry
      exact HwmonInstance.canWrite_of_curveState hw hname hexposes

/-! ## What a transaction may write -/

/-- An attribute was written, or tried. -/
def Touched (attr : Attribute) (log : List HwEvent) : Prop :=
  ∃ value ok met left, .issued ⟨attr, value⟩ ok met left ∈ log

theorem Touched.mono {attr : Attribute} {l l' : List HwEvent} (h : Touched attr l) (hgrows : l <+: l') :
    Touched attr l' := by
  obtain ⟨value, ok, met, left, hmem⟩ := h
  exact ⟨value, ok, met, left, hgrows.subset hmem⟩

/-- A program's transaction, on one of its channels and from some state of the device, touches an
attribute. -/
def MayWrite (control : CoolingControl) (program : CoolingProgram) (attr : Attribute) : Prop :=
  ∃ targets, program.targets = some targets ∧ ∃ x ∈ targets, ∃ w : HwWorld,
    Touched attr ((CoolingExecutor.write control x.1 x.2).run.run hwmonDevice w.fresh).2.log

/-- The attributes of a program's transaction: the duty and the mode of each channel, and for a curve
its points. -/
def CoolingProgram.Writes : CoolingProgram → Attribute → Prop
  | .onboard, _ => False
  | .fixed .., attr => ∃ channel, attr = .duty channel ∨ attr = .mode channel
  | .curve .., attr => ∃ channel, attr = .duty channel ∨ attr = .mode channel ∨
      ∃ i, attr = .point channel i

section Touch

variable {s : HwSeen} {control : CoolingControl} {channel : Channel}

theorem write_reliable {β : Type} {attr : Attribute} {value : UInt8} {f : Unit → Transaction β}
    {Q : Except WriteFailure β → HwSeen → Prop}
    (h : wp hwmonDevice.reliable (f ()).run Q (s.issued ⟨attr, value⟩ true (s.state.put attr value))) :
    wp hwmonDevice.reliable (control.write attr value >>= f).run Q s := by
  rw [wp_run_bind, CoolingControl.write, wp_run_bind, wp_run_lift, wp_issue]
  refine ⟨fun hrefused => ?_, h⟩
  cases hrefused

theorem touched_issued (attr : Attribute) (value : UInt8) (left : Attributes) :
    Touched attr (s.issued ⟨attr, value⟩ true left).log :=
  ⟨value, true, s.state, left, by simp⟩

theorem Touched.issued {attr : Attribute} (h : Touched attr s.log) (write : AttributeWrite) (ok : Bool)
    (left : Attributes) : Touched attr (s.issued write ok left).log :=
  h.mono (List.prefix_append _ _)

theorem applyFixed_touches (duty : UInt8) :
    wp hwmonDevice.reliable (control.applyFixed channel duty).run (fun _ s' =>
      Touched (.duty channel) s'.log ∧ Touched (.mode channel) s'.log) s := by
  unfold CoolingControl.applyFixed
  refine write_reliable (write_reliable ?_)
  refine wp_mono wp_log_grows fun _ t hgrows => ⟨Touched.mono ?_ hgrows, Touched.mono ?_ hgrows⟩
  · exact (touched_issued (.duty channel) duty _).issued _ _ _
  · exact touched_issued _ _ _

theorem leaveCurve_touches (curve : TemperatureCurve) (h : s.state.mode channel = some .curve) :
    wp hwmonDevice.reliable (control.leaveCurve channel curve).run (fun r s' => (∃ n, r = .ok n) ∧
      Touched (.duty channel) s'.log ∧ Touched (.mode channel) s'.log) s := by
  unfold CoolingControl.leaveCurve KrakenHwmon.mode KrakenHwmon.readParsed
  rw [wp_run_bind, wp_run_lift, wp_bind, wp_bind, wp_look]
  refine ⟨nofun, ?_⟩
  have hmode : ((s.state (.mode channel)).parsed Text.parseU8).bind PwmMode.fromKernel = some .curve := h
  change wp hwmonDevice.reliable (ExceptT.run (if
    ((s.state (.mode channel)).parsed Text.parseU8).bind PwmMode.fromKernel = some .curve then _ else _)) _ _
  rw [if_pos hmode, wp_run_bind, wp_run_lift]
  refine wp_mono wp_true fun holding t _ => write_reliable (write_reliable ?_)
  refine ⟨⟨2, rfl⟩, ?_, touched_issued _ _ _⟩
  exact (touched_issued (.duty channel) holding _).issued _ _ _

theorem points_touch (curve : TemperatureCurve) (l : List (Fin CURVE_POINT_COUNT)) :
    wp hwmonDevice.reliable (l.forM fun i => control.write (.point channel i) (curve.points.get i)).run
      (fun r s' => (∃ a, r = .ok a) ∧ ∀ i ∈ l, Touched (.point channel i) s'.log) s := by
  refine wp_run_forM l _ (fun past t => ∀ i ∈ past, Touched (.point channel i) t.log) _ ?_
    (fun t ht => ⟨⟨_, rfl⟩, ht⟩) (by simp)
  intro past i t _ ht
  rw [CoolingControl.write, wp_run_bind, wp_run_lift, wp_issue]
  refine ⟨fun hrefused => ?_, fun j hj => ?_⟩
  · cases hrefused
  rw [List.mem_append, List.mem_singleton] at hj
  rcases hj with hj | rfl
  · exact (ht j hj).issued _ _ _
  · exact touched_issued _ _ _

theorem applyCurve_touches (curve : TemperatureCurve) (h : s.state.mode channel = some .curve) :
    wp hwmonDevice.reliable (control.applyCurve channel curve).run (fun _ s' =>
      Touched (.duty channel) s'.log ∧ Touched (.mode channel) s'.log ∧
      ∀ i, Touched (.point channel i) s'.log) s := by
  have hstage : wp hwmonDevice.reliable (control.stageCurve channel curve).run (fun r s' =>
      (∃ n, r = .ok n) ∧ Touched (.duty channel) s'.log ∧ Touched (.mode channel) s'.log ∧
      ∀ i, Touched (.point channel i) s'.log) s := by
    unfold CoolingControl.stageCurve
    refine wp_run_step (leaveCurve_touches curve h) ?_ ?_
    · rintro e t ⟨⟨n, hn⟩, -⟩
      cases hn
    rintro writes t ⟨-, hduty, hmode⟩
    refine wp_run_step (wp_and (points_touch curve _) wp_log_grows) ?_ ?_
    · rintro e u ⟨⟨⟨a, ha⟩, -⟩, -⟩
      cases ha
    rintro _ u ⟨⟨-, hpoints⟩, hgrows⟩
    exact ⟨⟨_, rfl⟩, hduty.mono hgrows, hmode.mono hgrows, fun i => hpoints i (List.mem_finRange i)⟩
  unfold CoolingControl.applyCurve
  refine wp_run_step hstage ?_ ?_
  · rintro e t ⟨⟨n, hn⟩, -⟩
    cases hn
  rintro writes t ⟨-, hduty, hmode, hpoints⟩
  refine wp_mono wp_log_grows fun _ u hgrows => ?_
  exact ⟨hduty.mono hgrows, hmode.mono hgrows, fun i => (hpoints i).mono hgrows⟩

end Touch

/-- A device in curve mode on which nothing fails. -/
def curvingWorld : HwWorld :=
  { state := fun _ => .text ['2'], log := [], faults := fun _ => none, times := fun _ => 0 }

theorem mayWrite_iff (control : CoolingControl) (program : CoolingProgram) (attr : Attribute) :
    MayWrite control program attr ↔ program.Writes attr := by
  constructor
  · rintro ⟨targets, htargets, ⟨channel, target⟩, hx, w, value, ok, met, left, hmem⟩
    -- What is touched is what the transaction may issue.
    have hissues : ∀ {φ : AttributeWrite → Prop},
        Issues φ (CoolingExecutor.write control channel target).run → φ ⟨attr, value⟩ := by
      intro φ hφ
      have hadds := run_adds (D := hwmonDevice) hφ
        (fun e => match e with | .issued write .. => φ write | .looked .. => True)
        (fun _ _ => trivial) (fun _ _ _ _ h => h) w.fresh
      exact hadds.log (by simp) _ hmem
    cases program with
    | onboard => cases htargets
    | fixed pump fan =>
      obtain ⟨duty, rfl⟩ : ∃ duty, target = .fixed duty := by
        cases htargets
        simp only [List.mem_cons, Prod.mk.injEq, List.not_mem_nil, or_false] at hx
        rcases hx with ⟨-, rfl⟩ | ⟨-, rfl⟩ <;> exact ⟨_, rfl⟩
      exact ⟨channel, hissues (φ := fun write => write.attr = .duty channel ∨ write.attr = .mode channel)
        (CoolingControl.applyFixed_issues (.inl rfl) (.inr rfl))⟩
    | curve pump fan =>
      obtain ⟨c, rfl⟩ : ∃ c, target = .curve c := by
        cases htargets
        simp only [List.mem_cons, Prod.mk.injEq, List.not_mem_nil, or_false] at hx
        rcases hx with ⟨-, rfl⟩ | ⟨-, rfl⟩ <;> exact ⟨_, rfl⟩
      exact ⟨channel, hissues (φ := fun write => write.attr = .duty channel ∨ write.attr = .mode channel ∨
          ∃ i, write.attr = .point channel i)
        (CoolingControl.applyCurve_issues (fun _ _ => .inl rfl) (.inr (.inl rfl)) (.inr (.inl rfl))
          fun i => .inr (.inr ⟨i, rfl⟩))⟩
  · intro h
    cases program with
    | onboard => exact h.elim
    | fixed pump fan =>
      obtain ⟨channel, hattr⟩ := h
      obtain ⟨duty, hx⟩ : ∃ duty, (channel, Target.fixed duty) ∈
          [(Channel.pump, Target.fixed pump), (.fan, .fixed fan)] := by
        cases channel with
        | pump => exact ⟨pump, by simp⟩
        | fan => exact ⟨fan, by simp⟩
      refine ⟨_, rfl, _, hx, curvingWorld, ?_⟩
      obtain ⟨⟨hduty, hmode⟩, -⟩ := wp_reliable curvingWorld.fresh (fun _ => rfl)
        (@applyFixed_touches curvingWorld.fresh.toSeen control channel duty)
      rcases hattr with rfl | rfl
      · exact hduty
      · exact hmode
    | curve pump fan =>
      obtain ⟨channel, hattr⟩ := h
      obtain ⟨c, hx⟩ : ∃ c, (channel, Target.curve c) ∈
          [(Channel.pump, Target.curve pump), (.fan, .curve fan)] := by
        cases channel with
        | pump => exact ⟨pump, by simp⟩
        | fan => exact ⟨fan, by simp⟩
      refine ⟨_, rfl, _, hx, curvingWorld, ?_⟩
      have hcurving : curvingWorld.fresh.state.mode channel = some .curve := by
        cases channel <;> decide +kernel
      obtain ⟨⟨hduty, hmode, hpoints⟩, -⟩ := wp_reliable curvingWorld.fresh (fun _ => rfl)
        (@applyCurve_touches curvingWorld.fresh.toSeen control channel c hcurving)
      rcases hattr with rfl | rfl | ⟨i, rfl⟩
      · exact hduty
      · exact hmode
      · exact hpoints i

/-! ## What the gate does not ask -/

/-- What the gate of a program leaves open of the instance its writes go to: the modes and, for a
curve, the duties and that the points are there; and everything, when the record describes another
instance. -/
def Unasked (root : Sysfs) (found : HwmonInstance) : CoolingProgram → Prop
  | .onboard => True
  | .fixed .. => (∀ channel, found.canWrite (Attribute.mode channel).name = true) ∧
      (probedInstance root = some found ∨
        ∀ channel, found.canWrite (Attribute.duty channel).name = true)
  | .curve .. => (∀ channel, found.canWrite (Attribute.mode channel).name = true ∧
        found.canWrite (Attribute.duty channel).name = true) ∧
      (∀ channel i, found.exposes (Attribute.point channel i).name = true) ∧
      (probedInstance root = some found ∨
        ∀ channel i, found.canWrite (Attribute.point channel i).name = true)

theorem HwmonInstance.exposes_of_canWrite {found : HwmonInstance} {name : String}
    (h : found.canWrite name = true) : found.exposes name = true := by
  obtain ⟨file, hfile, hname⟩ := List.any_eq_true.mp h
  simp only [Bool.and_eq_true, decide_eq_true_eq] at hname
  exact List.any_eq_true.mpr ⟨file, hfile, by simpa using hname.1⟩

/-- Once the gate is open, every attribute the transaction may write could be written when the
machine was probed, exactly when what the gate does not ask holds too. -/
theorem gate_covers_iff (root : Sysfs) (program : CoolingProgram) (kraken : DeviceRecord)
    (found : HwmonInstance) (hkraken : (probe root).device KRAKEN_BASE = some kraken)
    (hopen : programIncompatibilities program kraken = [])
    (hlocate : HwmonInstance.locate root = some found) :
    (∀ attr, MayWrite ⟨⟨found.path⟩⟩ program attr → found.canWrite attr.name = true) ↔
      Unasked root found program := by
  obtain ⟨probed, hprobed⟩ := probedInstance_of_locate hlocate
  have hvouched := vouched_of_open hkraken hprobed hopen
  have hsame : ∀ {p : HwmonInstance → Prop}, p probed →
      probedInstance root = some found → p found := by
    intro p hp heq
    cases hprobed.symm.trans heq
    exact hp
  simp only [mayWrite_iff]
  cases program with
  | onboard => exact iff_of_true (fun _ h => h.elim) trivial
  | fixed pump fan =>
    constructor
    · intro hall
      exact ⟨fun channel => hall _ ⟨channel, .inr rfl⟩, .inr fun channel => hall _ ⟨channel, .inl rfl⟩⟩
    · rintro ⟨hmode, hduty⟩ attr ⟨channel, rfl | rfl⟩
      · refine hduty.elim (fun heq => ?_) fun h => h channel
        exact hsame (p := fun found => ∀ channel, found.canWrite (Attribute.duty channel).name = true)
          hvouched heq channel
      · exact hmode channel
  | curve pump fan =>
    constructor
    · intro hall
      have hpoint : ∀ channel i, found.canWrite (Attribute.point channel i).name = true :=
        fun channel i => hall _ ⟨channel, .inr (.inr ⟨i, rfl⟩)⟩
      exact ⟨fun channel => ⟨hall _ ⟨channel, .inr (.inl rfl)⟩, hall _ ⟨channel, .inl rfl⟩⟩,
        fun channel i => HwmonInstance.exposes_of_canWrite (hpoint channel i), .inr hpoint⟩
    · rintro ⟨hfixed, hexposes, hpoint⟩ attr ⟨channel, rfl | rfl | ⟨i, rfl⟩⟩
      · exact (hfixed channel).2
      · exact (hfixed channel).1
      · refine hpoint.elim (fun heq => ?_) fun h => h channel i
        exact hsame (p := fun found => ∀ channel i, found.exposes (Attribute.point channel i).name = true →
          found.canWrite (Attribute.point channel i).name = true) hvouched heq channel i (hexposes channel i)

/-- A machine whose cooler takes a fixed program, with these files of its directory writable. -/
def grantedMachine (writable : List String) : Sysfs :=
  { usb := [KRAKEN_BASE]
    hwmon := [{ name := some KRAKEN_DRIVER, owner := some KRAKEN_BASE, path := "/sys/class/hwmon/hwmon4",
                files := ["pwm1", "pwm1_enable", "pwm2", "pwm2_enable"].map fun name =>
                  { name, isFile := true, readable := true, writable := writable.contains name } }] }

def grantedInstance (writable : List String) : HwmonInstance :=
  { device := KRAKEN_BASE, driver := KRAKEN_DRIVER, path := "/sys/class/hwmon/hwmon4",
    files := ["pwm1", "pwm1_enable", "pwm2", "pwm2_enable"].map fun name =>
      { name, isFile := true, readable := true, writable := writable.contains name } }

theorem gate_covers_granted :
    let granted := ["pwm1", "pwm1_enable", "pwm2", "pwm2_enable"]
    HwmonInstance.locate (grantedMachine granted) = some (grantedInstance granted) ∧
    ∀ attr, MayWrite ⟨⟨(grantedInstance granted).path⟩⟩ (.fixed 180 90) attr →
      (grantedInstance granted).canWrite attr.name = true := by
  refine ⟨by decide +kernel, ?_⟩
  refine (gate_covers_iff (grantedMachine ["pwm1", "pwm1_enable", "pwm2", "pwm2_enable"]) (.fixed 180 90)
    (probeDevice (grantedMachine ["pwm1", "pwm1_enable", "pwm2", "pwm2_enable"]) KRAKEN_BASE) _
    (by decide +kernel) (by decide +kernel) (by decide +kernel)).mpr ?_
  exact ⟨by decide +kernel, .inl (by decide +kernel)⟩

/-- The duties are writable and the modes are not: the gate is open, and the transaction writes the
modes. -/
theorem mode_never_asked :
    let granted := ["pwm1", "pwm2"]
    (probe (grantedMachine granted)).device KRAKEN_BASE =
      some (probeDevice (grantedMachine granted) KRAKEN_BASE) ∧
    programIncompatibilities (.fixed 180 90) (probeDevice (grantedMachine granted) KRAKEN_BASE) = [] ∧
    HwmonInstance.locate (grantedMachine granted) = some (grantedInstance granted) ∧
    MayWrite ⟨⟨(grantedInstance granted).path⟩⟩ (.fixed 180 90) (.mode .pump) ∧
    (grantedInstance granted).canWrite (Attribute.mode .pump).name = false := by
  refine ⟨by decide +kernel, by decide +kernel, by decide +kernel, ?_, by decide +kernel⟩
  exact (mayWrite_iff _ _ _).mpr ⟨.pump, .inr rfl⟩

end Kori
