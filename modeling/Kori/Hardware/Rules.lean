import Kori.Hardware.Control

/-! # What the reads and writes of the thermal path do to the device -/

open Faulty

namespace Kori

/-! ## Attributes -/

def Attribute.channel : Attribute → Option Channel
  | duty channel => some channel
  | mode channel => some channel
  | point channel _ => some channel
  | liquidTemperature => none

namespace Attributes

/-- The attributes after one successful write. -/
def put (s : Attributes) (attr : Attribute) (value : UInt8) : Attributes :=
  Function.update s attr (.text (Text.decimal value))

theorem parsed_decimal (value : UInt8) :
    (Contents.text (Text.decimal value)).parsed Text.parseU8 = some value := by
  rw [Contents.parsed, if_neg (Text.trim_decimal_ne_nil value), Text.parse_decimal]

theorem put_of_ne (s : Attributes) {attr other : Attribute} (value : UInt8) (h : other ≠ attr) :
    s.put attr value other = s other :=
  Function.update_of_ne h _ _

@[simp] theorem mode_put_mode (s : Attributes) (channel : Channel) (mode : PwmMode) :
    (s.put (.mode channel) mode.toKernel).mode channel = some mode := by
  simp only [Attributes.mode, put, Function.update_self, parsed_decimal, Option.bind_some]
  exact PwmMode.fromKernel_toKernel mode

@[simp] theorem mode_put_duty (s : Attributes) (channel c : Channel) (value : UInt8) :
    (s.put (.duty channel) value).mode c = s.mode c := by
  simp only [Attributes.mode, put_of_ne s value (by simp : Attribute.mode c ≠ .duty channel)]

@[simp] theorem mode_put_point (s : Attributes) (channel c : Channel) (i : Fin CURVE_POINT_COUNT)
    (value : UInt8) : (s.put (.point channel i) value).mode c = s.mode c := by
  simp only [Attributes.mode, put_of_ne s value (by simp : Attribute.mode c ≠ .point channel i)]

@[simp] theorem duty_put_duty (s : Attributes) (channel : Channel) (value : UInt8) :
    (s.put (.duty channel) value).duty channel = some value := by
  simp only [Attributes.duty, put, Function.update_self, parsed_decimal]

@[simp] theorem duty_put_mode (s : Attributes) (channel c : Channel) (value : UInt8) :
    (s.put (.mode channel) value).duty c = s.duty c := by
  simp only [Attributes.duty, put_of_ne s value (by simp : Attribute.duty c ≠ .mode channel)]

@[simp] theorem duty_put_point (s : Attributes) (channel c : Channel) (i : Fin CURVE_POINT_COUNT)
    (value : UInt8) : (s.put (.point channel i) value).duty c = s.duty c := by
  simp only [Attributes.duty, put_of_ne s value (by simp : Attribute.duty c ≠ .point channel i)]

@[simp] theorem point_put_mode (s : Attributes) (channel c : Channel) (i : Fin CURVE_POINT_COUNT)
    (value : UInt8) : (s.put (.mode channel) value).point c i = s.point c i := by
  simp only [Attributes.point, put_of_ne s value (by simp : Attribute.point c i ≠ .mode channel)]

@[simp] theorem point_put_point (s : Attributes) (channel : Channel) (i : Fin CURVE_POINT_COUNT)
    (value : UInt8) : (s.put (.point channel i) value).point channel i = some value := by
  simp only [Attributes.point, put, Function.update_self, parsed_decimal]

theorem point_put_point_of_ne (s : Attributes) (channel : Channel) {i j : Fin CURVE_POINT_COUNT}
    (value : UInt8) (h : j ≠ i) : (s.put (.point channel i) value).point channel j = s.point channel j := by
  simp only [Attributes.point, put_of_ne s value (by simpa using h : Attribute.point channel j ≠ .point channel i)]

/-- Nothing outside one channel differs. -/
def Frame (channel : Channel) (s t : Attributes) : Prop := ∀ a, a.channel ≠ some channel → t a = s a

theorem Frame.refl (channel : Channel) (s : Attributes) : Frame channel s s := fun _ _ => rfl

theorem Frame.trans {channel : Channel} {s t u : Attributes} (h : Frame channel s t)
    (h' : Frame channel t u) : Frame channel s u := fun a ha => (h' a ha).trans (h a ha)

end Attributes

variable {s : HwSeen} {control : CoolingControl} {hwmon : KrakenHwmon} {channel : Channel}

/-! ## Reading -/

theorem wp_readParsed {α : Type} {parse : List Char → Option α} {attr : Attribute}
    {Q : Option α → HwSeen → Prop} (hfail : Q none (s.noted attr none))
    (hok : Q ((s.state attr).parsed parse) (s.noted attr (some (s.state attr)))) :
    wp hwmonDevice (KrakenHwmon.readParsed parse attr) Q s := by
  rw [KrakenHwmon.readParsed, wp_bind, wp_look]
  exact ⟨fun _ => hfail, hok⟩

theorem wp_mode {Q : Option PwmMode → HwSeen → Prop} (hfail : Q none (s.noted (.mode channel) none))
    (hok : Q (s.state.mode channel) (s.noted (.mode channel) (some (s.state (.mode channel))))) :
    wp hwmonDevice (hwmon.mode channel) Q s := by
  rw [KrakenHwmon.mode, wp_bind]
  exact wp_readParsed hfail hok

theorem wp_duty {Q : Option UInt8 → HwSeen → Prop} (hfail : Q none (s.noted (.duty channel) none))
    (hok : Q (s.state.duty channel) (s.noted (.duty channel) (some (s.state (.duty channel))))) :
    wp hwmonDevice (hwmon.duty channel) Q s :=
  wp_readParsed hfail hok

theorem run_mode (w : HwWorld) : (hwmon.mode channel).run hwmonDevice w =
    match w.faults 0 with
    | none => (w.state.mode channel, w.spent (w.noted (.mode channel) (some (w.state (.mode channel)))))
    | some _ => (none, w.spent (w.noted (.mode channel) none)) := by
  rw [KrakenHwmon.mode, KrakenHwmon.readParsed, run_bind, run_bind, look, Prog.run]
  cases w.faults 0 <;> rfl

theorem readParsed_looks {α : Type} (parse : List Char → Option α) (attr : Attribute) :
    Looks (KrakenHwmon.readParsed parse attr) :=
  issues_bind (p := look attr) (fun _ => trivial) fun r => by cases r <;> trivial

theorem mode_looks : Looks (hwmon.mode channel) :=
  issues_bind (readParsed_looks _ _) fun _ => trivial

theorem duty_looks : Looks (hwmon.duty channel) := readParsed_looks _ _

theorem liquidTemperatureC_looks : Looks hwmon.liquidTemperatureC :=
  issues_bind (readParsed_looks _ _) fun _ => trivial

theorem curveFrom_looks (rest : List (Fin CURVE_POINT_COUNT)) (points : Vector UInt8 CURVE_POINT_COUNT) :
    Looks (KrakenHwmon.curveFrom channel rest points) := by
  induction rest generalizing points with
  | nil => trivial
  | cons index rest ih =>
    rw [KrakenHwmon.curveFrom]
    refine issues_bind (readParsed_looks _ _) ?_
    rintro (_ | value)
    · trivial
    · exact ih _

theorem curve_looks : Looks (hwmon.curve channel) := curveFrom_looks _ _

theorem curveFrom_spec (rest past : List (Fin CURVE_POINT_COUNT))
    (points : Vector UInt8 CURVE_POINT_COUNT) (hall : ∀ i, i ∈ past ∨ i ∈ rest)
    (hpast : ∀ i ∈ past, i ∉ rest → s.state.point channel i = some (points.get i)) :
    wp hwmonDevice (KrakenHwmon.curveFrom channel rest points)
      (fun read s' => s'.state = s.state ∧ ∀ c, read = some c → s.state.Holds channel c) s := by
  induction rest generalizing s past points with
  | nil =>
    refine ⟨rfl, ?_⟩
    rintro c h i
    cases h
    exact hpast i (by simpa using hall i) (by simp)
  | cons index rest ih =>
    rw [KrakenHwmon.curveFrom, wp_bind]
    refine wp_readParsed ⟨rfl, by simp⟩ ?_
    cases hread : (s.state (.point channel index)).parsed Text.parseU8 with
    | none => exact ⟨rfl, by simp⟩
    | some value =>
      refine ih (s := s.noted _ _) (index :: past) (points.set index value) (fun i => ?_) fun i hi hrest => ?_
      · have := hall i
        simp only [List.mem_cons] at this ⊢
        tauto
      · by_cases h : i = index
        · subst h
          exact hread.trans (congrArg some (Vector.getElem_set_self i.isLt).symm)
        · have hne : (points.set index value).get i = points.get i :=
            Vector.getElem_set_ne index.isLt i.isLt (by omega)
          rw [hne]
          refine hpast i ?_ ?_
          · simpa [h] using hi
          · simpa [h] using hrest

theorem curve_spec :
    wp hwmonDevice (hwmon.curve channel)
      (fun read s' => s'.state = s.state ∧ ∀ c, read = some c → s.state.Holds channel c) s :=
  curveFrom_spec _ [] _ (fun i => .inr (List.mem_finRange i)) (by simp)

/-! ## Writing -/

namespace CoolingControl

theorem wp_write {attr : Attribute} {value : UInt8} {Q : Except WriteFailure Unit → HwSeen → Prop}
    (hfail : ∀ failure, Q (.error failure) (s.issued ⟨attr, value⟩ false s.state))
    (hok : Q (.ok ()) (s.issued ⟨attr, value⟩ true (s.state.put attr value))) :
    wp hwmonDevice (control.write attr value).run Q s := by
  rw [write, wp_run_bind, wp_run_lift, wp_issue]
  exact ⟨fun _ => hfail _, hok⟩

theorem run_write {attr : Attribute} {value : UInt8} (w : HwWorld) :
    (control.write attr value).run.run hwmonDevice w =
      match w.faults 0 with
      | none => (.ok (), w.spent (w.issued ⟨attr, value⟩ true (w.state.put attr value)))
      | some error =>
        (.error ⟨attr.name, describeIo (control.hwmon.attributePath attr) error⟩,
          w.spent (w.issued ⟨attr, value⟩ false w.state)) := by
  rw [write, run_run_lift_bind, issue, Prog.run]
  cases w.faults 0 <;> rfl

theorem write_step {β : Type} {attr : Attribute} {value : UInt8} {f : Unit → Transaction β}
    {Q : Except WriteFailure β → HwSeen → Prop}
    (hfail : ∀ failure, Q (.error failure) (s.issued ⟨attr, value⟩ false s.state))
    (hok : wp hwmonDevice (f ()).run Q (s.issued ⟨attr, value⟩ true (s.state.put attr value))) :
    wp hwmonDevice (control.write attr value >>= f).run Q s := by
  rw [wp_run_bind]
  exact wp_write hfail hok

theorem write_issues {φ : AttributeWrite → Prop} {attr : Attribute} {value : UInt8}
    (h : φ ⟨attr, value⟩) : Issues φ (control.write attr value).run := by
  refine issues_run_bind (issues_run_lift ⟨h, fun _ => trivial⟩) ?_
  rintro (e | ⟨⟩) <;> trivial

end CoolingControl

end Kori
