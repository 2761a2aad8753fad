import Kori.Core.Curve.Rounding
import Kori.Daemon.Cooling.Record

/-! # A curve the device is running is never called another one -/

namespace Kori

/-! ## What the readings may be off by -/

/-- What the driver reports of a duty, which it stores as a percentage. -/
def driverRounded (duty : UInt8) : UInt8 := dutyFromPercent (dutyToPercent duty)

theorem toNat_dutyToPercent (duty : UInt8) : (dutyToPercent duty).toNat = (duty.toNat * 100 + 127) / 255 := by
  have hlt := duty.toNat_lt
  have hmax : MAX_DUTY.toNat = 255 := rfl
  rw [dutyToPercent, hmax, UInt8.toNat_ofNat', Nat.mod_eq_of_lt]
  omega

theorem toNat_dutyFromPercent (percent : UInt8) :
    (dutyFromPercent percent).toNat = (min percent.toNat 100 * 255 + 50) / 100 := by
  have hmax : MAX_DUTY.toNat = 255 := rfl
  have hhundred : MAX_DUTY_PERCENT.toNat = 100 := rfl
  rw [dutyFromPercent, hmax, hhundred, UInt8.toNat_ofNat', Nat.mod_eq_of_lt]
  omega

theorem driverRounded_near (duty : UInt8) :
    duty.toNat ≤ (driverRounded duty).toNat + 1 ∧ (driverRounded duty).toNat ≤ duty.toNat + 1 := by
  have hlt := duty.toNat_lt
  rw [driverRounded, toNat_dutyFromPercent, toNat_dutyToPercent]
  omega

namespace TemperatureCurve

theorem pointIndexFor_finite (t : ℚ) :
    ∃ index, pointIndexFor (.finite t) = some index ∧ index.val = min (roundAway (t - 20)).toNat 39 :=
  ⟨_, rfl, rfl⟩

theorem pointIndexFor_near {t near : ℚ} (h : |near - t| ≤ 1) {center index : Fin CURVE_POINT_COUNT}
    (hcenter : pointIndexFor (.finite t) = some center) (hindex : pointIndexFor (.finite near) = some index) :
    center.val - 1 ≤ index.val ∧ index.val ≤ center.val + 1 := by
  obtain ⟨center', hcenter', hc⟩ := pointIndexFor_finite t
  obtain ⟨index', hindex', hi⟩ := pointIndexFor_finite near
  cases hcenter.symm.trans hcenter'
  cases hindex.symm.trans hindex'
  obtain ⟨hdown, hup⟩ := abs_le.mp h
  have hover : (roundAway (near - 20)).toNat ≤ (roundAway (t - 20)).toNat + 1 :=
    toNat_roundAway_add_one_le (by linarith)
  have hunder : (roundAway (t - 20)).toNat ≤ (roundAway (near - 20)).toNat + 1 :=
    toNat_roundAway_add_one_le (by linarith)
  omega

end TemperatureCurve

namespace CoolingExecutor

theorem acceptsDuty_of_near {curve : TemperatureCurve} {liquid : F32} {center index : Fin CURVE_POINT_COUNT}
    {reported : UInt8} (hcenter : TemperatureCurve.pointIndexFor liquid = some center)
    (hindex : center.val - 1 ≤ index.val ∧ index.val ≤ center.val + 1)
    (hunder : (curve.points.get index).toNat ≤ reported.toNat + CURVE_DUTY_TOLERANCE.toNat)
    (hover : reported.toNat ≤ (curve.points.get index).toNat + CURVE_DUTY_TOLERANCE.toNat) :
    acceptsDuty curve liquid reported = true := by
  unfold acceptsDuty
  rw [hcenter]
  dsimp only
  have hmem : (curve.points.get index).toNat ∈ (List.finRange CURVE_POINT_COUNT).filterMap fun i =>
      if center.val - 1 ≤ i.val ∧ i.val ≤ center.val + 1 then some (curve.points.get i).toNat else none :=
    List.mem_filterMap.mpr ⟨index, List.mem_finRange index, if_pos hindex⟩
  split
  · rename_i low high hlow hhigh
    have hleast := (List.min?_eq_some_iff.mp hlow).2 _ hmem
    have hmost := (List.max?_eq_some_iff.mp hhigh).2 _ hmem
    have hbyte := reported.toNat_lt
    rw [decide_eq_true_eq]
    omega
  · rfl

/-! ## What a check reports and uncommits -/

variable {self : CoolingExecutor} {kraken : KrakenTelemetry} {nowUnixMs : Nat} {channel : Channel}

theorem divergence_eq_some {liquid : F32} {found : CurveDivergence}
    (h : self.divergence kraken nowUnixMs liquid channel = some found) :
    found.channel = channel ∧ ∃ commit curve reported, self.committed channel = some commit ∧
      commit.target = .curve curve ∧ CURVE_SETTLE_MS ≤ nowUnixMs - commit.atUnixMs ∧
      (kraken.channel channel).duty.copied = some reported ∧ acceptsDuty curve liquid reported = false := by
  obtain ⟨commit, hcommit, h⟩ := Option.bind_eq_some_iff.mp h
  split at h
  · cases h
  · rename_i curve htarget
    by_cases hsettled : nowUnixMs - commit.atUnixMs < CURVE_SETTLE_MS
    · rw [if_pos hsettled] at h
      cases h
    · rw [if_neg hsettled] at h
      dsimp only at h
      by_cases hmode : (kraken.channel channel).mode.copied ≠ some .curve
      · rw [if_pos hmode] at h
        cases h
      · rw [if_neg hmode] at h
        obtain ⟨reported, hreported, h⟩ := Option.bind_eq_some_iff.mp h
        obtain ⟨expected, -, h⟩ := Option.bind_eq_some_iff.mp h
        split at h
        · cases h
        · rename_i haccepts
          cases h
          exact ⟨rfl, commit, curve, reported, hcommit, htarget, Nat.le_of_not_lt hsettled, hreported,
            Bool.eq_false_iff.mpr haccepts⟩

/-- The channels a check reports. -/
def reportedChannels (self : CoolingExecutor) (kraken : KrakenTelemetry) (nowUnixMs : Nat) : List Channel :=
  (self.verifyCurves kraken nowUnixMs).1.map CurveDivergence.channel

theorem mem_reportedChannels (h : channel ∈ self.reportedChannels kraken nowUnixMs) :
    ∃ liquid, kraken.liquidTemperatureC.copied = some liquid ∧
      ∃ found, self.divergence kraken nowUnixMs liquid channel = some found := by
  unfold reportedChannels verifyCurves at h
  split at h
  · cases h
  · rename_i liquid hliquid
    obtain ⟨found, hfound, rfl⟩ := List.mem_map.mp h
    obtain ⟨other, -, hother⟩ := List.mem_filterMap.mp hfound
    refine ⟨liquid, hliquid, found, ?_⟩
    rw [(divergence_eq_some hother).1]
    exact hother

theorem verifyCurves_committed (self : CoolingExecutor) (kraken : KrakenTelemetry) (nowUnixMs : Nat)
    (channel : Channel) :
    (self.verifyCurves kraken nowUnixMs).2.committed channel =
      if channel ∈ self.reportedChannels kraken nowUnixMs then none else self.committed channel := by
  unfold reportedChannels verifyCurves
  split
  · rfl
  · exact committed_foldl_uncommit self CurveDivergence.channel _ channel

theorem acceptsDuty_driverRounded {curve : TemperatureCurve} {liquid near : ℚ} {point : UInt8}
    (hnear : |near - liquid| ≤ 1) (hpoint : curve.dutyAt (.finite near) = some point) :
    acceptsDuty curve (.finite liquid) (driverRounded point) = true := by
  obtain ⟨index, hindex, rfl⟩ := Option.map_eq_some_iff.mp hpoint
  obtain ⟨center, hcenter, -⟩ := TemperatureCurve.pointIndexFor_finite liquid
  have hround := driverRounded_near (curve.points.get index)
  have htolerance : CURVE_DUTY_TOLERANCE.toNat = 3 := rfl
  exact acceptsDuty_of_near hcenter (TemperatureCurve.pointIndexFor_near hnear hcenter hindex) (by omega)
    (by omega)

/-- A channel that reports its own curve within a degree is left alone, and a check uncommits exactly
the channels it reports, none of them committed a moment ago. -/
theorem verifyCurves_fair (self : CoolingExecutor) (kraken : KrakenTelemetry) (nowUnixMs : Nat) :
    (∀ channel commit curve liquid near point, self.committed channel = some commit →
      commit.target = .curve curve → kraken.liquidTemperatureC.copied = some (.finite liquid) →
      |near - liquid| ≤ 1 → curve.dutyAt (.finite near) = some point →
      (kraken.channel channel).duty.copied = some (driverRounded point) →
        channel ∉ self.reportedChannels kraken nowUnixMs ∧
          (self.verifyCurves kraken nowUnixMs).2.committed channel = some commit) ∧
      ∀ channel,
        (channel ∈ self.reportedChannels kraken nowUnixMs → self.committed channel ≠ none ∧
          (self.verifyCurves kraken nowUnixMs).2.committed channel = none) ∧
        (channel ∉ self.reportedChannels kraken nowUnixMs →
          (self.verifyCurves kraken nowUnixMs).2.committed channel = self.committed channel) ∧
        ∀ commit, self.committed channel = some commit → nowUnixMs - commit.atUnixMs < CURVE_SETTLE_MS →
          channel ∉ self.reportedChannels kraken nowUnixMs := by
  constructor
  · intro channel commit curve liquid near point hcommit htarget hliquid hnear hpoint hduty
    have hquiet : channel ∉ self.reportedChannels kraken nowUnixMs := by
      intro hmem
      obtain ⟨liquid', hliquid', found, hfound⟩ := mem_reportedChannels hmem
      obtain ⟨-, commit', curve', reported, hcommit', htarget', -, hreported, hrefused⟩ := divergence_eq_some hfound
      cases hliquid.symm.trans hliquid'
      cases hcommit.symm.trans hcommit'
      cases htarget.symm.trans htarget'
      cases hduty.symm.trans hreported
      rw [acceptsDuty_driverRounded hnear hpoint] at hrefused
      exact Bool.noConfusion hrefused
    rw [verifyCurves_committed, if_neg hquiet]
    exact ⟨hquiet, hcommit⟩
  · intro channel
    rw [verifyCurves_committed]
    refine ⟨fun hmem => ?_, fun hquiet => if_neg hquiet, fun commit hcommit hfresh hmem => ?_⟩
    · obtain ⟨liquid, -, found, hfound⟩ := mem_reportedChannels hmem
      obtain ⟨-, commit, -, -, hcommit, -⟩ := divergence_eq_some hfound
      exact ⟨by rw [hcommit]; exact Option.some_ne_none _, if_pos hmem⟩
    · obtain ⟨liquid, -, found, hfound⟩ := mem_reportedChannels hmem
      obtain ⟨-, commit', -, -, hcommit', -, hsettled, -⟩ := divergence_eq_some hfound
      cases hcommit.symm.trans hcommit'
      omega

/-- A pump on its curve, one degree away from the reading it is judged at. -/
theorem running_pump_not_reported :
    let committed : CoolingExecutor :=
      { control := none, committed := fun _ => some ⟨.curve (.flat 120), 0⟩, lastWrite := none }
    let entry : ChannelTelemetry :=
      { channel := .pump, rpm := .valid 2900, duty := .valid (driverRounded 120), mode := .valid .curve }
    let sample : KrakenTelemetry :=
      { atUnixMs := 6000, present := true, liquidTemperatureC := .valid (.finite 30), pump := entry, fan := entry }
    .pump ∉ committed.reportedChannels sample 6000 ∧
      (committed.verifyCurves sample 6000).2.committed .pump = some ⟨.curve (.flat 120), 0⟩ :=
  (verifyCurves_fair _ _ _).1 .pump ⟨.curve (.flat 120), 0⟩ (.flat 120) 30 31 120 rfl rfl rfl (by norm_num)
    (by simp [TemperatureCurve.dutyAt, TemperatureCurve.pointIndexFor, TemperatureCurve.flat, Vector.get]) rfl

end CoolingExecutor

end Kori
