import Kori.Core.Ipc.Refused
import Kori.Daemon.Cooling
import Kori.Faulty.Reported

/-! # How long the texts of a cooling outcome are

An error of the kernel has a detail of at most `n` bytes, and so has the path of the bound instance.
-/

open Faulty

namespace Kori

variable {n : Nat}

/-! ## One write -/

def IoError.Within (n : Nat) (error : IoError) : Prop := textSize error.detail ≤ n

def WriteFailure.Within (n : Nat) (failure : WriteFailure) : Prop := textSize failure.display ≤ 2 * n + 150

theorem textSize_name (attr : Attribute) : textSize attr.name ≤ 24 := by
  have hpwm : textSize "pwm" = 3 := textSize_literal rfl
  have henable : textSize "_enable" = 7 := textSize_literal rfl
  have htemp : textSize "temp" = 4 := textSize_literal rfl
  have hpoint : textSize "_auto_point" = 11 := textSize_literal rfl
  have hend : textSize "_pwm" = 4 := textSize_literal rfl
  have hchannel : ∀ channel, textSize (toString (channelIndex channel)) ≤ 1 := by decide
  have hindex : ∀ index : Fin CURVE_POINT_COUNT, textSize (toString (index.val + 1)) ≤ 2 := by decide
  cases attr with
  | duty channel =>
    have := hchannel channel
    change textSize ("pwm" ++ toString (channelIndex channel)) ≤ _
    rw [textSize_append]
    omega
  | mode channel =>
    have := hchannel channel
    change textSize ("pwm" ++ toString (channelIndex channel) ++ "_enable") ≤ _
    simp only [textSize_append]
    omega
  | point channel index =>
    have := hchannel channel
    have := hindex index
    change textSize ("temp" ++ toString (channelIndex channel) ++ "_auto_point" ++ toString (index.val + 1) ++ "_pwm") ≤ _
    simp only [textSize_append]
    omega
  | liquidTemperature => exact (textSize_literal rfl).trans_le (by decide)

theorem textSize_describeIo (path : String) (error : IoError) :
    textSize (describeIo path error) ≤ textSize path + textSize error.detail + 58 := by
  have hdenied : textSize "permission denied on " = 21 := textSize_literal rfl
  have hrule : textSize ". Check the installed udev rule." = 32 := textSize_literal rfl
  have hmissing : textSize " does not exist." = 16 := textSize_literal rfl
  have hwritten : textSize " could not be written: " = 23 := textSize_literal rfl
  unfold describeIo
  split
  · change textSize ("permission denied on " ++ path ++ ". Check the installed udev rule.") ≤ _
    simp only [textSize_append]
    omega
  · change textSize (path ++ " does not exist.") ≤ _
    simp only [textSize_append]
    omega
  · change textSize (path ++ " could not be written: " ++ error.detail) ≤ _
    simp only [textSize_append]
    omega

namespace CoolingControl

variable {control : CoolingControl} {channel : Channel}

theorem gives_write (hpath : textSize control.hwmon.path ≤ n) (attr : Attribute) (value : UInt8) :
    Gives (IoError.Within n) (Either (WriteFailure.Within n) fun _ => True) (control.write attr value).run := by
  refine ⟨trivial, fun error herror => ?_⟩
  have hname := textSize_name attr
  have hio := textSize_describeIo (control.hwmon.attributePath attr) error
  have hattr : textSize (control.hwmon.attributePath attr) =
      textSize control.hwmon.path + textSize "/" + textSize attr.name := by
    simp only [KrakenHwmon.attributePath, textSize_append]
  have hslash : textSize "/" = 1 := textSize_literal rfl
  have hcolon : textSize ": " = 2 := textSize_literal rfl
  have hdetail : textSize error.detail ≤ n := herror
  change textSize (attr.name ++ ": " ++ describeIo (control.hwmon.attributePath attr) error) ≤ _
  simp only [textSize_append]
  omega

/-- The readback of a transaction, its texts bounded whatever was read. -/
def Brief (applied : Applied) : Prop := applied.readback.Within 250

/-- At most so many mismatches, each of them short. -/
def Few (count : Nat) (mismatches : List String) : Prop :=
  mismatches.length ≤ count ∧ ∀ mismatch ∈ mismatches, textSize mismatch ≤ 120

theorem few_nil : Few 1 [] := ⟨Nat.zero_le 1, fun _ h => absurd h List.not_mem_nil⟩

theorem few_singleton {mismatch : String} (h : textSize mismatch ≤ 120) : Few 1 [mismatch] :=
  ⟨Nat.le_refl 1, fun _ hmem => List.mem_singleton.mp hmem ▸ h⟩

theorem Few.append {first second : List String} (h : Few 1 first) (h' : Few 1 second) : Few 2 (first ++ second) := by
  refine ⟨?_, fun mismatch hmem => (List.mem_append.mp hmem).elim (h.2 mismatch) (h'.2 mismatch)⟩
  rw [List.length_append]
  exact Nat.add_le_add h.1 h'.1

theorem brief_applied {readback : ChannelReadback} {mismatches : List String} (writes : Nat)
    (hnone : readback.mismatch = none) (h : Few 2 mismatches) : Brief (applied readback mismatches writes) := by
  unfold applied
  split
  · intro mismatch hmismatch
    cases hnone.symm.trans hmismatch
  · intro mismatch hmismatch
    obtain rfl : String.intercalate "; " mismatches = mismatch := Option.some.inj hmismatch
    have hseparator : textSize "; " = 2 := textSize_literal rfl
    have hall := @textSize_intercalate "; " mismatches 120 h.2
    have htwo := Nat.mul_le_mul_right (120 + textSize "; ") h.1
    omega

theorem textSize_describeMode (mode : Option PwmMode) : textSize (describeMode mode) ≤ 13 := by
  obtain _ | mode := mode
  · exact (textSize_literal rfl).trans_le (by decide)
  · cases mode <;> decide

theorem textSize_describeDuty (duty : Option UInt8) : textSize (describeDuty duty) ≤ 18 := by
  cases duty with
  | none => exact (textSize_literal rfl).trans_le (by decide)
  | some duty => exact textSize_byte duty

theorem gives_readBack : Gives (IoError.Within n) (fun readback => readback.mismatch = none) (control.readBack channel) :=
  gives_bind fun _ => gives_bind fun _ => rfl

theorem gives_applyFixed (hpath : textSize control.hwmon.path ≤ n) (duty : UInt8) :
    Gives (IoError.Within n) (Either (WriteFailure.Within n) Brief) (control.applyFixed channel duty).run := by
  have hreads : textSize " reads back as " = 15 := textSize_literal rfl
  have hpwm : textSize ", not direct PWM" = 16 := textSize_literal rfl
  have hnot : textSize ", not " = 6 := textSize_literal rfl
  refine gives_run_step (gives_write hpath _ _) fun _ _ => ?_
  refine gives_run_step (gives_write hpath _ _) fun _ _ => ?_
  refine gives_run_step (gives_step gives_readBack fun readback hnone => hnone) fun readback hnone => ?_
  refine brief_applied 2 hnone (.append ?_ ?_)
  · have hmode := textSize_describeMode readback.mode
    have hname := textSize_name (.mode channel)
    split
    · refine few_singleton ?_
      change textSize ((Attribute.mode channel).name ++ " reads back as " ++ describeMode readback.mode ++ ", not direct PWM") ≤ _
      simp only [textSize_append]
      omega
    · exact few_nil
  · have hduty := textSize_describeDuty readback.duty
    have hwanted := textSize_byte duty
    have hname := textSize_name (.duty channel)
    split
    · refine few_singleton ?_
      change textSize ((Attribute.duty channel).name ++ " reads back as " ++ describeDuty readback.duty ++ ", not " ++
        toString duty.toNat) ≤ _
      simp only [textSize_append]
      omega
    · exact few_nil

theorem gives_stageCurve (hpath : textSize control.hwmon.path ≤ n) (curve : TemperatureCurve) :
    Gives (IoError.Within n) (Either (WriteFailure.Within n) fun _ => True) (control.stageCurve channel curve).run := by
  have hleave : Gives (IoError.Within n) (Either (WriteFailure.Within n) fun _ => True)
      (control.leaveCurve channel curve).run := by
    unfold leaveCurve
    refine gives_run_lift_step fun mode => ?_
    split
    · refine gives_run_lift_step fun holding => ?_
      refine gives_run_step (gives_write hpath _ _) fun _ _ => ?_
      exact gives_run_step (gives_write hpath _ _) fun _ _ => trivial
    · trivial
  refine gives_run_step hleave fun writes _ => ?_
  exact gives_run_step (gives_run_forM fun index _ => gives_write hpath _ _) fun _ _ => trivial

theorem gives_applyCurve (hpath : textSize control.hwmon.path ≤ n) (curve : TemperatureCurve) :
    Gives (IoError.Within n) (Either (WriteFailure.Within n) Brief) (control.applyCurve channel curve).run := by
  have hof : textSize " of " = 4 := textSize_literal rfl
  have hpoints : textSize " curve points read back as written" = 34 := textSize_literal rfl
  have hcount : textSize (toString CURVE_POINT_COUNT) = 2 := rfl
  have hreads : textSize " reads back as " = 15 := textSize_literal rfl
  have hcontrol : textSize ", not curve control" = 19 := textSize_literal rfl
  refine gives_run_step (gives_stageCurve hpath curve) fun writes _ => ?_
  refine gives_run_step (gives_write hpath _ _) fun _ _ => ?_
  refine gives_run_step (gives_step gives_readBack fun readback hnone => hnone) fun readback hnone => ?_
  refine gives_run_lift_step fun written => ?_
  refine brief_applied (writes + 1) hnone (.append ?_ ?_)
  · cases written with
    | none => exact few_nil
    | some read =>
      have hsome : confirmedPoints read curve < 10 ^ 2 :=
        Nat.lt_of_le_of_lt List.countP_le_length (by decide)
      have hconfirmed := @textSize_toString _ 2 (by omega) hsome
      dsimp only [Option.map_some]
      split
      · refine few_singleton ?_
        change textSize (toString (confirmedPoints read curve) ++ " of " ++ toString CURVE_POINT_COUNT ++
          " curve points read back as written") ≤ _
        simp only [textSize_append]
        omega
      · exact few_nil
  · have hmode := textSize_describeMode readback.mode
    have hname := textSize_name (.mode channel)
    split
    · refine few_singleton ?_
      change textSize ((Attribute.mode channel).name ++ " reads back as " ++ describeMode readback.mode ++
        ", not curve control") ≤ _
      simp only [textSize_append]
      omega
    · exact few_nil

theorem gives_restore (hpath : textSize control.hwmon.path ≤ n) (snapshot : ChannelSnapshot) :
    Gives (IoError.Within n) (Either (WriteFailure.Within n) fun _ => True) (control.restore snapshot).run := by
  have hcurve : Gives (IoError.Within n) (Either (WriteFailure.Within n) fun _ => True)
      (control.restoreCurve snapshot).run := by
    unfold restoreCurve
    split
    · exact gives_run_step (gives_stageCurve hpath _) fun _ _ => trivial
    · trivial
  have hduty : Gives (IoError.Within n) (Either (WriteFailure.Within n) fun _ => True)
      (control.restoreDuty snapshot).run := by
    unfold restoreDuty
    split
    · refine gives_run_lift_step fun read => ?_
      split
      · exact gives_write hpath _ _
      · trivial
    · trivial
  have hmode : Gives (IoError.Within n) (Either (WriteFailure.Within n) fun _ => True)
      (control.restoreMode snapshot).run := by
    unfold restoreMode
    split
    · refine gives_run_lift_step fun read => ?_
      split
      · exact gives_write hpath _ _
      · trivial
    · trivial
  refine gives_run_step hcurve fun _ _ => gives_run_step hduty fun _ _ => gives_run_step hmode fun _ _ => ?_
  exact gives_bind fun _ => trivial

end CoolingControl

/-! ## One program -/

namespace CoolingExecutor

variable {self : CoolingExecutor} {control : CoolingControl}

/-- What a transaction answers. -/
def Answers (n : Nat) (r : ApplyOutcome × CoolingExecutor) : Prop := r.1.Within (6 * n + 900)

theorem within_untouched {hardware : HardwareState} (h : textSize hardware.reason ≤ n) :
    (ApplyOutcome.untouched hardware).Within n :=
  ⟨h, Nat.zero_le 2, fun _ hmem => absurd hmem List.not_mem_nil⟩

/-- At most so many readbacks, the text of each of them short. -/
def Read (count : Nat) (readback : List ChannelReadback) : Prop :=
  readback.length ≤ count ∧ ∀ entry ∈ readback, entry.Within 250

theorem Read.concat {count : Nat} {readback : List ChannelReadback} {entry : ChannelReadback} (h : Read count readback)
    (hentry : entry.Within 250) : Read (count + 1) (readback ++ [entry]) := by
  refine ⟨?_, fun other hmem => ?_⟩
  · rw [List.length_append, List.length_singleton]
    exact Nat.succ_le_succ h.1
  · rcases List.mem_append.mp hmem with hmem | hmem
    · exact h.2 other hmem
    · exact List.mem_singleton.mp hmem ▸ hentry

theorem answers_settle {targets : List (Channel × Target)} {readback : List ChannelReadback} (writes : Nat)
    (h : Read 2 readback) : Answers n (self.settle targets writes readback) := by
  have hcompleted : textSize "The write completed but the hardware did not read back as written. " ≤ 70 :=
    (textSize_literal rfl).trans_le (by decide)
  have hspace : textSize " " = 1 := textSize_literal rfl
  have hcolon : textSize ": " = 2 := textSize_literal rfl
  have hnone : textSize "" = 0 := textSize_literal rfl
  have hentries : ∀ entry ∈ readback, entry.Within (6 * n + 900) := fun entry hmem mismatch hmismatch =>
    Nat.le_trans (h.2 entry hmem mismatch hmismatch) (by omega)
  unfold settle
  dsimp only
  split
  · refine ⟨?_, h.1, hentries⟩
    change textSize "" ≤ _
    omega
  · refine ⟨?_, h.1, hentries⟩
    let describe (entry : ChannelReadback) : Option String := entry.mismatch.map fun detail =>
      s!"{entry.channel.label}: {detail}"
    have htexts : ∀ text ∈ readback.filterMap describe, textSize text ≤ 256 := by
      intro text hmem
      obtain ⟨entry, hentry, htext⟩ := List.mem_filterMap.mp hmem
      obtain ⟨detail, hdetail, rfl⟩ := Option.map_eq_some_iff.mp htext
      have hlabel := textSize_label entry.channel
      have hwithin := h.2 entry hentry detail hdetail
      change textSize (entry.channel.label ++ ": " ++ detail) ≤ _
      simp only [textSize_append]
      omega
    have hall := @textSize_intercalate " " _ 256 htexts
    have hcount := Nat.le_trans (List.length_filterMap_le describe readback) h.1
    have htwo := Nat.mul_le_mul_right (256 + textSize " ") hcount
    change textSize ("The write completed but the hardware did not read back as written. " ++
      String.intercalate " " (readback.filterMap describe)) ≤ _
    rw [textSize_append]
    omega

theorem gives_restoreChannel (hpath : textSize control.hwmon.path ≤ n) (snapshot : ChannelSnapshot) :
    Gives (IoError.Within n) (fun r : CoolingExecutor × Option String => ∀ detail, r.2 = some detail →
      textSize detail ≤ 2 * n + 220) (self.restoreChannel control snapshot) := by
  have hlabel := textSize_label snapshot.channel
  have hunconfirmed : textSize " could not be confirmed back on its previous program." ≤ 60 :=
    (textSize_literal rfl).trans_le (by decide)
  have hrestoring : textSize "Restoring " = 10 := textSize_literal rfl
  have hfailed : textSize " failed: " = 9 := textSize_literal rfl
  refine gives_step (control.gives_restore hpath snapshot) ?_
  rintro (error | _ | _) herror
  · intro detail hdetail
    cases hdetail
    have hdisplay : textSize error.display ≤ 2 * n + 150 := herror
    change textSize ("Restoring " ++ snapshot.channel.label ++ " failed: " ++ error.display) ≤ _
    simp only [textSize_append]
    omega
  · intro detail hdetail
    cases hdetail
    change textSize (snapshot.channel.label ++ " could not be confirmed back on its previous program.") ≤ _
    simp only [textSize_append]
    omega
  · dsimp only
    split
    · exact gives_bind fun _ _ hdetail => absurd hdetail.symm (Option.some_ne_none _)
    · exact gives_bind fun _ _ hdetail => absurd hdetail.symm (Option.some_ne_none _)
    · exact fun _ hdetail => absurd hdetail.symm (Option.some_ne_none _)

theorem gives_restoreChannels (hpath : textSize control.hwmon.path ≤ n) (snapshots : List ChannelSnapshot)
    (details : List String) (h : ∀ detail ∈ details, textSize detail ≤ 2 * n + 220) :
    Gives (IoError.Within n) (fun r : CoolingExecutor × List String => r.2.length ≤ details.length + snapshots.length ∧
      ∀ detail ∈ r.2, textSize detail ≤ 2 * n + 220) (restoreChannels control self details snapshots) := by
  induction snapshots generalizing self details with
  | nil => exact ⟨Nat.le_refl _, h⟩
  | cons snapshot rest ih =>
    refine gives_step (gives_restoreChannel hpath snapshot) fun r hr => ?_
    refine gives_mono (ih (details ++ r.2.toList) fun detail hmem => ?_) fun r' hr' => ⟨?_, hr'.2⟩
    · exact (List.mem_append.mp hmem).elim (h detail) fun hmem => hr detail (Option.mem_toList.mp hmem)
    · have hone : r.2.toList.length ≤ 1 := by
        cases r.2 with
        | none => exact Nat.zero_le 1
        | some detail => exact Nat.le_refl 1
      have hlength := hr'.1
      rw [List.length_append] at hlength
      rw [List.length_cons]
      omega

theorem gives_abort (hpath : textSize control.hwmon.path ≤ n) {snapshots : List ChannelSnapshot} {failure : WriteFailure}
    (writes : Nat) {readback : List ChannelReadback} (hcount : snapshots.length ≤ 2) (hfailure : failure.Within n)
    (h : Read 2 readback) : Gives (IoError.Within n) (Answers n) (self.abort control snapshots failure writes readback) := by
  have hfailed : textSize "The write failed at " = 20 := textSize_literal rfl
  have hrestored : textSize (". Every channel was restored " ++
    "to the program it was running, confirmed by readback, and no further write was sent.") ≤ 120 := by
    rw [textSize_append, textSize_literal rfl, textSize_literal rfl]
    decide
  have hdot : textSize ". " = 2 := textSize_literal rfl
  have hspace : textSize " " = 1 := textSize_literal rfl
  have hunknown : textSize (" The hardware state cannot be confirmed and no further " ++
    "write is sent until a readback succeeds.") ≤ 110 := by
    rw [textSize_append, textSize_literal rfl, textSize_literal rfl]
    decide
  have hdisplay : textSize failure.display ≤ 2 * n + 150 := hfailure
  have hentries : ∀ entry ∈ readback, entry.Within (6 * n + 900) := fun entry hmem mismatch hmismatch =>
    Nat.le_trans (h.2 entry hmem mismatch hmismatch) (by omega)
  refine gives_step (gives_restoreChannels hpath snapshots [] fun _ hmem => absurd hmem List.not_mem_nil) ?_
  rintro ⟨after, details⟩ ⟨hlength, hdetails⟩
  refine ⟨?_, h.1, hentries⟩
  dsimp only
  split
  · change textSize ("The write failed at " ++ failure.display ++ ". Every channel was restored " ++
      "to the program it was running, confirmed by readback, and no further write was sent.") ≤ _
    simp only [textSize_append] at hrestored ⊢
    omega
  · have hall := @textSize_intercalate " " details _ hdetails
    have htwo := Nat.mul_le_mul_right (2 * n + 220 + textSize " ")
      (show details.length ≤ 2 from Nat.le_trans hlength (by simpa using hcount))
    change textSize ("The write failed at " ++ failure.display ++ ". " ++ String.intercalate " " details ++
      " The hardware state cannot be confirmed and no further " ++ "write is sent until a readback succeeds.") ≤ _
    simp only [textSize_append] at hunknown ⊢
    omega

theorem gives_writeChannels (hpath : textSize control.hwmon.path ≤ n) (now : Instant) (targets : List (Channel × Target))
    {snapshots : List ChannelSnapshot} (hsnapshots : snapshots.length ≤ 2)
    (rest : List ((Channel × Target) × Option ChannelReadback)) (self : CoolingExecutor) (writes : Nat)
    (readback : List ChannelReadback) (hrest : ∀ item ∈ rest, ∀ current, item.2 = some current → current.Within 250)
    (h : Read (2 - rest.length) readback) (hcount : rest.length ≤ 2) :
    Gives (IoError.Within n) (Answers n) (writeChannels control now targets snapshots self writes readback rest) := by
  induction rest generalizing self writes readback with
  | nil => exact answers_settle writes h
  | cons item rest ih =>
    have hmore := fun other hmem => hrest other (List.mem_cons_of_mem _ hmem)
    rw [List.length_cons] at h hcount
    have hnext : 2 - (rest.length + 1) + 1 = 2 - rest.length := by omega
    obtain ⟨⟨channel, target⟩, _ | current⟩ := item
    · have hwrite : Gives (IoError.Within n) (Either (WriteFailure.Within n) CoolingControl.Brief)
          (write control channel target).run := by
        cases target with
        | fixed duty => exact control.gives_applyFixed hpath duty
        | curve curve => exact control.gives_applyCurve hpath curve
      refine gives_step hwrite ?_
      rintro (failure | applied) hresult
      · exact gives_abort hpath writes hsnapshots hresult ⟨Nat.le_trans h.1 (by omega), h.2⟩
      · exact gives_bind fun after => ih after _ _ hmore (hnext ▸ h.concat hresult) (Nat.le_of_succ_le hcount)
    · exact ih self writes _ hmore (hnext ▸ h.concat (hrest _ List.mem_cons_self current rfl)) (Nat.le_of_succ_le hcount)

theorem gives_snapshots (targets : List (Channel × Target)) :
    Gives (IoError.Within n) (fun snapshots => snapshots.length = targets.length) (self.snapshots control targets) := by
  induction targets with
  | nil => exact rfl
  | cons target rest ih =>
    exact gives_bind fun snapshot => gives_step ih fun others hothers => congrArg Nat.succ hothers

theorem gives_settledChannels (targets : List (Channel × Target)) :
    Gives (IoError.Within n) (fun settled : List (Option ChannelReadback) => ∀ current, some current ∈ settled →
      current.Within 250) (self.settledChannels control targets) := by
  induction targets with
  | nil => exact fun current hmem => absurd hmem List.not_mem_nil
  | cons item rest ih =>
    have halready : Gives (IoError.Within n) (fun current : Option ChannelReadback => ∀ entry, current = some entry →
        entry.Within 250) (self.alreadyApplied control item.1 item.2) := by
      have hfresh : ∀ mode duty (entry : ChannelReadback),
          some { ChannelReadback.new item.1 with mode, duty } = some entry → entry.Within 250 := by
        rintro mode duty entry ⟨⟩ mismatch hmismatch
        cases hmismatch
      unfold alreadyApplied
      split
      · exact fun _ h => absurd h.symm (Option.some_ne_none _)
      · refine gives_bind fun mode => ?_
        split
        · exact fun _ h => absurd h.symm (Option.some_ne_none _)
        · split
          · exact fun _ h => absurd h.symm (Option.some_ne_none _)
          · refine gives_bind fun duty => ?_
            dsimp only
            split
            · split
              · exact fun _ h => absurd h.symm (Option.some_ne_none _)
              · exact hfresh _ _
            · exact hfresh _ _
    refine gives_step halready fun current hcurrent => gives_step ih fun others hothers => ?_
    intro entry hmem
    rcases List.mem_cons.mp hmem with hsame | hmem
    · exact hcurrent entry hsame.symm
    · exact hothers entry hmem

theorem answers_cadence {now : Instant} {settled : List (Option ChannelReadback)} {refusal : ApplyOutcome}
    (h : self.refuseForCadence now settled = some refusal) : Answers n (refusal, self) := by
  have hrefused : textSize "Refused: " = 9 := textSize_literal rfl
  have hsince : textSize " ms since the last write to the cooler, and the firmware is " ≤ 70 :=
    (textSize_literal rfl).trans_le (by decide)
  have hgiven : textSize "given at least " = 15 := textSize_literal rfl
  have hbetween : textSize " ms between programs. Nothing was written. Try " ≤ 60 :=
    (textSize_literal rfl).trans_le (by decide)
  have hagain : textSize "again in a moment." = 18 := textSize_literal rfl
  have hinterval : textSize (toString MIN_PROGRAM_INTERVAL_MS) = 3 := rfl
  unfold refuseForCadence at h
  split at h
  · cases h
  · split at h
    · cases h
    · rename_i lastWrite hlast
      dsimp only at h
      split at h
      · cases h
      · rename_i hearly
        cases h
        have helapsed : (now - lastWrite) / 1000000 < 10 ^ 3 := by
          have hwait : milliseconds MIN_PROGRAM_INTERVAL_MS = 200000000 := rfl
          exact Nat.div_lt_of_lt_mul (Nat.lt_trans (Nat.lt_of_not_le hearly) (by decide))
        have hnumber := @textSize_toString _ 3 (by omega) helapsed
        refine within_untouched ?_
        change textSize ("Refused: " ++ toString ((now - lastWrite) / 1000000) ++
          " ms since the last write to the cooler, and the firmware is " ++ ("given at least " ++
            toString MIN_PROGRAM_INTERVAL_MS ++ " ms between programs. Nothing was written. Try ") ++
          "again in a moment.") ≤ _
        simp only [textSize_append]
        omega

theorem gives_transact (hpath : textSize control.hwmon.path ≤ n) (now : Instant) {targets : List (Channel × Target)}
    (htargets : targets.length = 2) :
    Gives (IoError.Within n) (Answers n) (self.transact control now targets) := by
  refine gives_step (gives_snapshots targets) fun snapshots hsnapshots => ?_
  refine gives_step (gives_settledChannels targets) fun settled hsettled => ?_
  cases hrefusal : self.refuseForCadence now settled with
  | some refusal => exact answers_cadence hrefusal
  | none =>
    refine gives_writeChannels hpath now targets (by omega) (targets.zip settled) self 0 [] ?_ ?_ ?_
    · intro item hmem current hcurrent
      exact hsettled current (hcurrent ▸ (List.of_mem_zip hmem).2)
    · exact ⟨Nat.zero_le _, fun _ hmem => absurd hmem List.not_mem_nil⟩
    · rw [List.length_zip]
      omega

/-- What the executor answers, when the errors of the kernel and the path of the instance are short. -/
theorem gives_apply {located : Option KrakenHwmon} (now : Instant) (program : CoolingProgram)
    (hpath : ∀ control, (self.resolve located).control = some control → textSize control.hwmon.path ≤ n) :
    Gives (IoError.Within n) (Answers n) (self.apply located now program) := by
  have honboard : textSize HardwareState.onboard.reason ≤ 0 := by decide
  have hunbound : textSize ("No kraken2023 hwmon instance is bound to an allowlisted " ++
    "device, so nothing was written.") ≤ 100 := by
    rw [textSize_append, textSize_literal rfl, textSize_literal rfl]
    decide
  unfold apply
  cases htargets : program.targets with
  | none => exact within_untouched (Nat.le_trans honboard (Nat.zero_le _))
  | some targets =>
    have hcount : targets.length = 2 := by
      cases program <;> cases htargets <;> rfl
    dsimp only
    cases hcontrol : (self.resolve located).control with
    | none => exact within_untouched (Nat.le_trans hunbound (by omega))
    | some control => exact gives_transact (hpath control hcontrol) now hcount

end CoolingExecutor

end Kori
