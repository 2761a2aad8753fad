import Kori.Daemon.Display.Runs

/-! # A stream that stopped stays stopped -/

open Faulty

namespace Kori

/-! ## Stopping, and starting again -/

/-- What the status says of a stream that stopped. -/
def DisplayExecutor.IsStopped (self : DisplayExecutor) : Prop :=
  self.state.faulted.isSome = true ∧ self.state.streaming = false

/-- A turn whose transfer could not be confirmed, or that could not render a reading. A redraw or an
animation that is due and answers nothing is one. -/
def Stops (t : DisplayTurn) : Prop :=
  match t.call, t.answer with
  | .apply .., .applied (.ok outcome) => outcome.hardware.isUncertain = true
  | .refresh .., .refreshed (some outcome) => outcome.hardware.isUncertain = true
  | .refresh .., .refreshed none => t.before.owner.isStreaming = true ∧
    t.before.owner.animation = none ∧ t.before.owner.active.isSome = true
  | .advanceAnimation _, .advanced none => t.before.owner.isStreaming = true ∧
    t.before.owner.animation.isSome = true ∧ t.before.owner.active.isSome = true
  | _, _ => False

/-- A call that may put a stream back. -/
def DisplayCall.Resumes : DisplayCall → Prop
  | .apply .. => True
  | .forget _ => True
  | _ => False

/-- After a stop nothing is sent, and the stop is reported, until the next call that may resume. -/
def StaysStopped (run : List DisplayTurn) : Prop :=
  ∀ earlier stop quiet later, run = earlier ++ stop :: (quiet ++ later) → Stops stop →
    (∀ t ∈ quiet, ¬ t.call.Resumes) →
    stop.after.owner.IsStopped ∧ ∀ t ∈ quiet, t.after.world.log = [] ∧ t.after.owner.IsStopped

/-- An application that hands a picture to a transfer that fails. -/
def ApplyFails (t : DisplayTurn) : Prop :=
  ∃ renderer preset samples frame, t.call = .apply renderer preset samples ∧
    t.call.sends t.before.owner = some (preset, frame) ∧
    t.before.owner.TransferFails preset frame t.before.world.faults

/-! ## One turn -/

namespace DisplayExecutor

variable {self : DisplayExecutor}

theorem isStopped_iff : self.IsStopped ↔ self.faulted.isSome = true := by
  unfold IsStopped state isStreaming
  dsimp only
  constructor
  · exact fun h => h.1
  · intro h
    refine ⟨h, ?_⟩
    rw [if_pos (.inr h)]

theorem not_streaming_of_faulted (h : self.faulted.isSome = true) : ¬ self.isStreaming = true := by
  unfold isStreaming
  rw [if_pos (.inr h)]
  exact Bool.false_ne_true

end DisplayExecutor

open DisplayExecutor

theorem apply_stops_iff {rig : DisplayRig} {renderer : Renderer} {preset : DisplayPreset}
    {samples : MetricSample × MetricSample} :
    Stops (turn DisplayCall.serve rig (.apply renderer preset samples)) ↔
      ApplyFails (turn DisplayCall.serve rig (.apply renderer preset samples)) := by
  have happlied := @apply_applied rig.owner preset rig.world.fresh renderer samples
  have hsends : (DisplayCall.apply renderer preset samples).sends rig.owner =
      (rig.owner.panel.bind fun panel => picture renderer preset samples panel).map (preset, ·) := by
    rw [Option.map_bind]
    rfl
  have hfails : ∀ frame, rig.owner.TransferFails preset frame rig.world.faults ↔
      ((({ rig.owner with faulted := none, animation := none } : DisplayExecutor).sendBytes preset frame).run
        lcd rig.world.fresh).1.1.hardware.isUncertain = true :=
    fun frame => (@sendBytes_uncertain { rig.owner with faulted := none, animation := none } preset frame
      rig.world.fresh).symm
  have hstops : Stops (turn DisplayCall.serve rig (.apply renderer preset samples)) ↔ ∃ outcome,
      ((rig.owner.apply renderer preset samples).run lcd rig.world.fresh).1.1 = .ok outcome ∧
        outcome.hardware.isUncertain = true := by
    rw [turn_apply]
    unfold Stops
    dsimp only
    cases ((rig.owner.apply renderer preset samples).run lcd rig.world.fresh).1.1 <;> simp
  rw [hstops]
  constructor
  · rintro ⟨outcome, hanswer, huncertain⟩
    cases hpicture : rig.owner.panel.bind fun panel => picture renderer preset samples panel with
    | none =>
      rw [(happlied.nothing hpicture).2.2 outcome hanswer] at huncertain
      cases huncertain
    | some frame =>
      have hsent := (happlied.sent frame hpicture).1
      rw [hsent] at hanswer
      cases hanswer
      refine ⟨renderer, preset, samples, frame, rfl, ?_, (hfails frame).mpr huncertain⟩
      exact hsends.trans (by rw [hpicture]; rfl)
  · rintro ⟨renderer', preset', samples', frame, hcall, hframe, hfail⟩
    cases hcall
    obtain ⟨frame', hpicture, heq⟩ := Option.map_eq_some_iff.mp (hsends.symm.trans hframe)
    cases heq
    exact ⟨_, (happlied.sent frame hpicture).1, (hfails frame).mp hfail⟩

theorem stopped_of_stops {rig : DisplayRig} {call : DisplayCall} (hcall : ¬ call.Resumes)
    (h : Stops (turn DisplayCall.serve rig call)) :
    (turn DisplayCall.serve rig call).after.owner.faulted.isSome = true := by
  cases call with
  | apply renderer preset samples => exact (hcall trivial).elim
  | forget found => exact (hcall trivial).elim
  | dropFrame => exact h.elim
  | refresh renderer samples =>
    rw [turn_refresh] at h ⊢
    by_cases hidle : ¬ rig.owner.isStreaming = true ∨ rig.owner.animation.isSome = true
    · rw [refresh_idle hidle] at h
      obtain ⟨hstreaming, hstill, -⟩ := h
      rw [hstreaming, hstill] at hidle
      simp at hidle
    · obtain ⟨hstreaming, hstill⟩ := not_or.mp hidle
      rw [not_not] at hstreaming
      obtain ⟨panel, hpanel⟩ := panel_of_streaming hstreaming
      cases hactive : rig.owner.active with
      | none =>
        rw [refresh_inactive hactive] at h
        have hsome := h.2.2
        rw [hactive] at hsome
        cases hsome
      | some preset =>
        rw [refresh_due hstreaming (by simpa using hstill) hactive hpanel] at h ⊢
        cases hrender : renderer.render preset samples panel with
        | error error => rfl
        | ok frame =>
          rw [hrender] at h
          exact stopIfUncertain_faulted h
  | advanceAnimation now =>
    rw [turn_advanceAnimation] at h ⊢
    dsimp only at h ⊢
    by_cases hdue : ∃ animation, rig.owner.animation = some animation ∧ ¬ now < animation.due
    · obtain ⟨animation, hanimation, hdue⟩ := hdue
      cases hanswer : ((rig.owner.advanceAnimation now).run lcd rig.world.fresh).1.1 with
      | some due =>
        rw [hanswer] at h
        exact h.elim
      | none =>
        rw [hanswer] at h
        obtain ⟨hstreaming, -, hactive⟩ := h
        obtain ⟨preset, hactive⟩ := Option.isSome_iff_exists.mp hactive
        obtain ⟨sender, -, hsent⟩ := @advanceAnimation_sends rig.owner preset rig.world.fresh now animation
          hstreaming hanimation hdue hactive
        rw [hsent] at hanswer ⊢
        split at hanswer
        · rename_i huncertain
          rw [if_pos huncertain]
          exact stopIfUncertain_faulted huncertain
        · cases hanswer
    · obtain ⟨due, hadvance, hsome⟩ := @advanceAnimation_idle rig.owner rig.world.fresh now
        fun _ animation hanimation => by
          by_contra hlate
          exact hdue ⟨animation, hanimation, hlate⟩
      rw [hadvance] at h
      cases due with
      | some due => exact h.elim
      | none => cases hsome h.1 h.2.1

theorem quiet_stays_stopped {rig : DisplayRig} {call : DisplayCall} (hcall : ¬ call.Resumes)
    (h : rig.owner.faulted.isSome = true) :
    (turn DisplayCall.serve rig call).after.world.log = [] ∧
      (turn DisplayCall.serve rig call).after.owner.faulted.isSome = true := by
  have hquiet := not_streaming_of_faulted h
  cases call with
  | apply renderer preset samples => exact (hcall trivial).elim
  | forget found => exact (hcall trivial).elim
  | dropFrame => exact ⟨rfl, h⟩
  | refresh renderer samples =>
    rw [turn_refresh, refresh_idle (.inl hquiet)]
    exact ⟨rfl, h⟩
  | advanceAnimation now =>
    obtain ⟨due, hadvance, -⟩ := @advanceAnimation_idle rig.owner rig.world.fresh now fun hstreaming =>
      (hquiet hstreaming).elim
    rw [turn_advanceAnimation, hadvance]
    exact ⟨rfl, h⟩

/-! ## Whole runs -/

theorem stops_iff_of_apply {t : DisplayTurn} (hturn : turn DisplayCall.serve t.before t.call = t)
    (hresumes : t.call.Resumes) : Stops t ↔ ApplyFails t := by
  rw [← hturn]
  generalize t.before = rig, t.call = call at hresumes
  cases call with
  | apply renderer preset samples => exact apply_stops_iff
  | forget found =>
    refine ⟨fun h => h.elim, ?_⟩
    rintro ⟨renderer, preset, samples, frame, hcall, -⟩
    cases hcall
  | refresh renderer samples => exact hresumes.elim
  | advanceAnimation now => exact hresumes.elim
  | dropFrame => exact hresumes.elim

theorem stays_stopped {rig : DisplayRig} {calls : List DisplayCall} {quiet later : List DisplayTurn}
    (hrun : turns DisplayCall.serve rig calls = quiet ++ later) (h : rig.owner.faulted.isSome = true)
    (hquiet : ∀ t ∈ quiet, ¬ t.call.Resumes) :
    ∀ t ∈ quiet, t.after.world.log = [] ∧ t.after.owner.faulted.isSome = true := by
  induction quiet generalizing rig calls with
  | nil => simp
  | cons t quiet ih =>
    cases calls with
    | nil => cases hrun
    | cons call rest =>
      obtain ⟨rfl, hrest⟩ := List.cons.inj hrun
      simp only [List.mem_cons, forall_eq_or_imp] at hquiet ⊢
      have hfirst := quiet_stays_stopped hquiet.1 h
      exact ⟨hfirst, ih hrest hfirst.2 hquiet.2⟩

/-- A stop holds until an application or a reconnection exactly when no application's own transfer
fails: that failure is reported to the operator, and the stream goes on. -/
theorem faulted_stream_stays_stopped (panel : Option LcdPanel) (world : LcdWorld) (calls : List DisplayCall) :
    let run := turns DisplayCall.serve ⟨.probed panel, world⟩ calls
    StaysStopped run ↔ ∀ t ∈ run, ¬ ApplyFails t := by
  dsimp only
  constructor
  · intro h t hmem hfails
    have hturn := eq_of_mem_turns hmem
    obtain ⟨earlier, later, hsplit⟩ := List.append_of_mem hmem
    obtain ⟨renderer, preset, samples, frame, hcall, -⟩ := id hfails
    have hresumes : t.call.Resumes := by
      rw [hcall]
      trivial
    have hstops : Stops t := (stops_iff_of_apply hturn hresumes).mpr hfails
    have hstopped := isStopped_iff.mp (h earlier t [] later hsplit hstops (by simp)).1
    rw [← hturn, hcall, turn_apply] at hstopped
    have hfaulted := (@apply_applied t.before.owner preset t.before.world.fresh renderer samples).faulted
    dsimp only at hstopped
    rw [hfaulted] at hstopped
    cases hstopped
  · intro h earlier stop quiet later hsplit hstops hquiet
    have hmem : stop ∈ turns DisplayCall.serve ⟨.probed panel, world⟩ calls := by
      rw [hsplit]
      exact List.mem_append_right _ List.mem_cons_self
    have hturn := eq_of_mem_turns hmem
    have hfaulted : stop.after.owner.faulted.isSome = true := by
      by_cases hresumes : stop.call.Resumes
      · exact (h stop hmem ((stops_iff_of_apply hturn hresumes).mp hstops)).elim
      · rw [← hturn] at hstops ⊢
        exact stopped_of_stops hresumes hstops
    obtain ⟨rest, hrest⟩ := turns_split hsplit
    refine ⟨isStopped_iff.mpr hfaulted, fun t ht => ?_⟩
    have hstays := stays_stopped hrest.symm hfaulted hquiet t ht
    exact ⟨hstays.1, isStopped_iff.mpr hstays.2⟩

/-! ## An application that failed -/

/-- A panel at its full brightness, whose every operation fails without touching it. -/
def failingPanel : LcdWorld :=
  { state := { brightness := .FULL, picture := [] }, log := [], times := fun _ => 0
    faults := fun _ => some ⟨.hid "EIO", .FULL, []⟩ }

/-- An application whose brightness report fails leaves a stream that reports no fault. -/
theorem failed_apply_keeps_streaming :
    let run := turns DisplayCall.serve ⟨.probed (some benchPanel), failingPanel⟩
      [.apply (benchRenderer true) (benchReadings .FULL) benchSamples, .refresh (benchRenderer true) benchSamples]
    ¬ StaysStopped run ∧ ∃ applied refreshed, run = [applied, refreshed] ∧ Stops applied ∧
      applied.after.owner.state.faulted = none ∧ applied.after.owner.state.streaming = true ∧
      refreshed.after.world.log ≠ [] := by
  have hstops : Stops (turn DisplayCall.serve ⟨.probed (some benchPanel), failingPanel⟩
      (.apply (benchRenderer true) (benchReadings .FULL) benchSamples)) := rfl
  refine ⟨fun h => ?_, _, _, rfl, hstops, rfl, rfl, nofun⟩
  have hreported := (h [] _ [] _ rfl hstops (by simp)).1.1
  cases hreported

end Kori
