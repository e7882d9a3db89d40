/-
# TfnAks.System.DriveSafety — no driving on faulty or stale data

An iteration of the VCU task that starts and ends with the HV bus live went past the critical
condition in `ready` or `drive`, so its snapshot was not critical. What that says about the frames
is decided where the snapshot was published: the flags it was built from track the two streams
(`StreamTracks`), so a snapshot that is not critical comes from streams that were fresh and clean at
their last update. Nothing that happens between publication and iteration can change this.

`Sys.Inv` is the invariant over both tasks, `step_inv` its step lemma, and `driving_on_safe_data`
the result for every interleaving.
-/
import TfnAks.System.Aks

namespace TfnAks.System

open TfnAks.Lib.Runs TfnAks.Lib.LatchedTimeout TfnAks.Can TfnAks.Vcu

/-- The age in ms, at the real tick `now`, of a frame received at the real tick `tick`. -/
def ageMs (now tick : Nat) : Nat := (now - tick) * portTickPeriodMs

/-- At the updates before the snapshot was published, the last motor frame, if any, carried no error
and was fresh, and the last BMS frame, if any, was fresh and carried a voltage inside the critical
band. -/
def Provenance.Safe (source : Provenance) : Prop :=
  (∀ f, lastFrame TwaiMessage.isMotorStatus source.frames = some f →
    f.msg.motorErrorFlags = 0 ∧ ageMs source.motorUpdate f.tick < canMotorStatusTimeoutMs) ∧
  (∀ f, lastFrame TwaiMessage.isLbBmsE000 source.frames = some f →
    ageMs source.bmsUpdate f.tick < canBmsStatusTimeoutMs ∧
      bmsCriticalMinPackVoltageDeciV < f.msg.packVoltageDeciV.toNat ∧
      f.msg.packVoltageDeciV.toNat < bmsCriticalMaxPackVoltageDeciV)

/-- A snapshot that is not critical vouches for the streams it was published from. -/
def Vouches (d : TelemetryData) (source : Provenance) : Prop :=
  hasCriticalCondition d .ready = false → source.Safe

/-! ## What a snapshot vouches for -/

/-- A snapshot that is not critical with the HV bus live, field by field. -/
theorem fields_of_not_critical {d : TelemetryData} (h : hasCriticalCondition d .ready = false) :
    d.telMotorErrorFlags = 0 ∧ d.telMotorTimeoutActive = false ∧ d.telBmsTimeoutActive = false ∧
      (d.telBmsDataValid = true →
        bmsCriticalMinPackVoltageDeciV < d.telBmsPackVoltageDeciV.toNat ∧
          d.telBmsPackVoltageDeciV.toNat < bmsCriticalMaxPackVoltageDeciV) := by
  have hready : (VcuState.ready != .idle) = true := by decide
  unfold hasCriticalCondition at h
  rw [hready, Bool.and_true, Bool.and_true] at h
  split_ifs at h with herr hmotor hbms hvalid
  · simp only [Bool.or_eq_true, not_or, bne_iff_ne, ne_eq, not_not] at herr
    refine ⟨herr.1, by simpa using hmotor, by simpa using hbms, ?_⟩
    intro hv
    rw [hv] at hvalid
    exact absurd hvalid (by decide)
  · simp only [Bool.or_eq_true, not_or, bne_iff_ne, ne_eq, not_not] at herr
    simp only [Bool.or_eq_false_iff, decide_eq_false_iff_not] at h
    refine ⟨herr.1, by simpa using hmotor, by simpa using hbms, fun _ => ?_⟩
    omega

/-- Fewer ticks than the timeout are less than the timeout in ms. -/
theorem ageMs_lt {now tick : Nat} (h : now < tick + msInTicks 500) : ageMs now tick < 500 := by
  have hticks : msInTicks 500 = 50 := by decide
  have hperiod : portTickPeriodMs = 10 := by decide
  unfold ageMs
  rw [hperiod]
  omega

theorem publishedData_vouches (rpmToSpeedKmhX10 : UInt16 → UInt16) (timestampMs : UInt32)
    {m : CanManager} {source : Provenance}
    (hmotor : StreamTracks TwaiMessage.isMotorStatus TwaiMessage.motorErrorFlags
      (msInTicks canMotorStatusTimeoutMs) m.motorView source.frames source.motorUpdate)
    (hbms : StreamTracks TwaiMessage.isLbBmsE000 TwaiMessage.packVoltageDeciV
      (msInTicks canBmsStatusTimeoutMs) m.bmsView source.frames source.bmsUpdate) :
    Vouches (m.publishedData rpmToSpeedKmhX10 timestampMs) source := by
  intro h
  obtain ⟨herr, hmotorActive, hbmsActive, hvolt⟩ := fields_of_not_critical h
  constructor
  · intro f hf
    have hpayload : m.telemetryData.telMotorErrorFlags = f.msg.motorErrorFlags :=
      hmotor.payload f hf
    have hfresh := hmotor.fresh hmotorActive hf
    exact ⟨hpayload.symm.trans herr, ageMs_lt hfresh.1⟩
  · intro f hf
    have hpayload : m.telemetryData.telBmsPackVoltageDeciV = f.msg.packVoltageDeciV :=
      hbms.payload f hf
    have hfresh := hbms.fresh hbmsActive hf
    have hband := hvolt hfresh.2
    refine ⟨ageMs_lt hfresh.1, ?_⟩
    rw [← hpayload]
    exact hband

/-! ## The invariant -/

/-- What the VCU task has in hand vouches for its source. -/
def Sys.TaskVouches (s : Sys) : Prop :=
  match s.vcuPc with
  | .peek => True
  | .setTelemetry peeked => ∀ d source, peeked = some (d, source) → Vouches d source
  | .run source => ∀ p, source = some p → Vouches s.vcu.telLatestData p

/-- The invariant of every run: the streams are tracked on the real clock, and what was published
has its provenance. -/
structure Sys.Inv (s : Sys) : Prop where
  wired : s.vcu.Wired
  motor : StreamTracks TwaiMessage.isMotorStatus TwaiMessage.motorErrorFlags
    (msInTicks canMotorStatusTimeoutMs) s.can.motorView s.frames s.motorUpdate
  bms : StreamTracks TwaiMessage.isLbBmsE000 TwaiMessage.packVoltageDeciV
    (msInTicks canBmsStatusTimeoutMs) s.can.bmsView s.frames s.bmsUpdate
  framesPast : ∀ f ∈ s.frames, f.tick ≤ s.clock
  motorPast : s.motorUpdate ≤ s.clock
  bmsPast : s.bmsUpdate ≤ s.clock
  uncalled : s.called = false → s.frames = []
  inCall : s.canPc ≠ .outside → s.called = true
  slot : ∀ d source, s.slot = some (d, source) → Vouches d source
  task : s.TaskVouches

theorem boot_inv : Sys.boot.Inv where
  wired := ⟨rfl, rfl⟩
  motor := ⟨Tracks.start _ _ _ _, fun _ h => by simp [lastFrame, Sys.boot] at h, rfl, rfl⟩
  bms := ⟨Tracks.start _ _ _ _, fun _ h => by simp [lastFrame, Sys.boot] at h, rfl, rfl⟩
  framesPast := by intro f hf; simp [Sys.boot] at hf
  motorPast := Nat.le_refl 0
  bmsPast := Nat.le_refl 0
  uncalled := fun _ => rfl
  inCall := fun h => absurd rfl h
  slot := by intro d source h; simp [Sys.boot] at h
  task := trivial

theorem Sys.Inv.post {s : Sys} (h : s.Inv) (event : VcuEvent) :
    { s with vcu := s.vcu.postEvent event }.Inv :=
  { h with
    wired := step_wired s.vcu (.postEvent event) h.wired
    task := by
      have htask := h.task
      unfold Sys.TaskVouches at htask ⊢
      cases hpc : s.vcuPc with
      | run source =>
          simp only [hpc] at htask ⊢
          rw [postEvent_telLatestData]
          exact htask
      | peek => trivial
      | setTelemetry peeked =>
          simp only [hpc] at htask ⊢
          exact htask }

theorem Sys.Inv.vcuTask {s : Sys} (h : s.Inv) : s.vcuTask.Inv := by
  have htask := h.task
  unfold Sys.TaskVouches at htask
  unfold Sys.vcuTask
  split
  · exact { h with task := h.slot }
  · exact { h with task := fun p hp => by simp at hp }
  · rename_i d source hpc
    simp only [hpc] at htask
    refine { h with wired := step_wired s.vcu (.setTelemetryData d) h.wired, task := ?_ }
    intro p hp
    rw [setTelemetryData_of_wired h.wired d, ← Option.some.inj hp]
    exact htask d source rfl
  · exact { h with wired := run_wired h.wired, task := trivial }

theorem msInTicks_lt : msInTicks 500 < 2 ^ 32 := by decide

theorem Sys.Inv.update {s s' : Sys} (h : s.Inv) (hs : s.update = some s') : s'.Inv := by
  unfold Sys.update at hs
  split at hs
  · -- `updateMotorStatusValidity`: the BMS stream stays, the motor stream is checked now
    split at hs
    · rename_i hgap
      rw [← Option.some.inj hs]
      have hviews := updateMotorStatusValidity_views s.tickCount s.can
      refine
        { h with
          motor := ?_, bms := ?_, motorPast := Nat.le_refl _, inCall := fun _ => h.inCall ?_ }
      · rw [hviews.1]
        exact h.motor.update msInTicks_lt h.motorPast h.framesPast (by simpa [updateInTime] using hgap)
      · rw [hviews.2]
        exact h.bms
      · rename_i hpc _
        rw [hpc]
        exact CanPc.noConfusion
    · simp at hs
  · -- `updateBmsValidity`: the other way round
    split at hs
    · rename_i hgap
      rw [← Option.some.inj hs]
      have hviews := updateBmsValidity_views h.bms.mirrors s.tickCount
      refine
        { h with
          motor := ?_, bms := ?_, bmsPast := Nat.le_refl _, inCall := fun _ => h.inCall ?_ }
      · rw [hviews.1]
        exact h.motor
      · rw [hviews.2]
        exact h.bms.update msInTicks_lt h.bmsPast h.framesPast (by simpa [updateInTime] using hgap)
      · rename_i hpc _
        rw [hpc]
        exact CanPc.noConfusion
    · simp at hs
  · -- `updateChargerValidity` concerns neither stream
    rename_i hpc
    rw [← Option.some.inj hs]
    have hviews := updateChargerValidity_views s.tickCount s.can
    refine { h with motor := ?_, bms := ?_, inCall := fun _ => h.inCall ?_ }
    · rw [hviews.1]
      exact h.motor
    · rw [hviews.2]
      exact h.bms
    · rw [hpc]
      exact CanPc.noConfusion
  · simp at hs

/-- A stream of which nothing has come yet may be given any time as its last update. -/
theorem streamTracks_restart {α : Type} {p : TwaiMessage → Bool} {read : TwaiMessage → α}
    {timeout ref : Nat} {v : StreamView α} (h : StreamTracks p read timeout v [] ref) (ref' : Nat) :
    StreamTracks p read timeout v [] ref' where
  tracks := ⟨h.tracks.seen, h.tracks.tick, fun t ht => by simp [lastFrame] at ht⟩
  payload := h.payload
  mirrors := h.mirrors

theorem Sys.Inv.enterCall {s : Sys} (h : s.Inv) :
    { s with
      canPc := .receive 0
      called := true
      motorUpdate := if s.called then s.motorUpdate else s.clock
      bmsUpdate := if s.called then s.bmsUpdate else s.clock }.Inv := by
  cases hc : s.called with
  | true =>
      simp only [if_true]
      exact { h with uncalled := fun hf => by simp at hf, inCall := fun _ => rfl }
  | false =>
      -- the first call: no frame has come, so the distance to the updates starts here
      have hnone := h.uncalled hc
      have hmotor := h.motor
      have hbms := h.bms
      rw [hnone] at hmotor hbms
      simp only [Bool.false_eq_true, if_false]
      refine
        { h with
          motor := ?_, bms := ?_, motorPast := Nat.le_refl _, bmsPast := Nat.le_refl _
          uncalled := fun hf => by simp at hf, inCall := fun _ => rfl }
      · rw [hnone]
        exact streamTracks_restart hmotor s.clock
      · rw [hnone]
        exact streamTracks_restart hbms s.clock

theorem Sys.Inv.receive {s : Sys} (h : s.Inv) (hcalled : s.called = true) (msg : TwaiMessage)
    (pc : CanPc) :
    { s with
      can := (s.can.handleFrame msg s.tickCount).1
      frames := s.frames ++ [(⟨msg, s.clock⟩ : RxFrame)]
      canPc := pc }.Inv := by
  have hviews := handleFrame_views msg s.tickCount s.can
  have hmotor := h.motor.receive (by decide) h.motorPast msg
  have hbms := h.bms.receive (by decide) h.bmsPast msg
  refine
    { h with
      motor := ?_, bms := ?_, framesPast := ?_
      uncalled := fun hf => by rw [hcalled] at hf; exact absurd hf (by decide)
      inCall := fun _ => hcalled }
  · rw [hviews.1]
    exact hmotor
  · rw [hviews.2]
    exact hbms
  · intro f hf
    rcases List.mem_append.mp hf with hf | hf
    · exact h.framesPast f hf
    · rw [List.mem_singleton.mp hf]

/-- **The step lemma**: every step of either task keeps the invariant. -/
theorem step_inv (rpmToSpeedKmhX10 : UInt16 → UInt16) (s : Sys) (a : Act) (s' : Sys)
    (hs : s.step rpmToSpeedKmhX10 a = some s') (h : s.Inv) : s'.Inv := by
  cases a with
  | elapse ticks =>
      rw [← Option.some.inj hs]
      exact
        { h with
          framesPast := fun f hf => (h.framesPast f hf).trans (Nat.le_add_right _ _)
          motorPast := h.motorPast.trans (Nat.le_add_right _ _)
          bmsPast := h.bmsPast.trans (Nat.le_add_right _ _) }
  | post event =>
      rw [← Option.some.inj hs]
      exact h.post event
  | enterCall =>
      simp only [Sys.step] at hs
      split at hs
      · rw [← Option.some.inj hs]
        exact h.enterCall
      · simp at hs
  | receive msg =>
      simp only [Sys.step] at hs
      split at hs
      · rename_i n hpc
        split at hs
        · rw [← Option.some.inj hs]
          exact h.receive (h.inCall (by rw [hpc]; exact CanPc.noConfusion)) msg _
        · simp at hs
      · simp at hs
  | callback =>
      simp only [Sys.step] at hs
      split at hs
      · rename_i n hpc
        rw [← Option.some.inj hs]
        have hcalled := h.inCall (by rw [hpc]; exact CanPc.noConfusion)
        exact { h.post .faultDetected with inCall := fun _ => hcalled }
      · simp at hs
  | endReceive =>
      simp only [Sys.step] at hs
      split at hs
      · rename_i n hpc
        rw [← Option.some.inj hs]
        have hcalled := h.inCall (by rw [hpc]; exact CanPc.noConfusion)
        exact { h with inCall := fun _ => hcalled }
      · simp at hs
  | update => exact h.update hs
  | publish timestampMs =>
      simp only [Sys.step] at hs
      split at hs
      · rw [← Option.some.inj hs]
        -- the two streams are those of the updates of this call
        refine { h with slot := ?_, inCall := fun hne => absurd rfl hne }
        intro d source heq
        obtain ⟨rfl, rfl⟩ := Prod.mk.inj (Option.some.inj heq)
        exact publishedData_vouches rpmToSpeedKmhX10 timestampMs h.motor h.bms
      · simp at hs
  | vcuTask =>
      rw [← Option.some.inj hs]
      exact h.vcuTask

/-! ## Every interleaving -/

/-- **No driving on faulty or stale data.** For every interleaving of the two tasks, of the passing
of time and of posts: an iteration of the VCU task that has peeked a published snapshot and starts
and ends with the HV bus live stands on streams that were clean and fresh when the snapshot was
made. -/
theorem driving_on_safe_data (rpmToSpeedKmhX10 : UInt16 → UInt16) {acts : List Act} {s : Sys}
    (hrun : execGuarded (Sys.step rpmToSpeedKmhX10) .boot acts = some s) {source : Provenance}
    (hpc : s.vcuPc = .run (some source)) (hbefore : s.vcu.state.isLive = true)
    (hafter : s.vcu.run.state.isLive = true) : source.Safe := by
  have hinv : s.Inv := execGuarded_invariant (step_inv rpmToSpeedKmhX10) boot_inv hrun
  have htask := hinv.task
  unfold Sys.TaskVouches at htask
  simp only [hpc] at htask
  apply htask source rfl
  -- the iteration got past the telemetry check, which outside `idle` is the one of `ready`
  rw [← trips_of_isLive hbefore]
  rcases run_trichotomy s.vcu with hp | ⟨hp, ht⟩ | hp
  · rw [run_of_preempts hp, transitionTo_state] at hafter
    exact absurd hafter (by decide)
  · rw [run_of_trips hp ht, transitionTo_state] at hafter
    exact absurd hafter (by decide)
  · exact (polls_iff.mp hp).2

/-! ## A drive -/

/-- A motor frame at standstill without errors. -/
def cleanMotorFrame : TwaiMessage := ⟨false, 0x200, 5, #v[0, 0, 0, 0, 0, 0, 0, 0]⟩

/-- A BMS frame with 70.0 V. -/
def bmsFrame70V : TwaiMessage := ⟨true, 0xE000, 8, #v[0, 0, 0x02, 0xBC, 0, 0, 0, 0]⟩

/-- A frame of each stream, published; START, one iteration into `ready`, and the next one up to its
`run`. -/
def startedDrive : List Act :=
  [.enterCall, .receive cleanMotorFrame, .receive bmsFrame70V, .endReceive, .update, .update, .update,
    .publish 0, .post .startRequest, .vcuTask, .vcuTask, .vcuTask, .elapse 2, .vcuTask, .vcuTask]

/-- The motor stands still, so its speed is 0. -/
def standstillSpeed (_rpm : UInt16) : UInt16 := 0

theorem startedDrive_possible :
    (execGuarded (Sys.step standstillSpeed) .boot startedDrive).isSome = true := by decide

/-- The theorem at that run. -/
theorem driving_on_safe_data_startedDrive :
    Provenance.Safe ⟨[⟨cleanMotorFrame, 0⟩, ⟨bmsFrame70V, 0⟩], 0, 0⟩ :=
  driving_on_safe_data standstillSpeed
    (s := (execGuarded (Sys.step standstillSpeed) .boot startedDrive).get startedDrive_possible)
    (Option.some_get _).symm rfl (by decide) (by decide)

end TfnAks.System
