/-
# TfnAks.Can.CanTask — the snapshots of the CAN task

The loop of `vTask_CAN_Comm` in one piece a pass: `processRxMessages` handles up to five frames and
updates the validity of the streams, then the telemetry is published. Every read of the tick counter
is free.

The motor speed of a snapshot is that of the last accepted motor frame, and 0 before the first one.
-/
import TfnAks.Can.Streams
import TfnAks.Lib.Runs

namespace TfnAks.Can

open TfnAks.Lib.Runs

/-- The loop bound of `processRxMessages`. -/
def rxMessagesPerCall : Nat := 5

/-- One call of `processRxMessages`: the frames it receives, at most five, and the ticks it reads.
-/
structure CanCall where
  frames : List RxFrame
  frames_le : frames.length ≤ rxMessagesPerCall
  motorTick : TickType
  bmsTick : TickType
  chargerTick : TickType
  timestampMs : UInt32

/-- The receive loop. -/
def CanManager.handleFrames (frames : List RxFrame) (m : CanManager) : CanManager :=
  frames.foldl (fun m f => (m.handleFrame f.msg (UInt32.ofNat f.tick)).1) m

/-- The loop and the three updates after it. -/
def CanManager.processRxMessages (m : CanManager) (c : CanCall) : CanManager :=
  (((m.handleFrames c.frames).updateMotorStatusValidity c.motorTick).updateBmsValidity
    c.bmsTick).updateChargerValidity c.chargerTick

/-- What the task publishes, one snapshot a pass. -/
def snapshots (rpmToSpeedKmhX10 : UInt16 → UInt16) : CanManager → List CanCall → List TelemetryData
  | _, [] => []
  | m, c :: cs =>
    (m.processRxMessages c).publishedData rpmToSpeedKmhX10 c.timestampMs ::
      snapshots rpmToSpeedKmhX10 (m.processRxMessages c) cs

theorem mem_snapshots_iff {rpmToSpeedKmhX10 : UInt16 → UInt16} {m : CanManager}
    {calls : List CanCall} {d : TelemetryData} :
    d ∈ snapshots rpmToSpeedKmhX10 m calls ↔
      ∃ pre c post, calls = pre ++ c :: post ∧
        d = (exec CanManager.processRxMessages m (pre ++ [c])).publishedData rpmToSpeedKmhX10
          c.timestampMs := by
  induction calls generalizing m with
  | nil =>
      constructor
      · intro h
        exact absurd h List.not_mem_nil
      · rintro ⟨pre, c, post, h, -⟩
        simp at h
  | cons c cs ih =>
      rw [snapshots, List.mem_cons, ih]
      -- the snapshot is that of the first pass or one of the later ones
      constructor
      · rintro (rfl | ⟨pre, c', post, rfl, rfl⟩)
        · exact ⟨[], c, cs, rfl, rfl⟩
        · exact ⟨c :: pre, c', post, rfl, rfl⟩
      · rintro ⟨pre, c', post, heq, rfl⟩
        cases pre with
        | nil =>
            obtain ⟨rfl, rfl⟩ := List.cons.inj heq
            exact Or.inl rfl
        | cons b pre =>
            obtain ⟨rfl, rfl⟩ := List.cons.inj heq
            exact Or.inr ⟨pre, c', post, rfl, rfl⟩

/-! ## The motor speed -/

/-- The speed of the last accepted motor frame of `frames`. -/
def lastMotorRpm (frames : List RxFrame) : UInt16 :=
  ((lastFrame TwaiMessage.isMotorStatus frames).map fun f => f.msg.motorRpm).getD 0

theorem handleMotorStatus_rpm (msg : TwaiMessage) (now : TickType) (m : CanManager) :
    (m.handleMotorStatus msg now).1.telemetryData.telMotorRpm =
      if 4 ≤ msg.dataLengthCode then msg.motorRpm else m.telemetryData.telMotorRpm := by
  unfold CanManager.handleMotorStatus parseMotorStatus
  by_cases h : msg.dataLengthCode < 4
  · rw [if_pos h, if_neg (UInt8.not_le.mpr h)]
  · rw [if_neg h, if_pos (UInt8.not_lt.mp h)]
    rfl

theorem handleFrame_rpm (msg : TwaiMessage) (now : TickType) (m : CanManager) :
    (m.handleFrame msg now).1.telemetryData.telMotorRpm =
      if msg.isMotorStatus then msg.motorRpm else m.telemetryData.telMotorRpm := by
  rcases handleFrame_cases msg now m with ⟨hext, hid, heq⟩ | ⟨hext, -, heq⟩ | ⟨hmotor, -, heq⟩
  · rw [heq, handleMotorStatus_rpm, TwaiMessage.isMotorStatus, hext, hid]
    simp
  · have hmotor : msg.extd = false → msg.identifier ≠ canIdMotorStatus := by
      intro h
      rw [hext] at h
      exact Bool.noConfusion h
    rw [heq, if_neg (not_isMotorStatus hmotor), handleLbBmsE000_eq]
  · rw [if_neg (not_isMotorStatus hmotor)]
    rcases heq with heq | heq | heq
    · rw [heq]
    · rw [heq, handleLbBmsE001_eq]
    · rw [heq, handleCharger1806E5F4_eq]

/-- The updates write flags only. -/
theorem updates_rpm (motorTick bmsTick chargerTick : TickType) (m : CanManager) :
    (((m.updateMotorStatusValidity motorTick).updateBmsValidity bmsTick).updateChargerValidity
      chargerTick).telemetryData.telMotorRpm = m.telemetryData.telMotorRpm := by
  have hmotor : (m.updateMotorStatusValidity motorTick).telemetryData.telMotorRpm =
      m.telemetryData.telMotorRpm := by
    rw [updateMotorStatusValidity_eq]
  have hbms : ∀ m : CanManager, (m.updateBmsValidity bmsTick).telemetryData.telMotorRpm =
      m.telemetryData.telMotorRpm := by
    intro m
    rw [updateBmsValidity_eq]
  have hcharger : ∀ m : CanManager,
      (m.updateChargerValidity chargerTick).telemetryData.telMotorRpm =
        m.telemetryData.telMotorRpm := by
    intro m
    rw [updateChargerValidity_eq]
  rw [hcharger, hbms, hmotor]

theorem handleFrames_rpm {m : CanManager} {seen : List RxFrame}
    (h : m.telemetryData.telMotorRpm = lastMotorRpm seen) (frames : List RxFrame) :
    (m.handleFrames frames).telemetryData.telMotorRpm = lastMotorRpm (seen ++ frames) := by
  induction frames generalizing m seen with
  | nil =>
      rw [List.append_nil]
      exact h
  | cons f frames ih =>
      have hone : (m.handleFrame f.msg (UInt32.ofNat f.tick)).1.telemetryData.telMotorRpm =
          lastMotorRpm (seen ++ [f]) := by
        rw [handleFrame_rpm, lastMotorRpm, lastFrame_append, h]
        split <;> rfl
      have hrest := ih hone
      rwa [List.append_assoc] at hrest

theorem exec_processRxMessages_rpm {m : CanManager} {seen : List RxFrame}
    (h : m.telemetryData.telMotorRpm = lastMotorRpm seen) (calls : List CanCall) :
    (exec CanManager.processRxMessages m calls).telemetryData.telMotorRpm =
      lastMotorRpm (seen ++ calls.flatMap CanCall.frames) := by
  induction calls generalizing m seen with
  | nil =>
      rw [List.flatMap_nil, List.append_nil]
      exact h
  | cons c calls ih =>
      have hcall : (m.processRxMessages c).telemetryData.telMotorRpm =
          lastMotorRpm (seen ++ c.frames) :=
        (updates_rpm _ _ _ _).trans (handleFrames_rpm h c.frames)
      rw [exec_cons, ih hcall, List.flatMap_cons, List.append_assoc]

end TfnAks.Can
