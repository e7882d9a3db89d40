/-
# TfnAks.Can.FieldRanges — what the CAN path can put into the telemetry

The record has fields that no handler of `CanManager` writes: the torque (its assignment is
commented out), the two cell voltages and the system state. They keep the value of the constructor.
The pack current is written, but only as a 16-bit value times ten. `CanFed` says so of a record; it
holds of every record the CAN task publishes, whatever frames come in.
-/
import TfnAks.Can.CanTask

namespace TfnAks.Can

open TfnAks.Lib.Runs

/-- A record as the CAN path leaves it. -/
structure CanFed (d : TelemetryData) : Prop where
  torque : d.telMotorTorqueFeedback = 0
  cellVoltageMax : d.telBmsCellVoltageMaxDeciMv = 0
  cellVoltageMin : d.telBmsCellVoltageMinDeciMv = 0
  systemState : d.telBmsSystemState = 0
  current : d.telBmsCurrentCentiMa.toInt.natAbs ≤ 327680

theorem begun_canFed : CanFed CanManager.begun.telemetryData :=
  ⟨rfl, rfl, rfl, rfl, by decide⟩

/-! ## The handlers -/

/-- Ten times a 16-bit value does not overflow 32 bits. -/
theorem natAbs_current_le (raw : Int16) : (raw.toInt32 * 10).toInt.natAbs ≤ 327680 := by
  have hlo : -2 ^ 15 ≤ raw.toInt := raw.le_toInt
  have hhi : raw.toInt < 2 ^ 15 := raw.toInt_lt
  have hexact : (raw.toInt32 * 10).toInt = raw.toInt * 10 := by
    rw [Int32.toInt_mul, Int16.toInt_toInt32, show (10 : Int32).toInt = 10 from rfl]
    apply Int.bmod_eq_of_le
    · omega
    · omega
  rw [hexact]
  omega

theorem handleLbBmsE000_canFed {m : CanManager} (h : CanFed m.telemetryData) (msg : TwaiMessage)
    (now : TickType) : CanFed (m.handleLbBmsE000 msg now).1.telemetryData := by
  unfold CanManager.handleLbBmsE000 parseLbBmsE000
  by_cases hdlc : msg.dataLengthCode < 8
  · rw [if_pos hdlc]
    exact h
  · rw [if_neg hdlc]
    exact ⟨h.torque, h.cellVoltageMax, h.cellVoltageMin, h.systemState, natAbs_current_le _⟩

/-- **One frame**, of any identifier and length. -/
theorem handleFrame_canFed {m : CanManager} (h : CanFed m.telemetryData) (msg : TwaiMessage)
    (now : TickType) : CanFed (m.handleFrame msg now).1.telemetryData := by
  rcases handleFrame_cases msg now m with ⟨-, -, heq⟩ | ⟨-, -, heq⟩ | ⟨-, -, heq | heq | heq⟩
  · rw [heq, handleMotorStatus_eq]
    exact ⟨h.torque, h.cellVoltageMax, h.cellVoltageMin, h.systemState, h.current⟩
  · rw [heq]
    exact handleLbBmsE000_canFed h msg now
  · rw [heq]
    exact h
  · rw [heq, handleLbBmsE001_eq]
    exact ⟨h.torque, h.cellVoltageMax, h.cellVoltageMin, h.systemState, h.current⟩
  · rw [heq, handleCharger1806E5F4_eq]
    exact h

/-! ## Calls -/

theorem handleFrames_canFed {m : CanManager} (h : CanFed m.telemetryData) (frames : List RxFrame) :
    CanFed (m.handleFrames frames).telemetryData := by
  induction frames generalizing m with
  | nil => exact h
  | cons f frames ih => exact ih (handleFrame_canFed h f.msg (UInt32.ofNat f.tick))

theorem updateMotorStatusValidity_canFed {m : CanManager} (h : CanFed m.telemetryData)
    (now : TickType) : CanFed (m.updateMotorStatusValidity now).telemetryData := by
  rw [updateMotorStatusValidity_eq]
  exact ⟨h.torque, h.cellVoltageMax, h.cellVoltageMin, h.systemState, h.current⟩

theorem updateBmsValidity_canFed {m : CanManager} (h : CanFed m.telemetryData) (now : TickType) :
    CanFed (m.updateBmsValidity now).telemetryData := by
  rw [updateBmsValidity_eq]
  exact ⟨h.torque, h.cellVoltageMax, h.cellVoltageMin, h.systemState, h.current⟩

theorem updateChargerValidity_canFed {m : CanManager} (h : CanFed m.telemetryData)
    (now : TickType) : CanFed (m.updateChargerValidity now).telemetryData := by
  rw [updateChargerValidity_eq]
  exact h

theorem processRxMessages_canFed {m : CanManager} (h : CanFed m.telemetryData) (c : CanCall) :
    CanFed (m.processRxMessages c).telemetryData := by
  rw [CanManager.processRxMessages]
  apply updateChargerValidity_canFed
  apply updateBmsValidity_canFed
  apply updateMotorStatusValidity_canFed
  exact handleFrames_canFed h c.frames

/-- **Every published snapshot.** -/
theorem canFed_of_mem_snapshots {rpmToSpeedKmhX10 : UInt16 → UInt16} {calls : List CanCall}
    {d : TelemetryData} (hd : d ∈ snapshots rpmToSpeedKmhX10 .begun calls) : CanFed d := by
  obtain ⟨pre, c, post, -, rfl⟩ := mem_snapshots_iff.mp hd
  have h : CanFed (exec CanManager.processRxMessages .begun (pre ++ [c])).telemetryData :=
    exec_invariant (I := fun m : CanManager => CanFed m.telemetryData)
      (fun m c hm => processRxMessages_canFed hm c) begun_canFed _
  -- the speed and the uptime are added to the record, none of the fields
  exact ⟨h.torque, h.cellVoltageMax, h.cellVoltageMin, h.systemState, h.current⟩

end TfnAks.Can
