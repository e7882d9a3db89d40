/-
# TfnAks.Can.BusRecord — the telemetry record as a function of the frames

`CanManager` keeps its record field by field, frame after frame. `busRecord` says without any state
what should be in it: each value is that of the last accepted frame of its kind, each pair of flags
says whether the last frame of its stream was fresh at the last update. The values follow from what
one frame writes (`handleFrame_values`), the flags from `StreamTracks`.
-/
import TfnAks.Can.CanTask

namespace TfnAks.Can

open TfnAks.Lib.LatchedTimeout

/-! ## The record -/

/-- Byte `i` of the payload, 0 when there is none. -/
def TwaiMessage.byte (msg : TwaiMessage) (i : ℕ) : UInt8 := msg.data[i]?.getD 0

/-- An accepted temperature frame: extended, identifier `0xE001`, eight bytes. -/
def TwaiMessage.isLbBmsE001 (msg : TwaiMessage) : Bool :=
  msg.extd && msg.identifier == canIdLbBmsE001 && 8 ≤ msg.dataLengthCode

/-- The pack current a BMS frame carries. -/
def TwaiMessage.currentCentiMa (msg : TwaiMessage) : Int32 :=
  (word (msg.byte 0) (msg.byte 1)).toInt16.toInt32 * 10

/-- The state of charge a BMS frame carries. -/
def TwaiMessage.socHundredths (msg : TwaiMessage) : UInt16 :=
  word (msg.byte 4) (msg.byte 5)

/-- The higher of the two temperatures of a temperature frame. -/
def TwaiMessage.tempHighestC (msg : TwaiMessage) : Int8 :=
  if (msg.byte 7).toInt8 ≤ (msg.byte 6).toInt8 then (msg.byte 6).toInt8
  else (msg.byte 7).toInt8

/-- The lower of them. -/
def TwaiMessage.tempLowestC (msg : TwaiMessage) : Int8 :=
  if (msg.byte 6).toInt8 ≤ (msg.byte 7).toInt8 then (msg.byte 6).toInt8
  else (msg.byte 7).toInt8

/-- What `read` finds in the last frame that satisfies `p`, and `init` before the first one. -/
def lastValue {α : Type} (p : TwaiMessage → Bool) (read : TwaiMessage → α) (init : α)
    (frames : List RxFrame) : α :=
  ((lastFrame p frames).map fun f => read f.msg).getD init

/-- The last frame that satisfies `p` is younger than the timeout at the tick `ref`. -/
def lastFresh (p : TwaiMessage → Bool) (timeout ref : Nat) (frames : List RxFrame) : Bool :=
  (lastFrame p frames).any fun f => ref < f.tick + timeout

/-- There is a last frame, and it is not. -/
def lastStale (p : TwaiMessage → Bool) (timeout ref : Nat) (frames : List RxFrame) : Bool :=
  (lastFrame p frames).any fun f => f.tick + timeout ≤ ref

/-- The record of the frames, when the two streams were last updated at the given ticks. Nobody
writes the torque, the cell voltages and the system state. -/
def busRecord (frames : List RxFrame) (motorUpdate bmsUpdate : Nat) : TelemetryData :=
  { TelemetryData.zero with
    telMotorRpm := lastValue TwaiMessage.isMotorStatus TwaiMessage.motorRpm 0 frames
    telMotorErrorFlags := lastValue TwaiMessage.isMotorStatus TwaiMessage.motorErrorFlags 0 frames
    telMotorDataValid :=
      lastFresh TwaiMessage.isMotorStatus (msInTicks canMotorStatusTimeoutMs) motorUpdate frames
    telMotorTimeoutActive :=
      lastStale TwaiMessage.isMotorStatus (msInTicks canMotorStatusTimeoutMs) motorUpdate frames
    telBmsTempHighestC := lastValue TwaiMessage.isLbBmsE001 TwaiMessage.tempHighestC 0 frames
    telBmsTempLowestC := lastValue TwaiMessage.isLbBmsE001 TwaiMessage.tempLowestC 0 frames
    telBmsPackVoltageDeciV :=
      lastValue TwaiMessage.isLbBmsE000 TwaiMessage.packVoltageDeciV 0 frames
    telBmsCurrentCentiMa := lastValue TwaiMessage.isLbBmsE000 TwaiMessage.currentCentiMa 0 frames
    telBmsSocHundredths := lastValue TwaiMessage.isLbBmsE000 TwaiMessage.socHundredths 0 frames
    telBmsDataValid :=
      lastFresh TwaiMessage.isLbBmsE000 (msInTicks canBmsStatusTimeoutMs) bmsUpdate frames
    telBmsTimeoutActive :=
      lastStale TwaiMessage.isLbBmsE000 (msInTicks canBmsStatusTimeoutMs) bmsUpdate frames }

theorem lastValue_append {α : Type} (p : TwaiMessage → Bool) (read : TwaiMessage → α) (init : α)
    (frames : List RxFrame) (f : RxFrame) :
    lastValue p read init (frames ++ [f]) =
      if p f.msg then read f.msg else lastValue p read init frames := by
  rw [lastValue, lastFrame_append]
  split <;> rfl

/-! ## The values -/

/-- The values of a record, its four flags left out, and what publication adds. -/
def recordValues (d : TelemetryData) : TelemetryData :=
  { d with
    telMotorDataValid := false
    telMotorTimeoutActive := false
    telBmsDataValid := false
    telBmsTimeoutActive := false }

/-- What one frame does to the values. -/
def TwaiMessage.write (msg : TwaiMessage) (d : TelemetryData) : TelemetryData :=
  if msg.isMotorStatus then
    { d with telMotorRpm := msg.motorRpm, telMotorErrorFlags := msg.motorErrorFlags }
  else if msg.isLbBmsE000 then
    { d with
      telBmsPackVoltageDeciV := msg.packVoltageDeciV
      telBmsCurrentCentiMa := msg.currentCentiMa
      telBmsSocHundredths := msg.socHundredths }
  else if msg.isLbBmsE001 then
    { d with telBmsTempHighestC := msg.tempHighestC, telBmsTempLowestC := msg.tempLowestC }
  else d

theorem handleMotorStatus_values (msg : TwaiMessage) (now : TickType) (m : CanManager) :
    recordValues (m.handleMotorStatus msg now).1.telemetryData =
      if 4 ≤ msg.dataLengthCode then
        { recordValues m.telemetryData with
          telMotorRpm := msg.motorRpm, telMotorErrorFlags := msg.motorErrorFlags }
      else recordValues m.telemetryData := by
  unfold CanManager.handleMotorStatus parseMotorStatus
  by_cases h : msg.dataLengthCode < 4
  · rw [if_pos h, if_neg (UInt8.not_le.mpr h)]
  · rw [if_neg h, if_pos (UInt8.not_lt.mp h)]
    rfl

theorem handleLbBmsE000_values (msg : TwaiMessage) (now : TickType) (m : CanManager) :
    recordValues (m.handleLbBmsE000 msg now).1.telemetryData =
      if 8 ≤ msg.dataLengthCode then
        { recordValues m.telemetryData with
          telBmsPackVoltageDeciV := msg.packVoltageDeciV
          telBmsCurrentCentiMa := msg.currentCentiMa
          telBmsSocHundredths := msg.socHundredths }
      else recordValues m.telemetryData := by
  unfold CanManager.handleLbBmsE000 parseLbBmsE000
  by_cases h : msg.dataLengthCode < 8
  · rw [if_pos h, if_neg (UInt8.not_le.mpr h)]
  · rw [if_neg h, if_pos (UInt8.not_lt.mp h)]
    rfl

theorem handleLbBmsE001_values (msg : TwaiMessage) (m : CanManager) :
    recordValues (m.handleLbBmsE001 msg).telemetryData =
      if 8 ≤ msg.dataLengthCode then
        { recordValues m.telemetryData with
          telBmsTempHighestC := msg.tempHighestC, telBmsTempLowestC := msg.tempLowestC }
      else recordValues m.telemetryData := by
  unfold CanManager.handleLbBmsE001 parseLbBmsE001
  by_cases h : msg.dataLengthCode < 8
  · rw [if_pos h, if_neg (UInt8.not_le.mpr h)]
  · rw [if_neg h, if_pos (UInt8.not_lt.mp h)]
    rfl

theorem write_extended {msg : TwaiMessage} (hext : msg.extd = true) (d : TelemetryData) :
    msg.write d =
      if msg.identifier = canIdLbBmsE000 ∧ 8 ≤ msg.dataLengthCode then
        { d with
          telBmsPackVoltageDeciV := msg.packVoltageDeciV
          telBmsCurrentCentiMa := msg.currentCentiMa
          telBmsSocHundredths := msg.socHundredths }
      else if msg.identifier = canIdLbBmsE001 ∧ 8 ≤ msg.dataLengthCode then
        { d with telBmsTempHighestC := msg.tempHighestC, telBmsTempLowestC := msg.tempLowestC }
      else d := by
  simp [TwaiMessage.write, TwaiMessage.isMotorStatus, TwaiMessage.isLbBmsE000,
    TwaiMessage.isLbBmsE001, hext]

theorem write_standard {msg : TwaiMessage} (hext : msg.extd = false) (d : TelemetryData) :
    msg.write d =
      if msg.identifier = canIdMotorStatus ∧ 4 ≤ msg.dataLengthCode then
        { d with telMotorRpm := msg.motorRpm, telMotorErrorFlags := msg.motorErrorFlags }
      else d := by
  simp [TwaiMessage.write, TwaiMessage.isMotorStatus, TwaiMessage.isLbBmsE000,
    TwaiMessage.isLbBmsE001, hext]

/-- **One frame**, of any identifier and length. -/
theorem handleFrame_values (msg : TwaiMessage) (now : TickType) (m : CanManager) :
    recordValues (m.handleFrame msg now).1.telemetryData =
      msg.write (recordValues m.telemetryData) := by
  unfold CanManager.handleFrame
  cases hext : msg.extd with
  | false =>
      rw [if_neg Bool.false_ne_true, write_standard hext]
      by_cases hid : msg.identifier = canIdMotorStatus
      · rw [if_pos hid, handleMotorStatus_values]
        simp only [hid, true_and]
      · rw [if_neg hid, if_neg (c := _ ∧ _) fun h => hid h.1]
        split <;> rfl
  | true =>
      rw [if_pos rfl, write_extended hext]
      by_cases h0 : msg.identifier = canIdLbBmsE000
      · have h1 : msg.identifier ≠ canIdLbBmsE001 := by
          rw [h0]
          decide
        rw [if_pos h0, handleLbBmsE000_values, if_neg (c := _ ∧ _) fun h => h1 h.1]
        simp only [h0, true_and]
      · rw [if_neg h0, if_neg (c := _ ∧ _) fun h => h0 h.1]
        by_cases hcharger : msg.identifier = canIdLbChargerCmd
        · have h1 : msg.identifier ≠ canIdLbBmsE001 := by
            rw [hcharger]
            decide
          rw [if_pos hcharger, if_neg (c := _ ∧ _) fun h => h1 h.1, handleCharger1806E5F4_eq]
        · rw [if_neg hcharger]
          by_cases h1 : msg.identifier = canIdLbBmsE001
          · rw [if_pos h1, handleLbBmsE001_values]
            simp only [h1, true_and]
          · rw [if_neg h1, if_neg (c := _ ∧ _) fun h => h1 h.1]
            split <;> rfl

/-- The values of the frames after one more. -/
theorem busRecord_values_append (frames : List RxFrame) (motorUpdate bmsUpdate : Nat) (f : RxFrame) :
    recordValues (busRecord (frames ++ [f]) motorUpdate bmsUpdate) =
      f.msg.write (recordValues (busRecord frames motorUpdate bmsUpdate)) := by
  have hmotor : f.msg.isMotorStatus = true →
      f.msg.isLbBmsE000 = false ∧ f.msg.isLbBmsE001 = false := by
    unfold TwaiMessage.isMotorStatus TwaiMessage.isLbBmsE000 TwaiMessage.isLbBmsE001
    cases f.msg.extd <;> simp
  have hbms : f.msg.isLbBmsE000 = true → f.msg.isLbBmsE001 = false := by
    unfold TwaiMessage.isLbBmsE000 TwaiMessage.isLbBmsE001
    intro h
    simp only [Bool.and_eq_true, beq_iff_eq] at h
    rw [h.1.2]
    simp [canIdLbBmsE000, canIdLbBmsE001]
  unfold busRecord recordValues TwaiMessage.write
  simp only [lastValue_append]
  cases h200 : f.msg.isMotorStatus with
  | true =>
      obtain ⟨h0, h1⟩ := hmotor h200
      simp [h0, h1]
  | false =>
      cases h0 : f.msg.isLbBmsE000 with
      | true => simp [hbms h0]
      | false => cases h1 : f.msg.isLbBmsE001 <;> simp

/-- No update writes a value. -/
theorem updateMotorStatusValidity_values (now : TickType) (m : CanManager) :
    recordValues (m.updateMotorStatusValidity now).telemetryData = recordValues m.telemetryData := by
  rw [updateMotorStatusValidity_eq]
  rfl

theorem updateBmsValidity_values (now : TickType) (m : CanManager) :
    recordValues (m.updateBmsValidity now).telemetryData = recordValues m.telemetryData := by
  rw [updateBmsValidity_eq]
  rfl

theorem updateChargerValidity_values (now : TickType) (m : CanManager) :
    recordValues (m.updateChargerValidity now).telemetryData = recordValues m.telemetryData := by
  rw [updateChargerValidity_eq]

/-! ## The flags -/

/-- The two flags of a stream say whether its last frame was fresh at the last update. -/
theorem StreamTracks.flags {α : Type} {p : TwaiMessage → Bool} {read : TwaiMessage → α}
    {timeout ref : Nat} {v : StreamView α} {frames : List RxFrame}
    (h : StreamTracks p read timeout v frames ref) :
    v.dataValid = lastFresh p timeout ref frames ∧
      v.timeoutActive = lastStale p timeout ref frames := by
  obtain ⟨hdata, hactive⟩ := h.mirrors
  have hseen := h.tracks.seen
  have hvalid := h.tracks.valid
  rw [hdata, hactive, hseen]
  unfold lastFresh lastStale
  cases hlast : lastFrame p frames with
  | none => exact ⟨rfl, rfl⟩
  | some f =>
      have hiff : v.stamp.valid = true ↔ ref < f.tick + timeout := by
        apply hvalid
        rw [hlast]
        rfl
      have hfresh : v.stamp.valid = decide (ref < f.tick + timeout) := by
        rw [Bool.eq_iff_iff, hiff, decide_eq_true_iff]
      have hstale : (!v.stamp.valid) = decide (f.tick + timeout ≤ ref) := by
        rw [hfresh, ← decide_not]
        exact decide_eq_decide.mpr Nat.not_lt
      exact ⟨hfresh, hstale⟩

/-- **The record is the picture of the bus.** -/
theorem telemetryData_eq_busRecord {m : CanManager} {frames : List RxFrame}
    {motorUpdate bmsUpdate : Nat}
    (hvalues : recordValues m.telemetryData =
      recordValues (busRecord frames motorUpdate bmsUpdate))
    (hmotor : StreamTracks TwaiMessage.isMotorStatus TwaiMessage.motorErrorFlags
      (msInTicks canMotorStatusTimeoutMs) m.motorView frames motorUpdate)
    (hbms : StreamTracks TwaiMessage.isLbBmsE000 TwaiMessage.packVoltageDeciV
      (msInTicks canBmsStatusTimeoutMs) m.bmsView frames bmsUpdate) :
    m.telemetryData = busRecord frames motorUpdate bmsUpdate := by
  obtain ⟨hmotorValid, hmotorActive⟩ := hmotor.flags
  obtain ⟨hbmsValid, hbmsActive⟩ := hbms.flags
  -- a record is its values and its flags
  have hput : ∀ d : TelemetryData,
      d = { recordValues d with
        telMotorDataValid := d.telMotorDataValid
        telMotorTimeoutActive := d.telMotorTimeoutActive
        telBmsDataValid := d.telBmsDataValid
        telBmsTimeoutActive := d.telBmsTimeoutActive } := fun d => rfl
  rw [hput m.telemetryData, hput (busRecord frames motorUpdate bmsUpdate), hvalues]
  simp only [CanManager.motorView, CanManager.bmsView] at hmotorValid hmotorActive hbmsValid hbmsActive
  rw [hmotorValid, hmotorActive, hbmsValid, hbmsActive]
  rfl

end TfnAks.Can
