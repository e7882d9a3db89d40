/-
# TfnAks.Can.CanManager — frames to telemetry

`lib/CanManager/CanManager.cpp` after a successful `begin()`. A frame goes to the handler of its
identifier (`handleFrame`); the three `update…Validity` functions come after the frames of a call.
Each of them reads the tick counter, which is an argument here. A handler answers the events it
passes to the callback besides the new object.

Bus-off alerts only restart the driver and are left out; so are the log texts. The object is that
between `begin()` and the end: the mutex exists and every access of a field is under it.
-/
import TfnAks.Can.CanParse
import TfnAks.Lib.LatchedTimeout
import TfnAks.Telemetry.Data

namespace TfnAks.Can

open TfnAks.Lib.LatchedTimeout

/-- `CAN_Event`, without its value for "no event". -/
inductive CanEvent where
  | faultDetected
  deriving DecidableEq, Repr

/-- The members of the class; for each stream whether it was seen, whether it is valid, and the tick
of its last frame. -/
structure CanManager where
  motorStatus : MotorStatus
  telemetryData : TelemetryData
  lastMotorStatusTick : TickType
  hasSeenMotorStatus : Bool
  motorTimeoutLogged : Bool
  lastBmsE000Tick : TickType
  hasSeenBmsE000 : Bool
  bmsE000Valid : Bool
  bmsTimeoutLogged : Bool
  /-- bit 0 undervoltage, bit 1 overvoltage -/
  bmsPackFaultFlags : UInt8
  chargerCommand : ChargerCommand
  lastChargerTick : TickType
  hasSeenCharger : Bool
  chargerValid : Bool
  chargerStaleLogged : Bool
  deriving DecidableEq

/-- The object after a successful `begin()`. -/
def CanManager.begun : CanManager where
  motorStatus := ⟨0, 0, 0, false⟩
  telemetryData := .zero
  lastMotorStatusTick := 0
  hasSeenMotorStatus := false
  motorTimeoutLogged := false
  lastBmsE000Tick := 0
  hasSeenBmsE000 := false
  bmsE000Valid := false
  bmsTimeoutLogged := false
  bmsPackFaultFlags := 0
  chargerCommand := ⟨0, 0⟩
  lastChargerTick := 0
  hasSeenCharger := false
  chargerValid := false
  chargerStaleLogged := false

/-! ## Handlers -/

/-- Flags that are set and have changed are an event. -/
def notifyFaultIfNeeded (previousFlags currentFlags : UInt8) : List CanEvent :=
  if currentFlags = 0 ∨ currentFlags = previousFlags then [] else [.faultDetected]

/-- A motor frame: stores and publishes its fields and calls back on new error flags. -/
def CanManager.handleMotorStatus (msg : TwaiMessage) (now : TickType) (m : CanManager) :
    CanManager × List CanEvent :=
  match parseMotorStatus msg with
  | none => (m, [])
  | some parsed =>
    ({ m with
        motorStatus := parsed
        lastMotorStatusTick := now
        hasSeenMotorStatus := true
        motorTimeoutLogged := false
        telemetryData :=
          { m.telemetryData with
            telMotorRpm := parsed.rpm
            telMotorErrorFlags := parsed.errorFlags
            telMotorDataValid := parsed.isValid
            telMotorTimeoutActive := false } },
      notifyFaultIfNeeded m.motorStatus.errorFlags parsed.errorFlags)

/-- The flag byte of a voltage verdict. -/
def packFaultFlags : BmsPackVoltageFault → UInt8
  | .undervoltage => 0x01
  | .overvoltage => 0x02
  | .none => 0

/-- A BMS frame: stores and publishes its fields and calls back on a new voltage fault. -/
def CanManager.handleLbBmsE000 (msg : TwaiMessage) (now : TickType) (m : CanManager) :
    CanManager × List CanEvent :=
  match parseLbBmsE000 msg with
  | none => (m, [])
  | some parsed =>
    let newPackFaultFlags := packFaultFlags (checkPackVoltageFault parsed.bmsPackVoltageDeciV
      bmsCriticalMinPackVoltageDeciV bmsCriticalMaxPackVoltageDeciV)
    ({ m with
        lastBmsE000Tick := now
        hasSeenBmsE000 := true
        bmsE000Valid := true
        bmsTimeoutLogged := false
        bmsPackFaultFlags := newPackFaultFlags
        telemetryData :=
          { m.telemetryData with
            telBmsPackVoltageDeciV := parsed.bmsPackVoltageDeciV
            telBmsCurrentCentiMa := parsed.bmsCurrentCentiMa
            telBmsSocHundredths := parsed.bmsSocHundredths
            telBmsDataValid := true
            telBmsTimeoutActive := false } },
      notifyFaultIfNeeded m.bmsPackFaultFlags newPackFaultFlags)

/-- The temperatures. No stream of its own: neither seen flag nor tick. -/
def CanManager.handleLbBmsE001 (msg : TwaiMessage) (m : CanManager) : CanManager :=
  match parseLbBmsE001 msg with
  | none => m
  | some parsed =>
    { m with
      telemetryData :=
        { m.telemetryData with
          telBmsTempHighestC := parsed.bmsTempHighestC
          telBmsTempLowestC := parsed.bmsTempLowestC } }

/-- The setpoints of the charger, with the tick of their frame. -/
def CanManager.handleCharger1806E5F4 (msg : TwaiMessage) (now : TickType) (m : CanManager) :
    CanManager :=
  match parseCharger1806E5F4 msg with
  | none => m
  | some parsed =>
    { m with
      chargerCommand := parsed
      lastChargerTick := now
      hasSeenCharger := true
      chargerValid := true
      chargerStaleLogged := false }

/-! ### What a handler writes

Every other field is kept. -/

theorem handleMotorStatus_eq (msg : TwaiMessage) (now : TickType) (m : CanManager) :
    (m.handleMotorStatus msg now).1 =
      { m with
        motorStatus := (m.handleMotorStatus msg now).1.motorStatus
        lastMotorStatusTick := (m.handleMotorStatus msg now).1.lastMotorStatusTick
        hasSeenMotorStatus := (m.handleMotorStatus msg now).1.hasSeenMotorStatus
        motorTimeoutLogged := (m.handleMotorStatus msg now).1.motorTimeoutLogged
        telemetryData :=
          { m.telemetryData with
            telMotorRpm := (m.handleMotorStatus msg now).1.telemetryData.telMotorRpm
            telMotorErrorFlags := (m.handleMotorStatus msg now).1.telemetryData.telMotorErrorFlags
            telMotorDataValid := (m.handleMotorStatus msg now).1.telemetryData.telMotorDataValid
            telMotorTimeoutActive :=
              (m.handleMotorStatus msg now).1.telemetryData.telMotorTimeoutActive } } := by
  unfold CanManager.handleMotorStatus
  cases parseMotorStatus msg <;> rfl

theorem handleLbBmsE000_eq (msg : TwaiMessage) (now : TickType) (m : CanManager) :
    (m.handleLbBmsE000 msg now).1 =
      { m with
        lastBmsE000Tick := (m.handleLbBmsE000 msg now).1.lastBmsE000Tick
        hasSeenBmsE000 := (m.handleLbBmsE000 msg now).1.hasSeenBmsE000
        bmsE000Valid := (m.handleLbBmsE000 msg now).1.bmsE000Valid
        bmsTimeoutLogged := (m.handleLbBmsE000 msg now).1.bmsTimeoutLogged
        bmsPackFaultFlags := (m.handleLbBmsE000 msg now).1.bmsPackFaultFlags
        telemetryData :=
          { m.telemetryData with
            telBmsPackVoltageDeciV :=
              (m.handleLbBmsE000 msg now).1.telemetryData.telBmsPackVoltageDeciV
            telBmsCurrentCentiMa := (m.handleLbBmsE000 msg now).1.telemetryData.telBmsCurrentCentiMa
            telBmsSocHundredths := (m.handleLbBmsE000 msg now).1.telemetryData.telBmsSocHundredths
            telBmsDataValid := (m.handleLbBmsE000 msg now).1.telemetryData.telBmsDataValid
            telBmsTimeoutActive :=
              (m.handleLbBmsE000 msg now).1.telemetryData.telBmsTimeoutActive } } := by
  unfold CanManager.handleLbBmsE000
  cases parseLbBmsE000 msg <;> rfl

theorem handleLbBmsE001_eq (msg : TwaiMessage) (m : CanManager) :
    m.handleLbBmsE001 msg =
      { m with
        telemetryData :=
          { m.telemetryData with
            telBmsTempHighestC := (m.handleLbBmsE001 msg).telemetryData.telBmsTempHighestC
            telBmsTempLowestC := (m.handleLbBmsE001 msg).telemetryData.telBmsTempLowestC } } := by
  unfold CanManager.handleLbBmsE001
  cases parseLbBmsE001 msg <;> rfl

theorem handleCharger1806E5F4_eq (msg : TwaiMessage) (now : TickType) (m : CanManager) :
    m.handleCharger1806E5F4 msg now =
      { m with
        chargerCommand := (m.handleCharger1806E5F4 msg now).chargerCommand
        lastChargerTick := (m.handleCharger1806E5F4 msg now).lastChargerTick
        hasSeenCharger := (m.handleCharger1806E5F4 msg now).hasSeenCharger
        chargerValid := (m.handleCharger1806E5F4 msg now).chargerValid
        chargerStaleLogged := (m.handleCharger1806E5F4 msg now).chargerStaleLogged } := by
  unfold CanManager.handleCharger1806E5F4
  cases parseCharger1806E5F4 msg <;> rfl

/-! ### The dispatch -/

/-- `handleLbBmsStub` only logs the bytes. -/
def CanManager.handleLbBmsStub (_msg : TwaiMessage) (m : CanManager) : CanManager := m

/-- The dispatch of one received frame, the loop body of `processRxMessages`. -/
def CanManager.handleFrame (msg : TwaiMessage) (now : TickType) (m : CanManager) :
    CanManager × List CanEvent :=
  if msg.extd then
    if msg.identifier = canIdLbBmsE000 then m.handleLbBmsE000 msg now
    else if msg.identifier = canIdLbChargerCmd then (m.handleCharger1806E5F4 msg now, [])
    else if msg.identifier = canIdLbBmsE001 then (m.handleLbBmsE001 msg, [])
    else if msg.identifier = canIdLbBmsE002 ∨ msg.identifier = canIdLbBmsE003 ∨
        msg.identifier = canIdLbBmsE004 ∨ msg.identifier = canIdLbBmsE005 ∨
        msg.identifier = canIdLbBmsE032 ∨ msg.identifier = canIdLbBmsE033 then
      (m.handleLbBmsStub msg, [])
    else (m, [])
  else
    if msg.identifier = canIdMotorStatus then m.handleMotorStatus msg now
    else if msg.identifier = canIdLbStd0x000 then (m.handleLbBmsStub msg, [])
    else (m, [])

/-- The handler a frame goes to. Besides the two streams with a state of their own only the charger
and the temperature frames write anything. -/
theorem handleFrame_cases (msg : TwaiMessage) (now : TickType) (m : CanManager) :
    (msg.extd = false ∧ msg.identifier = canIdMotorStatus ∧
        m.handleFrame msg now = m.handleMotorStatus msg now) ∨
      (msg.extd = true ∧ msg.identifier = canIdLbBmsE000 ∧
        m.handleFrame msg now = m.handleLbBmsE000 msg now) ∨
      ((msg.extd = false → msg.identifier ≠ canIdMotorStatus) ∧
        (msg.extd = true → msg.identifier ≠ canIdLbBmsE000) ∧
        ((m.handleFrame msg now).1 = m ∨ (m.handleFrame msg now).1 = m.handleLbBmsE001 msg ∨
          (m.handleFrame msg now).1 = m.handleCharger1806E5F4 msg now)) := by
  unfold CanManager.handleFrame
  cases hext : msg.extd with
  | true =>
      by_cases hid : msg.identifier = canIdLbBmsE000
      · exact Or.inr (Or.inl ⟨rfl, hid, by rw [if_pos rfl, if_pos hid]⟩)
      · refine Or.inr (Or.inr ⟨fun h => Bool.noConfusion h, fun _ => hid, ?_⟩)
        rw [if_pos rfl, if_neg hid]
        split
        · exact Or.inr (Or.inr rfl)
        · split
          · exact Or.inr (Or.inl rfl)
          · left
            split <;> rfl
  | false =>
      by_cases hid : msg.identifier = canIdMotorStatus
      · exact Or.inl ⟨rfl, hid, by rw [if_neg Bool.false_ne_true, if_pos hid]⟩
      · refine Or.inr (Or.inr ⟨fun _ => hid, fun h => Bool.noConfusion h, Or.inl ?_⟩)
        rw [if_neg Bool.false_ne_true, if_neg hid]
        split <;> rfl

/-! ## Validity updates -/

/-- A motor stream that has timed out is invalid, and its timeout active, until the next frame. -/
def CanManager.updateMotorStatusValidity (now : TickType) (m : CanManager) : CanManager :=
  if isMotorStatusTimedOut m.hasSeenMotorStatus m.motorStatus.isValid now m.lastMotorStatusTick
      (pdMsToTicks canMotorStatusTimeoutMs) then
    { m with
      motorStatus := { m.motorStatus with isValid := false }
      motorTimeoutLogged := true
      telemetryData :=
        { m.telemetryData with telMotorDataValid := false, telMotorTimeoutActive := true } }
  else m

/-- The flag of `updateBmsValidity` that says whether the last `0xE000` frame is fresh. -/
def CanManager.checkBmsE000 (now : TickType) (m : CanManager) : CanManager :=
  if isBmsStatusTimedOut m.hasSeenBmsE000 m.bmsE000Valid now m.lastBmsE000Tick
      (pdMsToTicks canBmsStatusTimeoutMs) then
    { m with bmsE000Valid := false }
  else m

/-- The same for the BMS; without a valid frame its data is marked as invalid in every call. -/
def CanManager.updateBmsValidity (now : TickType) (m : CanManager) : CanManager :=
  let m := m.checkBmsE000 now
  if !m.bmsE000Valid then
    let m := { m with telemetryData := { m.telemetryData with telBmsDataValid := false } }
    if m.hasSeenBmsE000 then
      { m with
        bmsTimeoutLogged := true
        telemetryData := { m.telemetryData with telBmsTimeoutActive := true } }
    else m
  else m

/-- The same for the charger, which has no flag in the telemetry. -/
def CanManager.updateChargerValidity (now : TickType) (m : CanManager) : CanManager :=
  if isBmsStatusTimedOut m.hasSeenCharger m.chargerValid now m.lastChargerTick
      (pdMsToTicks canChargerTimeoutMs) then
    { m with chargerValid := false, chargerStaleLogged := true }
  else m

/-! ### What an update writes -/

theorem updateMotorStatusValidity_eq (now : TickType) (m : CanManager) :
    m.updateMotorStatusValidity now =
      { m with
        motorStatus :=
          { m.motorStatus with isValid := (m.updateMotorStatusValidity now).motorStatus.isValid }
        motorTimeoutLogged := (m.updateMotorStatusValidity now).motorTimeoutLogged
        telemetryData :=
          { m.telemetryData with
            telMotorDataValid := (m.updateMotorStatusValidity now).telemetryData.telMotorDataValid
            telMotorTimeoutActive :=
              (m.updateMotorStatusValidity now).telemetryData.telMotorTimeoutActive } } := by
  unfold CanManager.updateMotorStatusValidity
  split <;> rfl

theorem checkBmsE000_eq (now : TickType) (m : CanManager) :
    m.checkBmsE000 now = { m with bmsE000Valid := (m.checkBmsE000 now).bmsE000Valid } := by
  unfold CanManager.checkBmsE000
  split <;> rfl

theorem updateBmsValidity_eq (now : TickType) (m : CanManager) :
    m.updateBmsValidity now =
      { m with
        bmsE000Valid := (m.updateBmsValidity now).bmsE000Valid
        bmsTimeoutLogged := (m.updateBmsValidity now).bmsTimeoutLogged
        telemetryData :=
          { m.telemetryData with
            telBmsDataValid := (m.updateBmsValidity now).telemetryData.telBmsDataValid
            telBmsTimeoutActive :=
              (m.updateBmsValidity now).telemetryData.telBmsTimeoutActive } } := by
  simp only [CanManager.updateBmsValidity]
  rw [checkBmsE000_eq]
  split
  · split <;> rfl
  · rfl

theorem updateChargerValidity_eq (now : TickType) (m : CanManager) :
    m.updateChargerValidity now =
      { m with
        chargerValid := (m.updateChargerValidity now).chargerValid
        chargerStaleLogged := (m.updateChargerValidity now).chargerStaleLogged } := by
  unfold CanManager.updateChargerValidity
  split <;> rfl

/-! ## Publication -/

/-- The record as the other tasks get it. -/
def CanManager.getTelemetryData (m : CanManager) : TelemetryData := m.telemetryData

/-- The snapshot `vTask_CAN_Comm` puts in the queue. The speed is a floating-point computation and
comes in as a function; `timestampMs` is the uptime. -/
def CanManager.publishedData (rpmToSpeedKmhX10 : UInt16 → UInt16) (timestampMs : UInt32)
    (m : CanManager) : TelemetryData :=
  let d := m.getTelemetryData
  { d with telSpeedKmhX10 := rpmToSpeedKmhX10 d.telMotorRpm, telTimestampMs := timestampMs }

end TfnAks.Can
