/-
# TfnAks.System.Noninterference — unverified signals decide nothing

Of everything on the bus only the pack voltage (bytes 2 and 3 of `0xE000`) and the motor's error
flags (byte 4 of `0x200`) are verified. `verified` erases the rest, from a frame to the whole
system, and the lemmas say that erasing before a step or after it makes no difference. Two runs
whose frames differ in unverified bytes only are therefore one run once erased, and nothing that
decides about the contactors is erased (`unverified_signals_decide_nothing`).

The runs are those of `TfnAks.System.Aks` without its assumption that the updates come in time.
-/
import Mathlib.Data.List.Forall2
import TfnAks.System.Aks

/-! ## Telemetry -/

namespace TfnAks

/-- A record without the fields that come from unverified signals. -/
def TelemetryData.verified (d : TelemetryData) : TelemetryData :=
  { d with
    telMotorRpm := 0
    telMotorTorqueFeedback := 0
    telBmsCellVoltageMaxDeciMv := 0
    telBmsCellVoltageMinDeciMv := 0
    telBmsTempHighestC := 0
    telBmsTempLowestC := 0
    telBmsCurrentCentiMa := 0
    telBmsSocHundredths := 0
    telSpeedKmhX10 := 0 }

end TfnAks

/-! ## The VCU -/

namespace TfnAks.Vcu

open TfnAks.Relay

/-- The VCU with the unverified fields of its snapshot wiped out. -/
def VcuLogic.verified (s : VcuLogic) : VcuLogic :=
  { s with telLatestData := s.telLatestData.verified }

section Verified

variable (s : VcuLogic)

/-- The predicates that decide read verified fields, and the system state, which no frame writes. -/
theorem hasCriticalCondition_verified (d : TelemetryData) (st : VcuState) :
    hasCriticalCondition d.verified st = hasCriticalCondition d st := rfl

theorem isResetInterlockSatisfied_verified (d : TelemetryData) (st : VcuState) :
    isResetInterlockSatisfied d.verified st = isResetInterlockSatisfied d st := rfl

theorem transitionTo_verified (next : VcuState) :
    (s.transitionTo next).verified = s.verified.transitionTo next := by
  cases next <;> rfl

theorem handleReady_verified : s.handleReady.verified = s.verified.handleReady := by
  have htimer : s.verified.stateTimer = s.stateTimer := rfl
  unfold VcuLogic.handleReady
  rw [htimer]
  split <;> rfl

theorem handleEmergencyStop_verified :
    s.handleEmergencyStop.verified = s.verified.handleEmergencyStop := by
  rw [handleEmergencyStop_eq, handleEmergencyStop_eq]
  rfl

theorem handleFault_verified : s.handleFault.verified = s.verified.handleFault := by
  rw [handleFault_eq, handleFault_eq]
  rfl

theorem periodic_verified : s.periodic.verified = s.verified.periodic := by
  have hstate : s.verified.state = s.state := rfl
  unfold VcuLogic.periodic
  rw [hstate]
  cases s.state with
  | ready => exact handleReady_verified s
  | emergencyStop => exact handleEmergencyStop_verified s
  | fault => exact handleFault_verified s
  | _ => rfl

theorem handleStateEvent_verified (event : VcuEvent) :
    (s.handleStateEvent event).verified = s.verified.handleStateEvent event := by
  have hstate : s.verified.state = s.state := rfl
  unfold VcuLogic.handleStateEvent
  rw [hstate]
  cases s.state with
  | idle =>
      show (if _ then _ else _ : VcuLogic).verified = if _ then _ else _
      split
      · exact transitionTo_verified s _
      · rfl
  | ready =>
      show (if _ then _ else _ : VcuLogic).verified = if _ then _ else _
      split
      · exact transitionTo_verified s _
      · rfl
  | _ => rfl

theorem handleEvent_verified (event : VcuEvent) :
    (s.handleEvent event).verified = s.verified.handleEvent event := by
  unfold VcuLogic.handleEvent
  by_cases h₁ : event = .emergencyStop
  · rw [if_pos h₁, if_pos h₁, transitionTo_verified]
  · rw [if_neg h₁, if_neg h₁]
    by_cases h₂ : event = .faultDetected
    · rw [if_pos h₂, if_pos h₂, transitionTo_verified]
    · rw [if_neg h₂, if_neg h₂]
      by_cases h₃ : event = .reset ∧ (s.state = .fault ∨ s.state = .emergencyStop)
      · have h₃' : event = .reset ∧
            (s.verified.state = .fault ∨ s.verified.state = .emergencyStop) := h₃
        have hinterlock : isResetInterlockSatisfied s.verified.telLatestData s.verified.state =
            isResetInterlockSatisfied s.telLatestData s.state :=
          isResetInterlockSatisfied_verified s.telLatestData s.state
        rw [if_pos h₃, if_pos h₃', hinterlock]
        split
        · rfl
        · rw [transitionTo_verified]
      · have h₃' : ¬ (event = .reset ∧
            (s.verified.state = .fault ∨ s.verified.state = .emergencyStop)) := h₃
        rw [if_neg h₃, if_neg h₃', periodic_verified, handleStateEvent_verified]

/-- **An iteration** goes the same way on the erased snapshot. -/
theorem run_verified : s.run.verified = s.verified.run := by
  have hpreempts : s.verified.preempts = s.preempts := rfl
  have htrips : s.verified.trips = s.trips :=
    congrArg (s.state.isMonitored && ·) (hasCriticalCondition_verified s.telLatestData s.state)
  have hqueue : s.verified.queue = s.queue := rfl
  have hticked : s.verified.ticked = s.ticked.verified := rfl
  have hpolled : s.verified.polled = s.polled.verified := rfl
  rw [run_eq, run_eq, hpreempts, htrips, hqueue, hticked, hpolled]
  split
  · rw [transitionTo_verified]
  · split
    · rw [transitionTo_verified]
    · cases s.queue.head? with
      | none => exact periodic_verified _
      | some event => exact handleEvent_verified _ event

theorem postEvent_verified (event : VcuEvent) :
    (s.postEvent event).verified = s.verified.postEvent event := by
  rcases s with ⟨_, _ | queue⟩
  · rfl
  · simp only [VcuLogic.postEvent, VcuLogic.verified]
    split
    · rfl
    · split <;> rfl

theorem setTelemetryData_verified (d : TelemetryData) :
    (s.setTelemetryData d).verified = s.verified.setTelemetryData d.verified := by
  unfold VcuLogic.setTelemetryData
  have hmutex : s.verified.telDataMutex = s.telDataMutex := rfl
  rw [hmutex]
  split <;> rfl

end Verified

end TfnAks.Vcu

/-! ## The CAN task -/

namespace TfnAks.Can

/-- A frame with its verified bytes only. -/
def TwaiMessage.verified (msg : TwaiMessage) : TwaiMessage :=
  { msg with
    data :=
      if msg.extd && msg.identifier == canIdLbBmsE000 then msg.packVoltageBytes
      else if !msg.extd && msg.identifier == canIdMotorStatus then msg.errorFlagsByte
      else Vector.replicate 8 0 }

/-- Two frames of one format, identifier and length with the same verified bytes. -/
structure TwaiMessage.Agrees (msg msg' : TwaiMessage) : Prop where
  extd : msg.extd = msg'.extd
  identifier : msg.identifier = msg'.identifier
  dataLengthCode : msg.dataLengthCode = msg'.dataLengthCode
  packVoltage : msg.extd = true → msg.identifier = canIdLbBmsE000 →
    msg.data.get 2 = msg'.data.get 2 ∧ msg.data.get 3 = msg'.data.get 3
  errorFlags : msg.extd = false → msg.identifier = canIdMotorStatus →
    msg.data.get 4 = msg'.data.get 4

theorem TwaiMessage.Agrees.refl (msg : TwaiMessage) : msg.Agrees msg :=
  ⟨rfl, rfl, rfl, fun _ _ => ⟨rfl, rfl⟩, fun _ _ => rfl⟩

theorem TwaiMessage.Agrees.verified_eq {msg msg' : TwaiMessage} (h : msg.Agrees msg') :
    msg.verified = msg'.verified := by
  obtain ⟨hext, hid, hdlc, hpack, herr⟩ := h
  unfold TwaiMessage.verified
  rw [← hext, ← hid, ← hdlc]
  by_cases hbms : (msg.extd && msg.identifier == canIdLbBmsE000) = true
  · rw [if_pos hbms, if_pos hbms]
    rw [Bool.and_eq_true, beq_iff_eq] at hbms
    rw [TwaiMessage.packVoltageBytes, TwaiMessage.packVoltageBytes, (hpack hbms.1 hbms.2).1,
      (hpack hbms.1 hbms.2).2]
  · rw [if_neg hbms, if_neg hbms]
    by_cases hmotor : (!msg.extd && msg.identifier == canIdMotorStatus) = true
    · rw [if_pos hmotor, if_pos hmotor]
      rw [Bool.and_eq_true, beq_iff_eq, Bool.not_eq_true'] at hmotor
      rw [TwaiMessage.errorFlagsByte, TwaiMessage.errorFlagsByte, herr hmotor.1 hmotor.2]
    · rw [if_neg hmotor, if_neg hmotor]

/-- The manager with its unverified fields wiped out. -/
def CanManager.verified (m : CanManager) : CanManager :=
  { m with
    motorStatus := { m.motorStatus with rpm := 0, torqueFeedback := 0 }
    telemetryData := m.telemetryData.verified
    chargerCommand := ⟨0, 0⟩ }

/-- An outcome of a handler, erased. -/
def erased (r : CanManager × List CanEvent) : CanManager × List CanEvent := (r.1.verified, r.2)

theorem handleMotorStatus_verified {msg : TwaiMessage} (hext : msg.extd = false)
    (hid : msg.identifier = canIdMotorStatus) (now : TickType) (m : CanManager) :
    erased (m.handleMotorStatus msg now) =
      erased (m.verified.handleMotorStatus msg.verified now) := by
  have hdata : msg.verified.data = msg.errorFlagsByte := by
    simp [TwaiMessage.verified, hext, hid]
  have hdlc : msg.verified.dataLengthCode = msg.dataLengthCode := rfl
  have hflags : msg.errorFlagsByte[4] = msg.data[4] := rfl
  unfold CanManager.handleMotorStatus parseMotorStatus
  rw [hdlc, hdata]
  by_cases h : msg.dataLengthCode < 4
  · rw [if_pos h, if_pos h]
    rfl
  · rw [if_neg h, if_neg h, hflags]
    -- what the other bytes say is erased
    generalize word msg.data[0] msg.data[1] = rpm
    generalize word msg.data[2] msg.data[3] = torque
    generalize word msg.errorFlagsByte[0] msg.errorFlagsByte[1] = rpm'
    generalize word msg.errorFlagsByte[2] msg.errorFlagsByte[3] = torque'
    rfl

theorem handleLbBmsE000_verified {msg : TwaiMessage} (hext : msg.extd = true)
    (hid : msg.identifier = canIdLbBmsE000) (now : TickType) (m : CanManager) :
    erased (m.handleLbBmsE000 msg now) = erased (m.verified.handleLbBmsE000 msg.verified now) := by
  have hdata : msg.verified.data = msg.packVoltageBytes := by
    simp [TwaiMessage.verified, hext, hid]
  have hdlc : msg.verified.dataLengthCode = msg.dataLengthCode := rfl
  have hpack : msg.packVoltageBytes[2] = msg.data[2] ∧ msg.packVoltageBytes[3] = msg.data[3] :=
    ⟨rfl, rfl⟩
  unfold CanManager.handleLbBmsE000 parseLbBmsE000
  rw [hdlc, hdata]
  by_cases h : msg.dataLengthCode < 8
  · rw [if_pos h, if_pos h]
    rfl
  · rw [if_neg h, if_neg h, hpack.1, hpack.2]
    generalize word msg.data[4] msg.data[5] = soc
    generalize word msg.packVoltageBytes[4] msg.packVoltageBytes[5] = soc'
    generalize word msg.data[0] msg.data[1] = current
    generalize word msg.packVoltageBytes[0] msg.packVoltageBytes[1] = current'
    rfl

theorem handleLbBmsE001_verified (msg : TwaiMessage) (m : CanManager) :
    (m.handleLbBmsE001 msg).verified = (m.verified.handleLbBmsE001 msg.verified).verified := by
  have hdlc : msg.verified.dataLengthCode = msg.dataLengthCode := rfl
  unfold CanManager.handleLbBmsE001 parseLbBmsE001
  rw [hdlc]
  by_cases h : msg.dataLengthCode < 8
  · rw [if_pos h, if_pos h]
    rfl
  · rw [if_neg h, if_neg h]
    rfl

theorem handleCharger_verified (msg : TwaiMessage) (now : TickType) (m : CanManager) :
    (m.handleCharger1806E5F4 msg now).verified =
      (m.verified.handleCharger1806E5F4 msg.verified now).verified := by
  have hdlc : msg.verified.dataLengthCode = msg.dataLengthCode := rfl
  unfold CanManager.handleCharger1806E5F4 parseCharger1806E5F4
  rw [hdlc]
  by_cases h : msg.dataLengthCode < 4
  · rw [if_pos h, if_pos h]
    rfl
  · rw [if_neg h, if_neg h]
    rfl

/-- **A frame** does the same on the erased object, and raises the same events. -/
theorem handleFrame_verified (msg : TwaiMessage) (now : TickType) (m : CanManager) :
    erased (m.handleFrame msg now) = erased (m.verified.handleFrame msg.verified now) := by
  have hextd : msg.verified.extd = msg.extd := rfl
  have hid : msg.verified.identifier = msg.identifier := rfl
  unfold CanManager.handleFrame
  rw [hextd, hid]
  cases hext : msg.extd with
  | true =>
      rw [if_pos rfl, if_pos rfl]
      split
      · rename_i hbms
        exact handleLbBmsE000_verified hext hbms now m
      · split
        · exact Prod.ext (handleCharger_verified msg now m) rfl
        · split
          · exact Prod.ext (handleLbBmsE001_verified msg m) rfl
          · split <;> rfl
  | false =>
      rw [if_neg Bool.false_ne_true, if_neg Bool.false_ne_true]
      split
      · rename_i hmotor
        exact handleMotorStatus_verified hext hmotor now m
      · split <;> rfl

section Updates

variable (now : TickType) (m : CanManager)

theorem updateMotorStatusValidity_verified :
    (m.updateMotorStatusValidity now).verified = m.verified.updateMotorStatusValidity now := by
  have hout : isMotorStatusTimedOut m.verified.hasSeenMotorStatus m.verified.motorStatus.isValid now
      m.verified.lastMotorStatusTick (pdMsToTicks canMotorStatusTimeoutMs) =
        isMotorStatusTimedOut m.hasSeenMotorStatus m.motorStatus.isValid now m.lastMotorStatusTick
          (pdMsToTicks canMotorStatusTimeoutMs) := rfl
  unfold CanManager.updateMotorStatusValidity
  rw [hout]
  split <;> rfl

theorem checkBmsE000_verified : (m.checkBmsE000 now).verified = m.verified.checkBmsE000 now := by
  have hout : isBmsStatusTimedOut m.verified.hasSeenBmsE000 m.verified.bmsE000Valid now
      m.verified.lastBmsE000Tick (pdMsToTicks canBmsStatusTimeoutMs) =
        isBmsStatusTimedOut m.hasSeenBmsE000 m.bmsE000Valid now m.lastBmsE000Tick
          (pdMsToTicks canBmsStatusTimeoutMs) := rfl
  unfold CanManager.checkBmsE000
  rw [hout]
  split <;> rfl

theorem updateBmsValidity_verified :
    (m.updateBmsValidity now).verified = m.verified.updateBmsValidity now := by
  unfold CanManager.updateBmsValidity
  rw [← checkBmsE000_verified]
  have hvalid : (m.checkBmsE000 now).verified.bmsE000Valid =
      (m.checkBmsE000 now).bmsE000Valid := rfl
  have hseen : (m.checkBmsE000 now).verified.hasSeenBmsE000 =
      (m.checkBmsE000 now).hasSeenBmsE000 := rfl
  simp only [hvalid, hseen]
  split
  · split <;> rfl
  · rfl

theorem updateChargerValidity_verified :
    (m.updateChargerValidity now).verified = m.verified.updateChargerValidity now := by
  have hout : isBmsStatusTimedOut m.verified.hasSeenCharger m.verified.chargerValid now
      m.verified.lastChargerTick (pdMsToTicks canChargerTimeoutMs) =
        isBmsStatusTimedOut m.hasSeenCharger m.chargerValid now m.lastChargerTick
          (pdMsToTicks canChargerTimeoutMs) := rfl
  unfold CanManager.updateChargerValidity
  rw [hout]
  split <;> rfl

end Updates

/-- The published speed is computed from the motor speed, so it is erased with it. -/
theorem publishedData_verified (rpmToSpeedKmhX10 : UInt16 → UInt16) (timestampMs : UInt32)
    (m : CanManager) :
    (m.publishedData rpmToSpeedKmhX10 timestampMs).verified =
      (m.verified.publishedData rpmToSpeedKmhX10 timestampMs).verified := rfl

end TfnAks.Can

/-! ## The two tasks -/

namespace TfnAks.System

open TfnAks.Lib.Runs TfnAks.Can TfnAks.Vcu TfnAks.Relay

/-- The updates, however late they come. -/
def Sys.lateUpdate (s : Sys) : Option Sys :=
  match s.canPc with
  | .updateMotor =>
    some
      { s with
        can := s.can.updateMotorStatusValidity s.tickCount
        motorUpdate := s.clock
        canPc := .updateBms }
  | .updateBms =>
    some
      { s with
        can := s.can.updateBmsValidity s.tickCount
        bmsUpdate := s.clock
        canPc := .updateCharger }
  | .updateCharger =>
    some { s with can := s.can.updateChargerValidity s.tickCount, canPc := .publish }
  | _ => none

/-- A step at any time. -/
def Sys.anyStep (rpmToSpeedKmhX10 : UInt16 → UInt16) (s : Sys) : Act → Option Sys
  | .update => s.lateUpdate
  | a => s.step rpmToSpeedKmhX10 a

/-- The steps in time are among them. -/
theorem anyStep_of_step {rpmToSpeedKmhX10 : UInt16 → UInt16} {s s' : Sys} {a : Act}
    (h : s.step rpmToSpeedKmhX10 a = some s') : s.anyStep rpmToSpeedKmhX10 a = some s' := by
  cases a with
  | update =>
      show s.lateUpdate = some s'
      have hup : s.update = some s' := h
      unfold Sys.update at hup
      unfold Sys.lateUpdate
      cases hpc : s.canPc with
      | updateMotor =>
          rw [hpc] at hup
          exact (Option.ite_none_right_eq_some.mp hup).2
      | updateBms =>
          rw [hpc] at hup
          exact (Option.ite_none_right_eq_some.mp hup).2
      | updateCharger =>
          rw [hpc] at hup
          exact hup
      | _ =>
          rw [hpc] at hup
          exact hup
  | _ => exact h

/-- What is seen of a step: the state of the VCU after it, the FAULT_DETECTED it posts for the CAN
task, and the relay calls so far. -/
structure Observation where
  state : VcuState
  posted : List VcuEvent
  relayCalls : List RelayOp
  deriving DecidableEq

/-- The state, the events posted and the relay calls after a step. -/
def observe (_s : Sys) (a : Act) (s' : Sys) : Observation where
  state := s'.vcu.state
  posted := match a with
    | .callback => [.faultDetected]
    | _ => []
  relayCalls := s'.vcu.relayCalls

/-- The same step, with frames that agree. -/
inductive Act.Agrees : Act → Act → Prop where
  | receive {msg msg' : TwaiMessage} : msg.Agrees msg' → Act.Agrees (.receive msg) (.receive msg')
  | same (a : Act) : Act.Agrees a a

/-- The VCU task at the same point, with what it has peeked agreeing. -/
inductive VcuPc.Agrees : VcuPc → VcuPc → Prop where
  | peek : VcuPc.Agrees .peek .peek
  | nothing : VcuPc.Agrees (.setTelemetry none) (.setTelemetry none)
  | setTelemetry {x y : TelemetryData × Provenance} : x.1.verified = y.1.verified →
      VcuPc.Agrees (.setTelemetry (some x)) (.setTelemetry (some y))
  | run (source source' : Option Provenance) : VcuPc.Agrees (.run source) (.run source')

/-- Two systems that differ in unverified signals only. -/
structure Sys.Agrees (s t : Sys) : Prop where
  clock : s.clock = t.clock
  can : s.can.verified = t.can.verified
  canPc : s.canPc = t.canPc
  slot : Option.Rel (fun x y => x.1.verified = y.1.verified) s.slot t.slot
  vcu : s.vcu.verified = t.vcu.verified
  vcuPc : s.vcuPc.Agrees t.vcuPc

/-! ## One step of two runs -/

/-- A step of both runs, or of neither. -/
def BothAgree (a b : Act) (s t : Sys) : Option Sys → Option Sys → Prop :=
  Option.Rel fun s' t' => s'.Agrees t' ∧ observe s a s' = observe t b t'

theorem observe_eq {s t s' t' : Sys} {a b : Act} (hab : a.Agrees b) (h : s'.Agrees t') :
    observe s a s' = observe t b t' := by
  -- neither the state nor the calls are erased
  have hstate := congrArg VcuLogic.state h.vcu
  have hcalls := congrArg VcuLogic.relayCalls h.vcu
  have hstate' : s'.vcu.state = t'.vcu.state := hstate
  have hcalls' : s'.vcu.relayCalls = t'.vcu.relayCalls := hcalls
  unfold observe
  rw [hstate', hcalls']
  cases hab with
  | receive _ => rfl
  | same a => rfl

theorem BothAgree.some {s t s' t' : Sys} {a b : Act} (hab : a.Agrees b) (h : s'.Agrees t') :
    BothAgree a b s t (some s') (some t') :=
  Option.Rel.some ⟨h, observe_eq hab h⟩

theorem BothAgree.none {s t : Sys} {a b : Act} : BothAgree a b s t none none := Option.Rel.none

section Step

variable (rpmToSpeedKmhX10 : UInt16 → UInt16) {s t : Sys}

theorem receive_agrees (h : s.Agrees t) {msg msg' : TwaiMessage} (hmsg : msg.Agrees msg') :
    BothAgree (.receive msg) (.receive msg') s t (s.anyStep rpmToSpeedKmhX10 (.receive msg))
      (t.anyStep rpmToSpeedKmhX10 (.receive msg')) := by
  have htick : s.tickCount = t.tickCount := congrArg UInt32.ofNat h.clock
  have hframe : erased (s.can.handleFrame msg s.tickCount) =
      erased (t.can.handleFrame msg' t.tickCount) := by
    rw [handleFrame_verified msg, handleFrame_verified msg', h.can, hmsg.verified_eq, htick]
  obtain ⟨hcan, hevents⟩ := Prod.mk.inj hframe
  simp only [Sys.anyStep, Sys.step]
  rw [← h.canPc]
  cases s.canPc with
  | receive n =>
      by_cases hn : n < 5
      · simp only [if_pos hn]
        refine BothAgree.some (.receive hmsg) ?_
        exact { h with can := hcan, canPc := by simp only [hevents] }
      · simp only [if_neg hn]
        exact BothAgree.none
  | _ => exact BothAgree.none

theorem update_agrees (h : s.Agrees t) :
    BothAgree .update .update s t (s.anyStep rpmToSpeedKmhX10 .update)
      (t.anyStep rpmToSpeedKmhX10 .update) := by
  have htick : s.tickCount = t.tickCount := congrArg UInt32.ofNat h.clock
  simp only [Sys.anyStep, Sys.lateUpdate]
  rw [← h.canPc]
  cases s.canPc with
  | updateMotor =>
      refine BothAgree.some (.same _) { h with can := ?_, canPc := rfl }
      show (CanManager.updateMotorStatusValidity _ _).verified = _
      rw [updateMotorStatusValidity_verified, updateMotorStatusValidity_verified, h.can, htick]
  | updateBms =>
      refine BothAgree.some (.same _) { h with can := ?_, canPc := rfl }
      show (CanManager.updateBmsValidity _ _).verified = _
      rw [updateBmsValidity_verified, updateBmsValidity_verified, h.can, htick]
  | updateCharger =>
      refine BothAgree.some (.same _) { h with can := ?_, canPc := rfl }
      show (CanManager.updateChargerValidity _ _).verified = _
      rw [updateChargerValidity_verified, updateChargerValidity_verified, h.can, htick]
  | _ => exact BothAgree.none

theorem vcuTask_agrees (h : s.Agrees t) : s.vcuTask.Agrees t.vcuTask := by
  obtain ⟨hclock, hcan, hcanPc, hslot, hvcu, hvcuPc⟩ := h
  unfold Sys.vcuTask
  generalize s.vcuPc = pc at hvcuPc
  generalize t.vcuPc = pc' at hvcuPc
  cases hvcuPc with
  | peek =>
      refine ⟨hclock, hcan, hcanPc, hslot, hvcu, ?_⟩
      -- what is peeked agrees because the slot does
      show VcuPc.Agrees (.setTelemetry s.slot) (.setTelemetry t.slot)
      generalize s.slot = x at hslot
      generalize t.slot = y at hslot
      cases hslot with
      | none => exact .nothing
      | some hxy => exact .setTelemetry hxy
  | nothing => exact ⟨hclock, hcan, hcanPc, hslot, hvcu, .run _ _⟩
  | @setTelemetry x y hxy =>
      refine ⟨hclock, hcan, hcanPc, hslot, ?_, .run _ _⟩
      show (s.vcu.setTelemetryData x.1).verified = (t.vcu.setTelemetryData y.1).verified
      rw [setTelemetryData_verified, setTelemetryData_verified, hvcu, hxy]
  | run source source' =>
      refine ⟨hclock, hcan, hcanPc, hslot, ?_, .peek⟩
      show s.vcu.run.verified = t.vcu.run.verified
      rw [run_verified, run_verified, hvcu]

theorem post_agrees (h : s.Agrees t) (event : VcuEvent) :
    (s.vcu.postEvent event).verified = (t.vcu.postEvent event).verified := by
  rw [postEvent_verified, postEvent_verified, h.vcu]

/-- **One step.** Agreeing actions in agreeing systems are both impossible, or lead to agreeing
systems and look the same. -/
theorem anyStep_agrees (h : s.Agrees t) {a b : Act} (hab : a.Agrees b) :
    BothAgree a b s t (s.anyStep rpmToSpeedKmhX10 a) (t.anyStep rpmToSpeedKmhX10 b) := by
  cases hab with
  | receive hmsg => exact receive_agrees rpmToSpeedKmhX10 h hmsg
  | same a =>
      cases a with
      | receive msg => exact receive_agrees rpmToSpeedKmhX10 h (TwaiMessage.Agrees.refl msg)
      | update => exact update_agrees rpmToSpeedKmhX10 h
      | elapse ticks =>
          refine BothAgree.some (.same _) { h with clock := ?_ }
          exact congrArg (· + ticks) h.clock
      | post event => exact BothAgree.some (.same _) { h with vcu := post_agrees h event }
      | vcuTask => exact BothAgree.some (.same _) (vcuTask_agrees h)
      | enterCall =>
          -- both calls are at the same place, so both can take the step or neither
          simp only [Sys.anyStep, Sys.step]
          rw [← h.canPc]
          by_cases hpc : s.canPc = .outside
          · rw [if_pos hpc, if_pos hpc]
            exact BothAgree.some (.same _) { h with canPc := rfl }
          · rw [if_neg hpc, if_neg hpc]
            exact BothAgree.none
      | callback =>
          simp only [Sys.anyStep, Sys.step]
          rw [← h.canPc]
          cases s.canPc with
          | callback n =>
              exact BothAgree.some (.same _) { h with canPc := rfl, vcu := post_agrees h _ }
          | _ => exact BothAgree.none
      | endReceive =>
          simp only [Sys.anyStep, Sys.step]
          rw [← h.canPc]
          cases s.canPc with
          | receive n => exact BothAgree.some (.same _) { h with canPc := rfl }
          | _ => exact BothAgree.none
      | publish timestampMs =>
          simp only [Sys.anyStep, Sys.step]
          rw [← h.canPc]
          by_cases hpc : s.canPc = .publish
          · rw [if_pos hpc, if_pos hpc]
            refine BothAgree.some (.same _) { h with canPc := rfl, slot := .some ?_ }
            rw [publishedData_verified, h.can, ← publishedData_verified]
          · rw [if_neg hpc, if_neg hpc]
            exact BothAgree.none

end Step

/-! ## Whole runs -/

/-- **Unverified signals decide nothing.** Two runs from boot with the same interleaving, events and
ticks, whose frames agree in format, identifier, length and verified bytes, are both possible or
both not, and step by step show the same VCU states, the same FAULT_DETECTED posts and the same
relay calls. -/
theorem unverified_signals_decide_nothing (rpmToSpeedKmhX10 : UInt16 → UInt16) {acts acts' : List Act}
    (h : List.Forall₂ Act.Agrees acts acts') :
    trace (Sys.anyStep rpmToSpeedKmhX10) observe Sys.boot acts =
      trace (Sys.anyStep rpmToSpeedKmhX10) observe Sys.boot acts' := by
  have hboot : Sys.boot.Agrees Sys.boot := ⟨rfl, rfl, rfl, .none, rfl, .peek⟩
  refine trace_eq_of_lockstep (R := Sys.Agrees) (A := Act.Agrees) ?_ hboot h
  intro s t a b hst hab
  exact anyStep_agrees rpmToSpeedKmhX10 hst hab

/-- One pass of both tasks over a motor frame with some speed and no error. -/
def passWithSpeed (speed : UInt8) : List Act :=
  [.enterCall, .receive ⟨false, canIdMotorStatus, 8, #v[speed, 0, 0, 0, 0, 0, 0, 0]⟩, .endReceive,
    .update, .update, .update, .publish 0, .vcuTask, .vcuTask, .vcuTask]

/-- The same pass at standstill and at full speed, both possible. -/
theorem speed_decides_nothing :
    (trace (Sys.anyStep id) observe Sys.boot (passWithSpeed 0)).isSome = true ∧
      trace (Sys.anyStep id) observe Sys.boot (passWithSpeed 0) =
        trace (Sys.anyStep id) observe Sys.boot (passWithSpeed 255) := by
  refine ⟨by decide, unverified_signals_decide_nothing id ?_⟩
  refine .cons (.same _) (.cons (.receive ?_) (List.forall₂_same.mpr fun a _ => Act.Agrees.same a))
  exact ⟨rfl, rfl, rfl, fun h => Bool.noConfusion h, fun _ _ => rfl⟩

end TfnAks.System
