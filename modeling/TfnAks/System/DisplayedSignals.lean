/-
# TfnAks.System.DisplayedSignals — unverified signals do not reach the display

Of a motor frame the display shows the speed and the error flags, of a BMS frame the pack voltage:
the bytes 0, 1 and 4 of `0x200` and 2 and 3 of `0xE000`. The torque, the current, the state of
charge, the temperatures and the charger are on the bus too and end in the same telemetry record,
and the flags `HMI_*_SOURCE_VERIFIED` keep them off the screen.

Two runs whose frames differ in those other bytes only write the same commands to the display, step
by step, and post the same events. The part about the VCU is `anyStep_agrees`; what is added here is
the motor speed, which no decision reads but the display shows (`SpeedAgrees`).
-/
import TfnAks.Can.CanTask
import TfnAks.System.Cockpit

namespace TfnAks.System

open TfnAks.Lib.Runs TfnAks.Bms TfnAks.Can TfnAks.Hmi TfnAks.Relay TfnAks.Vcu

/-! ## Records -/

/-- Two records that look the same on the display. -/
structure LooksSame (d d' : TelemetryData) : Prop where
  verified : d.verified = d'.verified
  rpm : d.telMotorRpm = d'.telMotorRpm
  speed : d.telSpeedKmhX10 = d'.telSpeedKmhX10

/-- The fields that are verified. -/
theorem LooksSame.fields {d d' : TelemetryData} (h : LooksSame d d') :
    d.telMotorErrorFlags = d'.telMotorErrorFlags ∧ d.telMotorDataValid = d'.telMotorDataValid ∧
      d.telMotorTimeoutActive = d'.telMotorTimeoutActive ∧
      d.telBmsPackVoltageDeciV = d'.telBmsPackVoltageDeciV ∧
      d.telBmsDataValid = d'.telBmsDataValid := by
  have hfields := h.verified
  simp only [TelemetryData.verified, TelemetryData.mk.injEq] at hfields
  obtain ⟨-, -, herr, hvalid, htimeout, -, -, -, -, -, hpack, -, -, hbms, -⟩ := hfields
  exact ⟨herr, hvalid, htimeout, hpack, hbms⟩

/-- Two answers of the queue. -/
abbrev QueueAgrees : Option TelemetryData → Option TelemetryData → Prop := Option.Rel LooksSame

theorem screenData_congr {q q' : Option TelemetryData} (h : QueueAgrees q q') (state : VcuState)
    (closed : Bool) :
    screenData sourceVerified q state closed = screenData sourceVerified q' state closed := by
  cases h with
  | none => rfl
  | @some d d' hd =>
      obtain ⟨herr, hvalid, htimeout, hpack, -⟩ := hd.fields
      -- the other three are "no data" whatever the record holds
      show { screenData sourceVerified none state closed with
          currentSpeed := d.telSpeedKmhX10 / 10
          motorRpm := d.telMotorRpm
          motorErrorFlags := d.telMotorErrorFlags
          motorDataValid := d.telMotorDataValid
          motorTimeoutActive := d.telMotorTimeoutActive
          bmsPackVoltageDeciV := d.telBmsPackVoltageDeciV } = _
      rw [herr, hvalid, htimeout, hpack, hd.rpm, hd.speed]
      rfl

theorem bmsPageData_congr {q q' : Option TelemetryData} (h : QueueAgrees q q') :
    bmsPageData sourceVerified.cellVoltage q = bmsPageData sourceVerified.cellVoltage q' := by
  have hcold : ∀ queue : Option TelemetryData, bmsPageData false queue =
      (⟨fun _ => cellVoltageNoData⟩,
        { cellMaxMv := cellVoltageNoData
          cellMinMv := cellVoltageNoData
          balanceFlag _ := false
          warningLevel := if queue.isSome && (queue.getD .zero).telBmsDataValid then bmsWarnOk
            else bmsWarnCritical }) := by
    intro queue
    show (if (_ && false) = true then _ else _) = _
    rw [Bool.and_false]
    rfl
  show bmsPageData false q = bmsPageData false q'
  rw [hcold q, hcold q']
  cases h with
  | none => rfl
  | @some d d' hd =>
      obtain ⟨-, -, -, -, hvalid⟩ := hd.fields
      show (_, ({ warningLevel := if (true && d.telBmsDataValid) = true then _ else _, .. } :
        BmsComputed)) = _
      rw [hvalid]
      rfl

/-! ## The motor speed -/

/-- Two frames that agree in their verified bytes, and in the speed of the motor. -/
structure FrameAgrees (msg msg' : TwaiMessage) : Prop extends msg.Agrees msg' where
  speed : msg.extd = false → msg.identifier = canIdMotorStatus →
    msg.data.get 0 = msg'.data.get 0 ∧ msg.data.get 1 = msg'.data.get 1

theorem FrameAgrees.refl (msg : TwaiMessage) : FrameAgrees msg msg :=
  ⟨TwaiMessage.Agrees.refl msg, fun _ _ => ⟨rfl, rfl⟩⟩

theorem FrameAgrees.isMotorStatus {msg msg' : TwaiMessage} (h : FrameAgrees msg msg') :
    msg.isMotorStatus = msg'.isMotorStatus := by
  rw [TwaiMessage.isMotorStatus, TwaiMessage.isMotorStatus, h.extd, h.identifier, h.dataLengthCode]

/-- The accepted motor frames of the two runs carry the same speed. -/
theorem FrameAgrees.motorRpm {msg msg' : TwaiMessage} (h : FrameAgrees msg msg')
    (hmotor : msg.isMotorStatus = true) : msg.motorRpm = msg'.motorRpm := by
  simp only [TwaiMessage.isMotorStatus, Bool.and_eq_true, Bool.not_eq_true', beq_iff_eq] at hmotor
  obtain ⟨hlow, hhigh⟩ := h.speed hmotor.1.1 hmotor.1.2
  rw [TwaiMessage.motorRpm, TwaiMessage.motorRpm, hlow, hhigh]

theorem handleFrame_rpm_congr {msg msg' : TwaiMessage} (hmsg : FrameAgrees msg msg')
    {m m' : CanManager} (h : m.telemetryData.telMotorRpm = m'.telemetryData.telMotorRpm)
    (now now' : TickType) :
    (m.handleFrame msg now).1.telemetryData.telMotorRpm =
      (m'.handleFrame msg' now').1.telemetryData.telMotorRpm := by
  rw [handleFrame_rpm, handleFrame_rpm, ← hmsg.isMotorStatus, h]
  by_cases hmotor : msg.isMotorStatus = true
  · rw [if_pos hmotor, if_pos hmotor, hmsg.motorRpm hmotor]
  · rw [if_neg hmotor, if_neg hmotor]

/-- The motor speed after a step of the other tasks. -/
def Sys.rpmAfter (s : Sys) : Act → UInt16
  | .receive msg => (s.can.handleFrame msg s.tickCount).1.telemetryData.telMotorRpm
  | _ => s.can.telemetryData.telMotorRpm

/-- What the queue holds after a step of the other tasks. -/
def Sys.peekAfter (rpmToSpeedKmhX10 : UInt16 → UInt16) (s : Sys) : Act → Option TelemetryData
  | .publish timestampMs => some (s.can.publishedData rpmToSpeedKmhX10 timestampMs)
  | _ => s.slot.map Prod.fst

theorem anyStep_speed {rpmToSpeedKmhX10 : UInt16 → UInt16} {s s' : Sys} {a : Act}
    (h : s.anyStep rpmToSpeedKmhX10 a = some s') :
    s'.can.telemetryData.telMotorRpm = s.rpmAfter a ∧
      s'.slot.map Prod.fst = s.peekAfter rpmToSpeedKmhX10 a := by
  cases a with
  | elapse ticks | post event =>
      obtain rfl := Option.some.inj h
      exact ⟨rfl, rfl⟩
  | enterCall =>
      obtain rfl := Option.some.inj (Option.ite_none_right_eq_some.mp h).2
      exact ⟨rfl, rfl⟩
  | receive msg =>
      simp only [Sys.anyStep, Sys.step] at h
      split at h
      · obtain rfl := Option.some.inj (Option.ite_none_right_eq_some.mp h).2
        exact ⟨rfl, rfl⟩
      · exact absurd h.symm (Option.some_ne_none _)
  | callback | endReceive =>
      simp only [Sys.anyStep, Sys.step] at h
      split at h
      · obtain rfl := Option.some.inj h
        exact ⟨rfl, rfl⟩
      · exact absurd h.symm (Option.some_ne_none _)
  | update =>
      simp only [Sys.anyStep, Sys.lateUpdate] at h
      split at h
      · obtain rfl := Option.some.inj h
        refine ⟨?_, rfl⟩
        show (CanManager.updateMotorStatusValidity _ _).telemetryData.telMotorRpm =
          s.can.telemetryData.telMotorRpm
        rw [updateMotorStatusValidity_eq]
      · obtain rfl := Option.some.inj h
        refine ⟨?_, rfl⟩
        show (CanManager.updateBmsValidity _ _).telemetryData.telMotorRpm =
          s.can.telemetryData.telMotorRpm
        rw [updateBmsValidity_eq]
      · obtain rfl := Option.some.inj h
        refine ⟨?_, rfl⟩
        show (CanManager.updateChargerValidity _ _).telemetryData.telMotorRpm =
          s.can.telemetryData.telMotorRpm
        rw [updateChargerValidity_eq]
      · exact absurd h.symm (Option.some_ne_none _)
  | publish timestampMs =>
      obtain rfl := Option.some.inj (Option.ite_none_right_eq_some.mp h).2
      exact ⟨rfl, rfl⟩
  | vcuTask =>
      obtain rfl := Option.some.inj h
      unfold Sys.vcuTask
      split <;> exact ⟨rfl, rfl⟩

/-! ## Two cockpits -/

/-- The display task at the same point, with what it has read looking the same. -/
inductive HmiPc.Agrees : HmiPc → HmiPc → Prop where
  | start : HmiPc.Agrees .start .start
  | getState (force : Bool) {q q' : Option TelemetryData} : QueueAgrees q q' →
      HmiPc.Agrees (.getState force q) (.getState force q')
  | getRelay (force : Bool) {q q' : Option TelemetryData} (state : VcuState) (channel : UInt8) :
      QueueAgrees q q' →
      HmiPc.Agrees (.getRelay force q state channel) (.getRelay force q' state channel)
  | paint (force : Bool) (data : HmiDisplayData) : HmiPc.Agrees (.paint force data) (.paint force data)
  | touch : HmiPc.Agrees .touch .touch

/-- The two runs differ in unverified signals at most. -/
structure Cockpit.Agrees (c d : Cockpit) : Prop where
  sys : c.sys.Agrees d.sys
  rpm : c.sys.can.telemetryData.telMotorRpm = d.sys.can.telemetryData.telMotorRpm
  peek : QueueAgrees c.peek d.peek
  hmi : c.hmi = d.hmi
  hmiPc : c.hmiPc.Agrees d.hmiPc

/-- The same step, with frames that agree. -/
inductive CockpitAct.Agrees : CockpitAct → CockpitAct → Prop where
  | receive {msg msg' : TwaiMessage} : FrameAgrees msg msg' →
      CockpitAct.Agrees (.task (.receive msg)) (.task (.receive msg'))
  | same (a : CockpitAct) : CockpitAct.Agrees a a

/-- What is seen of a step: what it writes to the display, the touch event it posts, and what was
seen of the other two tasks. -/
structure CockpitObservation where
  output : HmiOutput
  sys : Observation

/-- What a step writes to the display, and what the VCU shows of it. -/
def observeCockpit (c : Cockpit) (a : CockpitAct) (c' : Cockpit) : CockpitObservation :=
  match a with
  | .task a => ⟨⟨[], [], none⟩, observe c.sys a c'.sys⟩
  | .hmi nowMs received =>
    ⟨(c.hmiPiece nowMs received).2, ⟨c'.sys.vcu.state, [], c'.sys.vcu.relayCalls⟩⟩

/-- A step of both cockpits that looks the same, or of neither. -/
def BothLookSame (a b : CockpitAct) (c d : Cockpit) : Option Cockpit → Option Cockpit → Prop :=
  Option.Rel fun c' d' => c'.Agrees d' ∧ observeCockpit c a c' = observeCockpit d b d'

theorem queueAgrees_map {x y : Option (TelemetryData × Provenance)}
    (h : Option.Rel (fun x y => x.1.verified = y.1.verified) x y)
    (hrpm : (x.map Prod.fst).map TelemetryData.telMotorRpm =
      (y.map Prod.fst).map TelemetryData.telMotorRpm)
    (hspeed : (x.map Prod.fst).map TelemetryData.telSpeedKmhX10 =
      (y.map Prod.fst).map TelemetryData.telSpeedKmhX10) :
    QueueAgrees (x.map Prod.fst) (y.map Prod.fst) := by
  cases h with
  | none => exact .none
  | some hxy => exact .some ⟨hxy, Option.some.inj hrpm, Option.some.inj hspeed⟩

theorem QueueAgrees.map_eq {q q' : Option TelemetryData} (h : QueueAgrees q q') :
    q.map TelemetryData.telMotorRpm = q'.map TelemetryData.telMotorRpm ∧
      q.map TelemetryData.telSpeedKmhX10 = q'.map TelemetryData.telSpeedKmhX10 := by
  cases h with
  | none => exact ⟨rfl, rfl⟩
  | some hd => exact ⟨congrArg some hd.rpm, congrArg some hd.speed⟩

/-- A step of the CAN task, the VCU task or time. -/
theorem task_agrees (rpmToSpeedKmhX10 : UInt16 → UInt16) {c d : Cockpit} (h : c.Agrees d) {a b : Act}
    (hab : a.Agrees b)
    (hrpm : ∀ msg msg', a = .receive msg → b = .receive msg' →
      (c.sys.can.handleFrame msg c.sys.tickCount).1.telemetryData.telMotorRpm =
        (d.sys.can.handleFrame msg' d.sys.tickCount).1.telemetryData.telMotorRpm) :
    BothLookSame (.task a) (.task b) c d
      ((c.sys.anyStep rpmToSpeedKmhX10 a).map fun sys => { c with sys := sys })
      ((d.sys.anyStep rpmToSpeedKmhX10 b).map fun sys => { d with sys := sys }) := by
  have hstep := anyStep_agrees rpmToSpeedKmhX10 h.sys hab
  have hcspeed := fun s' => @anyStep_speed rpmToSpeedKmhX10 c.sys s' a
  have hdspeed := fun t' => @anyStep_speed rpmToSpeedKmhX10 d.sys t' b
  -- the speed is erased in `hstep`, so what the step does to it is carried beside it
  generalize c.sys.anyStep rpmToSpeedKmhX10 a = x at hstep hcspeed
  generalize d.sys.anyStep rpmToSpeedKmhX10 b = y at hstep hdspeed
  cases hstep with
  | none => exact Option.Rel.none
  | @some s' t' hst =>
      obtain ⟨hsys, hobs⟩ := hst
      obtain ⟨hcrpm, hcslot⟩ := hcspeed s' rfl
      obtain ⟨hdrpm, hdslot⟩ := hdspeed t' rfl
      have hsame : s'.can.telemetryData.telMotorRpm = t'.can.telemetryData.telMotorRpm := by
        rw [hcrpm, hdrpm]
        cases hab with
        | receive hmsg => exact hrpm _ _ rfl rfl
        | same a =>
            cases a with
            | receive msg => exact hrpm msg msg rfl rfl
            | _ => exact h.rpm
      have hfields : (s'.slot.map Prod.fst).map TelemetryData.telMotorRpm =
            (t'.slot.map Prod.fst).map TelemetryData.telMotorRpm ∧
          (s'.slot.map Prod.fst).map TelemetryData.telSpeedKmhX10 =
            (t'.slot.map Prod.fst).map TelemetryData.telSpeedKmhX10 := by
        rw [hcslot, hdslot]
        cases hab with
        | receive hmsg => exact h.peek.map_eq
        | same a =>
            cases a with
            | publish timestampMs =>
                exact ⟨congrArg some h.rpm, congrArg (fun rpm => some (rpmToSpeedKmhX10 rpm)) h.rpm⟩
            | _ => exact h.peek.map_eq
      refine Option.Rel.some ⟨⟨hsys, hsame, ?_, h.hmi, h.hmiPc⟩, ?_⟩
      · exact queueAgrees_map hsys.slot hfields.1 hfields.2
      · exact congrArg (CockpitObservation.mk ⟨[], [], none⟩) hobs

/-- What the display task reads of the VCU is not erased. -/
theorem Sys.Agrees.reads {s t : Sys} (h : s.Agrees t) :
    s.vcu.state = t.vcu.state ∧ s.vcu.relays = t.vcu.relays := by
  have hstate := congrArg VcuLogic.state h.vcu
  have hrelays := congrArg VcuLogic.relays h.vcu
  exact ⟨hstate, hrelays⟩

/-- **A piece of the display task** leaves agreeing cockpits agreeing, and writes the same. -/
theorem hmiPiece_agrees {c d : Cockpit} (h : c.Agrees d) (nowMs : UInt32) (received : List UInt8) :
    (c.hmiPiece nowMs received).1.Agrees (d.hmiPiece nowMs received).1 ∧
      (c.hmiPiece nowMs received).2 = (d.hmiPiece nowMs received).2 := by
  obtain ⟨hsys, hrpm, hpeek, hhmi, hpc⟩ := h
  obtain ⟨hstate, hrelays⟩ := hsys.reads
  obtain ⟨sys, hmi, pc, bytes⟩ := c
  obtain ⟨sys', hmi', pc', bytes'⟩ := d
  obtain rfl : hmi = hmi' := hhmi
  -- the two are at the same piece; what they have peeked agrees in the verified signals
  cases hpc with
  | start =>
      refine ⟨⟨hsys, hrpm, hpeek, rfl, .getState _ ?_⟩, rfl⟩
      show QueueAgrees (if hmi.takeNextionResetFlag.1.sensorDataQueue then _ else none)
        (if hmi.takeNextionResetFlag.1.sensorDataQueue then _ else none)
      split
      · exact hpeek
      · exact .none
  | getState force hq =>
      refine ⟨⟨hsys, hrpm, hpeek, rfl, ?_⟩, rfl⟩
      show HmiPc.Agrees (.getRelay force _ sys.vcu.state 0) (.getRelay force _ sys'.vcu.state 0)
      rw [show sys.vcu.state = sys'.vcu.state from hstate]
      exact .getRelay force _ 0 hq
  | @getRelay force q q' state channel hq =>
      have hrelay : sys.vcu.relays.getRelayState channel = sys'.vcu.relays.getRelayState channel :=
        congrArg (fun m => RelayManager.getRelayState m channel) hrelays
      have hdata := fun closed => screenData_congr hq state closed
      simp only [Cockpit.hmiPiece, hrelay, hdata]
      split
      · exact ⟨⟨hsys, hrpm, hpeek, rfl, .paint _ _⟩, rfl⟩
      · split
        · exact ⟨⟨hsys, hrpm, hpeek, rfl, .getRelay _ _ _ hq⟩, rfl⟩
        · exact ⟨⟨hsys, hrpm, hpeek, rfl, .paint _ _⟩, rfl⟩
  | paint force data =>
      -- the BMS page takes nothing from a snapshot but verified signals
      have hpage : hmi.paint sourceVerified force data (Cockpit.peek ⟨sys, hmi, .paint force data, bytes⟩)
          nowMs =
          hmi.paint sourceVerified force data (Cockpit.peek ⟨sys', hmi, .paint force data, bytes'⟩)
            nowMs := by
        unfold HmiTask.paint HmiTask.sendBmsPage HmiTask.bmsCall
        rw [bmsPageData_congr hpeek]
      simp only [Cockpit.hmiPiece, hpage]
      exact ⟨⟨hsys, hrpm, hpeek, rfl, .touch⟩, trivial⟩
  | touch =>
      refine ⟨⟨{ hsys with vcu := ?_ }, hrpm, hpeek, rfl, .start⟩, rfl⟩
      show ((hmi.touch received).2.elim sys.vcu sys.vcu.postEvent).verified =
        ((hmi.touch received).2.elim sys'.vcu sys'.vcu.postEvent).verified
      cases (hmi.touch received).2 with
      | none => exact hsys.vcu
      | some event => exact post_agrees hsys event

/-- **One step** of two cockpits. -/
theorem cockpitStep_agrees (rpmToSpeedKmhX10 : UInt16 → UInt16) {c d : Cockpit} (h : c.Agrees d)
    {a b : CockpitAct} (hab : a.Agrees b) :
    BothLookSame a b c d (c.step rpmToSpeedKmhX10 a) (d.step rpmToSpeedKmhX10 b) := by
  have hrpm : ∀ {msg msg' : TwaiMessage}, FrameAgrees msg msg' →
      (c.sys.can.handleFrame msg c.sys.tickCount).1.telemetryData.telMotorRpm =
        (d.sys.can.handleFrame msg' d.sys.tickCount).1.telemetryData.telMotorRpm := by
    intro msg msg' hmsg
    exact handleFrame_rpm_congr hmsg h.rpm _ _
  cases hab with
  | receive hmsg =>
      refine task_agrees rpmToSpeedKmhX10 h (.receive hmsg.toAgrees) ?_
      rintro msg msg' ⟨⟩ ⟨⟩
      exact hrpm hmsg
  | same a =>
      cases a with
      | hmi nowMs received =>
          -- what is observed are the bytes sent, the state and the relay calls
          obtain ⟨hagrees, houtput⟩ := hmiPiece_agrees h nowMs received
          obtain ⟨hstate, -⟩ := hagrees.sys.reads
          have hcalls := congrArg VcuLogic.relayCalls hagrees.sys.vcu
          refine Option.Rel.some ⟨hagrees, ?_⟩
          have hcalls' : (c.hmiPiece nowMs received).1.sys.vcu.relayCalls =
            (d.hmiPiece nowMs received).1.sys.vcu.relayCalls := hcalls
          simp only [observeCockpit, houtput, hstate, hcalls']
      | task a =>
          cases a with
          | post event => exact Option.Rel.none
          | receive msg =>
              refine task_agrees rpmToSpeedKmhX10 h (.same _) ?_
              rintro msg msg' ⟨⟩ ⟨⟩
              exact hrpm (FrameAgrees.refl msg)
          | _ => exact task_agrees rpmToSpeedKmhX10 h (.same _) nofun

/-- **Unverified signals do not reach the display.** Two runs of the three tasks from boot with the
same interleaving, touches and ticks, whose frames agree in format, identifier, length and the bytes
the display shows, are both possible or both not, and step by step they write the same commands to
the display, post the same events, and show the same VCU states and relay calls. -/
theorem unverified_signals_stay_off_the_display (rpmToSpeedKmhX10 : UInt16 → UInt16)
    {acts acts' : List CockpitAct} (h : List.Forall₂ CockpitAct.Agrees acts acts') :
    trace (Cockpit.step rpmToSpeedKmhX10) observeCockpit .boot acts =
      trace (Cockpit.step rpmToSpeedKmhX10) observeCockpit .boot acts' := by
  have hsys : Sys.boot.Agrees Sys.boot := ⟨rfl, rfl, rfl, .none, rfl, .peek⟩
  have hboot : Cockpit.boot.Agrees Cockpit.boot := ⟨hsys, rfl, .none, rfl, .start⟩
  refine trace_eq_of_lockstep (R := Cockpit.Agrees) (A := CockpitAct.Agrees) ?_ hboot h
  intro c d a b hcd hab
  exact cockpitStep_agrees rpmToSpeedKmhX10 hcd hab

/-- A BMS frame of 70.0 V with some state of charge is published, and the display paints a pass. -/
def passWithCharge (charge : UInt8) : List CockpitAct :=
  [.task .enterCall,
    .task (.receive ⟨true, canIdLbBmsE000, 8, #v[0, 0, 0x02, 0xBC, charge, charge, 0, 0]⟩),
    .task .endReceive, .task .update, .task .update, .task .update, .task (.publish 0),
    .hmi 0 [], .hmi 0 [], .hmi 0 [], .hmi 0 [], .hmi 0 []]

/-- An empty battery and a full one look the same. -/
theorem charge_stays_off_the_display :
    trace (Cockpit.step id) observeCockpit .boot (passWithCharge 0) =
      trace (Cockpit.step id) observeCockpit .boot (passWithCharge 100) := by
  refine unverified_signals_stay_off_the_display id ?_
  refine .cons (.same _) (.cons (.receive ?_)
    (List.forall₂_same.mpr fun a _ => CockpitAct.Agrees.same a))
  refine ⟨⟨rfl, rfl, rfl, fun _ _ => ⟨rfl, rfl⟩, fun h => ?_⟩, fun h => ?_⟩
  · exact Bool.noConfusion h
  · exact Bool.noConfusion h

end TfnAks.System
