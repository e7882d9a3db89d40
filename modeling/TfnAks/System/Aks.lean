/-
# TfnAks.System.Aks — the CAN task and the VCU task side by side

The two tasks of `src/main.cpp` that decide about the contactors, on two cores. The CAN task handles
up to five frames, updates the validity of the streams and overwrites the one-slot telemetry queue;
the VCU task peeks the queue, hands the snapshot to the VCU and runs it; and anyone may post events
at any time. A step is one piece of one task: what lies between two accesses to something shared.

The model adds what the code does not know. Time is a natural number, of which the code sees the
tick counter; the frames are kept as they came; and a published snapshot carries its `Provenance`.
-/
import TfnAks.Can.Streams
import TfnAks.Vcu.Freshness

namespace TfnAks.System

open TfnAks.Lib.Runs TfnAks.Can TfnAks.Vcu

/-- Where a snapshot comes from: the frames handled before it was published, and when the two
streams were last updated. -/
structure Provenance where
  frames : List RxFrame
  motorUpdate : Nat
  bmsUpdate : Nat

/-- Where the CAN task is: between two calls of `processRxMessages`, in the receive loop with `n`
frames handled, in the callback for the `n`-th frame, or at what follows the loop. -/
inductive CanPc where
  | outside
  | receive (n : Nat)
  | callback (n : Nat)
  | updateMotor
  | updateBms
  | updateCharger
  | publish
  deriving DecidableEq

/-- Where the VCU task is, with what it has peeked. -/
inductive VcuPc where
  | peek
  | setTelemetry (peeked : Option (TelemetryData × Provenance))
  | run (source : Option Provenance)

/-- The CAN and VCU tasks, what they share, and the time. What the code does not have is written
beside it: the real clock, the frames as they came, and the provenance of a snapshot. -/
structure Sys where
  clock : Nat
  can : CanManager
  canPc : CanPc
  /-- `processRxMessages` has been called before -/
  called : Bool
  frames : List RxFrame
  motorUpdate : Nat
  bmsUpdate : Nat
  /-- `TEL_sensorDataQueue` -/
  slot : Option (TelemetryData × Provenance)
  vcu : VcuLogic
  vcuPc : VcuPc

/-- After `app_main`, before either task has run. -/
def Sys.boot : Sys where
  clock := 0
  can := .begun
  canPc := .outside
  called := false
  frames := []
  motorUpdate := 0
  bmsUpdate := 0
  slot := none
  vcu := .booted
  vcuPc := .peek

/-- `xTaskGetTickCount()` -/
def Sys.tickCount (s : Sys) : TickType := UInt32.ofNat s.clock

/-- A piece of a task, an event posted from elsewhere, or time that passes. -/
inductive Act where
  | elapse (ticks : Nat)
  | post (event : VcuEvent)
  | enterCall
  | receive (msg : TwaiMessage)
  | callback
  | endReceive
  | update
  | publish (timestampMs : UInt32)
  | vcuTask

/-- The updates of a stream come less than `2^32` ticks, minus its timeout, after the one before
(the first one after the entry of the first call). -/
def updateInTime (clock lastUpdate timeoutMs : Nat) : Bool :=
  clock - lastUpdate < 2 ^ 32 - msInTicks timeoutMs

section Step

variable (rpmToSpeedKmhX10 : UInt16 → UInt16)

/-- The three updates after the receive loop. -/
def Sys.update (s : Sys) : Option Sys :=
  match s.canPc with
  | .updateMotor =>
    if updateInTime s.clock s.motorUpdate canMotorStatusTimeoutMs then
      some
        { s with
          can := s.can.updateMotorStatusValidity s.tickCount
          motorUpdate := s.clock
          canPc := .updateBms }
    else none
  | .updateBms =>
    if updateInTime s.clock s.bmsUpdate canBmsStatusTimeoutMs then
      some
        { s with
          can := s.can.updateBmsValidity s.tickCount
          bmsUpdate := s.clock
          canPc := .updateCharger }
    else none
  | .updateCharger =>
    some { s with can := s.can.updateChargerValidity s.tickCount, canPc := .publish }
  | _ => none

/-- One piece of `vTask_VCU_Logic`. -/
def Sys.vcuTask (s : Sys) : Sys :=
  match s.vcuPc with
  | .peek => { s with vcuPc := .setTelemetry s.slot }
  | .setTelemetry none => { s with vcuPc := .run none }
  | .setTelemetry (some (d, source)) =>
    { s with vcu := s.vcu.setTelemetryData d, vcuPc := .run (some source) }
  | .run _ => { s with vcu := s.vcu.run, vcuPc := .peek }

/-- One of these, when its task is at that point. -/
def Sys.step (s : Sys) : Act → Option Sys
  | .elapse ticks => some { s with clock := s.clock + ticks }
  | .post event => some { s with vcu := s.vcu.postEvent event }
  | .enterCall =>
    if s.canPc = .outside then
      some
        { s with
          canPc := .receive 0
          called := true
          motorUpdate := if s.called then s.motorUpdate else s.clock
          bmsUpdate := if s.called then s.bmsUpdate else s.clock }
    else none
  | .receive msg =>
    match s.canPc with
    | .receive n =>
      if n < 5 then
        let (can, events) := s.can.handleFrame msg s.tickCount
        some
          { s with
            can := can
            frames := s.frames ++ [⟨msg, s.clock⟩]
            canPc := if events = [] then .receive (n + 1) else .callback (n + 1) }
      else none
    | _ => none
  | .callback =>
    match s.canPc with
    | .callback n => some { s with vcu := s.vcu.postEvent .faultDetected, canPc := .receive n }
    | _ => none
  | .endReceive =>
    match s.canPc with
    | .receive _ => some { s with canPc := .updateMotor }
    | _ => none
  | .update => s.update
  | .publish timestampMs =>
    if s.canPc = .publish then
      some
        { s with
          slot := some (s.can.publishedData rpmToSpeedKmhX10 timestampMs,
            ⟨s.frames, s.motorUpdate, s.bmsUpdate⟩)
          canPc := .outside }
    else none
  | .vcuTask => some s.vcuTask

end Step

end TfnAks.System
