/-
# TfnAks.Vcu.VcuLogic — the vehicle control unit's state machine

`src/VcuLogic.h` and `src/VcuLogic.cpp`. The module-level statics of the source are one record
(`VcuLogic`), `run` is one 20 ms iteration of the VCU task, and `postEvent` and `setTelemetryData`
are what other code may do between two iterations. An emergency stop travels by a flag, every other
event through a queue of eight; `run` looks at the flag first, then at the telemetry, then at the
queue, and only then at the periodic handler of its state, and the first three may return early.
-/
import TfnAks.Lib.Runs
import TfnAks.Relay.RelayManager
import TfnAks.Telemetry.Data

namespace TfnAks.Vcu

open TfnAks.Lib.Runs TfnAks.Relay

/-- The states of the vehicle. -/
inductive VcuState where
  | init
  | idle
  | ready
  | drive
  | emergencyStop
  | fault
  deriving DecidableEq, Repr

/-- What is posted to the VCU. -/
inductive VcuEvent where
  | none
  | startRequest
  | driveEnable
  | emergencyStop
  | faultDetected
  | reset
  deriving DecidableEq, Repr

/-! ## Pure safety predicates -/

/-- Fresh pack voltage outside the warning limits. -/
def hasWarningCondition (d : TelemetryData) : Bool :=
  d.telBmsDataValid &&
    (d.telBmsPackVoltageDeciV.toNat ≤ bmsWarnMinPackVoltageDeciV ||
      bmsWarnMaxPackVoltageDeciV ≤ d.telBmsPackVoltageDeciV.toNat)

/-- What makes the VCU stop. A timeout does not count in `idle`, a pack voltage only when it is
fresh. -/
def hasCriticalCondition (d : TelemetryData) (currentState : VcuState) : Bool :=
  if d.telMotorErrorFlags != 0 || (d.telBmsDataValid && d.telBmsSystemState == 4) then true
  else if d.telMotorTimeoutActive && currentState != .idle then true
  else if d.telBmsTimeoutActive && currentState != .idle then true
  else if !d.telBmsDataValid then false
  else
    d.telBmsPackVoltageDeciV.toNat ≤ bmsCriticalMinPackVoltageDeciV ||
      bmsCriticalMaxPackVoltageDeciV ≤ d.telBmsPackVoltageDeciV.toNat

/-- Whether a RESET may leave the stop. -/
def isResetInterlockSatisfied (d : TelemetryData) (currentState : VcuState) : Bool :=
  if d.telMotorErrorFlags != 0 || (d.telBmsDataValid && d.telBmsSystemState == 4) then false
  else if hasCriticalCondition d currentState then false
  else true

/-! ## The module's statics -/

/-- `TASK_PERIOD_MS` -/
def taskPeriodMs : UInt32 := 20

/-- `xQueueCreate(8, sizeof(VcuEvent))` -/
def eventQueueLength : Nat := 8

/-- The statics of the file, with the relay driver it calls. -/
structure VcuLogic where
  state : VcuState
  /-- `none` is the null handle -/
  eventQueue : Option (List VcuEvent)
  stateTimer : UInt32
  telLatestData : TelemetryData
  vcuWarningLogged : Bool
  /-- `s_TEL_dataMutex != nullptr` -/
  telDataMutex : Bool
  eStopPending : Bool
  relaysOpenedInEstop : Bool
  relaysOpenedInFault : Bool
  lastEstopLogMs : UInt32
  lastFaultLogMs : UInt32
  /-- `RelayManager::instance()` -/
  relays : RelayManager
  /-- the calls made on it so far, the oldest first -/
  relayCalls : List RelayOp
  deriving DecidableEq

/-- The initial values of the statics. -/
def VcuLogic.powerOn (relays : RelayManager) : VcuLogic where
  state := .init
  eventQueue := none
  stateTimer := 0
  telLatestData := .zero
  vcuWarningLogged := false
  telDataMutex := false
  eStopPending := false
  relaysOpenedInEstop := false
  relaysOpenedInFault := false
  lastEstopLogMs := 0
  lastFaultLogMs := 0
  relays := relays
  relayCalls := []

/-- A call to the relay driver, kept in the record of calls. -/
def VcuLogic.callRelays (s : VcuLogic) (op : RelayOp) : VcuLogic :=
  { s with relays := (op.call s.relays).1, relayCalls := s.relayCalls ++ [op] }

/-! ## Helpers of `run` -/

/-- Enters a state: the timer starts, and a stop gets its flags cleared. -/
def VcuLogic.transitionTo (next : VcuState) (s : VcuLogic) : VcuLogic :=
  let s := { s with state := next, stateTimer := 0 }
  match next with
  -- -1000 makes the once-per-second log of the handler due at its first call
  | .emergencyStop => { s with relaysOpenedInEstop := false, lastEstopLogMs := -1000 }
  | .fault => { s with relaysOpenedInFault := false, lastFaultLogMs := -1000 }
  | _ => s

/-- The event that comes out of the queue, if any, and the statics after the receive. -/
def VcuLogic.pollEvent (s : VcuLogic) : Option VcuEvent × VcuLogic :=
  match s.eventQueue with
  | some (event :: rest) => (some event, { s with eventQueue := some rest })
  | _ => (none, s)

/-- The warning is logged once while it lasts. -/
def VcuLogic.updateWarning (s : VcuLogic) : VcuLogic :=
  if hasWarningCondition s.telLatestData then { s with vcuWarningLogged := true }
  else { s with vcuWarningLogged := false }

/-! ## State handlers -/

/-- Nothing to do: the relays are taken to be off. -/
def VcuLogic.handleIdle (s : VcuLogic) : VcuLogic := s

/-- Closes the relays in the first iterations after the entry. -/
def VcuLogic.handleReady (s : VcuLogic) : VcuLogic :=
  -- the timer is 0 in the iteration that enters `ready`
  if s.stateTimer ≤ taskPeriodMs then s.callRelays .allOn else s

/-- Nothing to do: the relays stay as `ready` has left them. -/
def VcuLogic.handleDrive (s : VcuLogic) : VcuLogic := s

/-- The relay call that `handleEmergencyStop` and `handleFault` make, from the timer and their own
`opened` flag and log time. -/
def openingCall (timer : UInt32) (opened : Bool) (lastLogMs : UInt32) : Option RelayOp :=
  if vcuContactorOpenDelayMs ≤ timer then
    if !opened then some (.allOff false)
    else if 1000 ≤ timer - lastLogMs then some (.allOff true)
    else none
  else none

/-- The once-per-second log of the two handlers: its new time. -/
def logTime (timer lastLogMs : UInt32) : UInt32 :=
  if 1000 ≤ timer - lastLogMs then timer else lastLogMs

/-- Opens the relays after the delay, and again with each log line. -/
def VcuLogic.handleEmergencyStop (s : VcuLogic) : VcuLogic :=
  let call := openingCall s.stateTimer s.relaysOpenedInEstop s.lastEstopLogMs
  let s := call.elim s s.callRelays
  { s with
    relaysOpenedInEstop := s.relaysOpenedInEstop || call.isSome
    lastEstopLogMs := logTime s.stateTimer s.lastEstopLogMs }

/-- The same with the statics of the fault. -/
def VcuLogic.handleFault (s : VcuLogic) : VcuLogic :=
  let call := openingCall s.stateTimer s.relaysOpenedInFault s.lastFaultLogMs
  let s := call.elim s s.callRelays
  { s with
    relaysOpenedInFault := s.relaysOpenedInFault || call.isSome
    lastFaultLogMs := logTime s.stateTimer s.lastFaultLogMs }

/-- The periodic state logic at the end of `run`. -/
def VcuLogic.periodic (s : VcuLogic) : VcuLogic :=
  match s.state with
  | .idle => s.handleIdle
  | .ready => s.handleReady
  | .drive => s.handleDrive
  | .emergencyStop => s.handleEmergencyStop
  | .fault => s.handleFault
  | .init => s

/-! ## The iteration -/

/-- The states in which `run` looks at the critical condition before anything else. -/
def VcuState.isMonitored : VcuState → Bool
  | .idle | .ready | .drive => true
  | _ => false

/-- The state-specific event handling, the `switch (currentState)` of `run`. -/
def VcuLogic.handleStateEvent (event : VcuEvent) (s : VcuLogic) : VcuLogic :=
  match s.state with
  | .idle => if event = .startRequest then s.transitionTo .ready else s
  | .ready => if event = .driveEnable then s.transitionTo .drive else s
  | _ => s

/-- The rest of `run` once an event has been polled. -/
def VcuLogic.handleEvent (event : VcuEvent) (s : VcuLogic) : VcuLogic :=
  if event = .emergencyStop then s.transitionTo .emergencyStop
  else if event = .faultDetected then s.transitionTo .fault
  else if event = .reset ∧ (s.state = .fault ∨ s.state = .emergencyStop) then
    -- refused or not, the handler of the state does not run in this iteration
    if !isResetInterlockSatisfied s.telLatestData s.state then s
    else s.transitionTo .idle
  else (s.handleStateEvent event).periodic

/-- One iteration. A pending stop comes first, then a critical snapshot, then one event of the
queue; the handler of the state is reached only when none of these has ended the iteration. -/
def VcuLogic.run (s : VcuLogic) : VcuLogic :=
  let pending := s.eStopPending
  -- the exchange clears the flag also when the stop is already in force
  let s := { s with stateTimer := s.stateTimer + taskPeriodMs, eStopPending := false }
  if pending && s.state != .emergencyStop then s.transitionTo .emergencyStop
  else if s.state.isMonitored && hasCriticalCondition s.telLatestData s.state then
    s.transitionTo .fault
  else
    match s.updateWarning.pollEvent with
    | (some event, s) => s.handleEvent event
    | (none, s) => s.periodic

/-! ## The interface -/

/-- Creates the queue and the mutex, opens the relays and enters `idle`. -/
def VcuLogic.init (queueCreated mutexCreated : Bool) (s : VcuLogic) : VcuLogic :=
  if !queueCreated then { s with eventQueue := none }
  else if !mutexCreated then { s with eventQueue := some [], telDataMutex := false }
  else
    let s := { s with eventQueue := some [], telDataMutex := true }
    (s.callRelays (.allOff false)).transitionTo .idle

/-- Any task may post; a full queue drops the event. -/
def VcuLogic.postEvent (event : VcuEvent) (s : VcuLogic) : VcuLogic :=
  match s.eventQueue with
  | none => s
  | some queue =>
    -- the stop does not use the queue, so a full queue cannot lose it
    if event = .emergencyStop then { s with eStopPending := true }
    else if queue.length < eventQueueLength then { s with eventQueue := some (queue ++ [event]) }
    else s

/-- The snapshot the VCU decides on; without its mutex it is not taken. -/
def VcuLogic.setTelemetryData (d : TelemetryData) (s : VcuLogic) : VcuLogic :=
  if s.telDataMutex then { s with telLatestData := d } else s

/-- The VCU after a successful `init()`, `RelayManager::begin()` having been successful before. -/
def VcuLogic.booted : VcuLogic :=
  (VcuLogic.powerOn (RelayManager.powerOn.begin true true).2.1).init true true

/-- What the tasks do to the VCU. -/
inductive VcuAction where
  | postEvent (event : VcuEvent)
  | setTelemetryData (d : TelemetryData)
  | run
  deriving DecidableEq

/-- One of these actions. -/
def VcuLogic.step (s : VcuLogic) : VcuAction → VcuLogic
  | .postEvent event => s.postEvent event
  | .setTelemetryData d => s.setTelemetryData d
  | .run => s.run

/-- A state that some history after boot leads to. -/
def VcuLogic.Reachable (s : VcuLogic) : Prop :=
  ∃ history, s = exec VcuLogic.step VcuLogic.booted history

theorem VcuLogic.Reachable.invariant {I : VcuLogic → Prop} (hboot : I .booted)
    (hstep : ∀ s a, I s → I (s.step a)) {s : VcuLogic} (h : s.Reachable) : I s := by
  obtain ⟨history, rfl⟩ := h
  exact exec_invariant hstep hboot history

end TfnAks.Vcu
