/-
# TfnAks.Vcu.Iteration — what one iteration of the VCU does

`run_eq` says once how an iteration goes, by the place it stops at: the emergency-stop flag, the
telemetry, the event it polled, or the periodic handler. From it come the next state (`run_state`),
the inputs (`run_inputs`) and the relay call (`run_relays`, `run_relayCalls`); no later proof
unfolds `run`. The last two sections are about what happens between iterations and after a
successful `init`.
-/
import Mathlib.Tactic.SplitIfs
import TfnAks.Vcu.VcuLogic

namespace TfnAks.Vcu

open TfnAks.Lib.Runs TfnAks.Relay

/-! ## The parts of an iteration -/

/-- What an iteration reads but does not decide: the queue, the snapshot, the flag, the mutex. -/
structure VcuInputs where
  eventQueue : Option (List VcuEvent)
  telLatestData : TelemetryData
  eStopPending : Bool
  telDataMutex : Bool

/-- What the other tasks write. -/
def VcuLogic.inputs (s : VcuLogic) : VcuInputs :=
  ⟨s.eventQueue, s.telLatestData, s.eStopPending, s.telDataMutex⟩

/-- The handler of the current state has opened the relays since the state was entered. -/
def VcuLogic.opened (s : VcuLogic) : Bool :=
  match s.state with
  | .emergencyStop => s.relaysOpenedInEstop
  | .fault => s.relaysOpenedInFault
  | _ => false

/-- The relay call the handler of the current state makes. -/
def VcuLogic.handlerCall (s : VcuLogic) : Option RelayOp :=
  match s.state with
  | .ready => if s.stateTimer ≤ taskPeriodMs then some .allOn else none
  | .emergencyStop => openingCall s.stateTimer s.relaysOpenedInEstop s.lastEstopLogMs
  | .fault => openingCall s.stateTimer s.relaysOpenedInFault s.lastFaultLogMs
  | _ => none

/-- The driver after an optional call. -/
def afterCall (m : RelayManager) (call : Option RelayOp) : RelayManager :=
  call.elim m fun op => (op.call m).1

@[simp] theorem afterCall_none (m : RelayManager) : afterCall m none = m := rfl

section TransitionTo

variable (next : VcuState) (s : VcuLogic)

@[simp] theorem transitionTo_state : (s.transitionTo next).state = next := by
  cases next <;> rfl

@[simp] theorem transitionTo_relays : (s.transitionTo next).relays = s.relays := by
  cases next <;> rfl

@[simp] theorem transitionTo_relayCalls : (s.transitionTo next).relayCalls = s.relayCalls := by
  cases next <;> rfl

@[simp] theorem transitionTo_inputs : (s.transitionTo next).inputs = s.inputs := by
  cases next <;> rfl

/-- Whatever was opened before, a fresh emergency stop or fault state has opened nothing yet. -/
@[simp] theorem transitionTo_opened : (s.transitionTo next).opened = false := by
  cases next <;> rfl

end TransitionTo

section Periodic

variable (s : VcuLogic)

theorem handleEmergencyStop_eq :
    s.handleEmergencyStop =
      { s with
        relays := afterCall s.relays
          (openingCall s.stateTimer s.relaysOpenedInEstop s.lastEstopLogMs)
        relayCalls := s.relayCalls ++
          (openingCall s.stateTimer s.relaysOpenedInEstop s.lastEstopLogMs).toList
        relaysOpenedInEstop := s.relaysOpenedInEstop ||
          (openingCall s.stateTimer s.relaysOpenedInEstop s.lastEstopLogMs).isSome
        lastEstopLogMs := logTime s.stateTimer s.lastEstopLogMs } := by
  unfold VcuLogic.handleEmergencyStop
  cases openingCall s.stateTimer s.relaysOpenedInEstop s.lastEstopLogMs with
  | none => simp
  | some op => rfl

theorem handleFault_eq :
    s.handleFault =
      { s with
        relays := afterCall s.relays
          (openingCall s.stateTimer s.relaysOpenedInFault s.lastFaultLogMs)
        relayCalls := s.relayCalls ++
          (openingCall s.stateTimer s.relaysOpenedInFault s.lastFaultLogMs).toList
        relaysOpenedInFault := s.relaysOpenedInFault ||
          (openingCall s.stateTimer s.relaysOpenedInFault s.lastFaultLogMs).isSome
        lastFaultLogMs := logTime s.stateTimer s.lastFaultLogMs } := by
  unfold VcuLogic.handleFault
  cases openingCall s.stateTimer s.relaysOpenedInFault s.lastFaultLogMs with
  | none => simp
  | some op => rfl

/-- The handler changes no state variable but the relays and its own book-keeping. -/
theorem periodic_frame :
    s.periodic.state = s.state ∧ s.periodic.stateTimer = s.stateTimer ∧
      s.periodic.inputs = s.inputs := by
  unfold VcuLogic.periodic
  rw [handleEmergencyStop_eq, handleFault_eq]
  unfold VcuLogic.handleReady
  cases h : s.state with
  | ready =>
      by_cases ht : s.stateTimer ≤ taskPeriodMs
      · simp only [if_pos ht]
        exact ⟨h, rfl, rfl⟩
      · simp [ht, h]
  | emergencyStop => exact ⟨rfl, rfl, rfl⟩
  | fault => exact ⟨rfl, rfl, rfl⟩
  | _ => exact ⟨h, rfl, rfl⟩

@[simp] theorem periodic_state : s.periodic.state = s.state := (periodic_frame s).1

@[simp] theorem periodic_inputs : s.periodic.inputs = s.inputs := (periodic_frame s).2.2

theorem periodic_relays_and_calls :
    s.periodic.relays = afterCall s.relays s.handlerCall ∧
      s.periodic.relayCalls = s.relayCalls ++ s.handlerCall.toList := by
  unfold VcuLogic.periodic VcuLogic.handlerCall
  rw [handleEmergencyStop_eq, handleFault_eq]
  unfold VcuLogic.handleReady
  cases h : s.state with
  | ready => by_cases ht : s.stateTimer ≤ taskPeriodMs <;> simp [ht, VcuLogic.callRelays, afterCall]
  | emergencyStop => exact ⟨rfl, rfl⟩
  | fault => exact ⟨rfl, rfl⟩
  | _ => exact ⟨rfl, (List.append_nil _).symm⟩

@[simp] theorem periodic_relays : s.periodic.relays = afterCall s.relays s.handlerCall :=
  (periodic_relays_and_calls s).1

@[simp] theorem periodic_relayCalls :
    s.periodic.relayCalls = s.relayCalls ++ s.handlerCall.toList :=
  (periodic_relays_and_calls s).2

end Periodic

/-- The states that are entered to open the contactors. -/
def VcuState.isStopped : VcuState → Bool
  | .emergencyStop | .fault => true
  | _ => false

theorem periodic_opened (s : VcuLogic) :
    s.periodic.opened = (s.opened || (s.state.isStopped && s.handlerCall.isSome)) := by
  unfold VcuLogic.periodic VcuLogic.opened VcuLogic.handlerCall
  rw [handleEmergencyStop_eq, handleFault_eq]
  unfold VcuLogic.handleReady
  cases h : s.state with
  | ready =>
      by_cases ht : s.stateTimer ≤ taskPeriodMs <;>
        simp [ht, VcuLogic.callRelays, h, VcuState.isStopped]
  | emergencyStop => simp [VcuState.isStopped]
  | fault => simp [VcuState.isStopped]
  | _ => simp [h, VcuState.isStopped, VcuLogic.handleIdle, VcuLogic.handleDrive]

section HandleEvent

variable (event : VcuEvent) (s : VcuLogic)

/-- The event ends the iteration before the periodic handler of the state. -/
def VcuEvent.endsIteration (event : VcuEvent) (state : VcuState) : Bool :=
  match event with
  | .emergencyStop | .faultDetected => true
  | .reset => state == .fault || state == .emergencyStop
  | _ => false

/-- The state an event leads to. -/
def VcuState.after (d : TelemetryData) (state : VcuState) : VcuEvent → VcuState
  | .emergencyStop => .emergencyStop
  | .faultDetected => .fault
  | .reset =>
    if (state = .fault ∨ state = .emergencyStop) ∧ isResetInterlockSatisfied d state = true then .idle
    else state
  | .startRequest => if state = .idle then .ready else state
  | .driveEnable => if state = .ready then .drive else state
  | .none => state

theorem handleStateEvent_frame :
    (s.handleStateEvent event).inputs = s.inputs ∧
      (s.handleStateEvent event).relays = s.relays ∧
      (s.handleStateEvent event).relayCalls = s.relayCalls := by
  unfold VcuLogic.handleStateEvent
  split
  · split <;> simp
  · split <;> simp
  · exact ⟨rfl, rfl, rfl⟩

theorem handleEvent_of_not_endsIteration (h : event.endsIteration s.state = false) :
    s.handleEvent event = (s.handleStateEvent event).periodic := by
  unfold VcuLogic.handleEvent
  cases event <;> simp_all [VcuEvent.endsIteration]

/-- An event that ends the iteration touches the state and its timer only. -/
theorem handleEvent_of_endsIteration (h : event.endsIteration s.state = true) :
    (s.handleEvent event).relays = s.relays ∧
      (s.handleEvent event).relayCalls = s.relayCalls ∧
      (s.handleEvent event).inputs = s.inputs := by
  unfold VcuLogic.handleEvent
  cases event with
  | emergencyStop => simp
  | faultDetected => simp
  | reset =>
      -- in the other states a RESET falls through to the handler
      have hs : s.state = .fault ∨ s.state = .emergencyStop := by
        simpa [VcuEvent.endsIteration] using h
      rw [if_neg (by decide), if_neg (by decide), if_pos ⟨rfl, hs⟩]
      split <;> simp
  | _ => simp [VcuEvent.endsIteration] at h

@[simp] theorem handleEvent_inputs : (s.handleEvent event).inputs = s.inputs := by
  cases h : event.endsIteration s.state with
  | true => exact (handleEvent_of_endsIteration event s h).2.2
  | false =>
      rw [handleEvent_of_not_endsIteration event s h, periodic_inputs]
      exact (handleStateEvent_frame event s).1

theorem handleStateEvent_state (h : event.endsIteration s.state = false) :
    (s.handleStateEvent event).state = s.state.after s.telLatestData event := by
  unfold VcuLogic.handleStateEvent
  cases event <;> cases hs : s.state <;> simp_all [VcuEvent.endsIteration, VcuState.after]

@[simp] theorem handleEvent_state :
    (s.handleEvent event).state = s.state.after s.telLatestData event := by
  cases h : event.endsIteration s.state with
  | false =>
      rw [handleEvent_of_not_endsIteration event s h, periodic_state]
      exact handleStateEvent_state event s h
  | true =>
      unfold VcuLogic.handleEvent
      cases event with
      | emergencyStop => simp [VcuState.after]
      | faultDetected => simp [VcuState.after]
      | reset =>
          have hs : s.state = .fault ∨ s.state = .emergencyStop := by
            simpa [VcuEvent.endsIteration] using h
          rw [if_neg (by decide), if_neg (by decide), if_pos ⟨rfl, hs⟩]
          cases hi : isResetInterlockSatisfied s.telLatestData s.state <;>
            simp [VcuState.after, hs, hi]
      | _ => simp [VcuEvent.endsIteration] at h

end HandleEvent

/-! ## What one iteration does -/

/-- The events that wait; none without a queue. -/
def VcuLogic.queue (s : VcuLogic) : List VcuEvent := s.eventQueue.getD []

/-- A pending emergency stop cuts the iteration short. -/
def VcuLogic.preempts (s : VcuLogic) : Bool := s.eStopPending && s.state != .emergencyStop

/-- The telemetry snapshot is critical in a monitored state. -/
def VcuLogic.trips (s : VcuLogic) : Bool :=
  s.state.isMonitored && hasCriticalCondition s.telLatestData s.state

/-- The iteration gets as far as the queue. -/
def VcuLogic.polls (s : VcuLogic) : Bool := !s.preempts && !s.trips

/-- The event the iteration takes from the queue. -/
def VcuLogic.consumes (s : VcuLogic) : Option VcuEvent :=
  if s.polls then s.queue.head? else none

/-- The statics after the first two lines of `run`. -/
def VcuLogic.ticked (s : VcuLogic) : VcuLogic :=
  { s with stateTimer := s.stateTimer + taskPeriodMs, eStopPending := false }

/-- The statics once the queue has been polled. -/
def VcuLogic.polled (s : VcuLogic) : VcuLogic :=
  { s.ticked with
    vcuWarningLogged := hasWarningCondition s.telLatestData
    eventQueue := s.eventQueue.map List.tail }

theorem updateWarning_eq (s : VcuLogic) :
    s.updateWarning = { s with vcuWarningLogged := hasWarningCondition s.telLatestData } := by
  unfold VcuLogic.updateWarning
  split
  · rename_i h
    rw [h]
  · rename_i h
    rw [Bool.not_eq_true] at h
    rw [h]

/-- **One iteration.** It stops at the flag, at the telemetry, or after the event it polled. -/
theorem run_eq (s : VcuLogic) :
    s.run =
      if s.preempts then s.ticked.transitionTo .emergencyStop
      else if s.trips then s.ticked.transitionTo .fault
      else
        match s.queue.head? with
        | some event => s.polled.handleEvent event
        | none => s.polled.periodic := by
  unfold VcuLogic.run
  simp only [updateWarning_eq, VcuLogic.preempts, VcuLogic.trips, VcuLogic.ticked,
    VcuLogic.polled, VcuLogic.queue, VcuLogic.pollEvent]
  refine if_congr Iff.rfl rfl (if_congr Iff.rfl rfl ?_)
  -- no queue, an empty one, or one with a head: the only places where the two sides compute
  rcases s with ⟨_, _ | _ | ⟨event, rest⟩⟩ <;> rfl

theorem run_of_preempts {s : VcuLogic} (h : s.preempts = true) :
    s.run = s.ticked.transitionTo .emergencyStop := by
  rw [run_eq, if_pos h]

theorem run_of_trips {s : VcuLogic} (hp : s.preempts = false) (h : s.trips = true) :
    s.run = s.ticked.transitionTo .fault := by
  rw [run_eq, if_neg (by simp [hp]), if_pos h]

theorem polls_iff {s : VcuLogic} : s.polls = true ↔ s.preempts = false ∧ s.trips = false := by
  simp [VcuLogic.polls]

theorem run_of_polls {s : VcuLogic} (h : s.polls = true) :
    s.run =
      match s.consumes with
      | some event => s.polled.handleEvent event
      | none => s.polled.periodic := by
  have hcut := polls_iff.mp h
  rw [run_eq, if_neg (by simp [hcut.1]), if_neg (by simp [hcut.2]), VcuLogic.consumes, if_pos h]

/-- The three ways an iteration can go. -/
theorem run_trichotomy (s : VcuLogic) :
    s.preempts = true ∨ (s.preempts = false ∧ s.trips = true) ∨ s.polls = true := by
  rw [polls_iff]
  cases s.preempts <;> cases s.trips <;> simp

@[simp] theorem ticked_relays (s : VcuLogic) : s.ticked.relays = s.relays := rfl

@[simp] theorem ticked_relayCalls (s : VcuLogic) : s.ticked.relayCalls = s.relayCalls := rfl

@[simp] theorem polled_state (s : VcuLogic) : s.polled.state = s.state := rfl

@[simp] theorem polled_telLatestData (s : VcuLogic) :
    s.polled.telLatestData = s.telLatestData := rfl

/-- The state an iteration ends in. -/
def VcuLogic.nextState (s : VcuLogic) : VcuState :=
  if s.preempts then .emergencyStop
  else if s.trips then .fault
  else s.consumes.elim s.state (s.state.after s.telLatestData)

@[simp] theorem run_state (s : VcuLogic) : s.run.state = s.nextState := by
  unfold VcuLogic.nextState
  rcases run_trichotomy s with h | ⟨hp, ht⟩ | h
  · rw [run_of_preempts h, transitionTo_state, if_pos h]
  · rw [run_of_trips hp ht, transitionTo_state, if_neg (by simp [hp]), if_pos ht]
  · have hcut := polls_iff.mp h
    rw [run_of_polls h, if_neg (by simp [hcut.1]), if_neg (by simp [hcut.2])]
    cases s.consumes <;> simp

theorem run_inputs (s : VcuLogic) :
    s.run.inputs =
      { s.inputs with
        eventQueue := if s.polls then s.eventQueue.map List.tail else s.eventQueue
        eStopPending := false } := by
  rcases run_trichotomy s with h | ⟨hp, ht⟩ | h
  · rw [run_of_preempts h, transitionTo_inputs, if_neg (by simp [VcuLogic.polls, h])]
    rfl
  · rw [run_of_trips hp ht, transitionTo_inputs, if_neg (by simp [VcuLogic.polls, ht])]
    rfl
  · rw [run_of_polls h, if_pos h]
    cases s.consumes with
    | none => exact periodic_inputs _
    | some event => exact handleEvent_inputs event _

@[simp] theorem run_eventQueue (s : VcuLogic) :
    s.run.eventQueue = if s.polls then s.eventQueue.map List.tail else s.eventQueue :=
  congrArg VcuInputs.eventQueue (run_inputs s)

@[simp] theorem run_telLatestData (s : VcuLogic) : s.run.telLatestData = s.telLatestData :=
  congrArg VcuInputs.telLatestData (run_inputs s)

@[simp] theorem run_eStopPending (s : VcuLogic) : s.run.eStopPending = false :=
  congrArg VcuInputs.eStopPending (run_inputs s)

@[simp] theorem run_telDataMutex (s : VcuLogic) : s.run.telDataMutex = s.telDataMutex :=
  congrArg VcuInputs.telDataMutex (run_inputs s)

/-- The iteration gets as far as the periodic handler. -/
def VcuLogic.reachesHandler (s : VcuLogic) : Bool :=
  s.polls && s.consumes.all fun event => !event.endsIteration s.state

/-- The relay call an iteration makes. -/
def VcuLogic.runCall (s : VcuLogic) : Option RelayOp :=
  if s.reachesHandler then
    match s.nextState with
    | .ready =>
      if s.state ≠ .ready ∨ s.stateTimer + taskPeriodMs ≤ taskPeriodMs then some .allOn else none
    | .emergencyStop =>
      openingCall (s.stateTimer + taskPeriodMs) s.relaysOpenedInEstop s.lastEstopLogMs
    | .fault => openingCall (s.stateTimer + taskPeriodMs) s.relaysOpenedInFault s.lastFaultLogMs
    | _ => none
  else none

/-- The statics the periodic handler starts from. -/
def VcuLogic.beforeHandler (s : VcuLogic) : VcuLogic :=
  s.consumes.elim s.polled s.polled.handleStateEvent

theorem run_of_reachesHandler {s : VcuLogic} (h : s.reachesHandler = true) :
    s.run = s.beforeHandler.periodic := by
  rw [VcuLogic.reachesHandler, Bool.and_eq_true] at h
  rw [run_of_polls h.1, VcuLogic.beforeHandler]
  cases hc : s.consumes with
  | none => rfl
  | some event =>
      have hends : event.endsIteration s.state = false := by simpa [hc] using h.2
      exact handleEvent_of_not_endsIteration event s.polled hends

/-- An iteration that stops before the handler leaves the relays alone. -/
theorem run_of_not_reachesHandler {s : VcuLogic} (h : s.reachesHandler = false) :
    s.run.relays = s.relays ∧ s.run.relayCalls = s.relayCalls := by
  rcases run_trichotomy s with hp | ⟨hp, ht⟩ | hp
  · simp [run_of_preempts hp]
  · simp [run_of_trips hp ht]
  · rw [run_of_polls hp]
    simp only [VcuLogic.reachesHandler, hp, Bool.true_and] at h
    cases hc : s.consumes with
    | none => simp [hc] at h
    | some event =>
        have hends : event.endsIteration s.state = true := by simpa [hc] using h
        have hrun := handleEvent_of_endsIteration event s.polled hends
        exact ⟨hrun.1, hrun.2.1⟩

theorem beforeHandler_handlerCall {s : VcuLogic} (h : s.reachesHandler = true) :
    s.beforeHandler.handlerCall = s.runCall := by
  rw [VcuLogic.runCall, if_pos h]
  rw [VcuLogic.reachesHandler, Bool.and_eq_true] at h
  have hcut := polls_iff.mp h.1
  rw [VcuLogic.nextState, if_neg (by simp [hcut.1]), if_neg (by simp [hcut.2]),
    VcuLogic.beforeHandler]
  cases hc : s.consumes with
  | none => cases hs : s.state <;> simp [VcuLogic.handlerCall, hs, VcuLogic.polled, VcuLogic.ticked]
  | some event =>
      -- an event that does not end the iteration can still enter `ready`, with the timer at 0
      have hends : event.endsIteration s.state = false := by simpa [hc] using h.2
      cases event <;> cases hs : s.state <;>
        simp_all [VcuLogic.handlerCall, VcuLogic.handleStateEvent, VcuLogic.polled,
          VcuLogic.ticked, VcuState.after, VcuEvent.endsIteration, VcuLogic.transitionTo]

@[simp] theorem beforeHandler_relays (s : VcuLogic) :
    s.beforeHandler.relays = s.relays ∧ s.beforeHandler.relayCalls = s.relayCalls := by
  unfold VcuLogic.beforeHandler
  cases s.consumes with
  | none => exact ⟨rfl, rfl⟩
  | some event => exact (handleStateEvent_frame event s.polled).2

/-- **The relays after an iteration**: as before, but for the one call it makes. -/
theorem run_relays (s : VcuLogic) : s.run.relays = afterCall s.relays s.runCall := by
  cases h : s.reachesHandler with
  | true =>
      rw [run_of_reachesHandler h, periodic_relays, beforeHandler_handlerCall h,
        (beforeHandler_relays s).1]
  | false => simp [run_of_not_reachesHandler h, VcuLogic.runCall, h]

theorem run_relayCalls (s : VcuLogic) :
    s.run.relayCalls = s.relayCalls ++ s.runCall.toList := by
  cases h : s.reachesHandler with
  | true =>
      rw [run_of_reachesHandler h, periodic_relayCalls, beforeHandler_handlerCall h,
        (beforeHandler_relays s).2]
  | false => simp [run_of_not_reachesHandler h, VcuLogic.runCall, h]

/-! ## What happens between two iterations -/

/-- `s` with other inputs. -/
def VcuLogic.withInputs (s : VcuLogic) (i : VcuInputs) : VcuLogic :=
  { s with
    eventQueue := i.eventQueue
    telLatestData := i.telLatestData
    eStopPending := i.eStopPending
    telDataMutex := i.telDataMutex }

/-- **A post** does nothing, raises the stop flag, or appends to a queue that has room. -/
theorem postEvent_cases (s : VcuLogic) (event : VcuEvent) :
    s.postEvent event = s ∨
      (event = .emergencyStop ∧ s.postEvent event = { s with eStopPending := true }) ∨
        (event ≠ .emergencyStop ∧ ∃ queue, s.eventQueue = some queue ∧
          queue.length < eventQueueLength ∧
            s.postEvent event = { s with eventQueue := some (queue ++ [event]) }) := by
  unfold VcuLogic.postEvent
  cases s.eventQueue with
  | none => exact Or.inl rfl
  | some queue =>
      by_cases he : event = .emergencyStop
      · exact Or.inr (Or.inl ⟨he, if_pos he⟩)
      · by_cases hlt : queue.length < eventQueueLength
        · exact Or.inr (Or.inr ⟨he, queue, rfl, hlt, (if_neg he).trans (if_pos hlt)⟩)
        · exact Or.inl ((if_neg he).trans (if_neg hlt))

/-- **A telemetry update** does nothing or replaces the snapshot. -/
theorem setTelemetryData_cases (s : VcuLogic) (d : TelemetryData) :
    s.setTelemetryData d = s ∨
      (s.telDataMutex = true ∧ s.setTelemetryData d = { s with telLatestData := d }) := by
  unfold VcuLogic.setTelemetryData
  cases h : s.telDataMutex with
  | true => exact Or.inr ⟨rfl, if_pos rfl⟩
  | false => exact Or.inl (if_neg Bool.false_ne_true)

/-- The telemetry the VCU decides on changes by `setTelemetryData` only. -/
theorem postEvent_telLatestData (s : VcuLogic) (event : VcuEvent) :
    (s.postEvent event).telLatestData = s.telLatestData := by
  rcases postEvent_cases s event with h | ⟨_, h⟩ | ⟨_, _, _, _, h⟩ <;> rw [h]

/-- A post or a telemetry update reaches the inputs only. -/
theorem step_eq_withInputs (s : VcuLogic) {a : VcuAction} (h : a ≠ .run) :
    s.step a = s.withInputs (s.step a).inputs := by
  cases a with
  | run => exact absurd rfl h
  | setTelemetryData d =>
      rw [VcuLogic.step]
      rcases setTelemetryData_cases s d with hs | ⟨_, hs⟩ <;> rw [hs] <;> rfl
  | postEvent event =>
      rw [VcuLogic.step]
      rcases postEvent_cases s event with hs | ⟨_, hs⟩ | ⟨_, _, _, _, hs⟩ <;> rw [hs] <;> rfl

/-- Between two iterations the state stays. -/
theorem step_state_of_ne_run (s : VcuLogic) {a : VcuAction} (h : a ≠ .run) :
    (s.step a).state = s.state := by
  rw [step_eq_withInputs s h]
  rfl

/-- Any number of them reach the inputs only. -/
theorem exec_eq_withInputs (s : VcuLogic) {as : List VcuAction} (h : ∀ a ∈ as, a ≠ .run) :
    exec VcuLogic.step s as = s.withInputs (exec VcuLogic.step s as).inputs := by
  induction as generalizing s with
  | nil => rfl
  | cons a as ih =>
      rw [List.forall_mem_cons] at h
      rw [exec_cons, ih _ h.2, step_eq_withInputs s h.1]
      rfl

/-! ## After a successful `init` -/

/-- The queue and the mutex exist. -/
def VcuLogic.Wired (s : VcuLogic) : Prop :=
  s.eventQueue.isSome = true ∧ s.telDataMutex = true

theorem run_wired {s : VcuLogic} (h : s.Wired) : s.run.Wired := by
  refine ⟨?_, by rw [run_telDataMutex]; exact h.2⟩
  rw [run_eventQueue]
  split
  · rw [Option.isSome_map]
    exact h.1
  · exact h.1

theorem step_wired (s : VcuLogic) (a : VcuAction) (h : s.Wired) : (s.step a).Wired := by
  cases a with
  | run => exact run_wired h
  | setTelemetryData d =>
      rw [VcuLogic.step, VcuLogic.setTelemetryData, if_pos h.2]
      exact h
  | postEvent event =>
      rw [VcuLogic.step]
      rcases postEvent_cases s event with hs | ⟨_, hs⟩ | ⟨_, _, _, _, hs⟩
      · rw [hs]
        exact h
      · rw [hs]
        exact h
      · rw [hs]
        exact ⟨rfl, h.2⟩

theorem VcuLogic.Reachable.wired {s : VcuLogic} (h : s.Reachable) : s.Wired :=
  h.invariant ⟨rfl, rfl⟩ step_wired

theorem setTelemetryData_of_wired {s : VcuLogic} (h : s.Wired) (d : TelemetryData) :
    s.setTelemetryData d = { s with telLatestData := d } := by
  rw [VcuLogic.setTelemetryData, if_pos h.2]

theorem postEmergencyStop_of_wired {s : VcuLogic} (h : s.Wired) :
    s.postEvent .emergencyStop = { s with eStopPending := true } := by
  obtain ⟨queue, hq⟩ := Option.isSome_iff_exists.mp h.1
  simp [VcuLogic.postEvent, hq]

/-- A post leaves the queue as it is or appends to it: never the stop, and never past its length. -/
theorem postEvent_queue (s : VcuLogic) (event : VcuEvent) :
    (s.postEvent event).queue = s.queue ∨
      (event ≠ .emergencyStop ∧ s.queue.length < eventQueueLength ∧
        (s.postEvent event).queue = s.queue ++ [event]) := by
  rcases postEvent_cases s event with h | ⟨_, h⟩ | ⟨he, queue, hq, hlt, h⟩
  · rw [h]
    exact Or.inl rfl
  · rw [h]
    exact Or.inl rfl
  · have hqueue : s.queue = queue := by rw [VcuLogic.queue, hq, Option.getD_some]
    rw [h, hqueue]
    exact Or.inr ⟨he, hlt, rfl⟩

theorem setTelemetryData_queue (s : VcuLogic) (d : TelemetryData) :
    (s.setTelemetryData d).queue = s.queue := by
  rcases setTelemetryData_cases s d with h | ⟨_, h⟩
  · rw [h]
  · rw [h]
    rfl

@[simp] theorem run_queue (s : VcuLogic) :
    s.run.queue = if s.polls then s.queue.tail else s.queue := by
  unfold VcuLogic.queue
  rw [run_eventQueue]
  split
  · cases s.eventQueue <;> rfl
  · rfl

end TfnAks.Vcu
