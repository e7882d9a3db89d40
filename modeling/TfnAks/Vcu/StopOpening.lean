/-
# TfnAks.Vcu.StopOpening — an emergency stop opens the contactors, however it is disturbed

Between the post of a stop and the handler that opens the contactors lie one iteration that enters
`emergencyStop` and one in which the opening delay elapses, and both can be disturbed: a
FAULT_DETECTED that comes out of the queue enters `fault`, a second stop leaves it again, and each
starts the delay anew. But each disturbance is one event, waiting in the queue or posted since. They
are the credits (`VcuLogic.stopCredits`) of the waiting time: two iterations and one for each of
them call `allOff` (`stop_calls_allOff`), unless a RESET gets in first.
-/
import TfnAks.Lib.FifoService
import TfnAks.Vcu.EmergencyStop
import TfnAks.Vcu.Reassertion

namespace TfnAks.Vcu

open TfnAks.Lib.Runs TfnAks.Lib.FifoService TfnAks.Relay

/-! ## A stop just entered -/

/-- The state is a stop that has opened nothing yet, and no time has passed in it. -/
structure VcuLogic.JustStopped (s : VcuLogic) : Prop where
  stopped : s.state.isStopped = true
  unopened : s.opened = false
  timer : s.stateTimer = 0

theorem transitionTo_justStopped {st : VcuState} (hst : st.isStopped = true) (u : VcuLogic) :
    (u.transitionTo st).JustStopped where
  stopped := by rw [transitionTo_state]; exact hst
  unopened := transitionTo_opened st u
  timer := (transitionTo_bookkeeping hst u).1

/-- The next iteration is the first one of the delay; if it gets to the handler, it opens. -/
theorem VcuLogic.JustStopped.runCall {s : VcuLogic} (h : s.JustStopped)
    (hreaches : s.reachesHandler = true) : s.runCall = some (.allOff false) := by
  have hopening : openingCall (s.stateTimer + taskPeriodMs) false s.lastLogMs =
      some (.allOff false) := by
    rw [h.timer]
    exact openingCall_isSome_of_not_opened _ (by decide)
  have hcalls := run_relayCalls s
  rw [run_of_stopped h.stopped hreaches, periodic_relayCalls,
    handlerCall_of_stopped (s := s.polled) h.stopped] at hcalls
  have hcall : openingCall s.polled.stateTimer s.polled.opened s.polled.lastLogMs =
      openingCall (s.stateTimer + taskPeriodMs) s.opened s.lastLogMs := rfl
  rw [hcall, h.unopened, hopening] at hcalls
  have hlist := List.append_cancel_left (show s.relayCalls ++ _ = s.relayCalls ++ _ from hcalls)
  exact (Option.toList_eq_singleton_iff.mp hlist.symm)

/-! ## The wait -/

/-- What can keep a posted stop from opening: the stop itself, which enters its state first, and the
faults in the queue. -/
def VcuLogic.stopCredits (s : VcuLogic) : ℕ :=
  (if s.eStopPending then 1 else 0) + s.queue.count .faultDetected

/-- The posts that can. -/
def VcuAction.delaysStop : VcuAction → Bool
  | .postEvent .faultDetected | .postEvent .emergencyStop => true
  | _ => false

/-- A stop has been posted or entered, nothing has been opened since, and no RESET can get in. -/
structure VcuLogic.StopWaits (s : VcuLogic) : Prop where
  held : s.StopHeld
  queue : .emergencyStop ∉ s.queue
  waits : s.JustStopped ∨ (s.eStopPending = true ∧ s.state ≠ .emergencyStop)

theorem post_stopCredits (s : VcuLogic) (event : VcuEvent) :
    (s.postEvent event).stopCredits ≤
      s.stopCredits + if (VcuAction.postEvent event).delaysStop then 1 else 0 := by
  unfold VcuLogic.stopCredits
  rcases postEvent_cases s event with hs | ⟨rfl, hs⟩ | ⟨hne, queue, hqueue, -, hs⟩
  · rw [hs]
    exact Nat.le_add_right _ _
  · rw [hs]
    show 1 + s.queue.count .faultDetected ≤ _ + 1
    omega
  · have hbefore : s.queue = queue := by rw [VcuLogic.queue, hqueue, Option.getD_some]
    have hafter : (s.postEvent event).queue = queue ++ [event] := by rw [hs]; rfl
    have hpending : (s.postEvent event).eStopPending = s.eStopPending := by rw [hs]
    rw [hpending, hafter, hbefore, List.count_append, List.count_singleton]
    cases event with
    | emergencyStop => exact absurd rfl hne
    | _ => simp [VcuAction.delaysStop, Nat.add_assoc]

/-- Posts and telemetry keep a stop waiting. -/
theorem between_stopWaits {s : VcuLogic} (h : s.StopWaits) {a : VcuAction} (ha : a ≠ .run)
    (hreset : a ≠ .postEvent .reset) : (s.step a).StopWaits ∧
      (s.step a).stopCredits ≤ s.stopCredits + if a.delaysStop then 1 else 0 := by
  have hheld := h.held.step_keeps hreset
  have hqueue := step_noEmergencyStop s a h.queue
  have hsame := step_eq_withInputs s ha
  refine ⟨⟨hheld, hqueue, ?_⟩, ?_⟩
  · -- neither a post nor telemetry touches the state, the timer or the opened flag
    rcases h.waits with hjust | ⟨hpending, hstate⟩
    · left
      rw [hsame]
      exact ⟨hjust.stopped, hjust.unopened, hjust.timer⟩
    · right
      -- and a pending stop stays pending, the mutex failing or not
      refine ⟨?_, (step_state_of_ne_run s ha).symm ▸ hstate⟩
      cases a with
      | run => exact absurd rfl ha
      | setTelemetryData d =>
          rw [VcuLogic.step]
          rcases setTelemetryData_cases s d with hs | ⟨-, hs⟩ <;> rw [hs] <;> exact hpending
      | postEvent event =>
          rw [VcuLogic.step]
          rcases postEvent_cases s event with hs | ⟨-, hs⟩ | ⟨-, queue, -, -, hs⟩
          · rw [hs]
            exact hpending
          · rw [hs]
          · rw [hs]
            exact hpending
  · cases a with
    | run => exact absurd rfl ha
    | postEvent event => exact post_stopCredits s event
    | setTelemetryData d =>
        rw [VcuLogic.step]
        rcases setTelemetryData_cases s d with hs | ⟨-, hs⟩
        · rw [hs]
          exact Nat.le_refl _
        · rw [hs]
          exact Nat.le_refl _

/-- **One iteration of the wait** calls `allOff`, or spends a credit and starts the delay anew. -/
theorem run_stopWaits {s : VcuLogic} (h : s.StopWaits) (hcall : s.runCall = none) :
    s.run.StopWaits ∧ s.run.stopCredits + 1 ≤ s.stopCredits := by
  have hheld : s.run.StopHeld := h.held.step_keeps (a := .run) VcuAction.noConfusion
  have hqueue : .emergencyStop ∉ s.run.queue := step_noEmergencyStop s .run h.queue
  have hcredits : s.run.stopCredits = s.run.queue.count .faultDetected := by
    rw [VcuLogic.stopCredits, run_eStopPending, if_neg Bool.false_ne_true, Nat.zero_add]
  rw [hcredits, run_queue]
  by_cases hpre : s.preempts = true
  · -- the pending stop is spent
    rw [VcuLogic.polls, hpre, Bool.not_true, Bool.false_and, if_neg Bool.false_ne_true]
    rw [VcuLogic.preempts, Bool.and_eq_true] at hpre
    refine ⟨⟨hheld, hqueue, .inl ?_⟩, ?_⟩
    · rw [run_of_preempts (by rw [VcuLogic.preempts, hpre.1, hpre.2]; rfl)]
      exact transitionTo_justStopped rfl _
    · rw [VcuLogic.stopCredits, if_pos hpre.1, Nat.add_comm]
  · rw [Bool.not_eq_true] at hpre
    have hjust : s.JustStopped := by
      rcases h.waits with hjust | ⟨hpending, hstate⟩
      · exact hjust
      · rw [VcuLogic.preempts, hpending, Bool.true_and, bne_eq_false_iff_eq] at hpre
        exact absurd hpre hstate
    have hpolls : s.polls = true := polls_iff.mpr ⟨hpre, trips_of_isStopped hjust.stopped⟩
    -- an event came before the handler, and it is a fault
    have hfault : s.consumes = some .faultDetected := by
      have hreaches : s.reachesHandler ≠ true := fun hreaches => by
        rw [hjust.runCall hreaches] at hcall
        exact absurd hcall (Option.some_ne_none _)
      rw [VcuLogic.reachesHandler, hpolls, Bool.true_and] at hreaches
      cases hc : s.consumes with
      | none => rw [hc] at hreaches; exact absurd rfl hreaches
      | some event =>
          have hmem := consumes_mem_queue hc
          rw [hc] at hreaches
          cases event with
          | faultDetected => rfl
          | emergencyStop => exact absurd hmem h.queue
          | reset => exact absurd hmem h.held.noReset
          | _ => exact absurd rfl hreaches
    rw [if_pos hpolls]
    refine ⟨⟨hheld, hqueue, .inl ?_⟩, ?_⟩
    · rw [run_of_polls hpolls, hfault]
      have hfaultStops : VcuState.fault.isStopped = true := rfl
      exact transitionTo_justStopped hfaultStops s.polled
    · rw [VcuLogic.consumes, if_pos hpolls] at hfault
      obtain ⟨rest, hrest⟩ := List.head?_eq_some_iff.mp hfault
      rw [VcuLogic.stopCredits, hrest, List.tail_cons, List.count_cons_self]
      omega

/-! ## The bound -/

theorem post_stopWaits {s : VcuLogic} (h : s.Reachable) (hstate : s.state ≠ .emergencyStop)
    (hqueue : .reset ∉ s.queue) : (s.postEvent .emergencyStop).StopWaits := by
  rw [postEmergencyStop_of_wired h.wired]
  exact ⟨⟨hqueue, .inl rfl⟩, h.noEmergencyStop, .inr ⟨rfl, hstate⟩⟩

/-- **A stop calls `allOff` in time.** Two iterations, one more for each fault that was queued
before the stop and one more for each fault or stop posted after it are enough, as long as no RESET
is queued before it or posted after it. -/
theorem stop_calls_allOff {s : VcuLogic} (h : s.StopWaits) {as : List VcuAction}
    (hreset : ∀ a ∈ as, a ≠ .postEvent .reset)
    (hlong : s.stopCredits + as.countP VcuAction.delaysStop < as.count .run) :
    ∃ pre post, as = pre ++ .run :: post ∧ (exec VcuLogic.step s pre).runCall ≠ none := by
  have hstep : ∀ s a, a ≠ .postEvent .reset → VcuLogic.StopWaits s →
      ¬ (a = .run ∧ s.runCall ≠ none) → VcuLogic.StopWaits (s.step a) ∧
        (s.step a).stopCredits + (if a == .run then 1 else 0) ≤
          s.stopCredits + if a.delaysStop then 1 else 0 := by
    intro s a hnoReset hwaits hends
    by_cases ha : a = .run
    · subst ha
      have hcall : s.runCall = none := by
        by_contra hcall
        exact hends ⟨rfl, hcall⟩
      exact run_stopWaits hwaits hcall
    · rw [if_neg (fun hrun => ha (beq_iff_eq.mp hrun)), Nat.add_zero]
      exact between_stopWaits hwaits ha hnoReset
  obtain ⟨pre, a, post, hsplit, rfl, hcall⟩ := exists_of_credits hstep h hreset hlong
  exact ⟨pre, post, hsplit, hcall⟩

end TfnAks.Vcu
