/-
# TfnAks.Vcu.QueueService — every queued event is served, in order and in time

The event queue of the VCU under the view of `Lib.FifoService`: a post that is accepted goes to the
back, an iteration that gets as far as `pollEvent` takes the head. An iteration may return before
that, for a pending emergency stop or a critical snapshot, and both can be provoked again and again
from outside. They still cannot starve the queue. The first leads to `emergencyStop`, where neither
applies; the second to `fault`, where only the first does. `VcuState.skips` counts down along this
way.
-/
import TfnAks.Lib.FifoService
import TfnAks.Vcu.Iteration

namespace TfnAks.Vcu

open TfnAks.Lib.Runs TfnAks.Lib.FifoService

/-- What a post puts in the queue. -/
def VcuLogic.accepted (s : VcuLogic) : VcuAction → List VcuEvent
  | .postEvent event =>
    match s.eventQueue with
    | none => []
    | some queue =>
      if event ≠ .emergencyStop ∧ queue.length < eventQueueLength then [event] else []
  | _ => []

/-- The action is an iteration that polls the queue. -/
def VcuLogic.servesQueue (s : VcuLogic) (a : VcuAction) : Bool := a = .run && s.polls

/-- What an iteration takes from the queue. -/
def VcuLogic.consumed (s : VcuLogic) : VcuAction → List VcuEvent
  | .run => s.consumes.toList
  | _ => []

theorem consumed_eq_taken (s : VcuLogic) (a : VcuAction) :
    s.consumed a = taken VcuLogic.queue VcuLogic.servesQueue s a := by
  cases a with
  | run =>
      simp only [VcuLogic.consumed, taken, VcuLogic.servesQueue, VcuLogic.consumes, decide_true,
        Bool.true_and]
      split <;> rfl
  | postEvent event => rfl
  | setTelemetryData d => rfl

theorem postEvent_queue_eq (s : VcuLogic) (event : VcuEvent) :
    (s.postEvent event).queue = s.queue ++ s.accepted (.postEvent event) := by
  unfold VcuLogic.postEvent VcuLogic.accepted
  cases hq : s.eventQueue with
  | none => exact (List.append_nil s.queue).symm
  | some queue =>
      have hqueue : s.queue = queue := by rw [VcuLogic.queue, hq, Option.getD_some]
      by_cases hstop : event = .emergencyStop
      · simp [hstop, VcuLogic.queue, hq]
      · by_cases hroom : queue.length < eventQueueLength
        · simp [hstop, hroom, VcuLogic.queue, hq]
        · simp [hstop, hroom]

/-- The queue of the VCU is one. -/
theorem fifo_queue : Fifo VcuLogic.step VcuLogic.queue VcuLogic.accepted VcuLogic.servesQueue := by
  intro s a
  cases a with
  | run =>
      show s.run.queue = (if (decide (VcuAction.run = .run) && s.polls) then _ else _) ++ []
      rw [run_queue, decide_eq_true rfl, Bool.true_and, List.append_nil]
  | postEvent event => exact postEvent_queue_eq s event
  | setTelemetryData d => exact (setTelemetryData_queue s d).trans (List.append_nil s.queue).symm

/-! ## Skipped turns -/

/-- How many iterations in a row can return early from a state. -/
def VcuState.skips : VcuState → Nat
  | .emergencyStop => 0
  | .fault => 1
  | _ => 2

theorem patient_queue :
    Patient VcuLogic.step (fun a => a = .run) VcuLogic.servesQueue (fun s => s.state.skips) 2 where
  rank_le := by
    intro s
    cases s.state <;> decide
  between := by
    intro s a ha
    rw [step_state_of_ne_run s (of_decide_eq_false ha)]
  skipped := by
    intro s a ha hserves
    obtain rfl : a = .run := of_decide_eq_true ha
    show s.run.state.skips < s.state.skips
    rcases run_trichotomy s with h | ⟨hp, ht⟩ | h
    · -- a pending stop is not looked at in `emergencyStop`
      rw [run_of_preempts h, transitionTo_state]
      rw [VcuLogic.preempts, Bool.and_eq_true, bne_iff_ne] at h
      cases hs : s.state with
      | emergencyStop => exact absurd hs h.2
      | _ => decide
    · -- the telemetry is looked at in `idle`, `ready` and `drive`
      rw [run_of_trips hp ht, transitionTo_state]
      rw [VcuLogic.trips, Bool.and_eq_true] at ht
      cases hs : s.state with
      | emergencyStop => simp [hs, VcuState.isMonitored] at ht
      | fault => simp [hs, VcuState.isMonitored] at ht
      | _ => decide
    · rw [VcuLogic.servesQueue, h] at hserves
      simp at hserves

/-! ## The service -/

theorem gather_consumed (s : VcuLogic) (as : List VcuAction) :
    gather VcuLogic.step VcuLogic.consumed s as =
      gather VcuLogic.step (taken VcuLogic.queue VcuLogic.servesQueue) s as := by
  induction as generalizing s with
  | nil => rfl
  | cons a as ih => rw [gather_cons, gather_cons, consumed_eq_taken, ih]

theorem le_servings_of_le_count {k : Nat} {s : VcuLogic} {as : List VcuAction}
    (h : 3 * k ≤ as.count .run) : k ≤ servings VcuLogic.step VcuLogic.servesQueue s as := by
  have hcount : as.count .run = as.countP fun a => a = .run := by
    rw [List.count]
    apply List.countP_congr
    intro a _
    simp
  exact patient_queue.le_servings (hcount ▸ h)

/-- **Event queue service.** After a successful `init`, whatever is posted or set between the
iterations: the accepted events are, in posting order, those consumed so far and those still
waiting. From every state, three iterations poll the queue at least once, and `3 * k` iterations
have consumed the first `k` waiting events. -/
theorem queue_service :
    (∀ history : List VcuAction,
      gather VcuLogic.step VcuLogic.accepted .booted history =
        gather VcuLogic.step VcuLogic.consumed .booted history ++
          (exec VcuLogic.step .booted history).queue) ∧
    ∀ s : VcuLogic, s.Reachable → ∀ as : List VcuAction,
      (3 ≤ as.count .run →
        ∃ pre post, as = pre ++ .run :: post ∧ (exec VcuLogic.step s pre).polls = true) ∧
      ∀ k ≤ s.queue.length, 3 * k ≤ as.count .run →
        s.queue.take k <+: gather VcuLogic.step VcuLogic.consumed s as := by
  constructor
  · intro history
    have hledger := fifo_queue.ledger .booted history
    rw [gather_consumed]
    exact hledger
  · rintro s - as
    constructor
    · intro hthree
      have hserved : 0 < servings VcuLogic.step VcuLogic.servesQueue s as :=
        le_servings_of_le_count hthree
      obtain ⟨pre, a, post, hsplit, hserves⟩ := exists_serves_of_servings_pos hserved
      rw [VcuLogic.servesQueue, Bool.and_eq_true, decide_eq_true_iff] at hserves
      obtain ⟨rfl, hpolls⟩ := hserves
      exact ⟨pre, post, hsplit, hpolls⟩
    · intro k hk hruns
      rw [gather_consumed]
      exact fifo_queue.take_isPrefix hk (le_servings_of_le_count hruns)

/-- Two iterations in a row can return early: for a critical snapshot, then for a stop. -/
example :
    gather VcuLogic.step VcuLogic.consumed .booted
      [.postEvent .startRequest, .setTelemetryData { TelemetryData.zero with telMotorErrorFlags := 1 },
        .run, .postEvent .emergencyStop, .run] = [] := by
  decide

end TfnAks.Vcu
