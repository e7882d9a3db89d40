/-
# TfnAks.Vcu.FaultQueue — when a detected CAN fault reaches the state machine

The emergency stop has a flag of its own because a full queue could swallow it. FAULT_DETECTED, the
other event that counts in every state, has none: `postEvent` drops it when eight events are
waiting, and `CanManager` does not post it again before its error flags change.

`faultGetsThrough_iff` says when the post has its effect whatever happens later: exactly when there
is room in the queue, or a FAULT_DETECTED is waiting already, or the VCU is stopped by the next
iteration anyhow. Otherwise eight harmless events are served instead and the fault is gone.
-/
import TfnAks.Vcu.TransitionLaw

namespace TfnAks.Vcu

open TfnAks.Lib.Runs

/-! ## Iterations with anything in between -/

/-- The statics after `n` iterations, `m i` being what happens before the `i`-th. -/
def VcuLogic.afterRuns (s : VcuLogic) (m : Nat → Between) : Nat → VcuLogic
  | 0 => s
  | n + 1 => ((s.afterRuns m n).before (m n)).run

/-- The first iteration, then the others. -/
theorem afterRuns_succ (s : VcuLogic) (m : Nat → Between) (n : Nat) :
    s.afterRuns m (n + 1) = ((s.before (m 0)).run).afterRuns (fun i => m (i + 1)) n := by
  induction n with
  | zero => rfl
  | succ n ih =>
      rw [VcuLogic.afterRuns, ih]
      rfl

/-- After a FAULT_DETECTED posted in `s`, whatever else is posted or set, one of the next 24
iterations ends in `fault` or `emergencyStop`. -/
def VcuLogic.FaultNotSwallowed (s : VcuLogic) : Prop :=
  ∀ m : Nat → Between,
    ∃ n < 24, ((s.postEvent .faultDetected).afterRuns m (n + 1)).state.isStopped = true

/-- The post has its effect: there is room for it, or one is waiting, or the next iteration is cut
short by an emergency stop, or it starts stopped and finds no RESET at the head of the queue. -/
def VcuLogic.FaultGetsThrough (s : VcuLogic) : Prop :=
  s.queue.length < eventQueueLength ∨ .faultDetected ∈ s.queue ∨ s.preempts = true ∨
    (s.state.isStopped = true ∧ s.queue.head? ≠ some .reset)

/-! ## What happens between iterations -/

theorem before_state (s : VcuLogic) (m : Between) : (s.before m).state = s.state := by
  rw [VcuLogic.before, exec_eq_withInputs s m.property]
  rfl

/-- Posts only append, so what is queued keeps its place. -/
theorem step_queue_extends (s : VcuLogic) {a : VcuAction} (ha : a ≠ .run) :
    ∃ rest, (s.step a).queue = s.queue ++ rest := by
  cases a with
  | run => exact absurd rfl ha
  | setTelemetryData d =>
      exact ⟨[], by rw [VcuLogic.step, setTelemetryData_queue, List.append_nil]⟩
  | postEvent event =>
      rcases postEvent_queue s event with h | ⟨_, _, h⟩
      · exact ⟨[], by rw [VcuLogic.step, h, List.append_nil]⟩
      · exact ⟨[event], h⟩

theorem exec_queue_extends (s : VcuLogic) {as : List VcuAction} (h : ∀ a ∈ as, a ≠ .run) :
    ∃ rest, (exec VcuLogic.step s as).queue = s.queue ++ rest := by
  induction as generalizing s with
  | nil => exact ⟨[], (List.append_nil _).symm⟩
  | cons a as ih =>
      rw [List.forall_mem_cons] at h
      obtain ⟨rest₁, h₁⟩ := step_queue_extends s h.1
      obtain ⟨rest₂, h₂⟩ := ih (s.step a) h.2
      refine ⟨rest₁ ++ rest₂, ?_⟩
      rw [exec_cons, h₂, h₁, List.append_assoc]

theorem before_queue_extends (s : VcuLogic) (m : Between) :
    ∃ rest, (s.before m).queue = s.queue ++ rest :=
  exec_queue_extends s m.property

theorem step_eStopPending (s : VcuLogic) {a : VcuAction} (ha : a ≠ .run)
    (h : s.eStopPending = true) : (s.step a).eStopPending = true := by
  cases a with
  | run => exact absurd rfl ha
  | setTelemetryData d =>
      rw [VcuLogic.step]
      rcases setTelemetryData_cases s d with hs | ⟨_, hs⟩ <;> rw [hs] <;> exact h
  | postEvent event =>
      rw [VcuLogic.step]
      rcases postEvent_cases s event with hs | ⟨_, hs⟩ | ⟨_, _, _, _, hs⟩
      · rw [hs]
        exact h
      · rw [hs]
      · rw [hs]
        exact h

/-- Only an iteration takes the emergency-stop flag down. -/
theorem before_eStopPending (s : VcuLogic) (m : Between) (h : s.eStopPending = true) :
    (s.before m).eStopPending = true := by
  obtain ⟨as, has⟩ := m
  show (exec VcuLogic.step s as).eStopPending = true
  exact exec_invariant_of_forall (I := fun s => s.eStopPending = true)
    (fun s a ha hs => step_eStopPending s ha hs) h has

theorem before_preempts {s : VcuLogic} (m : Between) (h : s.preempts = true) :
    (s.before m).preempts = true := by
  unfold VcuLogic.preempts at h ⊢
  rw [Bool.and_eq_true] at h
  rw [before_state, before_eStopPending s m h.1, h.2]
  rfl

theorem run_isStopped_of_preempts {s : VcuLogic} (h : s.preempts = true) :
    s.run.state.isStopped = true := by
  rw [run_of_preempts h, transitionTo_state]
  rfl

/-! ## A queued fault is served -/

/-- One iteration either stops the VCU or takes the head of the queue. -/
theorem run_isStopped_or_polls (s : VcuLogic) :
    s.run.state.isStopped = true ∨ (s.polls = true ∧ s.run.queue = s.queue.tail) := by
  rcases run_trichotomy s with h | ⟨hp, ht⟩ | h
  · exact Or.inl (run_isStopped_of_preempts h)
  · left
    rw [run_of_trips hp ht, transitionTo_state]
    rfl
  · right
    exact ⟨h, by rw [run_queue, if_pos h]⟩

theorem run_state_of_head {s : VcuLogic} {event : VcuEvent} (hp : s.polls = true)
    (hq : s.queue.head? = some event) : s.run.state = s.state.after s.telLatestData event := by
  have hcut := polls_iff.mp hp
  rw [run_state, VcuLogic.nextState, if_neg (by simp [hcut.1]), if_neg (by simp [hcut.2]),
    VcuLogic.consumes, if_pos hp, hq]
  rfl

/-- **A fault with `k` events before it** is served by the `k + 1`-st iteration, if none before it
has stopped the VCU. -/
theorem stopped_of_queued_fault (k : Nat) (s : VcuLogic) (m : Nat → Between)
    {ahead behind : List VcuEvent} (hq : s.queue = ahead ++ .faultDetected :: behind)
    (hk : ahead.length = k) : ∃ n ≤ k, (s.afterRuns m (n + 1)).state.isStopped = true := by
  induction k generalizing s m ahead behind with
  | zero =>
      refine ⟨0, Nat.le_refl 0, ?_⟩
      obtain ⟨rest, hrest⟩ := before_queue_extends s (m 0)
      rw [afterRuns_succ]
      show ((s.before (m 0)).run).state.isStopped = true
      rcases run_isStopped_or_polls (s.before (m 0)) with h | ⟨hp, _⟩
      · exact h
      · -- nothing is ahead of it
        have hhead : (s.before (m 0)).queue.head? = some .faultDetected := by
          rw [hrest, hq, List.length_eq_zero_iff.mp hk]
          rfl
        rw [run_state_of_head hp hhead]
        rfl
  | succ k ih =>
      obtain ⟨rest, hrest⟩ := before_queue_extends s (m 0)
      rcases run_isStopped_or_polls (s.before (m 0)) with h | ⟨_, htail⟩
      · exact ⟨0, Nat.zero_le _, h⟩
      · -- one event fewer is ahead of it
        cases ahead with
        | nil => simp at hk
        | cons event ahead =>
            have hqueue : (s.before (m 0)).run.queue =
                ahead ++ .faultDetected :: (behind ++ rest) := by
              rw [htail, hrest, hq]
              simp
            obtain ⟨n, hn, hstop⟩ := ih (s.before (m 0)).run (fun i => m (i + 1)) hqueue
              (by simpa using hk)
            refine ⟨n + 1, Nat.succ_le_succ hn, ?_⟩
            rw [afterRuns_succ]
            exact hstop

/-- The queue never holds more than eight events. -/
theorem step_queue_length (s : VcuLogic) (a : VcuAction)
    (h : s.queue.length ≤ eventQueueLength) : (s.step a).queue.length ≤ eventQueueLength := by
  cases a with
  | run =>
      rw [VcuLogic.step, run_queue]
      split
      · rw [List.length_tail]
        omega
      · exact h
  | setTelemetryData d =>
      rw [VcuLogic.step, setTelemetryData_queue]
      exact h
  | postEvent event =>
      rw [VcuLogic.step]
      rcases postEvent_queue s event with hq | ⟨_, hlt, hq⟩
      · rw [hq]
        exact h
      · rw [hq, List.length_append, List.length_singleton]
        exact hlt

theorem VcuLogic.Reachable.queue_length {s : VcuLogic} (h : s.Reachable) :
    s.queue.length ≤ eventQueueLength :=
  h.invariant (by decide) step_queue_length

/-- The post with room in the queue, and with none. -/
theorem postFault_queue {s : VcuLogic} (h : s.Wired) :
    (s.postEvent .faultDetected).queue =
      if s.queue.length < eventQueueLength then s.queue ++ [.faultDetected] else s.queue := by
  obtain ⟨queue, hq⟩ := Option.isSome_iff_exists.mp h.1
  have hs : s.queue = queue := by rw [VcuLogic.queue, hq, Option.getD_some]
  rw [VcuLogic.postEvent, hq]
  simp only [reduceCtorEq, if_false]
  rw [hs]
  split
  · rfl
  · exact hs

/-- The post touches the queue only. -/
theorem postFault_frame (s : VcuLogic) :
    (s.postEvent .faultDetected).state = s.state ∧
      (s.postEvent .faultDetected).eStopPending = s.eStopPending ∧
      (s.postEvent .faultDetected).telDataMutex = s.telDataMutex := by
  rcases postEvent_cases s .faultDetected with h | ⟨he, _⟩ | ⟨_, _, _, _, h⟩
  · rw [h]
    exact ⟨rfl, rfl, rfl⟩
  · cases he
  · rw [h]
    exact ⟨rfl, rfl, rfl⟩

/-- A stopped VCU that serves anything but a RESET is stopped after the iteration. -/
theorem run_isStopped_of_head {s : VcuLogic} (hs : s.state.isStopped = true)
    {event : VcuEvent} (hq : s.queue.head? = some event) (he : event ≠ .reset) :
    s.run.state.isStopped = true := by
  rcases run_isStopped_or_polls s with h | ⟨hp, _⟩
  · exact h
  · rw [run_state_of_head hp hq]
    exact after_isStopped hs he

/-- A fault among at most eight waiting events is served within eight iterations. -/
theorem stopped_of_mem_queue {s : VcuLogic} (m : Nat → Between)
    (hlen : s.queue.length ≤ eventQueueLength) (hmem : .faultDetected ∈ s.queue) :
    ∃ n < 24, (s.afterRuns m (n + 1)).state.isStopped = true := by
  obtain ⟨ahead, behind, hq⟩ := List.append_of_mem hmem
  obtain ⟨n, hn, hstop⟩ := stopped_of_queued_fault ahead.length s m hq rfl
  refine ⟨n, ?_, hstop⟩
  rw [hq, List.length_append, List.length_cons, eventQueueLength] at hlen
  omega

theorem faultNotSwallowed_of_getsThrough {s : VcuLogic} (hw : s.Wired)
    (hlen : s.queue.length ≤ eventQueueLength) (h : s.FaultGetsThrough) : s.FaultNotSwallowed := by
  intro m
  by_cases hroom : s.queue.length < eventQueueLength
  · refine stopped_of_mem_queue m ?_ ?_
    · rw [postFault_queue hw, if_pos hroom, List.length_append, List.length_singleton]
      exact hroom
    · rw [postFault_queue hw, if_pos hroom]
      simp
  · have hqueue : (s.postEvent .faultDetected).queue = s.queue := by
      rw [postFault_queue hw, if_neg hroom]
    obtain ⟨hstate, hpending, _⟩ := postFault_frame s
    rcases h with hlt | hmem | hp | ⟨hs, hhead⟩
    · exact absurd hlt hroom
    · refine stopped_of_mem_queue m ?_ ?_
      · rw [hqueue]
        exact hlen
      · rw [hqueue]
        exact hmem
    · have hp' : (s.postEvent .faultDetected).preempts = true := by
        rw [VcuLogic.preempts, hstate, hpending]
        exact hp
      exact ⟨0, by decide, run_isStopped_of_preempts (before_preempts (m 0) hp')⟩
    · refine ⟨0, by decide, ?_⟩
      obtain ⟨rest, hrest⟩ := before_queue_extends (s.postEvent .faultDetected) (m 0)
      -- the queue is full, so what the iteration finds at its head was there before
      cases hq : s.queue with
      | nil =>
          rw [hq] at hroom
          exact absurd (by decide) hroom
      | cons event queue =>
          show ((s.postEvent .faultDetected).before (m 0)).run.state.isStopped = true
          refine run_isStopped_of_head (?_ : _) (?_ : _ = some event) ?_
          · rw [before_state, hstate]
            exact hs
          · rw [hrest, hqueue, hq]
            rfl
          · rintro rfl
            exact hhead (by rw [hq]; rfl)

/-! ## A dropped fault is gone -/

/-- Nothing that could stop the VCU is left: clean telemetry, no stop pending, and no event in the
queue that would stop it. -/
structure VcuLogic.Unaware (s : VcuLogic) : Prop where
  running : s.state.isStopped = false
  notPending : s.eStopPending = false
  clean : s.telLatestData = .zero
  noFault : .faultDetected ∉ s.queue
  noStop : .emergencyStop ∉ s.queue

/-- Telemetry that has never been set is not critical in any state. -/
theorem hasCriticalCondition_zero (st : VcuState) : hasCriticalCondition .zero st = false := by
  cases st <;> decide

theorem isResetInterlockSatisfied_zero (st : VcuState) :
    isResetInterlockSatisfied .zero st = true := by
  cases st <;> decide

theorem after_not_isStopped {st : VcuState} {event : VcuEvent}
    (hst : st.isStopped = false ∨ event = .reset) (hf : event ≠ .faultDetected)
    (he : event ≠ .emergencyStop) : (st.after .zero event).isStopped = false := by
  have hi := isResetInterlockSatisfied_zero
  cases event <;> cases st <;> simp_all [VcuState.after, VcuState.isStopped]

/-- On clean telemetry and with no stop pending an iteration gets to the queue. -/
theorem polls_of_clean {s : VcuLogic} (hp : s.preempts = false) (hd : s.telLatestData = .zero) :
    s.polls = true := by
  refine polls_iff.mpr ⟨hp, ?_⟩
  rw [VcuLogic.trips, hd, hasCriticalCondition_zero, Bool.and_false]

/-- The iteration serves a harmless event, or none. -/
theorem run_unaware {s : VcuLogic} (hp : s.preempts = false) (hd : s.telLatestData = .zero)
    (hf : .faultDetected ∉ s.queue) (he : .emergencyStop ∉ s.queue)
    (hs : s.state.isStopped = false ∨ s.queue.head? = some .reset) : s.run.Unaware := by
  have hpolls := polls_of_clean hp hd
  have hqueue : s.run.queue = s.queue.tail := by rw [run_queue, if_pos hpolls]
  refine ⟨?_, run_eStopPending s, by rw [run_telLatestData, hd], ?_, ?_⟩
  · -- the head decides: nothing, or an event that enters no stop and leaves one if it is a RESET
    cases hq : s.queue.head? with
    | none =>
        have hrun : s.state.isStopped = false := by
          rcases hs with h | h
          · exact h
          · rw [hq] at h
            cases h
        have hcut := polls_iff.mp hpolls
        rw [run_state, VcuLogic.nextState, if_neg (by simp [hcut.1]), if_neg (by simp [hcut.2]),
          VcuLogic.consumes, if_pos hpolls, hq]
        exact hrun
    | some event =>
        have hmem : event ∈ s.queue := List.mem_of_head? hq
        rw [run_state_of_head hpolls hq, hd]
        refine after_not_isStopped ?_ ?_ ?_
        · rcases hs with h | h
          · exact Or.inl h
          · rw [hq] at h
            exact Or.inr (Option.some.inj h)
        · rintro rfl
          exact hf hmem
        · rintro rfl
          exact he hmem
  · rw [hqueue]
    intro hmem
    exact hf (List.mem_of_mem_tail hmem)
  · rw [hqueue]
    intro hmem
    exact he (List.mem_of_mem_tail hmem)

theorem VcuLogic.Unaware.run {s : VcuLogic} (h : s.Unaware) : s.run.Unaware := by
  refine run_unaware ?_ h.clean h.noFault h.noStop (Or.inl h.running)
  rw [VcuLogic.preempts, h.notPending, Bool.false_and]

/-- Clean telemetry before the first iteration, nothing more after it. -/
def cleanOnce : Nat → Between
  | 0 => ⟨[.setTelemetryData .zero], by simp⟩
  | _ + 1 => ⟨[], by simp⟩

theorem afterRuns_unaware {s : VcuLogic} (n : Nat) (h : (s.before (cleanOnce 0)).run.Unaware) :
    (s.afterRuns cleanOnce (n + 1)).Unaware := by
  induction n with
  | zero => exact h
  | succ n ih => exact ih.run

/-- Without room, without a fault in the queue and without a stop at hand, the post is lost. -/
theorem swallowed_of_not_getsThrough {s : VcuLogic} (hw : s.Wired)
    (hstop : .emergencyStop ∉ s.queue) (h : ¬ s.FaultGetsThrough) : ¬ s.FaultNotSwallowed := by
  simp only [VcuLogic.FaultGetsThrough, not_or, not_and, ne_eq, not_not] at h
  obtain ⟨hfull, hmem, hp, hhead⟩ := h
  intro hnot
  -- the telemetry is clean before the next iteration and nothing else happens any more
  obtain ⟨n, _, hn⟩ := hnot cleanOnce
  have hqueue : (s.postEvent .faultDetected).queue = s.queue := by
    rw [postFault_queue hw, if_neg hfull]
  obtain ⟨hstate, hpending, hmutex⟩ := postFault_frame s
  have hset : (s.postEvent .faultDetected).before (cleanOnce 0) =
      { s.postEvent .faultDetected with telLatestData := .zero } := by
    show (s.postEvent .faultDetected).setTelemetryData .zero = _
    exact if_pos (hmutex.trans hw.2)
  have hqueue' : ((s.postEvent .faultDetected).before (cleanOnce 0)).queue = s.queue := by
    rw [hset]
    exact hqueue
  have hunaware : ((s.postEvent .faultDetected).before (cleanOnce 0)).run.Unaware := by
    refine run_unaware ?_ ?_ ?_ ?_ ?_
    · rw [hset]
      show ((s.postEvent .faultDetected).eStopPending &&
        (s.postEvent .faultDetected).state != .emergencyStop) = false
      rw [hpending, hstate]
      simpa [VcuLogic.preempts] using hp
    · rw [hset]
    · rw [hqueue']
      exact hmem
    · rw [hqueue']
      exact hstop
    · rw [before_state, hstate, hqueue']
      cases hs : s.state.isStopped with
      | false => exact Or.inl rfl
      | true => exact Or.inr (hhead hs)
  have hrunning := (afterRuns_unaware n hunaware).running
  rw [hn] at hrunning
  exact absurd hrunning (by decide)

/-! ## The exact condition -/

/-- **A detected fault is not swallowed exactly when it gets through.** For every reachable state.
-/
theorem faultGetsThrough_iff {s : VcuLogic} (h : s.Reachable) :
    s.FaultNotSwallowed ↔ s.FaultGetsThrough := by
  constructor
  · intro hnot
    by_contra hc
    exact swallowed_of_not_getsThrough h.wired h.noEmergencyStop hc hnot
  · intro hthrough
    exact faultNotSwallowed_of_getsThrough h.wired h.queue_length hthrough

/-- A queue filled with DRIVE_ENABLE in `idle`. -/
def queueFilled : List VcuAction := List.replicate 8 (.postEvent .driveEnable)

/-- The full queue swallows the fault: 24 iterations later, and in each of them, nothing has
stopped. -/
theorem full_queue_swallows_fault :
    ¬ ∀ s : VcuLogic, s.Reachable → s.FaultNotSwallowed := by
  intro h
  have hreach : (exec VcuLogic.step .booted queueFilled).Reachable := ⟨queueFilled, rfl⟩
  refine swallowed_of_not_getsThrough hreach.wired hreach.noEmergencyStop ?_ (h _ hreach)
  rintro (hlt | hmem | hp | ⟨hs, _⟩)
  · exact absurd hlt (by decide)
  · exact absurd hmem (by decide)
  · exact absurd hp (by decide)
  · exact absurd hs (by decide)

/-- After boot there is room. -/
theorem faultGetsThrough_booted : VcuLogic.booted.FaultNotSwallowed :=
  (faultGetsThrough_iff ⟨[], rfl⟩).mpr (Or.inl (by decide))

end TfnAks.Vcu
