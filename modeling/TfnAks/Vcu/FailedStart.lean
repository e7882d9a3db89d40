/-
# TfnAks.Vcu.FailedStart — the VCU after an `init` that gave up

`init` returns early when the queue or the mutex cannot be created, and `app_main` starts the tasks
all the same. Without a queue nothing can be posted and the VCU stays in `init`. With a queue but no
mutex the snapshot stays at its zero-initialised value, on which the reset interlock is satisfied,
and events are served: FAULT_DETECTED leads from `init` to `fault`, RESET from there to `idle`,
START_REQUEST to `ready`, where the contactors close.
-/
import TfnAks.Vcu.ContactorClosing

namespace TfnAks.Vcu

open TfnAks.Lib.Runs TfnAks.Relay

/-- The VCU after `init()`, the driver having begun before. -/
def VcuLogic.started (queueCreated mutexCreated : Bool) : VcuLogic :=
  (VcuLogic.powerOn (RelayManager.powerOn.begin true true).2.1).init queueCreated mutexCreated

/-- The vehicle is not under way and no contactor was ever asked to close. -/
def VcuLogic.StaysDown (s : VcuLogic) : Prop :=
  s.state ≠ .ready ∧ s.state ≠ .drive ∧ .allOn ∉ s.relayCalls

/-- The condition on a step: no iteration takes a START_REQUEST from the queue in `idle`. -/
def VcuLogic.StartsNothing (s : VcuLogic) (a : VcuAction) : Prop :=
  a = .run → s.startsReady = false

/-! ## One step -/

theorem isLive_eq_false_iff (st : VcuState) : st.isLive = false ↔ st ≠ .ready ∧ st ≠ .drive := by
  cases st <;> simp [VcuState.isLive]

/-- An iteration that starts down ends down unless it starts the vehicle. -/
theorem run_staysDown_iff {s : VcuLogic} (h : s.StaysDown) :
    s.run.StaysDown ↔ s.startsReady = false := by
  obtain ⟨hready, hdrive, hcalls⟩ := h
  have hdown : s.state.isLive = false := (isLive_eq_false_iff _).mpr ⟨hready, hdrive⟩
  have hstay : s.staysLive = false := by simp [VcuLogic.staysLive, hdown]
  have hlive : s.run.state.isLive = s.startsReady := by
    have hiff := run_isLive_iff s
    rw [hstay] at hiff
    cases hs : s.startsReady <;> simpa [hs] using hiff
  constructor
  · rintro ⟨hr, hd, _⟩
    rw [← hlive]
    exact (isLive_eq_false_iff _).mpr ⟨hr, hd⟩
  · intro hs
    rw [hs] at hlive
    obtain ⟨hr, hd⟩ := (isLive_eq_false_iff _).mp hlive
    refine ⟨hr, hd, ?_⟩
    rw [run_relayCalls, List.mem_append]
    rintro (hmem | hmem)
    · exact hcalls hmem
    · -- `allOn` is only called on the way into `ready`
      rw [run_state] at hr
      rcases runCall_cases s with hc | ⟨silent, hc, _⟩ | ⟨_, hn⟩
      · simp [hc] at hmem
      · simp [hc] at hmem
      · exact hr hn

theorem step_staysDown_iff (s : VcuLogic) (a : VcuAction) (h : s.StaysDown) :
    (s.step a).StaysDown ↔ s.StartsNothing a := by
  by_cases ha : a = .run
  · subst ha
    rw [VcuLogic.step, run_staysDown_iff h]
    simp [VcuLogic.StartsNothing]
  · refine iff_of_true ?_ fun hrun => absurd hrun ha
    rw [step_eq_withInputs s ha]
    exact h

theorem started_staysDown {queueCreated mutexCreated : Bool}
    (h : queueCreated = false ∨ mutexCreated = false) :
    (VcuLogic.started queueCreated mutexCreated).StaysDown := by
  unfold VcuLogic.StaysDown
  rcases h with rfl | rfl
  · cases mutexCreated <;> decide
  · cases queueCreated <;> decide

/-! ## Without a queue -/

theorem step_noQueue (s : VcuLogic) (a : VcuAction) (h : s.eventQueue = none) :
    (s.step a).eventQueue = none := by
  cases a with
  | run =>
      rw [VcuLogic.step, run_eventQueue, h]
      split <;> rfl
  | postEvent event =>
      rw [VcuLogic.step]
      rcases postEvent_cases s event with hs | ⟨_, hs⟩ | ⟨_, queue, hq, _⟩
      · rw [hs]
        exact h
      · rw [hs]
        exact h
      · rw [h] at hq
        exact absurd hq (by simp)
  | setTelemetryData d =>
      rw [VcuLogic.step]
      rcases setTelemetryData_cases s d with hs | ⟨_, hs⟩ <;> rw [hs] <;> exact h

theorem exec_noQueue {s : VcuLogic} (h : s.eventQueue = none) (as : List VcuAction) :
    (exec VcuLogic.step s as).eventQueue = none := by
  induction as generalizing s with
  | nil => exact h
  | cons a as ih => exact ih (step_noQueue s a h)

theorem startsNothing_of_noQueue {s : VcuLogic} (a : VcuAction) (h : s.eventQueue = none) :
    s.StartsNothing a := by
  intro _
  simp [VcuLogic.startsReady, VcuLogic.queue, h]

/-! ## The exact condition -/

/-- With a queue and no mutex: from `init` by `fault` and `idle` into `ready`. -/
def faultResetStart : List VcuAction :=
  [.postEvent .faultDetected, .run, .postEvent .reset, .run, .postEvent .startRequest, .run]

theorem faultResetStart_starts :
    (exec VcuLogic.step (VcuLogic.started true false) faultResetStart).state = .ready ∧
      .allOn ∈ (exec VcuLogic.step (VcuLogic.started true false) faultResetStart).relayCalls := by
  decide

/-- **A failed start is safe exactly without a queue.** After an `init` that returned early, every
history leaves the vehicle down if and only if it was the queue that could not be created; and in
each history the vehicle stays down if and only if no START_REQUEST is served in `idle`. -/
theorem failed_start_staysDown_iff {queueCreated mutexCreated : Bool}
    (h : queueCreated = false ∨ mutexCreated = false) :
    ((∀ history, Always VcuLogic.step (.started queueCreated mutexCreated) history
        VcuLogic.StaysDown) ↔ queueCreated = false) ∧
      ∀ history,
        Always VcuLogic.step (.started queueCreated mutexCreated) history VcuLogic.StaysDown ↔
          Before VcuLogic.step (.started queueCreated mutexCreated) history
            VcuLogic.StartsNothing := by
  have hexact : ∀ history,
      Always VcuLogic.step (.started queueCreated mutexCreated) history VcuLogic.StaysDown ↔
        Before VcuLogic.step (.started queueCreated mutexCreated) history
          VcuLogic.StartsNothing := by
    intro history
    exact always_iff_before (I := fun _ => True) (fun _ _ _ => trivial)
      (fun s a _ hs => step_staysDown_iff s a hs) trivial (started_staysDown h) history
  refine ⟨⟨?_, ?_⟩, hexact⟩
  · -- with the queue alone, a fault, a RESET and a START close the contactors
    intro hall
    by_contra hq
    rw [Bool.not_eq_false] at hq
    obtain rfl : mutexCreated = false := h.resolve_left (by simp [hq])
    subst hq
    have hlast := hall faultResetStart faultResetStart (List.prefix_refl _)
    exact hlast.1 faultResetStart_starts.1
  · rintro rfl history
    rw [hexact]
    intro pre a post _
    have hnone : (VcuLogic.started false mutexCreated).eventQueue = none := rfl
    exact startsNothing_of_noQueue a (exec_noQueue hnone pre)

/-- The mutex could not be created, and the contactors close all the same. -/
theorem failed_start_closes :
    ¬ ∀ queueCreated mutexCreated : Bool, queueCreated = false ∨ mutexCreated = false →
      ∀ history, Always VcuLogic.step (.started queueCreated mutexCreated) history
        VcuLogic.StaysDown := by
  intro h
  have hdown := h true false (Or.inr rfl) faultResetStart faultResetStart (List.prefix_refl _)
  exact hdown.1 faultResetStart_starts.1

/-- Without a queue, at the same history. -/
theorem failed_start_without_queue :
    Always VcuLogic.step (.started false false) faultResetStart VcuLogic.StaysDown :=
  (failed_start_staysDown_iff (Or.inl rfl)).1.mpr rfl faultResetStart

end TfnAks.Vcu
