/-
# TfnAks.Vcu.EmergencyStop — what an emergency stop can be undone by

`postEvent(EMERGENCY_STOP)` raises a flag that `run` honours before it looks at the queue, so a full
queue cannot swallow the stop. What was queued before the stop is still there after it, and `run`
goes on serving it from `emergencyStop`: most events are ignored in that state, a RESET is not.

`eStopLatched_iff`: an emergency stop holds until a RESET is posted after it exactly when no RESET
was waiting in the queue when it was posted.
-/
import TfnAks.Vcu.Iteration

namespace TfnAks.Vcu

open TfnAks.Lib.Runs

/-- An emergency stop posted in `s` holds: without a RESET posted after it, every later iteration
ends in `emergencyStop` or `fault`. -/
def VcuLogic.EStopLatched (s : VcuLogic) : Prop :=
  ∀ later : List VcuAction, (∀ a ∈ later, a ≠ .postEvent .reset) →
    (exec VcuLogic.step (s.postEvent .emergencyStop) (later ++ [.run])).state.isStopped = true

/-! ## Without a queued RESET -/

/-- The stop is either pending or in force, and nothing in the queue could end it. -/
structure VcuLogic.StopHeld (s : VcuLogic) : Prop where
  noReset : .reset ∉ s.queue
  held : s.eStopPending = true ∨ s.state.isStopped = true

theorem after_isStopped {d : TelemetryData} {st : VcuState} {event : VcuEvent}
    (hs : st.isStopped = true) (he : event ≠ .reset) : (st.after d event).isStopped = true := by
  cases event <;> cases st <;> simp_all [VcuState.after, VcuState.isStopped]

theorem trips_of_isStopped {s : VcuLogic} (h : s.state.isStopped = true) : s.trips = false := by
  unfold VcuLogic.trips
  cases hs : s.state <;> simp_all [VcuState.isStopped, VcuState.isMonitored]

theorem VcuLogic.StopHeld.run_isStopped {s : VcuLogic} (h : s.StopHeld) : s.run.state.isStopped = true := by
  rw [run_state, VcuLogic.nextState]
  split
  · rfl
  · rename_i hp
    -- a pending stop that does not cut the iteration short finds `emergencyStop` in force
    have hstop : s.state.isStopped = true := by
      rcases h.held with hpend | hs
      · have hst : s.state = .emergencyStop := by simpa [VcuLogic.preempts, hpend] using hp
        rw [hst]
        rfl
      · exact hs
    rw [if_neg (by simp [trips_of_isStopped hstop])]
    cases hc : s.consumes with
    | none => exact hstop
    | some event =>
        refine after_isStopped hstop ?_
        rintro rfl
        apply h.noReset
        rw [VcuLogic.consumes] at hc
        split at hc
        · exact List.mem_of_head? hc
        · simp at hc

theorem VcuLogic.StopHeld.step_keeps {s : VcuLogic} (h : s.StopHeld) {a : VcuAction}
    (ha : a ≠ .postEvent .reset) : (s.step a).StopHeld := by
  cases a with
  | run =>
      refine ⟨?_, Or.inr h.run_isStopped⟩
      show .reset ∉ s.run.queue
      -- an iteration only takes from the queue
      rw [run_queue]
      split
      · exact fun hmem => h.noReset (List.mem_of_mem_tail hmem)
      · exact h.noReset
  | setTelemetryData d =>
      rw [VcuLogic.step]
      rcases setTelemetryData_cases s d with hs | ⟨_, hs⟩
      · rw [hs]
        exact h
      · rw [hs]
        exact ⟨h.noReset, h.held⟩
  | postEvent event =>
      constructor
      · have he : event ≠ .reset := fun he => ha (by rw [he])
        rcases postEvent_queue s event with hq | ⟨_, _, hq⟩
        · rw [VcuLogic.step, hq]
          exact h.noReset
        · rw [VcuLogic.step, hq]
          simp [h.noReset, he.symm]
      · rw [VcuLogic.step]
        rcases postEvent_cases s event with hs | ⟨_, hs⟩ | ⟨_, _, _, _, hs⟩
        · rw [hs]
          exact h.held
        · rw [hs]
          exact Or.inl rfl
        · rw [hs]
          exact h.held

/-! ## With a queued RESET -/

/-- With clean telemetry and no stop pending, serving the queue from a stopped state gets to the
RESET in it and leaves for `idle`. Induction on the queue, one iteration for each event. -/
theorem drain_to_idle (queue : List VcuEvent) :
    ∀ s : VcuLogic, s.queue = queue → .reset ∈ queue → s.state.isStopped = true →
      s.eStopPending = false → s.telLatestData = .zero →
      ∃ n, (exec VcuLogic.step s (List.replicate (n + 1) .run)).state = .idle := by
  induction queue with
  | nil =>
      intro s _ hmem
      simp at hmem
  | cons event rest ih =>
      intro s hq hmem hs hpend htel
      have htrips := trips_of_isStopped hs
      have hpre : s.preempts = false := by simp [VcuLogic.preempts, hpend]
      have hpolls : s.polls = true := polls_iff.mpr ⟨hpre, htrips⟩
      have hnext : s.run.state = s.state.after .zero event := by
        rw [run_state, VcuLogic.nextState, if_neg (by simp [hpre]), if_neg (by simp [htrips]),
          VcuLogic.consumes, if_pos hpolls, hq, htel]
        rfl
      by_cases he : event = .reset
      · -- zero telemetry satisfies the interlock in both stopped states
        refine ⟨0, ?_⟩
        show s.run.state = .idle
        rw [hnext, he]
        cases hst : s.state with
        | emergencyStop => decide
        | fault => decide
        | _ => simp [hst, VcuState.isStopped] at hs
      · -- any other head keeps the stop, and the RESET moves up by one
        have hrest : .reset ∈ rest := by
          rcases List.mem_cons.mp hmem with h | h
          · exact absurd h.symm he
          · exact h
        obtain ⟨n, hn⟩ := ih s.run (by rw [run_queue, if_pos hpolls, hq]; rfl) hrest
          (by rw [hnext]; exact after_isStopped hs he) (run_eStopPending s)
          (by rw [run_telLatestData, htel])
        refine ⟨n + 1, ?_⟩
        rw [List.replicate_succ, exec_cons]
        exact hn

/-- The first iteration after an emergency stop ends in `emergencyStop` or `fault`, or takes the
first event of the queue. -/
theorem not_latched_of_reset_queued {s : VcuLogic} (hw : s.Wired) (hq : .reset ∈ s.queue) :
    ∃ n, (exec VcuLogic.step ((s.postEvent .emergencyStop).setTelemetryData .zero)
      (List.replicate (n + 1) .run)).state = .idle := by
  have hw' : (s.postEvent .emergencyStop).Wired := step_wired s (.postEvent .emergencyStop) hw
  set t := (s.postEvent .emergencyStop).setTelemetryData .zero with ht
  have hteq : t = { s with eStopPending := true, telLatestData := .zero } := by
    rw [ht, setTelemetryData_of_wired hw', postEmergencyStop_of_wired hw]
  by_cases hst : s.state = .emergencyStop
  · -- the flag is cleared and the queue is served in the same iteration
    have hfirst : t.run = { t with eStopPending := false }.run := by
      simp [VcuLogic.run, hteq, hst]
    obtain ⟨n, hn⟩ := drain_to_idle s.queue { t with eStopPending := false } (by rw [hteq]; rfl) hq
      (by simp [hteq, hst, VcuState.isStopped]) rfl (by rw [hteq])
    refine ⟨n, ?_⟩
    rw [List.replicate_succ, exec_cons] at hn ⊢
    show (exec VcuLogic.step t.run _).state = .idle
    rw [hfirst]
    exact hn
  · -- the first iteration enters `emergencyStop` and leaves the queue for the next ones
    have hpre : t.preempts = true := by simp [VcuLogic.preempts, hteq, hst]
    have hpolls : t.polls = false := by simp [VcuLogic.polls, hpre]
    obtain ⟨n, hn⟩ := drain_to_idle s.queue t.run (by rw [run_queue, hpolls, hteq]; rfl) hq
      (by rw [run_of_preempts hpre, transitionTo_state]; rfl) (run_eStopPending t)
      (by rw [run_telLatestData, hteq])
    refine ⟨n + 1, ?_⟩
    rw [List.replicate_succ, exec_cons]
    exact hn

/-- **An emergency stop holds exactly when no RESET was queued before it.** For every reachable
state, whatever is posted after the stop except a RESET. -/
theorem eStopLatched_iff {s : VcuLogic} (h : s.Reachable) :
    s.EStopLatched ↔ .reset ∉ s.queue := by
  constructor
  · intro hlatched hq
    -- clean telemetry and enough iterations serve the queue up to its RESET
    obtain ⟨n, hn⟩ := not_latched_of_reset_queued h.wired hq
    have hstop := hlatched (.setTelemetryData .zero :: List.replicate n .run) (by
      intro a ha
      rcases List.mem_cons.mp ha with rfl | ha
      · exact VcuAction.noConfusion
      · rw [List.eq_of_mem_replicate ha]
        exact VcuAction.noConfusion)
    rw [List.cons_append, ← List.replicate_succ', exec_cons, VcuLogic.step, hn] at hstop
    exact absurd hstop (by decide)
  · intro hq later hlater
    have hposted : (s.postEvent .emergencyStop).StopHeld := by
      rw [postEmergencyStop_of_wired h.wired]
      exact ⟨hq, Or.inl rfl⟩
    have hstep : ∀ s a, a ≠ .postEvent .reset → VcuLogic.StopHeld s → (s.step a).StopHeld :=
      fun _ _ ha hs => hs.step_keeps ha
    have hheld := exec_invariant_of_forall hstep hposted hlater
    rw [exec_append]
    exact hheld.run_isStopped

/-- A RESET, then the emergency stop: `emergencyStop` lasts one iteration. -/
theorem queued_reset_undoes_emergencyStop :
    ¬ ∀ s : VcuLogic, s.Reachable → s.EStopLatched := by
  intro h
  have hlatched := h (exec VcuLogic.step .booted [.postEvent .reset]) ⟨_, rfl⟩ [.run] (by decide)
  exact absurd hlatched (by decide)

/-- The theorem at a state with a START_REQUEST queued. -/
theorem eStopLatched_with_start_queued :
    (exec VcuLogic.step .booted [.postEvent .startRequest]).EStopLatched :=
  (eStopLatched_iff ⟨_, rfl⟩).mpr (by decide)

end TfnAks.Vcu
