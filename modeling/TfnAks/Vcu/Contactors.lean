/-
# TfnAks.Vcu.Contactors — when the contactors are open

The relays are opened by the periodic handlers of `emergencyStop` and `fault`, once the timer of the
state has reached the opening delay. Everything in `run` that returns before the handler therefore
postpones the opening. `third_iteration_contactorsOpen_iff` says exactly how far this goes: after
three iterations in a row that end in `emergencyStop` or `fault`, the contactors are open if and
only if they were before or one of the three got as far as its handler with the delay elapsed.
-/
import TfnAks.Vcu.Iteration

namespace TfnAks.Vcu

open TfnAks.Lib.Runs TfnAks.Relay

/-! ## EMERGENCY_STOP and FAULT -/

/-- The iteration starts in `emergencyStop` or `fault`, gets as far as the handler of that state,
and the opening delay has elapsed there. -/
def VcuLogic.opens (s : VcuLogic) : Bool :=
  s.state.isStopped && s.reachesHandler && vcuContactorOpenDelayMs ≤ s.stateTimer + taskPeriodMs

/-- What the two `relaysOpened` flags are good for. -/
def VcuLogic.OpenedOpen (s : VcuLogic) : Prop :=
  s.opened = true → s.relays.ContactorsOpen

theorem openingCall_cases (timer : UInt32) (opened : Bool) (lastLogMs : UInt32) :
    openingCall timer opened lastLogMs = none ∨
      ∃ silent, openingCall timer opened lastLogMs = some (.allOff silent) := by
  unfold openingCall
  split_ifs
  · exact Or.inr ⟨false, rfl⟩
  · exact Or.inr ⟨true, rfl⟩
  · exact Or.inl rfl
  · exact Or.inl rfl

theorem openingCall_isSome_of_not_opened {timer : UInt32} (lastLogMs : UInt32)
    (h : vcuContactorOpenDelayMs ≤ timer) :
    openingCall timer false lastLogMs = some (.allOff false) := by
  simp [openingCall, h]

/-- Without a pending transition an iteration that gets to its handler keeps a stopped state. -/
theorem nextState_of_reachesHandler {s : VcuLogic} (hs : s.state.isStopped = true)
    (h : s.reachesHandler = true) : s.nextState = s.state := by
  rw [VcuLogic.reachesHandler, Bool.and_eq_true] at h
  have hcut := polls_iff.mp h.1
  rw [VcuLogic.nextState, if_neg (by simp [hcut.1]), if_neg (by simp [hcut.2])]
  cases hc : s.consumes with
  | none => rfl
  | some event =>
      have hends : event.endsIteration s.state = false := by simpa [hc] using h.2
      cases event <;> cases hst : s.state <;>
        simp_all [VcuState.after, VcuEvent.endsIteration, VcuState.isStopped]

/-- A stopped state is only kept, never entered, by an iteration that gets to its handler. -/
theorem isStopped_of_reachesHandler {s : VcuLogic} (h : s.reachesHandler = true)
    (hs : s.nextState.isStopped = true) : s.state.isStopped = true := by
  rw [VcuLogic.reachesHandler, Bool.and_eq_true] at h
  have hcut := polls_iff.mp h.1
  rw [VcuLogic.nextState, if_neg (by simp [hcut.1]), if_neg (by simp [hcut.2])] at hs
  cases hc : s.consumes with
  | none => simpa [hc] using hs
  | some event =>
      have hends : event.endsIteration s.state = false := by simpa [hc] using h.2
      cases event <;> cases hst : s.state <;>
        simp_all [VcuState.after, VcuEvent.endsIteration, VcuState.isStopped]

/-- In a stopped state the only relay calls are `allOff`. -/
theorem runCall_of_isStopped {s : VcuLogic} (hs : s.nextState.isStopped = true) :
    s.runCall = none ∨ ∃ silent, s.runCall = some (.allOff silent) := by
  unfold VcuLogic.runCall
  split
  · cases hn : s.nextState with
    | emergencyStop => exact openingCall_cases _ _ _
    | fault => exact openingCall_cases _ _ _
    | _ => simp [hn, VcuState.isStopped] at hs
  · exact Or.inl rfl

theorem afterCall_allOff_contactorsOpen (m : RelayManager) (silent : Bool) :
    (afterCall m (some (.allOff silent))).ContactorsOpen :=
  allOff_contactorsOpen silent m

/-- Once open, the contactors stay open as long as the iterations end in a stopped state. -/
theorem run_contactorsOpen_of_open {s : VcuLogic} (hs : s.nextState.isStopped = true)
    (h : s.relays.ContactorsOpen) : s.run.relays.ContactorsOpen := by
  rw [run_relays]
  rcases runCall_of_isStopped hs with hc | ⟨silent, hc⟩
  · rwa [hc]
  · rw [hc]
    exact afterCall_allOff_contactorsOpen _ _

/-- An iteration that opens leaves the contactors open: it calls `allOff` unless its state has
already done so. -/
theorem run_contactorsOpen_of_opens {s : VcuLogic} (hi : s.OpenedOpen) (h : s.opens = true) :
    s.run.relays.ContactorsOpen := by
  simp only [VcuLogic.opens, Bool.and_eq_true, decide_eq_true_eq] at h
  obtain ⟨⟨hs, hr⟩, ht⟩ := h
  have hnext := nextState_of_reachesHandler hs hr
  -- the flag of the state is up and vouches for the relays, or the handler calls `allOff` now
  cases ho : s.opened with
  | true => exact run_contactorsOpen_of_open (by rw [hnext]; exact hs) (hi ho)
  | false =>
      have hcall : s.runCall = some (.allOff false) := by
        rw [VcuLogic.runCall, if_pos hr, hnext]
        cases hst : s.state with
        | emergencyStop =>
            have hflag : s.relaysOpenedInEstop = false := by simpa [VcuLogic.opened, hst] using ho
            simp only [hflag]
            exact openingCall_isSome_of_not_opened _ ht
        | fault =>
            have hflag : s.relaysOpenedInFault = false := by simpa [VcuLogic.opened, hst] using ho
            simp only [hflag]
            exact openingCall_isSome_of_not_opened _ ht
        | _ => simp [hst, VcuState.isStopped] at hs
      rw [run_relays, hcall]
      exact afterCall_allOff_contactorsOpen _ _

/-- An iteration that ends in a stopped state without opening leaves the relays as they were. -/
theorem run_relays_of_not_opens {s : VcuLogic} (hs : s.nextState.isStopped = true)
    (h : s.opens = false) : s.run.relays = s.relays := by
  suffices hcall : s.runCall = none by rw [run_relays, hcall, afterCall_none]
  rw [VcuLogic.runCall]
  split
  · rename_i hr
    have hst := isStopped_of_reachesHandler hr hs
    have ht : ¬ vcuContactorOpenDelayMs ≤ s.stateTimer + taskPeriodMs := by
      simpa [VcuLogic.opens, hst, hr] using h
    cases hn : s.nextState <;> simp [openingCall, ht, hn, VcuState.isStopped] at hs ⊢
  · rfl

/-- One iteration of a window, exactly. -/
theorem run_contactorsOpen_iff {s : VcuLogic} (hi : s.OpenedOpen)
    (hs : s.nextState.isStopped = true) :
    s.run.relays.ContactorsOpen ↔ s.relays.ContactorsOpen ∨ s.opens = true := by
  constructor
  · intro h
    cases ho : s.opens with
    | true => exact Or.inr rfl
    | false =>
        rw [run_relays_of_not_opens hs ho] at h
        exact Or.inl h
  · rintro (h | h)
    · exact run_contactorsOpen_of_open hs h
    · exact run_contactorsOpen_of_opens hi h

theorem isStopped_of_opened {s : VcuLogic} (h : s.opened = true) : s.state.isStopped = true := by
  unfold VcuLogic.opened at h
  cases hst : s.state <;> simp_all [VcuState.isStopped]

theorem opened_of_handleStateEvent {s : VcuLogic} {event : VcuEvent}
    (h : (s.handleStateEvent event).opened = true) : s.opened = true := by
  unfold VcuLogic.handleStateEvent at h
  split at h
  · split at h
    · simp at h
    · exact h
  · split at h
    · simp at h
    · exact h
  · exact h

theorem opened_of_run_not_reachesHandler {s : VcuLogic} (hr : s.reachesHandler = false)
    (h : s.run.opened = true) : s.opened = true := by
  rcases run_trichotomy s with hp | ⟨hp, ht⟩ | hp
  · simp [run_of_preempts hp] at h
  · simp [run_of_trips hp ht] at h
  · simp only [VcuLogic.reachesHandler, hp, Bool.true_and] at hr
    rw [run_of_polls hp] at h
    cases hc : s.consumes with
    | none => simp [hc] at hr
    | some event =>
        simp only [hc, VcuLogic.handleEvent] at h
        have hends : event.endsIteration s.state = true := by simpa [hc] using hr
        split_ifs at h with h1 h2 h3 h4
        · simp at h
        · simp at h
        · exact h
        · simp at h
        · -- the remaining events do not end the iteration
          cases event <;> simp_all [VcuEvent.endsIteration]

/-- The `relaysOpened` flag of the current state is only ever up with the contactors open. -/
theorem run_openedOpen {s : VcuLogic} (hi : s.OpenedOpen) : s.run.OpenedOpen := by
  intro ho
  have hs : s.nextState.isStopped = true := by
    rw [← run_state]
    exact isStopped_of_opened ho
  rcases runCall_of_isStopped hs with hc | ⟨silent, hc⟩
  · -- without a call the flag was up before, and every transition would have dropped it
    have hwas : s.opened = true := by
      cases hr : s.reachesHandler with
      | false => exact opened_of_run_not_reachesHandler hr ho
      | true =>
          rw [run_of_reachesHandler hr, periodic_opened, beforeHandler_handlerCall hr, hc] at ho
          have hb : s.beforeHandler.opened = true := by simpa using ho
          unfold VcuLogic.beforeHandler at hb
          cases hcons : s.consumes with
          | none =>
              rw [hcons] at hb
              exact hb
          | some event =>
              rw [hcons] at hb
              exact opened_of_handleStateEvent (s := s.polled) hb
    rw [run_relays, hc]
    exact hi hwas
  · rw [run_relays, hc]
    exact afterCall_allOff_contactorsOpen _ _

theorem step_openedOpen (s : VcuLogic) (a : VcuAction) (hi : s.OpenedOpen) :
    (s.step a).OpenedOpen := by
  by_cases ha : a = .run
  · subst ha
    exact run_openedOpen hi
  · rw [step_eq_withInputs s ha]
    exact hi

theorem booted_openedOpen : VcuLogic.booted.OpenedOpen := by
  intro h
  exact absurd (isStopped_of_opened h) (by decide)

theorem VcuLogic.Reachable.openedOpen {s : VcuLogic} (h : s.Reachable) : s.OpenedOpen :=
  h.invariant booted_openedOpen step_openedOpen

/-- What goes on between two iterations: posts and telemetry updates, no `run`. -/
def Between : Type := {as : List VcuAction // ∀ a ∈ as, a ≠ .run}

/-- The state when the next iteration starts. -/
def VcuLogic.before (s : VcuLogic) (m : Between) : VcuLogic := exec VcuLogic.step s m.val

theorem before_openedOpen {s : VcuLogic} (m : Between) (h : s.OpenedOpen) :
    (s.before m).OpenedOpen := by
  rw [VcuLogic.before, exec_eq_withInputs s m.property]
  exact h

@[simp] theorem before_relays (s : VcuLogic) (m : Between) : (s.before m).relays = s.relays := by
  rw [VcuLogic.before, exec_eq_withInputs s m.property]
  rfl

/-- **Three iterations in a stopped state.** For every reachable state and everything that may
happen between the iterations: when all three end in `emergencyStop` or `fault`, the contactors are
open after the third exactly if they were open to begin with or one of the three opened them. -/
theorem third_iteration_contactorsOpen_iff {s₁ s₂ s₃ : VcuLogic} (hreach : s₁.Reachable)
    {m₁ m₂ : Between} (h₂ : s₂ = s₁.run.before m₁) (h₃ : s₃ = s₂.run.before m₂)
    (hs₁ : s₁.run.state.isStopped = true) (hs₂ : s₂.run.state.isStopped = true)
    (hs₃ : s₃.run.state.isStopped = true) :
    s₃.run.relays.ContactorsOpen ↔
      s₁.relays.ContactorsOpen ∨ s₁.opens = true ∨ s₂.opens = true ∨ s₃.opens = true := by
  have hi₁ := hreach.openedOpen
  have hi₂ : s₂.OpenedOpen := by
    rw [h₂]
    exact before_openedOpen m₁ (run_openedOpen hi₁)
  have hi₃ : s₃.OpenedOpen := by
    rw [h₃]
    exact before_openedOpen m₂ (run_openedOpen hi₂)
  rw [run_state] at hs₁ hs₂ hs₃
  have hr₂ : s₂.relays = s₁.run.relays := by rw [h₂, before_relays]
  have hr₃ : s₃.relays = s₂.run.relays := by rw [h₃, before_relays]
  rw [run_contactorsOpen_iff hi₃ hs₃, hr₃, run_contactorsOpen_iff hi₂ hs₂, hr₂,
    run_contactorsOpen_iff hi₁ hs₁, or_assoc, or_assoc]

/-- START with the next two iterations in READY, then three rounds of a FAULT_DETECTED and an
iteration. Each one re-enters `fault` and restarts its timer, and no handler runs in between. -/
def readyWithFaultPosted : List VcuAction :=
  [.postEvent .startRequest, .run, .run, .postEvent .faultDetected]

/-- A fault posted between two iterations. -/
def faultAgain : Between := ⟨[.postEvent .faultDetected], by decide⟩

/-- The three iterations end in `fault` with the contactors closed. -/
theorem repeated_faults_stay_closed :
    ¬ ∀ (s₁ s₂ s₃ : VcuLogic) (m₁ m₂ : Between), s₁.Reachable → s₂ = s₁.run.before m₁ →
      s₃ = s₂.run.before m₂ → s₁.run.state.isStopped = true → s₂.run.state.isStopped = true →
      s₃.run.state.isStopped = true → s₃.run.relays.ContactorsOpen := by
  intro h
  have hopen := h (exec VcuLogic.step .booted readyWithFaultPosted) _ _ faultAgain faultAgain
    ⟨readyWithFaultPosted, rfl⟩ rfl rfl (by decide) (by decide) (by decide)
  have hclosed := hopen 0
  exact absurd hclosed (by decide)

/-- The theorem at the same window with an iteration of the handler in it: `opens` is met. -/
theorem third_iteration_contactorsOpen_after_fault :
    ((((exec VcuLogic.step .booted readyWithFaultPosted).run.before ⟨[], by decide⟩).run.before
      ⟨[], by decide⟩).run).relays.ContactorsOpen := by
  refine (third_iteration_contactorsOpen_iff ⟨readyWithFaultPosted, rfl⟩ rfl rfl (by decide)
    (by decide) (by decide)).mpr ?_
  exact Or.inr (Or.inr (Or.inl (by decide)))

end TfnAks.Vcu
