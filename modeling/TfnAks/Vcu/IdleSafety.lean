/-
# TfnAks.Vcu.IdleSafety — when `idle` has open contactors

`handleIdle` does nothing: it trusts that the relays are off. They are opened by the handlers of
`emergencyStop` and `fault`, and a RESET that the interlock lets through before such a handler has
run leaves for `idle` with the relays as they are. So it depends on the history:
`contactorsOpen_iff` says that the contactors are open after it exactly if every iteration that
started the vehicle has been followed by one that opens them, and `idle_contactorsOpen_iff` that
`idle` is safe all along exactly if each accepted RESET comes after that.
-/
import TfnAks.Vcu.ContactorClosing

namespace TfnAks.Vcu

open TfnAks.Lib.Runs TfnAks.Relay

/-! ## One iteration -/

/-- In `idle` all relays are off, as `handleIdle` has it. -/
def VcuLogic.IdleOpen (s : VcuLogic) : Prop :=
  s.state = .idle → s.relays.ContactorsOpen

/-- The iteration takes a RESET from the queue in `fault` or `emergencyStop` and the interlock lets
it through. -/
def VcuLogic.acceptsReset (s : VcuLogic) : Bool :=
  s.polls && s.queue.head? == some .reset && s.state.isStopped &&
    isResetInterlockSatisfied s.telLatestData s.state

theorem after_eq_idle_iff (d : TelemetryData) (st : VcuState) (event : VcuEvent) :
    st.after d event = .idle ↔
      (event = .reset ∧ st.isStopped = true ∧ isResetInterlockSatisfied d st = true) ∨
        (st = .idle ∧ event ≠ .startRequest ∧ event ≠ .emergencyStop ∧ event ≠ .faultDetected) := by
  cases event <;> cases st <;> simp [VcuState.after, VcuState.isStopped]

/-- An iteration ends in `idle` by accepting a RESET, or starts there. -/
theorem nextState_idle {s : VcuLogic} (h : s.nextState = .idle) :
    s.acceptsReset = true ∨ s.state = .idle := by
  unfold VcuLogic.nextState at h
  rcases run_trichotomy s with hp | ⟨hp, ht⟩ | hp
  · rw [if_pos hp] at h
    exact absurd h (by decide)
  · rw [if_neg (by simp [hp]), if_pos ht] at h
    exact absurd h (by decide)
  · -- only the event that was polled can lead to `idle`
    have hcut := polls_iff.mp hp
    rw [if_neg (by simp [hcut.1]), if_neg (by simp [hcut.2])] at h
    have hc : s.consumes = s.queue.head? := by rw [VcuLogic.consumes, if_pos hp]
    rw [hc] at h
    cases hq : s.queue.head? with
    | none =>
        rw [hq] at h
        exact Or.inr h
    | some event =>
        rw [hq] at h
        rcases (after_eq_idle_iff _ _ _).mp h with ⟨he, hs, hi⟩ | ⟨hs, _⟩
        · left
          simp [VcuLogic.acceptsReset, hp, hq, he, hs, hi]
        · exact Or.inr hs

/-- Accepting a RESET leads to `idle`. -/
theorem nextState_of_acceptsReset {s : VcuLogic} (h : s.acceptsReset = true) :
    s.nextState = .idle := by
  simp only [VcuLogic.acceptsReset, Bool.and_eq_true, beq_iff_eq] at h
  obtain ⟨⟨⟨hp, hq⟩, hs⟩, hi⟩ := h
  have hcut := polls_iff.mp hp
  rw [VcuLogic.nextState, if_neg (by simp [hcut.1]), if_neg (by simp [hcut.2]), VcuLogic.consumes,
    if_pos hp, hq]
  exact (after_eq_idle_iff _ _ _).mpr (Or.inl ⟨rfl, hs, hi⟩)

/-- An iteration that ends in `idle` makes no relay call. -/
theorem run_relays_of_idle {s : VcuLogic} (h : s.nextState = .idle) : s.run.relays = s.relays := by
  rw [run_relays, VcuLogic.runCall, h]
  split <;> rfl

theorem idleOpen_run_iff {s : VcuLogic} (h : s.IdleOpen) :
    s.run.IdleOpen ↔ (s.acceptsReset = true → s.relays.ContactorsOpen) := by
  unfold VcuLogic.IdleOpen
  rw [run_state]
  constructor
  · intro hrun hreset
    have hidle := nextState_of_acceptsReset hreset
    rw [← run_relays_of_idle hidle]
    exact hrun hidle
  · intro hreset hidle
    -- the relays are those of before, so it depends on how `idle` is reached
    rw [run_relays_of_idle hidle]
    rcases nextState_idle hidle with hr | hs
    · exact hreset hr
    · exact h hs

theorem booted_idleOpen : VcuLogic.booted.IdleOpen := by
  intro _
  rw [VcuLogic.booted, VcuLogic.init]
  simp only [Bool.not_true, Bool.false_eq_true, if_false, transitionTo_relays]
  exact allOff_contactorsOpen false _

/-! ## The contactors after a history -/

/-- The step starts the vehicle: an iteration that takes a START_REQUEST in `idle`. -/
def VcuLogic.Starts (s : VcuLogic) (a : VcuAction) : Prop := a = .run ∧ s.startsReady = true

/-- The step opens: an iteration that gets to the handler of a stop with the opening delay elapsed.
-/
def VcuLogic.Opens (s : VcuLogic) (a : VcuAction) : Prop := a = .run ∧ s.opens = true

theorem not_contactorsOpen_of_all {m : RelayManager} (h : m.relayState = allRelays) :
    ¬ m.ContactorsOpen := by
  intro hopen
  have hon := getRelayState_of_all h (show (0 : UInt8) < relayTotalChannels by decide)
  rw [hopen 0] at hon
  exact absurd hon (by decide)

/-- An iteration that opens neither starts nor leaves its stop. -/
theorem nextState_isStopped_of_opens {s : VcuLogic} (h : s.opens = true) :
    s.nextState.isStopped = true := by
  simp only [VcuLogic.opens, Bool.and_eq_true] at h
  rw [nextState_of_reachesHandler h.1.1 h.1.2]
  exact h.1.1

/-- **One step.** A start closes; otherwise the contactors are open if they were or the step opens.
-/
theorem step_contactorsOpen_iff {s : VcuLogic} (h : s.Reachable) (a : VcuAction) :
    (s.step a).relays.ContactorsOpen ↔
      ¬ s.Starts a ∧ (s.relays.ContactorsOpen ∨ s.Opens a) := by
  by_cases ha : a = .run
  · subst ha
    have hstarts : s.Starts .run ↔ s.startsReady = true := and_iff_right rfl
    have hopens : s.Opens .run ↔ s.opens = true := and_iff_right rfl
    rw [hstarts, hopens, VcuLogic.step]
    by_cases hstopped : s.nextState.isStopped = true
    · -- into or within a stop
      have hdown : s.startsReady ≠ true := fun hstart => by
        have hlive := (run_isLive_iff s).mpr (.inl hstart)
        rw [run_state] at hlive
        rw [isStopped_eq_false_of_isLive hlive] at hstopped
        exact Bool.false_ne_true hstopped
      rw [run_contactorsOpen_iff h.openedOpen hstopped]
      exact (and_iff_right hdown).symm
    · have hnotOpens : s.opens ≠ true := fun ho => hstopped (nextState_isStopped_of_opens ho)
      by_cases hlive : s.run.state.isLive = true
      · -- into or within `ready` and `drive`: closed in both cases
        have hclosed := not_contactorsOpen_of_all (run_closed h.liveClosed hlive)
        refine iff_of_false hclosed ?_
        rintro ⟨hdown, hopen⟩
        have hstay := ((run_isLive_iff s).mp hlive).resolve_left hdown
        simp only [VcuLogic.staysLive, Bool.and_eq_true] at hstay
        have hwas := not_contactorsOpen_of_all (h.liveClosed.closed hstay.1.1.2)
        exact hopen.elim hwas hnotOpens
      · -- `idle` makes no call
        have hdown : s.startsReady ≠ true := fun hstart =>
          hlive ((run_isLive_iff s).mpr (.inl hstart))
        have hcall : s.runCall = none := by
          rcases runCall_cases s with hc | ⟨silent, -, hn⟩ | ⟨-, hn⟩
          · exact hc
          · exact absurd hn hstopped
          · rw [run_state, hn] at hlive
            exact absurd rfl hlive
        rw [run_relays, hcall, afterCall_none]
        exact ⟨fun hopen => ⟨hdown, .inl hopen⟩, fun hopen => hopen.2.resolve_right hnotOpens⟩
  · have hrelays : (s.step a).relays = s.relays := by
      rw [step_eq_withInputs s ha]
      rfl
    rw [hrelays]
    exact ⟨fun hopen => ⟨fun hs => ha hs.1, .inl hopen⟩,
      fun hopen => hopen.2.resolve_right fun ho => ha ho.1⟩

theorem booted_contactorsOpen : VcuLogic.booted.relays.ContactorsOpen := booted_idleOpen rfl

/-- **The contactors after a history** are open exactly if every start has been followed by an
iteration that opens. -/
theorem contactorsOpen_iff (history : List VcuAction) :
    (exec VcuLogic.step .booted history).relays.ContactorsOpen ↔
      Answered VcuLogic.step VcuLogic.Starts VcuLogic.Opens .booted history := by
  have hkeep : ∀ s a, VcuLogic.Reachable s → (s.step a).Reachable := by
    rintro s a ⟨before, rfl⟩
    exact ⟨before ++ [a], by rw [exec_append, exec_cons, exec_nil]⟩
  have hbooted : VcuLogic.booted.Reachable := ⟨[], rfl⟩
  exact exec_iff_answered (P := fun s => s.relays.ContactorsOpen) hkeep
    (fun s a hs => step_contactorsOpen_iff hs a) hbooted booted_contactorsOpen history

/-! ## IDLE -/

/-- Every RESET that is accepted comes after an iteration that opens: since each start before it, an
iteration has got to the handler of a stop with the opening delay elapsed. -/
def ResetsAfterOpening (history : List VcuAction) : Prop :=
  ∀ before after, history = before ++ .run :: after →
    (exec VcuLogic.step .booted before).acceptsReset = true →
    Answered VcuLogic.step VcuLogic.Starts VcuLogic.Opens .booted before

/-- The condition on a step: a RESET is only accepted with the contactors open. -/
def VcuLogic.ResetsOpened (s : VcuLogic) (a : VcuAction) : Prop :=
  a = .run → s.acceptsReset = true → s.relays.ContactorsOpen

theorem always_idleOpen_iff (history : List VcuAction) :
    Always VcuLogic.step .booted history VcuLogic.IdleOpen ↔
      Before VcuLogic.step .booted history VcuLogic.ResetsOpened := by
  refine always_iff_before (I := fun _ => True) (fun _ _ _ => trivial) ?_ trivial booted_idleOpen
    history
  intro s a _ hs
  by_cases ha : a = .run
  · subst ha
    have hrun := idleOpen_run_iff hs
    simpa [VcuLogic.ResetsOpened, VcuLogic.step] using hrun
  · -- posts and telemetry change neither the state nor the relays
    have hinputs : (s.step a).IdleOpen := by
      rw [step_eq_withInputs s ha]
      exact hs
    exact iff_of_true hinputs fun h => absurd h ha

/-- **IDLE is safe exactly when every accepted RESET comes after an opening.** For every history
after a successful `init`. -/
theorem idle_contactorsOpen_iff (history : List VcuAction) :
    Always VcuLogic.step .booted history VcuLogic.IdleOpen ↔ ResetsAfterOpening history := by
  rw [always_idleOpen_iff]
  constructor
  · intro h before after hsplit hreset
    exact (contactorsOpen_iff before).mp (h before .run after hsplit rfl hreset)
  · rintro h before a after hsplit rfl hreset
    exact (contactorsOpen_iff before).mpr (h before after hsplit hreset)

/-- START, then an emergency stop and a RESET before the next iteration: the first iteration closes
the contactors, the second enters `emergencyStop`, the third is back in `idle` with all of them
closed. -/
def resetBeforeOpening : List VcuAction :=
  [.postEvent .startRequest, .run, .postEvent .emergencyStop, .postEvent .reset, .run, .run]

theorem resetBeforeOpening_idle_closed :
    ¬ Always VcuLogic.step .booted resetBeforeOpening VcuLogic.IdleOpen := by
  intro h
  have hlast := h resetBeforeOpening (List.prefix_refl _)
  have hidle : (exec VcuLogic.step .booted resetBeforeOpening).state = .idle := by decide
  have hclosed : (exec VcuLogic.step .booted resetBeforeOpening).relays.getRelayState 0 = true := by
    decide
  rw [hlast hidle 0] at hclosed
  exact absurd hclosed (by decide)

end TfnAks.Vcu
