/-
# TfnAks.Vcu.ContactorClosing — when the contactors close, and that they stay closed

`handleReady` calls `allOn` while the timer of the state is at most one period: in the iteration
that enters `ready`, in the one after it, and again each time the 32-bit timer comes round. Only the
first of these calls changes a relay. The invariant behind it is `VcuLogic.LiveClosed`: the driver
is initialised, and in `ready` and `drive` every relay bit is already set.
-/
import TfnAks.Vcu.TransitionLaw

namespace TfnAks.Vcu

open TfnAks.Lib.Runs TfnAks.Relay

/-! ## The relays while the HV bus is live -/

/-- The relay word `allOn` writes: ten ones. -/
def allRelays : BitVec 16 := (1#16 <<< relayTotalChannels.toNat) - 1

/-- In `ready` and `drive` all relays are closed, as the driver has been started. -/
structure VcuLogic.LiveClosed (s : VcuLogic) : Prop where
  initialized : s.relays.initialized = true
  closed : s.state.isLive = true → s.relays.relayState = allRelays

theorem allOn_relayState {m : RelayManager} (h : m.initialized = true) :
    (m.allOn).1.relayState = allRelays := by
  rw [RelayManager.allOn, h]
  rfl

theorem getRelayState_of_all {m : RelayManager} (h : m.relayState = allRelays) {channel : UInt8}
    (hc : channel < relayTotalChannels) : m.getRelayState channel = true := by
  have hbits : ∀ n < 10, allRelays.getLsbD n = true := by decide
  have hlt : channel.toNat < 10 := UInt8.lt_iff_toNat_lt.mp hc
  rw [RelayManager.getRelayState, if_neg (UInt8.not_le.mpr hc), h]
  exact hbits _ hlt

/-- The only calls an iteration makes are `allOff`, when it ends stopped, and `allOn`, on the way
into or within `ready`. -/
theorem runCall_cases (s : VcuLogic) :
    s.runCall = none ∨
      (∃ silent, s.runCall = some (.allOff silent) ∧ s.nextState.isStopped = true) ∨
        (s.runCall = some .allOn ∧ s.nextState = .ready) := by
  unfold VcuLogic.runCall
  split
  · cases hn : s.nextState with
    | ready =>
        rcases ite_eq_or_eq (s.state ≠ .ready ∨ s.stateTimer + taskPeriodMs ≤ taskPeriodMs)
          (some RelayOp.allOn) none with h | h
        · exact Or.inr (Or.inr ⟨h, rfl⟩)
        · exact Or.inl h
    | emergencyStop =>
        rcases openingCall_cases (s.stateTimer + taskPeriodMs) s.relaysOpenedInEstop
          s.lastEstopLogMs with h | ⟨silent, h⟩
        · exact Or.inl h
        · exact Or.inr (Or.inl ⟨silent, h, rfl⟩)
    | fault =>
        rcases openingCall_cases (s.stateTimer + taskPeriodMs) s.relaysOpenedInFault
          s.lastFaultLogMs with h | ⟨silent, h⟩
        · exact Or.inl h
        · exact Or.inr (Or.inl ⟨silent, h, rfl⟩)
    | _ => exact Or.inl rfl
  · exact Or.inl rfl

theorem isStopped_eq_false_of_isLive {st : VcuState} (h : st.isLive = true) :
    st.isStopped = false := by
  cases st with
  | ready | drive => rfl
  | _ => exact absurd h (by decide)

theorem afterCall_initialized {m : RelayManager} {call : Option RelayOp}
    (h : call = none ∨ (∃ silent, call = some (.allOff silent)) ∨ call = some .allOn) :
    (afterCall m call).initialized = m.initialized := by
  rcases h with rfl | ⟨silent, rfl⟩ | rfl
  · rfl
  · exact allOff_initialized silent m
  · exact allOn_initialized m

/-- An iteration that starts the vehicle calls `allOn` at once: the transition resets the timer. -/
theorem runCall_of_startsReady {s : VcuLogic} (h : s.startsReady = true) :
    s.runCall = some .allOn := by
  simp only [VcuLogic.startsReady, Bool.and_eq_true, beq_iff_eq] at h
  obtain ⟨⟨hp, hq⟩, hidle⟩ := h
  have hc : s.consumes = some .startRequest := by rw [VcuLogic.consumes, if_pos hp, hq]
  have hcut := polls_iff.mp hp
  have hnext : s.nextState = .ready := by
    rw [VcuLogic.nextState, if_neg (by simp [hcut.1]), if_neg (by simp [hcut.2]), hc]
    exact if_pos hidle
  have hreaches : s.reachesHandler = true := by
    rw [VcuLogic.reachesHandler, hp, hc]
    rfl
  have hne : s.state ≠ .ready := by simp [hidle]
  rw [VcuLogic.runCall, if_pos hreaches, hnext]
  exact if_pos (Or.inl hne)

/-- While the HV bus stays live no call is made, or `allOn` again. -/
theorem runCall_of_isLive {s : VcuLogic} (h : s.nextState.isLive = true) :
    s.runCall = none ∨ s.runCall = some .allOn := by
  rcases runCall_cases s with hc | ⟨_, _, hstopped⟩ | ⟨hc, _⟩
  · exact Or.inl hc
  · rw [isStopped_eq_false_of_isLive h] at hstopped
    exact absurd hstopped (by decide)
  · exact Or.inr hc

theorem run_initialized (s : VcuLogic) : s.run.relays.initialized = s.relays.initialized := by
  rw [run_relays]
  refine afterCall_initialized ?_
  rcases runCall_cases s with h | ⟨silent, h, _⟩ | ⟨h, _⟩
  · exact Or.inl h
  · exact Or.inr (Or.inl ⟨silent, h⟩)
  · exact Or.inr (Or.inr h)

/-- An iteration that ends in `ready` or `drive` ends with every relay on. -/
theorem run_closed {s : VcuLogic} (h : s.LiveClosed) (hlive : s.run.state.isLive = true) :
    s.run.relays.relayState = allRelays := by
  have hon : (afterCall s.relays (some .allOn)).relayState = allRelays :=
    allOn_relayState h.initialized
  rw [run_relays]
  rcases (run_isLive_iff s).mp hlive with hstart | hstay
  · rw [runCall_of_startsReady hstart]
    exact hon
  · rw [run_state] at hlive
    simp only [VcuLogic.staysLive, Bool.and_eq_true] at hstay
    rcases runCall_of_isLive hlive with hc | hc
    · rw [hc]
      exact h.closed hstay.1.1.2
    · rw [hc]
      exact hon

theorem step_liveClosed (s : VcuLogic) (a : VcuAction) (h : s.LiveClosed) :
    (s.step a).LiveClosed := by
  by_cases ha : a = .run
  · subst ha
    exact ⟨(run_initialized s).trans h.initialized, run_closed h⟩
  · rw [step_eq_withInputs s ha]
    exact ⟨h.initialized, h.closed⟩

theorem VcuLogic.Reachable.liveClosed {s : VcuLogic} (h : s.Reachable) : s.LiveClosed :=
  h.invariant ⟨by decide, by decide⟩ step_liveClosed

/-! ## The iteration that closes -/

/-- A relay that an iteration turns on was turned on by `allOn`. -/
theorem runCall_of_closes {s : VcuLogic} {channel : UInt8}
    (hoff : s.relays.getRelayState channel = false)
    (hon : s.run.relays.getRelayState channel = true) :
    s.runCall = some .allOn ∧ s.nextState = .ready := by
  rw [run_relays] at hon
  rcases runCall_cases s with hc | ⟨silent, hc, _⟩ | hc
  · rw [hc, afterCall_none, hoff] at hon
    exact absurd hon (by decide)
  · rw [hc, afterCall_allOff_contactorsOpen s.relays silent channel] at hon
    exact absurd hon (by decide)
  · exact hc

theorem step_closes {s : VcuLogic} (h : s.Reachable) {a : VcuAction} {channel : UInt8}
    (hoff : s.relays.getRelayState channel = false)
    (hon : (s.step a).relays.getRelayState channel = true) :
    a = .run ∧ s.state = .idle ∧ s.consumes = some .startRequest := by
  by_cases ha : a = .run
  · subst ha
    have hready : (s.step .run).state = .ready := by
      rw [VcuLogic.step, run_state]
      exact (runCall_of_closes hoff hon).2
    rcases step_enters ready_enteredBy h hready with hwas | hstart
    · -- in `ready` every relay is on already
      have hlt : channel < relayTotalChannels := by
        rw [← UInt8.not_le]
        intro hge
        rw [RelayManager.getRelayState, if_pos hge] at hon
        exact absurd hon (by decide)
      have hall := h.liveClosed.closed (by rw [hwas]; rfl)
      rw [getRelayState_of_all hall hlt] at hoff
      exact absurd hoff (by decide)
    · exact hstart
  · rw [step_eq_withInputs s ha] at hon
    exact absurd (hoff.symm.trans hon) (by decide)

/-- **Contactors close on START only, and stay closed while the HV bus is live.** For every history
after boot, and every value of the state timer on the way, the wrap of the counter included. -/
theorem contactors_close_on_start_only (history : List VcuAction) :
    (∀ a channel,
      (exec VcuLogic.step .booted history).relays.getRelayState channel = false →
      ((exec VcuLogic.step .booted history).step a).relays.getRelayState channel = true →
        a = .run ∧ (exec VcuLogic.step .booted history).state = .idle ∧
          (exec VcuLogic.step .booted history).consumes = some .startRequest) ∧
      ((exec VcuLogic.step .booted history).run.state = .ready ∨
          (exec VcuLogic.step .booted history).run.state = .drive →
        ∀ channel, channel < relayTotalChannels →
          (exec VcuLogic.step .booted history).run.relays.getRelayState channel = true) := by
  have hreach : (exec VcuLogic.step .booted history).Reachable := ⟨history, rfl⟩
  refine ⟨?_, ?_⟩
  · intro a channel hoff hon
    exact step_closes hreach hoff hon
  · intro hstate channel hc
    have hlive : (exec VcuLogic.step .booted history).run.state.isLive = true := by
      rcases hstate with h | h
      · rw [h]
        rfl
      · rw [h]
        rfl
    exact getRelayState_of_all (run_closed hreach.liveClosed hlive) hc

end TfnAks.Vcu
