/-
# TfnAks.Vcu.Freshness — which data the contactors are closed on

In `idle` the critical condition tolerates timeouts, and it says nothing at all about a BMS that was
never heard. `run` evaluates it in the state before the transition, so a START_REQUEST consumed in
`idle` closes the contactors on whatever snapshot was tolerated there.

`live_on_fresh_data_iff` is exact: along a history every iteration that ends in `ready` or `drive`
uses a valid, uncritical snapshot if and only if each START_REQUEST is consumed on valid data
without timeouts, and each iteration that stays in `ready` or `drive` finds the BMS data valid.
-/
import TfnAks.Vcu.Iteration

namespace TfnAks.Vcu

open TfnAks.Lib.Runs

/-- The states in which the HV bus is live. -/
def VcuState.isLive : VcuState → Bool
  | .ready | .drive => true
  | _ => false

/-- If the iteration ends with the HV bus live, its snapshot was valid and not critical. -/
def VcuLogic.LiveOnFreshData (s : VcuLogic) (a : VcuAction) : Prop :=
  a = .run → s.run.state.isLive = true →
    s.telLatestData.telBmsDataValid = true ∧ hasCriticalCondition s.telLatestData .ready = false

/-- The iteration takes a START_REQUEST from the queue in `idle`. -/
def VcuLogic.startsReady (s : VcuLogic) : Bool :=
  s.polls && s.queue.head? == some .startRequest && s.state == .idle

/-- The iteration starts with the HV bus live and nothing makes it leave. -/
def VcuLogic.staysLive (s : VcuLogic) : Bool :=
  s.polls && s.state.isLive && s.queue.head? != some .emergencyStop &&
    s.queue.head? != some .faultDetected

/-- The condition on a step. -/
def VcuLogic.FreshInputs (s : VcuLogic) (a : VcuAction) : Prop :=
  a = .run →
    (s.startsReady = true → s.telLatestData.telBmsDataValid = true ∧
      s.telLatestData.telMotorTimeoutActive = false ∧
      s.telLatestData.telBmsTimeoutActive = false) ∧
    (s.staysLive = true → s.telLatestData.telBmsDataValid = true)

/-! ## The critical condition in and outside `idle` -/

/-- Outside `idle` the critical condition does not depend on the state. -/
theorem hasCriticalCondition_of_ne_idle (d : TelemetryData) {st : VcuState} (h : st ≠ .idle) :
    hasCriticalCondition d st = hasCriticalCondition d .ready := by
  have hst : (st != .idle) = true := by simpa using h
  unfold hasCriticalCondition
  rw [hst]
  rfl

/-- A snapshot that `idle` tolerates is critical in `ready` exactly on a timeout. -/
theorem hasCriticalCondition_ready_of_idle {d : TelemetryData}
    (h : hasCriticalCondition d .idle = false) :
    hasCriticalCondition d .ready = false ↔
      d.telMotorTimeoutActive = false ∧ d.telBmsTimeoutActive = false := by
  have hidle : (VcuState.idle != .idle) = false := by decide
  have hready : (VcuState.ready != .idle) = true := by decide
  unfold hasCriticalCondition at h ⊢
  rw [hidle, Bool.and_false, Bool.and_false] at h
  rw [hready, Bool.and_true, Bool.and_true]
  split at h
  · simp at h
  · -- no error flag and no BMS fault: what is left are the two timeouts and the voltage
    rename_i herr
    rw [if_neg herr]
    simp only [Bool.false_eq_true, if_false] at h
    rw [h]
    cases d.telMotorTimeoutActive <;> cases d.telBmsTimeoutActive <;> simp

theorem trips_of_isLive {s : VcuLogic} (h : s.state.isLive = true) :
    s.trips = hasCriticalCondition s.telLatestData .ready := by
  have hmon : s.state.isMonitored = true := by
    cases hs : s.state <;> simp_all [VcuState.isLive, VcuState.isMonitored]
  have hne : s.state ≠ .idle := by
    intro hs
    rw [hs] at h
    exact absurd h (by decide)
  rw [VcuLogic.trips, hmon, Bool.true_and, hasCriticalCondition_of_ne_idle _ hne]

theorem trips_of_idle {s : VcuLogic} (h : s.state = .idle) :
    s.trips = hasCriticalCondition s.telLatestData .idle := by
  rw [VcuLogic.trips, h]
  rfl

/-! ## One iteration -/

theorem after_isLive_iff (d : TelemetryData) (st : VcuState) (event : VcuEvent) :
    (st.after d event).isLive = true ↔
      (event = .startRequest ∧ st = .idle) ∨
        (st.isLive = true ∧ event ≠ .emergencyStop ∧ event ≠ .faultDetected) := by
  cases event with
  | reset =>
      cases hi : isResetInterlockSatisfied d st <;> cases st <;>
        simp_all [VcuState.after, VcuState.isLive]
  | _ => cases st <;> simp [VcuState.after, VcuState.isLive]

/-- An iteration ends with the HV bus live by starting or by staying. -/
theorem run_isLive_iff (s : VcuLogic) :
    s.run.state.isLive = true ↔ s.startsReady = true ∨ s.staysLive = true := by
  rw [run_state]
  rcases run_trichotomy s with hp | ⟨hp, ht⟩ | hp
  · have hpolls : s.polls = false := by simp [VcuLogic.polls, hp]
    simp [VcuLogic.nextState, hp, VcuLogic.startsReady, VcuLogic.staysLive, hpolls, VcuState.isLive]
  · have hpolls : s.polls = false := by simp [VcuLogic.polls, ht]
    simp [VcuLogic.nextState, hp, ht, VcuLogic.startsReady, VcuLogic.staysLive, hpolls,
      VcuState.isLive]
  · have hcut := polls_iff.mp hp
    rw [VcuLogic.nextState, if_neg (by simp [hcut.1]), if_neg (by simp [hcut.2]),
      VcuLogic.consumes, if_pos hp]
    cases hq : s.queue.head? with
    | none => simp [VcuLogic.startsReady, VcuLogic.staysLive, hp, hq]
    | some event =>
        show (s.state.after s.telLatestData event).isLive = true ↔ _
        rw [after_isLive_iff]
        simp [VcuLogic.startsReady, VcuLogic.staysLive, hp, hq, and_assoc]

theorem liveOnFreshData_iff (s : VcuLogic) (a : VcuAction) :
    s.LiveOnFreshData a ↔ s.FreshInputs a := by
  unfold VcuLogic.LiveOnFreshData VcuLogic.FreshInputs
  refine imp_congr_right fun _ => ?_
  rw [run_isLive_iff, or_imp]
  refine and_congr ?_ ?_
  · -- started in `idle`: the check that was passed is the tolerant one
    refine imp_congr_right fun hstart => ?_
    simp only [VcuLogic.startsReady, Bool.and_eq_true, beq_iff_eq] at hstart
    obtain ⟨⟨hp, _⟩, hidle⟩ := hstart
    have htrips := (polls_iff.mp hp).2
    rw [trips_of_idle hidle] at htrips
    rw [hasCriticalCondition_ready_of_idle htrips]
  · -- kept live: the check that was passed is the one the property asks for
    refine imp_congr_right fun hstay => ?_
    simp only [VcuLogic.staysLive, Bool.and_eq_true] at hstay
    obtain ⟨⟨⟨hp, hlive⟩, _⟩, _⟩ := hstay
    have htrips := (polls_iff.mp hp).2
    rw [trips_of_isLive hlive] at htrips
    exact and_iff_left htrips

/-- **The HV bus is live on fresh data exactly when it is started and kept on fresh data.** For
every history after a successful `init` and every iteration of it. -/
theorem live_on_fresh_data_iff (history : List VcuAction) :
    Before VcuLogic.step .booted history VcuLogic.LiveOnFreshData ↔
      Before VcuLogic.step .booted history VcuLogic.FreshInputs := by
  unfold Before
  refine forall_congr' fun pre => forall_congr' fun a => forall_congr' fun post => ?_
  exact imp_congr_right fun _ => liveOnFreshData_iff _ a

/-- START_REQUEST right after boot: no telemetry has been set, and the contactors close. -/
theorem start_without_data_closes :
    ¬ Before VcuLogic.step .booted [.postEvent .startRequest, .run] VcuLogic.LiveOnFreshData := by
  intro h
  have hfresh := h [.postEvent .startRequest] .run [] rfl rfl (by decide)
  exact absurd hfresh.1 (by decide)

end TfnAks.Vcu
