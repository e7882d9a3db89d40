/-
# TfnAks.Vcu.Reassertion — the contactors are commanded open again and again

In `fault` and `emergencyStop` the handler opens the contactors once, with a log entry, and from
then on repeats the command silently whenever its once-per-second log is due. The log time starts at
-1000, so the log of the first iteration is due at once and the second one 50 iterations later: the
commands come in iterations 1, 51, 101, … after the entry (`openingSchedule`), whatever is posted or
set in between.
-/
import Mathlib
import TfnAks.Lib.Cadence
import TfnAks.Vcu.TransitionLaw

namespace TfnAks.Vcu

open TfnAks.Lib.Runs TfnAks.Lib.Cadence TfnAks.Relay

/-- The log time of the handler of the current state. -/
def VcuLogic.lastLogMs (s : VcuLogic) : UInt32 :=
  match s.state with
  | .emergencyStop => s.lastEstopLogMs
  | .fault => s.lastFaultLogMs
  | _ => 0

/-- The iteration enters `fault` or `emergencyStop`, or enters `fault` once more. -/
def VcuLogic.EntersStop (s : VcuLogic) : Prop :=
  s.run.state.isStopped = true ∧ (s.run.state ≠ s.state ∨ s.consumes = some .faultDetected)

instance (s : VcuLogic) : Decidable s.EntersStop := inferInstanceAs (Decidable (_ ∧ _))

/-- The iteration leaves the state unchanged and consumes neither FAULT_DETECTED nor RESET. -/
def VcuLogic.StaysQuiet (s : VcuLogic) : Prop :=
  s.run.state = s.state ∧ s.consumes ≠ some .faultDetected ∧ s.consumes ≠ some .reset

instance (s : VcuLogic) : Decidable s.StaysQuiet := inferInstanceAs (Decidable (_ ∧ _ ∧ _))

/-- The relay calls of each iteration of a run, one list for one iteration. -/
def VcuLogic.callsOf (s : VcuLogic) : VcuAction → List (List RelayOp)
  | .run => [s.run.relayCalls.drop s.relayCalls.length]
  | _ => []

/-- Iterations in a second. -/
def runsPerSecond : ℕ := 50

/-- The relay calls of iteration number `i` after the entry, counted from 0. -/
def openingSchedule (i : ℕ) : List RelayOp :=
  if i = 0 then [.allOff false]
  else if OnBeat runsPerSecond i then [.allOff true]
  else []

/-! ## The entry -/

/-- An entry is a `transitionTo`. -/
theorem run_of_entersStop {s : VcuLogic} (h : s.EntersStop) :
    ∃ (u : VcuLogic) (st : VcuState), st.isStopped = true ∧ s.run = u.transitionTo st := by
  obtain ⟨hstopped, hnew⟩ := h
  rcases run_trichotomy s with hp | ⟨hp, ht⟩ | hpolls
  · exact ⟨_, .emergencyStop, rfl, run_of_preempts hp⟩
  · exact ⟨_, .fault, rfl, run_of_trips hp ht⟩
  · rw [run_of_polls hpolls] at hstopped hnew ⊢
    cases hc : s.consumes with
    | none =>
        rw [hc] at hnew
        simp at hnew
    | some event =>
        rw [hc] at hstopped hnew
        simp only [handleEvent_state, polled_state, polled_telLatestData] at hstopped hnew
        cases event with
        | emergencyStop => exact ⟨s.polled, .emergencyStop, rfl, rfl⟩
        | faultDetected => exact ⟨s.polled, .fault, rfl, rfl⟩
        | none => simp [VcuState.after] at hnew
        | _ =>
            -- any other event leads to `idle`, `ready` or `drive`, or nowhere
            exfalso
            simp only [VcuState.after] at hstopped hnew
            split at hstopped <;> simp_all [VcuState.isStopped]

/-- What an entry sets up. -/
theorem transitionTo_bookkeeping {st : VcuState} (hst : st.isStopped = true) (u : VcuLogic) :
    (u.transitionTo st).stateTimer = 0 ∧ (u.transitionTo st).lastLogMs = -1000 := by
  cases st with
  | emergencyStop => exact ⟨rfl, rfl⟩
  | fault => exact ⟨rfl, rfl⟩
  | _ => simp [VcuState.isStopped] at hst

/-! ## An iteration that stays -/

section Stays

variable {s : VcuLogic}

theorem handlerCall_of_stopped (h : s.state.isStopped = true) :
    s.handlerCall = openingCall s.stateTimer s.opened s.lastLogMs := by
  unfold VcuLogic.handlerCall VcuLogic.opened VcuLogic.lastLogMs
  cases hs : s.state <;> simp_all [VcuState.isStopped]

theorem periodic_lastLogMs (h : s.state.isStopped = true) :
    s.periodic.lastLogMs = logTime s.stateTimer s.lastLogMs := by
  unfold VcuLogic.periodic VcuLogic.lastLogMs
  rw [handleEmergencyStop_eq, handleFault_eq]
  cases hs : s.state <;> simp_all [VcuState.isStopped]

/-- Nothing stops such an iteration before the handler. -/
theorem reachesHandler_of_staysQuiet (hstop : s.state.isStopped = true)
    (hqueue : .emergencyStop ∉ s.queue) (h : s.StaysQuiet) : s.reachesHandler = true := by
  obtain ⟨hstate, hfault, hreset⟩ := h
  have htrips : s.trips = false := by
    cases hs : s.state <;> simp_all [VcuLogic.trips, VcuState.isMonitored, VcuState.isStopped]
  have hpreempts : s.preempts = false := by
    by_contra hp
    rw [Bool.not_eq_false] at hp
    rw [run_of_preempts hp, transitionTo_state] at hstate
    rw [VcuLogic.preempts, ← hstate] at hp
    simp at hp
  rw [VcuLogic.reachesHandler, polls_iff.mpr ⟨hpreempts, htrips⟩, Bool.true_and]
  cases hc : s.consumes with
  | none => rfl
  | some event =>
      cases event with
      | emergencyStop => exact absurd (consumes_mem_queue hc) hqueue
      | faultDetected => exact absurd hc hfault
      | reset => exact absurd hc hreset
      | _ => rfl

/-- In a stopped state no event of the `switch` counts, so the handler starts from the polled state.
-/
theorem run_of_stopped (hstop : s.state.isStopped = true) (h : s.reachesHandler = true) :
    s.run = s.polled.periodic := by
  rw [run_of_reachesHandler h, VcuLogic.beforeHandler]
  cases s.consumes with
  | none => rfl
  | some event =>
      have hsame : s.polled.handleStateEvent event = s.polled := by
        unfold VcuLogic.handleStateEvent
        rw [polled_state]
        cases hs : s.state <;> simp_all [VcuState.isStopped]
      rw [Option.elim_some, hsame]

end Stays

/-! ## The schedule of one stop -/

/-- The log time after `i` iterations in the state. -/
def lastLogAfter : ℕ → UInt32
  | 0 => -1000
  | i + 1 => UInt32.ofNat (20 * (lastBeat runsPerSecond i + 1))

/-- What the statics are after `i` iterations in the state. -/
structure VcuLogic.StoppedFor (i : ℕ) (s : VcuLogic) : Prop where
  stopped : s.state.isStopped = true
  timer : s.stateTimer = UInt32.ofNat (20 * i)
  opened : s.opened = decide (0 < i)
  lastLog : s.lastLogMs = lastLogAfter i
  queue : .emergencyStop ∉ s.queue

section Timing

variable {i : ℕ}

theorem timer_succ (i : ℕ) : UInt32.ofNat (20 * i) + taskPeriodMs = UInt32.ofNat (20 * (i + 1)) := by
  rw [Nat.mul_succ, UInt32.ofNat_add]
  rfl

/-- The log is due in the first iteration and then on the beat. -/
theorem logDue_iff (hi : 20 * (i + 1) < 2 ^ 32) :
    1000 ≤ UInt32.ofNat (20 * (i + 1)) - lastLogAfter i ↔ OnBeat runsPerSecond i := by
  cases i with
  | zero => decide
  | succ i =>
      have hle := lastBeat_le runsPerSecond i
      have htimer : (UInt32.ofNat (20 * (i + 1 + 1))).toNat = 20 * (i + 1 + 1) :=
        UInt32.toNat_ofNat_of_lt' hi
      have hlast : (lastLogAfter (i + 1)).toNat = 20 * (lastBeat runsPerSecond i + 1) :=
        UInt32.toNat_ofNat_of_lt' (show _ < 2 ^ 32 by omega)
      have hdiff : (UInt32.ofNat (20 * (i + 1 + 1)) - lastLogAfter (i + 1)).toNat =
          20 * (i + 1 + 1) - 20 * (lastBeat runsPerSecond i + 1) := by
        rw [UInt32.toNat_sub_of_le _ _ (UInt32.le_iff_toNat_le.mpr (by omega)), htimer, hlast]
      rw [onBeat_succ_iff (by decide), UInt32.le_iff_toNat_le, hdiff]
      show 1000 ≤ _ ↔ 50 ≤ _
      omega

theorem openingCall_after (hi : 20 * (i + 1) < 2 ^ 32) :
    (openingCall (UInt32.ofNat (20 * (i + 1))) (decide (0 < i)) (lastLogAfter i)).toList =
      openingSchedule i := by
  have hdelay : vcuContactorOpenDelayMs ≤ UInt32.ofNat (20 * (i + 1)) := by
    rw [UInt32.le_iff_toNat_le, UInt32.toNat_ofNat_of_lt' hi]
    show 20 ≤ _
    omega
  rw [openingCall, if_pos hdelay, openingSchedule]
  by_cases hfirst : i = 0
  · subst hfirst
    rfl
  · have hpos : decide (0 < i) = true := decide_eq_true (Nat.pos_of_ne_zero hfirst)
    rw [hpos, if_neg hfirst, Bool.not_true, if_neg Bool.false_ne_true]
    by_cases hbeat : OnBeat runsPerSecond i
    · rw [if_pos hbeat, if_pos ((logDue_iff hi).mpr hbeat)]
      rfl
    · rw [if_neg hbeat, if_neg (mt (logDue_iff hi).mp hbeat)]
      rfl

theorem logTime_after (hi : 20 * (i + 1) < 2 ^ 32) :
    logTime (UInt32.ofNat (20 * (i + 1))) (lastLogAfter i) = lastLogAfter (i + 1) := by
  rw [logTime, lastLogAfter]
  cases i with
  | zero => decide
  | succ i =>
      rw [lastBeat_succ (by decide)]
      by_cases hbeat : OnBeat runsPerSecond (i + 1)
      · rw [if_pos hbeat, if_pos ((logDue_iff hi).mpr hbeat)]
      · rw [if_neg hbeat, if_neg (mt (logDue_iff hi).mp hbeat)]
        rfl

end Timing

/-- The entry starts the schedule. -/
theorem stoppedFor_entry {s : VcuLogic} (hqueue : .emergencyStop ∉ s.queue) (h : s.EntersStop) :
    s.run.StoppedFor 0 := by
  obtain ⟨u, st, hst, hrun⟩ := run_of_entersStop h
  obtain ⟨htimer, hlog⟩ := transitionTo_bookkeeping hst u
  refine ⟨h.1, ?_, ?_, ?_, step_noEmergencyStop s .run hqueue⟩
  · rw [hrun, htimer]
    rfl
  · rw [hrun, transitionTo_opened]
    rfl
  · rw [hrun, hlog]
    rfl

/-- A post or a telemetry update between two iterations keeps it. -/
theorem stoppedFor_between {i : ℕ} {s : VcuLogic} (h : s.StoppedFor i) {a : VcuAction}
    (ha : a ≠ .run) : (s.step a).StoppedFor i := by
  have hqueue := step_noEmergencyStop s a h.queue
  rw [step_eq_withInputs s ha] at hqueue ⊢
  exact ⟨h.stopped, h.timer, h.opened, h.lastLog, hqueue⟩

/-- An iteration that stays makes the calls of the schedule and moves it on. -/
theorem stoppedFor_run {i : ℕ} {s : VcuLogic} (h : s.StoppedFor i) (hi : 20 * (i + 1) < 2 ^ 32)
    (hquiet : s.StaysQuiet) :
    s.run.relayCalls = s.relayCalls ++ openingSchedule i ∧ s.run.StoppedFor (i + 1) := by
  have hrun : s.run = s.polled.periodic :=
    run_of_stopped h.stopped (reachesHandler_of_staysQuiet h.stopped h.queue hquiet)
  have hstopped : s.polled.state.isStopped = true := h.stopped
  have htimer : s.polled.stateTimer = UInt32.ofNat (20 * (i + 1)) := by
    show s.stateTimer + taskPeriodMs = _
    rw [h.timer, timer_succ]
  have hopened : s.polled.opened = decide (0 < i) := h.opened
  have hlog : s.polled.lastLogMs = lastLogAfter i := h.lastLog
  have hcall : s.polled.handlerCall.toList = openingSchedule i := by
    rw [handlerCall_of_stopped hstopped, htimer, hopened, hlog, openingCall_after hi]
  refine ⟨?_, ?_, ?_, ?_, ?_, step_noEmergencyStop s .run h.queue⟩
  · rw [hrun, periodic_relayCalls, hcall]
    rfl
  · rw [hquiet.1]
    exact h.stopped
  · rw [hrun, (periodic_frame s.polled).2.1, htimer]
  · -- the first iteration opens, and what is opened stays so
    rw [hrun, periodic_opened, hopened, hstopped, Bool.true_and, decide_eq_true (Nat.succ_pos i)]
    cases i with
    | zero =>
        cases hsome : s.polled.handlerCall with
        | none =>
            rw [hsome] at hcall
            simp [openingSchedule] at hcall
        | some op => rfl
    | succ i => rfl
  · rw [hrun, periodic_lastLogMs hstopped, htimer, hlog, logTime_after hi]

/-! ## The run -/

/-- **Re-assertion.** After every entry into `fault` or `emergencyStop`, as long as the iterations
leave the state unchanged and consume neither FAULT_DETECTED nor RESET, and the millisecond timer
does not wrap: the relay calls of the iterations are those of the schedule, `allOff` in numbers 1,
51, 101, …, and no 50 iterations in a row are without one. -/
theorem reassertion_schedule {s : VcuLogic} (hs : s.Reachable) (henter : s.EntersStop)
    {as : List VcuAction}
    (hquiet : Before VcuLogic.step s.run as fun t a => a = .run → t.StaysQuiet)
    (hwrap : 20 * as.count .run < 2 ^ 32) :
    gather VcuLogic.step VcuLogic.callsOf s.run as =
        (List.range (as.count .run)).map openingSchedule ∧
      ∀ i, i + 50 ≤ as.count .run → ∃ k silent, i ≤ k ∧ k < i + 50 ∧
        (gather VcuLogic.step VcuLogic.callsOf s.run as)[k]? = some [.allOff silent] := by
  have hcalls : gather VcuLogic.step VcuLogic.callsOf s.run as =
      (List.range (as.count .run)).map openingSchedule := by
    -- posts and telemetry between the iterations neither call nor count
    have hbetween : ∀ i (t : VcuLogic) a, (a == .run) = false → t.StoppedFor i →
        t.callsOf a = [] ∧ (t.step a).StoppedFor i := by
      intro i t a ha ht
      have hne : a ≠ .run := by simpa using ha
      refine ⟨?_, stoppedFor_between ht hne⟩
      cases a with
      | run => exact absurd rfl hne
      | postEvent event => rfl
      | setTelemetryData d => rfl
    have htick : ∀ i (t : VcuLogic) a, (a == .run) = true → i < as.count .run →
        (a = .run → t.StaysQuiet) → t.StoppedFor i →
        t.callsOf a = [openingSchedule i] ∧ (t.step a).StoppedFor (i + 1) := by
      intro i t a ha hi hC ht
      obtain rfl : a = .run := by simpa using ha
      obtain ⟨hrun, hnext⟩ := stoppedFor_run ht (by omega) (hC rfl)
      refine ⟨?_, hnext⟩
      rw [VcuLogic.callsOf, hrun, List.drop_left]
    rw [List.range_eq_range']
    exact gather_eq_schedule hbetween htick (stoppedFor_entry hs.noEmergencyStop henter) hquiet
      (Nat.zero_add _).le
  refine ⟨hcalls, ?_⟩
  intro i hi
  -- among any fifty there is one on the beat
  have hpos : 0 < runsPerSecond := by decide
  obtain ⟨k, hik, hki, hbeat⟩ := exists_onBeat hpos i
  have hk : k < as.count .run := Nat.lt_of_lt_of_le hki hi
  refine ⟨k, !decide (k = 0), hik, hki, ?_⟩
  rw [hcalls, List.getElem?_map, List.getElem?_range hk, Option.map_some, openingSchedule]
  by_cases hzero : k = 0
  · simp [hzero]
  · simp [hzero, hbeat]

/-- An emergency stop, posted again while it is in force, and a second of iterations after it. -/
theorem reassertion_schedule_emergencyStop :
    gather VcuLogic.step VcuLogic.callsOf (VcuLogic.booted.postEvent .emergencyStop).run
        (.run :: .postEvent .emergencyStop :: List.replicate 50 .run) =
      [.allOff false] :: List.replicate 49 [] ++ [[.allOff true]] := by
  have hquiet : Before VcuLogic.step (VcuLogic.booted.postEvent .emergencyStop).run
      (.run :: .postEvent .emergencyStop :: List.replicate 50 .run)
      fun t a => a = .run → t.StaysQuiet := by decide +kernel
  have hcalls := (reassertion_schedule ⟨[.postEvent .emergencyStop], rfl⟩ (by decide) hquiet
    (by decide)).1
  exact hcalls.trans (by decide)

end TfnAks.Vcu
