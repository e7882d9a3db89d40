/-
# TfnAks.Vcu.TransitionLaw — which state follows which, and why

`run` can leave a state at four places: the emergency-stop flag, the critical condition, an event
that counts in every state, and the `switch` over the state. `VcuLogic.Allowed` lists the changes
this leaves possible, each with what must be true for it, and `run_allowed` says there are no
others.

The list has one entry less than the code has branches: `run` also enters `emergencyStop` on an
event from the queue. `postEvent` never puts that event there
(`VcuLogic.Reachable.noEmergencyStop`).

From the law follow two facts about whole histories: how a `drive` period came about (`DriveSince`),
and that a critical snapshot locks the vehicle in `fault` and `emergencyStop`.
-/
import TfnAks.Vcu.Contactors
import TfnAks.Vcu.EmergencyStop
import TfnAks.Vcu.Freshness

namespace TfnAks.Vcu

open TfnAks.Lib.Runs

/-! ## The law -/

/-- The changes of state an iteration from `s` may make. -/
inductive VcuLogic.Allowed (s : VcuLogic) : VcuState → VcuState → Prop where
  | start : s.consumes = some .startRequest → s.Allowed .idle .ready
  | driveEnable : s.consumes = some .driveEnable → s.Allowed .ready .drive
  | emergencyStop (st : VcuState) : s.eStopPending = true → s.Allowed st .emergencyStop
  | critical (st : VcuState) : st = .idle ∨ st = .ready ∨ st = .drive →
      hasCriticalCondition s.telLatestData st = true → s.Allowed st .fault
  | faultDetected (st : VcuState) : s.consumes = some .faultDetected → s.Allowed st .fault
  | reset (st : VcuState) : st = .fault ∨ st = .emergencyStop → s.consumes = some .reset →
      isResetInterlockSatisfied s.telLatestData st = true → s.Allowed st .idle

/-- The three ways an iteration goes, with the state each of them ends in. -/
theorem nextState_cases (s : VcuLogic) :
    (s.preempts = true ∧ s.nextState = .emergencyStop) ∨
      (s.trips = true ∧ s.nextState = .fault) ∨
        (s.polls = true ∧
          s.nextState = s.consumes.elim s.state (s.state.after s.telLatestData)) := by
  unfold VcuLogic.nextState
  rcases run_trichotomy s with h | ⟨hp, ht⟩ | h
  · exact Or.inl ⟨h, if_pos h⟩
  · right; left
    rw [if_neg (by simp [hp]), if_pos ht]
    exact ⟨ht, rfl⟩
  · right; right
    have hcut := polls_iff.mp h
    rw [if_neg (by simp [hcut.1]), if_neg (by simp [hcut.2])]
    exact ⟨h, rfl⟩

theorem consumes_mem_queue {s : VcuLogic} {event : VcuEvent} (h : s.consumes = some event) :
    event ∈ s.queue := by
  unfold VcuLogic.consumes at h
  split at h
  · exact List.mem_of_head? h
  · simp at h

/-- An event changes the state by one of the entries of the law, unless it is the stop itself. -/
theorem after_allowed {s : VcuLogic} {event : VcuEvent} (hc : s.consumes = some event)
    (he : event ≠ .emergencyStop) (hne : s.state.after s.telLatestData event ≠ s.state) :
    s.Allowed s.state (s.state.after s.telLatestData event) := by
  cases event with
  | emergencyStop => exact absurd rfl he
  | none => exact absurd rfl hne
  | faultDetected => exact .faultDetected _ hc
  | startRequest =>
      -- each of the requests has one state in which it is granted
      by_cases hs : s.state = .idle
      · have hafter : s.state.after s.telLatestData .startRequest = .ready := if_pos hs
        rw [hafter, hs]
        exact .start hc
      · exact absurd (if_neg hs) hne
  | driveEnable =>
      by_cases hs : s.state = .ready
      · have hafter : s.state.after s.telLatestData .driveEnable = .drive := if_pos hs
        rw [hafter, hs]
        exact .driveEnable hc
      · exact absurd (if_neg hs) hne
  | reset =>
      by_cases hs : (s.state = .fault ∨ s.state = .emergencyStop) ∧
          isResetInterlockSatisfied s.telLatestData s.state = true
      · have hafter : s.state.after s.telLatestData .reset = .idle := if_pos hs
        rw [hafter]
        exact .reset _ hs.1 hc hs.2
      · exact absurd (if_neg hs) hne

theorem nextState_allowed {s : VcuLogic} (hq : .emergencyStop ∉ s.queue)
    (hne : s.nextState ≠ s.state) : s.Allowed s.state s.nextState := by
  rcases nextState_cases s with ⟨hp, hn⟩ | ⟨ht, hn⟩ | ⟨_, hn⟩
  · rw [hn]
    rw [VcuLogic.preempts, Bool.and_eq_true] at hp
    exact .emergencyStop _ hp.1
  · rw [hn]
    rw [VcuLogic.trips, Bool.and_eq_true] at ht
    refine .critical _ ?_ ht.2
    have hmon := ht.1
    cases hs : s.state <;> simp [hs, VcuState.isMonitored] at hmon ⊢
  · rw [hn] at hne ⊢
    cases hc : s.consumes with
    | none =>
        rw [hc] at hne
        exact absurd rfl hne
    | some event =>
        rw [hc] at hne
        refine after_allowed hc ?_ hne
        rintro rfl
        exact hq (consumes_mem_queue hc)

/-! ## The queue never holds an emergency stop -/

theorem postEvent_noEmergencyStop {s : VcuLogic} (event : VcuEvent)
    (h : .emergencyStop ∉ s.queue) : .emergencyStop ∉ (s.postEvent event).queue := by
  rcases postEvent_queue s event with hq | ⟨he, _, hq⟩
  · rwa [hq]
  · rw [hq, List.mem_append, List.mem_singleton]
    rintro (hmem | heq)
    · exact h hmem
    · exact he heq.symm

theorem step_noEmergencyStop (s : VcuLogic) (a : VcuAction) (h : .emergencyStop ∉ s.queue) :
    .emergencyStop ∉ (s.step a).queue := by
  cases a with
  | postEvent event => exact postEvent_noEmergencyStop event h
  | setTelemetryData d =>
      rw [VcuLogic.step, setTelemetryData_queue]
      exact h
  | run =>
      rw [VcuLogic.step, run_queue]
      split
      · intro hmem
        exact h (List.mem_of_mem_tail hmem)
      · exact h

theorem VcuLogic.Reachable.noEmergencyStop {s : VcuLogic} (h : s.Reachable) :
    .emergencyStop ∉ s.queue :=
  h.invariant (by decide) step_noEmergencyStop

/-- In a reachable state the law covers every change of an iteration. -/
theorem run_allowed {s : VcuLogic} (h : s.Reachable) (hne : s.run.state ≠ s.state) :
    s.Allowed s.state s.run.state := by
  rw [run_state] at hne ⊢
  exact nextState_allowed h.noEmergencyStop hne

/-! ## Where `ready` and `drive` come from -/

/-- The history ends in a `ready` period: a START_REQUEST was consumed in `idle`, and every state
since then was `ready`. -/
def ReadySince (history : List VcuAction) : Prop :=
  ∃ before since, history = before ++ .run :: since ∧
    (exec VcuLogic.step .booted before).state = .idle ∧
    (exec VcuLogic.step .booted before).consumes = some .startRequest ∧
    Always VcuLogic.step (exec VcuLogic.step .booted before).run since fun s => s.state = .ready

/-- The history ends in a `drive` period: a DRIVE_ENABLE was consumed in `ready`, every state since
then was `drive`, and the `ready` period before it began with a START_REQUEST in `idle`. -/
def DriveSince (history : List VcuAction) : Prop :=
  ∃ before since, history = before ++ .run :: since ∧
    ReadySince before ∧
    (exec VcuLogic.step .booted before).state = .ready ∧
    (exec VcuLogic.step .booted before).consumes = some .driveEnable ∧
    Always VcuLogic.step (exec VcuLogic.step .booted before).run since fun s => s.state = .drive

/-- The law has one way into `target`: `event` is consumed in `source`. -/
def EnteredBy (source : VcuState) (event : VcuEvent) (target : VcuState) : Prop :=
  ∀ (s : VcuLogic) (st : VcuState), s.Allowed st target → st = source ∧ s.consumes = some event

theorem ready_enteredBy : EnteredBy .idle .startRequest .ready := by
  intro s st hallowed
  cases hallowed with
  | start hc => exact ⟨rfl, hc⟩

theorem drive_enteredBy : EnteredBy .ready .driveEnable .drive := by
  intro s st hallowed
  cases hallowed with
  | driveEnable hc => exact ⟨rfl, hc⟩

/-- A step that ends in `target` kept it or came in that way. -/
theorem step_enters {source target : VcuState} {event : VcuEvent}
    (hentry : EnteredBy source event target) {s : VcuLogic} (h : s.Reachable) {a : VcuAction}
    (ht : (s.step a).state = target) :
    s.state = target ∨ (a = .run ∧ s.state = source ∧ s.consumes = some event) := by
  by_cases ha : a = .run
  · subst ha
    by_cases hsame : s.run.state = s.state
    · exact Or.inl (hsame.symm.trans ht)
    · have hallowed := run_allowed h hsame
      rw [show s.run.state = target from ht] at hallowed
      exact Or.inr ⟨rfl, hentry s s.state hallowed⟩
  · rw [step_state_of_ne_run s ha] at ht
    exact Or.inl ht

/-- One more action that stays in the state keeps a period going. -/
theorem since_concat {st : VcuState} {before since : List VcuAction} {a : VcuAction}
    (h : Always VcuLogic.step (exec VcuLogic.step .booted before).run since fun s => s.state = st)
    (ha : (exec VcuLogic.step .booted ((before ++ .run :: since) ++ [a])).state = st) :
    Always VcuLogic.step (exec VcuLogic.step .booted before).run (since ++ [a])
      fun s => s.state = st := by
  refine h.concat ?_
  simpa [VcuLogic.step] using ha

/-- **Where a period comes from.** A history that ends in `target` has entered it by `event` in
`source` and stayed. -/
theorem since_of_state {source target : VcuState} {event : VcuEvent}
    (hentry : EnteredBy source event target) (hboot : VcuLogic.booted.state ≠ target)
    (history : List VcuAction) (h : (exec VcuLogic.step .booted history).state = target) :
    ∃ before since, history = before ++ .run :: since ∧
      (exec VcuLogic.step .booted before).state = source ∧
      (exec VcuLogic.step .booted before).consumes = some event ∧
      Always VcuLogic.step (exec VcuLogic.step .booted before).run since
        fun s => s.state = target := by
  induction history using List.reverseRecOn with
  | nil => exact absurd h hboot
  | append_singleton history a ih =>
      have hstep := h
      rw [exec_append, exec_cons, exec_nil] at hstep
      rcases step_enters hentry ⟨history, rfl⟩ hstep with hstays | ⟨rfl, hsource, hc⟩
      · obtain ⟨before, since, rfl, hsource, hc, halways⟩ := ih hstays
        exact ⟨before, since ++ [a], by simp, hsource, hc, since_concat halways h⟩
      · exact ⟨history, [], rfl, hsource, hc, always_nil.mpr hstep⟩

theorem readySince_of_ready (history : List VcuAction)
    (h : (exec VcuLogic.step .booted history).state = .ready) : ReadySince history :=
  since_of_state ready_enteredBy (by decide) history h

theorem driveSince_of_drive (history : List VcuAction)
    (h : (exec VcuLogic.step .booted history).state = .drive) : DriveSince history := by
  obtain ⟨before, since, hsplit, hready, hc, halways⟩ :=
    since_of_state drive_enteredBy (by decide) history h
  exact ⟨before, since, hsplit, readySince_of_ready before hready, hready, hc, halways⟩

/-! ## The fault latch -/

/-- The VCU is stopped and its snapshot is critical there. -/
def VcuLogic.LockedOut (s : VcuLogic) : Prop :=
  s.state.isStopped = true ∧ hasCriticalCondition s.telLatestData .fault = true

/-- An action that sets no snapshot, or a critical one. -/
def VcuAction.KeepsCritical : VcuAction → Prop
  | .setTelemetryData d => hasCriticalCondition d .fault = true
  | _ => True

/-- A critical snapshot refuses the RESET in both stopped states. -/
theorem isResetInterlockSatisfied_of_critical {d : TelemetryData} {st : VcuState}
    (hs : st.isStopped = true) (h : hasCriticalCondition d .fault = true) :
    isResetInterlockSatisfied d st = false := by
  have hst : hasCriticalCondition d st = true := by
    have hne : st ≠ .idle := by
      rintro rfl
      exact absurd hs (by decide)
    have hfault : VcuState.fault ≠ .idle := by decide
    rw [hasCriticalCondition_of_ne_idle d hne, ← hasCriticalCondition_of_ne_idle d hfault]
    exact h
  unfold isResetInterlockSatisfied
  rw [hst]
  split <;> rfl

theorem run_lockedOut {s : VcuLogic} (h : s.LockedOut) : s.run.LockedOut := by
  refine ⟨?_, by rw [run_telLatestData]; exact h.2⟩
  rw [run_state]
  rcases nextState_cases s with ⟨_, hn⟩ | ⟨_, hn⟩ | ⟨_, hn⟩
  · rw [hn]
    rfl
  · rw [hn]
    rfl
  · rw [hn]
    cases s.consumes with
    | none => exact h.1
    | some event =>
        by_cases he : event = .reset
        · -- the interlock is what keeps the state
          subst he
          have hrefused := isResetInterlockSatisfied_of_critical h.1 h.2
          simp only [Option.elim, VcuState.after, hrefused]
          simpa using h.1
        · exact after_isStopped h.1 he

theorem step_lockedOut (s : VcuLogic) (a : VcuAction) (ha : a.KeepsCritical) (h : s.LockedOut) :
    (s.step a).LockedOut := by
  cases a with
  | run => exact run_lockedOut h
  | postEvent event =>
      refine ⟨?_, by rw [VcuLogic.step, postEvent_telLatestData]; exact h.2⟩
      rw [step_state_of_ne_run s (by simp)]
      exact h.1
  | setTelemetryData d =>
      refine ⟨?_, ?_⟩
      · rw [step_state_of_ne_run s (by simp)]
        exact h.1
      · rw [VcuLogic.step]
        rcases setTelemetryData_cases s d with hs | ⟨_, hs⟩
        · rw [hs]
          exact h.2
        · rw [hs]
          exact ha

theorem exec_lockedOut {s : VcuLogic} (h : s.LockedOut) {later : List VcuAction}
    (hlater : ∀ a ∈ later, a.KeepsCritical) : (exec VcuLogic.step s later).LockedOut :=
  exec_invariant_of_forall step_lockedOut h hlater

/-! ## The two together -/

/-- **The transition law and the fault latch.** In every reachable state an iteration changes the
state only as the law allows; every history that ends in `drive` came there by a START_REQUEST in
`idle` and a DRIVE_ENABLE in `ready`, through `ready` and `drive` only; and once stopped the VCU
stays stopped while every snapshot is critical. -/
theorem transition_law_and_fault_latch :
    (∀ s : VcuLogic, s.Reachable → s.run.state ≠ s.state → s.Allowed s.state s.run.state) ∧
      (∀ history, (exec VcuLogic.step .booted history).state = .drive → DriveSince history) ∧
      (∀ s : VcuLogic, s.state.isStopped = true →
        hasCriticalCondition s.telLatestData .fault = true →
        ∀ later, (∀ a ∈ later, VcuAction.KeepsCritical a) →
          (exec VcuLogic.step s later).state.isStopped = true) := by
  refine ⟨?_, ?_, ?_⟩
  · intro s hs hne
    exact run_allowed hs hne
  · intro history h
    exact driveSince_of_drive history h
  · intro s hstopped hcrit later hlater
    have hlocked : s.LockedOut := ⟨hstopped, hcrit⟩
    exact (exec_lockedOut hlocked hlater).1

end TfnAks.Vcu
