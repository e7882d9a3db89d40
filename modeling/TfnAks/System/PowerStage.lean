/-
# TfnAks.System.PowerStage — the contactors come open when the bus works again

The driver logs a failed SPI transfer and forgets it, and nothing reads the chip back: after a
failure the VCU takes contactors for open that are not. What makes up for it is that the handlers of
`fault` and `emergencyStop` go on calling `allOff` about once a second. This module puts the VCU in
front of the driver, the bus and the chip (`PowerStage`): from any state that a history with any
failures has left behind, a stop that lasts opens the contactors in a bounded number of iterations
from the moment the bus works, and they stay open until the operator starts the vehicle again
(`recovered_bus_opens_contactors`).

The bound is two seconds. The log time that paces the calls is compared with a timer that wraps, and
in the one iteration after the wrap the opening delay suppresses the call that is due, so one second
is not enough there.
-/
import TfnAks.Relay.ShadowState
import TfnAks.Vcu.FailedStart
import TfnAks.Vcu.Reassertion

namespace TfnAks.System

open TfnAks.Lib.Runs TfnAks.Lib.Cadence TfnAks.Relay TfnAks.Vcu

/-! ## The VCU and what its relay calls go to -/

/-- The VCU and the board it drives. -/
structure PowerStage where
  vcu : VcuLogic
  board : Board

/-- After `begin` has returned true and `init` has called `allOff`, whatever became of the writes.
-/
def PowerStage.booted (spi : SpiBus) : PowerStage :=
  ⟨.booted, exec (Board.step spi) .powerOn [.begin true true, .allOff false]⟩

/-- An action of the VCU, and its relay calls on the board. -/
def PowerStage.step (spi : SpiBus) (p : PowerStage) (a : VcuAction) : PowerStage :=
  ⟨p.vcu.step a, exec (Board.step spi) p.board (p.vcu.callsOf a).flatten⟩

/-- The driver of the board is the one the VCU calls, and it has its device. -/
structure PowerStage.Linked (p : PowerStage) : Prop where
  mgr_eq : p.board.mgr = p.vcu.relays
  spiDev : p.board.mgr.spiDev = true

theorem callsOf_run (s : VcuLogic) : s.callsOf .run = [s.runCall.toList] := by
  rw [VcuLogic.callsOf, run_relayCalls, List.drop_left]

theorem callsOf_of_ne_run (s : VcuLogic) {a : VcuAction} (ha : a ≠ .run) : s.callsOf a = [] := by
  cases a with
  | run => exact absurd rfl ha
  | _ => rfl

theorem boardStep_mgr (spi : SpiBus) (b : Board) (op : RelayOp) :
    (b.step spi op).mgr = (op.call b.mgr).1 :=
  (exec_transmit_fields spi (b.enter op) (op.call b.mgr).2).2

theorem booted_linked (spi : SpiBus) : (PowerStage.booted spi).Linked := by
  have hmgr : (PowerStage.booted spi).board.mgr = VcuLogic.booted.relays := by
    rw [PowerStage.booted, exec_cons, exec_cons, exec_nil, boardStep_mgr, boardStep_mgr]
    rfl
  refine ⟨hmgr, ?_⟩
  rw [hmgr]
  rfl

theorem step_linked (spi : SpiBus) (p : PowerStage) (a : VcuAction) (h : p.Linked) :
    (p.step spi a).Linked := by
  by_cases ha : a = .run
  · -- the driver object in the board makes the call that the VCU's own made
    subst ha
    have hboard : (p.step spi .run).board = exec (Board.step spi) p.board p.vcu.runCall.toList := by
      rw [PowerStage.step, callsOf_run, List.flatten_singleton]
    have hvcu : (p.step spi .run).vcu.relays = afterCall p.vcu.relays p.vcu.runCall :=
      run_relays p.vcu
    cases hcall : p.vcu.runCall with
    | none =>
        rw [hcall] at hboard hvcu
        exact ⟨(congrArg Board.mgr hboard).trans (h.mgr_eq.trans hvcu.symm), by
          rw [hboard]; exact h.spiDev⟩
    | some op =>
        rw [hcall] at hboard hvcu
        have hmgr : (p.step spi .run).board.mgr = (op.call p.board.mgr).1 := by
          rw [hboard]
          exact boardStep_mgr spi p.board op
        refine ⟨?_, ?_⟩
        · rw [hmgr, hvcu, h.mgr_eq]
          rfl
        · rw [hmgr]
          exact call_spiDev h.spiDev op
  · have hcalls := callsOf_of_ne_run p.vcu ha
    refine ⟨?_, ?_⟩
    · rw [PowerStage.step, hcalls, step_eq_withInputs p.vcu ha]
      exact h.mgr_eq
    · rw [PowerStage.step, hcalls]
      exact h.spiDev

theorem exec_linked (spi : SpiBus) (history : List VcuAction) :
    (exec (PowerStage.step spi) (.booted spi) history).Linked :=
  exec_invariant (step_linked spi) (booted_linked spi) history

/-- A run of the two is a run of the VCU, and its relay calls on the board. -/
theorem exec_powerStage (spi : SpiBus) (p : PowerStage) (as : List VcuAction) :
    (exec (PowerStage.step spi) p as).vcu = exec VcuLogic.step p.vcu as ∧
      (exec (PowerStage.step spi) p as).board =
        exec (Board.step spi) p.board
          (gather VcuLogic.step VcuLogic.callsOf p.vcu as).flatten := by
  induction as generalizing p with
  | nil => exact ⟨rfl, rfl⟩
  | cons a as ih =>
      obtain ⟨hvcu, hboard⟩ := ih (p.step spi a)
      rw [exec_cons, exec_cons, gather_cons, List.flatten_append, exec_append]
      exact ⟨hvcu, hboard⟩

/-! ## The board when the bus works -/

/-- All sixteen latches are high, and the driver's word has no relay on. -/
structure Opened (b : Board) : Prop where
  latches : ∀ port, b.chip.olat port = 0xFF
  shadow : b.mgr.relayState = 0

theorem Opened.latchLow {b : Board} (h : Opened b) {pin : ℕ} (hpin : pin < 16) :
    b.chip.latchLow pin = false := by
  rw [Mcp23s17.latchLow, h.latches, allOnes_getLsbD (bitOf_lt hpin)]
  rfl

/-- The bus works from the next transfer on. -/
def BusWorks (spi : SpiBus) (b : Board) : Prop := ∀ n, b.transmits ≤ n → spi n = true

theorem exec_transmits (spi : SpiBus) (b : Board) (ws : List SpiWrite) :
    (exec (Board.transmit spi) b ws).transmits = b.transmits + ws.length := by
  induction ws generalizing b with
  | nil => rfl
  | cons w ws ih =>
      rw [exec_cons, ih, transmit_transmits, List.length_cons, Nat.add_assoc, Nat.add_comm 1]

theorem BusWorks.step {spi : SpiBus} {b : Board} (h : BusWorks spi b) (op : RelayOp) :
    BusWorks spi (b.step spi op) := by
  intro n hn
  rw [Board.step, exec_transmits] at hn
  exact h n (Nat.le_trans (Nat.le_add_right _ _) hn)

theorem allOff_opened {spi : SpiBus} {b : Board} (hdev : b.mgr.spiDev = true)
    (hbus : BusWorks spi b) (silent : Bool) : Opened (b.step spi (.allOff silent)) := by
  have hwrites : ((RelayOp.allOff silent).call b.mgr).2 =
      [⟨.olat .a, 0xFF⟩, ⟨.olat .b, 0xFF⟩] := by
    simp [RelayOp.call, RelayManager.allOff, RelayManager.writeRegister, hdev]
  constructor
  · intro port
    rw [Board.step, hwrites, exec_cons, exec_cons, exec_nil, latch_writes_olat]
    cases port with
    | a => exact if_pos (hbus _ (Nat.le_refl _))
    | b => exact if_pos (hbus _ (Nat.le_succ _))
  · rw [boardStep_mgr]
    simp [RelayOp.call, RelayManager.allOff]

/-- **Any number of `allOff`**, and one at least if the board is not open yet. -/
theorem exec_allOff_opened {spi : SpiBus} {b : Board} (hdev : b.mgr.spiDev = true)
    (hbus : BusWorks spi b) {ops : List RelayOp} (hops : ∀ op ∈ ops, ∃ silent, op = .allOff silent)
    (h : Opened b ∨ ops ≠ []) :
    Opened (exec (Board.step spi) b ops) ∧ BusWorks spi (exec (Board.step spi) b ops) := by
  induction ops generalizing b with
  | nil => exact ⟨h.resolve_right fun hne => hne rfl, hbus⟩
  | cons op ops ih =>
      rw [List.forall_mem_cons] at hops
      obtain ⟨⟨silent, rfl⟩, hops⟩ := hops
      have hdev' : (b.step spi (.allOff silent)).mgr.spiDev = true := by
        rw [boardStep_mgr]
        exact call_spiDev hdev _
      rw [exec_cons]
      exact ih hdev' (hbus.step _) hops (.inl (allOff_opened hdev hbus silent))

/-! ## A stretch of a run -/

/-- The relay calls of a stretch. -/
def callsIn (s : VcuLogic) (as : List VcuAction) : List RelayOp :=
  (gather VcuLogic.step VcuLogic.callsOf s as).flatten

theorem callsIn_cons (s : VcuLogic) (a : VcuAction) (as : List VcuAction) :
    callsIn s (a :: as) = (s.callsOf a).flatten ++ callsIn (s.step a) as := by
  rw [callsIn, gather_cons, List.flatten_append]
  rfl

theorem callsIn_append (s : VcuLogic) (as bs : List VcuAction) :
    callsIn s (as ++ bs) = callsIn s as ++ callsIn (exec VcuLogic.step s as) bs := by
  rw [callsIn, gather_append, List.flatten_append]
  rfl

/-- A stretch calls nothing but `allOff` if each iteration does so under an invariant of it. -/
theorem callsIn_opensOnly {I : VcuLogic → Prop} {C : VcuLogic → VcuAction → Prop}
    (hrun : ∀ s, I s → C s .run → s.runCall = none ∨ ∃ silent, s.runCall = some (.allOff silent))
    (hkeep : ∀ s a, I s → C s a → I (s.step a)) {s : VcuLogic} (hs : I s) {as : List VcuAction}
    (hC : Before VcuLogic.step s as C) : ∀ op ∈ callsIn s as, ∃ silent, op = .allOff silent := by
  induction as generalizing s with
  | nil => exact fun op hop => absurd hop List.not_mem_nil
  | cons a as ih =>
      rw [before_cons] at hC
      have hrest := ih (hkeep s a hs hC.1) hC.2
      rw [callsIn_cons]
      by_cases ha : a = .run
      · subst ha
        intro op hop
        rw [callsOf_run, List.flatten_singleton, List.mem_append] at hop
        rcases hop with hop | hop
        · rcases hrun s hs hC.1 with hc | ⟨silent, hc⟩
          · rw [hc] at hop
            exact absurd hop List.not_mem_nil
          · rw [hc] at hop
            exact ⟨silent, List.mem_singleton.mp hop⟩
        · exact hrest op hop
      · rw [callsOf_of_ne_run s ha]
        exact hrest

/-- **A stretch that only opens** leaves the board open, if it was or if anything was called. -/
theorem exec_opensOnly {spi : SpiBus} {p : PowerStage} (hlinked : p.Linked)
    (hbus : BusWorks spi p.board) {as : List VcuAction}
    (hops : ∀ op ∈ callsIn p.vcu as, ∃ silent, op = .allOff silent)
    (h : Opened p.board ∨ callsIn p.vcu as ≠ []) :
    Opened (exec (PowerStage.step spi) p as).board ∧
      BusWorks spi (exec (PowerStage.step spi) p as).board := by
  rw [(exec_powerStage spi p as).2]
  exact exec_allOff_opened hlinked.spiDev hbus hops h

/-! ## The VCU in a stop that lasts -/

/-- The VCU is in `fault` or `emergencyStop`, and no stop event waits in its queue. -/
structure Stopped (s : VcuLogic) : Prop where
  state : s.state.isStopped = true
  queue : .emergencyStop ∉ s.queue

/-- What an iteration that stays does to a stopped VCU. -/
structure StaysStopped (s s' : VcuLogic) : Prop where
  stopped : Stopped s'
  timer : s'.stateTimer = s.stateTimer + taskPeriodMs
  lastLog : s'.lastLogMs = logTime (s.stateTimer + taskPeriodMs) s.lastLogMs

theorem run_staysStopped {s : VcuLogic} (h : Stopped s) (hquiet : s.StaysQuiet) :
    StaysStopped s s.run ∧
      s.callsOf .run =
        [(openingCall (s.stateTimer + taskPeriodMs) s.opened s.lastLogMs).toList] := by
  have hrun : s.run = s.polled.periodic :=
    run_of_stopped h.state (reachesHandler_of_staysQuiet h.state h.queue hquiet)
  have hstopped : s.polled.state.isStopped = true := h.state
  refine ⟨⟨⟨?_, step_noEmergencyStop s .run h.queue⟩, ?_, ?_⟩, ?_⟩
  · rw [hquiet.1]
    exact h.state
  · rw [hrun, (periodic_frame s.polled).2.1]
    rfl
  · rw [hrun, periodic_lastLogMs hstopped]
    rfl
  · have hcalls : s.run.relayCalls = s.relayCalls ++ s.polled.handlerCall.toList := by
      rw [hrun, periodic_relayCalls]
      rfl
    rw [VcuLogic.callsOf, hcalls, List.drop_left, handlerCall_of_stopped hstopped]
    rfl

/-- Posts and telemetry updates do nothing to it. -/
theorem between_stopped {s : VcuLogic} (h : Stopped s) {a : VcuAction} (ha : a ≠ .run) :
    Stopped (s.step a) ∧ (s.step a).stateTimer = s.stateTimer ∧
      (s.step a).lastLogMs = s.lastLogMs ∧ s.callsOf a = [] := by
  have hqueue := step_noEmergencyStop s a h.queue
  have hcalls := callsOf_of_ne_run s ha
  rw [step_eq_withInputs s ha] at hqueue ⊢
  exact ⟨⟨h.state, hqueue⟩, rfl, rfl, hcalls⟩

/-- Each iteration of the stretch stays, quietly. -/
def Quiet (s : VcuLogic) (as : List VcuAction) : Prop :=
  Before VcuLogic.step s as fun t a => a = .run → t.StaysQuiet

/-- The timer after a number of iterations. -/
def timerAfter (s : VcuLogic) (k : ℕ) : UInt32 := s.stateTimer + UInt32.ofNat (20 * k)

theorem timerAfter_succ {s s' : VcuLogic} (h : s'.stateTimer = s.stateTimer + taskPeriodMs)
    (k : ℕ) : timerAfter s' k = timerAfter s (k + 1) := by
  rw [timerAfter, timerAfter, h, UInt32.add_assoc, UInt32.add_comm taskPeriodMs, timer_succ]

/-- A quiet stretch stays stopped and counts its iterations. -/
theorem exec_stopped {s : VcuLogic} (h : Stopped s) {as : List VcuAction} (hquiet : Quiet s as) :
    Stopped (exec VcuLogic.step s as) ∧
      (exec VcuLogic.step s as).stateTimer = timerAfter s (as.count .run) := by
  induction as generalizing s with
  | nil => exact ⟨h, (UInt32.add_zero _).symm⟩
  | cons a as ih =>
      rw [Quiet, before_cons] at hquiet
      rw [exec_cons]
      by_cases ha : a = .run
      · subst ha
        obtain ⟨hstays, -⟩ := run_staysStopped h (hquiet.1 rfl)
        obtain ⟨hlast, htimer⟩ := ih hstays.stopped hquiet.2
        refine ⟨hlast, ?_⟩
        rw [List.count_cons_self, ← timerAfter_succ hstays.timer]
        exact htimer
      · obtain ⟨hstopped, htimer, -⟩ := between_stopped h ha
        obtain ⟨hlast, htimer'⟩ := ih hstopped hquiet.2
        refine ⟨hlast, ?_⟩
        rw [List.count_cons_of_ne ha, htimer', timerAfter, timerAfter, htimer]

/-- It calls nothing but `allOff`. -/
theorem callsIn_of_quiet {s : VcuLogic} (h : Stopped s) {as : List VcuAction}
    (hquiet : Quiet s as) : ∀ op ∈ callsIn s as, ∃ silent, op = .allOff silent := by
  refine callsIn_opensOnly (I := Stopped) (fun s hs hstays => ?_) (fun s a hs hstays => ?_) h hquiet
  · refine runCall_of_isStopped ?_
    rw [← run_state, (hstays rfl).1]
    exact hs.state
  · by_cases ha : a = .run
    · subst ha
      exact (run_staysStopped hs (hstays rfl)).1.stopped
    · exact (between_stopped hs ha).1

/-- **A silent stretch** is one in which the log never came due, if the opening delay is over. -/
theorem not_due_of_silent {s : VcuLogic} (h : Stopped s) {as : List VcuAction}
    (hquiet : Quiet s as)
    (hdelay : ∀ k, 0 < k → k ≤ as.count .run → vcuContactorOpenDelayMs ≤ timerAfter s k)
    (hsilent : callsIn s as = []) :
    ∀ k, 0 < k → k ≤ as.count .run → timerAfter s k - s.lastLogMs < 1000 := by
  induction as generalizing s with
  | nil =>
      intro k hk hle
      exact absurd (Nat.lt_of_lt_of_le hk hle) (Nat.lt_irrefl 0)
  | cons a as ih =>
      rw [Quiet, before_cons] at hquiet
      rw [callsIn_cons, List.append_eq_nil_iff] at hsilent
      by_cases ha : a = .run
      · subst ha
        obtain ⟨hstays, hcalls⟩ := run_staysStopped h (hquiet.1 rfl)
        rw [List.count_cons_self] at hdelay ⊢
        have hnow : timerAfter s 1 = s.stateTimer + taskPeriodMs := rfl
        -- the delay has elapsed, so an iteration without a call found the log not yet due
        have hnotDue : timerAfter s 1 - s.lastLogMs < 1000 := by
          have hnone := hsilent.1
          rw [hcalls, List.flatten_singleton, ← hnow, openingCall,
            if_pos (hdelay 1 Nat.one_pos (Nat.succ_le_succ (Nat.zero_le _)))] at hnone
          split at hnone
          · exact absurd hnone (List.cons_ne_nil _ _)
          · split at hnone
            · exact absurd hnone (List.cons_ne_nil _ _)
            · rename_i hdue
              exact UInt32.not_le.mp hdue
        have hlast : s.run.lastLogMs = s.lastLogMs := by
          rw [hstays.lastLog, logTime, ← hnow, if_neg (UInt32.not_le.mpr hnotDue)]
        have hlater := ih hstays.stopped hquiet.2 (fun k hk hle => by
          rw [timerAfter_succ hstays.timer]
          exact hdelay (k + 1) (Nat.succ_pos k) (Nat.succ_le_succ hle)) hsilent.2
        intro k hk hle
        obtain ⟨k, rfl⟩ := Nat.exists_eq_add_one_of_ne_zero (Nat.pos_iff_ne_zero.mp hk)
        rcases Nat.eq_zero_or_pos k with rfl | hpos
        · exact hnotDue
        · have hlt := hlater k hpos (Nat.le_of_succ_le_succ hle)
          rw [timerAfter_succ hstays.timer, hlast] at hlt
          exact hlt
      · obtain ⟨hstopped, htimer, hlog, hcalls⟩ := between_stopped h ha
        have htimers : ∀ k, timerAfter (s.step a) k = timerAfter s k := fun k => by
          rw [timerAfter, timerAfter, htimer]
        rw [List.count_cons_of_ne ha] at hdelay ⊢
        have hlater := ih hstopped hquiet.2 (fun k hk hle => by
          rw [htimers]
          exact hdelay k hk hle) hsilent.2
        intro k hk hle
        have hlt := hlater k hk hle
        rw [htimers, hlog] at hlt
        exact hlt

/-- Fifty-two iterations, none of them within the opening delay, call `allOff`. -/
theorem callsIn_ne_nil {s : VcuLogic} (h : Stopped s) {as : List VcuAction} (hquiet : Quiet s as)
    (hlong : 52 ≤ as.count .run)
    (hdelay : ∀ k, 0 < k → k ≤ as.count .run → vcuContactorOpenDelayMs ≤ timerAfter s k) :
    callsIn s as ≠ [] := by
  intro hsilent
  have hage := not_due_of_silent h hquiet hdelay hsilent
  have hfirst := UInt32.lt_iff_toNat_lt.mp (hage 1 Nat.one_pos (Nat.le_trans (by decide) hlong))
  have hlast := UInt32.lt_iff_toNat_lt.mp (hage 52 (by decide) hlong)
  -- the log is more than a second older at the end than at the beginning
  have hlater : timerAfter s 52 - s.lastLogMs = (timerAfter s 1 - s.lastLogMs) + 1020 := by
    have htimer : timerAfter s 52 = timerAfter s 1 + 1020 := by
      rw [timerAfter, timerAfter, UInt32.add_assoc]
      rfl
    rw [htimer, UInt32.sub_eq_add_neg, UInt32.sub_eq_add_neg, UInt32.add_assoc,
      UInt32.add_comm 1020, ← UInt32.add_assoc]
  have hthousand : (1000 : UInt32).toNat = 1000 := rfl
  rw [hlater, UInt32.toNat_add, show (1020 : UInt32).toNat = 1020 from rfl,
    Nat.mod_eq_of_lt (by omega)] at hlast
  omega

/-- **Two seconds of a stop call `allOff`**, wherever the timer stands. If the timer wraps in the
first half, it does not in the second. -/
theorem callsIn_ne_nil_of_long {s : VcuLogic} (h : Stopped s) {as : List VcuAction}
    (hquiet : Quiet s as) (hlong : 104 ≤ as.count .run) : callsIn s as ≠ [] := by
  obtain ⟨bs, rest, rfl, hbs⟩ :=
    exists_append_count VcuAction.run (show 52 ≤ as.count .run by omega)
  rw [List.count_append, hbs] at hlong
  obtain ⟨cs, ds, rfl, hcs⟩ :=
    exists_append_count VcuAction.run (show 52 ≤ rest.count .run by omega)
  obtain ⟨hquietBs, hquietRest⟩ := before_append.mp hquiet
  obtain ⟨hquietCs, -⟩ := before_append.mp hquietRest
  obtain ⟨hstopped, htimer⟩ := exec_stopped h hquietBs
  rw [hbs] at htimer
  rw [callsIn_append, callsIn_append]
  have hmod : ∀ k, (timerAfter s k).toNat = (s.stateTimer.toNat + 20 * k) % 2 ^ 32 := fun k => by
    rw [timerAfter, UInt32.toNat_add, UInt32.toNat_ofNat', Nat.add_mod_mod]
  by_cases hwrap : ∃ k ≤ 52, timerAfter s k < vcuContactorOpenDelayMs
  · -- the timer has just wrapped, and is far from it in the second half
    obtain ⟨k, hk, hlow⟩ := hwrap
    have hcalls : callsIn (exec VcuLogic.step s bs) cs ≠ [] := by
      refine callsIn_ne_nil hstopped hquietCs (Nat.le_of_eq hcs.symm) fun k' hk' hle => ?_
      have hafter : timerAfter (exec VcuLogic.step s bs) k' = timerAfter s (52 + k') := by
        rw [timerAfter, htimer, timerAfter, timerAfter, UInt32.add_assoc, ← UInt32.ofNat_add,
          Nat.mul_add]
      have hlow' := UInt32.lt_iff_toNat_lt.mp hlow
      have hdelay : vcuContactorOpenDelayMs.toNat = 20 := rfl
      obtain ⟨j, hj⟩ := Nat.exists_eq_add_of_le (show k ≤ 52 + k' by omega)
      rw [hafter, UInt32.le_iff_toNat_le, hmod, hj, Nat.mul_add, ← Nat.add_assoc,
        ← Nat.mod_add_mod, ← hmod, Nat.mod_eq_of_lt (by omega)]
      omega
    intro hnil
    exact hcalls (List.append_eq_nil_iff.mp (List.append_eq_nil_iff.mp hnil).2).1
  · -- no iteration of the first half comes within the delay of a wrap
    have hcalls : callsIn s bs ≠ [] := by
      refine callsIn_ne_nil h hquietBs (Nat.le_of_eq hbs.symm) fun k hk hle => ?_
      by_contra hlow
      exact hwrap ⟨k, hbs ▸ hle, UInt32.not_le.mp hlow⟩
    intro hnil
    exact hcalls (List.append_eq_nil_iff.mp hnil).1

/-! ## Until the next start -/

/-- From a state in which the vehicle is not under way, nothing but `allOff` is called until an
iteration takes a START_REQUEST. -/
theorem callsIn_of_startsNothing {s : VcuLogic} (hdown : s.state.isLive = false)
    {as : List VcuAction} (hstarts : Before VcuLogic.step s as VcuLogic.StartsNothing) :
    ∀ op ∈ callsIn s as, ∃ silent, op = .allOff silent := by
  have hnext : ∀ s : VcuLogic, s.state.isLive = false → s.StartsNothing .run →
      s.run.state.isLive = false := by
    intro s hdown hstarts
    have hstays : s.staysLive = false := by simp [VcuLogic.staysLive, hdown]
    rw [Bool.eq_false_iff, ne_eq, run_isLive_iff, hstarts rfl, hstays]
    simp
  refine callsIn_opensOnly (I := fun s => s.state.isLive = false) (fun s hs hC => ?_)
    (fun s a hs hC => ?_) hdown hstarts
  · rcases runCall_cases s with hc | ⟨silent, hc, -⟩ | ⟨-, hready⟩
    · exact .inl hc
    · exact .inr ⟨silent, hc⟩
    · have hlive := hnext s hs hC
      rw [run_state, hready] at hlive
      exact absurd hlive (by decide)
  · by_cases ha : a = .run
    · subst ha
      exact hnext s hs hC
    · rw [step_state_of_ne_run s ha]
      exact hs

theorem isLive_eq_false_of_isStopped {st : VcuState} (h : st.isStopped = true) :
    st.isLive = false := by
  by_contra hlive
  rw [isStopped_eq_false_of_isLive (Bool.not_eq_false _ ▸ hlive)] at h
  exact Bool.false_ne_true h

/-- An open board stays open until then. -/
theorem opened_untilStart {spi : SpiBus} {p : PowerStage} (hlinked : p.Linked)
    (hopened : Opened p.board) (hbus : BusWorks spi p.board) (hdown : p.vcu.state.isLive = false)
    {as : List VcuAction} (hstarts : Before VcuLogic.step p.vcu as VcuLogic.StartsNothing) :
    Opened (exec (PowerStage.step spi) p as).board :=
  (exec_opensOnly hlinked hbus (callsIn_of_startsNothing hdown hstarts) (.inl hopened)).1

/-- **The contactors come open when the bus works again.** Take any history after a successful boot,
with any transfers failing, that leaves the VCU in `fault` or `emergencyStop`, and let all transfers
succeed from then on. After two seconds of iterations that stay in the state and consume neither
FAULT_DETECTED nor RESET all sixteen latches are high, and they stay so whatever happens, until an
iteration takes a START_REQUEST in `idle`. The driver's shadow word says the same. -/
theorem recovered_bus_opens_contactors (spi : SpiBus) (history : List VcuAction)
    {as later : List VcuAction}
    (hstopped : (exec (PowerStage.step spi) (.booted spi) history).vcu.state.isStopped = true)
    (hbus : BusWorks spi (exec (PowerStage.step spi) (.booted spi) history).board)
    (hquiet : Quiet (exec (PowerStage.step spi) (.booted spi) history).vcu as)
    (hlong : 104 ≤ as.count .run)
    (hlater : Before VcuLogic.step
      (exec (PowerStage.step spi) (.booted spi) (history ++ as)).vcu later VcuLogic.StartsNothing) :
    let p := exec (PowerStage.step spi) (.booted spi) (history ++ as ++ later)
    (∀ pin < 16, p.board.chip.latchLow pin = false) ∧ p.board.mgr = p.vcu.relays ∧
      p.vcu.relays.ContactorsOpen := by
  intro p
  have hlinked := exec_linked spi history
  have hend : p.Linked := exec_linked spi _
  have hvcu := (exec_powerStage spi (.booted spi) history).1
  have hqueue : .emergencyStop ∉ (exec (PowerStage.step spi) (.booted spi) history).vcu.queue := by
    rw [hvcu]
    exact VcuLogic.Reachable.noEmergencyStop ⟨history, rfl⟩
  have hstop : Stopped (exec (PowerStage.step spi) (.booted spi) history).vcu := ⟨hstopped, hqueue⟩
  have hstill := (exec_stopped hstop hquiet).1
  -- the stretch opens the board
  obtain ⟨hopened, hbus'⟩ :=
    exec_opensOnly hlinked hbus (callsIn_of_quiet hstop hquiet)
      (.inr (callsIn_ne_nil_of_long hstop hquiet hlong))
  rw [← (exec_powerStage spi _ as).1] at hstill
  rw [← exec_append] at hopened hbus' hstill
  -- and nothing closes it
  have hfinal := opened_untilStart (exec_linked spi (history ++ as)) hopened hbus'
    (isLive_eq_false_of_isStopped hstill.state) hlater
  rw [← exec_append] at hfinal
  refine ⟨fun pin hpin => hfinal.latchLow hpin, hend.mgr_eq, ?_⟩
  rw [← hend.mgr_eq]
  exact contactorsOpen_of_relayState_zero hfinal.shadow

/-- A stop that nothing is posted to stays, quietly. -/
theorem quiet_undisturbed {s : VcuLogic} (hstopped : s.state.isStopped = true)
    (hqueue : s.queue = []) (hpending : s.eStopPending = false) (n : ℕ) :
    Quiet s (List.replicate n .run) := by
  induction n generalizing s with
  | zero => exact before_nil
  | succ n ih =>
      have hpreempts : s.preempts = false := by simp [VcuLogic.preempts, hpending]
      have htrips : s.trips = false := by
        cases hs : s.state <;> simp_all [VcuLogic.trips, VcuState.isMonitored, VcuState.isStopped]
      have hconsumes : s.consumes = none := by simp [VcuLogic.consumes, hqueue]
      have hstate : s.run.state = s.state := by
        simp [VcuLogic.nextState, hpreempts, htrips, hconsumes]
      rw [List.replicate_succ, Quiet, before_cons]
      refine ⟨fun _ => ⟨hstate, by simp [hconsumes], by simp [hconsumes]⟩, ih ?_ ?_ ?_⟩
      · exact hstate.symm ▸ hstopped
      · show s.run.queue = []
        rw [run_queue, hqueue]
        split <;> rfl
      · exact run_eStopPending s

/-- Every transfer of the boot fails, so the latches are low as after power-on. -/
def bootTransfersFail : SpiBus := fun n => decide (6 ≤ n)

/-- After the stop has opened the latches: a RESET that is accepted, and a fault. -/
def resetThenFault : List VcuAction := [.postEvent .reset, .run, .postEvent .faultDetected, .run]

/-- A stop right after such a boot. The latches it opens stay open in `idle` and in `fault`. -/
theorem stop_opens_after_failed_boot :
    (PowerStage.booted bootTransfersFail).board.chip.latchLow 0 = true ∧
      ∀ pin < 16, (exec (PowerStage.step bootTransfersFail) (.booted bootTransfersFail)
        ([.postEvent .emergencyStop, .run] ++ List.replicate 104 .run ++
          resetThenFault)).board.chip.latchLow pin = false := by
  have htransmits : (exec (PowerStage.step bootTransfersFail) (.booted bootTransfersFail)
      [.postEvent .emergencyStop, .run]).board.transmits = 6 := by decide
  have hbus : BusWorks bootTransfersFail (exec (PowerStage.step bootTransfersFail)
      (.booted bootTransfersFail) [.postEvent .emergencyStop, .run]).board := by
    intro n hn
    rw [htransmits] at hn
    exact decide_eq_true hn
  have hlong : 104 ≤ (List.replicate 104 VcuAction.run).count .run := by
    rw [List.count_replicate_self]
  have hlater : Before VcuLogic.step (exec (PowerStage.step bootTransfersFail)
      (.booted bootTransfersFail)
      ([.postEvent .emergencyStop, .run] ++ List.replicate 104 .run)).vcu resetThenFault
      fun s a => a = .run → s.startsReady = false := by decide +kernel
  refine ⟨by decide, ?_⟩
  exact (recovered_bus_opens_contactors bootTransfersFail [.postEvent .emergencyStop, .run]
    (by decide) hbus (quiet_undisturbed (by decide) (by decide) (by decide) 104) hlong
    hlater).1

end TfnAks.System
