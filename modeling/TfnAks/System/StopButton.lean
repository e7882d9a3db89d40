/-
# TfnAks.System.StopButton — from the stop button to the latches

The longest safety path of the firmware crosses all its parts: the frame of a touch comes in byte by
byte, the display task decodes it and posts the stop, the VCU enters `emergencyStop`, waits out the
opening delay and calls `allOff`, and the driver writes the latches. `Car` is the cockpit with the
board behind the VCU. On any interleaving of the three tasks, with any frames on the bus and any
other touches but RESET, the stop opens all latches within two iterations of the VCU and one more
for each event that can delay it, and they stay open (`stop_button_opens_contactors`).

What the transfers did before the stop does not matter; from then on they have to succeed. Otherwise
see `recovered_bus_opens_contactors`.
-/
import TfnAks.System.OperatorEvents
import TfnAks.System.PowerStage
import TfnAks.Vcu.StopOpening

namespace TfnAks.System

open TfnAks.Lib.Runs TfnAks.Lib.Mealy TfnAks.Hmi TfnAks.Relay TfnAks.Vcu

/-! ## The cockpit and the board -/

/-- The cockpit, with the board the VCU drives. -/
structure Car where
  cockpit : Cockpit
  board : Board

/-- The VCU of the cockpit and its board. -/
def Car.stage (c : Car) : PowerStage := ⟨c.cockpit.sys.vcu, c.board⟩

/-- The board after `app_main`, under any failing transfers. -/
def Car.boot (spi : SpiBus) : Car := ⟨.boot, (PowerStage.booted spi).board⟩

/-- A step of the cockpit; the board gets the calls of its VCU. -/
def Car.step (rpmToSpeedKmhX10 : UInt16 → UInt16) (spi : SpiBus) (c : Car) (a : CockpitAct) :
    Option Car :=
  (c.cockpit.step rpmToSpeedKmhX10 a).map fun cockpit =>
    ⟨cockpit, (exec (PowerStage.step spi) c.stage (c.cockpit.vcuActions a)).board⟩

section CarStep

variable {rpmToSpeedKmhX10 : UInt16 → UInt16} {spi : SpiBus} {c c' : Car}

theorem carStep_cases {a : CockpitAct} (h : c.step rpmToSpeedKmhX10 spi a = some c') :
    c.cockpit.step rpmToSpeedKmhX10 a = some c'.cockpit ∧
      c'.stage = exec (PowerStage.step spi) c.stage (c.cockpit.vcuActions a) := by
  obtain ⟨cockpit, hcockpit, rfl⟩ := Option.map_eq_some_iff.mp h
  refine ⟨hcockpit, ?_⟩
  have hvcu := (exec_powerStage spi c.stage (c.cockpit.vcuActions a)).1
  unfold Car.stage at hvcu ⊢
  rw [step_vcu hcockpit, ← hvcu]

/-- The driver's events come from the touches, and the board is behind the VCU's driver. -/
structure Car.Sound (c : Car) : Prop where
  driven : ∃ history, c.cockpit.Driven history
  linked : c.stage.Linked

theorem boot_sound (spi : SpiBus) : (Car.boot spi).Sound :=
  ⟨⟨[], boot_driven⟩, booted_linked spi⟩

theorem carStep_sound (c : Car) (a : CockpitAct) (c' : Car)
    (h : c.step rpmToSpeedKmhX10 spi a = some c') (hsound : c.Sound) : c'.Sound := by
  obtain ⟨hcockpit, hstage⟩ := carStep_cases h
  obtain ⟨history, hdriven⟩ := hsound.driven
  refine ⟨⟨_, step_driven hcockpit hdriven⟩, ?_⟩
  rw [hstage]
  exact exec_invariant (step_linked spi) hsound.linked _

end CarStep

/-! ## What a stretch of a run is to the VCU -/

/-- A piece of the VCU task. -/
def CockpitAct.isVcuPiece : CockpitAct → Bool
  | .task .vcuTask => true
  | _ => false

/-- The callback of the CAN task. -/
def CockpitAct.isCallback : CockpitAct → Bool
  | .task .callback => true
  | _ => false

/-- How many pieces of its pass the VCU task has done. -/
def VcuPc.pieces : VcuPc → ℕ
  | .peek => 0
  | .setTelemetry _ => 1
  | .run _ => 2

theorem VcuPc.pieces_le (pc : VcuPc) : pc.pieces ≤ 2 := by
  cases pc with
  | peek => exact Nat.zero_le 2
  | setTelemetry peeked => exact Nat.le_succ 1
  | run source => exact Nat.le_refl 2

/-- A pass of the display posts an event of the driver at most. -/
theorem hmiActions_cases (c : Cockpit) (nowMs : UInt32) (received : List UInt8) :
    c.vcuActions (.hmi nowMs received) = [] ∨
      ∃ event, event ≠ .faultDetected ∧
        c.vcuActions (.hmi nowMs received) = [.postEvent event] := by
  by_cases hpc : c.hmiPc = .touch
  · have hactions : c.vcuActions (.hmi nowMs received) =
        (c.hmi.touch received).2.toList.map .postEvent := by
      unfold Cockpit.vcuActions
      rw [hpc]
    rw [hactions]
    cases hposted : (c.hmi.touch received).2 with
    | none => exact .inl rfl
    | some event =>
        obtain ⟨cmd, -, hcmd⟩ := Option.bind_eq_some_iff.mp hposted
        exact .inr ⟨event, touchEvent_driver hcmd, rfl⟩
  · exact .inl (vcuActions_of_not_touch hpc nowMs received)

theorem step_pieces {rpmToSpeedKmhX10 : UInt16 → UInt16} {c c' : Cockpit} {a : CockpitAct}
    (h : c.step rpmToSpeedKmhX10 a = some c') :
    3 * (c.vcuActions a).count .run + c'.sys.vcuPc.pieces =
      (if a.isVcuPiece then 1 else 0) + c.sys.vcuPc.pieces := by
  cases a with
  | hmi nowMs received =>
      obtain rfl := Option.some.inj h
      have hnoRun : (c.vcuActions (.hmi nowMs received)).count .run = 0 := by
        rcases hmiActions_cases c nowMs received with h | ⟨event, -, h⟩ <;> rw [h] <;> rfl
      rw [hnoRun, (hmiPiece_vcu c nowMs received).1]
      rfl
  | task a =>
      obtain ⟨hpost, sys, hsys, rfl⟩ := taskStep_cases h
      cases a with
      | post event => exact absurd rfl (hpost event)
      | vcuTask =>
          obtain rfl := Option.some.inj hsys
          simp only [Sys.vcuTask, Cockpit.vcuActions]
          cases c.sys.vcuPc with
          | setTelemetry peeked => cases peeked <;> rfl
          | _ => rfl
      | _ =>
          -- neither a run nor a piece of the VCU task
          show 3 * 0 + sys.vcuPc.pieces = 0 + c.sys.vcuPc.pieces
          rw [(taskStep_vcu hsys hpost Act.noConfusion).1]

/-- FAULT_DETECTED comes from the callback of the CAN task and from nowhere else. -/
theorem vcuActions_faults (c : Cockpit) (a : CockpitAct) :
    (postedEvents (c.vcuActions a)).count .faultDetected = if a.isCallback then 1 else 0 := by
  cases a with
  | task a =>
      cases a with
      | vcuTask =>
          simp only [Cockpit.vcuActions]
          split <;> rfl
      | _ => rfl
  | hmi nowMs received =>
      rcases hmiActions_cases c nowMs received with h | ⟨event, hdriver, h⟩
      · rw [h]
        rfl
      · rw [h]
        show [event].count .faultDetected = 0
        rw [List.count_singleton, if_neg (fun heq => hdriver (beq_iff_eq.mp heq))]

/-- The actions `as` of the VCU in a stretch of `acts` from `c` to `c'`: an iteration for every
three pieces, a fault for every callback, and the other events from the touches of the stretch. -/
structure Car.Stretch (spi : SpiBus) (c c' : Car) (acts : List CockpitAct) (as : List VcuAction)
    (touches : List VcuEvent) : Prop where
  stage : c'.stage = exec (PowerStage.step spi) c.stage as
  touched : touchedEvents c'.cockpit.received = touchedEvents c.cockpit.received ++ touches
  posted : (driverEvents (postedEvents as)).Sublist touches
  faults : (postedEvents as).count .faultDetected = acts.countP CockpitAct.isCallback
  pieces : 3 * as.count .run + c'.cockpit.sys.vcuPc.pieces =
    acts.countP CockpitAct.isVcuPiece + c.cockpit.sys.vcuPc.pieces

section Stretch

variable {rpmToSpeedKmhX10 : UInt16 → UInt16} {spi : SpiBus} {c c' c'' : Car}

theorem Car.Stretch.refl (c : Car) : c.Stretch spi c [] [] [] :=
  ⟨rfl, (List.append_nil _).symm, List.Sublist.refl _, rfl, rfl⟩

theorem Car.Stretch.trans {acts acts' : List CockpitAct} {as as' : List VcuAction}
    {touches touches' : List VcuEvent} (h : c.Stretch spi c' acts as touches)
    (h' : c'.Stretch spi c'' acts' as' touches') :
    c.Stretch spi c'' (acts ++ acts') (as ++ as') (touches ++ touches') where
  stage := by rw [exec_append, ← h.stage, h'.stage]
  touched := by rw [h'.touched, h.touched, List.append_assoc]
  posted := by
    rw [postedEvents_append, driverEvents_append]
    exact h.posted.append h'.posted
  faults := by
    rw [postedEvents_append, List.count_append, h.faults, h'.faults, List.countP_append]
  pieces := by
    have hfirst := h.pieces
    have hsecond := h'.pieces
    rw [List.count_append, List.countP_append]
    omega

/-- **One step** is a stretch. -/
theorem carStep_stretch {a : CockpitAct} (h : c.step rpmToSpeedKmhX10 spi a = some c')
    (hsound : c.Sound) :
    ∃ touches, c.Stretch spi c' [a] (c.cockpit.vcuActions a) touches := by
  obtain ⟨hcockpit, hstage⟩ := carStep_cases h
  obtain ⟨history, hdriven⟩ := hsound.driven
  obtain ⟨-, -, touches, htouched, hposted⟩ :=
    step_touched hcockpit hdriven.initialized hdriven.rx
  refine ⟨touches, hstage, htouched, hposted, ?_, ?_⟩
  · rw [vcuActions_faults, List.countP_singleton]
  · rw [step_pieces hcockpit, List.countP_singleton]

/-- **A run** is a stretch. -/
theorem run_stretch {acts : List CockpitAct}
    (h : execGuarded (Car.step rpmToSpeedKmhX10 spi) c acts = some c') (hsound : c.Sound) :
    c'.Sound ∧ ∃ as touches, c.Stretch spi c' acts as touches := by
  induction acts generalizing c with
  | nil =>
      obtain rfl := Option.some.inj h
      exact ⟨hsound, [], [], Car.Stretch.refl c⟩
  | cons a acts ih =>
      obtain ⟨m, hm, hrest⟩ := Option.bind_eq_some_iff.mp (execGuarded_cons .. ▸ h)
      obtain ⟨touches, hstep⟩ := carStep_stretch hm hsound
      obtain ⟨hsound', as, touches', hlater⟩ := ih hrest (carStep_sound c a m hm hsound)
      exact ⟨hsound', _, _, hstep.trans hlater⟩

end Stretch

/-! ## A stop that is held -/

section StopHeld

variable {s : VcuLogic} {as : List VcuAction}

theorem exec_stopHeld (h : s.StopHeld) (hreset : ∀ a ∈ as, a ≠ .postEvent .reset) :
    (exec VcuLogic.step s as).StopHeld := by
  have hstep : ∀ s a, a ≠ .postEvent .reset → VcuLogic.StopHeld s → (s.step a).StopHeld :=
    fun _ _ ha hs => hs.step_keeps ha
  exact exec_invariant_of_forall hstep h hreset

/-- From the first iteration on the state is a stop. -/
theorem exec_isStopped (h : s.StopHeld) (hreset : ∀ a ∈ as, a ≠ .postEvent .reset)
    (hrun : s.state.isStopped = true ∨ .run ∈ as) :
    (exec VcuLogic.step s as).state.isStopped = true := by
  induction as generalizing s with
  | nil => exact hrun.resolve_right List.not_mem_nil
  | cons a as ih =>
      rw [List.forall_mem_cons] at hreset
      rw [exec_cons]
      refine ih (h.step_keeps hreset.1) hreset.2 ?_
      by_cases ha : a = .run
      · subst ha
        exact .inl h.run_isStopped
      · rw [step_state_of_ne_run s ha]
        exact hrun.imp_right fun hmem => (List.mem_cons.mp hmem).resolve_left (Ne.symm ha)

/-- Nothing but `allOff` is called. -/
theorem callsIn_of_stopHeld (h : s.StopHeld) (hreset : ∀ a ∈ as, a ≠ .postEvent .reset) :
    ∀ op ∈ callsIn s as, ∃ silent, op = .allOff silent := by
  have hC : Before VcuLogic.step s as fun _ a => a ≠ .postEvent .reset := by
    rintro pre a post rfl
    exact hreset a (List.mem_append_right pre List.mem_cons_self)
  refine callsIn_opensOnly (I := VcuLogic.StopHeld) (fun s hs _ => ?_)
    (fun s a hs ha => hs.step_keeps ha) h hC
  refine runCall_of_isStopped ?_
  rw [← run_state]
  exact hs.run_isStopped

/-- An iteration that calls something makes the calls of its stretch. -/
theorem callsIn_ne_nil_of_runCall {pre post : List VcuAction}
    (hcall : (exec VcuLogic.step s pre).runCall ≠ none) : callsIn s (pre ++ .run :: post) ≠ [] := by
  rw [callsIn_append, callsIn_cons, callsOf_run, List.flatten_singleton]
  intro hnil
  have hhead := (List.append_eq_nil_iff.mp (List.append_eq_nil_iff.mp hnil).2).1
  exact hcall (Option.toList_eq_nil_iff.mp hhead)

end StopHeld

/-! ## The stop -/

/-- No RESET is posted in a stretch without a touch of it. -/
theorem Car.Stretch.noReset {spi : SpiBus} {c c' : Car} {acts : List CockpitAct}
    {as : List VcuAction} {touches : List VcuEvent} (h : c.Stretch spi c' acts as touches)
    (hreset : .reset ∉ touches) : ∀ a ∈ as, a ≠ .postEvent .reset := by
  rintro a ha rfl
  have hposted : .reset ∈ postedEvents as := List.mem_filterMap.mpr ⟨_, ha, rfl⟩
  exact hreset (h.posted.subset (mem_driverEvents hposted (by decide)))

theorem countP_delaysStop (as : List VcuAction) :
    as.countP VcuAction.delaysStop = (postedEvents as).count .faultDetected +
      (driverEvents (postedEvents as)).count .emergencyStop := by
  induction as with
  | nil => rfl
  | cons a as ih =>
      rw [List.countP_cons, ih, ← List.singleton_append, postedEvents_append, driverEvents_append,
        List.count_append, List.count_append]
      have hone : (if a.delaysStop then 1 else 0) = (postedEvents [a]).count .faultDetected +
          (driverEvents (postedEvents [a])).count .emergencyStop := by
        cases a with
        | postEvent event => cases event <;> rfl
        | _ => rfl
      omega

/-- The scan that reads the stop posts it and does nothing else. -/
theorem scan_stop {rpmToSpeedKmhX10 : UInt16 → UInt16} {spi : SpiBus} {c c' : Car} {nowMs : UInt32}
    {bytes : List UInt8} (h : c.step rpmToSpeedKmhX10 spi (.hmi nowMs bytes) = some c')
    (hsound : c.Sound) (hpc : c.cockpit.hmiPc = .touch)
    (hstop : (streamCommands (stateAfter rxClassifyByte .start c.cockpit.received) bytes).head? =
      some 3) :
    c'.stage = ⟨c.cockpit.sys.vcu.postEvent .emergencyStop, c.board⟩ ∧
      c'.cockpit.received = c.cockpit.received ++ bytes := by
  obtain ⟨hcockpit, hstage⟩ := carStep_cases h
  obtain ⟨history, hdriven⟩ := hsound.driven
  have hinit := hdriven.initialized
  rw [vcuActions_touch hinit hpc, hdriven.rx, hstop] at hstage
  refine ⟨hstage, ?_⟩
  rw [← Option.some.inj hcockpit]
  exact ((hmiPiece_display c.cockpit nowMs bytes hinit).2.2 hpc).1

/-- **The stop button opens the contactors.** Take any run of the three tasks from boot, with any
transfers failing, up to a scan of the display that reads a stop first, while the VCU is not in
`emergencyStop` and no RESET waits; let all transfers succeed from then on. After a stretch with two
iterations of the VCU (three pieces each), and one more for each fault that was waiting and each
callback or further touch of the stop in the stretch, all sixteen latches are high and the VCU is in
a stop. So it stays, whatever the tasks do, as long as no RESET is touched. -/
theorem stop_button_opens_contactors (rpmToSpeedKmhX10 : UInt16 → UInt16) (spi : SpiBus)
    {before stretch later : List CockpitAct} {c c₁ c₂ : Car} {nowMs : UInt32} {bytes : List UInt8}
    {touches laterTouches : List VcuEvent}
    (hbefore : execGuarded (Car.step rpmToSpeedKmhX10 spi) (.boot spi) before = some c)
    (hpc : c.cockpit.hmiPc = .touch)
    (hstop : (streamCommands (stateAfter rxClassifyByte .start c.cockpit.received) bytes).head? =
      some 3)
    (hstate : c.cockpit.sys.vcu.state ≠ .emergencyStop)
    (hqueue : .reset ∉ c.cockpit.sys.vcu.queue) (hbus : BusWorks spi c.board)
    (hstretch : execGuarded (Car.step rpmToSpeedKmhX10 spi) c (.hmi nowMs bytes :: stretch) =
      some c₁)
    (htouches : touchedEvents c₁.cockpit.received =
      touchedEvents (c.cockpit.received ++ bytes) ++ touches)
    (hlong : 3 * (2 + c.cockpit.sys.vcu.queue.count .faultDetected +
      stretch.countP CockpitAct.isCallback + touches.count .emergencyStop) ≤
        stretch.countP CockpitAct.isVcuPiece)
    (hlater : execGuarded (Car.step rpmToSpeedKmhX10 spi) c₁ later = some c₂)
    (hlaterTouches : touchedEvents c₂.cockpit.received =
      touchedEvents c₁.cockpit.received ++ laterTouches)
    (hreset : .reset ∉ touches ++ laterTouches) :
    (∀ pin < 16, c₂.board.chip.latchLow pin = false) ∧
      c₂.cockpit.sys.vcu.state.isStopped = true ∧ c₂.cockpit.sys.vcu.relays.ContactorsOpen := by
  rw [List.mem_append, not_or] at hreset
  have hsound := execGuarded_invariant carStep_sound (boot_sound spi) hbefore
  obtain ⟨history, hdriven⟩ := hsound.driven
  have hreach : c.cockpit.sys.vcu.Reachable := ⟨history, hdriven.vcu⟩
  -- the scan posts the stop
  rw [execGuarded_cons] at hstretch
  obtain ⟨c₀, hscan, hstretch⟩ := Option.bind_eq_some_iff.mp hstretch
  obtain ⟨hstage, hreceived⟩ := scan_stop hscan hsound hpc hstop
  have hwaits : c₀.stage.vcu.StopWaits := by
    rw [hstage]
    exact post_stopWaits hreach hstate hqueue
  have hbus₀ : BusWorks spi c₀.stage.board := by
    rw [hstage]
    exact hbus
  have hsound₀ := carStep_sound c _ c₀ hscan hsound
  obtain ⟨hsound₁, as, touches', hfirst⟩ := run_stretch hstretch hsound₀
  obtain ⟨hsound₂, laterAs, laterTouches', hsecond⟩ := run_stretch hlater hsound₁
  have hsame : touches' = touches := by
    refine List.append_cancel_left (hfirst.touched.symm.trans ?_)
    rw [htouches, hreceived]
  have hsame' : laterTouches' = laterTouches :=
    List.append_cancel_left (hsecond.touched.symm.trans hlaterTouches)
  subst hsame hsame'
  have hnoReset := hfirst.noReset hreset.1
  have hnoReset' := hsecond.noReset hreset.2
  -- the stretch has enough iterations
  have hcredits : c₀.stage.vcu.stopCredits =
      1 + c.cockpit.sys.vcu.queue.count .faultDetected := by
    rw [hstage, postEmergencyStop_of_wired hreach.wired]
    rfl
  have hdelays : as.countP VcuAction.delaysStop ≤
      stretch.countP CockpitAct.isCallback + touches'.count .emergencyStop := by
    rw [countP_delaysStop, hfirst.faults]
    exact Nat.add_le_add_left (hfirst.posted.count_le _) _
  have hruns := hfirst.pieces
  have hpieces := VcuPc.pieces_le c₁.cockpit.sys.vcuPc
  obtain ⟨pre, post, rfl, hcall⟩ := stop_calls_allOff hwaits hnoReset (by omega)
  -- one of them opens, and nothing closes again
  have hvcu₁ := (exec_powerStage spi c₀.stage (pre ++ .run :: post)).1
  have hvcu₂ := (exec_powerStage spi c₁.stage laterAs).1
  obtain ⟨hopened, hbus₁⟩ := exec_opensOnly hsound₀.linked hbus₀
    (callsIn_of_stopHeld hwaits.held hnoReset) (.inr (callsIn_ne_nil_of_runCall hcall))
  rw [← hfirst.stage] at hopened hbus₁ hvcu₁
  have hheld : c₁.stage.vcu.StopHeld := hvcu₁ ▸ exec_stopHeld hwaits.held hnoReset
  have hstopped : c₁.stage.vcu.state.isStopped = true :=
    hvcu₁ ▸ exec_isStopped hwaits.held hnoReset
      (.inr (List.mem_append_right pre List.mem_cons_self))
  have hfinal := (exec_opensOnly hsound₁.linked hbus₁ (callsIn_of_stopHeld hheld hnoReset')
    (.inl hopened)).1
  rw [← hsecond.stage] at hfinal hvcu₂
  refine ⟨fun pin hpin => hfinal.latchLow hpin, ?_, ?_⟩
  · have hend := exec_isStopped hheld hnoReset' (.inl hstopped)
    rw [← hvcu₂] at hend
    exact hend
  · have hmgr : c₂.board.mgr = c₂.cockpit.sys.vcu.relays := hsound₂.linked.mgr_eq
    rw [← hmgr]
    exact contactorsOpen_of_relayState_zero hfinal.shadow

/-- A START is touched, the VCU closes the contactors, and the display comes to its next scan. -/
def readyToScan : List CockpitAct :=
  touchAndRun 1 1 ++ [.hmi 0 [], .hmi 0 []] ++ List.replicate 10 (.hmi 0 []) ++ [.hmi 0 []]

/-- A stop in that scan, and two iterations of the VCU. -/
def stopAndRun : List CockpitAct := .hmi 0 (touchFrame 3) :: List.replicate 6 (.task .vcuTask)

/-- The latches the stop opens stay open when a START is touched in it. -/
theorem ready_then_stop_touched :
    ∃ c c₁ c₂, execGuarded (Car.step id bootTransfersFail) (.boot bootTransfersFail) readyToScan =
        some c ∧ execGuarded (Car.step id bootTransfersFail) c stopAndRun = some c₁ ∧
      execGuarded (Car.step id bootTransfersFail) c₁ (touchAndRun 1 1) = some c₂ ∧
      c.board.chip.latchLow 0 = true ∧ ∀ pin < 16, c₂.board.chip.latchLow pin = false := by
  obtain ⟨c, hc⟩ := Option.isSome_iff_exists.mp (show (execGuarded (Car.step id bootTransfersFail)
    (.boot bootTransfersFail) readyToScan).isSome = true by decide)
  have hfact : ∀ {α : Type} {f : Car → α} {v : α}, (execGuarded (Car.step id bootTransfersFail)
      (.boot bootTransfersFail) readyToScan).map f = some v → f c = v := by
    intro α f v h
    rw [hc] at h
    exact Option.some.inj h
  -- the run goes on after the scan, and after the stop
  obtain ⟨c₁, hc₁⟩ := Option.isSome_iff_exists.mp (hfact
    (f := fun c => (execGuarded (Car.step id bootTransfersFail) c stopAndRun).isSome)
    (show _ = some true by decide))
  have hfact₁ : ∀ {α : Type} {f : Car → Car → α} {v : α}, (execGuarded
      (Car.step id bootTransfersFail) (.boot bootTransfersFail) readyToScan).map (fun c =>
        (execGuarded (Car.step id bootTransfersFail) c stopAndRun).map (f c)) = some (some v) →
      f c c₁ = v := by
    intro α f v h
    have hone := hfact h
    rw [hc₁] at hone
    exact Option.some.inj hone
  obtain ⟨c₂, hc₂⟩ := Option.isSome_iff_exists.mp (hfact₁
    (f := fun _ c => (execGuarded (Car.step id bootTransfersFail) c (touchAndRun 1 1)).isSome)
    (show _ = some (some true) by decide))
  have hpc : c.cockpit.hmiPc = .touch := hfact (f := fun c => c.cockpit.hmiPc) rfl
  have hstop : (streamCommands (stateAfter rxClassifyByte .start c.cockpit.received)
      (touchFrame 3)).head? = some 3 := hfact (f := fun c => (streamCommands
    (stateAfter rxClassifyByte .start c.cockpit.received) (touchFrame 3)).head?) (by decide)
  have hready : c.cockpit.sys.vcu.state = .ready :=
    hfact (f := fun c => c.cockpit.sys.vcu.state) (by decide)
  have hqueue : c.cockpit.sys.vcu.queue = [] :=
    hfact (f := fun c => c.cockpit.sys.vcu.queue) (by decide)
  have hclosed : c.board.chip.latchLow 0 = true :=
    hfact (f := fun c => c.board.chip.latchLow 0) (by decide)
  have htransmits : c.board.transmits = 8 := hfact (f := fun c => c.board.transmits) (by decide)
  have htouched : touchedEvents c₁.cockpit.received =
      touchedEvents (c.cockpit.received ++ touchFrame 3) ++ [] :=
    of_decide_eq_true (hfact₁ (f := fun c c₁ => decide (touchedEvents c₁.cockpit.received =
      touchedEvents (c.cockpit.received ++ touchFrame 3) ++ [])) (by decide))
  have hlaterTouched : touchedEvents c₂.cockpit.received =
      touchedEvents c₁.cockpit.received ++ [.startRequest] := by
    have hmap := hfact₁ (f := fun _ c₁ => (execGuarded (Car.step id bootTransfersFail) c₁
      (touchAndRun 1 1)).map fun c₂ => decide (touchedEvents c₂.cockpit.received =
        touchedEvents c₁.cockpit.received ++ [.startRequest]))
      (show _ = some (some (some true)) by decide)
    rw [hc₂] at hmap
    exact of_decide_eq_true (Option.some.inj hmap)
  have hbus : BusWorks bootTransfersFail c.board := by
    intro n hn
    rw [htransmits] at hn
    exact decide_eq_true (Nat.le_trans (by decide) hn)
  refine ⟨c, c₁, c₂, hc, hc₁, hc₂, hclosed, ?_⟩
  exact (stop_button_opens_contactors id bootTransfersFail hc hpc hstop (by rw [hready]; decide)
    (by rw [hqueue]; decide) hbus hc₁ htouched (by rw [hqueue]; decide)
    hc₂ hlaterTouched (by decide)).1

end TfnAks.System
