/-
# TfnAks.System.OperatorEvents — nothing drives without the driver

START, DRIVE_ENABLE and RESET come from the touch screen and from nowhere else: the CAN task posts
FAULT_DETECTED only. So the events of the driver that the VCU consumes are among the commands
decoded from the bytes the display has sent, each of them once and in the same order
(`run_driven`). What the VCU did can then be followed back to those bytes: through the queue,
which keeps the order, the scan, which takes one command at most, and the classifier, which answers
a touch at the end of its frame only.
-/
import TfnAks.Hmi.RxHistory
import TfnAks.Hmi.ShownPass
import TfnAks.System.Cockpit
import TfnAks.Vcu.ContactorClosing
import TfnAks.Vcu.QueueService

namespace TfnAks.System

open TfnAks.Lib.Runs TfnAks.Lib.Mealy TfnAks.Hmi TfnAks.Relay TfnAks.Vcu

/-! ## The VCU of the cockpit -/

/-- What a step of the cockpit does to the VCU. -/
def Cockpit.vcuActions (c : Cockpit) : CockpitAct → List VcuAction
  | .task .callback => [.postEvent .faultDetected]
  | .task .vcuTask =>
    match c.sys.vcuPc with
    | .setTelemetry (some (d, _)) => [.setTelemetryData d]
    | .run _ => [.run]
    | _ => []
  | .hmi _ received =>
    match c.hmiPc with
    | .touch => (c.hmi.touch received).2.toList.map .postEvent
    | _ => []
  | _ => []

/-- The CAN task and the time leave the VCU task where it is and post at most. -/
theorem taskStep_vcu {rpmToSpeedKmhX10 : UInt16 → UInt16} {c : Cockpit} {sys : Sys} {a : Act}
    (hsys : c.sys.anyStep rpmToSpeedKmhX10 a = some sys) (hpost : ∀ event, a ≠ .post event)
    (hother : a ≠ .vcuTask) :
    sys.vcuPc = c.sys.vcuPc ∧ sys.vcu = exec VcuLogic.step c.sys.vcu (c.vcuActions (.task a)) := by
  cases a with
  | post event => exact absurd rfl (hpost event)
  | vcuTask => exact absurd rfl hother
  | callback | endReceive =>
      simp only [Sys.anyStep, Sys.step] at hsys
      split at hsys
      · obtain rfl := Option.some.inj hsys
        exact ⟨rfl, rfl⟩
      · exact absurd hsys.symm (Option.some_ne_none _)
  | receive msg =>
      simp only [Sys.anyStep, Sys.step] at hsys
      split at hsys
      · obtain rfl := Option.some.inj (Option.ite_none_right_eq_some.mp hsys).2
        exact ⟨rfl, rfl⟩
      · exact absurd hsys.symm (Option.some_ne_none _)
  | update =>
      simp only [Sys.anyStep, Sys.lateUpdate] at hsys
      split at hsys
      · obtain rfl := Option.some.inj hsys
        exact ⟨rfl, rfl⟩
      · obtain rfl := Option.some.inj hsys
        exact ⟨rfl, rfl⟩
      · obtain rfl := Option.some.inj hsys
        exact ⟨rfl, rfl⟩
      · exact absurd hsys.symm (Option.some_ne_none _)
  | enterCall | publish timestampMs =>
      obtain rfl := Option.some.inj (Option.ite_none_right_eq_some.mp hsys).2
      exact ⟨rfl, rfl⟩
  | elapse ticks =>
      obtain rfl := Option.some.inj hsys
      exact ⟨rfl, rfl⟩

/-- The display task leaves the VCU task where it is and posts the event of a touch at most. -/
theorem hmiPiece_vcu (c : Cockpit) (nowMs : UInt32) (received : List UInt8) :
    (c.hmiPiece nowMs received).1.sys.vcuPc = c.sys.vcuPc ∧
      (c.hmiPiece nowMs received).1.sys.vcu =
        exec VcuLogic.step c.sys.vcu (c.vcuActions (.hmi nowMs received)) := by
  unfold Cockpit.hmiPiece Cockpit.vcuActions
  cases c.hmiPc with
  | touch =>
      refine ⟨rfl, ?_⟩
      show (c.hmi.touch received).2.elim c.sys.vcu c.sys.vcu.postEvent =
        exec VcuLogic.step c.sys.vcu ((c.hmi.touch received).2.toList.map .postEvent)
      cases (c.hmi.touch received).2 <;> rfl
  | getRelay force queue state channel =>
      simp only
      split
      · exact ⟨rfl, rfl⟩
      · split <;> exact ⟨rfl, rfl⟩
  | _ => exact ⟨rfl, rfl⟩

theorem step_vcu {rpmToSpeedKmhX10 : UInt16 → UInt16} {c c' : Cockpit} {a : CockpitAct}
    (h : c.step rpmToSpeedKmhX10 a = some c') :
    c'.sys.vcu = exec VcuLogic.step c.sys.vcu (c.vcuActions a) := by
  cases a with
  | hmi nowMs received =>
      obtain rfl := Option.some.inj h
      exact (hmiPiece_vcu c nowMs received).2
  | task a =>
      obtain ⟨hpost, sys, hsys, rfl⟩ := taskStep_cases h
      by_cases hvcu : a = .vcuTask
      · subst hvcu
        obtain rfl := Option.some.inj hsys
        simp only [Sys.vcuTask, Cockpit.vcuActions]
        cases c.sys.vcuPc with
        | setTelemetry peeked => cases peeked <;> rfl
        | _ => rfl
      · exact (taskStep_vcu hsys hpost hvcu).2

/-! ## What is posted -/

/-- The events a history posts, in order. -/
def postedEvents (history : List VcuAction) : List VcuEvent :=
  history.filterMap fun a => match a with
    | .postEvent event => some event
    | _ => none

/-- The events of the driver: all but the one of the CAN task. -/
def driverEvents (events : List VcuEvent) : List VcuEvent := events.filter (· ≠ .faultDetected)

/-- The events of the touch commands in the bytes of the display. -/
def touchedEvents (bytes : List UInt8) : List VcuEvent :=
  (streamCommands .start bytes).filterMap touchEvent

theorem postedEvents_append (history more : List VcuAction) :
    postedEvents (history ++ more) = postedEvents history ++ postedEvents more :=
  List.filterMap_append

theorem driverEvents_append (events more : List VcuEvent) :
    driverEvents (events ++ more) = driverEvents events ++ driverEvents more :=
  List.filter_append ..

theorem streamCommands_append (st : RxState) (bytes more : List UInt8) :
    streamCommands st (bytes ++ more) =
      streamCommands st bytes ++ streamCommands (stateAfter rxClassifyByte st bytes) more := by
  unfold streamCommands touchCommands
  rw [outputs_append, List.filterMap_append]

theorem touchEvent_driver {cmd : UInt8} {event : VcuEvent} (h : touchEvent cmd = some event) :
    event ≠ .faultDetected := by
  unfold touchEvent at h
  split_ifs at h <;> (obtain rfl := Option.some.inj h; decide)

/-- The event a scan posts is among those of its touches. -/
theorem head?_bind_sublist (cmds : List UInt8) :
    (cmds.head?.bind touchEvent).toList.Sublist (cmds.filterMap touchEvent) := by
  cases cmds with
  | nil => exact List.Sublist.refl _
  | cons cmd cmds =>
      show (touchEvent cmd).toList.Sublist _
      rw [List.filterMap_cons]
      cases touchEvent cmd with
      | none => exact List.nil_sublist _
      | some event => exact List.singleton_sublist.mpr List.mem_cons_self

/-- What a run of the three tasks has done to the VCU, piece by piece. -/
def vcuHistory (rpmToSpeedKmhX10 : UInt16 → UInt16) (acts : List CockpitAct) : List VcuAction :=
  gatherGuarded (Cockpit.step rpmToSpeedKmhX10) Cockpit.vcuActions .boot acts

/-- The invariant of a run with this history: the VCU is where the history has brought it, and the
events of the driver in it were touched, each of them once and in that order. -/
structure Cockpit.Driven (history : List VcuAction) (c : Cockpit) : Prop where
  initialized : c.hmi.display.isInitialized = true
  rx : c.hmi.display.rxState = stateAfter rxClassifyByte .start c.received
  vcu : c.sys.vcu = exec VcuLogic.step .booted history
  touched : (driverEvents (postedEvents history)).Sublist (touchedEvents c.received)

theorem boot_driven : Cockpit.boot.Driven [] :=
  ⟨rfl, rfl, rfl, List.Sublist.refl _⟩

/-- The display task keeps its object as it is, but for the scan. -/
theorem hmiPiece_display (c : Cockpit) (nowMs : UInt32) (received : List UInt8)
    (hinit : c.hmi.display.isInitialized = true) :
    (c.hmiPiece nowMs received).1.hmi.display.isInitialized = true ∧
      (c.hmiPc ≠ .touch → (c.hmiPiece nowMs received).1.received = c.received ∧
        (c.hmiPiece nowMs received).1.hmi.display.rxState = c.hmi.display.rxState) ∧
      (c.hmiPc = .touch → (c.hmiPiece nowMs received).1.received = c.received ++ received ∧
        (c.hmiPiece nowMs received).1.hmi.display.rxState =
          stateAfter rxClassifyByte c.hmi.display.rxState received) := by
  obtain ⟨sys, hmi, pc, bytes⟩ := c
  cases pc with
  | start => exact ⟨hinit, fun _ => ⟨rfl, rfl⟩, nofun⟩
  | getState force queue => exact ⟨hinit, fun _ => ⟨rfl, rfl⟩, nofun⟩
  | getRelay force queue state channel =>
      simp only [Cockpit.hmiPiece]
      split
      · exact ⟨hinit, fun _ => ⟨rfl, rfl⟩, nofun⟩
      · split <;> exact ⟨hinit, fun _ => ⟨rfl, rfl⟩, nofun⟩
  | paint force data =>
      have hkept : ∀ queue, (hmi.paint sourceVerified force data queue nowMs).1.display =
            { hmi.display with lastScreenData := data, hasCachedScreen := true } := fun queue => by
        rw [paint_display, updateScreen_spec (o := hmi.display) hinit data]
      have hinit' : ∀ queue, (hmi.paint sourceVerified force data queue
          nowMs).1.display.isInitialized = true := fun queue => by
        rw [hkept]
        exact hinit
      have hrx' : ∀ queue, (hmi.paint sourceVerified force data queue nowMs).1.display.rxState =
          hmi.display.rxState := fun queue => by
        rw [hkept]
      exact ⟨hinit' _, fun _ => ⟨rfl, hrx' _⟩, nofun⟩
  | touch =>
      obtain ⟨hrx, hkept, -⟩ := readTouchCommand_spec (d := hmi.display.toDisplayHMI) hinit received
      exact ⟨hkept, fun h => absurd rfl h, fun _ => ⟨rfl, hrx⟩⟩

theorem vcuActions_of_not_touch {c : Cockpit} (hpc : c.hmiPc ≠ .touch) (nowMs : UInt32)
    (received : List UInt8) : c.vcuActions (.hmi nowMs received) = [] := by
  unfold Cockpit.vcuActions
  cases hc : c.hmiPc with
  | touch => exact absurd hc hpc
  | _ => rfl

/-- The scan posts the event of its first touch. -/
theorem vcuActions_touch {c : Cockpit} (hinit : c.hmi.display.isInitialized = true)
    (hpc : c.hmiPc = .touch) (nowMs : UInt32) (received : List UInt8) :
    c.vcuActions (.hmi nowMs received) =
      ((streamCommands c.hmi.display.rxState received).head?.bind touchEvent).toList.map
        .postEvent := by
  have hcommand := (readTouchCommand_spec (d := c.hmi.display.toDisplayHMI) hinit received).2.2
  rw [← hcommand]
  unfold Cockpit.vcuActions
  rw [hpc]
  rfl

theorem driverEvents_touch (posted : Option VcuEvent)
    (h : ∀ event ∈ posted, event ≠ .faultDetected) :
    driverEvents (postedEvents (posted.toList.map .postEvent)) = posted.toList := by
  cases posted with
  | none => rfl
  | some event =>
      exact List.filter_cons_of_pos (decide_eq_true (h event rfl))

/-- **One step** of any of the three tasks: the touches it receives cover the events of the driver
it posts. -/
theorem step_touched {rpmToSpeedKmhX10 : UInt16 → UInt16} {c c' : Cockpit} {a : CockpitAct}
    (hstep : c.step rpmToSpeedKmhX10 a = some c') (hinit : c.hmi.display.isInitialized = true)
    (hrx : c.hmi.display.rxState = stateAfter rxClassifyByte .start c.received) :
    c'.hmi.display.isInitialized = true ∧
      c'.hmi.display.rxState = stateAfter rxClassifyByte .start c'.received ∧
        ∃ more, touchedEvents c'.received = touchedEvents c.received ++ more ∧
          (driverEvents (postedEvents (c.vcuActions a))).Sublist more := by
  cases a with
  | hmi nowMs received =>
      obtain rfl := Option.some.inj hstep
      obtain ⟨hinit', hquiet, hscan⟩ := hmiPiece_display c nowMs received hinit
      by_cases hpc : c.hmiPc = .touch
      · obtain ⟨hbytes, hrx'⟩ := hscan hpc
        refine ⟨hinit', by rw [hrx', hbytes, stateAfter_append, hrx],
          (streamCommands c.hmi.display.rxState received).filterMap touchEvent, ?_, ?_⟩
        · rw [hbytes, touchedEvents, streamCommands_append, List.filterMap_append, hrx]
          rfl
        · rw [vcuActions_touch hinit hpc nowMs received, driverEvents_touch]
          · exact head?_bind_sublist _
          · intro event hevent
            obtain ⟨cmd, -, hcmd⟩ := Option.bind_eq_some_iff.mp hevent
            exact touchEvent_driver hcmd
      · obtain ⟨hbytes, hrx'⟩ := hquiet hpc
        refine ⟨hinit', by rw [hrx', hbytes, hrx], [], by rw [hbytes, List.append_nil], ?_⟩
        rw [vcuActions_of_not_touch hpc]
        exact List.Sublist.refl _
  | task a =>
      obtain ⟨-, sys, -, rfl⟩ := taskStep_cases hstep
      -- the other tasks post FAULT_DETECTED at most
      have hnone : driverEvents (postedEvents (c.vcuActions (.task a))) = [] := by
        cases a with
        | vcuTask =>
            simp only [Cockpit.vcuActions]
            split <;> rfl
        | callback => rfl
        | _ => rfl
      refine ⟨hinit, hrx, [], (List.append_nil _).symm, ?_⟩
      rw [hnone]

theorem step_driven {rpmToSpeedKmhX10 : UInt16 → UInt16} {c c' : Cockpit} {a : CockpitAct}
    {history : List VcuAction} (hstep : c.step rpmToSpeedKmhX10 a = some c')
    (h : c.Driven history) : c'.Driven (history ++ c.vcuActions a) := by
  obtain ⟨hinit', hrx', more, htouched, hposted⟩ := step_touched hstep h.initialized h.rx
  refine ⟨hinit', hrx', ?_, ?_⟩
  · rw [step_vcu hstep, h.vcu, exec_append]
  · rw [postedEvents_append, driverEvents_append, htouched]
    exact h.touched.append hposted

/-- **A run**, with the history that is its own. -/
theorem run_driven {rpmToSpeedKmhX10 : UInt16 → UInt16} {acts : List CockpitAct} {c : Cockpit}
    (h : execGuarded (Cockpit.step rpmToSpeedKmhX10) .boot acts = some c) :
    c.Driven (vcuHistory rpmToSpeedKmhX10 acts) := by
  induction acts using List.reverseRecOn generalizing c with
  | nil =>
      obtain rfl := Option.some.inj h
      exact boot_driven
  | append_singleton acts a ih =>
      obtain ⟨m, hm, hlast⟩ := execGuarded_concat h
      rw [vcuHistory, gatherGuarded_concat hm hlast]
      exact step_driven hlast (ih hm)

/-! ## What is consumed -/

theorem accepted_sublist (s : VcuLogic) (history : List VcuAction) :
    (gather VcuLogic.step VcuLogic.accepted s history).Sublist (postedEvents history) := by
  induction history generalizing s with
  | nil => exact List.Sublist.refl _
  | cons a history ih =>
      have hrest := ih (s.step a)
      rw [gather_cons, ← List.singleton_append, postedEvents_append]
      refine List.Sublist.append ?_ hrest
      cases a with
      | postEvent event =>
          show (s.accepted (.postEvent event)).Sublist [event]
          unfold VcuLogic.accepted
          cases s.eventQueue with
          | none => exact List.nil_sublist _
          | some queue =>
              show (if _ then [event] else []).Sublist [event]
              split_ifs
              · exact List.Sublist.refl _
              · exact List.nil_sublist _
      | _ => exact List.Sublist.refl _

/-- What was consumed was posted, each event once and in the order of the posts. -/
theorem consumed_sublist (history : List VcuAction) :
    (gather VcuLogic.step VcuLogic.consumed .booted history).Sublist (postedEvents history) := by
  have hledger := fifo_queue.ledger .booted history
  have hprefix : gather VcuLogic.step VcuLogic.consumed .booted history <+:
      gather VcuLogic.step VcuLogic.accepted .booted history := by
    rw [gather_consumed]
    exact ⟨_, hledger.symm⟩
  exact hprefix.sublist.trans (accepted_sublist .booted history)

/-- The START behind a closed relay was consumed. -/
theorem start_consumed_of_closed (history : List VcuAction) {channel : UInt8}
    (hon : (exec VcuLogic.step .booted history).relays.getRelayState channel = true) :
    .startRequest ∈ gather VcuLogic.step VcuLogic.consumed .booted history := by
  induction history using List.reverseRecOn with
  | nil =>
      have hopen : VcuLogic.booted.relays.ContactorsOpen := allOff_contactorsOpen false _
      exact absurd ((hopen channel).symm.trans hon) (by decide)
  | append_singleton history a ih =>
      rw [exec_append, exec_cons, exec_nil] at hon
      rw [gather_append, List.mem_append]
      by_cases hwas : (exec VcuLogic.step .booted history).relays.getRelayState channel = true
      · exact .inl (ih hwas)
      · obtain ⟨rfl, -, hc⟩ := step_closes ⟨history, rfl⟩ (Bool.not_eq_true _ ▸ hwas) hon
        right
        rw [gather_cons, gather_nil, List.append_nil, VcuLogic.consumed, hc]
        exact List.mem_cons_self

/-- In `ready` a START was consumed, in `drive` a DRIVE_ENABLE after a START. -/
theorem start_consumed_of_readySince {history : List VcuAction} (h : ReadySince history) :
    .startRequest ∈ gather VcuLogic.step VcuLogic.consumed .booted history := by
  obtain ⟨before, since, rfl, -, hc, -⟩ := h
  rw [gather_append, gather_cons, VcuLogic.consumed, hc]
  exact List.mem_append_right _ (List.mem_append_left _ List.mem_cons_self)

theorem drive_consumed_of_driveSince {history : List VcuAction} (h : DriveSince history) :
    [.startRequest, .driveEnable].Sublist
      (gather VcuLogic.step VcuLogic.consumed .booted history) := by
  obtain ⟨before, since, rfl, hready, -, hc, -⟩ := h
  rw [gather_append, gather_cons, VcuLogic.consumed, hc]
  have hstart : [VcuEvent.startRequest].Sublist
      (gather VcuLogic.step VcuLogic.consumed .booted before) :=
    List.singleton_sublist.mpr (start_consumed_of_readySince hready)
  have henable : [VcuEvent.driveEnable].Sublist ((some VcuEvent.driveEnable).toList ++
      gather VcuLogic.step VcuLogic.consumed
        ((exec VcuLogic.step .booted before).step .run) since) :=
    List.singleton_sublist.mpr (List.mem_append_left _ List.mem_cons_self)
  exact hstart.append henable

/-- The stop is the one event that is not queued; it too was posted. -/
theorem stop_posted (history : List VcuAction)
    (h : (exec VcuLogic.step .booted history).eStopPending = true ∨
      (exec VcuLogic.step .booted history).state = .emergencyStop) :
    .emergencyStop ∈ postedEvents history := by
  induction history using List.reverseRecOn with
  | nil => exact absurd h (by decide)
  | append_singleton history a ih =>
      rw [exec_append, exec_cons, exec_nil] at h
      rw [postedEvents_append, List.mem_append]
      have hreach : (exec VcuLogic.step .booted history).Reachable := ⟨history, rfl⟩
      generalize exec VcuLogic.step .booted history = s at h ih hreach
      cases a with
      | run =>
          rw [VcuLogic.step, run_eStopPending] at h
          have hstop : s.run.state = .emergencyStop := h.resolve_left Bool.false_ne_true
          by_cases hne : s.run.state = s.state
          · exact .inl (ih (.inr (hne.symm.trans hstop)))
          · -- the state is only entered with the flag, which some post has raised
            have hallowed := run_allowed hreach hne
            rw [hstop] at hallowed
            generalize s.state = state at hallowed
            cases hallowed with
            | emergencyStop _ hpending => exact .inl (ih (.inl hpending))
      | postEvent event =>
          rw [VcuLogic.step] at h
          rcases postEvent_cases s event with hs | ⟨rfl, -⟩ | ⟨-, queue, -, -, hs⟩
          · rw [hs] at h
            exact .inl (ih h)
          · exact .inr List.mem_cons_self
          · rw [hs] at h
            exact .inl (ih h)
      | setTelemetryData d =>
          rw [VcuLogic.step] at h
          rcases setTelemetryData_cases s d with hs | ⟨-, hs⟩
          · rw [hs] at h
            exact .inl (ih h)
          · rw [hs] at h
            exact .inl (ih h)

/-! ## What was touched -/

/-- One more byte brings one more event at most. -/
theorem touchedEvents_concat (bytes : List UInt8) (b : UInt8) :
    touchedEvents (bytes ++ [b]) = touchedEvents bytes ++
      ((rxClassifyByte (stateAfter rxClassifyByte .start bytes) b).2.cmd?.bind
        touchEvent).toList := by
  rw [touchedEvents, streamCommands_append, List.filterMap_append]
  refine congrArg _ ?_
  unfold streamCommands touchCommands
  rw [outputs_cons, outputs_nil, List.filterMap_cons]
  cases (rxClassifyByte (stateAfter rxClassifyByte .start bytes) b).2.cmd? with
  | none => rfl
  | some cmd =>
      show [cmd].filterMap touchEvent = (touchEvent cmd).toList
      rw [List.filterMap_cons]
      cases touchEvent cmd <;> rfl

theorem frame_of_touch {bytes : List UInt8} {b : UInt8} {event : VcuEvent}
    (h : (rxClassifyByte (stateAfter rxClassifyByte .start bytes) b).2.cmd?.bind touchEvent =
      some event) :
    ∃ cmd, touchEvent cmd = some event ∧ touchFrame cmd <:+ bytes ++ [b] := by
  obtain ⟨cmd, hcmd, hevent⟩ := Option.bind_eq_some_iff.mp h
  refine ⟨cmd, hevent, ?_⟩
  have htouch : (rxClassifyByte (stateAfter rxClassifyByte .start bytes) b).2 = .touch cmd := by
    revert hcmd
    cases (rxClassifyByte (stateAfter rxClassifyByte .start bytes) b).2 with
    | touch c => exact fun hc => congrArg _ (Option.some.inj hc)
    | _ => exact nofun
  obtain ⟨hframe, -⟩ := (remembers_stateAfter bytes).touch_frame htouch
  rw [← List.reverse_concat] at hframe
  exact List.reverse_prefix.mp hframe

/-- Each touched event ends a frame of the display; the events before it were touched in the bytes
before the last of that frame. -/
theorem touched_at {bytes : List UInt8} {earlier later : List VcuEvent} {event : VcuEvent}
    (h : touchedEvents bytes = earlier ++ event :: later) :
    ∃ before b, before ++ [b] <+: bytes ∧ touchedEvents before = earlier ∧
      ∃ cmd, touchEvent cmd = some event ∧ touchFrame cmd <:+ before ++ [b] := by
  induction bytes using List.reverseRecOn generalizing later with
  | nil =>
      have hlength := congrArg List.length h
      simp [touchedEvents, streamCommands, touchCommands] at hlength
  | append_singleton bytes b ih =>
      rw [touchedEvents_concat] at h
      cases hlast : (rxClassifyByte (stateAfter rxClassifyByte .start bytes) b).2.cmd?.bind
          touchEvent with
      | none =>
          rw [hlast, Option.toList_none, List.append_nil] at h
          obtain ⟨before, b', hbytes, hrest⟩ := ih h
          exact ⟨before, b', hbytes.trans (List.prefix_append _ _), hrest⟩
      | some last =>
          rw [hlast, Option.toList_some] at h
          -- the event is the one of this byte, or an earlier one
          rcases List.eq_nil_or_concat later with rfl | ⟨later, event', rfl⟩
          · obtain ⟨hearlier, hevent⟩ := List.append_inj' h rfl
            obtain rfl := List.singleton_inj.mp hevent
            exact ⟨bytes, b, List.prefix_refl _, hearlier, frame_of_touch hlast⟩
          · rw [List.concat_eq_append, ← List.cons_append, ← List.append_assoc] at h
            obtain ⟨before, b', hbytes, hrest⟩ := ih (List.append_inj' h rfl).1
            exact ⟨before, b', hbytes.trans (List.prefix_append _ _), hrest⟩

theorem touchEvent_start {cmd : UInt8} (h : touchEvent cmd = some .startRequest) : cmd = 1 := by
  unfold touchEvent at h
  split_ifs at h with h1
  · exact h1
  all_goals exact absurd (Option.some.inj h) (by decide)

theorem touchEvent_stop {cmd : UInt8} (h : touchEvent cmd = some .emergencyStop) : cmd = 3 := by
  unfold touchEvent at h
  split_ifs at h with h1 h2 h3
  · exact absurd (Option.some.inj h) (by decide)
  · exact absurd (Option.some.inj h) (by decide)
  · exact h3
  · exact absurd (Option.some.inj h) (by decide)

theorem touchEvent_drive {cmd : UInt8} (h : touchEvent cmd = some .driveEnable) : cmd = 4 := by
  unfold touchEvent at h
  split_ifs at h with h1 h2 h3 h4
  · exact absurd (Option.some.inj h) (by decide)
  · exact absurd (Option.some.inj h) (by decide)
  · exact absurd (Option.some.inj h) (by decide)
  · exact h4

/-- The frame of an event that was touched. -/
theorem frame_of_mem {bytes : List UInt8} {event : VcuEvent} (h : event ∈ touchedEvents bytes) :
    ∃ seen, seen <+: bytes ∧ ∃ cmd, touchEvent cmd = some event ∧ touchFrame cmd <:+ seen := by
  obtain ⟨earlier, later, hsplit⟩ := List.append_of_mem h
  obtain ⟨before, b, hbytes, -, hframe⟩ := touched_at hsplit
  exact ⟨before ++ [b], hbytes, hframe⟩

theorem start_frame {bytes : List UInt8} (h : .startRequest ∈ touchedEvents bytes) :
    ∃ seen, seen <+: bytes ∧ touchFrame 1 <:+ seen := by
  obtain ⟨seen, hseen, cmd, hcmd, hframe⟩ := frame_of_mem h
  rw [touchEvent_start hcmd] at hframe
  exact ⟨seen, hseen, hframe⟩

/-- The frames of a START and a DRIVE_ENABLE after it, one after the other. -/
theorem drive_frames {bytes : List UInt8}
    (h : [.startRequest, .driveEnable].Sublist (touchedEvents bytes)) :
    ∃ before b, before ++ [b] <+: bytes ∧ touchFrame 4 <:+ before ++ [b] ∧
      ∃ seen, seen <+: before ∧ touchFrame 1 <:+ seen := by
  obtain ⟨early, late, hsplit, hstart, hdrive⟩ := List.cons_sublist_iff.mp h
  obtain ⟨between, later, rfl⟩ := List.append_of_mem (List.singleton_sublist.mp hdrive)
  rw [← List.append_assoc] at hsplit
  obtain ⟨before, b, hbytes, hbefore, cmd, hcmd, hframe⟩ := touched_at hsplit
  rw [touchEvent_drive hcmd] at hframe
  refine ⟨before, b, hbytes, hframe, start_frame ?_⟩
  rw [hbefore]
  exact List.mem_append_left _ hstart

theorem mem_driverEvents {events : List VcuEvent} {event : VcuEvent} (h : event ∈ events)
    (hdriver : event ≠ .faultDetected) : event ∈ driverEvents events :=
  List.mem_filter.mpr ⟨h, decide_eq_true hdriver⟩

/-- **Nothing drives without the driver.** Take any run of the three tasks, whatever arrives on the
bus and however they interleave, and what it does to the VCU. The events of the driver that the VCU
consumes in it are touch commands of the display, each of them once and in order. So a relay is
closed, or the state is `ready`, only when the frame of a START was received; the state is `drive`
only when the frame of a DRIVE_ENABLE was received and the frame of a START before it; and the state
is `emergencyStop` only when the frame of a stop was. -/
theorem nothing_drives_untouched (rpmToSpeedKmhX10 : UInt16 → UInt16) (acts : List CockpitAct)
    (c : Cockpit) (h : execGuarded (Cockpit.step rpmToSpeedKmhX10) .boot acts = some c) :
    c.sys.vcu = exec VcuLogic.step .booted (vcuHistory rpmToSpeedKmhX10 acts) ∧
      (driverEvents (gather VcuLogic.step VcuLogic.consumed .booted
        (vcuHistory rpmToSpeedKmhX10 acts))).Sublist (touchedEvents c.received) ∧
      ((∃ channel, c.sys.vcu.relays.getRelayState channel = true) ∨ c.sys.vcu.state = .ready →
        ∃ seen, seen <+: c.received ∧ touchFrame 1 <:+ seen) ∧
      (c.sys.vcu.state = .drive →
        ∃ before b, before ++ [b] <+: c.received ∧ touchFrame 4 <:+ before ++ [b] ∧
          ∃ seen, seen <+: before ∧ touchFrame 1 <:+ seen) ∧
      (c.sys.vcu.state = .emergencyStop →
        ∃ seen, seen <+: c.received ∧ touchFrame 3 <:+ seen) := by
  obtain ⟨-, -, hvcu, hposted⟩ := run_driven h
  have hconsumed : (driverEvents (gather VcuLogic.step VcuLogic.consumed .booted
      (vcuHistory rpmToSpeedKmhX10 acts))).Sublist (touchedEvents c.received) :=
    ((consumed_sublist _).filter _).trans hposted
  refine ⟨hvcu, hconsumed, ?_, ?_, ?_⟩
  · -- START was consumed, so it was touched, so its frame was received
    rintro (⟨channel, hon⟩ | hready)
    · rw [hvcu] at hon
      have hstart := start_consumed_of_closed _ hon
      exact start_frame (hconsumed.subset (mem_driverEvents hstart (by decide)))
    · rw [hvcu] at hready
      have hstart := start_consumed_of_readySince (readySince_of_ready _ hready)
      exact start_frame (hconsumed.subset (mem_driverEvents hstart (by decide)))
  · intro hdrive
    rw [hvcu] at hdrive
    have hboth := drive_consumed_of_driveSince (driveSince_of_drive _ hdrive)
    have htouched : (driverEvents [.startRequest, .driveEnable]).Sublist
        (touchedEvents c.received) := (hboth.filter _).trans hconsumed
    exact drive_frames htouched
  · -- the stop is not consumed from the queue: it is traced to its post
    intro hstop
    rw [hvcu] at hstop
    have hmem := hposted.subset (mem_driverEvents (stop_posted _ (.inr hstop)) (by decide))
    obtain ⟨seen, hseen, cmd, hcmd, hframe⟩ := frame_of_mem hmem
    rw [touchEvent_stop hcmd] at hframe
    exact ⟨seen, hseen, hframe⟩

/-- A pass of the display that asks for so many relays and reads a touch, and an iteration of the
VCU. -/
def touchAndRun (relays : Nat) (cmd : UInt8) : List CockpitAct :=
  [.hmi 0 [], .hmi 0 []] ++ List.replicate relays (.hmi 0 []) ++
    [.hmi 0 [], .hmi 0 (touchFrame cmd), .task .vcuTask, .task .vcuTask, .task .vcuTask]

theorem start_then_drive_touched :
    ∃ c, execGuarded (Cockpit.step id) .boot (touchAndRun 1 1 ++ touchAndRun 10 4) = some c ∧
      c.sys.vcu.state = .drive ∧ ∃ before b, before ++ [b] <+: c.received ∧
        touchFrame 4 <:+ before ++ [b] ∧ ∃ seen, seen <+: before ∧ touchFrame 1 <:+ seen := by
  have hpossible : (execGuarded (Cockpit.step id) .boot
      (touchAndRun 1 1 ++ touchAndRun 10 4)).isSome = true := by decide
  obtain ⟨c, hc⟩ := Option.isSome_iff_exists.mp hpossible
  have hdrive : c.sys.vcu.state = .drive := by
    have hstate : (execGuarded (Cockpit.step id) .boot
        (touchAndRun 1 1 ++ touchAndRun 10 4)).map (·.sys.vcu.state) = some .drive := by decide
    rw [hc] at hstate
    exact Option.some.inj hstate
  obtain ⟨-, -, -, hframes, -⟩ := nothing_drives_untouched id _ c hc
  exact ⟨c, hc, hdrive, hframes hdrive⟩

end TfnAks.System
