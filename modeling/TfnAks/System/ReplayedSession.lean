/-
# TfnAks.System.ReplayedSession — what a passed session means for the vehicle

`can_replay` checks a recorded session against the parsers of the firmware, not against the
firmware. The gap is closed here. A message of a session that passes with its asserts on, and
without unknown identifiers, is `Harmless`; a CAN manager that gets nothing else stays
`Undisturbed`, whatever the order of the messages, their ticks and the validity updates between
them.

The unknown identifiers have to be looked at, they are no violation: the motor frames of the vehicle
are among them, and those can raise a fault.
-/
import TfnAks.Can.CanReplay
import TfnAks.Can.FreshnessFlags
import TfnAks.System.FaultPaths

namespace TfnAks.System

open TfnAks.Lib.CText TfnAks.Lib.LatchedTimeout TfnAks.Lib.Runs TfnAks.Can TfnAks.Can.Sniffer
  TfnAks.Vcu

/-- A frame of a log as the controller receives it: its format is a flag of the message. -/
def onBus (f : Frame) : TwaiMessage := { f.msg with extd := f.isExt, identifier := f.id }

/-- What the asserts of the session leave of a message. -/
structure Harmless (msg : TwaiMessage) : Prop where
  no_motor : msg.isMotorStatus = false
  voltage : msg.isLbBmsE000 = true → msg.packVoltageDeciV = kExpectedPackVDeciV
  current : msg.isLbBmsE000 = true → msg.currentCentiMa = -10 ∨ msg.currentCentiMa = -20
  charger : msg.isCharger = true →
    msg.chargerCommand = ⟨kExpectedChargerVsetDeciV, kExpectedChargerIsetDeciA⟩

theorem harmless_of_passes {f : Frame} (hpasses : f.Passes true) (hknown : f.known = true) :
    Harmless (onBus f) where
  no_motor := by
    cases hext : f.isExt with
    | true => simp [TwaiMessage.isMotorStatus, onBus, hext]
    | false =>
        have hid : f.id = canIdLbStd0x000 := by
          simpa [Frame.known, hext, kKnownStdIds] using hknown
        simp [TwaiMessage.isMotorStatus, onBus, hext, hid, canIdLbStd0x000, canIdMotorStatus]
  voltage h := by
    simp only [TwaiMessage.isLbBmsE000, onBus, Bool.and_eq_true, beq_iff_eq] at h
    exact ((hpasses.pack h.1.1 h.1.2).2 rfl).1
  current h := by
    simp only [TwaiMessage.isLbBmsE000, onBus, Bool.and_eq_true, beq_iff_eq] at h
    exact ((hpasses.pack h.1.1 h.1.2).2 rfl).2
  charger h := by
    simp only [TwaiMessage.isCharger, onBus, Bool.and_eq_true, beq_iff_eq] at h
    exact (hpasses.charger h.1.1 h.1.2).2 rfl

/-! ## The manager -/

/-- Once a frame of the stream is accepted, the payload has the property. -/
def Holds {α : Type} (P : α → Prop) (v : StreamView α) : Prop := v.stamp.seen = true → P v.payload

theorem Holds.receive {α : Type} {P : α → Prop} {p : α} (hp : P p) (now : TickType) :
    Holds P (.receive p now) := fun _ => hp

theorem Holds.update {α : Type} {P : α → Prop} {v : StreamView α} (h : Holds P v)
    (now timeout : TickType) : Holds P (v.update now timeout) := by
  unfold StreamView.update Stamp.check
  split
  · exact h
  · exact h

/-- A manager that has seen messages of the session only. -/
structure Undisturbed (m : CanManager) : Prop where
  fed : CanFed m.telemetryData
  motor : m.motorView = CanManager.begun.motorView
  motorFlags : m.motorStatus.errorFlags = 0
  packFlags : m.bmsPackFaultFlags = 0
  mirrors : m.bmsView.Mirrors
  voltage : Holds (· = kExpectedPackVDeciV) m.bmsView
  current : m.bmsView.stamp.seen = true →
    m.telemetryData.telBmsCurrentCentiMa = -10 ∨ m.telemetryData.telBmsCurrentCentiMa = -20
  charger : Holds (· = ⟨kExpectedChargerVsetDeciV, kExpectedChargerIsetDeciA⟩) m.chargerView

theorem begun_undisturbed : Undisturbed CanManager.begun where
  fed := begun_canFed
  motor := rfl
  motorFlags := rfl
  packFlags := rfl
  mirrors := ⟨rfl, rfl⟩
  voltage h := absurd h Bool.false_ne_true
  current h := absurd h Bool.false_ne_true
  charger h := absurd h Bool.false_ne_true

/-- The voltage of the session is in the critical band. -/
theorem packVoltageFault_of_expected {msg : TwaiMessage}
    (h : msg.packVoltageDeciV = kExpectedPackVDeciV) : msg.packVoltageFault = .none := by
  rw [TwaiMessage.packVoltageFault, h]
  rfl

/-- **One message.** -/
theorem handleFrame_undisturbed {m : CanManager} (h : Undisturbed m) {msg : TwaiMessage}
    (hmsg : Harmless msg) (now : TickType) :
    Undisturbed (m.handleFrame msg now).1 ∧ (m.handleFrame msg now).2 = [] := by
  have hno : ¬ msg.isMotorStatus = true := by
    rw [hmsg.no_motor]
    exact Bool.false_ne_true
  obtain ⟨hmotor, hbms⟩ := handleFrame_views msg now m
  obtain ⟨hmotorFlags, hpackFlags, hevents⟩ := handleFrame_faults msg now m
  have hcharger := handleFrame_chargerView msg now m
  have hvalues := congrArg TelemetryData.telBmsCurrentCentiMa (handleFrame_values msg now m)
  rw [if_neg hno] at hmotor hmotorFlags hevents
  rw [TwaiMessage.write, if_neg hno] at hvalues
  have hrest : ∀ {P : ChargerCommand → Prop}, Holds P m.chargerView →
      (msg.isCharger = true → P msg.chargerCommand) →
      Holds P (m.handleFrame msg now).1.chargerView := by
    intro P hold hnew
    rw [hcharger]
    by_cases hmine : msg.isCharger = true
    · rw [if_pos hmine]
      exact Holds.receive (hnew hmine) now
    · rw [if_neg hmine]
      exact hold
  by_cases hpack : msg.isLbBmsE000 = true
  · have hclear := congrArg packFaultFlags (packVoltageFault_of_expected (hmsg.voltage hpack))
    rw [if_pos hpack] at hbms hpackFlags hevents hvalues
    rw [hclear] at hpackFlags hevents
    refine ⟨?_, hevents.trans (notifyFaultIfNeeded_zero _)⟩
    exact
      { fed := handleFrame_canFed h.fed msg now
        motor := hmotor.trans h.motor
        motorFlags := hmotorFlags.trans h.motorFlags
        packFlags := hpackFlags
        mirrors := by rw [hbms]; exact ⟨rfl, rfl⟩
        voltage := by rw [hbms]; exact Holds.receive (hmsg.voltage hpack) now
        current := fun _ => by
          rw [show (m.handleFrame msg now).1.telemetryData.telBmsCurrentCentiMa = msg.currentCentiMa
            from hvalues]
          exact hmsg.current hpack
        charger := hrest h.charger hmsg.charger }
  · rw [if_neg hpack] at hbms hpackFlags hevents hvalues
    have hcurrent : (m.handleFrame msg now).1.telemetryData.telBmsCurrentCentiMa =
        m.telemetryData.telBmsCurrentCentiMa := by
      refine hvalues.trans ?_
      split <;> rfl
    refine ⟨?_, hevents⟩
    exact
      { fed := handleFrame_canFed h.fed msg now
        motor := hmotor.trans h.motor
        motorFlags := hmotorFlags.trans h.motorFlags
        packFlags := hpackFlags.trans h.packFlags
        mirrors := by rw [hbms]; exact h.mirrors
        voltage := by rw [hbms]; exact h.voltage
        current := by rw [hbms, hcurrent]; exact h.current
        charger := hrest h.charger hmsg.charger }

/-- The current is one of the values of a record. -/
theorem current_of_values {d d' : TelemetryData} (h : recordValues d = recordValues d') :
    d.telBmsCurrentCentiMa = d'.telBmsCurrentCentiMa := by
  have hcurrent := congrArg TelemetryData.telBmsCurrentCentiMa h
  exact hcurrent

theorem seen_update {α : Type} (v : StreamView α) (now timeout : TickType) :
    (v.update now timeout).stamp.seen = v.stamp.seen := by
  unfold StreamView.update Stamp.check
  split <;> rfl

/-- No motor frame has come, so there is none to time out. -/
theorem updateMotorStatusValidity_undisturbed {m : CanManager} (h : Undisturbed m)
    (now : TickType) : Undisturbed (m.updateMotorStatusValidity now) := by
  obtain ⟨hmotor, hbms⟩ := updateMotorStatusValidity_views now m
  have hcurrent : (m.updateMotorStatusValidity now).telemetryData.telBmsCurrentCentiMa =
      m.telemetryData.telBmsCurrentCentiMa :=
    current_of_values (updateMotorStatusValidity_values now m)
  exact
    { fed := updateMotorStatusValidity_canFed h.fed now
      motor := by rw [hmotor, h.motor]; rfl
      motorFlags := by rw [updateMotorStatusValidity_eq]; exact h.motorFlags
      packFlags := by rw [updateMotorStatusValidity_eq]; exact h.packFlags
      mirrors := by rw [hbms]; exact h.mirrors
      voltage := by rw [hbms]; exact h.voltage
      current := by rw [hbms, hcurrent]; exact h.current
      charger := by rw [updateMotorStatusValidity_chargerView]; exact h.charger }

theorem updateBmsValidity_undisturbed {m : CanManager} (h : Undisturbed m) (now : TickType) :
    Undisturbed (m.updateBmsValidity now) := by
  obtain ⟨hmotor, hbms⟩ := updateBmsValidity_views h.mirrors now
  have hcurrent : (m.updateBmsValidity now).telemetryData.telBmsCurrentCentiMa =
      m.telemetryData.telBmsCurrentCentiMa :=
    current_of_values (updateBmsValidity_values now m)
  exact
    { fed := updateBmsValidity_canFed h.fed now
      motor := hmotor.trans h.motor
      motorFlags := by rw [updateBmsValidity_eq]; exact h.motorFlags
      packFlags := by rw [updateBmsValidity_eq]; exact h.packFlags
      mirrors := by rw [hbms]; exact h.mirrors.update now _
      voltage := by rw [hbms]; exact h.voltage.update now _
      current := by rw [hbms, seen_update, hcurrent]; exact h.current
      charger := by rw [updateBmsValidity_chargerView]; exact h.charger }

theorem updateChargerValidity_undisturbed {m : CanManager} (h : Undisturbed m) (now : TickType) :
    Undisturbed (m.updateChargerValidity now) := by
  obtain ⟨hmotor, hbms⟩ := updateChargerValidity_views now m
  exact
    { fed := updateChargerValidity_canFed h.fed now
      motor := hmotor.trans h.motor
      motorFlags := by rw [updateChargerValidity_eq]; exact h.motorFlags
      packFlags := by rw [updateChargerValidity_eq]; exact h.packFlags
      mirrors := by rw [hbms]; exact h.mirrors
      voltage := by rw [hbms]; exact h.voltage
      current := by rw [hbms, updateChargerValidity_eq]; exact h.current
      charger := by rw [updateChargerValidity_chargerView]; exact h.charger.update now _ }

/-- The events an operation passes to the callback. -/
def operationEvents (m : CanManager) : CanOp → List CanEvent
  | .frame msg now => (m.handleFrame msg now).2
  | _ => []

theorem apply_undisturbed {m : CanManager} (h : Undisturbed m) {op : CanOp}
    (hop : ∀ msg, op.frame? = some msg → Harmless msg) :
    Undisturbed (m.apply op) ∧ operationEvents m op = [] := by
  cases op with
  | frame msg now => exact handleFrame_undisturbed h (hop msg rfl) now
  | updateMotorStatusValidity now => exact ⟨updateMotorStatusValidity_undisturbed h now, rfl⟩
  | updateBmsValidity now => exact ⟨updateBmsValidity_undisturbed h now, rfl⟩
  | updateChargerValidity now => exact ⟨updateChargerValidity_undisturbed h now, rfl⟩

theorem exec_undisturbed {m : CanManager} (h : Undisturbed m) {ops : List CanOp}
    (hops : ∀ msg ∈ ops.filterMap CanOp.frame?, Harmless msg) :
    Undisturbed (exec CanManager.apply m ops) ∧
      gather CanManager.apply operationEvents m ops = [] := by
  have hframes : ∀ op ∈ ops, ∀ msg, op.frame? = some msg → Harmless msg := fun op hop msg hmsg =>
    hops msg (List.mem_filterMap.mpr ⟨op, hop, hmsg⟩)
  clear hops
  induction ops generalizing m with
  | nil => exact ⟨h, rfl⟩
  | cons op ops ih =>
      rw [List.forall_mem_cons] at hframes
      obtain ⟨hnext, hevents⟩ := apply_undisturbed h hframes.1
      obtain ⟨hlast, hlater⟩ := ih hnext hframes.2
      rw [exec_cons, gather_cons, hevents, hlater]
      exact ⟨hlast, rfl⟩

/-- Only a BMS that went silent makes the telemetry critical. -/
theorem critical_of_undisturbed {m : CanManager} (h : Undisturbed m) {st : VcuState}
    (hcritical : hasCriticalCondition m.telemetryData st = true) :
    m.telemetryData.telBmsTimeoutActive = true := by
  have herror : m.telemetryData.telMotorErrorFlags = 0 := congrArg StreamView.payload h.motor
  have htimeout : m.telemetryData.telMotorTimeoutActive = false :=
    congrArg StreamView.timeoutActive h.motor
  have hsystem := h.fed.systemState
  by_contra hactive
  have hquiet : m.telemetryData.telBmsTimeoutActive = false := by simpa using hactive
  cases hvalid : m.telemetryData.telBmsDataValid with
  | false => simp [hasCriticalCondition, herror, htimeout, hquiet, hvalid] at hcritical
  | true =>
      have hseen : m.bmsView.stamp.seen = true := by
        have hmirror := h.mirrors.1
        rw [show m.bmsView.dataValid = true from hvalid] at hmirror
        exact (Bool.and_eq_true_iff.mp hmirror.symm).1
      have hvoltage : m.telemetryData.telBmsPackVoltageDeciV = kExpectedPackVDeciV :=
        h.voltage hseen
      simp [hasCriticalCondition, herror, htimeout, hquiet, hvalid, hsystem, hvoltage,
        kExpectedPackVDeciV, bmsCriticalMinPackVoltageDeciV, bmsCriticalMaxPackVoltageDeciV]
        at hcritical

/-! ## The session -/

/-- The frames of a passed session are harmless. -/
theorem harmless_of_session {w : LongWidth} {file : List Char}
    (hpasses : ∀ x ∈ contentLines file, LinePasses w true x) {f : Frame}
    (hf : f ∈ (readLog w file).frames) (hknown : f.known = true) : Harmless (onBus f) := by
  rw [(readLog_eq w file).1] at hf
  obtain ⟨x, hx, hframe⟩ := List.mem_filterMap.mp hf
  obtain ⟨f', hparse, hpass⟩ := hpasses x hx
  rw [lineFrame?, hparse] at hframe
  obtain rfl : f' = f := Option.some.inj hframe
  exact harmless_of_passes hpass hknown

/-- **A passed session leaves the vehicle in peace.** When `can_replay` ends with 0 on a log, with
the asserts of the session and no unknown identifier in its report, then whatever messages of the
log a CAN manager gets, in any order and at any ticks, with validity updates anywhere between them:
no event is raised, and the telemetry is critical in no state of the VCU unless the BMS has timed
out. No motor frame was accepted, and what a stream has shown are the values of the session. -/
theorem passed_session_is_quiet {w : LongWidth} {readFile : String → Option (List Char)}
    {args : List String} {file : List Char} {r : Replay}
    (hfile : readFile (readArgs args).2 = some file) (hasserts : "--generic" ∉ args)
    (hpassed : main w readFile args = (0, some r)) (hknown : r.st.unknownIds = ∅)
    {ops : List CanOp}
    (hops : ∀ msg ∈ ops.filterMap CanOp.frame?, ∃ f ∈ (readLog w file).frames, msg = onBus f) :
    let m := exec CanManager.apply .begun ops
    gather CanManager.apply operationEvents .begun ops = [] ∧
      (∀ st, hasCriticalCondition m.telemetryData st = true →
        m.telemetryData.telBmsTimeoutActive = true) ∧
      m.hasSeenMotorStatus = false ∧
      (m.hasSeenBmsE000 = true → m.telemetryData.telBmsPackVoltageDeciV = kExpectedPackVDeciV ∧
        (m.telemetryData.telBmsCurrentCentiMa = -10 ∨ m.telemetryData.telBmsCurrentCentiMa = -20)) ∧
      (m.hasSeenCharger = true →
        m.chargerCommand = ⟨kExpectedChargerVsetDeciV, kExpectedChargerIsetDeciA⟩) := by
  intro m
  -- without a path the tool ends with 2
  have hpath : (readArgs args).2 ≠ "" := by
    intro hempty
    rw [main, hempty, if_pos (show "".isEmpty = true from rfl)] at hpassed
    exact absurd (congrArg Prod.fst hpassed) (show (2 : ℕ) ≠ 0 by decide)
  have hflag : (!args.contains "--generic") = true := by simpa using hasserts
  have hrun := main_of_file w hpath hfile
  rw [hpassed, hflag] at hrun
  obtain ⟨hcode, hreport⟩ := Prod.mk.inj hrun
  obtain rfl := Option.some.inj hreport
  have hpasses := (exitCode_eq_zero_iff w true file).mp hcode.symm
  have hharmless : ∀ msg ∈ ops.filterMap CanOp.frame?, Harmless msg := by
    intro msg hmsg
    obtain ⟨f, hf, rfl⟩ := hops msg hmsg
    refine harmless_of_session hpasses hf ?_
    by_contra hunknown
    have hmem := (mem_unknownIds_iff w true file f.key).mpr ⟨f, hf, by simpa using hunknown, rfl⟩
    rw [hknown] at hmem
    exact absurd hmem (Finset.notMem_empty _)
  obtain ⟨hquiet, hevents⟩ := exec_undisturbed begun_undisturbed hharmless
  refine ⟨hevents, fun st => critical_of_undisturbed hquiet, ?_, fun hseen => ?_, hquiet.charger⟩
  · exact congrArg (fun v => v.stamp.seen) hquiet.motor
  · exact ⟨hquiet.voltage hseen, hquiet.current hseen⟩

/-- One line of the recorded session. -/
def sessionLine : List Char := "EXT | 0xE000 | 8 | FF FF 03 16 0F 5E 09 71".toList

/-- What that line says. -/
def sessionFrame : Frame where
  isExt := true
  id := canIdLbBmsE000
  msg := ⟨false, canIdLbBmsE000, 8, #v[0xFF, 0xFF, 0x03, 0x16, 0x0F, 0x5E, 0x09, 0x71]⟩
  lineNo := 1

theorem contentLines_sessionLine : contentLines sessionLine = [(1, sessionLine)] := by
  have hlines : getlines '\n' sessionLine = [sessionLine] := by
    rw [getlines_of_getLast '\n' (by decide) (by decide)]
    decide
  rw [contentLines, hlines]
  decide

theorem parseLine_sessionLine : parseLine .bits64 sessionLine 1 .init = .ok sessionFrame := by
  have hfields : fields sessionLine = [formatText true, "0xE000".toList, "8".toList,
      "FF FF 03 16 0F 5E 09 71".toList] := by
    rw [fields, getlines_of_getLast '|' (by decide) (by decide)]
    decide
  refine (parseLine_of_fields hfields 1 .init sessionFrame).mpr ⟨?_, ?_, ?_⟩
  · decide
  · decide
  · decide

theorem sessionFrame_passes : sessionFrame.Passes true where
  pack _ _ := by decide
  charger _ hid := absurd hid (by decide)

theorem frames_sessionLine : (readLog .bits64 sessionLine).frames = [sessionFrame] := by
  rw [(readLog_eq .bits64 sessionLine).1, contentLines_sessionLine]
  rw [List.filterMap_cons, lineFrame?, parseLine_sessionLine]
  rfl

theorem main_sessionLine :
    main .bits64 (fun _ => some sessionLine) ["oturum.txt"] =
      (0, some (replayLog .bits64 true sessionLine)) := by
  have hpasses : ∀ x ∈ contentLines sessionLine, LinePasses .bits64 true x := by
    rw [contentLines_sessionLine, List.forall_mem_singleton]
    exact ⟨sessionFrame, parseLine_sessionLine, sessionFrame_passes⟩
  have hrun : main .bits64 (fun _ => some sessionLine) ["oturum.txt"] =
      ((replayLog .bits64 true sessionLine).exitCode, some (replayLog .bits64 true sessionLine)) :=
    main_of_file .bits64 (by decide) rfl
  rw [hrun, (exitCode_eq_zero_iff .bits64 true sessionLine).mpr hpasses]

/-- The frame of that line, and an update. -/
def sessionOps : List CanOp := [.frame (onBus sessionFrame) 7, .updateBmsValidity 9]

theorem sessionOps_quiet :
    gather CanManager.apply operationEvents .begun sessionOps = [] ∧
      (∀ st,
        hasCriticalCondition (exec CanManager.apply .begun sessionOps).telemetryData st = true →
        (exec CanManager.apply .begun sessionOps).telemetryData.telBmsTimeoutActive = true) ∧
      (exec CanManager.apply .begun sessionOps).hasSeenMotorStatus = false ∧
      ((exec CanManager.apply .begun sessionOps).telemetryData.telBmsPackVoltageDeciV =
          kExpectedPackVDeciV ∧
        ((exec CanManager.apply .begun sessionOps).telemetryData.telBmsCurrentCentiMa = -10 ∨
          (exec CanManager.apply .begun sessionOps).telemetryData.telBmsCurrentCentiMa = -20)) ∧
      ((exec CanManager.apply .begun sessionOps).hasSeenCharger = true →
        (exec CanManager.apply .begun sessionOps).chargerCommand =
          ⟨kExpectedChargerVsetDeciV, kExpectedChargerIsetDeciA⟩) := by
  have hknown : (replayLog .bits64 true sessionLine).st.unknownIds = ∅ := by
    refine Finset.eq_empty_of_forall_notMem fun key hkey => ?_
    obtain ⟨f, hf, hunknown, -⟩ := (mem_unknownIds_iff .bits64 true sessionLine key).mp hkey
    rw [frames_sessionLine, List.mem_singleton] at hf
    rw [hf] at hunknown
    exact absurd hunknown (by decide)
  have hops : ∀ msg ∈ sessionOps.filterMap CanOp.frame?,
      ∃ f ∈ (readLog .bits64 sessionLine).frames, msg = onBus f := by
    rw [frames_sessionLine]
    intro msg hmsg
    exact ⟨sessionFrame, List.mem_singleton_self _, List.mem_singleton.mp hmsg⟩
  obtain ⟨hevents, hcritical, hmotor, hbms, hcharger⟩ :=
    passed_session_is_quiet rfl (by decide) main_sessionLine hknown hops
  exact ⟨hevents, hcritical, hmotor, hbms (by decide), hcharger⟩

end TfnAks.System
