/-
# TfnAks.System.FaultPaths — the two ways a fault is noticed

The CAN manager reports a fault as an event, once, on the frame that brings it; the VCU looks at the
telemetry again in every iteration (`hasCriticalCondition`). The two are written apart, each with
its own comparisons. `fault_paths_agree` says that they mean the same pack voltages by a fault, and
that the event path, for all its silence while a fault lasts, leaves out no faulty stretch of
frames.
-/
import TfnAks.Can.FaultEvents
import TfnAks.Can.FieldRanges
import TfnAks.Vcu.VcuLogic

namespace TfnAks.System

open TfnAks.Lib.Runs TfnAks.Lib.EdgeAlarm TfnAks.Can TfnAks.Vcu

/-- The pack voltage of a BMS frame is outside the critical band. -/
def OutOfBand (msg : TwaiMessage) : Prop :=
  msg.packVoltageDeciV.toNat ≤ bmsCriticalMinPackVoltageDeciV ∨
    bmsCriticalMaxPackVoltageDeciV ≤ msg.packVoltageDeciV.toNat

/-- What the voltage of the last accepted BMS frame of a run meant; in-band before the first one. -/
def lastPackVoltageFault (ops : List CanOp) : BmsPackVoltageFault :=
  ((packFaults.accepted ops).getLast?.map TwaiMessage.packVoltageFault).getD .none

/-- The error flags of the last accepted motor frame of a run, 0 before the first one. -/
def lastMotorErrorFlags (ops : List CanOp) : UInt8 :=
  ((motorFaults.accepted ops).getLast?.map TwaiMessage.motorErrorFlags).getD 0

/-- The telemetry with the motor error and the motor timeout cleared. -/
def motorCleared (d : TelemetryData) : TelemetryData :=
  { d with telMotorErrorFlags := 0, telMotorTimeoutActive := false }

/-! ## The event path -/

theorem packVoltageFault_ne_none_iff (msg : TwaiMessage) :
    msg.packVoltageFault ≠ .none ↔ OutOfBand msg := by
  unfold TwaiMessage.packVoltageFault checkPackVoltageFault OutOfBand
  split_ifs with hlow hhigh
  · exact iff_of_true (by decide) (Or.inl hlow)
  · exact iff_of_true (by decide) (Or.inr hhigh)
  · exact iff_of_false (not_not.mpr rfl) (not_or.mpr ⟨hlow, hhigh⟩)

theorem lastCode_packFaults (ops : List CanOp) :
    lastCode packFaults.flags? 0 ops = packFaultFlags (lastPackVoltageFault ops) := by
  rw [packFaults.lastCode_eq, lastPackVoltageFault]
  cases (packFaults.accepted ops).getLast? <;> rfl

/-- Flags differ from those of the frame before as the classes do. -/
theorem raises_pack_iff (pre : List CanOp) (msg : TwaiMessage) :
    Raises 0 (lastCode packFaults.flags? 0 pre) (packFaultFlags msg.packVoltageFault) ↔
      OutOfBand msg ∧ msg.packVoltageFault ≠ lastPackVoltageFault pre := by
  rw [lastCode_packFaults, Raises, ← packVoltageFault_ne_none_iff]
  exact and_congr (packFaultFlags_injective.ne_iff' rfl) packFaultFlags_injective.ne_iff

theorem notifyFaultIfNeeded_zero (previousFlags : UInt8) :
    notifyFaultIfNeeded previousFlags 0 = [] :=
  if_pos (Or.inl rfl)

/-! ## The telemetry path -/

theorem apply_canFed (m : CanManager) (op : CanOp) (h : CanFed m.telemetryData) :
    CanFed (m.apply op).telemetryData := by
  cases op with
  | frame msg now => exact handleFrame_canFed h msg now
  | updateMotorStatusValidity now => exact updateMotorStatusValidity_canFed h now
  | updateBmsValidity now => exact updateBmsValidity_canFed h now
  | updateChargerValidity now => exact updateChargerValidity_canFed h now

/-- With fresh BMS data, no fault of the BMS itself and the motor fields cleared, the voltage
decides, in every state. -/
theorem hasCriticalCondition_motorCleared {d : TelemetryData} (hsys : d.telBmsSystemState = 0)
    (hvalid : d.telBmsDataValid = true) (hactive : d.telBmsTimeoutActive = false) (st : VcuState) :
    hasCriticalCondition (motorCleared d) st = true ↔
      d.telBmsPackVoltageDeciV.toNat ≤ bmsCriticalMinPackVoltageDeciV ∨
        bmsCriticalMaxPackVoltageDeciV ≤ d.telBmsPackVoltageDeciV.toNat := by
  simp [hasCriticalCondition, motorCleared, hsys, hvalid, hactive]

/-- **The two paths.** After an accepted BMS frame the stored fault flags are up exactly when the
telemetry is critical for its BMS part. -/
theorem bmsPackFaultFlags_ne_zero_iff {m : CanManager} (h : CanFed m.telemetryData)
    {msg : TwaiMessage} (hmsg : msg.isLbBmsE000 = true) (now : TickType) (st : VcuState) :
    (m.handleFrame msg now).1.bmsPackFaultFlags ≠ 0 ↔
      hasCriticalCondition (motorCleared (m.handleFrame msg now).1.telemetryData) st = true := by
  have hview : (m.handleFrame msg now).1.bmsView = .receive msg.packVoltageDeciV now := by
    rw [(handleFrame_views msg now m).2, if_pos hmsg]
  have hvoltage : (m.handleFrame msg now).1.telemetryData.telBmsPackVoltageDeciV =
      msg.packVoltageDeciV := congrArg StreamView.payload hview
  rw [hasCriticalCondition_motorCleared (handleFrame_canFed h msg now).systemState
    (congrArg StreamView.dataValid hview) (congrArg StreamView.timeoutActive hview), hvoltage,
    (handleFrame_faults msg now m).2.1, if_pos hmsg]
  exact (packFaultFlags_injective.ne_iff' rfl).trans (packVoltageFault_ne_none_iff msg)

/-! ## Both -/

/-- The operation at which a faulty block of a stream is reported. -/
theorem faultyBlock_reported {S : FaultStream}
    (hevents : ∀ pre msg now, S.accepts msg = true →
      ((exec CanManager.apply .begun pre).handleFrame msg now).2 =
        notifyFaultIfNeeded (lastCode S.flags? 0 pre) (S.flags msg))
    {pre block post : List CanOp} (hblock : FaultyBlock S.flags? 0 pre block post) :
    ∃ before msg now later, block = before ++ .frame msg now :: later ∧ S.accepts msg = true ∧
      ((exec CanManager.apply .begun (pre ++ before)).handleFrame msg now).2 =
        [.faultDetected] := by
  obtain ⟨before, op, later, flags, hsplit, hflags, hraises⟩ := hblock.raises
  cases op with
  | frame msg now =>
      rw [S.flags?_frame] at hflags
      by_cases haccepts : S.accepts msg = true
      · rw [if_pos haccepts] at hflags
        refine ⟨before, msg, now, later, hsplit, haccepts, ?_⟩
        rw [hevents _ _ _ haccepts, Option.some.inj hflags]
        exact (notifyFaultIfNeeded_eq_iff _ _).mpr hraises
      · rw [if_neg haccepts] at hflags
        cases hflags
  | updateMotorStatusValidity now => cases hflags
  | updateBmsValidity now => cases hflags
  | updateChargerValidity now => cases hflags

/-- **Events and telemetry agree.** For every run of the CAN manager, frames and updates in any
order: a BMS frame raises `FAULT_DETECTED` exactly when its voltage leaves the critical band in
another way than that of the frame before, a motor frame exactly when its error flags are up and
new, and no other frame raises it; after a BMS frame the stored fault flags are up exactly when the
VCU finds the BMS data critical. So every maximal block of faulty frames of a stream is reported,
and no clean frame. -/
theorem fault_paths_agree :
    (∀ (pre : List CanOp) (msg : TwaiMessage) (now : TickType),
      let served := (exec CanManager.apply .begun pre).handleFrame msg now
      (msg.isLbBmsE000 = true →
        (served.2 = [.faultDetected] ↔
          OutOfBand msg ∧ msg.packVoltageFault ≠ lastPackVoltageFault pre) ∧
        (¬ OutOfBand msg → served.2 = []) ∧
        ∀ st, served.1.bmsPackFaultFlags ≠ 0 ↔
          hasCriticalCondition (motorCleared served.1.telemetryData) st = true) ∧
      (msg.isMotorStatus = true →
        (served.2 = [.faultDetected] ↔
          msg.motorErrorFlags ≠ 0 ∧ msg.motorErrorFlags ≠ lastMotorErrorFlags pre) ∧
        (msg.motorErrorFlags = 0 → served.2 = [])) ∧
      (msg.isLbBmsE000 = false → msg.isMotorStatus = false → served.2 = [])) ∧
    ∀ S ∈ [motorFaults, packFaults], ∀ pre block post, FaultyBlock S.flags? 0 pre block post →
      ∃ before msg now later, block = before ++ .frame msg now :: later ∧ S.accepts msg = true ∧
        ((exec CanManager.apply .begun (pre ++ before)).handleFrame msg now).2 =
          [.faultDetected] := by
  constructor
  · -- one frame: the events, and the flag beside the VCU's own check
    intro pre msg now served
    refine ⟨fun hmsg => ⟨?_, ?_, ?_⟩, fun hmsg => ⟨?_, ?_⟩, fun hbms hmotor => ?_⟩
    · rw [← raises_pack_iff, ← notifyFaultIfNeeded_eq_iff, ← packFaults_events pre hmsg now]
    · intro hband
      have hnone : msg.packVoltageFault = .none :=
        not_not.mp (mt (packVoltageFault_ne_none_iff msg).mp hband)
      show ((exec CanManager.apply .begun pre).handleFrame msg now).2 = []
      rw [packFaults_events pre hmsg, hnone]
      exact notifyFaultIfNeeded_zero _
    · intro st
      have hfed : CanFed (exec CanManager.apply .begun pre).telemetryData :=
        exec_invariant (I := fun m : CanManager => CanFed m.telemetryData) apply_canFed
          begun_canFed pre
      exact bmsPackFaultFlags_ne_zero_iff hfed hmsg now st
    · show ((exec CanManager.apply .begun pre).handleFrame msg now).2 = _ ↔ _
      rw [motorFaults_events pre hmsg, notifyFaultIfNeeded_eq_iff, motorFaults.lastCode_eq]
      rfl
    · intro hclean
      show ((exec CanManager.apply .begun pre).handleFrame msg now).2 = []
      rw [motorFaults_events pre hmsg, hclean]
      exact notifyFaultIfNeeded_zero _
    · show ((exec CanManager.apply .begun pre).handleFrame msg now).2 = []
      rw [(handleFrame_faults msg now _).2.2, hmotor, hbms]
      rfl
  · -- a block of faulty frames, for either stream
    intro S hS pre block post hblock
    simp only [List.mem_cons, List.not_mem_nil, or_false] at hS
    rcases hS with rfl | rfl
    · exact faultyBlock_reported (fun pre msg now h => motorFaults_events pre h now) hblock
    · exact faultyBlock_reported (fun pre msg now h => packFaults_events pre h now) hblock

/-- The frame of an empty pack: 51.2 V. -/
def emptyPack : TwaiMessage := ⟨true, canIdLbBmsE000, 8, #v[0, 0, 2, 0, 0, 0, 0, 0]⟩

/-- A block of two such frames with a timeout between them. -/
theorem fault_paths_agree_emptyPack :
    ∃ before msg now later,
      [.frame emptyPack 0, .updateBmsValidity 100, .frame emptyPack 101] =
        before ++ CanOp.frame msg now :: later ∧ packFaults.accepts msg = true ∧
        ((exec CanManager.apply .begun ([] ++ before)).handleFrame msg now).2 =
          [.faultDetected] := by
  have hcodes : [CanOp.frame emptyPack 0, .updateBmsValidity 100, .frame emptyPack 101].filterMap
      packFaults.flags? = [1, 1] := rfl
  refine fault_paths_agree.2 packFaults (List.mem_cons_of_mem _ List.mem_cons_self) []
    [.frame emptyPack 0, .updateBmsValidity 100, .frame emptyPack 101] [] ⟨?_, ?_, rfl, ?_⟩
  · rw [hcodes]
    exact List.cons_ne_nil 1 [1]
  · intro x hx
    rw [hcodes] at hx
    obtain rfl : x = 1 := by simpa using hx
    decide
  · exact fun _ h => nomatch h

end TfnAks.System
