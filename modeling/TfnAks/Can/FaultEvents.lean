/-
# TfnAks.Can.FaultEvents — when FAULT_DETECTED is raised

The handlers of the motor and the BMS frames compare the fault flags of a frame with the ones they
have stored and call the event callback on a change to faulty flags. `FaultStream` is what the two
have in common: which frames they accept, the flags read from a frame, and where the flags are
stored.

A run here is a list of `CanOp`s, the frames and the validity updates in any order; the passes of
the CAN task are such runs (`processRxMessages_eq_exec`). The updates lower flags of the telemetry,
but touch neither of the stored fault flags, so a timeout does not make an old fault a new one.
-/
import TfnAks.Can.CanTask
import TfnAks.Lib.EdgeAlarm

namespace TfnAks.Can

open TfnAks.Lib.Runs TfnAks.Lib.EdgeAlarm

/-! ## Operations -/

/-- One piece of `processRxMessages`, with the tick it reads. -/
inductive CanOp where
  | frame (msg : TwaiMessage) (now : TickType)
  | updateMotorStatusValidity (now : TickType)
  | updateBmsValidity (now : TickType)
  | updateChargerValidity (now : TickType)

/-- One operation on the manager. -/
def CanManager.apply (m : CanManager) : CanOp → CanManager
  | .frame msg now => (m.handleFrame msg now).1
  | .updateMotorStatusValidity now => m.updateMotorStatusValidity now
  | .updateBmsValidity now => m.updateBmsValidity now
  | .updateChargerValidity now => m.updateChargerValidity now

/-- The frame of an operation, if it is one. -/
def CanOp.frame? : CanOp → Option TwaiMessage
  | .frame msg _ => some msg
  | _ => none

/-- A pass of the CAN task, piece by piece. -/
def CanCall.ops (c : CanCall) : List CanOp :=
  c.frames.map (fun f => .frame f.msg (UInt32.ofNat f.tick)) ++
    [.updateMotorStatusValidity c.motorTick, .updateBmsValidity c.bmsTick,
      .updateChargerValidity c.chargerTick]

theorem processRxMessages_eq_exec (m : CanManager) (c : CanCall) :
    m.processRxMessages c = exec CanManager.apply m c.ops := by
  have hframes : m.handleFrames c.frames =
      exec CanManager.apply m (c.frames.map fun f => .frame f.msg (UInt32.ofNat f.tick)) := by
    rw [exec, List.foldl_map]
    rfl
  rw [CanCall.ops, exec_append, ← hframes]
  rfl

/-! ## The stored flags -/

/-- What the voltage of a BMS frame means. -/
def TwaiMessage.packVoltageFault (msg : TwaiMessage) : BmsPackVoltageFault :=
  checkPackVoltageFault msg.packVoltageDeciV bmsCriticalMinPackVoltageDeciV
    bmsCriticalMaxPackVoltageDeciV

theorem packFaultFlags_injective : Function.Injective packFaultFlags := by
  intro a b h
  cases a <;> cases b <;> first | rfl | exact absurd h (by decide)

/-- A kind of frames that carry fault flags. -/
structure FaultStream where
  accepts : TwaiMessage → Bool
  flags : TwaiMessage → UInt8
  stored : CanManager → UInt8

/-- The error flags of the motor. -/
def motorFaults : FaultStream where
  accepts := TwaiMessage.isMotorStatus
  flags := TwaiMessage.motorErrorFlags
  stored := fun m => m.motorStatus.errorFlags

/-- The voltage fault of the pack. -/
def packFaults : FaultStream where
  accepts := TwaiMessage.isLbBmsE000
  flags := fun msg => packFaultFlags msg.packVoltageFault
  stored := CanManager.bmsPackFaultFlags

/-- The accepted frames of a run. -/
def FaultStream.accepted (S : FaultStream) (ops : List CanOp) : List TwaiMessage :=
  (ops.filterMap CanOp.frame?).filter S.accepts

/-- The flags an operation brings, if it is an accepted frame. -/
def FaultStream.flags? (S : FaultStream) (op : CanOp) : Option UInt8 :=
  (op.frame?.filter S.accepts).map S.flags

theorem FaultStream.filterMap_flags? (S : FaultStream) (ops : List CanOp) :
    ops.filterMap S.flags? = (S.accepted ops).map S.flags := by
  induction ops with
  | nil => rfl
  | cons op ops ih =>
      unfold FaultStream.accepted at ih ⊢
      rw [List.filterMap_cons, List.filterMap_cons, ih, FaultStream.flags?]
      cases op.frame? with
      | none => rfl
      | some msg => cases h : S.accepts msg <;> simp [Option.filter, h]

/-- The flags of the last accepted frame, 0 before the first. -/
theorem FaultStream.lastCode_eq (S : FaultStream) (ops : List CanOp) :
    lastCode S.flags? 0 ops = ((S.accepted ops).getLast?.map S.flags).getD 0 := by
  rw [lastCode, S.filterMap_flags?, List.getLast?_map]

/-! ## Handlers -/

theorem handleMotorStatus_faults (msg : TwaiMessage) (now : TickType) (m : CanManager) :
    (m.handleMotorStatus msg now).1.motorStatus.errorFlags =
        (if 4 ≤ msg.dataLengthCode then msg.motorErrorFlags else m.motorStatus.errorFlags) ∧
      (m.handleMotorStatus msg now).1.bmsPackFaultFlags = m.bmsPackFaultFlags ∧
      (m.handleMotorStatus msg now).2 =
        if 4 ≤ msg.dataLengthCode then
          notifyFaultIfNeeded m.motorStatus.errorFlags msg.motorErrorFlags
        else [] := by
  unfold CanManager.handleMotorStatus parseMotorStatus
  by_cases h : msg.dataLengthCode < 4
  · rw [if_pos h, if_neg (UInt8.not_le.mpr h), if_neg (UInt8.not_le.mpr h)]
    exact ⟨rfl, rfl, rfl⟩
  · rw [if_neg h, if_pos (UInt8.not_lt.mp h), if_pos (UInt8.not_lt.mp h)]
    exact ⟨rfl, rfl, rfl⟩

theorem handleLbBmsE000_faults (msg : TwaiMessage) (now : TickType) (m : CanManager) :
    (m.handleLbBmsE000 msg now).1.motorStatus.errorFlags = m.motorStatus.errorFlags ∧
      (m.handleLbBmsE000 msg now).1.bmsPackFaultFlags =
        (if 8 ≤ msg.dataLengthCode then packFaultFlags msg.packVoltageFault
          else m.bmsPackFaultFlags) ∧
      (m.handleLbBmsE000 msg now).2 =
        if 8 ≤ msg.dataLengthCode then
          notifyFaultIfNeeded m.bmsPackFaultFlags (packFaultFlags msg.packVoltageFault)
        else [] := by
  unfold CanManager.handleLbBmsE000 parseLbBmsE000
  by_cases h : msg.dataLengthCode < 8
  · rw [if_pos h, if_neg (UInt8.not_le.mpr h), if_neg (UInt8.not_le.mpr h)]
    exact ⟨rfl, rfl, rfl⟩
  · rw [if_neg h, if_pos (UInt8.not_lt.mp h), if_pos (UInt8.not_lt.mp h)]
    exact ⟨rfl, rfl, rfl⟩

/-- The other frames call nobody. -/
theorem handleFrame_events_nil {msg : TwaiMessage}
    (hmotor : msg.extd = false → msg.identifier ≠ canIdMotorStatus)
    (hbms : msg.extd = true → msg.identifier ≠ canIdLbBmsE000) (now : TickType) (m : CanManager) :
    (m.handleFrame msg now).2 = [] := by
  unfold CanManager.handleFrame
  cases hext : msg.extd with
  | true =>
      rw [if_pos rfl, if_neg (hbms hext)]
      split
      · rfl
      · split
        · rfl
        · split <;> rfl
  | false =>
      rw [if_neg Bool.false_ne_true, if_neg (hmotor hext)]
      split <;> rfl

/-- **One frame.** An accepted frame of a stream is compared with the stored flags and stored; no
other frame touches them or calls back. -/
theorem handleFrame_faults (msg : TwaiMessage) (now : TickType) (m : CanManager) :
    (m.handleFrame msg now).1.motorStatus.errorFlags =
        (if msg.isMotorStatus then msg.motorErrorFlags else m.motorStatus.errorFlags) ∧
      (m.handleFrame msg now).1.bmsPackFaultFlags =
        (if msg.isLbBmsE000 then packFaultFlags msg.packVoltageFault else m.bmsPackFaultFlags) ∧
      (m.handleFrame msg now).2 =
        if msg.isMotorStatus then
          notifyFaultIfNeeded m.motorStatus.errorFlags msg.motorErrorFlags
        else if msg.isLbBmsE000 then
          notifyFaultIfNeeded m.bmsPackFaultFlags (packFaultFlags msg.packVoltageFault)
        else [] := by
  rcases handleFrame_cases msg now m with ⟨hext, hid, heq⟩ | ⟨hext, hid, heq⟩ | ⟨hmotor, hbms, heq⟩
  · rw [heq, TwaiMessage.isMotorStatus, TwaiMessage.isLbBmsE000, hext, hid]
    simpa using handleMotorStatus_faults msg now m
  · rw [heq, TwaiMessage.isMotorStatus, TwaiMessage.isLbBmsE000, hext, hid]
    simpa using handleLbBmsE000_faults msg now m
  · -- the other handlers touch neither flag byte and call back for nothing
    rw [if_neg (not_isMotorStatus hmotor), if_neg (not_isLbBmsE000 hbms),
      if_neg (not_isMotorStatus hmotor), if_neg (not_isLbBmsE000 hbms),
      handleFrame_events_nil hmotor hbms]
    rcases heq with heq | heq | heq
    · rw [heq]
      exact ⟨rfl, rfl, rfl⟩
    · rw [heq, handleLbBmsE001_eq]
      exact ⟨rfl, rfl, rfl⟩
    · rw [heq, handleCharger1806E5F4_eq]
      exact ⟨rfl, rfl, rfl⟩

/-! ## Runs -/

theorem FaultStream.flags?_frame (S : FaultStream) (msg : TwaiMessage) (now : TickType) :
    S.flags? (.frame msg now) = if S.accepts msg then some (S.flags msg) else none := by
  show (Option.filter S.accepts (some msg)).map S.flags = _
  cases h : S.accepts msg <;> simp [Option.filter, h]

/-- The validity updates touch neither of the stored flags. -/
theorem apply_update_faults (m : CanManager) {op : CanOp} (h : op.frame? = none) :
    (m.apply op).motorStatus.errorFlags = m.motorStatus.errorFlags ∧
      (m.apply op).bmsPackFaultFlags = m.bmsPackFaultFlags := by
  cases op with
  | frame msg now => exact absurd h (Option.some_ne_none msg)
  | updateMotorStatusValidity now =>
      rw [CanManager.apply, updateMotorStatusValidity_eq]
      exact ⟨rfl, rfl⟩
  | updateBmsValidity now =>
      rw [CanManager.apply, updateBmsValidity_eq]
      exact ⟨rfl, rfl⟩
  | updateChargerValidity now =>
      rw [CanManager.apply, updateChargerValidity_eq]
      exact ⟨rfl, rfl⟩

/-- A stream whose frames alone are stored. -/
theorem FaultStream.keeps (S : FaultStream)
    (hframe : ∀ msg now m, S.stored (CanManager.handleFrame msg now m).1 =
      if S.accepts msg then S.flags msg else S.stored m)
    (hupdate : ∀ m op, op.frame? = none → S.stored (CanManager.apply m op) = S.stored m) :
    Keeps CanManager.apply S.flags? S.stored := by
  intro m op
  cases op with
  | frame msg now =>
      rw [S.flags?_frame]
      refine (hframe msg now m).trans ?_
      cases S.accepts msg <;> rfl
  | _ => exact hupdate m _ rfl

theorem motorFaults_keeps : Keeps CanManager.apply motorFaults.flags? motorFaults.stored :=
  motorFaults.keeps (fun msg now m => (handleFrame_faults msg now m).1)
    fun m _ h => (apply_update_faults m h).1

theorem packFaults_keeps : Keeps CanManager.apply packFaults.flags? packFaults.stored :=
  packFaults.keeps (fun msg now m => (handleFrame_faults msg now m).2.1)
    fun m _ h => (apply_update_faults m h).2

theorem notifyFaultIfNeeded_eq_iff (previousFlags currentFlags : UInt8) :
    notifyFaultIfNeeded previousFlags currentFlags = [.faultDetected] ↔
      Raises 0 previousFlags currentFlags := by
  unfold notifyFaultIfNeeded Raises
  split
  · rename_i h
    refine iff_of_false (List.cons_ne_nil _ _).symm ?_
    rintro ⟨hfaulty, hchanged⟩
    exact h.elim hfaulty hchanged
  · rename_i h
    exact iff_of_true rfl (not_or.mp h)

/-- The events of an accepted frame of a stream, from the flags in the frames of the run so far. -/
theorem motorFaults_events (pre : List CanOp) {msg : TwaiMessage} (h : msg.isMotorStatus = true)
    (now : TickType) :
    ((exec CanManager.apply .begun pre).handleFrame msg now).2 =
      notifyFaultIfNeeded (lastCode motorFaults.flags? 0 pre) msg.motorErrorFlags := by
  have hstored : (exec CanManager.apply .begun pre).motorStatus.errorFlags =
      lastCode motorFaults.flags? 0 pre := motorFaults_keeps.stored_exec rfl pre
  rw [(handleFrame_faults msg now _).2.2, if_pos h, hstored]

theorem packFaults_events (pre : List CanOp) {msg : TwaiMessage} (h : msg.isLbBmsE000 = true)
    (now : TickType) :
    ((exec CanManager.apply .begun pre).handleFrame msg now).2 =
      notifyFaultIfNeeded (lastCode packFaults.flags? 0 pre)
        (packFaultFlags msg.packVoltageFault) := by
  have hmotor : ¬ msg.isMotorStatus = true := by
    apply not_isMotorStatus
    intro hext
    simp [TwaiMessage.isLbBmsE000, hext] at h
  have hstored : (exec CanManager.apply .begun pre).bmsPackFaultFlags =
      lastCode packFaults.flags? 0 pre := packFaults_keeps.stored_exec rfl pre
  rw [(handleFrame_faults msg now _).2.2, if_neg hmotor, if_pos h, hstored]

end TfnAks.Can
