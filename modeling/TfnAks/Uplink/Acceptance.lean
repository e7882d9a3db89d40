/-
# TfnAks.Uplink.Acceptance — from CAN frames to lines the ground unit takes

The way of a record: the CAN task publishes it, the telemetry task sends it at once or out of the
offline buffer, sanitised and with the next sequence number. Sanitising covers every field but one.
The motor speed goes from the CAN payload to the line as it is, and the receiver rejects more than
20000 rpm: `acceptable_iff` says which frames keep every line acceptable.
-/
import TfnAks.Can.CanTask
import TfnAks.Uplink.FrameContract
import TfnAks.Uplink.OfflineAccount

namespace TfnAks.Uplink

open TfnAks.Lib.Runs TfnAks.Can

/-! ## Replayed records -/

namespace LoraTask

theorem replayLoop_pushed (tx : Nat → TxAttempt) (n burst : Nat) (s : LoraTask) :
    (s.replayLoop tx n burst).ledger.pushed = s.ledger.pushed := by
  induction n generalizing burst s with
  | zero => rfl
  | succ n ih =>
      rw [replayLoop]
      split
      · rfl
      · split
        · rfl
        · exact ih (burst + 1) _

/-- A pass pushes nothing but what it finds in the queue. -/
theorem iterate_pushed {s : LoraTask} {i : Iteration} {d : TelemetryData}
    (h : d ∈ (s.iterate i).ledger.pushed) : d ∈ s.ledger.pushed ∨ i.queue = some d := by
  have hledger : (s.linkChecked i).ledger = s.ledger := (linkChecked_kept i s).ledger
  simp only [iterate] at h
  split at h
  · simp only [telemetryTick] at h
    split at h
    · rw [(sendLive_kept i.queue i.live _).ledger, replayLoop_pushed] at h
      exact Or.inl (hledger ▸ h)
    · cases hq : i.queue with
      | none =>
          rw [hq] at h
          exact Or.inl (hledger ▸ h)
      | some buffered =>
          rw [hq, sampleOffline] at h
          split at h
          · rcases List.mem_append.mp h with h | h
            · exact Or.inl (hledger ▸ h)
            · exact Or.inr (congrArg some (List.mem_singleton.mp h).symm)
          · exact Or.inl (hledger ▸ h)
  · exact Or.inl (hledger ▸ h)

/-- Every sample pushed so far is one of `published`. -/
def PushedFrom (published : List TelemetryData) (s : LoraTask) : Prop :=
  ∀ d ∈ s.ledger.pushed, d ∈ published

/-- The queue holds one of `published`, if anything, when the pass reads it. -/
def ReadsFrom (published : List TelemetryData) (i : Iteration) : Prop :=
  ∀ d, i.queue = some d → d ∈ published

theorem iterate_pushedFrom (published : List TelemetryData) (s : LoraTask) (i : Iteration)
    (hi : ReadsFrom published i) (hs : s.PushedFrom published) :
    (s.iterate i).PushedFrom published := by
  intro d hd
  rcases iterate_pushed hd with hd | hd
  · exact hs d hd
  · exact hi d hd

/-- What is in the buffer was in the queue before. -/
theorem mem_of_mem_offline {published : List TelemetryData} {bootMs : UInt64} {is : List Iteration}
    (hqueue : ∀ i ∈ is, ReadsFrom published i) {d : TelemetryData}
    (hd : d ∈ (exec iterate (booted bootMs) is).offline.toList) : d ∈ published := by
  have hbooted : (booted bootMs).PushedFrom published := fun x hx => absurd hx List.not_mem_nil
  have hpushed : (exec iterate (booted bootMs) is).PushedFrom published :=
    exec_invariant_of_forall (iterate_pushedFrom published) hbooted hqueue
  apply hpushed
  rw [(exec_balanced (booted_balanced bootMs) is).pushed_eq]
  exact List.mem_append_right _ hd

theorem buffered_mem {published : List TelemetryData} {bootMs : UInt64} {is : List Iteration}
    (hqueue : ∀ i ∈ is, ReadsFrom published i) {d : TelemetryData}
    (hpeek : obPeek (exec iterate (booted bootMs) is).offline = some d) : d ∈ published := by
  apply mem_of_mem_offline hqueue
  rw [toList_eq_cons_of_obPeek hpeek]
  exact List.mem_cons_self

end LoraTask

/-! ## Acceptance -/

section Acceptance

variable (rpmToSpeedKmhX10 : UInt16 → UInt16)

/-- The records that go to the ground unit when the CAN task makes the passes `calls`: a published
snapshot, or what the telemetry task finds at the front of the buffer after passes of its own that
read such snapshots from the queue. -/
def Uplinked (calls : List CanCall) (d : TelemetryData) : Prop :=
  d ∈ snapshots rpmToSpeedKmhX10 .begun calls ∨
    ∃ bootMs is,
      (∀ i ∈ is, LoraTask.ReadsFrom (snapshots rpmToSpeedKmhX10 .begun calls) i) ∧
      obPeek (exec LoraTask.iterate (.booted bootMs) is).offline = some d

/-- Whatever is sent of such a record, with whatever sequence number, is accepted. -/
def Acceptable (calls : List CanCall) : Prop :=
  ∀ d, Uplinked rpmToSpeedKmhX10 calls d → ∀ (t : Telemetry) (written : Int) (line : List Char),
    (t.sendStatus written (sanitizeForUplink d)).2 = some line → Accepted line

/-- Whenever a snapshot is published, the last accepted motor frame has at most 20000 rpm. -/
def PlausibleRpm (calls : List CanCall) : Prop :=
  ∀ pre c post, calls = pre ++ c :: post →
    ∀ f, lastFrame TwaiMessage.isMotorStatus ((pre ++ [c]).flatMap CanCall.frames) = some f →
      f.msg.motorRpm.toNat ≤ 20000

variable {rpmToSpeedKmhX10}

theorem mem_of_uplinked {calls : List CanCall} {d : TelemetryData}
    (h : Uplinked rpmToSpeedKmhX10 calls d) : d ∈ snapshots rpmToSpeedKmhX10 .begun calls := by
  rcases h with h | ⟨bootMs, is, hqueue, hpeek⟩
  · exact h
  · exact LoraTask.buffered_mem hqueue hpeek

/-- The motor speed of the snapshot published after the calls `calls`. -/
theorem publishedData_rpm (calls : List CanCall) (timestampMs : UInt32) :
    ((exec CanManager.processRxMessages .begun calls).publishedData rpmToSpeedKmhX10
      timestampMs).telMotorRpm = lastMotorRpm (calls.flatMap CanCall.frames) :=
  exec_processRxMessages_rpm (m := .begun) (show (0 : UInt16) = lastMotorRpm [] from rfl) calls

/-- A published snapshot is acceptable exactly when its motor speed is plausible. -/
theorem accepted_snapshot_iff (hspd : ∀ rpm, (rpmToSpeedKmhX10 rpm).toNat ≤ telSpdX10Max)
    {calls : List CanCall} {d : TelemetryData}
    (hd : d ∈ snapshots rpmToSpeedKmhX10 .begun calls) (seq : UInt32) :
    Accepted (telPayload seq (sanitizeForUplink d)) ↔ d.telMotorRpm.toNat ≤ 20000 := by
  have hranges : UksRanges (sanitizeForUplink d) := by
    obtain ⟨pre, c, post, -, rfl⟩ := mem_snapshots_iff.mp hd
    exact sanitizeForUplink_ranges (hspd _)
  rw [accepted_telPayload_iff hranges]
  show ((d.telMotorRpm.toNat : Int) ≤ ((20000 : Nat) : Int)) ↔ _
  exact Int.ofNat_le

/-- **Every uplink frame is acceptable** exactly when the motor speed of no published snapshot
exceeds 20000 rpm. -/
theorem acceptable_iff (hspd : ∀ rpm, (rpmToSpeedKmhX10 rpm).toNat ≤ telSpdX10Max)
    (calls : List CanCall) :
    Acceptable rpmToSpeedKmhX10 calls ↔ PlausibleRpm calls := by
  constructor
  · rintro h pre c post rfl f hf
    -- send the snapshot of that pass live, as the first line of a started object
    have hmem : (exec CanManager.processRxMessages .begun (pre ++ [c])).publishedData
        rpmToSpeedKmhX10 c.timestampMs ∈ snapshots rpmToSpeedKmhX10 .begun (pre ++ c :: post) :=
      mem_snapshots_iff.mpr ⟨pre, c, post, rfl, rfl⟩
    have hline := h _ (Or.inl hmem) ⟨true, 0⟩ 0 (telPayload 0 _)
      (by rw [Telemetry.sendStatus_of_initialized rfl]; rfl)
    have hrpm := (accepted_snapshot_iff hspd hmem 0).mp hline
    rw [publishedData_rpm, lastMotorRpm, hf] at hrpm
    exact hrpm
  · intro h d hd t written line hline
    -- replayed or live, the record is a published snapshot
    have hmem := mem_of_uplinked hd
    rw [Telemetry.sendStatus_line hline, accepted_snapshot_iff hspd hmem]
    obtain ⟨pre, c, post, hcalls, rfl⟩ := mem_snapshots_iff.mp hmem
    rw [publishedData_rpm, lastMotorRpm]
    cases hlast : lastFrame TwaiMessage.isMotorStatus ((pre ++ [c]).flatMap CanCall.frames) with
    | none => exact Nat.zero_le 20000
    | some f => exact h pre c post hcalls f hlast

end Acceptance

/-! ## Two runs -/

/-- The speed computation over the integers, for the wheel of 0.56 m: rounded down, then clamped. -/
def clampedSpeedKmhX10 (rpm : UInt16) : UInt16 :=
  UInt16.ofNat (min (rpm.toNat * 105557513 / 100000000) telSpdX10Max)

theorem clampedSpeedKmhX10_le (rpm : UInt16) :
    (clampedSpeedKmhX10 rpm).toNat ≤ telSpdX10Max := by
  have hle : min (rpm.toNat * 105557513 / 100000000) telSpdX10Max ≤ telSpdX10Max :=
    Nat.min_le_right _ _
  rw [clampedSpeedKmhX10, UInt16.toNat_ofNat_of_lt' (Nat.lt_of_le_of_lt hle (by decide))]
  exact hle

/-- A pass with one motor frame, carrying `rpm`. -/
def motorCall (rpm : UInt16) : CanCall where
  frames := [⟨⟨false, canIdMotorStatus, 8,
    #v[(rpm >>> 8).toUInt8, rpm.toUInt8, 0, 0, 0, 0, 0, 0]⟩, 100⟩]
  frames_le := Nat.le_add_left 1 4
  motorTick := 100
  bmsTick := 100
  chargerTick := 100
  timestampMs := 1000

theorem motorCall_thousand_plausible : PlausibleRpm [motorCall 1000] := by
  intro pre c post h f hf
  obtain ⟨rfl, rfl⟩ : pre = [] ∧ c = motorCall 1000 := by
    cases pre with
    | nil => exact ⟨rfl, (List.cons.inj h).1.symm⟩
    | cons b pre => simp at h
  have hframe : f = ⟨⟨false, canIdMotorStatus, 8, #v[3, 232, 0, 0, 0, 0, 0, 0]⟩, 100⟩ :=
    (Option.some.inj hf).symm
  rw [hframe]
  decide

theorem acceptable_thousandRpm : Acceptable clampedSpeedKmhX10 [motorCall 1000] :=
  (acceptable_iff clampedSpeedKmhX10_le [motorCall 1000]).mpr motorCall_thousand_plausible

/-- The receiver rejects the line of a motor frame with 20001 rpm. -/
theorem overspeed_not_acceptable :
    (∀ rpm, (clampedSpeedKmhX10 rpm).toNat ≤ telSpdX10Max) ∧
      ¬ Acceptable clampedSpeedKmhX10 [motorCall 20001] := by
  refine ⟨clampedSpeedKmhX10_le, fun h => ?_⟩
  have hmem : (exec CanManager.processRxMessages .begun [motorCall 20001]).publishedData
      clampedSpeedKmhX10 1000 ∈ snapshots clampedSpeedKmhX10 .begun [motorCall 20001] :=
    mem_snapshots_iff.mpr ⟨[], motorCall 20001, [], rfl, rfl⟩
  have hline := h _ (Or.inl hmem) ⟨true, 0⟩ 0 _
    (by rw [Telemetry.sendStatus_of_initialized rfl]; rfl)
  have hrpm := (accepted_snapshot_iff clampedSpeedKmhX10_le hmem 0).mp hline
  exact absurd hrpm (by decide)

end TfnAks.Uplink
