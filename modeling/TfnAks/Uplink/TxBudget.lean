/-
# TfnAks.Uplink.TxBudget — a telemetry tick fits the UART

A record of any content can fill a line of well over a hundred characters. One that comes from the
CAN path cannot: the torque, the cell voltages and the system state have one digit each, the current
at most six. With the widths of the other types that makes at most 90 bytes a line
(`telText_length_le`), and a tick with link up writes two lines at most, a replayed one and a live
one.

`txLines` is what a pass puts on the UART; the sequence counter of the sender counts exactly these
lines.
-/
import Mathlib.Algebra.Order.BigOperators.Group.List
import Mathlib.Algebra.Order.Group.Nat
import TfnAks.Can.FieldRanges
import TfnAks.Uplink.Acceptance

namespace TfnAks.Uplink

open TfnAks.Lib.Runs TfnAks.Lib.Decimal TfnAks.Can

/-! ## The length of a line -/

/-- The widest text of each field, in the order of the format string. -/
def fieldWidths : List Nat := [1, 10, 5, 1, 3, 1, 1, 1, 1, 4, 4, 1, 5, 7, 5, 1, 10, 4]

/-- The length of a line the replay budget is made for. -/
def lineBudget : Nat := 90

theorem sanitizeCurrent_of_small {raw : Int32} (h : raw.toInt.natAbs ≤ 327680) :
    sanitizeCurrent raw = raw := by
  rw [sanitizeCurrent, if_neg]
  rintro rfl
  exact absurd h (by decide)

theorem telFields_length_le {d : TelemetryData} (h : CanFed d)
    (hspd : d.telSpeedKmhX10.toNat ≤ telSpdX10Max) (seq : UInt32) :
    List.Forall₂ (fun field width => field.length ≤ width)
      (telFields seq (sanitizeForUplink d)) fieldWidths := by
  have hflag : ∀ b, (digits (flag b)).length ≤ 1 := fun b => by cases b <;> decide
  have hword : ∀ w : UInt16, (digits w.toNat).length ≤ 5 := fun w =>
    length_digits_le (by decide) (Nat.lt_trans w.toNat_lt (by decide))
  have hlong : ∀ w : UInt32, (digits w.toNat).length ≤ 10 := fun w =>
    length_digits_le (by decide) (Nat.lt_trans w.toNat_lt (by decide))
  have htemp : ∀ c : Int8, (signed c.toInt).length ≤ 4 := by
    intro c
    have hlo := c.le_toInt
    have hhi := c.toInt_lt
    exact length_signed_le (k := 3) (by decide) (by omega)
  -- one entry for each field of the format string, in order
  refine .cons (by decide) <| .cons (hlong seq) <| .cons (hword _) <| .cons ?torque <|
    .cons ?errorFlags <| .cons (hflag _) <| .cons (hflag _) <| .cons ?cellMax <| .cons ?cellMin <|
    .cons (htemp _) <| .cons (htemp _) <| .cons ?systemState <| .cons (hword _) <|
    .cons ?current <| .cons (hword _) <| .cons (hflag _) <| .cons (hlong _) <| .cons ?speed .nil
  case torque =>
    show (signed d.telMotorTorqueFeedback.toInt).length ≤ 1
    rw [h.torque]
    decide
  case errorFlags =>
    exact length_digits_le (by decide) (Nat.lt_trans (UInt8.toNat_lt _) (by decide))
  case cellMax =>
    show (digits d.telBmsCellVoltageMaxDeciMv.toNat).length ≤ 1
    rw [h.cellVoltageMax]
    decide
  case cellMin =>
    show (digits d.telBmsCellVoltageMinDeciMv.toNat).length ≤ 1
    rw [h.cellVoltageMin]
    decide
  case systemState =>
    show (digits (sanitizeSystemState d.telBmsSystemState).toNat).length ≤ 1
    rw [h.systemState]
    decide
  case current =>
    show (signed (sanitizeCurrent d.telBmsCurrentCentiMa).toInt).length ≤ 7
    rw [sanitizeCurrent_of_small h.current]
    exact length_signed_le (k := 6) (by decide) (Nat.lt_of_le_of_lt h.current (by decide))
  case speed =>
    exact length_digits_le (by decide) (Nat.lt_of_le_of_lt hspd (by decide))

/-- **The whole line**, tag and line end included. -/
theorem telText_length_le {d : TelemetryData} (h : CanFed d)
    (hspd : d.telSpeedKmhX10.toNat ≤ telSpdX10Max) (seq : UInt32) :
    (telText seq (sanitizeForUplink d)).length ≤ lineBudget := by
  have hfields : ((telFields seq (sanitizeForUplink d)).map List.length).sum ≤ fieldWidths.sum :=
    (List.forall₂_map_left_iff.mpr (telFields_length_le h hspd seq)).sum_le_sum
  have hline := @length_intercalate_le _ ','
    (['T', 'E', 'L'] :: telFields seq (sanitizeForUplink d))
  have hcount : (telFields seq (sanitizeForUplink d)).length = 18 := rfl
  have hwidths : fieldWidths.sum = 65 := rfl
  rw [telText, List.length_append]
  simp only [List.map_cons, List.sum_cons, List.length_cons, List.length_nil, lineBudget] at hline ⊢
  omega

/-! ## The lines of a pass -/

namespace LoraTask

/-- What the replay loop puts on the UART, a line a burst. -/
def replayLines (tx : Nat → TxAttempt) : Nat → Nat → LoraTask → List (List Char)
  | 0, _, _ => []
  | n + 1, burst, s =>
    match obPeek s.offline with
    | none => []
    | some replay =>
      if (tx burst).auxLevel ≠ loraAuxReadyLevel then []
      else
        (s.telemetry.sendStatus (tx burst).written (sanitizeForUplink replay)).2.toList ++
          replayLines tx n (burst + 1) (s.sendReplay (tx burst).written replay)

/-- What `sendLive` puts on the UART. -/
def liveLines (queue : Option TelemetryData) (tx : TxAttempt) (s : LoraTask) : List (List Char) :=
  match queue with
  | none => []
  | some live =>
    if tx.auxLevel = loraAuxReadyLevel then
      (s.telemetry.sendStatus tx.written (sanitizeForUplink live)).2.toList
    else []

/-- What a due telemetry tick puts on the UART: with the link down nothing. -/
def tickLines (i : Iteration) (s : LoraTask) : List (List Char) :=
  if !(s.startTick i.nowTick).linkDown then
    replayLines i.replay replayBurstPerTick 0 (s.startTick i.nowTick) ++
      liveLines i.queue i.live ((s.startTick i.nowTick).replayLoop i.replay replayBurstPerTick 0)
  else []

/-- What one pass of the loop puts on the UART. -/
def txLines (i : Iteration) (s : LoraTask) : List (List Char) :=
  if (s.linkChecked i).telemetryDue i.nowTick then (s.linkChecked i).tickLines i else []

/-! ### The sequence counter counts the lines -/

theorem sequenceCounter_sendStatus (written : Int) (d : TelemetryData) (t : Telemetry) :
    (t.sendStatus written d).1.telSequenceCounter =
      t.telSequenceCounter + UInt32.ofNat (t.sendStatus written d).2.toList.length := by
  have hzero : t.telSequenceCounter = t.telSequenceCounter + UInt32.ofNat 0 :=
    (UInt32.add_zero _).symm
  simp only [Telemetry.sendStatus]
  split
  · exact hzero
  · split
    · exact hzero
    · split
      · exact hzero
      · rfl

theorem sequenceCounter_replayLoop (tx : Nat → TxAttempt) (n burst : Nat) (s : LoraTask) :
    (s.replayLoop tx n burst).telemetry.telSequenceCounter =
      s.telemetry.telSequenceCounter + UInt32.ofNat (s.replayLines tx n burst).length := by
  induction n generalizing burst s with
  | zero => exact (UInt32.add_zero _).symm
  | succ n ih =>
      rw [replayLoop, replayLines]
      cases obPeek s.offline with
      | none => exact (UInt32.add_zero _).symm
      | some replay =>
          by_cases haux : (tx burst).auxLevel ≠ loraAuxReadyLevel
          · simp only [if_pos haux]
            exact (UInt32.add_zero _).symm
          · simp only [if_neg haux]
            rw [ih, List.length_append, UInt32.ofNat_add, ← UInt32.add_assoc]
            exact congrArg (· + _) (sequenceCounter_sendStatus _ _ _)

theorem sequenceCounter_sendLive (queue : Option TelemetryData) (tx : TxAttempt) (s : LoraTask) :
    (s.sendLive queue tx).telemetry.telSequenceCounter =
      s.telemetry.telSequenceCounter + UInt32.ofNat (s.liveLines queue tx).length := by
  unfold sendLive liveLines
  cases queue with
  | none => exact (UInt32.add_zero _).symm
  | some live =>
      by_cases haux : tx.auxLevel = loraAuxReadyLevel
      · simp only [if_pos haux]
        exact sequenceCounter_sendStatus _ _ _
      · simp only [if_neg haux]
        exact (UInt32.add_zero _).symm

/-- What comes before the telemetry tick leaves the sender alone. -/
theorem linkChecked_telemetry (i : Iteration) (s : LoraTask) :
    (s.linkChecked i).telemetry = s.telemetry := by
  rw [linkChecked]
  rcases (s.handleRx i.rx).checkLink_cases i.linkCheckMs with h | ⟨-, h⟩ | ⟨-, h⟩ <;>
    rw [h, handleRx_eq]

/-- **`txLines` is what the code sends**: the sender's counter advances by the number of lines. -/
theorem sequenceCounter_iterate (s : LoraTask) (i : Iteration) :
    (s.iterate i).telemetry.telSequenceCounter =
      s.telemetry.telSequenceCounter + UInt32.ofNat (s.txLines i).length := by
  have hchecked : (s.linkChecked i).telemetry = s.telemetry := linkChecked_telemetry i s
  simp only [iterate, txLines]
  by_cases hdue : (s.linkChecked i).telemetryDue i.nowTick = true
  · rw [if_pos hdue, if_pos hdue]
    simp only [telemetryTick, tickLines]
    split
    · rw [sequenceCounter_sendLive, sequenceCounter_replayLoop, List.length_append,
        UInt32.ofNat_add, ← UInt32.add_assoc]
      rw [← hchecked]
      rfl
    · rw [sampleOffline_eq, ← hchecked]
      exact (UInt32.add_zero _).symm
  · rw [if_neg hdue, if_neg hdue, hchecked]
    exact (UInt32.add_zero _).symm

/-! ### Their number and length -/

theorem length_toList_le {α : Type} (o : Option α) : o.toList.length ≤ 1 := by
  cases o with
  | none => exact Nat.zero_le 1
  | some _ => exact Nat.le_refl 1

theorem length_replayLines_le (tx : Nat → TxAttempt) (n burst : Nat) (s : LoraTask) :
    (s.replayLines tx n burst).length ≤ n := by
  induction n generalizing burst s with
  | zero => exact Nat.le_refl 0
  | succ n ih =>
      rw [replayLines]
      split
      · exact Nat.zero_le _
      · split
        · exact Nat.zero_le _
        · rename_i replay hpeek haux
          have hsent := length_toList_le
            (s.telemetry.sendStatus (tx burst).written (sanitizeForUplink replay)).2
          have hrest := ih (burst + 1) (s.sendReplay (tx burst).written replay)
          rw [List.length_append]
          omega

theorem length_liveLines_le (queue : Option TelemetryData) (tx : TxAttempt) (s : LoraTask) :
    (s.liveLines queue tx).length ≤ 1 := by
  unfold liveLines
  split
  · exact Nat.zero_le 1
  · split
    · exact length_toList_le _
    · exact Nat.zero_le 1

theorem length_txLines_le (i : Iteration) (s : LoraTask) :
    (s.txLines i).length ≤ replayBurstPerTick + 1 := by
  rw [txLines]
  split
  · rw [tickLines]
    split
    · rw [List.length_append]
      exact Nat.add_le_add (length_replayLines_le _ _ _ _) (length_liveLines_le _ _ _)
    · exact Nat.zero_le _
  · exact Nat.zero_le _

/-- A line is `sendStatus`'s line of one of the records `ds`. -/
def LineOf (ds : List TelemetryData) (line : List Char) : Prop :=
  ∃ d ∈ ds, ∃ (t : Telemetry) (written : Int),
    (t.sendStatus written (sanitizeForUplink d)).2 = some line

theorem replayLines_lineOf {ds : List TelemetryData} (tx : Nat → TxAttempt) (n burst : Nat)
    {s : LoraTask} (hbuffer : ∀ d ∈ s.offline.toList, d ∈ ds) :
    ∀ line ∈ s.replayLines tx n burst, LineOf ds line := by
  induction n generalizing burst s with
  | zero => exact fun line hline => absurd hline List.not_mem_nil
  | succ n ih =>
      intro line hline
      rw [replayLines] at hline
      split at hline
      · exact absurd hline List.not_mem_nil
      · rename_i replay hpeek
        have hlist := toList_eq_cons_of_obPeek hpeek
        split at hline
        · exact absurd hline List.not_mem_nil
        · rcases List.mem_append.mp hline with hline | hline
          · refine ⟨replay, hbuffer replay ?_, s.telemetry, _, Option.mem_toList.mp hline⟩
            rw [hlist]
            exact List.mem_cons_self
          · -- what is left in the buffer was in it before
            refine ih (burst + 1) (fun d hd => hbuffer d ?_) line hline
            exact List.mem_of_mem_tail (Lib.RingBuffer.Ring.toList_dropFront s.offline ▸ hd)

theorem liveLines_lineOf {ds : List TelemetryData} {queue : Option TelemetryData}
    (hqueue : ∀ d, queue = some d → d ∈ ds) (tx : TxAttempt) (s : LoraTask) :
    ∀ line ∈ s.liveLines queue tx, LineOf ds line := by
  intro line hline
  unfold liveLines at hline
  split at hline
  · exact absurd hline List.not_mem_nil
  · rename_i live
    split at hline
    · exact ⟨live, hqueue live rfl, s.telemetry, _, Option.mem_toList.mp hline⟩
    · exact absurd hline List.not_mem_nil

theorem txLines_lineOf {ds : List TelemetryData} {i : Iteration} {s : LoraTask}
    (hbuffer : ∀ d ∈ s.offline.toList, d ∈ ds) (hqueue : ∀ d, i.queue = some d → d ∈ ds) :
    ∀ line ∈ s.txLines i, LineOf ds line := by
  intro line hline
  rw [txLines] at hline
  split at hline
  · rw [tickLines] at hline
    split at hline
    · rcases List.mem_append.mp hline with hline | hline
      · refine replayLines_lineOf i.replay replayBurstPerTick 0 ?_ line hline
        intro d hd
        apply hbuffer
        rw [← (linkChecked_kept i s).offline]
        exact hd
      · exact liveLines_lineOf hqueue i.live _ line hline
    · exact absurd hline List.not_mem_nil
  · exact absurd hline List.not_mem_nil

end LoraTask

/-! ## The budget -/

/-- What the UART moves in a telemetry period, with ten bits to a byte. -/
def uartBytesPerTick : Nat := loraUartBaud / 10 * loraTxPeriodMs / 1000

example : uartBytesPerTick = 192 := rfl

section Budget

variable {rpmToSpeedKmhX10 : UInt16 → UInt16}

/-- The line of a published snapshot is written whole and is within the line budget. -/
theorem length_le_of_lineOf (hspd : ∀ rpm, (rpmToSpeedKmhX10 rpm).toNat ≤ telSpdX10Max)
    {calls : List CanCall} {line : List Char}
    (h : LoraTask.LineOf (snapshots rpmToSpeedKmhX10 .begun calls) line) :
    line.length ≤ lineBudget := by
  obtain ⟨d, hd, t, written, hline⟩ := h
  have hspeed : d.telSpeedKmhX10.toNat ≤ telSpdX10Max := by
    obtain ⟨pre, c, post, -, rfl⟩ := mem_snapshots_iff.mp hd
    exact hspd _
  rw [Telemetry.sendStatus_line hline, telPayload_eq]
  exact telText_length_le (canFed_of_mem_snapshots hd) hspeed _

/-- **The replay tick fits.** Whatever frames the CAN task gets, the line of a record it publishes
has at most 90 bytes, with every sequence number; so a pass of the telemetry task, which writes a
replayed line and a live one at most, stays within what the UART moves in its period. -/
theorem txLines_within_budget (hspd : ∀ rpm, (rpmToSpeedKmhX10 rpm).toNat ≤ telSpdX10Max)
    (calls : List CanCall) :
    (∀ d ∈ snapshots rpmToSpeedKmhX10 .begun calls,
        ∀ (t : Telemetry) (written : Int) (line : List Char),
          (t.sendStatus written (sanitizeForUplink d)).2 = some line →
            line = telText t.telSequenceCounter (sanitizeForUplink d) ∧ line.length ≤ 90) ∧
      ∀ (bootMs : UInt64) (is : List Iteration) (i : Iteration),
        (∀ j ∈ is ++ [i], LoraTask.ReadsFrom (snapshots rpmToSpeedKmhX10 .begun calls) j) →
          let lines := (exec LoraTask.iterate (.booted bootMs) is).txLines i
          lines.length ≤ replayBurstPerTick + 1 ∧ lines.flatten.length ≤ uartBytesPerTick := by
  constructor
  · -- a line of its own
    intro d hd t written line hline
    refine ⟨?_, length_le_of_lineOf hspd ⟨d, hd, t, written, hline⟩⟩
    rw [Telemetry.sendStatus_line hline, telPayload_eq]
  · -- all lines of a pass: live and replayed records are snapshots alike
    intro bootMs is i hqueue lines
    have hcount : lines.length ≤ replayBurstPerTick + 1 := LoraTask.length_txLines_le i _
    have hlines : ∀ line ∈ lines, line.length ≤ lineBudget := by
      intro line hline
      refine length_le_of_lineOf hspd (?_ : LoraTask.LineOf (snapshots _ .begun calls) line)
      refine LoraTask.txLines_lineOf (fun d hd => ?_) ?_ line hline
      · exact LoraTask.mem_of_mem_offline
          (fun j hj => hqueue j (List.mem_append_left [i] hj)) hd
      · exact hqueue i (List.mem_append_right is List.mem_cons_self)
    refine ⟨hcount, ?_⟩
    rw [List.length_flatten]
    calc (lines.map List.length).sum ≤ (lines.map List.length).length * lineBudget := by
          apply List.sum_le_card_nsmul
          intro n hn
          obtain ⟨line, hline, rfl⟩ := List.mem_map.mp hn
          exact hlines line hline
      _ ≤ (replayBurstPerTick + 1) * lineBudget := by
          rw [List.length_map]
          exact Nat.mul_le_mul_right lineBudget hcount
      _ ≤ uartBytesPerTick := by decide

end Budget

/-- A first tick, with the snapshot of one motor frame in the queue. -/
def liveIteration : Iteration where
  rx := []
  linkCheckMs := 1000
  nowTick := 20
  queue := (snapshots clampedSpeedKmhX10 .begun [motorCall 1000]).head?
  replay := fun _ => ⟨loraAuxReadyLevel, 0⟩
  live := ⟨loraAuxReadyLevel, 60⟩
  sampleMs := 1000

theorem txLines_within_budget_live :
    let lines := (exec LoraTask.iterate (.booted 0) []).txLines liveIteration
    lines.length ≤ replayBurstPerTick + 1 ∧ lines.flatten.length ≤ uartBytesPerTick := by
  apply (txLines_within_budget clampedSpeedKmhX10_le [motorCall 1000]).2 0 [] liveIteration
  intro j hj d hd
  obtain rfl := List.mem_singleton.mp hj
  exact List.mem_of_head? hd

end TfnAks.Uplink
