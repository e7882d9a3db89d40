/-
# TfnAks.Uplink.SequenceNumbers — the lines on the UART are numbered without a gap

`sendStatus` puts the counter into the line it formats and advances it only after the UART has taken
the line. Two places of the telemetry task call it, for a replayed sample and for the live snapshot,
and anyone else may; all of them share the counter. `TxRecord` says of each line that reached the
UART what it was made from, so the lines of any run are the records, numbered from 0 on
(`lines_numbered`).
-/
import TfnAks.Lib.Numbering
import TfnAks.Uplink.TxBudget

namespace TfnAks.Uplink

open TfnAks.Lib.Runs TfnAks.Lib.Decimal TfnAks.Lib.Numbering

/-! ## Records and their lines -/

/-- What a line that reached the UART was made from. -/
inductive TxRecord where
  /-- a sample from the offline buffer -/
  | replay (sample : TelemetryData)
  | live (snapshot : TelemetryData)
  /-- the argument of a `sendStatus` from elsewhere -/
  | call (data : TelemetryData)
  deriving DecidableEq

/-- What `sendStatus` gets. -/
def TxRecord.data : TxRecord → TelemetryData
  | .replay sample => sanitizeForUplink sample
  | .live snapshot => sanitizeForUplink snapshot
  | .call data => data

/-- The sample of a replayed record. -/
def TxRecord.replayed? : TxRecord → Option TelemetryData
  | .replay sample => some sample
  | _ => none

/-- The line with the number `k`, modulo `2^32`. -/
def TxRecord.line (k : ℕ) (r : TxRecord) : List Char := telText (UInt32.ofNat k) r.data

/-- The sequence number a line carries: its field after the tag and the version. -/
def carriedSeq (line : List Char) : Option ℕ :=
  ((line.rdropWhile fun c => c == '\r' || c == '\n').splitOn ',')[2]?.map value

theorem carriedSeq_line (k : ℕ) (r : TxRecord) : carriedSeq (r.line k) = some (k % 2 ^ 32) := by
  rw [carriedSeq, TxRecord.line, splitOn_telText]
  show some (value (digits (UInt32.ofNat k).toNat)) = _
  rw [value_digits, UInt32.toNat_ofNat']

/-! ## What a pass sends -/

/-- The record, if its line reached the UART. -/
def Telemetry.sent (written : Int) (r : TxRecord) (t : Telemetry) : List TxRecord :=
  if (t.sendStatus written r.data).2.isSome then [r] else []

namespace LoraTask

/-- The records of `replayLines`. -/
def replayRecords (tx : Nat → TxAttempt) : Nat → Nat → LoraTask → List TxRecord
  | 0, _, _ => []
  | n + 1, burst, s =>
    match obPeek s.offline with
    | none => []
    | some replay =>
      if (tx burst).auxLevel ≠ loraAuxReadyLevel then []
      else
        s.telemetry.sent (tx burst).written (.replay replay) ++
          replayRecords tx n (burst + 1) (s.sendReplay (tx burst).written replay)

/-- The records of `liveLines`. -/
def liveRecords (queue : Option TelemetryData) (tx : TxAttempt) (s : LoraTask) : List TxRecord :=
  match queue with
  | none => []
  | some live =>
    if tx.auxLevel = loraAuxReadyLevel then s.telemetry.sent tx.written (.live live) else []

/-- The records of `tickLines`. -/
def tickRecords (i : Iteration) (s : LoraTask) : List TxRecord :=
  if !(s.startTick i.nowTick).linkDown then
    replayRecords i.replay replayBurstPerTick 0 (s.startTick i.nowTick) ++
      liveRecords i.queue i.live ((s.startTick i.nowTick).replayLoop i.replay replayBurstPerTick 0)
  else []

/-- The records of `txLines`. -/
def txRecords (i : Iteration) (s : LoraTask) : List TxRecord :=
  if (s.linkChecked i).telemetryDue i.nowTick then (s.linkChecked i).tickRecords i else []

end LoraTask

/-! ## Runs -/

/-- What may happen after `begin`: a pass of the task, or a `sendStatus` from elsewhere with the
result of its UART write. -/
inductive UplinkAction where
  | pass (i : Iteration)
  | sendStatus (written : Int) (data : TelemetryData)

namespace LoraTask

/-- A pass of the task, or a call of `sendStatus` from elsewhere. -/
def uplinkStep (s : LoraTask) : UplinkAction → LoraTask
  | .pass i => s.iterate i
  | .sendStatus written data =>
    { s with telemetry := (s.telemetry.sendStatus written data).1 }

/-- The lines an action puts on the UART, in the order in which they are written. -/
def linesOf (s : LoraTask) : UplinkAction → List (List Char)
  | .pass i => s.txLines i
  | .sendStatus written data => (s.telemetry.sendStatus written data).2.toList

/-- What a step sends, by its origin. -/
def recordsOf (s : LoraTask) : UplinkAction → List TxRecord
  | .pass i => s.txRecords i
  | .sendStatus written data => s.telemetry.sent written (.call data)

/-- Nothing is written: the UART refuses, no telemetry tick is due, the link is down, or AUX is busy
or the UART refuses at each attempt of the tick. -/
def Silent (s : LoraTask) : UplinkAction → Prop
  | .pass i =>
    (s.linkChecked i).telemetryDue i.nowTick = false ∨ (s.linkChecked i).linkDown = true ∨
      ((∀ burst, (i.replay burst).auxLevel ≠ loraAuxReadyLevel ∨ (i.replay burst).written < 0) ∧
        (i.live.auxLevel ≠ loraAuxReadyLevel ∨ i.live.written < 0))
  | .sendStatus written _ => written < 0

/-! ### Each call numbers its line -/

/-- The sender is started and its counter stands at `k`, modulo `2^32`. -/
structure CountsAt (k : ℕ) (s : LoraTask) : Prop where
  started : s.telemetry.telIsInitialized = true
  counter : s.telemetry.telSequenceCounter = UInt32.ofNat k

theorem CountsAt.congr {k : ℕ} {s s' : LoraTask} (h : CountsAt k s)
    (heq : s'.telemetry = s.telemetry) : CountsAt k s' := by
  constructor
  · rw [heq]
    exact h.started
  · rw [heq]
    exact h.counter

/-- One `sendStatus` of a started sender. -/
theorem sendStatus_numbered {k : ℕ} {s s' : LoraTask} (h : CountsAt k s) (written : Int)
    (r : TxRecord) (hs' : s'.telemetry = (s.telemetry.sendStatus written r.data).1) :
    (s.telemetry.sendStatus written r.data).2.toList =
        numberedFrom TxRecord.line k (s.telemetry.sent written r) ∧
      CountsAt (k + (s.telemetry.sent written r).length) s' := by
  rw [Telemetry.sent, s.telemetry.sendStatus_of_initialized h.started] at *
  by_cases hw : written < 0
  · rw [if_pos hw] at *
    exact ⟨rfl, h.congr hs'⟩
  · rw [if_neg hw] at *
    refine ⟨?_, ?_, ?_⟩
    · rw [h.counter, telPayload_eq]
      rfl
    · rw [hs']
      exact h.started
    · rw [hs']
      show s.telemetry.telSequenceCounter + 1 = UInt32.ofNat (k + 1)
      rw [h.counter, UInt32.ofNat_add]
      rfl

theorem replayLoop_numbered (tx : Nat → TxAttempt) (n : Nat) {burst k : ℕ} {s : LoraTask}
    (h : CountsAt k s) :
    s.replayLines tx n burst = numberedFrom TxRecord.line k (s.replayRecords tx n burst) ∧
      CountsAt (k + (s.replayRecords tx n burst).length) (s.replayLoop tx n burst) := by
  induction n generalizing burst k s with
  | zero => exact ⟨rfl, h⟩
  | succ n ih =>
      rw [replayLines, replayRecords, replayLoop]
      cases obPeek s.offline with
      | none => exact ⟨rfl, h⟩
      | some replay =>
          by_cases haux : (tx burst).auxLevel ≠ loraAuxReadyLevel
          · simp only [if_pos haux]
            exact ⟨rfl, h.congr rfl⟩
          · simp only [if_neg haux]
            have hsent : (s.sendReplay (tx burst).written replay).telemetry =
                (s.telemetry.sendStatus (tx burst).written (TxRecord.replay replay).data).1 := rfl
            obtain ⟨hline, hnext⟩ := sendStatus_numbered h (tx burst).written (.replay replay) hsent
            obtain ⟨hlines, hlast⟩ := @ih (burst + 1) _ _ hnext
            rw [numberedFrom_append, ← hline, ← hlines, List.length_append, ← Nat.add_assoc]
            exact ⟨rfl, hlast⟩

theorem sendLive_numbered (queue : Option TelemetryData) (tx : TxAttempt) {k : ℕ} {s : LoraTask}
    (h : CountsAt k s) :
    s.liveLines queue tx = numberedFrom TxRecord.line k (s.liveRecords queue tx) ∧
      CountsAt (k + (s.liveRecords queue tx).length) (s.sendLive queue tx) := by
  unfold liveLines liveRecords sendLive
  cases queue with
  | none => exact ⟨rfl, h⟩
  | some live =>
      by_cases haux : tx.auxLevel = loraAuxReadyLevel
      · simp only [if_pos haux]
        exact sendStatus_numbered h tx.written (.live live) rfl
      · simp only [if_neg haux]
        exact ⟨rfl, h.congr rfl⟩

theorem iterate_numbered (i : Iteration) {k : ℕ} {s : LoraTask} (h : CountsAt k s) :
    s.txLines i = numberedFrom TxRecord.line k (s.txRecords i) ∧
      CountsAt (k + (s.txRecords i).length) (s.iterate i) := by
  have hchecked : CountsAt k (s.linkChecked i) := h.congr (linkChecked_telemetry i s)
  have hstart : CountsAt k ((s.linkChecked i).startTick i.nowTick) := hchecked.congr rfl
  simp only [txLines, txRecords, iterate]
  by_cases hdue : (s.linkChecked i).telemetryDue i.nowTick = true
  · rw [if_pos hdue, if_pos hdue, if_pos hdue]
    simp only [tickLines, tickRecords, telemetryTick]
    split
    · obtain ⟨hreplay, hmid⟩ := @replayLoop_numbered i.replay replayBurstPerTick 0 _ _ hstart
      obtain ⟨hlive, hlast⟩ := sendLive_numbered i.queue i.live hmid
      rw [numberedFrom_append, ← hreplay, ← hlive, List.length_append, ← Nat.add_assoc]
      exact ⟨rfl, hlast⟩
    · rw [sampleOffline_eq]
      exact ⟨rfl, hstart.congr rfl⟩
  · rw [if_neg hdue, if_neg hdue, if_neg hdue]
    exact ⟨rfl, hchecked⟩

/-- **The step lemma.** Every action numbers its lines from the count it finds. -/
theorem uplinkStep_numbered (k : ℕ) (s : LoraTask) (a : UplinkAction) (h : CountsAt k s) :
    s.linesOf a = numberedFrom TxRecord.line k (s.recordsOf a) ∧
      CountsAt (k + (s.recordsOf a).length) (s.uplinkStep a) := by
  cases a with
  | pass i => exact iterate_numbered i h
  | sendStatus written data => exact sendStatus_numbered h written (.call data) rfl

/-! ### A silent action -/

/-- A refused write changes nothing. -/
theorem sendStatus_of_neg {written : Int} (hw : written < 0) (d : TelemetryData) (t : Telemetry) :
    t.sendStatus written d = (t, none) := by
  simp only [Telemetry.sendStatus, if_pos hw]
  split
  · rfl
  · split <;> rfl

theorem replayLoop_silent {tx : Nat → TxAttempt}
    (htx : ∀ burst, (tx burst).auxLevel ≠ loraAuxReadyLevel ∨ (tx burst).written < 0)
    (n burst : Nat) (s : LoraTask) :
    s.replayLines tx n burst = [] ∧ (s.replayLoop tx n burst).telemetry = s.telemetry := by
  induction n generalizing burst s with
  | zero => exact ⟨rfl, rfl⟩
  | succ n ih =>
      rw [replayLines, replayLoop]
      cases obPeek s.offline with
      | none => exact ⟨rfl, rfl⟩
      | some replay =>
          by_cases haux : (tx burst).auxLevel ≠ loraAuxReadyLevel
          · simp only [if_pos haux, and_self]
          · simp only [if_neg haux]
            have hrefused := sendStatus_of_neg ((htx burst).resolve_left haux)
              (sanitizeForUplink replay) s.telemetry
            obtain ⟨hlines, htelemetry⟩ :=
              ih (burst + 1) (s.sendReplay (tx burst).written replay)
            rw [hlines, htelemetry, hrefused]
            exact ⟨rfl, congrArg Prod.fst hrefused⟩

theorem sendLive_silent {tx : TxAttempt}
    (htx : tx.auxLevel ≠ loraAuxReadyLevel ∨ tx.written < 0) (queue : Option TelemetryData)
    (s : LoraTask) :
    s.liveLines queue tx = [] ∧ (s.sendLive queue tx).telemetry = s.telemetry := by
  cases queue with
  | none => exact ⟨rfl, rfl⟩
  | some live =>
      rw [liveLines, sendLive]
      by_cases haux : tx.auxLevel = loraAuxReadyLevel
      · have hrefused := sendStatus_of_neg (htx.resolve_left (not_not.mpr haux))
          (sanitizeForUplink live) s.telemetry
        simp only [if_pos haux, hrefused, Option.toList_none, and_self]
      · simp only [if_neg haux, and_self]

/-- A silent action writes nothing and leaves the sender as it was. -/
theorem uplinkStep_silent {s : LoraTask} {a : UplinkAction} (h : s.Silent a) :
    s.linesOf a = [] ∧ (s.uplinkStep a).telemetry = s.telemetry := by
  cases a with
  | sendStatus written data =>
      rw [linesOf, uplinkStep, sendStatus_of_neg (show written < 0 from h)]
      exact ⟨rfl, rfl⟩
  | pass i =>
      have hchecked := linkChecked_telemetry i s
      simp only [linesOf, uplinkStep, txLines, iterate]
      by_cases hdue : (s.linkChecked i).telemetryDue i.nowTick = true
      · rw [if_pos hdue, if_pos hdue]
        simp only [tickLines, telemetryTick]
        -- silent for one of three reasons: not due, the link down, every attempt fails
        rcases h with hskip | hdown | ⟨hreplay, hlive⟩
        · rw [hskip] at hdue
          exact Bool.noConfusion hdue
        · have hkept : ((s.linkChecked i).startTick i.nowTick).linkDown = true := hdown
          rw [if_neg (by simp [hkept]), if_neg (by simp [hkept]), sampleOffline_eq]
          exact ⟨rfl, hchecked⟩
        · split
          · obtain ⟨hlines, htelemetry⟩ := replayLoop_silent hreplay replayBurstPerTick 0
              ((s.linkChecked i).startTick i.nowTick)
            obtain ⟨hlines', htelemetry'⟩ := sendLive_silent hlive i.queue
              (((s.linkChecked i).startTick i.nowTick).replayLoop i.replay replayBurstPerTick 0)
            rw [hlines, hlines', htelemetry', htelemetry]
            exact ⟨rfl, hchecked⟩
          · rw [sampleOffline_eq]
            exact ⟨rfl, hchecked⟩
      · rw [if_neg hdue, if_neg hdue]
        exact ⟨rfl, hchecked⟩

/-! ### Replayed samples -/

theorem sendReplay_ledger (s : LoraTask) (written : Int) (replay : TelemetryData) :
    (s.sendReplay written replay).ledger =
      { s.ledger with
        gone := s.ledger.gone ++
          [(replay, if (s.telemetry.sendStatus written (sanitizeForUplink replay)).2.isSome
            then Fate.replayed else Fate.unsent)] } := rfl

theorem sendReplay_replayed (s : LoraTask) (written : Int) (replay : TelemetryData) :
    (s.sendReplay written replay).ledger.replayed =
      s.ledger.replayed ++
        (s.telemetry.sent written (.replay replay)).filterMap TxRecord.replayed? := by
  rw [sendReplay_ledger, Telemetry.sent, TxRecord.data]
  by_cases hsent : (s.telemetry.sendStatus written (sanitizeForUplink replay)).2.isSome = true
  · rw [if_pos hsent, if_pos hsent]
    exact Ledger.take_append .replayed .replayed s.ledger.pushed s.ledger.gone [replay]
  · rw [if_neg hsent, if_neg hsent]
    exact Ledger.take_append .replayed .unsent s.ledger.pushed s.ledger.gone [replay]

theorem replayLoop_replayed (tx : Nat → TxAttempt) (n burst : Nat) (s : LoraTask) :
    (s.replayLoop tx n burst).ledger.replayed =
      s.ledger.replayed ++ (s.replayRecords tx n burst).filterMap TxRecord.replayed? := by
  induction n generalizing burst s with
  | zero => exact (List.append_nil _).symm
  | succ n ih =>
      rw [replayLoop, replayRecords]
      cases obPeek s.offline with
      | none => exact (List.append_nil _).symm
      | some replay =>
          by_cases haux : (tx burst).auxLevel ≠ loraAuxReadyLevel
          · simp only [if_pos haux]
            exact (List.append_nil _).symm
          · simp only [if_neg haux]
            rw [ih, sendReplay_replayed, List.filterMap_append, List.append_assoc]

/-- No live record is a replayed sample. -/
theorem liveRecords_replayed? (queue : Option TelemetryData) (tx : TxAttempt) (s : LoraTask) :
    (s.liveRecords queue tx).filterMap TxRecord.replayed? = [] := by
  unfold liveRecords Telemetry.sent
  cases queue with
  | none => rfl
  | some live =>
      simp only
      split
      · split <;> rfl
      · rfl

theorem iterate_replayed (i : Iteration) (s : LoraTask) :
    (s.iterate i).ledger.replayed =
      s.ledger.replayed ++ (s.txRecords i).filterMap TxRecord.replayed? := by
  have hledger : (s.linkChecked i).ledger.replayed = s.ledger.replayed := by
    rw [(linkChecked_kept i s).ledger]
  simp only [iterate, txRecords]
  by_cases hdue : (s.linkChecked i).telemetryDue i.nowTick = true
  · rw [if_pos hdue, if_pos hdue]
    simp only [telemetryTick, tickRecords]
    split
    · rw [(sendLive_kept _ _ _).ledger, replayLoop_replayed, List.filterMap_append,
        liveRecords_replayed?, List.append_nil, (startTick_kept _ _).ledger, hledger]
    · have hfate : Fate.replayed ≠ .evicted := by decide
      have hsample := sampleOffline_take hfate
        ((s.linkChecked i).startTick i.nowTick) i.queue i.sampleMs
      rw [List.filterMap_nil, List.append_nil, ← hledger]
      exact hsample
  · rw [if_neg hdue, if_neg hdue, hledger]
    exact (List.append_nil _).symm

theorem exec_replayed (s : LoraTask) (as : List UplinkAction) :
    (exec uplinkStep s as).ledger.replayed =
      s.ledger.replayed ++ (gather uplinkStep recordsOf s as).filterMap TxRecord.replayed? := by
  induction as generalizing s with
  | nil => exact (List.append_nil _).symm
  | cons a as ih =>
      have hstep : (s.uplinkStep a).ledger.replayed =
          s.ledger.replayed ++ (s.recordsOf a).filterMap TxRecord.replayed? := by
        cases a with
        | pass i => exact iterate_replayed i s
        | sendStatus written data =>
            have hnone : (s.telemetry.sent written (.call data)).filterMap TxRecord.replayed? = [] := by
              unfold Telemetry.sent
              split <;> rfl
            rw [recordsOf, hnone, List.append_nil]
            rfl
      rw [exec_cons, ih, hstep, gather_cons, List.filterMap_append, List.append_assoc]

/-! ### Every run -/

/-- **Sequence numbers are gapless.** After `begin`, over every sequence of passes and `sendStatus`
calls: the `k`-th line written, counted from 0, carries the number `k` modulo `2^32`; it is the line
of the `k`-th record, whatever kind the record is; the sender's counter is the number of lines
written, so it stands still while nothing is written; and the samples replayed are the records of
that kind, one for each, in order. -/
theorem lines_numbered (s : LoraTask) (as : List UplinkAction) :
    let begun := { s with telemetry := s.telemetry.begin }
    let lines := gather uplinkStep linesOf begun as
    let records := gather uplinkStep recordsOf begun as
    (∀ k line, lines[k]? = some line → carriedSeq line = some (k % 2 ^ 32)) ∧
      lines = numberedFrom TxRecord.line 0 records ∧
      (exec uplinkStep begun as).telemetry.telSequenceCounter = UInt32.ofNat lines.length ∧
      (∀ (t : LoraTask) (a : UplinkAction), t.Silent a →
        t.linesOf a = [] ∧ (t.uplinkStep a).telemetry = t.telemetry) ∧
      (exec uplinkStep begun as).ledger.replayed =
        s.ledger.replayed ++ records.filterMap TxRecord.replayed? := by
  intro begun lines records
  have hbegun : CountsAt 0 begun := ⟨rfl, rfl⟩
  obtain ⟨hlines, hcount⟩ := gather_numbered uplinkStep_numbered hbegun as
  have hlength : lines.length = records.length := by
    rw [show lines = _ from hlines, length_numberedFrom]
  refine ⟨?_, hlines, ?_, fun t a => uplinkStep_silent, exec_replayed begun as⟩
  · intro k line hline
    rw [show lines = _ from hlines, getElem?_numberedFrom, Nat.zero_add,
      Option.map_eq_some_iff] at hline
    obtain ⟨r, -, rfl⟩ := hline
    exact carriedSeq_line k r
  · rw [hcount.counter, Nat.zero_add, hlength]

end LoraTask

end TfnAks.Uplink
