/-
# TfnAks.Uplink.LoraTask — the telemetry task

The endless loop of `vTask_LoRa_UKS` in `src/main.cpp`, with `include/LinkMonitor.h` and
`include/LoraRxHandler.h`. One `iterate` is one pass: the received bytes, the link check, and when a
telemetry tick is due either a replayed record and the live one (link up) or a sample for the
offline buffer (link down). The radio set-up before the loop is left out, and so are the log texts;
the queue exists, since `app_main` starts no task without it.

What the environment decides in a pass is an `Iteration`: bytes, uptimes, ticks, the queue, the
level of AUX at each check and the result of each UART write.

Beside the code's own state the task keeps a `Ledger` of the samples that entered and left the
offline buffer. Nothing reads it; the results about the buffer are stated with it.
-/
import TfnAks.Telemetry.Sanitize
import TfnAks.Uplink.OfflineBuffer
import TfnAks.Uplink.Telemetry

namespace TfnAks.Uplink

/-! ## Link monitor -/

/-- Whether the last heartbeat is too old, and never before the first; the subtraction wraps. -/
def linkCheckTimeout (nowMs lastHbMs : UInt64) (timeoutMs : UInt32) : Bool :=
  if lastHbMs = 0 then false else timeoutMs.toUInt64 < nowMs - lastHbMs

/-- Before the first heartbeat the time runs from the boot, with a grace period of its own. -/
def linkCheckTimeoutWithBootGrace (nowMs lastHbMs : UInt64) (timeoutMs : UInt32) (bootMs : UInt64)
    (bootGraceMs : UInt32) : Bool :=
  if lastHbMs = 0 then bootGraceMs.toUInt64 < nowMs - bootMs
  else linkCheckTimeout nowMs lastHbMs timeoutMs

/-- When `hasSample` is false the outage has no sample yet and takes one at once. -/
def offlineShouldSample (nowMs lastSampleMs : UInt64) (hasSample : Bool) (periodMs : UInt32) : Bool :=
  if !hasSample then true else periodMs.toUInt64 ≤ nowMs - lastSampleMs

/-! ## Received bytes -/

/-- What a received byte can be. -/
inductive LoraRxByteKind where
  | heartbeat
  | unknown
  deriving DecidableEq, Repr

/-- The ground unit sends one byte only; all others are noise. -/
def loraClassifyRxByte (rxByte : UInt8) : LoraRxByteKind :=
  if rxByte = uksHeartbeatByte then .heartbeat else .unknown

/-- The new count and time of the last warning, and whether to warn now. -/
def loraNoteUnknownByte (nowMs : UInt64) (count : UInt32) (lastWarnMs : UInt64)
    (warnIntervalMs : UInt32) : UInt32 × UInt64 × Bool :=
  if warnIntervalMs.toUInt64 ≤ nowMs - lastWarnMs then (count + 1, nowMs, true)
  else (count + 1, lastWarnMs, false)

/-! ## State -/

/-- How a sample left the offline buffer: its replay reached the UART, a push on a full buffer took
its place, or it was dropped although the write of its replay failed. -/
inductive Fate where
  | replayed
  | evicted
  | unsent
  deriving DecidableEq, Repr

/-- Where the samples of the offline buffer have gone. The code has no such record. -/
structure Ledger where
  pushed : List TelemetryData
  /-- in the order in which the samples left -/
  gone : List (TelemetryData × Fate)
  deriving DecidableEq

/-- The samples that left by one fate. -/
def Ledger.take (fate : Fate) (l : Ledger) : List TelemetryData :=
  (l.gone.filter (·.2 = fate)).map Prod.fst

/-- The samples successfully written to the UART as replay. -/
def Ledger.replayed (l : Ledger) : List TelemetryData := l.take .replayed

/-- The samples a full buffer has overwritten. -/
def Ledger.evicted (l : Ledger) : List TelemetryData := l.take .evicted

/-- The samples dropped after a write that failed. -/
def Ledger.unsent (l : Ledger) : List TelemetryData := l.take .unsent

/-- The locals of the loop and the objects it uses. -/
structure LoraTask where
  telemetry : Telemetry
  offline : OfflineBuffer
  linkDown : Bool
  /-- 0 before the first heartbeat -/
  lastHeartbeatMs : UInt64
  unknownRxByteCount : UInt32
  lastUnknownRxByteWarnMs : UInt64
  lastTelemetryTick : TickType
  auxNotReadyLogged : Bool
  bootMs : UInt64
  lastOfflineSampleMs : UInt64
  offlineFirstTs : UInt32
  offlineLastTs : UInt32
  offlineHasSamples : Bool
  ledger : Ledger

/-- The state in which the loop starts. -/
def LoraTask.booted (bootMs : UInt64) : LoraTask where
  telemetry := Telemetry.new.begin
  offline := obBooted
  linkDown := false
  lastHeartbeatMs := 0
  unknownRxByteCount := 0
  lastUnknownRxByteWarnMs := 0
  lastTelemetryTick := 0
  auxNotReadyLogged := false
  bootMs := bootMs
  lastOfflineSampleMs := 0
  offlineFirstTs := 0
  offlineLastTs := 0
  offlineHasSamples := false
  ledger := ⟨[], []⟩

/-- What one attempt to send meets: the level of AUX, and the result of `uart_write_bytes` if it
gets that far. -/
structure TxAttempt where
  auxLevel : Int
  written : Int
  deriving DecidableEq, Repr

/-- What a pass meets: the bytes, the clocks it reads, the queue, and its attempts to send. -/
structure Iteration where
  /-- received bytes, each with the uptime when it is handled -/
  rx : List (UInt8 × UInt64)
  linkCheckMs : UInt64
  nowTick : TickType
  /-- what `xQueuePeek` finds -/
  queue : Option TelemetryData
  /-- by burst of the replay loop -/
  replay : Nat → TxAttempt
  live : TxAttempt
  sampleMs : UInt64

namespace LoraTask

/-! ## One pass -/

/-- A heartbeat sets its time; any other byte is counted, and noted now and then. -/
def handleRxByte (rx : UInt8 × UInt64) (s : LoraTask) : LoraTask :=
  match loraClassifyRxByte rx.1 with
  | .heartbeat => { s with lastHeartbeatMs := rx.2 }
  | .unknown =>
    let noted := loraNoteUnknownByte rx.2 s.unknownRxByteCount s.lastUnknownRxByteWarnMs
      loraUnknownByteWarnIntervalMs
    { s with unknownRxByteCount := noted.1, lastUnknownRxByteWarnMs := noted.2.1 }

/-- The bytes of a pass, one after the other. -/
def handleRx (rx : List (UInt8 × UInt64)) (s : LoraTask) : LoraTask :=
  rx.foldl (fun s b => s.handleRxByte b) s

/-- The link goes down with a timeout, and up when a heartbeat has come that is not too old. -/
def checkLink (nowMs : UInt64) (s : LoraTask) : LoraTask :=
  let timeout := linkCheckTimeoutWithBootGrace nowMs s.lastHeartbeatMs linkTimeoutMs s.bootMs
    bootLinkGraceMs
  if timeout && !s.linkDown then
    -- a new outage: the sampling clock starts over
    { s with linkDown := true, lastOfflineSampleMs := 0, offlineHasSamples := false }
  -- before the first heartbeat the link does not come up again
  else if !timeout && s.linkDown && s.lastHeartbeatMs ≠ 0 then { s with linkDown := false }
  else s

/-- `sendStatus` of a replayed record, and `ob_drop_front` whatever became of it. -/
def sendReplay (written : Int) (replay : TelemetryData) (s : LoraTask) : LoraTask :=
  let sent := s.telemetry.sendStatus written (sanitizeForUplink replay)
  { s with
    telemetry := sent.1
    offline := obDropFront s.offline
    auxNotReadyLogged := false
    ledger :=
      { s.ledger with
        gone := s.ledger.gone ++ [(replay, if sent.2.isSome then .replayed else .unsent)] } }

/-- The replay loop: at most `n` more bursts, the next one has the number `burst`. -/
def replayLoop (tx : Nat → TxAttempt) : Nat → Nat → LoraTask → LoraTask
  | 0, _, s => s
  | n + 1, burst, s =>
    match obPeek s.offline with
    | none => s
    | some replay =>
      -- AUX busy: the record stays in the buffer and the loop ends
      if (tx burst).auxLevel ≠ loraAuxReadyLevel then { s with auxNotReadyLogged := true }
      else replayLoop tx n (burst + 1) (s.sendReplay (tx burst).written replay)

/-- The live record, when the radio is ready for it. -/
def sendLive (queue : Option TelemetryData) (tx : TxAttempt) (s : LoraTask) : LoraTask :=
  match queue with
  | none => s
  | some live =>
    if tx.auxLevel = loraAuxReadyLevel then
      { s with
        telemetry := (s.telemetry.sendStatus tx.written (sanitizeForUplink live)).1
        auxNotReadyLogged := false }
    else { s with auxNotReadyLogged := true }

/-- With the link down the snapshot is buffered once in a sample period. -/
def sampleOffline (queue : Option TelemetryData) (nowMs : UInt64) (s : LoraTask) : LoraTask :=
  match queue with
  | none => s
  | some buffered =>
    if offlineShouldSample nowMs s.lastOfflineSampleMs s.offlineHasSamples offlineSamplePeriodMs then
      { s with
        lastOfflineSampleMs := nowMs
        offline := obPush buffered s.offline
        offlineFirstTs := if s.offlineHasSamples then s.offlineFirstTs else buffered.telTimestampMs
        offlineHasSamples := true
        offlineLastTs := buffered.telTimestampMs
        ledger :=
          { pushed := s.ledger.pushed ++ [buffered]
            gone := s.ledger.gone ++ (obEvicted s.offline).toList.map (·, Fate.evicted) } }
    else s

/-- Whether the telemetry period has passed; the subtraction wraps. -/
def telemetryDue (nowTick : TickType) (s : LoraTask) : Bool :=
  pdMsToTicks loraTxPeriodMs ≤ nowTick - s.lastTelemetryTick

/-- The period starts again. -/
def startTick (nowTick : TickType) (s : LoraTask) : LoraTask :=
  { s with lastTelemetryTick := nowTick }

/-- The body of a telemetry tick that is due. -/
def telemetryTick (i : Iteration) (s : LoraTask) : LoraTask :=
  if !(s.startTick i.nowTick).linkDown then
    ((s.startTick i.nowTick).replayLoop i.replay replayBurstPerTick 0).sendLive i.queue i.live
  else (s.startTick i.nowTick).sampleOffline i.queue i.sampleMs

/-- The state when the tick counter is read: the bytes are handled and the link is checked. -/
def linkChecked (i : Iteration) (s : LoraTask) : LoraTask :=
  (s.handleRx i.rx).checkLink i.linkCheckMs

/-- One pass of the loop: bytes and link always, telemetry when it is due. -/
def iterate (s : LoraTask) (i : Iteration) : LoraTask :=
  let s := s.linkChecked i
  if s.telemetryDue i.nowTick then s.telemetryTick i else s

end LoraTask

/-! ## What the bytes change -/

/-- The uptimes at which a pass received a heartbeat. -/
def heartbeatTimes (rx : List (UInt8 × UInt64)) : List UInt64 :=
  (rx.filter fun b => decide (b.1 = uksHeartbeatByte)).map Prod.snd

namespace LoraTask

theorem handleRxByte_eq (b : UInt8 × UInt64) (s : LoraTask) :
    s.handleRxByte b =
      { s with
        lastHeartbeatMs := if b.1 = uksHeartbeatByte then b.2 else s.lastHeartbeatMs
        unknownRxByteCount := (s.handleRxByte b).unknownRxByteCount
        lastUnknownRxByteWarnMs := (s.handleRxByte b).lastUnknownRxByteWarnMs } := by
  unfold handleRxByte loraClassifyRxByte
  by_cases hb : b.1 = uksHeartbeatByte
  · rw [if_pos hb, if_pos hb]
  · rw [if_neg hb, if_neg hb]

/-- The bytes move the uptime of the last heartbeat and the count of the others, nothing else. -/
theorem handleRx_eq (rx : List (UInt8 × UInt64)) (s : LoraTask) :
    s.handleRx rx =
      { s with
        lastHeartbeatMs := (heartbeatTimes rx).getLast?.getD s.lastHeartbeatMs
        unknownRxByteCount := (s.handleRx rx).unknownRxByteCount
        lastUnknownRxByteWarnMs := (s.handleRx rx).lastUnknownRxByteWarnMs } := by
  induction rx generalizing s with
  | nil => rfl
  | cons b rx ih =>
      have hlast : (heartbeatTimes (b :: rx)).getLast?.getD s.lastHeartbeatMs =
          (heartbeatTimes rx).getLast?.getD
            (if b.1 = uksHeartbeatByte then b.2 else s.lastHeartbeatMs) := by
        unfold heartbeatTimes
        by_cases hb : b.1 = uksHeartbeatByte
        · rw [if_pos hb, List.filter_cons_of_pos (by simpa using hb), List.map_cons,
            List.getLast?_cons, Option.getD_some]
        · rw [if_neg hb, List.filter_cons_of_neg (by simpa using hb)]
      have hstep : s.handleRx (b :: rx) = (s.handleRxByte b).handleRx rx := rfl
      rw [hlast, hstep]
      refine (ih (s.handleRxByte b)).trans ?_
      rw [handleRxByte_eq b s]

/-- What a link check can do: nothing, start an outage, or end one. -/
theorem checkLink_cases (nowMs : UInt64) (s : LoraTask) :
    s.checkLink nowMs = s ∨
      s.linkDown = false ∧ s.checkLink nowMs =
        { s with linkDown := true, lastOfflineSampleMs := 0, offlineHasSamples := false } ∨
      s.linkDown = true ∧ s.checkLink nowMs = { s with linkDown := false } := by
  simp only [checkLink]
  split
  · rename_i h
    rw [Bool.and_eq_true, Bool.not_eq_true'] at h
    exact .inr (.inl ⟨h.2, rfl⟩)
  · split
    · rename_i h
      rw [Bool.and_eq_true, Bool.and_eq_true] at h
      exact .inr (.inr ⟨h.1.2, rfl⟩)
    · exact .inl rfl

/-! ## What a tick writes

Every other field is kept. -/

theorem sendLive_eq (queue : Option TelemetryData) (tx : TxAttempt) (s : LoraTask) :
    s.sendLive queue tx =
      { s with
        telemetry := (s.sendLive queue tx).telemetry
        auxNotReadyLogged := (s.sendLive queue tx).auxNotReadyLogged } := by
  unfold sendLive
  cases queue with
  | none => rfl
  | some live =>
      simp only
      split <;> rfl

theorem sampleOffline_eq (queue : Option TelemetryData) (nowMs : UInt64) (s : LoraTask) :
    s.sampleOffline queue nowMs =
      { s with
        lastOfflineSampleMs := (s.sampleOffline queue nowMs).lastOfflineSampleMs
        offline := (s.sampleOffline queue nowMs).offline
        offlineFirstTs := (s.sampleOffline queue nowMs).offlineFirstTs
        offlineLastTs := (s.sampleOffline queue nowMs).offlineLastTs
        offlineHasSamples := (s.sampleOffline queue nowMs).offlineHasSamples
        ledger := (s.sampleOffline queue nowMs).ledger } := by
  unfold sampleOffline
  cases queue with
  | none => rfl
  | some buffered =>
      simp only
      split <;> rfl

theorem replayLoop_eq (tx : Nat → TxAttempt) (n burst : Nat) (s : LoraTask) :
    s.replayLoop tx n burst =
      { s with
        telemetry := (s.replayLoop tx n burst).telemetry
        offline := (s.replayLoop tx n burst).offline
        auxNotReadyLogged := (s.replayLoop tx n burst).auxNotReadyLogged
        ledger := (s.replayLoop tx n burst).ledger } := by
  induction n generalizing burst s with
  | zero => rfl
  | succ n ih =>
      rw [replayLoop]
      cases obPeek s.offline with
      | none => rfl
      | some replay =>
          simp only
          split
          · rfl
          · exact ih (burst + 1) (s.sendReplay (tx burst).written replay)

end LoraTask

end TfnAks.Uplink
