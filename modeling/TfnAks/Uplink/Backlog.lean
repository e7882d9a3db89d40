/-
# TfnAks.Uplink.Backlog — the samples of an outage are sent after it

While the link is down the task samples into the offline buffer; when it is up again each telemetry
tick replays one sample in front of the live record. A pass that finds AUX ready and the UART
willing (`Restored`) therefore takes one sample off the buffer exactly when the timer of the tick
fires (`iterate_restored`), and a series of such passes as many as the timer fires
(`exec_restored`).

How often it fires is a question of time: the tick is polled by the loop, so a tick costs its period
and at most the gap between two passes. This gives a bound on how long the backlog lasts, from any
state a run can leave behind (`backlog_sent_in_time`).
-/
import TfnAks.Lib.PolledTimer
import TfnAks.Uplink.SequenceNumbers

namespace TfnAks.Uplink

open TfnAks.Lib.Runs TfnAks.Lib.RingBuffer TfnAks.Lib.PolledTimer TfnAks.Lib.Numbering

theorem sent_of_written {t : Telemetry} (ht : t.telIsInitialized = true) {written : Int}
    (hw : 0 ≤ written) (r : TxRecord) : t.sent written r = [r] := by
  rw [Telemetry.sent, if_pos ((Telemetry.isSome_sendStatus_iff ht written r.data).mpr hw)]

/-- The samples replayed with a list of records. -/
def replayedIn (records : List TxRecord) : List TelemetryData :=
  records.filterMap TxRecord.replayed?

namespace LoraTask

/-! ## One pass -/

/-- The link is up in a pass, and the radio and the UART take what is replayed. -/
structure Restored (s : LoraTask) (i : Iteration) : Prop where
  up : (s.linkChecked i).linkDown = false
  ready : (i.replay 0).auxLevel = loraAuxReadyLevel
  written : 0 ≤ (i.replay 0).written

theorem linkChecked_lastTelemetryTick (i : Iteration) (f : LoraTask) :
    (f.linkChecked i).lastTelemetryTick = f.lastTelemetryTick := by
  rw [linkChecked]
  rcases (f.handleRx i.rx).checkLink_cases i.linkCheckMs with h | ⟨-, h⟩ | ⟨-, h⟩ <;>
    rw [h, handleRx_eq]

/-- The telemetry tick is a polled timer. -/
theorem telemetryDue_linkChecked (i : Iteration) (s : LoraTask) :
    (s.linkChecked i).telemetryDue i.nowTick =
      fires (pdMsToTicks loraTxPeriodMs) s.lastTelemetryTick i.nowTick := by
  rw [telemetryDue, linkChecked_lastTelemetryTick]
  rfl

/-- The state after the oldest sample is replayed. -/
structure TakesOldest (s s' : LoraTask) : Prop where
  started : s'.telemetry.telIsInitialized = true
  offline : s'.offline.toList = s.offline.toList.tail
  ledger : s'.ledger =
    { s.ledger with
      gone := s.ledger.gone ++ s.offline.toList.head?.toList.map (·, Fate.replayed) }

/-- The replay loop of a tick, when its one attempt succeeds. -/
theorem replayLoop_takesOldest {s : LoraTask} (hstarted : s.telemetry.telIsInitialized = true)
    {tx : Nat → TxAttempt} (haux : (tx 0).auxLevel = loraAuxReadyLevel) (hw : 0 ≤ (tx 0).written) :
    s.TakesOldest (s.replayLoop tx replayBurstPerTick 0) ∧
      s.replayRecords tx replayBurstPerTick 0 = s.offline.toList.head?.toList.map .replay := by
  unfold replayBurstPerTick replayRecords replayLoop
  cases hpeek : obPeek s.offline with
  | none =>
      have hempty : s.offline.toList = [] := by
        rw [Ring.toList_eq_nil_iff]
        exact obPeek_eq_none_iff.mp hpeek
      simp only [hempty]
      exact ⟨⟨hstarted, by rw [hempty]; rfl, by rw [hempty]; simp⟩, rfl⟩
  | some replay =>
      -- the oldest sample is written, so it leaves the buffer as replayed
      have hsplit := toList_eq_cons_of_obPeek hpeek
      have hsent := (Telemetry.isSome_sendStatus_iff hstarted (tx 0).written
        (sanitizeForUplink replay)).mpr hw
      simp only [haux, ne_eq, not_true_eq_false, if_false, replayLoop, replayRecords]
      refine ⟨⟨?_, ?_, ?_⟩, ?_⟩
      · exact (Telemetry.sendStatus_initialized _ _ _).trans hstarted
      · rw [hsplit]
        rfl
      · rw [hsplit, sendReplay_ledger, if_pos hsent]
        rfl
      · rw [hsplit, sent_of_written hstarted hw]
        rfl

/-- The state after `n` samples are replayed, the timer last seen at `last`. -/
structure Sends (n : ℕ) (last : TickType) (s s' : LoraTask) : Prop where
  started : s'.telemetry.telIsInitialized = true
  offline : s'.offline.toList = s.offline.toList.drop n
  ledger : s'.ledger =
    { s.ledger with gone := s.ledger.gone ++ (s.offline.toList.take n).map (·, Fate.replayed) }
  timer : s'.lastTelemetryTick = last

/-- **One pass** takes a sample off the buffer when its timer fires. -/
theorem iterate_restored {s : LoraTask} {i : Iteration} (hi : s.Restored i)
    (hstarted : s.telemetry.telIsInitialized = true) :
    let n := if fires (pdMsToTicks loraTxPeriodMs) s.lastTelemetryTick i.nowTick then 1 else 0
    s.Sends n (poll (pdMsToTicks loraTxPeriodMs) s.lastTelemetryTick i.nowTick) (s.iterate i) ∧
      replayedIn (s.txRecords i) = s.offline.toList.take n := by
  intro n
  have hdue := telemetryDue_linkChecked i s
  have hchecked := linkChecked_kept i s
  unfold iterate txRecords
  dsimp only
  rw [hdue]
  by_cases hfires : fires (pdMsToTicks loraTxPeriodMs) s.lastTelemetryTick i.nowTick = true
  · -- due: the burst is one replay, and the live record touches neither buffer nor ledger
    have hn : n = 1 := if_pos hfires
    have hup : (!((s.linkChecked i).startTick i.nowTick).linkDown) = true := by
      rw [show ((s.linkChecked i).startTick i.nowTick).linkDown = false from hi.up]
      rfl
    have hkept := hchecked.trans (startTick_kept i.nowTick (s.linkChecked i))
    obtain ⟨htakes, hrecords⟩ :=
      replayLoop_takesOldest (hkept.started.trans hstarted) hi.ready hi.written
    rw [if_pos hfires, if_pos hfires, telemetryTick, tickRecords, if_pos hup, if_pos hup, hn, poll,
      if_pos hfires]
    have hlive := sendLive_kept i.queue i.live
      (((s.linkChecked i).startTick i.nowTick).replayLoop i.replay replayBurstPerTick 0)
    have hhead : s.offline.toList.head?.toList = s.offline.toList.take 1 := by
      cases s.offline.toList <;> rfl
    refine ⟨⟨hlive.started.trans htakes.started, ?_, ?_, ?_⟩, ?_⟩
    · rw [hlive.offline, htakes.offline, hkept.offline, List.drop_one]
    · rw [hlive.ledger, htakes.ledger, hkept.ledger, hkept.offline, hhead]
    · rw [sendLive_eq, replayLoop_eq]
      rfl
    · rw [replayedIn, List.filterMap_append, hrecords, liveRecords_replayed?, List.append_nil,
        hkept.offline, hhead, List.filterMap_map]
      exact List.filterMap_some
  · have hn : n = 0 := if_neg hfires
    rw [if_neg hfires, if_neg hfires, hn, poll, if_neg hfires]
    refine ⟨⟨hchecked.started.trans hstarted, ?_, ?_, linkChecked_lastTelemetryTick i s⟩, rfl⟩
    · rw [hchecked.offline, List.drop_zero]
    · rw [hchecked.ledger]
      simp

/-! ## A series of passes -/

/-- **As many samples as the timer fires** leave the buffer, oldest first. -/
theorem exec_restored {s : LoraTask} (hstarted : s.telemetry.telIsInitialized = true)
    {is : List Iteration} (his : Before iterate s is Restored) :
    let n := countFires (pdMsToTicks loraTxPeriodMs) s.lastTelemetryTick (is.map Iteration.nowTick)
    (exec iterate s is).offline.toList = s.offline.toList.drop n ∧
      (exec iterate s is).ledger =
        { s.ledger with
          gone := s.ledger.gone ++ (s.offline.toList.take n).map (·, Fate.replayed) } ∧
      replayedIn (gather iterate (fun s i => s.txRecords i) s is) = s.offline.toList.take n := by
  induction is generalizing s with
  | nil => simp [countFires, replayedIn]
  | cons i is ih =>
      rw [before_cons] at his
      obtain ⟨hone, hrecords⟩ := iterate_restored his.1 hstarted
      obtain ⟨hoffline, hledger, hlater⟩ := ih hone.started his.2
      rw [hone.timer, hone.offline] at hoffline hledger hlater
      rw [hone.ledger] at hledger
      rw [exec_cons, gather_cons, replayedIn, List.filterMap_append, List.map_cons, countFires]
      unfold replayedIn at hrecords hlater
      refine ⟨?_, ?_, ?_⟩
      · rw [hoffline, List.drop_drop]
      · rw [hledger, List.take_add, List.map_append, List.append_assoc]
      · rw [hrecords, hlater, List.take_add]

theorem Ledger.take_replayed_append (l : Ledger) (ds : List TelemetryData) (fate : Fate) :
    ({ l with gone := l.gone ++ ds.map (·, Fate.replayed) } : Ledger).take fate =
      l.take fate ++ if Fate.replayed = fate then ds else [] :=
  Ledger.take_append fate .replayed l.pushed l.gone ds

/-- When no sample was evicted or lost, those that are gone were all replayed. -/
theorem Ledger.replayed_of_others_nil {l : Ledger} (hevicted : l.evicted = [])
    (hunsent : l.unsent = []) : l.replayed = l.gone.map Prod.fst := by
  have hnone : ∀ fate, l.take fate = [] → ∀ g ∈ l.gone, g.2 ≠ fate := by
    intro fate hnil g hg heq
    have hmem : g.1 ∈ l.take fate :=
      List.mem_map.mpr ⟨g, List.mem_filter.mpr ⟨hg, decide_eq_true heq⟩, rfl⟩
    rw [hnil] at hmem
    exact List.not_mem_nil hmem
  have hall : ∀ g ∈ l.gone, decide (g.2 = Fate.replayed) = true := by
    intro g hg
    have hne := hnone .evicted hevicted g hg
    have hne' := hnone .unsent hunsent g hg
    cases hfate : g.2 with
    | replayed => rfl
    | evicted => exact absurd hfate hne
    | unsent => exact absurd hfate hne'
  rw [Ledger.replayed, Ledger.take, List.filter_eq_self.mpr hall]

/-- **The backlog is sent in time.** After every run of the task, however many outages it went
through, let the link come up and stay up, with AUX ready and no failing write for the replays, and
let the telemetry period and the longest gap between two passes be `2^32` ticks together at most.
When the time that has passed is the number of buffered samples times the two, the buffer is empty:
the UART has got its samples as replayed records, oldest first and each once, as lines with
consecutive numbers. If none of the samples before were evicted or lost in a write that failed,
every sample ever taken has been sent by then, in the order in which they were taken. -/
theorem backlog_sent_in_time (bootMs : UInt64) (pre : List Iteration) {post : List Iteration}
    {t gap : ℕ} {ts : List ℕ}
    (hpost : Before iterate (exec iterate (booted bootMs) pre) post Restored)
    (hticks : post.map Iteration.nowTick = (t :: ts).map UInt32.ofNat)
    (hlooks : (t :: ts).IsChain fun a b => a ≤ b ∧ b ≤ a + gap)
    (hgap : msInTicks loraTxPeriodMs + gap ≤ 2 ^ 32)
    (htime : obCount (exec iterate (booted bootMs) pre).offline * (msInTicks loraTxPeriodMs + gap) ≤
      (t :: ts).getLast (List.cons_ne_nil t ts) - t) :
    let s := exec iterate (booted bootMs) pre
    let s' := exec iterate s post
    let records := gather iterate (fun s i => s.txRecords i) s post
    s'.offline.toList = [] ∧ replayedIn records = s.offline.toList ∧
      gather iterate (fun s i => s.txLines i) s post =
        numberedFrom TxRecord.line s.telemetry.telSequenceCounter.toNat records ∧
      s'.ledger.replayed = s.ledger.replayed ++ s.offline.toList ∧
      s'.ledger.evicted = s.ledger.evicted ∧ s'.ledger.unsent = s.ledger.unsent ∧
      (s.ledger.evicted = [] → s.ledger.unsent = [] → s'.ledger.replayed = s.ledger.pushed) := by
  intro s s' records
  have hbalanced : s.Balanced := exec_balanced (booted_balanced bootMs) pre
  -- the timer fires at least as often as there are samples, and each firing replays the oldest
  have hfires := le_countFires (show (pdMsToTicks loraTxPeriodMs).toNat + gap ≤ 2 ^ 32 from hgap)
    (by decide) s.lastTelemetryTick hlooks htime
  rw [← hticks] at hfires
  have hcount : s.offline.toList.length = obCount s.offline := Ring.length_toList _
  obtain ⟨hoffline, hledger, hrecords⟩ := exec_restored hbalanced.started hpost
  rw [List.drop_of_length_le (hcount ▸ hfires)] at hoffline
  rw [List.take_of_length_le (hcount ▸ hfires)] at hledger hrecords
  -- the ledger grows by the replays alone
  have htake : ∀ fate, s'.ledger.take fate =
      s.ledger.take fate ++ if Fate.replayed = fate then s.offline.toList else [] := by
    intro fate
    rw [show s'.ledger = _ from hledger]
    exact Ledger.take_replayed_append s.ledger s.offline.toList fate
  have hreplayed : s'.ledger.replayed = s.ledger.replayed ++ s.offline.toList :=
    htake .replayed
  have hevicted : s'.ledger.evicted = s.ledger.evicted :=
    (htake .evicted).trans (List.append_nil _)
  have hunsent : s'.ledger.unsent = s.ledger.unsent :=
    (htake .unsent).trans (List.append_nil _)
  have hcounts : s.CountsAt s.telemetry.telSequenceCounter.toNat :=
    ⟨hbalanced.started, UInt32.ofNat_toNat.symm⟩
  have hlines := (gather_numbered (fun _ _ i h => iterate_numbered i h) hcounts post).1
  refine ⟨hoffline, hrecords, hlines, hreplayed, hevicted, hunsent, ?_⟩
  intro hnone hsent
  rw [hreplayed, Ledger.replayed_of_others_nil hnone hsent, hbalanced.pushed_eq]

/-- A pass of a task that is in touch with a ready radio, or hears nothing when `rx` is empty. -/
def readyPass (rx : List UInt8) (nowMs : UInt64) (nowTick : TickType) : Iteration :=
  ⟨rx.map (·, nowMs), nowMs, nowTick, some .zero, fun _ => ⟨1, 91⟩, ⟨1, 91⟩, nowMs⟩

/-- The boot grace runs out and two samples are taken. -/
def twoSamples : List Iteration := [readyPass [] 6000 600, readyPass [] 8000 800]

/-- The heartbeats come, with a pass every 250 ms. -/
def fivePasses : List Iteration :=
  [readyPass [uksHeartbeatByte] 10000 1000, readyPass [uksHeartbeatByte] 10250 1025,
    readyPass [uksHeartbeatByte] 10500 1050, readyPass [uksHeartbeatByte] 10750 1075,
    readyPass [uksHeartbeatByte] 11000 1100]

theorem twoSamples_sent_in_time :
    let s := exec iterate (booted 0) twoSamples
    s.offline.toList = [.zero, .zero] ∧ (exec iterate s fivePasses).offline.toList = [] ∧
      (exec iterate s fivePasses).ledger.replayed = [.zero, .zero] := by
  intro s
  have hpasses : Before iterate (exec iterate (booted 0) twoSamples) fivePasses Restored := by
    unfold fivePasses
    simp only [before_cons]
    have hwritten : (0 : Int) ≤ 91 := by decide
    exact ⟨⟨by decide, rfl, hwritten⟩, ⟨by decide, rfl, hwritten⟩, ⟨by decide, rfl, hwritten⟩,
      ⟨by decide, rfl, hwritten⟩, ⟨by decide, rfl, hwritten⟩, before_nil⟩
  have hticks : fivePasses.map Iteration.nowTick =
      [1000, 1025, 1050, 1075, 1100].map UInt32.ofNat := rfl
  have hlooks : [1000, 1025, 1050, 1075, 1100].IsChain fun a b => a ≤ b ∧ b ≤ a + 25 := by decide
  obtain ⟨hempty, -, -, -, -, -, hall⟩ :=
    backlog_sent_in_time 0 twoSamples hpasses hticks hlooks (by decide) (by decide)
  exact ⟨by decide, hempty, hall (by decide) (by decide)⟩

end LoraTask

end TfnAks.Uplink
