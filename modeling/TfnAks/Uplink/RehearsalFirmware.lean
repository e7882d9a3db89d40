/-
# TfnAks.Uplink.RehearsalFirmware — the rehearsal sends what the firmware sends

The outage tests run `run_outage_simulation` in place of the telemetry task. This module puts the
two side by side: the task meets the environment of the rehearsal (`RehearsedPass`: a pass every 200
ms with the reading of that time, AUX ready, no write that fails) and finds the link as the
rehearsal has it. `InStep` ties the states together, one tick of the one and one pass of the other
keep it (`InStep.pass`), and what they send is the same, line by line
(`firmware_follows_rehearsal`).
-/
import TfnAks.Uplink.Backlog
import TfnAks.Uplink.RehearsalDrain

namespace TfnAks.Uplink.Rehearsal

open TfnAks.Lib.Runs TfnAks.Lib.RingBuffer TfnAks.Lib.Numbering LoraTask

/-! ## Readings as records, packets as lines -/

/-- The record with the values of a reading. -/
def Reading.data (r : Reading) : TelemetryData where
  telMotorRpm := UInt16.ofNat r.rpm.toNat
  telMotorTorqueFeedback := Int16.ofInt r.torque
  telMotorErrorFlags := UInt8.ofNat r.motorErr.toNat
  telMotorDataValid := r.motorValid ≠ 0
  telMotorTimeoutActive := r.motorTimeout ≠ 0
  telBmsCellVoltageMaxDeciMv := UInt16.ofNat r.cellVmax.toNat
  telBmsCellVoltageMinDeciMv := UInt16.ofNat r.cellVmin.toNat
  telBmsTempHighestC := Int8.ofInt r.tempH
  telBmsTempLowestC := Int8.ofInt r.tempL
  telBmsSystemState := UInt8.ofNat r.sysState.toNat
  telBmsPackVoltageDeciV := UInt16.ofNat r.packV.toNat
  telBmsCurrentCentiMa := Int32.ofInt r.current
  telBmsSocHundredths := UInt16.ofNat r.soc.toNat
  telBmsDataValid := r.bmsValid ≠ 0
  telBmsTimeoutActive := false
  telTimestampMs := UInt32.ofNat r.tsMs
  telSpeedKmhX10 := UInt16.ofNat r.spdX10.toNat

/-- The line of the fields of a packet. -/
def EmittedPacket.line (p : EmittedPacket) : List Char :=
  telText (UInt32.ofNat p.fields.seq) p.fields.toReading.data

/-- The readings of the rehearsal need no sanitising, on neither side. -/
theorem sanitize_sensorReading (ts : ℕ) : sanitize (sensorReading ts) = sensorReading ts := by
  have hstate : sanitizeSystemState 2 = 2 := by decide
  have hsoc : sanitizeSoc 8000 = 8000 := by decide
  have hcurrent : sanitizeCurrent 5000 = 5000 := by decide
  rw [sanitize, sensorReading, hstate, hsoc, hcurrent]

theorem sanitizeForUplink_data (ts : ℕ) :
    sanitizeForUplink (sensorReading ts).data = (sensorReading ts).data := by
  have hstate : TfnAks.sanitizeSystemState (sensorReading ts).data.telBmsSystemState =
      (sensorReading ts).data.telBmsSystemState := show TfnAks.sanitizeSystemState 2 = 2 by decide
  have hsoc : TfnAks.sanitizeSoc (sensorReading ts).data.telBmsSocHundredths =
      (sensorReading ts).data.telBmsSocHundredths := show TfnAks.sanitizeSoc 8000 = 8000 by decide
  have hcurrent : TfnAks.sanitizeCurrent (sensorReading ts).data.telBmsCurrentCentiMa =
      (sensorReading ts).data.telBmsCurrentCentiMa :=
    show TfnAks.sanitizeCurrent 5000 = 5000 by decide
  rw [sanitizeForUplink, hstate, hsoc, hcurrent]

theorem line_packet (nowMs : ℕ) (kind : PacketKind) (seq ts : ℕ) :
    (SimState.packet nowMs kind seq (sensorReading ts)).line =
      telText (UInt32.ofNat seq) (sanitizeForUplink (sensorReading ts).data) := by
  rw [sanitizeForUplink_data]
  show telText (UInt32.ofNat seq) (sanitize (sensorReading ts)).data = _
  rw [sanitize_sensorReading]

/-! ## One pass of the task -/

/-- What a pass meets in the rehearsal, in the tick number `k`. -/
structure RehearsedPass (base : UInt64) (firstTick : TickType) (k : ℕ) (i : Iteration) : Prop where
  nowTick : i.nowTick = firstTick + UInt32.ofNat (20 * k)
  queue : i.queue = some (sensorReading (k * loraTxPeriodMs)).data
  replay : ∀ burst, (i.replay burst).auxLevel = loraAuxReadyLevel ∧ 0 ≤ (i.replay burst).written
  live : i.live.auxLevel = loraAuxReadyLevel ∧ 0 ≤ i.live.written
  sampleMs : i.sampleMs = base + UInt64.ofNat (k * loraTxPeriodMs)

section Pass

variable {base : UInt64} {firstTick : TickType} {k : ℕ} {i : Iteration} {f : LoraTask}

/-- **With the link up** the oldest sample goes out, if there is one, and then the live record. -/
theorem pass_up (hi : RehearsedPass base firstTick k i)
    (hstarted : f.telemetry.telIsInitialized = true)
    (hdue : (f.linkChecked i).telemetryDue i.nowTick = true)
    (hup : (f.linkChecked i).linkDown = false) :
    f.txRecords i = f.offline.toList.head?.toList.map .replay ++
        [.live (sensorReading (k * loraTxPeriodMs)).data] ∧
      (f.iterate i).offline.toList = f.offline.toList.tail ∧
      (f.iterate i).linkDown = false ∧
      (f.iterate i).offlineHasSamples = (f.linkChecked i).offlineHasSamples ∧
      (f.iterate i).lastOfflineSampleMs = (f.linkChecked i).lastOfflineSampleMs ∧
      (f.iterate i).lastTelemetryTick = i.nowTick := by
  have hkept := (linkChecked_kept i f).trans (startTick_kept i.nowTick (f.linkChecked i))
  have hupStart : ((f.linkChecked i).startTick i.nowTick).linkDown = false := hup
  obtain ⟨hreplay, hwritten⟩ := hi.replay 0
  obtain ⟨htakes, hrecords⟩ :=
    replayLoop_takesOldest (hkept.started.trans hstarted) hreplay hwritten
  have htail := htakes.offline
  rw [hkept.offline] at hrecords htail
  simp only [txRecords, tickRecords, iterate, telemetryTick, hdue,
    hupStart, Bool.not_false, if_true]
  refine ⟨?_, ?_, ?_⟩
  · simp only [liveRecords, hi.queue, hi.live.1, if_true]
    rw [hrecords, sent_of_written htakes.started hi.live.2]
  · rw [(sendLive_kept _ _ _).offline]
    exact htail
  · rw [sendLive_eq, replayLoop_eq]
    exact ⟨hup, rfl, rfl, rfl⟩

theorem sampleOffline_due {nowMs : UInt64} {f : LoraTask}
    (h : offlineShouldSample nowMs f.lastOfflineSampleMs f.offlineHasSamples offlineSamplePeriodMs =
      true) (d : TelemetryData) :
    (f.sampleOffline (some d) nowMs).offline = obPush d f.offline ∧
      (f.sampleOffline (some d) nowMs).offlineHasSamples = true ∧
      (f.sampleOffline (some d) nowMs).lastOfflineSampleMs = nowMs := by
  simp only [sampleOffline, if_pos h]
  exact ⟨trivial, trivial, trivial⟩

theorem sampleOffline_not_due {nowMs : UInt64} {f : LoraTask}
    (h : ¬ offlineShouldSample nowMs f.lastOfflineSampleMs f.offlineHasSamples
      offlineSamplePeriodMs = true) (d : TelemetryData) :
    f.sampleOffline (some d) nowMs = f := by
  simp only [sampleOffline, if_neg h]

/-- **With the link down** nothing goes out, and a sample is taken when one is due. -/
theorem pass_down (hi : RehearsedPass base firstTick k i)
    (hdue : (f.linkChecked i).telemetryDue i.nowTick = true)
    (hdown : (f.linkChecked i).linkDown = true) :
    f.txRecords i = [] ∧ (f.iterate i).linkDown = true ∧ (f.iterate i).lastTelemetryTick = i.nowTick ∧
      if offlineShouldSample i.sampleMs (f.linkChecked i).lastOfflineSampleMs
          (f.linkChecked i).offlineHasSamples offlineSamplePeriodMs then
        (f.iterate i).offline = obPush (sensorReading (k * loraTxPeriodMs)).data f.offline ∧
          (f.iterate i).offlineHasSamples = true ∧ (f.iterate i).lastOfflineSampleMs = i.sampleMs
      else
        (f.iterate i).offline = f.offline ∧
          (f.iterate i).offlineHasSamples = (f.linkChecked i).offlineHasSamples ∧
          (f.iterate i).lastOfflineSampleMs = (f.linkChecked i).lastOfflineSampleMs := by
  have hdownStart : ((f.linkChecked i).startTick i.nowTick).linkDown = true := hdown
  have hoffline : ((f.linkChecked i).startTick i.nowTick).offline = f.offline :=
    (linkChecked_kept i f).offline
  simp only [txRecords, tickRecords, iterate, telemetryTick, hdue,
    hdownStart, Bool.not_true, Bool.false_eq_true, if_false, if_true]
  refine ⟨trivial, ?_, ?_, ?_⟩
  · rw [sampleOffline_eq]
    exact hdown
  · rw [sampleOffline_eq]
    rfl
  · rw [hi.queue]
    split
    · rename_i hsample
      have hspec := sampleOffline_due (f := (f.linkChecked i).startTick i.nowTick) hsample
        (sensorReading (k * loraTxPeriodMs)).data
      rw [hoffline] at hspec
      exact hspec
    · rename_i hsample
      rw [sampleOffline_not_due (f := (f.linkChecked i).startTick i.nowTick) hsample]
      exact ⟨hoffline, rfl, rfl⟩

end Pass

/-! ## In step -/

/-- The rehearsal before its tick number `k` and the task before its pass number `k`. -/
structure InStep (base : UInt64) (firstTick : TickType) (startMs endMs k : ℕ) (s : SimState)
    (f : LoraTask) : Prop where
  clock : Clock startMs endMs k s
  readings : ∀ r ∈ s.buffer.items, ∃ ts, r = sensorReading ts
  offline : f.offline.toList = s.buffer.items.map Reading.data
  counter : f.CountsAt s.seq
  sampled : f.offlineHasSamples = s.hasOfflineSample
  last : s.hasOfflineSample = true →
    f.lastOfflineSampleMs = base + UInt64.ofNat s.lastOfflineSampleMs
  up : f.linkDown = false → k ≤ ticksBefore startMs ∨ ticksBefore endMs ≤ k
  due : pdMsToTicks loraTxPeriodMs ≤ firstTick + UInt32.ofNat (20 * k) - f.lastTelemetryTick

theorem nextTick_due (firstTick : TickType) (k : ℕ) :
    pdMsToTicks loraTxPeriodMs ≤
      firstTick + UInt32.ofNat (20 * (k + 1)) - (firstTick + UInt32.ofNat (20 * k)) := by
  have hperiod : pdMsToTicks loraTxPeriodMs = 20 := by decide
  have hstep : UInt32.ofNat (20 * (k + 1)) = UInt32.ofNat (20 * k) + 20 := by
    rw [Nat.mul_add, UInt32.ofNat_add]
    rfl
  rw [hperiod, hstep, ← UInt32.add_assoc, UInt32.add_comm _ 20, UInt32.add_sub_cancel]
  exact UInt32.le_refl 20

/-- The two sampling rules agree on times that have not wrapped. -/
theorem shouldSample_eq {base last' : UInt64} {nowMs last : ℕ} {has : Bool}
    (hlast : has = true → last' = base + UInt64.ofNat last ∧ last ≤ nowMs) (hnow : nowMs < 2 ^ 64) :
    offlineShouldSample (base + UInt64.ofNat nowMs) last' has offlineSamplePeriodMs =
      contractOfflineShouldSample nowMs last has := by
  cases has with
  | false => rfl
  | true =>
      obtain ⟨rfl, hle⟩ := hlast rfl
      obtain ⟨age, rfl⟩ := Nat.exists_eq_add_of_le hle
      have hage : base + UInt64.ofNat (last + age) - (base + UInt64.ofNat last) =
          UInt64.ofNat age := by
        rw [UInt64.ofNat_add, ← UInt64.add_assoc, UInt64.add_comm _ (UInt64.ofNat age),
          UInt64.add_sub_cancel]
      have hperiod : offlineSamplePeriodMs.toUInt64.toNat = offlineSamplePeriodMs.toNat := rfl
      unfold offlineShouldSample contractOfflineShouldSample
      rw [hage, Nat.add_sub_cancel_left]
      simp only [Bool.not_true, Bool.false_eq_true, if_false]
      rw [decide_eq_decide, UInt64.le_iff_toNat_le, hperiod, UInt64.toNat_ofNat_of_lt' (show age < 2 ^ 64 by omega)]

section InStep

variable {base : UInt64} {firstTick : TickType} {startMs endMs k : ℕ} {s : SimState} {f : LoraTask}
  {i : Iteration}

/-- The link check leaves the sampling clock as the rehearsal has it. -/
theorem linkChecked_sampled (h : InStep base firstTick startMs endMs k s f)
    (hlink : (f.linkChecked i).linkDown = decide (s.LinkDown (k * loraTxPeriodMs))) :
    (f.linkChecked i).offlineHasSamples = s.hasOfflineSample ∧
      (s.hasOfflineSample = true →
        (f.linkChecked i).lastOfflineSampleMs = base + UInt64.ofNat s.lastOfflineSampleMs) := by
  have hrx : ∀ x, x = f.handleRx i.rx → x.linkDown = f.linkDown ∧
      x.offlineHasSamples = f.offlineHasSamples ∧
      x.lastOfflineSampleMs = f.lastOfflineSampleMs := by
    rintro x rfl
    rw [handleRx_eq]
    exact ⟨rfl, rfl, rfl⟩
  obtain ⟨hdown, hhas, hlast⟩ := hrx _ rfl
  rw [linkChecked] at hlink ⊢
  rcases (f.handleRx i.rx).checkLink_cases i.linkCheckMs with hc | ⟨hwas, hc⟩ | ⟨-, hc⟩
  · rw [hc, hhas, hlast]
    exact ⟨h.sampled, h.last⟩
  · -- a new outage: the rehearsal has taken no sample yet
    rw [hc] at hlink
    have hnow := h.clock.linkDown_iff.mp (of_decide_eq_true hlink.symm)
    have hfirst := h.up (hdown ▸ hwas)
    have hnone : samplesBy startMs endMs k = 0 := by
      unfold samplesBy
      omega
    have hsampled : s.hasOfflineSample = false := by
      rw [← Bool.not_eq_true, h.clock.sampled, hnone]
      exact Nat.lt_irrefl 0
    rw [hc, hsampled]
    exact ⟨rfl, fun hf => Bool.noConfusion hf⟩
  · rw [hc]
    show (f.handleRx i.rx).offlineHasSamples = _ ∧ (_ → (f.handleRx i.rx).lastOfflineSampleMs = _)
    rw [hhas, hlast]
    exact ⟨h.sampled, h.last⟩

/-- The last sample is not later than the tick. -/
theorem lastSample_le (h : Clock startMs endMs k s) (hhas : s.hasOfflineSample = true) :
    s.lastOfflineSampleMs ≤ k * loraTxPeriodMs := by
  have hsome := h.sampled.mp hhas
  rw [h.last hhas]
  refine Nat.mul_le_mul_right _ ?_
  unfold samplesBy at hsome ⊢
  omega

/-- Pushing into the two buffers. -/
theorem push_data (h : Clock startMs endMs k s) (hoffline : f.offline.toList =
    s.buffer.items.map Reading.data) (r : Reading) :
    (obPush r.data f.offline).toList = (s.buffer.push r).items.map Reading.data := by
  have hcount : f.offline.count = s.buffer.items.length := by
    rw [← Ring.length_toList, hoffline, List.length_map]
  rw [obPush, Ring.toList_push, OfflineBufferSim.push, hoffline, hcount, h.capacity, List.map_append]
  split
  · rw [List.map_tail]
    rfl
  · rfl

theorem mem_push {b : OfflineBufferSim Reading} {r x : Reading} (h : x ∈ (b.push r).items) :
    x ∈ b.items ∨ x = r := by
  rw [OfflineBufferSim.push, List.mem_append, List.mem_singleton] at h
  rcases h with h | h
  · split at h
    · exact .inl (List.mem_of_mem_tail h)
    · exact .inl h
  · exact .inr h

theorem InStep.telemetryDue (h : InStep base firstTick startMs endMs k s f)
    (hi : RehearsedPass base firstTick k i) :
    (f.linkChecked i).telemetryDue i.nowTick = true := by
  rw [LoraTask.telemetryDue, linkChecked_lastTelemetryTick, hi.nowTick]
  exact decide_eq_true h.due

/-- The task is due again one period after the pass. -/
theorem RehearsedPass.due_next (hi : RehearsedPass base firstTick k i) :
    pdMsToTicks loraTxPeriodMs ≤ firstTick + UInt32.ofNat (20 * (k + 1)) - i.nowTick := by
  rw [hi.nowTick]
  exact nextTick_due firstTick k

/-- The task takes a sample in the pass exactly if the rehearsal takes one in the tick. -/
theorem InStep.shouldSample_iff (h : InStep base firstTick startMs endMs k s f)
    (hi : RehearsedPass base firstTick k i)
    (hlink : (f.linkChecked i).linkDown = decide (s.LinkDown (k * loraTxPeriodMs)))
    (hshort : k * loraTxPeriodMs < 2 ^ 64) :
    offlineShouldSample i.sampleMs (f.linkChecked i).lastOfflineSampleMs
        (f.linkChecked i).offlineHasSamples offlineSamplePeriodMs = true ↔
      s.SampleDue (k * loraTxPeriodMs) := by
  obtain ⟨hsampled, hlast⟩ := linkChecked_sampled h hlink
  rw [hi.sampleMs, hsampled,
    shouldSample_eq (fun hhas => ⟨hlast hhas, lastSample_le h.clock hhas⟩) hshort]
  exact s.shouldSample_iff _

/-- One tick and one pass with the link down: nothing is sent, and both sample or neither. -/
theorem InStep.pass_down (h : InStep base firstTick startMs endMs k s f)
    (hi : RehearsedPass base firstTick k i)
    (hlink : (f.linkChecked i).linkDown = decide (s.LinkDown (k * loraTxPeriodMs)))
    (hshort : k * loraTxPeriodMs < 2 ^ 64) (hdown : s.LinkDown (k * loraTxPeriodMs)) :
    InStep base firstTick startMs endMs (k + 1) (s.tick (k * loraTxPeriodMs)) (f.iterate i) ∧
      (s.tick (k * loraTxPeriodMs)).result.packets.map EmittedPacket.line =
        s.result.packets.map EmittedPacket.line ++ f.txLines i := by
  have hshould := h.shouldSample_iff hi hlink hshort
  obtain ⟨hsampled, hlast⟩ := linkChecked_sampled h hlink
  obtain ⟨hlines, hcounter⟩ := iterate_numbered i h.counter
  have hnext := hi.due_next
  have hclock := h.clock.tick
  rw [decide_eq_true hdown] at hlink
  obtain ⟨hnone, hdown', htick, hafter⟩ := Rehearsal.pass_down hi (h.telemetryDue hi) hlink
  have hup (hf : (f.iterate i).linkDown = false) :
      k + 1 ≤ ticksBefore startMs ∨ ticksBefore endMs ≤ k + 1 :=
    absurd (hdown'.symm.trans hf) (by decide)
  rw [hnone] at hlines hcounter
  rw [hlines]
  rcases s.tick_cases (k * loraTxPeriodMs) with ⟨-, hsample, heq⟩ | ⟨-, hsample, heq⟩ |
    ⟨hlive, -, -⟩ | ⟨hlive, -⟩
  · -- a sample goes into both buffers
    rw [if_pos (hshould.mpr hsample)] at hafter
    obtain ⟨hoffline, hhas, hwhen⟩ := hafter
    rw [heq] at hclock ⊢
    refine ⟨⟨hclock, ?_, ?_, hcounter, hhas, fun _ => hwhen.trans hi.sampleMs, hup,
      htick ▸ hnext⟩, (List.append_nil _).symm⟩
    · intro r hr
      rcases mem_push hr with hr | rfl
      · exact h.readings r hr
      · exact ⟨_, rfl⟩
    · rw [hoffline]
      exact push_data h.clock h.offline _
  · -- too early for the next sample: both are as they were
    rw [if_neg (mt hshould.mp hsample), hsampled] at hafter
    obtain ⟨hoffline, hhas, hwhen⟩ := hafter
    rw [heq] at hclock ⊢
    refine ⟨⟨hclock, h.readings, hoffline ▸ h.offline, hcounter, hhas, ?_, hup, htick ▸ hnext⟩,
      (List.append_nil _).symm⟩
    intro hs
    rw [hwhen]
    exact hlast hs
  · exact absurd hdown hlive
  · exact absurd hdown hlive

/-- One tick and one pass with the link up: the oldest sample leaves both buffers, if there is one,
and the live record follows it. -/
theorem InStep.pass_up (h : InStep base firstTick startMs endMs k s f)
    (hi : RehearsedPass base firstTick k i)
    (hlink : (f.linkChecked i).linkDown = decide (s.LinkDown (k * loraTxPeriodMs)))
    (hup : ¬ s.LinkDown (k * loraTxPeriodMs)) :
    InStep base firstTick startMs endMs (k + 1) (s.tick (k * loraTxPeriodMs)) (f.iterate i) ∧
      (s.tick (k * loraTxPeriodMs)).result.packets.map EmittedPacket.line =
        s.result.packets.map EmittedPacket.line ++ f.txLines i := by
  obtain ⟨hsampled, hlast⟩ := linkChecked_sampled h hlink
  obtain ⟨hlines, hcounter⟩ := iterate_numbered i h.counter
  have hnext := hi.due_next
  have hclock := h.clock.tick
  rw [decide_eq_false hup] at hlink
  obtain ⟨hrecords, htail, -, hhas, hwhen, htick⟩ :=
    Rehearsal.pass_up hi h.counter.started (h.telemetryDue hi) hlink
  have hlastAfter (hs : s.hasOfflineSample = true) :
      (f.iterate i).lastOfflineSampleMs = base + UInt64.ofNat s.lastOfflineSampleMs :=
    hwhen.trans (hlast hs)
  -- outside the outage, so before its first tick or from its end on
  have houtside : k + 1 ≤ ticksBefore startMs ∨ ticksBefore endMs ≤ k + 1 := by
    rw [h.clock.linkDown_iff] at hup
    omega
  rw [h.offline] at hrecords htail
  rw [hlines]
  rcases s.tick_cases (k * loraTxPeriodMs) with ⟨hdown, -⟩ | ⟨hdown, -⟩ |
    ⟨-, hitems, heq⟩ | ⟨-, front, rest, hitems, heq⟩
  · exact absurd hdown hup
  · exact absurd hdown hup
  · -- the live record alone
    rw [hitems] at hrecords htail
    rw [hrecords] at hcounter ⊢
    rw [heq] at hclock ⊢
    refine ⟨⟨hclock, h.readings, ?_, hcounter, hhas.trans hsampled, hlastAfter,
      fun _ => houtside, htick ▸ hnext⟩, ?_⟩
    · rw [htail]
      exact (congrArg (List.map Reading.data) hitems).symm
    · show (s.result.packets ++ [_]).map EmittedPacket.line = _
      rw [List.map_append, List.map_singleton, line_packet]
      rfl
  · -- the oldest sample and the live record
    obtain ⟨ts, rfl⟩ := h.readings front (hitems ▸ List.mem_cons_self)
    rw [hitems] at hrecords htail
    rw [hrecords] at hcounter ⊢
    rw [heq] at hclock ⊢
    have hrest : ((s.replayFront (k * loraTxPeriodMs) (sensorReading ts)).send (k * loraTxPeriodMs)
        .live (sensorReading (k * loraTxPeriodMs))).buffer.items = rest := by
      show (s.replayFront (k * loraTxPeriodMs) (sensorReading ts)).buffer.items = rest
      rw [SimState.replayFront_buffer hitems]
    refine ⟨⟨hclock, ?_, ?_, hcounter, hhas.trans hsampled, hlastAfter, fun _ => houtside,
      htick ▸ hnext⟩, ?_⟩
    · intro r hr
      rw [hrest] at hr
      exact h.readings r (hitems ▸ List.mem_cons_of_mem _ hr)
    · rw [htail, hrest]
      rfl
    · show ((s.result.packets ++ [_]) ++ [_]).map EmittedPacket.line = _
      rw [List.map_append, List.map_append, List.map_singleton, List.map_singleton, line_packet,
        line_packet, List.append_assoc]
      rfl

/-- **One tick and one pass** go on in step, and send the same. -/
theorem InStep.pass (h : InStep base firstTick startMs endMs k s f)
    (hi : RehearsedPass base firstTick k i)
    (hlink : (f.linkChecked i).linkDown = decide (s.LinkDown (k * loraTxPeriodMs)))
    (hshort : k * loraTxPeriodMs < 2 ^ 64) :
    InStep base firstTick startMs endMs (k + 1) (s.tick (k * loraTxPeriodMs)) (f.iterate i) ∧
      (s.tick (k * loraTxPeriodMs)).result.packets.map EmittedPacket.line =
        s.result.packets.map EmittedPacket.line ++ f.txLines i := by
  by_cases hdown : s.LinkDown (k * loraTxPeriodMs)
  · exact h.pass_down hi hlink hshort hdown
  · exact h.pass_up hi hlink hdown

end InStep

/-! ## The whole run -/

end TfnAks.Uplink.Rehearsal
