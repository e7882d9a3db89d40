/-
# TfnAks.Uplink.RehearsalDrain — when the outage rehearsal drains its buffer

What the three checks of the 60-second test ask of a rehearsal (`Rehearsed`), for all durations. In
ticks of 200 ms: the outage takes every fifth tick as a sample, and each tick after it replays one.
The clock of the loop is followed by one invariant (`Clock`), what is numbered, buffered and covered
by one each, and the run ends with an empty buffer exactly when the time after the outage has as
many ticks as the outage has samples.

The default for that time rounds the outage down to whole seconds and adds half. From two seconds on
this is enough; for a shorter outage it depends on how the ticks fall (`EnoughPostTicks`).
-/
import Mathlib.Data.Finset.Sort
import TfnAks.Lib.Runs
import TfnAks.Lib.SparseSampling
import TfnAks.Uplink.OutageRehearsal

namespace TfnAks.Uplink.Rehearsal

open TfnAks.Lib.Runs TfnAks.Lib.SparseSampling

/-! ## What is asked of a rehearsal -/

namespace SimResult

/-- The readings sent as replays, in order. -/
def replays (r : SimResult) : List Reading :=
  (r.packets.filter fun p => p.kind = .replay).map fun p => p.fields.toReading

/-- The set of emitted `ts_ms`. -/
def emittedTs (r : SimResult) : Finset ℕ := (r.packets.map fun p => p.fields.tsMs).toFinset

/-- After the outage the buffered samples are replayed, each once and in order; all packets are
numbered from 0; no two neighbours of the sorted `ts_ms` are more than 5 s apart. -/
structure Rehearsed (r : SimResult) : Prop where
  replays : r.replays = r.bufferedOutageTs.map fun ts => sanitize (sensorReading ts)
  after : ∀ p ∈ r.packets, p.kind = .replay → r.outageEndMs ≤ p.tickNowMs
  numbered : r.packets.map (fun p => p.fields.seq) = List.range r.packets.length
  gaps : r.emittedTs.sort.IsChain fun a b => b ≤ a + 5000

end SimResult

/-- The number of ticks at times below `ms`. -/
def ticksBefore (ms : ℕ) : ℕ := (ms + loraTxPeriodMs - 1) / loraTxPeriodMs

/-- The number of ticks from `startMs` on and before `endMs`. -/
def ticksIn (startMs endMs : ℕ) : ℕ := ticksBefore endMs - ticksBefore startMs

/-- An outage of two seconds or more; or of one second or more, with at most five ticks in it or two
in the 300 ms behind it; or one that no tick falls into. -/
def EnoughPostTicks (preLiveMs outageMs : ℕ) : Prop :=
  let endMs := preLiveMs + outageMs
  2000 ≤ outageMs ∨
    (1000 ≤ outageMs ∧ (ticksIn preLiveMs endMs ≤ 5 ∨ ticksIn endMs (endMs + 300) = 2)) ∨
    ticksIn preLiveMs endMs = 0

instance (preLiveMs outageMs : ℕ) : Decidable (EnoughPostTicks preLiveMs outageMs) :=
  inferInstanceAs (Decidable (_ ∨ _ ∨ _))

/-! ## One tick -/

namespace SimState

/-- A sample is due in this tick. -/
def SampleDue (nowMs : ℕ) (s : SimState) : Prop :=
  s.hasOfflineSample = true → s.lastOfflineSampleMs + 1000 ≤ nowMs

theorem shouldSample_iff (nowMs : ℕ) (s : SimState) :
    contractOfflineShouldSample nowMs s.lastOfflineSampleMs s.hasOfflineSample = true ↔
      s.SampleDue nowMs := by
  have hperiod : offlineSamplePeriodMs.toNat = 1000 := rfl
  unfold contractOfflineShouldSample SampleDue
  rw [hperiod]
  cases s.hasOfflineSample with
  | false => simp
  | true =>
      simp only [Bool.not_true, Bool.false_eq_true, ↓reduceIte, decide_eq_true_eq, true_imp_iff]
      omega

/-- **What a tick does.** With the link down it takes a sample or nothing; with the link up it
replays the front of the buffer, if there is one, and sends the live packet. -/
theorem tick_cases (nowMs : ℕ) (s : SimState) :
    (s.LinkDown nowMs ∧ s.SampleDue nowMs ∧ s.tick nowMs = s.takeSample nowMs) ∨
    (s.LinkDown nowMs ∧ ¬ s.SampleDue nowMs ∧ s.tick nowMs = s) ∨
    (¬ s.LinkDown nowMs ∧ s.buffer.items = [] ∧
      s.tick nowMs = s.send nowMs .live (sensorReading nowMs)) ∨
    (¬ s.LinkDown nowMs ∧ ∃ front rest, s.buffer.items = front :: rest ∧
      s.tick nowMs = (s.replayFront nowMs front).send nowMs .live (sensorReading nowMs)) := by
  by_cases hdown : s.LinkDown nowMs
  · have htick : s.tick nowMs = s.offlineTick nowMs := if_neg (not_not.mpr hdown)
    by_cases hdue : s.SampleDue nowMs
    · refine .inl ⟨hdown, hdue, ?_⟩
      rw [htick, offlineTick, if_pos ((shouldSample_iff nowMs s).mpr hdue)]
    · refine .inr (.inl ⟨hdown, hdue, ?_⟩)
      rw [htick, offlineTick, if_neg (mt (shouldSample_iff nowMs s).mp hdue)]
  · have htick : s.tick nowMs = s.normalTick nowMs := if_pos hdown
    have hburst : replayBurstPerTick = 1 := rfl
    rw [htick, normalTick, hburst]
    cases hitems : s.buffer.items with
    | nil =>
        refine .inr (.inr (.inl ⟨hdown, rfl, ?_⟩))
        rw [replayBurst, OfflineBufferSim.peek, hitems]
        rfl
    | cons front rest =>
        refine .inr (.inr (.inr ⟨hdown, front, rest, rfl, ?_⟩))
        rw [replayBurst, OfflineBufferSim.peek, hitems]
        rfl

theorem replayFront_buffer {s : SimState} {front : Reading} {rest : List Reading}
    (h : s.buffer.items = front :: rest) (nowMs : ℕ) :
    (s.replayFront nowMs front).buffer = { s.buffer with items := rest } := by
  show s.buffer.dropFront.1 = _
  rw [OfflineBufferSim.dropFront, h]
  rfl

end SimState

/-! ## The clock of the loop -/

/-- The state before tick number `k`. -/
def SimState.before (preLiveMs outageMs k : ℕ) : SimState :=
  exec (fun s i => s.tick (i * loraTxPeriodMs)) (.start preLiveMs outageMs) (List.range k)

theorem le_tick_iff (ms k : ℕ) : ms ≤ k * loraTxPeriodMs ↔ ticksBefore ms ≤ k := by
  unfold ticksBefore loraTxPeriodMs
  omega

/-- **The loop in ticks.** -/
theorem loop_eq (totalMs k : ℕ) (s : SimState) :
    s.loop totalMs (k * loraTxPeriodMs) =
      exec (fun s i => s.tick (i * loraTxPeriodMs)) s
        (List.range' k (ticksBefore totalMs - k)) := by
  generalize hn : ticksBefore totalMs - k = n
  induction n generalizing k s with
  | zero =>
      have hdone : ¬ k * loraTxPeriodMs < totalMs := by
        rw [not_lt, le_tick_iff]
        omega
      rw [SimState.loop, if_neg hdone]
      rfl
  | succ n ih =>
      have hmore : k * loraTxPeriodMs < totalMs := by
        rw [← not_le, le_tick_iff]
        omega
      rw [SimState.loop, if_pos hmore, ← Nat.succ_mul, ih (k + 1) _ (by omega), List.range'_succ,
        exec_cons]

theorem runOutageSimulation_eq (preLiveMs outageMs : ℕ) (postLiveMs : Option ℕ) :
    runOutageSimulation preLiveMs outageMs postLiveMs =
      (SimState.before preLiveMs outageMs (ticksBefore
        (preLiveMs + outageMs + postLiveMs.getD (defaultPostLiveMs outageMs)))).result := by
  have hloop := loop_eq (preLiveMs + outageMs + postLiveMs.getD (defaultPostLiveMs outageMs)) 0
    (.start preLiveMs outageMs)
  rw [Nat.zero_mul, Nat.sub_zero, ← List.range_eq_range'] at hloop
  exact congrArg SimState.result hloop

/-- The number of samples taken before tick number `k`: every fifth tick of the outage. -/
def samplesBy (startMs endMs k : ℕ) : ℕ :=
  (min k (ticksBefore endMs) - ticksBefore startMs + 4) / 5

/-- The state before tick number `k`, as far as the link, the samples and the length of the buffer
are concerned. A full buffer stays full while the outage goes on. -/
structure Clock (startMs endMs k : ℕ) (s : SimState) : Prop where
  outageStart : s.result.outageStartMs = startMs
  outageEnd : s.result.outageEndMs = endMs
  capacity : s.buffer.capacity = obCapacity
  samples : s.result.bufferedOutageTs.length = samplesBy startMs endMs k
  sampled : s.hasOfflineSample = true ↔ 0 < samplesBy startMs endMs k
  last : s.hasOfflineSample = true →
    s.lastOfflineSampleMs =
      (ticksBefore startMs + 5 * (samplesBy startMs endMs k - 1)) * loraTxPeriodMs
  backlog : s.buffer.items.length =
    min obCapacity (samplesBy startMs endMs k) - (k - ticksBefore endMs)

namespace Clock

variable {startMs endMs k : ℕ} {s : SimState}

theorem linkDown_iff (h : Clock startMs endMs k s) :
    s.LinkDown (k * loraTxPeriodMs) ↔ ticksBefore startMs ≤ k ∧ k < ticksBefore endMs := by
  rw [SimState.LinkDown, h.outageStart, h.outageEnd, le_tick_iff, ← not_le, le_tick_iff, not_le]

/-- In an outage a sample is due in every fifth tick. -/
theorem sampleDue_iff (h : Clock startMs endMs k s) (hdown : s.LinkDown (k * loraTxPeriodMs)) :
    s.SampleDue (k * loraTxPeriodMs) ↔
      samplesBy startMs endMs (k + 1) = samplesBy startMs endMs k + 1 := by
  rw [h.linkDown_iff] at hdown
  have hsampled := h.sampled
  have hlast := h.last
  by_cases hhas : s.hasOfflineSample = true
  · rw [iff_true_left hhas] at hsampled
    rw [SimState.SampleDue, imp_iff_right hhas, hlast hhas]
    unfold samplesBy loraTxPeriodMs at *
    omega
  · rw [iff_false_left hhas] at hsampled
    refine iff_of_true (fun hyes => absurd hyes hhas) ?_
    unfold samplesBy at *
    omega

/-- A tick without a sample leaves their number. -/
theorem samplesBy_of_up (h : Clock startMs endMs k s) (hup : ¬ s.LinkDown (k * loraTxPeriodMs)) :
    samplesBy startMs endMs (k + 1) = samplesBy startMs endMs k := by
  rw [h.linkDown_iff] at hup
  unfold samplesBy
  omega

theorem samplesBy_of_not_due (h : Clock startMs endMs k s) (hdown : s.LinkDown (k * loraTxPeriodMs))
    (hdue : ¬ s.SampleDue (k * loraTxPeriodMs)) :
    samplesBy startMs endMs (k + 1) = samplesBy startMs endMs k := by
  rw [h.sampleDue_iff hdown] at hdue
  unfold samplesBy at *
  omega

theorem start (startMs outageMs : ℕ) :
    Clock startMs (startMs + outageMs) 0 (.start startMs outageMs) := by
  have hnone : samplesBy startMs (startMs + outageMs) 0 = 0 := by
    unfold samplesBy
    omega
  refine ⟨rfl, rfl, rfl, hnone.symm, ?_, ?_, ?_⟩
  · rw [hnone]
    exact iff_of_false Bool.false_ne_true (lt_irrefl 0)
  · intro hhas
    exact absurd hhas Bool.false_ne_true
  · rw [hnone]
    exact (Nat.zero_sub _).symm

theorem takeSample (h : Clock startMs endMs k s) (hdown : s.LinkDown (k * loraTxPeriodMs))
    (hdue : s.SampleDue (k * loraTxPeriodMs)) :
    Clock startMs endMs (k + 1) (s.takeSample (k * loraTxPeriodMs)) := by
  have hmore := (h.sampleDue_iff hdown).mp hdue
  have htick := h.linkDown_iff.mp hdown
  refine ⟨h.outageStart, h.outageEnd, h.capacity, ?_, ?_, ?_, ?_⟩
  · show (s.result.bufferedOutageTs ++ [_]).length = _
    rw [List.length_append, h.samples, hmore, List.length_singleton]
  · rw [hmore]
    exact iff_of_true rfl (Nat.succ_pos _)
  · intro _
    show k * loraTxPeriodMs = _
    rw [hmore]
    congr 1
    unfold samplesBy at *
    omega
  · -- a full buffer stays full
    show ((if s.buffer.items.length = s.buffer.capacity then s.buffer.items.tail
      else s.buffer.items) ++ [_]).length = _
    have hbacklog := h.backlog
    have hroom : 0 < obCapacity := by decide
    rw [List.length_append, List.length_singleton, h.capacity, hmore]
    split
    · rw [List.length_tail]
      omega
    · omega

theorem noSample (h : Clock startMs endMs k s) (hdown : s.LinkDown (k * loraTxPeriodMs))
    (hdue : ¬ s.SampleDue (k * loraTxPeriodMs)) : Clock startMs endMs (k + 1) s := by
  have hsame := h.samplesBy_of_not_due hdown hdue
  have htick := h.linkDown_iff.mp hdown
  have hbacklog := h.backlog
  refine ⟨h.outageStart, h.outageEnd, h.capacity, ?_, ?_, ?_, ?_⟩
  · rw [hsame, h.samples]
  · rw [hsame, h.sampled]
  · rw [hsame]
    exact h.last
  · rw [hsame]
    omega

/-- With the link up a tick makes the buffer one shorter, an empty one stays empty. -/
theorem linkUp (h : Clock startMs endMs k s) (hup : ¬ s.LinkDown (k * loraTxPeriodMs)) {s' : SimState}
    (hresult : s'.result.outageStartMs = s.result.outageStartMs ∧
      s'.result.outageEndMs = s.result.outageEndMs ∧
      s'.result.bufferedOutageTs = s.result.bufferedOutageTs)
    (hcapacity : s'.buffer.capacity = s.buffer.capacity)
    (hitems : s'.buffer.items.length = s.buffer.items.length - 1)
    (hlast : s'.hasOfflineSample = s.hasOfflineSample ∧
      s'.lastOfflineSampleMs = s.lastOfflineSampleMs) :
    Clock startMs endMs (k + 1) s' := by
  have hsame := h.samplesBy_of_up hup
  obtain ⟨hstart, hend, hbuffered⟩ := hresult
  refine ⟨hstart.trans h.outageStart, hend.trans h.outageEnd, hcapacity.trans h.capacity, ?_, ?_, ?_,
    ?_⟩
  · rw [hsame, hbuffered, h.samples]
  · rw [hsame, hlast.1, h.sampled]
  · rw [hsame, hlast.1, hlast.2]
    exact h.last
  · rw [h.linkDown_iff] at hup
    -- the outage has not begun, and there are no samples, or it is over
    have hbefore : k < ticksBefore endMs → samplesBy startMs endMs k = 0 := by
      intro hk
      unfold samplesBy
      omega
    rw [hsame, hitems, h.backlog]
    generalize samplesBy startMs endMs k = n at hbefore
    omega

/-- **The step lemma of the clock.** -/
theorem tick (h : Clock startMs endMs k s) :
    Clock startMs endMs (k + 1) (s.tick (k * loraTxPeriodMs)) := by
  rcases s.tick_cases (k * loraTxPeriodMs) with ⟨hdown, hdue, heq⟩ | ⟨hdown, hdue, heq⟩ |
    ⟨hup, hitems, heq⟩ | ⟨hup, front, rest, hitems, heq⟩
  · rw [heq]
    exact h.takeSample hdown hdue
  · rw [heq]
    exact h.noSample hdown hdue
  · rw [heq]
    refine h.linkUp hup ⟨rfl, rfl, rfl⟩ rfl ?_ ⟨rfl, rfl⟩
    show s.buffer.items.length = s.buffer.items.length - 1
    rw [hitems]
    rfl
  · rw [heq]
    refine h.linkUp hup ⟨rfl, rfl, rfl⟩ ?_ ?_ ⟨rfl, rfl⟩
    · show (s.replayFront _ front).buffer.capacity = _
      rw [SimState.replayFront_buffer hitems]
    · show (s.replayFront _ front).buffer.items.length = _
      rw [SimState.replayFront_buffer hitems, hitems]
      rfl

theorem before (preLiveMs outageMs k : ℕ) :
    Clock preLiveMs (preLiveMs + outageMs) k (.before preLiveMs outageMs k) :=
  exec_range_invariant (fun _ _ h => h.tick) (start preLiveMs outageMs) k

end Clock

/-! ## Numbers -/

namespace SimState

/-- The packets are numbered from 0, and `seq` is the next number. -/
def Numbered (s : SimState) : Prop :=
  s.result.packets.map (fun p => p.fields.seq) = List.range s.seq

theorem Numbered.send {s : SimState} (h : s.Numbered) (nowMs : ℕ) (kind : PacketKind)
    (reading : Reading) : (s.send nowMs kind reading).Numbered := by
  show (s.result.packets ++ [_]).map _ = List.range (s.seq + 1)
  rw [List.map_append, h, List.range_succ]
  rfl

theorem Numbered.tick {s : SimState} (h : s.Numbered) (nowMs : ℕ) : (s.tick nowMs).Numbered := by
  rcases s.tick_cases nowMs with ⟨-, -, heq⟩ | ⟨-, -, heq⟩ | ⟨-, -, heq⟩ | ⟨-, front, rest, -, heq⟩
  · rw [heq]
    exact h
  · rw [heq]
    exact h
  · rw [heq]
    exact h.send nowMs .live _
  · rw [heq]
    have hreplay : (s.replayFront nowMs front).Numbered := h.send nowMs .replay front
    exact hreplay.send nowMs .live _

/-! ## Replays -/

/-- What is replayed and what waits in the buffer make up what was buffered, in order. -/
def Balanced (s : SimState) : Prop :=
  s.result.replays ++ s.buffer.items.map sanitize =
    s.result.bufferedOutageTs.map fun ts => sanitize (sensorReading ts)

theorem replays_send_live (nowMs : ℕ) (reading : Reading) (s : SimState) :
    (s.send nowMs .live reading).result.replays = s.result.replays := by
  show ((s.result.packets ++ [_]).filter _).map _ = _
  rw [List.filter_append, List.map_append]
  exact List.append_nil _

theorem replays_replayFront (nowMs : ℕ) (front : Reading) (s : SimState) :
    (s.replayFront nowMs front).result.replays = s.result.replays ++ [sanitize front] := by
  show ((s.result.packets ++ [_]).filter _).map _ = _
  rw [List.filter_append, List.map_append]
  rfl

theorem Balanced.takeSample {s : SimState} (h : s.Balanced)
    (hroom : s.buffer.items.length < s.buffer.capacity) (nowMs : ℕ) :
    (s.takeSample nowMs).Balanced := by
  have hitems : (s.takeSample nowMs).buffer.items = s.buffer.items ++ [sensorReading nowMs] := by
    show (if s.buffer.items.length = s.buffer.capacity then _ else _) ++ _ = _
    rw [if_neg hroom.ne]
  show s.result.replays ++ (s.takeSample nowMs).buffer.items.map sanitize =
    (s.result.bufferedOutageTs ++ [nowMs]).map _
  rw [hitems, List.map_append, List.map_append, ← List.append_assoc, h]
  rfl

theorem Balanced.replayFront {s : SimState} (h : s.Balanced) {front : Reading}
    {rest : List Reading} (hitems : s.buffer.items = front :: rest) (nowMs : ℕ) :
    (s.replayFront nowMs front).Balanced := by
  unfold Balanced at h ⊢
  rw [replays_replayFront, replayFront_buffer hitems]
  rw [hitems, List.map_cons] at h
  show (s.result.replays ++ [sanitize front]) ++ rest.map sanitize =
    s.result.bufferedOutageTs.map _
  rw [List.append_assoc]
  exact h

theorem Balanced.sendLive {s : SimState} (h : s.Balanced) (nowMs : ℕ) (reading : Reading) :
    (s.send nowMs .live reading).Balanced := by
  unfold Balanced
  rw [replays_send_live]
  exact h

/-- Nothing leaves the balance while the samples fit into the buffer. -/
theorem Balanced.tick {startMs endMs k : ℕ} {s : SimState} (hclock : Clock startMs endMs k s)
    (hfits : samplesBy startMs endMs (k + 1) ≤ obCapacity) (h : s.Balanced) :
    (s.tick (k * loraTxPeriodMs)).Balanced := by
  rcases s.tick_cases (k * loraTxPeriodMs) with ⟨hdown, hdue, heq⟩ | ⟨-, -, heq⟩ | ⟨-, -, heq⟩ |
    ⟨-, front, rest, hitems, heq⟩
  · rw [heq]
    refine h.takeSample ?_ _
    have hmore := (hclock.sampleDue_iff hdown).mp hdue
    have hbacklog := hclock.backlog
    rw [hclock.capacity]
    omega
  · rw [heq]
    exact h
  · rw [heq]
    exact h.sendLive _ _
  · rw [heq]
    exact (h.replayFront hitems _).sendLive _ _

/-- Replays come after the outage. -/
def ReplaysAfter (endMs : ℕ) (s : SimState) : Prop :=
  ∀ p ∈ s.result.packets, p.kind = .replay → endMs ≤ p.tickNowMs

theorem ReplaysAfter.send {endMs : ℕ} {s : SimState} (h : s.ReplaysAfter endMs) {nowMs : ℕ}
    {kind : PacketKind} (reading : Reading) (hkind : kind = .replay → endMs ≤ nowMs) :
    (s.send nowMs kind reading).ReplaysAfter endMs := by
  intro p hp hreplay
  rcases List.mem_append.mp hp with hp | hp
  · exact h p hp hreplay
  · obtain rfl := List.mem_singleton.mp hp
    exact hkind hreplay

theorem ReplaysAfter.tick {startMs endMs k : ℕ} {s : SimState} (hclock : Clock startMs endMs k s)
    (h : s.ReplaysAfter endMs) : (s.tick (k * loraTxPeriodMs)).ReplaysAfter endMs := by
  rcases s.tick_cases (k * loraTxPeriodMs) with ⟨-, -, heq⟩ | ⟨-, -, heq⟩ | ⟨-, -, heq⟩ |
    ⟨hup, front, rest, hitems, heq⟩
  · rw [heq]
    exact h
  · rw [heq]
    exact h
  · rw [heq]
    exact h.send _ (by simp)
  · rw [heq]
    have hlive : PacketKind.live = .replay → endMs ≤ k * loraTxPeriodMs := by simp
    have hreplay : (s.replayFront (k * loraTxPeriodMs) front).ReplaysAfter endMs := by
      refine h.send front fun _ => ?_
      -- the buffer is filled in the outage only, so the outage is over
      have hbacklog := hclock.backlog
      rw [hitems, List.length_cons] at hbacklog
      rw [hclock.linkDown_iff] at hup
      rw [le_tick_iff]
      unfold samplesBy at hbacklog
      omega
    exact hreplay.send _ hlive

/-! ## The time line -/

/-- `ts` was emitted, or sampled in the outage. -/
def Known (s : SimState) (ts : ℕ) : Prop :=
  ts ∈ s.result.emittedTs ∨ ts ∈ s.result.bufferedOutageTs

/-- Every tick before number `k` has a known time not after it and less than a second before it, and
the known times are times of these ticks. -/
structure Covered (k : ℕ) (s : SimState) : Prop where
  cover : ∀ i < k, ∃ ts, s.Known ts ∧ ts ≤ i * loraTxPeriodMs ∧ i * loraTxPeriodMs < ts + 1000
  onTick : ∀ ts, s.Known ts → ∃ i < k, ts = i * loraTxPeriodMs
  last : s.hasOfflineSample = true → s.lastOfflineSampleMs ∈ s.result.bufferedOutageTs
  items : ∀ r ∈ s.buffer.items, r.tsMs ∈ s.result.bufferedOutageTs

theorem known_send {s : SimState} {nowMs : ℕ} {kind : PacketKind} {reading : Reading} {ts : ℕ} :
    (s.send nowMs kind reading).Known ts ↔ s.Known ts ∨ ts = reading.tsMs := by
  have hemitted : (s.send nowMs kind reading).result.emittedTs =
      s.result.emittedTs ∪ {reading.tsMs} := by
    show ((s.result.packets ++ [_]).map _).toFinset = _
    rw [List.map_append, List.toFinset_append]
    rfl
  unfold Known
  rw [hemitted, Finset.mem_union, Finset.mem_singleton]
  exact or_right_comm

theorem known_takeSample {s : SimState} {nowMs ts : ℕ} :
    (s.takeSample nowMs).Known ts ↔ s.Known ts ∨ ts = nowMs := by
  show ts ∈ s.result.emittedTs ∨ ts ∈ s.result.bufferedOutageTs ++ [nowMs] ↔ _
  rw [List.mem_append, List.mem_singleton, ← or_assoc]
  rfl

/-- One more tick, in which at most its own time becomes known. -/
theorem Covered.step {k : ℕ} {s s' : SimState} (h : Covered k s)
    (hknown : ∀ ts, s.Known ts → s'.Known ts)
    (hnew : ∀ ts, s'.Known ts → s.Known ts ∨ ts = k * loraTxPeriodMs)
    (hcover : ∃ ts, s'.Known ts ∧ ts ≤ k * loraTxPeriodMs ∧ k * loraTxPeriodMs < ts + 1000)
    (hlast : s'.hasOfflineSample = true → s'.lastOfflineSampleMs ∈ s'.result.bufferedOutageTs)
    (hitems : ∀ r ∈ s'.buffer.items, r.tsMs ∈ s'.result.bufferedOutageTs) : Covered (k + 1) s' := by
  refine ⟨?_, ?_, hlast, hitems⟩
  · intro i hi
    rcases Nat.lt_succ_iff_lt_or_eq.mp hi with hi | rfl
    · obtain ⟨ts, hts, hle, hlt⟩ := h.cover i hi
      exact ⟨ts, hknown ts hts, hle, hlt⟩
    · exact hcover
  · intro ts hts
    rcases hnew ts hts with hts | rfl
    · obtain ⟨i, hi, heq⟩ := h.onTick ts hts
      exact ⟨i, Nat.lt_succ_of_lt hi, heq⟩
    · exact ⟨k, Nat.lt_succ_self k, rfl⟩

theorem mem_takeSample_items {nowMs : ℕ} {s : SimState} {r : Reading}
    (h : r ∈ (s.takeSample nowMs).buffer.items) : r ∈ s.buffer.items ∨ r = sensorReading nowMs := by
  rcases List.mem_append.mp h with h | h
  · left
    split at h
    · exact List.mem_of_mem_tail h
    · exact h
  · exact .inr (List.mem_singleton.mp h)

theorem Covered.tick {k : ℕ} {s : SimState} (h : Covered k s) :
    Covered (k + 1) (s.tick (k * loraTxPeriodMs)) := by
  rcases s.tick_cases (k * loraTxPeriodMs) with ⟨-, -, heq⟩ | ⟨hdown, hdue, heq⟩ | ⟨-, -, heq⟩ |
    ⟨-, front, rest, hitems, heq⟩
  · rw [heq]
    refine h.step (fun ts hts => known_takeSample.mpr (.inl hts)) (fun ts => known_takeSample.mp)
      ⟨_, known_takeSample.mpr (.inr rfl), le_rfl, by omega⟩ ?_ ?_
    · intro _
      exact List.mem_append_right _ List.mem_cons_self
    · intro r hr
      rcases mem_takeSample_items hr with hr | rfl
      · exact List.mem_append_left _ (h.items r hr)
      · exact List.mem_append_right _ List.mem_cons_self
  · rw [heq]
    -- no sample is due, so the last one is less than a second old
    unfold SampleDue at hdue
    rw [Classical.not_imp] at hdue
    refine h.step (fun _ => id) (fun _ => .inl) ⟨s.lastOfflineSampleMs, .inr (h.last hdue.1), ?_, ?_⟩
      h.last h.items
    · obtain ⟨i, hi, hlast⟩ := h.onTick _ (.inr (h.last hdue.1))
      rw [hlast]
      exact Nat.mul_le_mul_right _ hi.le
    · omega
  · rw [heq]
    refine h.step (fun ts hts => known_send.mpr (.inl hts)) (fun ts => known_send.mp)
      ⟨_, known_send.mpr (.inr rfl), le_rfl, ?_⟩ h.last h.items
    exact Nat.lt_add_of_pos_right (by decide)
  · rw [heq]
    have hfront : s.Known front.tsMs := .inr (h.items front (by rw [hitems]; exact List.mem_cons_self))
    refine h.step (fun ts hts => known_send.mpr (.inl (known_send.mpr (.inl hts)))) ?_
      ⟨_, known_send.mpr (.inr rfl), le_rfl, ?_⟩ h.last ?_
    · intro ts hts
      rcases known_send.mp hts with hts | rfl
      · rcases known_send.mp hts with hts | rfl
        · exact .inl hts
        · exact .inl hfront
      · exact .inr rfl
    · exact Nat.lt_add_of_pos_right (by decide)
    · intro r hr
      refine h.items r ?_
      rw [hitems]
      replace hr : r ∈ (s.replayFront (k * loraTxPeriodMs) front).buffer.items := hr
      rw [replayFront_buffer hitems] at hr
      exact List.mem_cons_of_mem front hr

/-! ## A run -/

variable (preLiveMs outageMs k : ℕ)

theorem numbered_before : (before preLiveMs outageMs k).Numbered := by
  have hstep : ∀ (s : SimState) (i : ℕ), s.Numbered → (s.tick (i * loraTxPeriodMs)).Numbered :=
    fun s i h => h.tick _
  have hstart : (start preLiveMs outageMs).Numbered := rfl
  exact exec_invariant hstep hstart (List.range k)

theorem covered_before : Covered k (before preLiveMs outageMs k) := by
  refine exec_range_invariant (fun _ _ h => h.tick) ⟨?_, ?_, ?_, ?_⟩ k
  · intro i hi
    exact absurd hi (Nat.not_lt_zero i)
  · rintro ts (hts | hts) <;> exact absurd hts List.not_mem_nil
  · intro hhas
    exact absurd hhas Bool.false_ne_true
  · intro r hr
    exact absurd hr List.not_mem_nil

theorem replaysAfter_before :
    (before preLiveMs outageMs k).ReplaysAfter (preLiveMs + outageMs) := by
  have hstep : ∀ (i : ℕ) (s : SimState),
      Clock preLiveMs (preLiveMs + outageMs) i s ∧ s.ReplaysAfter (preLiveMs + outageMs) →
      Clock preLiveMs (preLiveMs + outageMs) (i + 1) (s.tick (i * loraTxPeriodMs)) ∧
        (s.tick (i * loraTxPeriodMs)).ReplaysAfter (preLiveMs + outageMs) :=
    fun i s h => ⟨h.1.tick, h.2.tick h.1⟩
  have hstart : (start preLiveMs outageMs).ReplaysAfter (preLiveMs + outageMs) := by
    intro p hp
    exact absurd hp List.not_mem_nil
  exact (exec_range_invariant hstep ⟨Clock.start preLiveMs outageMs, hstart⟩ k).2

theorem balanced_before (hfits : samplesBy preLiveMs (preLiveMs + outageMs) k ≤ obCapacity) :
    (before preLiveMs outageMs k).Balanced := by
  have hstep : ∀ (i : ℕ) (s : SimState),
      Clock preLiveMs (preLiveMs + outageMs) i s ∧
        (samplesBy preLiveMs (preLiveMs + outageMs) i ≤ obCapacity → s.Balanced) →
      Clock preLiveMs (preLiveMs + outageMs) (i + 1) (s.tick (i * loraTxPeriodMs)) ∧
        (samplesBy preLiveMs (preLiveMs + outageMs) (i + 1) ≤ obCapacity →
          (s.tick (i * loraTxPeriodMs)).Balanced) := by
    rintro i s ⟨hclock, h⟩
    refine ⟨hclock.tick, fun hfits => ?_⟩
    have hmono : samplesBy preLiveMs (preLiveMs + outageMs) i ≤
        samplesBy preLiveMs (preLiveMs + outageMs) (i + 1) := by
      unfold samplesBy
      omega
    exact (h (hmono.trans hfits)).tick hclock hfits
  have hstart : (start preLiveMs outageMs).Balanced := rfl
  exact (exec_range_invariant hstep ⟨Clock.start preLiveMs outageMs, fun _ => hstart⟩ k).2 hfits

/-- The samples that were replayed are emitted, so with an empty buffer every known time is. -/
theorem Known.emitted {s : SimState} (hbalanced : s.Balanced) (hempty : s.buffer.items = []) {ts : ℕ}
    (h : s.Known ts) : ts ∈ s.result.emittedTs := by
  rcases h with h | h
  · exact h
  · rw [Balanced, hempty, List.map_nil, List.append_nil] at hbalanced
    have hreplay : sanitize (sensorReading ts) ∈ s.result.replays := by
      rw [hbalanced]
      exact List.mem_map.mpr ⟨ts, h, rfl⟩
    obtain ⟨p, hp, hfields⟩ := List.mem_map.mp hreplay
    have hts : p.fields.tsMs = ts := congrArg Reading.tsMs hfields
    exact List.mem_toFinset.mpr (List.mem_map.mpr ⟨p, (List.mem_filter.mp hp).1, hts⟩)

/-- The time line has no hole of more than a second. -/
theorem gaps_of_covered {s : SimState} (hcovered : Covered k s) (hbalanced : s.Balanced)
    (hempty : s.buffer.items = []) :
    s.result.emittedTs.sort.IsChain fun a b => b ≤ a + 5000 := by
  refine isChain_of_no_hole (s.result.emittedTs.sortedLT_sort).pairwise ?_
  intro a ha b hb hwide
  rw [Finset.mem_sort] at ha hb
  obtain ⟨i, -, rfl⟩ := hcovered.onTick a (.inl ha)
  obtain ⟨j, hj, rfl⟩ := hcovered.onTick b (.inl hb)
  -- the tick a second after `a` comes before `b`
  unfold loraTxPeriodMs at *
  obtain ⟨ts, hts, hle, hlt⟩ := hcovered.cover (i + 5) (by omega)
  refine ⟨ts, (Finset.mem_sort _).mpr (hts.emitted hbalanced hempty), ?_, ?_⟩
  · unfold loraTxPeriodMs at *
    omega
  · unfold loraTxPeriodMs at *
    omega

/-- **A rehearsal is right exactly when it ends with an empty buffer.** -/
theorem rehearsed_iff (hfits : samplesBy preLiveMs (preLiveMs + outageMs) k ≤ obCapacity) :
    (before preLiveMs outageMs k).result.Rehearsed ↔
      (before preLiveMs outageMs k).buffer.items = [] := by
  have hbalanced := balanced_before preLiveMs outageMs k hfits
  constructor
  · intro h
    have hwaiting := hbalanced
    rw [Balanced, h.replays, List.append_right_eq_self] at hwaiting
    exact List.map_eq_nil_iff.mp hwaiting
  · intro hempty
    have hnumbered := numbered_before preLiveMs outageMs k
    refine ⟨?_, ?_, ?_, gaps_of_covered k (covered_before preLiveMs outageMs k) hbalanced hempty⟩
    · rw [Balanced, hempty, List.map_nil, List.append_nil] at hbalanced
      exact hbalanced
    · rw [(Clock.before preLiveMs outageMs k).outageEnd]
      exact replaysAfter_before preLiveMs outageMs k
    · have hlength := congrArg List.length hnumbered
      rw [List.length_map, List.length_range] at hlength
      rw [hlength]
      exact hnumbered

end SimState

/-! ## The default time after the outage -/

theorem defaultPostLiveMs_eq (outageMs : ℕ) : defaultPostLiveMs outageMs = outageMs / 1000 * 300 := by
  show (outageMs / 1000 + 1 - 1) / 1 * 200 * 3 / 2 = _
  omega

/-- The default leaves a tick for each sample exactly under the condition. -/
theorem samples_le_ticksIn_iff (preLiveMs outageMs : ℕ) :
    (ticksIn preLiveMs (preLiveMs + outageMs) + 4) / 5 ≤
        ticksIn (preLiveMs + outageMs) (preLiveMs + outageMs + defaultPostLiveMs outageMs) ↔
      EnoughPostTicks preLiveMs outageMs := by
  rw [defaultPostLiveMs_eq]
  unfold EnoughPostTicks
  dsimp only
  generalize hend : preLiveMs + outageMs = endMs
  rcases Nat.lt_or_ge outageMs 1000 with hshort | hlong
  · -- less than a second: there is no time after the outage
    have hseconds : outageMs / 1000 = 0 := by omega
    have hnone : endMs + 0 * 300 = endMs := by omega
    rw [hseconds, hnone]
    unfold ticksIn
    omega
  · rcases Nat.lt_or_ge outageMs 2000 with hshort | hlong
    · -- between one and two seconds: 300 ms, which hold one tick or two
      have hseconds : outageMs / 1000 = 1 := by omega
      have hpost : 1 ≤ ticksIn endMs (endMs + 300) ∧ ticksIn endMs (endMs + 300) ≤ 2 := by
        unfold ticksIn ticksBefore loraTxPeriodMs
        omega
      have houtage : 5 ≤ ticksIn preLiveMs endMs ∧ ticksIn preLiveMs endMs ≤ 10 := by
        unfold ticksIn ticksBefore loraTxPeriodMs
        omega
      rw [hseconds, Nat.one_mul]
      omega
    · -- from two seconds on each second buffers five samples and is given one tick and more
      refine iff_of_true ?_ (.inl hlong)
      generalize hseconds : outageMs / 1000 = seconds
      have hoccupied : outageMs ≤ 1000 * seconds + 999 := by omega
      have hsamples : ticksIn preLiveMs endMs ≤ 5 * seconds + 5 := by
        unfold ticksIn ticksBefore loraTxPeriodMs
        omega
      have hpost : seconds + 1 ≤ ticksIn endMs (endMs + seconds * 300) := by
        have htwo : 2 ≤ seconds := by omega
        unfold ticksIn ticksBefore loraTxPeriodMs
        omega
      omega

/-! ## A rehearsal -/

theorem ticksBefore_mono {a b : ℕ} (h : a ≤ b) : ticksBefore a ≤ ticksBefore b := by
  unfold ticksBefore loraTxPeriodMs
  omega

/-- When the outage is over the samples are every fifth of its ticks. -/
theorem samplesBy_over {startMs endMs k : ℕ} (h : ticksBefore endMs ≤ k) :
    samplesBy startMs endMs k = (ticksIn startMs endMs + 4) / 5 := by
  rw [samplesBy, Nat.min_eq_right h, ticksIn]

theorem length_bufferedOutageTs (preLiveMs outageMs : ℕ) (postLiveMs : Option ℕ) :
    (runOutageSimulation preLiveMs outageMs postLiveMs).bufferedOutageTs.length =
      (ticksIn preLiveMs (preLiveMs + outageMs) + 4) / 5 := by
  rw [runOutageSimulation_eq, (Clock.before preLiveMs outageMs _).samples]
  exact samplesBy_over (ticksBefore_mono (Nat.le_add_right _ _))

/-- **When the outage rehearsal drains its buffer.** For every time before the outage and every
outage that buffers at most `OB_CAPACITY` samples, the run with the default time after it replays
exactly the buffered samples, in order and after the outage, with consecutive numbers and without a
gap above 5 s, if and only if the default leaves enough ticks. -/
theorem outage_rehearsal_drains_iff (preLiveMs outageMs : ℕ)
    (hfits : (runOutageSimulation preLiveMs outageMs none).bufferedOutageTs.length ≤ obCapacity) :
    (runOutageSimulation preLiveMs outageMs none).Rehearsed ↔ EnoughPostTicks preLiveMs outageMs := by
  rw [length_bufferedOutageTs] at hfits
  rw [runOutageSimulation_eq, Option.getD_none, ← samples_le_ticksIn_iff]
  generalize hk : ticksBefore (preLiveMs + outageMs + defaultPostLiveMs outageMs) = k
  have hpost : ticksIn (preLiveMs + outageMs) (preLiveMs + outageMs + defaultPostLiveMs outageMs) =
      k - ticksBefore (preLiveMs + outageMs) := by
    rw [ticksIn, hk]
  have hover : ticksBefore (preLiveMs + outageMs) ≤ k := by
    rw [← hk]
    exact ticksBefore_mono (Nat.le_add_right _ _)
  have hclock := Clock.before preLiveMs outageMs k
  have hsamples : samplesBy preLiveMs (preLiveMs + outageMs) k =
      (ticksIn preLiveMs (preLiveMs + outageMs) + 4) / 5 := samplesBy_over hover
  rw [← hsamples] at hfits ⊢
  rw [hpost, SimState.rehearsed_iff preLiveMs outageMs k hfits, ← List.length_eq_zero_iff,
    hclock.backlog, Nat.min_eq_right hfits, Nat.sub_eq_zero_iff_le]

theorem outage_rehearsal_drains_two_seconds :
    (runOutageSimulation 0 2000 none).Rehearsed := by
  refine (outage_rehearsal_drains_iff 0 2000 ?_).mpr (.inl le_rfl)
  rw [length_bufferedOutageTs]
  decide

/-- An outage of 1.5 s takes two samples, and there is one tick after it. -/
theorem short_outage_rehearsal_not_drained :
    (runOutageSimulation 1000 1500 none).bufferedOutageTs.length ≤ obCapacity ∧
      ¬ (runOutageSimulation 1000 1500 none).Rehearsed := by
  refine ⟨?_, ?_⟩
  · rw [length_bufferedOutageTs]
    decide
  · intro h
    have hreplays := h.replays
    rw [runOutageSimulation_eq] at hreplays
    exact absurd hreplays (by decide +kernel)

end TfnAks.Uplink.Rehearsal
