/-
# TfnAks.Uplink.OutageSampling — what an outage leaves in the offline buffer

While the link is down each telemetry tick offers its snapshot, and the task takes one a second
(`samples_eq_pick`). The buffer holds 75 of them. So an outage of less than 75 seconds that finds
the buffer empty evicts nothing, however its ticks are spaced, and the buffer is then exactly what
was sampled (`short_outage_keeps_all`).

A tick without a published snapshot does nothing in the source; the ticks here are the ones that
have a snapshot.
-/
import TfnAks.Lib.SparseSampling
import TfnAks.Uplink.OfflineAccount

namespace TfnAks.Uplink

open TfnAks.Lib.Runs TfnAks.Lib.RingBuffer TfnAks.Lib.SparseSampling

namespace LoraTask

/-! ## The ticks and the samples of a pass -/

/-- The telemetry tick of a pass, if one is due: the uptime it reads and the published snapshot. -/
def tickOf (s : LoraTask) (i : Iteration) : Option (UInt64 × TelemetryData) :=
  if (s.linkChecked i).telemetryDue i.nowTick then i.queue.map (i.sampleMs, ·) else none

/-- The tick of a pass with the link down, if it is sampled. -/
def sampleOf (s : LoraTask) (i : Iteration) : Option (UInt64 × TelemetryData) :=
  (s.tickOf i).filter fun tick =>
    offlineShouldSample tick.1 (s.linkChecked i).lastOfflineSampleMs
      (s.linkChecked i).offlineHasSamples offlineSamplePeriodMs

/-- The ticks of a run. -/
def ticks : LoraTask → List Iteration → List (UInt64 × TelemetryData) :=
  gather iterate fun s i => (s.tickOf i).toList

/-- The sampled ticks of a run with the link down. -/
def samples : LoraTask → List Iteration → List (UInt64 × TelemetryData) :=
  gather iterate fun s i => (s.sampleOf i).toList

/-- The pass finds the link down. -/
def PassDown (s : LoraTask) (i : Iteration) : Prop := (s.linkChecked i).linkDown = true

/-- The uptime of the last sample of the outage. -/
def outageClock (s : LoraTask) : Option UInt64 :=
  if s.linkDown && s.offlineHasSamples then some s.lastOfflineSampleMs else none

/-- A sample is due a period after the last one. -/
def SampleDue (last now : UInt64) : Prop := offlineSamplePeriodMs.toUInt64 ≤ now - last

instance : DecidableRel SampleDue := fun _ _ => inferInstanceAs (Decidable (_ ≤ _))

/-! ## One pass -/

/-- A link check that ends with the link down starts the clock of a new outage and leaves that of an
outage going on. -/
theorem checkLink_outageClock {nowMs : UInt64} {s : LoraTask}
    (h : (s.checkLink nowMs).linkDown = true) :
    outageClock (s.checkLink nowMs) = outageClock s := by
  rcases s.checkLink_cases nowMs with heq | ⟨hup, heq⟩ | ⟨_, heq⟩
  · rw [heq]
  · -- a new outage: there was no clock, and there is none yet
    rw [heq]
    simp [outageClock, hup]
  · rw [heq] at h
    cases h

theorem linkChecked_outageClock {s : LoraTask} {i : Iteration} (h : s.PassDown i) :
    outageClock (s.linkChecked i) = outageClock s := by
  refine (checkLink_outageClock h).trans ?_
  rw [handleRx_eq]
  rfl

/-- The sample of a pass with the link down is decided by the clock of the outage. -/
theorem sampleOf_eq {s : LoraTask} {i : Iteration} (h : s.PassDown i) :
    s.sampleOf i = (s.tickOf i).filter fun tick =>
      match outageClock s with
      | none => true
      | some last => SampleDue last tick.1 := by
  rw [← linkChecked_outageClock h]
  have hdown : (s.linkChecked i).linkDown = true := h
  unfold sampleOf outageClock offlineShouldSample
  rw [hdown]
  cases (s.linkChecked i).offlineHasSamples <;> rfl

theorem iterate_of_down {s : LoraTask} {i : Iteration} (h : s.PassDown i) :
    s.iterate i =
      if (s.linkChecked i).telemetryDue i.nowTick then
        ((s.linkChecked i).startTick i.nowTick).sampleOffline i.queue i.sampleMs
      else s.linkChecked i := by
  have hdown : ((s.linkChecked i).startTick i.nowTick).linkDown = true := h
  simp only [iterate, telemetryTick, hdown, Bool.not_true, Bool.false_eq_true, ↓reduceIte]

/-- A part of a pass that concerns neither the samples nor the clock of the outage. -/
structure OutageKept (s s' : LoraTask) : Prop extends SamplesKept s s' where
  down : s'.linkDown = true
  clock : outageClock s' = outageClock s

theorem linkChecked_outageKept {s : LoraTask} {i : Iteration} (h : s.PassDown i) :
    OutageKept s (s.linkChecked i) where
  toSamplesKept := linkChecked_kept i s
  down := h
  clock := linkChecked_outageClock h

theorem startTick_outageKept {s c : LoraTask} (h : OutageKept s c) (nowTick : TickType) :
    OutageKept s (c.startTick nowTick) where
  toSamplesKept := h.toSamplesKept.trans (startTick_kept nowTick c)
  down := h.down
  clock := h.clock

/-- The state after a sample is taken. -/
structure Sampled (s s' : LoraTask) (tick : UInt64 × TelemetryData) : Prop where
  down : s'.linkDown = true
  clock : outageClock s' = some tick.1
  offline : s'.offline = obPush tick.2 s.offline
  pushed : s'.ledger.pushed = s.ledger.pushed ++ [tick.2]
  gone : s'.ledger.gone = s.ledger.gone ++ (obEvicted s.offline).toList.map (·, Fate.evicted)

theorem sampleOffline_of_not {s : LoraTask} {nowMs : UInt64} (data : TelemetryData)
    (h : offlineShouldSample nowMs s.lastOfflineSampleMs s.offlineHasSamples
      offlineSamplePeriodMs = false) : s.sampleOffline (some data) nowMs = s := by
  unfold sampleOffline
  rw [h]
  rfl

theorem sampleOffline_of_should {s : LoraTask} (hdown : s.linkDown = true) {nowMs : UInt64}
    (data : TelemetryData)
    (h : offlineShouldSample nowMs s.lastOfflineSampleMs s.offlineHasSamples
      offlineSamplePeriodMs = true) : Sampled s (s.sampleOffline (some data) nowMs) (nowMs, data) := by
  unfold sampleOffline
  rw [h]
  exact ⟨hdown, by simp [outageClock, hdown], rfl, rfl, rfl⟩

theorem Sampled.of_kept {s c s' : LoraTask} {tick : UInt64 × TelemetryData}
    (h : Sampled c s' tick) (hkept : OutageKept s c) : Sampled s s' tick := by
  obtain ⟨hdown, hclock, hoffline, hpushed, hgone⟩ := h
  rw [hkept.offline] at hoffline hgone
  rw [hkept.ledger] at hpushed hgone
  exact ⟨hdown, hclock, hoffline, hpushed, hgone⟩

/-- **A pass with the link down** takes the sample there is, and does nothing else about them. -/
theorem iterate_outage {s : LoraTask} {i : Iteration} (h : s.PassDown i) :
    match s.sampleOf i with
    | none => OutageKept s (s.iterate i)
    | some tick => Sampled s (s.iterate i) tick := by
  have hlink := linkChecked_outageKept h
  have hstart := startTick_outageKept hlink i.nowTick
  rw [iterate_of_down h]
  unfold sampleOf tickOf
  cases (s.linkChecked i).telemetryDue i.nowTick with
  | false => exact hlink
  | true =>
      cases hqueue : i.queue with
      | none => exact hstart
      | some data =>
          simp only [↓reduceIte, Option.map_some, Option.filter_some]
          cases hshould : offlineShouldSample i.sampleMs (s.linkChecked i).lastOfflineSampleMs
              (s.linkChecked i).offlineHasSamples offlineSamplePeriodMs with
          | false =>
              rw [sampleOffline_of_not (s := (s.linkChecked i).startTick i.nowTick) data hshould]
              exact hstart
          | true => exact (sampleOffline_of_should hstart.down data hshould).of_kept hstart

/-! ## An outage -/

/-- **The samples of an outage** are the ticks a sampler with its clock takes. -/
theorem samples_eq_pick {s : LoraTask} {is : List Iteration} (h : Before iterate s is PassDown) :
    samples s is = pick Prod.fst SampleDue (outageClock s) (ticks s is) := by
  induction is generalizing s with
  | nil => exact (pick_nil _ _ _).symm
  | cons i is ih =>
      -- no tick, the first of the outage, one that is due, or one that is not
      rw [before_cons] at h
      have hpass := iterate_outage h.1
      have hsample := sampleOf_eq h.1
      have hrest := ih h.2
      unfold samples ticks at hrest ⊢
      rw [gather_cons, gather_cons, hrest]
      cases htick : s.tickOf i with
      | none =>
          rw [htick, Option.filter_none] at hsample
          rw [hsample] at hpass ⊢
          rw [hpass.clock]
          rfl
      | some tick =>
          rw [htick, Option.filter_some] at hsample
          cases hclock : outageClock s with
          | none =>
              rw [hclock] at hsample
              rw [hsample] at hpass ⊢
              rw [hpass.clock]
              rfl
          | some last =>
              rw [hclock] at hsample
              by_cases hdue : SampleDue last tick.1
              · rw [if_pos (decide_eq_true hdue)] at hsample
                rw [hsample] at hpass ⊢
                rw [hpass.clock]
                exact (pick_cons_of_due Prod.fst SampleDue hdue _).symm
              · rw [if_neg (by simpa using hdue)] at hsample
                rw [hsample] at hpass ⊢
                rw [hpass.clock, hclock]
                exact (pick_cons_of_not_due Prod.fst SampleDue hdue _).symm

/-- What the buffer has room for is kept: nothing is evicted, and the samples stand behind what the
buffer held. -/
theorem exec_outage {s : LoraTask} {is : List Iteration} (h : Before iterate s is PassDown)
    (hroom : s.offline.toList.length + (samples s is).length ≤ obCapacity) :
    (exec iterate s is).offline.toList = s.offline.toList ++ (samples s is).map Prod.snd ∧
      (exec iterate s is).ledger.pushed = s.ledger.pushed ++ (samples s is).map Prod.snd ∧
      (exec iterate s is).ledger.gone = s.ledger.gone := by
  induction is generalizing s with
  | nil => exact ⟨(List.append_nil _).symm, (List.append_nil _).symm, rfl⟩
  | cons i is ih =>
      rw [before_cons] at h
      have hpass := iterate_outage h.1
      have hcons : samples s (i :: is) = (s.sampleOf i).toList ++ samples (s.iterate i) is := rfl
      rw [hcons] at hroom ⊢
      rw [exec_cons]
      cases hsample : s.sampleOf i with
      | none =>
          rw [hsample] at hpass hroom
          replace hpass : OutageKept s (s.iterate i) := hpass
          have hrest := ih h.2 (by
            rw [hpass.offline]
            exact hroom)
          rw [hpass.offline, hpass.ledger] at hrest
          exact hrest
      | some tick =>
          rw [hsample] at hpass hroom
          replace hpass : Sampled s (s.iterate i) tick := hpass
          have hlen : s.offline.toList.length = obCount s.offline := Ring.length_toList s.offline
          simp only [Option.toList_some, List.cons_append, List.nil_append, List.length_cons] at hroom
          -- the buffer is not full before this sample
          have hevicted : obEvicted s.offline = none := if_neg (by omega)
          have hpush := evicted_append_obPush tick.2 s.offline
          rw [hevicted, ← hpass.offline] at hpush
          replace hpush : (s.iterate i).offline.toList = s.offline.toList ++ [tick.2] := hpush
          obtain ⟨hoffline, hpushed, hgone⟩ := ih h.2 (by
            rw [hpush, List.length_append, List.length_singleton]
            omega)
          rw [hoffline, hpushed, hgone, hpush, hpass.pushed, hpass.gone, hevicted, List.append_assoc,
            List.append_assoc]
          exact ⟨rfl, rfl, List.append_nil _⟩

theorem samples_sublist {s : LoraTask} {is : List Iteration} (h : Before iterate s is PassDown) :
    (samples s is).Sublist (ticks s is) := by
  rw [samples_eq_pick h]
  exact pick_sublist _ _ _ _

/-- An uptime at which no sample was due yet is less than a period after the last sample. -/
theorem not_sampleDue_iff {last now : UInt64} (hle : last ≤ now) :
    ¬ SampleDue last now ↔ now.toNat < last.toNat + offlineSamplePeriodMs.toNat := by
  unfold SampleDue
  rw [UInt64.not_le, UInt64.lt_iff_toNat_lt, UInt64.toNat_sub_of_le _ _ hle,
    UInt32.toNat_toUInt64]
  have hle' := UInt64.le_iff_toNat_le.mp hle
  omega

theorem not_sampleDue_self (now : UInt64) : ¬ SampleDue now now := by
  rw [not_sampleDue_iff (UInt64.le_refl now)]
  exact Nat.lt_add_of_pos_right (by decide)

/-- The neighbours among the samples of an outage are a period apart. -/
theorem samples_gaps {s : LoraTask} {is : List Iteration} (h : Before iterate s is PassDown)
    (hclock : (ticks s is).Pairwise fun a b => a.1 ≤ b.1) :
    (samples s is).IsChain fun a b => a.1.toNat + offlineSamplePeriodMs.toNat ≤ b.1.toNat := by
  have hchain := isChain_pick Prod.fst SampleDue (outageClock s) (ticks s is)
  rw [← samples_eq_pick h] at hchain
  have hsorted := (hclock.sublist (samples_sublist h)).isChain
  refine (isChain_and hsorted hchain).imp ?_
  rintro a b ⟨hle, hdue⟩
  by_contra hlt
  exact (not_sampleDue_iff hle).mpr (Nat.not_le.mp hlt) hdue

/-- **A short outage loses nothing.** -/
theorem short_outage_keeps_all (s : LoraTask) (hup : s.linkDown = false)
    (hempty : obCount s.offline = 0) (is : List Iteration) (hdown : Before iterate s is PassDown)
    (hclock : (ticks s is).Pairwise fun a b => a.1 ≤ b.1)
    (hshort : ∀ first ∈ (ticks s is).head?, ∀ last ∈ (ticks s is).getLast?,
      last.1.toNat - first.1.toNat < 75000) :
    let after := exec iterate s is
    after.ledger.evicted = s.ledger.evicted ∧
      (samples s is).head? = (ticks s is).head? ∧
      (samples s is).IsChain (fun a b => a.1.toNat + offlineSamplePeriodMs.toNat ≤ b.1.toNat) ∧
      (∀ tick ∈ ticks s is, ∃ sample ∈ samples s is, sample.1 ≤ tick.1 ∧
        tick.1.toNat < sample.1.toNat + offlineSamplePeriodMs.toNat) ∧
      after.offline.toList = (samples s is).map Prod.snd ∧
      after.ledger.pushed = s.ledger.pushed ++ (samples s is).map Prod.snd := by
  have hfresh : outageClock s = none := by
    unfold outageClock
    rw [hup]
    rfl
  have hpick := samples_eq_pick hdown
  rw [hfresh] at hpick
  have hgaps := samples_gaps hdown hclock
  have hsublist := samples_sublist hdown
  have hwindow := window_of_ends (hclock.imp UInt64.le_iff_toNat_le.mp) hshort
  -- 75 samples a second apart take 74 seconds
  have hlength : (samples s is).length ≤ obCapacity :=
    length_le_of_gaps hgaps fun a ha b hb => hwindow a (hsublist.mem ha) b (hsublist.mem hb)
  have hbuffer : s.offline.toList = [] := (Ring.toList_eq_nil_iff _).mpr hempty
  obtain ⟨hoffline, hpushed, hgone⟩ := exec_outage hdown (by
    rw [hbuffer]
    exact (Nat.zero_add _).trans_le hlength)
  refine ⟨?_, ?_, hgaps, ?_, ?_, hpushed⟩
  · unfold Ledger.evicted Ledger.take
    rw [hgone]
  · rw [hpick]
    exact head?_pick_none Prod.fst SampleDue _
  · intro tick htick
    obtain ⟨sample, hsample, hle, hnot⟩ :=
      exists_pick_before Prod.fst SampleDue not_sampleDue_self UInt64.le_refl hclock htick
    rw [← hpick] at hsample
    exact ⟨sample, hsample, hle, (not_sampleDue_iff hle).mp hnot⟩
  · rw [hoffline, hbuffer]
    rfl

/-- A pass with a due tick at the uptime `nowMs`, without any byte received. -/
def silentPass (nowMs : UInt64) (nowTick : TickType) : Iteration where
  rx := []
  linkCheckMs := nowMs
  nowTick := nowTick
  queue := some .zero
  replay _ := ⟨1, 1⟩
  live := ⟨1, 1⟩
  sampleMs := nowMs

/-- Three ticks after the grace time of the boot, the second too early for a sample. -/
def shortOutage : List Iteration := [silentPass 6000 200, silentPass 6200 400, silentPass 7100 600]

theorem short_outage_keeps_all_after_boot :
    (exec iterate (.booted 1) shortOutage).offline.toList =
      (samples (.booted 1) shortOutage).map Prod.snd :=
  (short_outage_keeps_all (.booted 1) rfl rfl shortOutage
    (before_cons.mpr ⟨rfl, before_cons.mpr ⟨rfl, before_cons.mpr ⟨rfl, before_nil⟩⟩⟩)
    (by decide) (by
      intro first hfirst last hlast
      cases hfirst
      cases hlast
      decide)).2.2.2.2.1

end LoraTask

end TfnAks.Uplink
