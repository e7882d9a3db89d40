/-
# TfnAks.Uplink.OfflineAccount — what becomes of a buffered sample

`Balanced` holds in every state of the telemetry task: the samples pushed are, in push order, those
that have left the buffer and then those still in it. A sample leaves by a replay that reached the
UART, by an eviction, or by a drop after a write that failed. The last way loses it: the samples are
accounted for as they should be exactly while no replay write fails (`exec_accounted_iff`).
-/
import TfnAks.Lib.Runs
import TfnAks.Uplink.LoraTask

namespace TfnAks.Uplink

open TfnAks.Lib.Runs TfnAks.Lib.RingBuffer

/-! ## The ledger -/

theorem Ledger.take_append (fate fate' : Fate) (pushed : List TelemetryData)
    (gone : List (TelemetryData × Fate)) (ds : List TelemetryData) :
    (Ledger.mk pushed (gone ++ ds.map (·, fate'))).take fate =
      (Ledger.mk pushed gone).take fate ++ if fate' = fate then ds else [] := by
  simp only [Ledger.take, List.filter_append, List.map_append, List.filter_map, List.map_map]
  congr 1
  by_cases h : fate' = fate
  · simp [h, Function.comp_def]
  · simp [h, Function.comp_def]

/-- Every sample that left did so in one of the three ways. -/
theorem Ledger.length_gone (l : Ledger) :
    l.gone.length = l.replayed.length + l.evicted.length + l.unsent.length := by
  obtain ⟨pushed, gone⟩ := l
  induction gone with
  | nil => rfl
  | cons g gone ih =>
      obtain ⟨d, fate⟩ := g
      simp only [Ledger.replayed, Ledger.evicted, Ledger.unsent, Ledger.take, List.length_map,
        List.length_cons, List.filter_cons] at ih ⊢
      cases fate <;> simp <;> omega

namespace LoraTask

/-- The samples pushed, in push order, are the ones that left the buffer followed by the ones in it,
and those that left were replayed (`true`) or evicted. -/
def Accounted (s : LoraTask) : Prop :=
  ∃ left : List (TelemetryData × Bool),
    s.ledger.pushed = left.map Prod.fst ++ s.offline.toList ∧
    s.ledger.replayed = (left.filter (·.2)).map Prod.fst ∧
    s.ledger.evicted = (left.filter (!·.2)).map Prod.fst

/-- Nothing is lost: every sample taken is gone with its fate or still in the buffer, in order. -/
structure Balanced (s : LoraTask) : Prop where
  started : s.telemetry.telIsInitialized = true
  pushed_eq : s.ledger.pushed = s.ledger.gone.map Prod.fst ++ s.offline.toList

/-- A balanced task is accounted for exactly when no sample was dropped unsent. -/
theorem Balanced.accounted_iff {s : LoraTask} (hs : s.Balanced) :
    s.Accounted ↔ s.ledger.unsent = [] := by
  constructor
  · rintro ⟨left, hpushed, hreplayed, hevicted⟩
    -- both sides list the pushed samples, so they have the same length
    have hcount : left.length = s.ledger.gone.length := by
      have h := congrArg List.length (hs.pushed_eq.symm.trans hpushed)
      simp only [List.length_append, List.length_map] at h
      omega
    have hsplit : left.length = s.ledger.replayed.length + s.ledger.evicted.length := by
      rw [hreplayed, hevicted, List.length_map, List.length_map]
      exact List.length_eq_length_filter_add Prod.snd
    have hgone := s.ledger.length_gone
    apply List.eq_nil_of_length_eq_zero
    omega
  · intro hunsent
    -- with nothing unsent, "not replayed" is "evicted"
    refine ⟨s.ledger.gone.map fun g => (g.1, g.2 = .replayed), ?_, ?_, ?_⟩
    · rw [hs.pushed_eq, List.map_map]
      rfl
    · rw [Ledger.replayed, Ledger.take, List.filter_map, List.map_map]
      rfl
    · have hfate : ∀ g ∈ s.ledger.gone, (g.2 = Fate.evicted ↔ ¬ g.2 = Fate.replayed) := by
        intro g hg
        have hne : g.2 ≠ Fate.unsent := by
          intro heq
          have : g.1 ∈ s.ledger.unsent :=
            List.mem_map.mpr ⟨g, List.mem_filter.mpr ⟨hg, decide_eq_true heq⟩, rfl⟩
          rw [hunsent] at this
          exact List.not_mem_nil this
        revert hne
        cases g.2 <;> simp
      rw [Ledger.evicted, Ledger.take, List.filter_map, List.map_map]
      show _ = List.map Prod.fst _
      congr 1
      apply List.filter_congr
      intro g hg
      simp [hfate g hg]

/-! ## One pass -/

/-- A part of a pass that concerns neither the samples nor whether the sender is started. -/
structure SamplesKept (s s' : LoraTask) : Prop where
  started : s'.telemetry.telIsInitialized = s.telemetry.telIsInitialized
  offline : s'.offline = s.offline
  ledger : s'.ledger = s.ledger

theorem SamplesKept.refl (s : LoraTask) : SamplesKept s s := ⟨rfl, rfl, rfl⟩

theorem SamplesKept.trans {s s' s'' : LoraTask} (h : SamplesKept s s') (h' : SamplesKept s' s'') :
    SamplesKept s s'' :=
  ⟨h'.started.trans h.started, h'.offline.trans h.offline, h'.ledger.trans h.ledger⟩

theorem SamplesKept.balanced {s s' : LoraTask} (h : SamplesKept s s') (hs : s.Balanced) :
    s'.Balanced := by
  refine ⟨h.started.trans hs.started, ?_⟩
  rw [h.ledger, h.offline]
  exact hs.pushed_eq

theorem handleRx_kept (rx : List (UInt8 × UInt64)) (s : LoraTask) :
    SamplesKept s (s.handleRx rx) := by
  rw [handleRx_eq]
  exact ⟨rfl, rfl, rfl⟩

theorem checkLink_kept (nowMs : UInt64) (s : LoraTask) : SamplesKept s (s.checkLink nowMs) := by
  rcases s.checkLink_cases nowMs with h | ⟨_, h⟩ | ⟨_, h⟩ <;> rw [h] <;> exact ⟨rfl, rfl, rfl⟩

/-- Bytes and the link check leave the samples alone. -/
theorem linkChecked_kept (i : Iteration) (s : LoraTask) : SamplesKept s (s.linkChecked i) :=
  (handleRx_kept i.rx s).trans (checkLink_kept i.linkCheckMs (s.handleRx i.rx))

theorem startTick_kept (nowTick : TickType) (s : LoraTask) :
    SamplesKept s (s.startTick nowTick) := ⟨rfl, rfl, rfl⟩

/-- The live frame leaves the samples alone. -/
theorem sendLive_kept (queue : Option TelemetryData) (tx : TxAttempt) (s : LoraTask) :
    SamplesKept s (s.sendLive queue tx) := by
  cases queue with
  | none => exact SamplesKept.refl s
  | some live =>
      simp only [sendLive]
      split
      · exact ⟨Telemetry.sendStatus_initialized _ _ _, rfl, rfl⟩
      · exact ⟨rfl, rfl, rfl⟩

/-! ## Replay -/

theorem sendReplay_balanced {s : LoraTask} (hs : s.Balanced) {replay : TelemetryData}
    (hpeek : obPeek s.offline = some replay) (written : Int) :
    (s.sendReplay written replay).Balanced := by
  constructor
  · exact (Telemetry.sendStatus_initialized _ _ _).trans hs.started
  · show s.ledger.pushed = List.map Prod.fst (s.ledger.gone ++ [_]) ++ (obDropFront s.offline).toList
    rw [hs.pushed_eq, toList_eq_cons_of_obPeek hpeek, List.map_append, List.append_assoc]
    rfl

/-- A replay whose write fails drops its sample unsent. -/
theorem sendReplay_unsent {s : LoraTask} (hs : s.Balanced) (replay : TelemetryData)
    (written : Int) :
    (s.sendReplay written replay).ledger.unsent =
      s.ledger.unsent ++ if 0 ≤ written then [] else [replay] := by
  have hsent := Telemetry.isSome_sendStatus_iff hs.started written (sanitizeForUplink replay)
  refine (Ledger.take_append .unsent _ s.ledger.pushed s.ledger.gone [replay]).trans ?_
  congr 1
  by_cases hw : 0 ≤ written
  · simp [hsent.mpr hw, hw]
  · have : ¬ (s.telemetry.sendStatus written (sanitizeForUplink replay)).2.isSome = true :=
      mt hsent.mp hw
    simp [this, hw]

/-- None of the writes of a replay loop fails: burst `k` takes place when the buffer holds more than
`k` samples and AUX is ready for it and for every burst before it. -/
def BurstsWritten (tx : Nat → TxAttempt) (n burst count : Nat) : Prop :=
  ∀ k < n, k < count → (∀ j ≤ k, (tx (burst + j)).auxLevel = loraAuxReadyLevel) →
    0 ≤ (tx (burst + k)).written

theorem burstsWritten_succ {tx : Nat → TxAttempt} {n burst count : Nat}
    (hready : (tx burst).auxLevel = loraAuxReadyLevel) :
    BurstsWritten tx (n + 1) burst (count + 1) ↔
      0 ≤ (tx burst).written ∧ BurstsWritten tx n (burst + 1) count := by
  -- the attempts behind the first one, counted from it or from the next
  constructor
  · intro h
    constructor
    · apply h 0 (Nat.succ_pos n) (Nat.succ_pos count)
      intro j hj
      rw [Nat.le_zero.mp hj]
      exact hready
    · intro k hk hc haux
      have hburst := h (k + 1) (Nat.succ_lt_succ hk) (Nat.succ_lt_succ hc)
      rw [show burst + (k + 1) = burst + 1 + k by omega] at hburst
      apply hburst
      intro j hj
      cases j with
      | zero => exact hready
      | succ j =>
          rw [show burst + (j + 1) = burst + 1 + j by omega]
          exact haux j (Nat.le_of_succ_le_succ hj)
  · rintro ⟨hfirst, hrest⟩ k hk hc haux
    cases k with
    | zero => exact hfirst
    | succ k =>
        rw [show burst + (k + 1) = burst + 1 + k by omega]
        apply hrest k (Nat.lt_of_succ_lt_succ hk) (Nat.lt_of_succ_lt_succ hc)
        intro j hj
        rw [show burst + 1 + j = burst + (j + 1) by omega]
        exact haux (j + 1) (Nat.succ_le_succ hj)

/-- The replay loop keeps the balance, and drops nothing unsent exactly when its writes succeed. -/
theorem replayLoop_spec {s : LoraTask} (hs : s.Balanced) (tx : Nat → TxAttempt) (n burst : Nat) :
    (s.replayLoop tx n burst).Balanced ∧
      ((s.replayLoop tx n burst).ledger.unsent = [] ↔
        s.ledger.unsent = [] ∧ BurstsWritten tx n burst (obCount s.offline)) := by
  induction n generalizing burst s with
  | zero => exact ⟨hs, (and_iff_left (fun k hk => absurd hk (Nat.not_lt_zero k))).symm⟩
  | succ n ih =>
      cases hpeek : obPeek s.offline with
      | none =>
          -- an empty buffer ends the loop, and no burst is left to take place
          have hempty : obCount s.offline = 0 := obPeek_eq_none_iff.mp hpeek
          have hloop : s.replayLoop tx (n + 1) burst = s := by simp only [replayLoop, hpeek]
          rw [hloop, hempty]
          exact ⟨hs, (and_iff_left (fun k _ hc => absurd hc (Nat.not_lt_zero k))).symm⟩
      | some replay =>
          by_cases hready : (tx burst).auxLevel = loraAuxReadyLevel
          · -- one burst, and the rest of the loop with one record less
            have hcount : obCount s.offline = obCount (obDropFront s.offline) + 1 := by
              have h := congrArg List.length (toList_eq_cons_of_obPeek hpeek)
              rwa [List.length_cons, Ring.length_toList, Ring.length_toList] at h
            have hloop : s.replayLoop tx (n + 1) burst =
                (s.sendReplay (tx burst).written replay).replayLoop tx n (burst + 1) := by
              simp only [replayLoop, hpeek, ne_eq, hready, not_true_eq_false, if_false]
            obtain ⟨hbal, hunsent⟩ :=
              ih (sendReplay_balanced hs hpeek (tx burst).written) (burst + 1)
            rw [hloop, hcount, burstsWritten_succ hready]
            refine ⟨hbal, hunsent.trans ?_⟩
            rw [sendReplay_unsent hs, List.append_eq_nil_iff, and_assoc]
            have hw : (if 0 ≤ (tx burst).written then [] else [replay]) = [] ↔
                0 ≤ (tx burst).written := by
              split <;> simp_all
            rw [hw]
            rfl
          · have hloop : s.replayLoop tx (n + 1) burst = { s with auxNotReadyLogged := true } := by
              simp only [replayLoop, hpeek, ne_eq, hready, not_false_eq_true, if_true]
            rw [hloop]
            -- AUX is not ready for this burst, so none from here on takes place
            refine ⟨⟨hs.started, hs.pushed_eq⟩, (and_iff_left ?_).symm⟩
            intro k _ _ haux
            exact absurd (haux 0 (Nat.zero_le k)) hready

/-! ## Sampling -/

theorem sampleOffline_balanced {s : LoraTask} (hs : s.Balanced) (queue : Option TelemetryData)
    (nowMs : UInt64) : (s.sampleOffline queue nowMs).Balanced := by
  cases queue with
  | none => exact hs
  | some buffered =>
      simp only [sampleOffline]
      split
      · refine ⟨hs.started, ?_⟩
        show s.ledger.pushed ++ [buffered] =
          List.map Prod.fst (s.ledger.gone ++ (obEvicted s.offline).toList.map (·, Fate.evicted)) ++
            (obPush buffered s.offline).toList
        rw [List.map_append, List.append_assoc, List.map_map]
        show _ = _ ++ (List.map id _ ++ _)
        rw [List.map_id, evicted_append_obPush, ← List.append_assoc, ← hs.pushed_eq]
      · exact hs

/-- A sample that goes into the buffer sends none out, but for the one it evicts. -/
theorem sampleOffline_take {fate : Fate} (hfate : fate ≠ .evicted) (s : LoraTask)
    (queue : Option TelemetryData) (nowMs : UInt64) :
    (s.sampleOffline queue nowMs).ledger.take fate = s.ledger.take fate := by
  cases queue with
  | none => rfl
  | some buffered =>
      simp only [sampleOffline]
      split
      · rw [Ledger.take_append fate .evicted, if_neg hfate.symm]
        exact List.append_nil _
      · rfl

theorem sampleOffline_unsent (s : LoraTask) (queue : Option TelemetryData) (nowMs : UInt64) :
    (s.sampleOffline queue nowMs).ledger.unsent = s.ledger.unsent :=
  sampleOffline_take (by decide) s queue nowMs

/-! ## Runs -/

/-- No replay write of this pass fails. A pass replays when a telemetry tick is due and the link is
up after the check. -/
def ReplaysWritten (s : LoraTask) (i : Iteration) : Prop :=
  (s.linkChecked i).telemetryDue i.nowTick = true → (s.linkChecked i).linkDown = false →
    BurstsWritten i.replay replayBurstPerTick 0 (obCount s.offline)

theorem telemetryTick_spec {s : LoraTask} (hs : s.Balanced) (i : Iteration) :
    (s.telemetryTick i).Balanced ∧
      ((s.telemetryTick i).ledger.unsent = [] ↔
        s.ledger.unsent = [] ∧
          (s.linkDown = false →
            BurstsWritten i.replay replayBurstPerTick 0 (obCount s.offline))) := by
  have hstart : (s.startTick i.nowTick).Balanced := (startTick_kept i.nowTick s).balanced hs
  by_cases hdown : s.linkDown = true
  · have htick : s.telemetryTick i = (s.startTick i.nowTick).sampleOffline i.queue i.sampleMs := by
      simp only [telemetryTick, startTick, hdown, Bool.not_true, Bool.false_eq_true, if_false]
    rw [htick, sampleOffline_unsent]
    refine ⟨sampleOffline_balanced hstart _ _, (and_iff_left fun hup => ?_).symm⟩
    rw [hdown] at hup
    exact Bool.noConfusion hup
  · have hup : s.linkDown = false := Bool.eq_false_iff.mpr hdown
    have htick : s.telemetryTick i =
        ((s.startTick i.nowTick).replayLoop i.replay replayBurstPerTick 0).sendLive i.queue
          i.live := by
      simp only [telemetryTick, startTick, hup, Bool.not_false, if_true]
    -- only the replays before the live record can lose a sample
    have hlive := sendLive_kept i.queue i.live
      ((s.startTick i.nowTick).replayLoop i.replay replayBurstPerTick 0)
    obtain ⟨hbal, hunsent⟩ := replayLoop_spec hstart i.replay replayBurstPerTick 0
    rw [htick]
    refine ⟨hlive.balanced hbal, ?_⟩
    rw [hlive.ledger, hunsent]
    exact and_congr_right fun _ => ⟨fun h _ => h, fun h => h hup⟩

theorem iterate_spec {s : LoraTask} (hs : s.Balanced) (i : Iteration) :
    (s.iterate i).Balanced ∧
      ((s.iterate i).ledger.unsent = [] ↔ s.ledger.unsent = [] ∧ s.ReplaysWritten i) := by
  have hkept := linkChecked_kept i s
  have hbal : (s.linkChecked i).Balanced := hkept.balanced hs
  simp only [iterate]
  by_cases hdue : (s.linkChecked i).telemetryDue i.nowTick = true
  · obtain ⟨htick, hunsent⟩ := telemetryTick_spec hbal i
    rw [if_pos hdue]
    refine ⟨htick, ?_⟩
    rw [hunsent, hkept.offline, hkept.ledger]
    exact and_congr_right fun _ => ⟨fun h _ => h, fun h => h hdue⟩
  · rw [if_neg hdue]
    refine ⟨hbal, ?_⟩
    rw [hkept.ledger]
    exact (and_iff_left fun h => absurd h hdue).symm

theorem booted_balanced (bootMs : UInt64) : (booted bootMs).Balanced := ⟨rfl, rfl⟩

/-- Every sample pushed is still in the buffer or left it in push order. -/
theorem exec_balanced {s : LoraTask} (hs : s.Balanced) (is : List Iteration) :
    (exec iterate s is).Balanced :=
  exec_invariant (I := Balanced) (fun _ i h => (iterate_spec h i).1) hs is

theorem exec_unsent_iff {s : LoraTask} (hs : s.Balanced) (is : List Iteration) :
    (exec iterate s is).ledger.unsent = [] ↔
      s.ledger.unsent = [] ∧ Before iterate s is ReplaysWritten := by
  induction is generalizing s with
  | nil => exact (and_iff_left before_nil).symm
  | cons i is ih =>
      obtain ⟨hbal, hunsent⟩ := iterate_spec hs i
      rw [exec_cons, ih hbal, hunsent, before_cons, and_assoc]

/-- **The account of the offline buffer.** After any sequence of passes from boot, the samples
replayed and the samples in the buffer are the samples pushed, in order and without the evicted
ones, exactly when no write of a replay failed. -/
theorem exec_accounted_iff (bootMs : UInt64) (is : List Iteration) :
    (exec iterate (booted bootMs) is).Accounted ↔
      Before iterate (booted bootMs) is ReplaysWritten := by
  rw [(exec_balanced (booted_balanced bootMs) is).accounted_iff,
    exec_unsent_iff (booted_balanced bootMs)]
  exact and_iff_right rfl

/-- One sample goes into the buffer after the boot grace; then a heartbeat brings the link up, AUX
is ready and `uart_write_bytes` fails. -/
def failedReplay : List Iteration :=
  [ ⟨[], 6000, 600, some .zero, fun _ => ⟨1, 91⟩, ⟨1, 91⟩, 6000⟩
  , ⟨[(0xB0, 7000)], 7000, 700, some .zero, fun _ => ⟨1, -1⟩, ⟨1, 91⟩, 7000⟩ ]

/-- The sample is in neither place. -/
theorem failedReplay_not_accounted : ¬ (exec iterate (booted 0) failedReplay).Accounted := by
  have hlost : (exec iterate (booted 0) failedReplay).ledger.unsent = [.zero] := by decide
  rw [(exec_balanced (booted_balanced 0) failedReplay).accounted_iff, hlost]
  exact List.cons_ne_nil _ _

end LoraTask

end TfnAks.Uplink
