/-
# TfnAks.Uplink.LinkState — when the link counts as down

`vTask_LoRa_UKS` keeps the uptime of the last heartbeat, with 0 for "none yet", and a flag that two
guarded assignments move. Read over whole runs this is a heartbeat monitor with a grace time after
boot (`exec_watches`): after each link check the flag says exactly whether the last heartbeat is too
old, or none came in time (`link_exact`). It takes a clock that does not go back; a heartbeat at
uptime 0 would count as none.
-/
import TfnAks.Lib.HeartbeatMonitor
import TfnAks.Uplink.LoraTask

namespace TfnAks.Uplink

open TfnAks.Lib.Runs TfnAks.Lib.HeartbeatMonitor

/-! ## What the link check sees of a pass -/

/-- The heartbeats of some passes. -/
def heartbeats (is : List Iteration) : List UInt64 := is.flatMap fun i => heartbeatTimes i.rx

theorem heartbeats_concat (is : List Iteration) (i : Iteration) :
    heartbeats (is ++ [i]) = heartbeats is ++ heartbeatTimes i.rx := by
  unfold heartbeats
  rw [List.flatMap_append, List.flatMap_singleton]

/-- The uptimes a pass reads up to the link check. -/
def Iteration.linkTimes (i : Iteration) : List UInt64 := i.rx.map Prod.snd ++ [i.linkCheckMs]

/-- The pass without the bytes that are no heartbeat. -/
def Iteration.heartbeatsOnly (i : Iteration) : Iteration :=
  { i with rx := i.rx.filter fun b => decide (b.1 = uksHeartbeatByte) }

/-- From boot on the clock never goes back. -/
def ClockForward (bootMs : UInt64) (is : List Iteration) : Prop :=
  (bootMs :: is.flatMap Iteration.linkTimes).Pairwise (· ≤ ·)

/-- The limits of the link monitor, from `SystemConfig.h`. -/
def linkLimits (bootMs : UInt64) : Limits where
  boot := bootMs.toNat
  grace := bootLinkGraceMs.toNat
  timeout := linkTimeoutMs.toNat

/-- A pass of the task as a round of the monitor. -/
def Iteration.linkRound (i : Iteration) : Round where
  beats := (heartbeatTimes i.rx).map UInt64.toNat
  now := i.linkCheckMs.toNat

/-- The task as a monitor: an uptime of 0 stands for no heartbeat. -/
structure Watches (bootMs : UInt64) (s : LoraTask) (m : Monitor) : Prop where
  boot : s.bootMs = bootMs
  down : s.linkDown = m.down
  last : s.lastHeartbeatMs.toNat = m.last.getD 0

namespace LoraTask

/-- `LoRa_IsLinkDown` -/
def isLinkDown (s : LoraTask) : Bool := s.linkDown

/-! ## One pass -/

/-- A part of a pass that concerns neither the link flag nor the two uptimes it depends on. -/
structure LinkKept (s s' : LoraTask) : Prop where
  boot : s'.bootMs = s.bootMs
  down : s'.linkDown = s.linkDown
  last : s'.lastHeartbeatMs = s.lastHeartbeatMs

theorem LinkKept.refl (s : LoraTask) : LinkKept s s := ⟨rfl, rfl, rfl⟩

/-- After the link check the rest of a pass leaves the link alone. -/
theorem iterate_linkKept (i : Iteration) (s : LoraTask) : LinkKept (s.linkChecked i) (s.iterate i) := by
  simp only [iterate, telemetryTick]
  split
  · split
    · rw [sendLive_eq, replayLoop_eq]
      exact ⟨rfl, rfl, rfl⟩
    · rw [sampleOffline_eq]
      exact ⟨rfl, rfl, rfl⟩
  · exact LinkKept.refl _

/-- The bytes move the uptime of the last heartbeat and nothing else of the link. -/
theorem handleRx_link (rx : List (UInt8 × UInt64)) (s : LoraTask) :
    (s.handleRx rx).bootMs = s.bootMs ∧ (s.handleRx rx).linkDown = s.linkDown ∧
      (s.handleRx rx).lastHeartbeatMs = (heartbeatTimes rx).getLast?.getD s.lastHeartbeatMs := by
  rw [handleRx_eq]
  exact ⟨rfl, rfl, rfl⟩

/-- The link check moves the flag and nothing else of the link. -/
theorem checkLink_link (nowMs : UInt64) (s : LoraTask) :
    (s.checkLink nowMs).bootMs = s.bootMs ∧
      (s.checkLink nowMs).lastHeartbeatMs = s.lastHeartbeatMs ∧
      (s.checkLink nowMs).linkDown =
        if linkCheckTimeoutWithBootGrace nowMs s.lastHeartbeatMs linkTimeoutMs s.bootMs
          bootLinkGraceMs then true
        else if s.lastHeartbeatMs = 0 then s.linkDown else false := by
  simp only [checkLink]
  cases linkCheckTimeoutWithBootGrace nowMs s.lastHeartbeatMs linkTimeoutMs s.bootMs
    bootLinkGraceMs with
  | true => cases hdown : s.linkDown <;> simp [hdown]
  | false =>
      by_cases hnone : s.lastHeartbeatMs = 0
      · cases hdown : s.linkDown <;> simp [hdown, hnone]
      · cases hdown : s.linkDown <;> simp [hdown, hnone]

/-- The link after a pass, from the link before it, the heartbeats and the time of the check. -/
theorem iterate_link (i : Iteration) (s : LoraTask) :
    (s.iterate i).bootMs = s.bootMs ∧
      (s.iterate i).lastHeartbeatMs = (heartbeatTimes i.rx).getLast?.getD s.lastHeartbeatMs ∧
      (s.iterate i).linkDown =
        if linkCheckTimeoutWithBootGrace i.linkCheckMs
          ((heartbeatTimes i.rx).getLast?.getD s.lastHeartbeatMs) linkTimeoutMs s.bootMs
          bootLinkGraceMs then true
        else if (heartbeatTimes i.rx).getLast?.getD s.lastHeartbeatMs = 0 then s.linkDown
        else false := by
  obtain ⟨hrxBoot, hrxDown, hrxLast⟩ := handleRx_link i.rx s
  obtain ⟨hcheckBoot, hcheckLast, hcheckDown⟩ := checkLink_link i.linkCheckMs (s.handleRx i.rx)
  have hkept := iterate_linkKept i s
  rw [hrxBoot, hrxDown, hrxLast] at hcheckDown
  exact ⟨hkept.boot.trans (hcheckBoot.trans hrxBoot), hkept.last.trans (hcheckLast.trans hrxLast),
    hkept.down.trans hcheckDown⟩

end LoraTask

/-! ## The task as a monitor -/

theorem timeout_iff {bootMs lastMs nowMs : UInt64} {last : Option ℕ}
    (hlast : lastMs.toNat = last.getD 0) (hseen : ∀ t, last = some t → 1 ≤ t ∧ t ≤ nowMs.toNat)
    (hboot : bootMs ≤ nowMs) :
    linkCheckTimeoutWithBootGrace nowMs lastMs linkTimeoutMs bootMs bootLinkGraceMs = true ↔
      (linkLimits bootMs).Lost last nowMs.toNat := by
  unfold linkCheckTimeoutWithBootGrace linkCheckTimeout
  cases last with
  | none =>
      -- the grace from boot on
      have hzero : lastMs = 0 := UInt64.toNat_inj.mp hlast
      rw [if_pos hzero, decide_eq_true_iff, UInt64.lt_iff_toNat_lt,
        UInt64.toNat_sub_of_le _ _ hboot]
      exact Iff.rfl
  | some t =>
      -- the timeout, by a difference that does not wrap
      obtain ⟨hpos, hle⟩ := hseen t rfl
      have hne : lastMs ≠ 0 := by
        rintro rfl
        have ht : 0 = t := hlast
        omega
      have hle' : lastMs ≤ nowMs := UInt64.le_iff_toNat_le.mpr (hlast.trans_le hle)
      rw [if_neg hne, if_neg hne, decide_eq_true_iff, UInt64.lt_iff_toNat_lt,
        UInt64.toNat_sub_of_le _ _ hle', hlast]
      exact Iff.rfl

theorem Watches.booted (bootMs : UInt64) : Watches bootMs (.booted bootMs) .start := ⟨rfl, rfl, rfl⟩

/-- One pass is one round of the monitor. -/
theorem Watches.iterate {bootMs : UInt64} {s : LoraTask} {m : Monitor} (h : Watches bootMs s m)
    (i : Iteration)
    (hseen : ∀ t, i.linkRound.beats.getLast?.or m.last = some t → 1 ≤ t ∧ t ≤ i.linkCheckMs.toNat)
    (hboot : bootMs ≤ i.linkCheckMs) :
    Watches bootMs (s.iterate i) (m.round (linkLimits bootMs) i.linkRound) := by
  obtain ⟨hiBoot, hiLast, hiDown⟩ := LoraTask.iterate_link i s
  have hlast : ((heartbeatTimes i.rx).getLast?.getD s.lastHeartbeatMs).toNat =
      (i.linkRound.beats.getLast?.or m.last).getD 0 := by
    unfold Iteration.linkRound
    rw [List.getLast?_map]
    cases (heartbeatTimes i.rx).getLast? with
    | none => exact h.last
    | some t => rfl
  have htimeout := timeout_iff hlast hseen hboot
  -- the code's 0 for "no heartbeat yet" is the monitor's `none`, since heartbeats come from 1 on
  refine ⟨hiBoot.trans h.boot, ?_, (congrArg UInt64.toNat hiLast).trans hlast⟩
  rw [hiDown, h.boot, h.down]
  unfold Monitor.round
  by_cases hlost : (linkLimits bootMs).Lost (i.linkRound.beats.getLast?.or m.last)
      i.linkCheckMs.toNat
  · rw [if_pos (htimeout.mpr hlost)]
    exact (if_pos hlost).symm
  · rw [if_neg (mt htimeout.mp hlost)]
    refine Eq.trans ?_ (if_neg hlost).symm
    generalize i.linkRound.beats.getLast?.or m.last = last at hlast hseen
    cases last with
    | none => exact if_pos (UInt64.toNat_inj.mp hlast)
    | some t =>
        refine if_neg ?_
        intro hzero
        have hpos := (hseen t rfl).1
        rw [hzero] at hlast
        replace hlast : 0 = t := hlast
        omega

/-! ## Whole runs -/

theorem linkRounds_beats (is : List Iteration) :
    beats (is.map Iteration.linkRound) = (heartbeats is).map UInt64.toNat := by
  unfold beats heartbeats
  rw [List.flatMap_map, List.map_flatMap]
  rfl

theorem mem_rx_of_heartbeat {rx : List (UInt8 × UInt64)} {t : UInt64} (h : t ∈ heartbeatTimes rx) :
    t ∈ rx.map Prod.snd := by
  obtain ⟨b, hb, rfl⟩ := List.mem_map.mp h
  exact List.mem_map_of_mem (List.mem_of_mem_filter hb)

section Clock

variable {bootMs : UInt64} {is : List Iteration} {i : Iteration}

theorem ClockForward.before (h : ClockForward bootMs (is ++ [i])) : ClockForward bootMs is := by
  unfold ClockForward at h ⊢
  rw [List.flatMap_append, ← List.cons_append] at h
  exact (List.pairwise_append.mp h).1

/-- The link check of the last pass comes after everything else. -/
theorem ClockForward.le_check (h : ClockForward bootMs (is ++ [i])) :
    ∀ t ∈ bootMs :: (is.flatMap Iteration.linkTimes ++ i.rx.map Prod.snd), t ≤ i.linkCheckMs := by
  unfold ClockForward at h
  rw [List.flatMap_append, List.flatMap_singleton, Iteration.linkTimes, ← List.append_assoc,
    ← List.cons_append] at h
  intro t ht
  exact (List.pairwise_append.mp h).2.2 t ht _ (List.mem_singleton_self _)

theorem ClockForward.boot_le_check (h : ClockForward bootMs (is ++ [i])) : bootMs ≤ i.linkCheckMs :=
  h.le_check bootMs List.mem_cons_self

/-- Every heartbeat came between boot and the last link check. -/
theorem ClockForward.heartbeat_bounds (h : ClockForward bootMs (is ++ [i])) {t : UInt64}
    (ht : t ∈ heartbeats (is ++ [i])) : bootMs ≤ t ∧ t ≤ i.linkCheckMs := by
  have hmem : t ∈ is.flatMap Iteration.linkTimes ++ i.rx.map Prod.snd := by
    unfold heartbeats at ht
    rw [List.flatMap_append, List.flatMap_singleton, List.mem_append, List.mem_flatMap] at ht
    rw [List.mem_append, List.mem_flatMap]
    refine ht.imp ?_ mem_rx_of_heartbeat
    rintro ⟨j, hj, hbeat⟩
    exact ⟨j, hj, List.mem_append_left _ (mem_rx_of_heartbeat hbeat)⟩
  refine ⟨?_, h.le_check t (List.mem_cons_of_mem bootMs hmem)⟩
  unfold ClockForward at h
  refine (List.pairwise_cons.mp h).1 t ?_
  rw [List.flatMap_append, List.flatMap_singleton, Iteration.linkTimes, ← List.append_assoc]
  exact List.mem_append_left _ hmem

theorem linkCheck_sublist (is : List Iteration) :
    (is.map Iteration.linkCheckMs).Sublist (is.flatMap Iteration.linkTimes) := by
  induction is with
  | nil => exact List.Sublist.refl []
  | cons i is ih =>
      rw [List.map_cons, List.flatMap_cons, ← List.singleton_append]
      exact (List.sublist_append_right _ _).append ih

theorem ClockForward.rounds (h : ClockForward bootMs is) :
    (is.map Iteration.linkRound).Pairwise fun r r' => r.now ≤ r'.now := by
  have hchecks := (List.pairwise_cons.mp h).2.sublist (linkCheck_sublist is)
  rw [List.pairwise_map] at hchecks ⊢
  exact hchecks.imp UInt64.le_iff_toNat_le.mp

end Clock

/-- **The task refines the monitor** along every run of a forward clock. -/
theorem exec_watches {bootMs : UInt64} (hboot : 1 ≤ bootMs) {is : List Iteration}
    (hclock : ClockForward bootMs is) :
    Watches bootMs (exec LoraTask.iterate (.booted bootMs) is)
      (exec (Monitor.round (linkLimits bootMs)) .start (is.map Iteration.linkRound)) := by
  induction is using List.reverseRecOn with
  | nil => exact Watches.booted bootMs
  | append_singleton is i ih =>
      rw [List.map_append, List.map_singleton, exec_append, exec_append]
      refine (ih hclock.before).iterate i ?_ hclock.boot_le_check
      intro t ht
      rw [last_exec, ← List.getLast?_append, linkRounds_beats] at ht
      have hmem : t ∈ (heartbeats is).map UInt64.toNat ++ (heartbeatTimes i.rx).map UInt64.toNat :=
        List.mem_of_getLast? ht
      rw [← List.map_append] at hmem
      obtain ⟨u, hu, rfl⟩ := List.mem_map.mp hmem
      obtain ⟨hbootLe, hle⟩ := hclock.heartbeat_bounds (t := u) (by
        rw [heartbeats_concat]
        exact hu)
      exact ⟨(UInt64.le_iff_toNat_le.mp hboot).trans (UInt64.le_iff_toNat_le.mp hbootLe),
        UInt64.le_iff_toNat_le.mp hle⟩

/-- The link is lost: the last heartbeat is older than the timeout, or none came within the grace
time after boot. -/
def LinkLost (bootMs : UInt64) (is : List Iteration) (nowMs : UInt64) : Prop :=
  (∃ t, (heartbeats is).getLast? = some t ∧ linkTimeoutMs.toNat < nowMs.toNat - t.toNat) ∨
    heartbeats is = [] ∧ bootLinkGraceMs.toNat < nowMs.toNat - bootMs.toNat

theorem lost_iff_linkLost (bootMs : UInt64) (is : List Iteration) (nowMs : UInt64) :
    (linkLimits bootMs).Lost ((heartbeats is).map UInt64.toNat).getLast? nowMs.toNat ↔
      LinkLost bootMs is nowMs := by
  unfold LinkLost Limits.Lost
  rw [List.getLast?_map]
  cases hlast : (heartbeats is).getLast? with
  | none =>
      rw [List.getLast?_eq_none_iff] at hlast
      simp [hlast, linkLimits]
  | some t =>
      have hne : heartbeats is ≠ [] := by
        intro hnil
        rw [hnil] at hlast
        cases hlast
      simp [hne, linkLimits]

/-- After a run the flag says whether the link was lost at its last check. -/
theorem linkDown_iff_lost {bootMs : UInt64} (hboot : 1 ≤ bootMs) {is : List Iteration}
    {i : Iteration} (hclock : ClockForward bootMs (is ++ [i])) :
    (exec LoraTask.iterate (.booted bootMs) (is ++ [i])).linkDown = true ↔
      LinkLost bootMs (is ++ [i]) i.linkCheckMs := by
  have hrounds := hclock.rounds
  rw [(exec_watches hboot hclock).down, ← lost_iff_linkLost, ← linkRounds_beats]
  rw [List.map_append, List.map_singleton] at hrounds ⊢
  exact exec_exact (linkLimits bootMs) hrounds

/-- A lost link stays lost until a heartbeat comes. -/
theorem LinkLost.of_no_heartbeat {bootMs : UInt64} {is : List Iteration} {i : Iteration}
    {nowMs : UInt64} (h : LinkLost bootMs is nowMs) (hno : heartbeatTimes i.rx = [])
    (hle : nowMs ≤ i.linkCheckMs) : LinkLost bootMs (is ++ [i]) i.linkCheckMs := by
  have hbeats : heartbeats (is ++ [i]) = heartbeats is := by
    rw [heartbeats_concat, hno, List.append_nil]
  unfold LinkLost at h ⊢
  rw [hbeats]
  have hle' := UInt64.le_iff_toNat_le.mp hle
  rcases h with ⟨t, hlast, hlost⟩ | ⟨hnil, hlost⟩
  · exact .inl ⟨t, hlast, by omega⟩
  · exact .inr ⟨hnil, by omega⟩

/-- The link comes up only in a pass that received a heartbeat. -/
theorem heartbeat_of_up {bootMs : UInt64} (hboot : 1 ≤ bootMs) {is : List Iteration} {i : Iteration}
    (hclock : ClockForward bootMs (is ++ [i]))
    (hdown : (exec LoraTask.iterate (.booted bootMs) is).linkDown = true)
    (hup : (exec LoraTask.iterate (.booted bootMs) (is ++ [i])).linkDown = false) :
    heartbeatTimes i.rx ≠ [] := by
  intro hno
  rw [← Bool.not_eq_true, linkDown_iff_lost hboot hclock] at hup
  induction is using List.reverseRecOn with
  | nil => cases hdown
  | append_singleton is j _ =>
      have hlost := (linkDown_iff_lost hboot hclock.before).mp hdown
      refine hup (hlost.of_no_heartbeat hno (hclock.le_check _ ?_))
      rw [List.flatMap_append, List.flatMap_singleton]
      exact List.mem_cons_of_mem _ (List.mem_append_left _ (List.mem_append_right _
        (List.mem_append_right _ (List.mem_singleton_self _))))

/-! ## Other bytes -/

theorem heartbeatTimes_heartbeatsOnly (i : Iteration) :
    heartbeatTimes i.heartbeatsOnly.rx = heartbeatTimes i.rx := by
  unfold heartbeatTimes Iteration.heartbeatsOnly
  rw [List.filter_filter]
  simp only [Bool.and_self]

/-- Two tasks with the same link have the same link after a pass, with or without the other
bytes. -/
theorem LoraTask.LinkKept.iterate {s s' : LoraTask} (h : LoraTask.LinkKept s s') (i : Iteration) :
    LoraTask.LinkKept (s.iterate i) (s'.iterate i.heartbeatsOnly) := by
  obtain ⟨hboot, hlast, hdown⟩ := LoraTask.iterate_link i s
  obtain ⟨hboot', hlast', hdown'⟩ := LoraTask.iterate_link i.heartbeatsOnly s'
  rw [heartbeatTimes_heartbeatsOnly, h.last] at hlast' hdown'
  rw [h.boot, h.down] at hdown'
  exact ⟨hboot'.trans (h.boot.trans hboot.symm), hdown'.trans hdown.symm, hlast'.trans hlast.symm⟩

/-- Taking the other bytes out of a run does not change its link. -/
theorem exec_heartbeatsOnly {s s' : LoraTask} (h : LoraTask.LinkKept s s') (is : List Iteration) :
    LoraTask.LinkKept (exec LoraTask.iterate s is)
      (exec LoraTask.iterate s' (is.map Iteration.heartbeatsOnly)) := by
  induction is generalizing s s' with
  | nil => exact h
  | cons i is ih => exact ih (h.iterate i)

/-- **The link state is exact**, in every run of a clock that does not go back. After each link
check it is down exactly when the link is lost, and the rest of the pass leaves it so; it comes up
only in a pass that received a heartbeat; and the run without the other bytes has the same link
state. -/
theorem link_exact {bootMs : UInt64} (hboot : 1 ≤ bootMs) (is : List Iteration) (i : Iteration)
    (hclock : ClockForward bootMs (is ++ [i])) :
    let before := exec LoraTask.iterate (.booted bootMs) is
    ((before.linkChecked i).isLinkDown = true ↔ LinkLost bootMs (is ++ [i]) i.linkCheckMs) ∧
      (before.iterate i).isLinkDown = (before.linkChecked i).isLinkDown ∧
      (before.isLinkDown = true → (before.iterate i).isLinkDown = false →
        ∃ b ∈ i.rx, b.1 = uksHeartbeatByte) ∧
      (before.iterate i).isLinkDown =
        (exec LoraTask.iterate (.booted bootMs)
          ((is ++ [i]).map Iteration.heartbeatsOnly)).isLinkDown := by
  intro before
  have hafter : exec LoraTask.iterate (.booted bootMs) (is ++ [i]) = before.iterate i := by
    rw [exec_append]
    rfl
  have hkept := (LoraTask.iterate_linkKept i before).down
  have hexact := linkDown_iff_lost hboot hclock
  rw [hafter, hkept] at hexact
  refine ⟨hexact, hkept, ?_, ?_⟩
  · intro hdown hup
    have hne := heartbeat_of_up hboot hclock hdown (by
      rw [hafter]
      exact hup)
    obtain ⟨t, ht⟩ := List.exists_mem_of_ne_nil _ hne
    obtain ⟨b, hb, -⟩ := List.mem_map.mp ht
    exact ⟨b, List.mem_of_mem_filter hb, by simpa using List.of_mem_filter hb⟩
  · rw [← hafter]
    exact (exec_heartbeatsOnly (LoraTask.LinkKept.refl _) (is ++ [i])).down.symm

/-- A pass that receives the bytes `rx` at the uptime `nowMs`, while no telemetry is published. -/
def receivingPass (rx : List UInt8) (nowMs : UInt64) : Iteration where
  rx := rx.map (·, nowMs)
  linkCheckMs := nowMs
  nowTick := 0
  queue := none
  replay _ := ⟨1, 1⟩
  live := ⟨1, 1⟩
  sampleMs := nowMs

/-- A heartbeat at 20 ms, then noise only: at 3021 ms the link is down. -/
theorem link_exact_outage :
    ((exec LoraTask.iterate (.booted 1) [receivingPass [0xB0] 20]).linkChecked
      (receivingPass [0x17] 3021)).isLinkDown = true :=
  (link_exact (le_refl 1) [receivingPass [0xB0] 20] (receivingPass [0x17] 3021)
    (by unfold ClockForward; decide)).1.mpr (.inl ⟨20, rfl, by decide⟩)

end TfnAks.Uplink
