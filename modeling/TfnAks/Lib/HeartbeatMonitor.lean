/-
# TfnAks.Lib.HeartbeatMonitor — a link that is up while heartbeats come

A monitor works in rounds. A round takes in the heartbeats that came since the one before and then
checks the time: the link is lost when the last heartbeat is older than `timeout`, or when none ever
came and more than `grace` has passed since `boot`. A lost link goes down; one that is not lost
comes up again, but only after a first heartbeat.

That last condition never bites: a link that went down without any heartbeat stays lost until one
comes. So after each round the link is down exactly when it is lost (`exec_exact`).
-/
import TfnAks.Lib.Runs
import Mathlib.Data.List.Induction

namespace TfnAks.Lib.HeartbeatMonitor

open TfnAks.Lib.Runs

/-- When the monitor starts, and how long it waits for the first heartbeat and for a later one. -/
structure Limits where
  boot : ℕ
  grace : ℕ
  timeout : ℕ

/-- The link is lost at the time `now`, when the last heartbeat came at `last`. -/
def Limits.Lost (l : Limits) (last : Option ℕ) (now : ℕ) : Prop :=
  match last with
  | some t => l.timeout < now - t
  | none => l.grace < now - l.boot

instance (l : Limits) (last : Option ℕ) (now : ℕ) : Decidable (l.Lost last now) := by
  unfold Limits.Lost
  cases last <;> exact inferInstance

theorem Limits.Lost.mono {l : Limits} {last : Option ℕ} {now later : ℕ} (h : l.Lost last now)
    (hle : now ≤ later) : l.Lost last later := by
  cases last with
  | some t => exact h.trans_le (Nat.sub_le_sub_right hle t)
  | none => exact h.trans_le (Nat.sub_le_sub_right hle l.boot)

/-- The verdict, and the last heartbeat. -/
structure Monitor where
  down : Bool
  last : Option ℕ

/-- Up, and no heartbeat yet. -/
def Monitor.start : Monitor := ⟨false, none⟩

/-- The heartbeats that came, and the time of the check after them. -/
structure Round where
  beats : List ℕ
  now : ℕ

/-- One round: the beats since the last one, then the check. -/
def Monitor.round (l : Limits) (m : Monitor) (r : Round) : Monitor :=
  let last := r.beats.getLast?.or m.last
  { down := if l.Lost last r.now then true else if last.isSome then false else m.down
    last := last }

/-- All the heartbeats of some rounds. -/
def beats (rs : List Round) : List ℕ := rs.flatMap Round.beats

variable (l : Limits)

theorem beats_concat (rs : List Round) (r : Round) : beats (rs ++ [r]) = beats rs ++ r.beats := by
  unfold beats
  rw [List.flatMap_append, List.flatMap_singleton]

theorem last_exec (rs : List Round) :
    (exec (Monitor.round l) .start rs).last = (beats rs).getLast? := by
  induction rs using List.reverseRecOn with
  | nil => rfl
  | append_singleton rs r ih =>
      rw [exec_append, beats_concat, List.getLast?_append, ← ih]
      rfl

/-- A round is exact unless the link is down without a heartbeat and not lost any more. -/
theorem round_down_iff {m : Monitor} {r : Round}
    (h : m.down = true → r.beats.getLast?.or m.last = none → l.Lost none r.now) :
    (m.round l r).down = true ↔ l.Lost (r.beats.getLast?.or m.last) r.now := by
  show (if l.Lost (r.beats.getLast?.or m.last) r.now then true
    else if (r.beats.getLast?.or m.last).isSome then false else m.down) = true ↔ _
  by_cases hlost : l.Lost (r.beats.getLast?.or m.last) r.now
  · rw [if_pos hlost]
    exact iff_of_true rfl hlost
  · rw [if_neg hlost]
    refine iff_of_false ?_ hlost
    cases hlast : r.beats.getLast?.or m.last with
    | some t => exact Bool.false_ne_true
    | none =>
        intro hdown
        rw [hlast] at hlost
        exact hlost (h hdown hlast)

/-- **The monitor is exact.** After each round the link is down exactly when it is lost. Induction
on the rounds from the end: a link that is down with no heartbeat so far was lost in the round
before. -/
theorem exec_exact {rs : List Round} {r : Round}
    (hclock : (rs ++ [r]).Pairwise fun r r' => r.now ≤ r'.now) :
    (exec (Monitor.round l) .start (rs ++ [r])).down = true ↔
      l.Lost (beats (rs ++ [r])).getLast? r.now := by
  induction rs using List.reverseRecOn generalizing r with
  | nil =>
      refine (round_down_iff l fun hdown _ => absurd hdown Bool.false_ne_true).trans ?_
      rw [beats_concat, List.getLast?_append]
      exact Iff.rfl
  | append_singleton rs r' ih =>
      rw [List.pairwise_append] at hclock
      obtain ⟨hbefore, -, hlast⟩ := hclock
      have hle : r'.now ≤ r.now :=
        hlast r' (List.mem_append_right rs (List.mem_singleton_self r')) r
          (List.mem_singleton_self r)
      rw [exec_append, beats_concat, List.getLast?_append, ← last_exec l]
      refine round_down_iff l ?_
      intro hdown hnone
      have hlost := (ih hbefore).mp hdown
      rw [← last_exec l, (Option.or_eq_none_iff.mp hnone).2] at hlost
      exact hlost.mono hle

end TfnAks.Lib.HeartbeatMonitor
