/-
# TfnAks.Lib.Cadence — what a machine does by counting its own ticks

Some actions of a machine are ticks, the others only happen between them. If what a tick shows
depends on nothing but how many ticks went before, then a run shows a fixed schedule, whatever
happens in between (`gather_eq_schedule`).

The second part is the schedule "every so many ticks" as a timer keeps it: it remembers when it was
last on the beat and is on it again when `every` ticks have gone by (`onBeat_succ_iff`,
`lastBeat_succ`).
-/
import Mathlib.Data.Nat.Notation
import TfnAks.Lib.Runs

namespace TfnAks.Lib.Cadence

open TfnAks.Lib.Runs

/-! ## Schedules -/

section Schedule

variable {σ α ω : Type*} {step : σ → α → σ} {obs : σ → α → List ω} {ticks : α → Bool}
  {C : σ → α → Prop} {I : ℕ → σ → Prop} {schedule : ℕ → ω} {bound : ℕ}

/-- **A run shows its schedule.** `I i` is the invariant after `i` ticks; up to `bound` ticks, each
of which satisfies `C`, the tick with the number `i` shows `schedule i`. -/
theorem gather_eq_schedule
    (hbetween : ∀ i s a, ticks a = false → I i s → obs s a = [] ∧ I i (step s a))
    (htick : ∀ i s a, ticks a = true → i < bound → C s a → I i s →
      obs s a = [schedule i] ∧ I (i + 1) (step s a))
    {i : ℕ} {s : σ} {as : List α} (hs : I i s) (hC : Before step s as C)
    (hbound : i + as.countP ticks ≤ bound) :
    gather step obs s as = (List.range' i (as.countP ticks)).map schedule := by
  induction as generalizing i s with
  | nil => rfl
  | cons a as ih =>
      rw [before_cons] at hC
      rw [gather_cons]
      by_cases ha : ticks a = true
      · rw [List.countP_cons_of_pos ha] at hbound ⊢
        obtain ⟨hobs, hnext⟩ := htick i s a ha (by omega) hC.1 hs
        rw [hobs, ih hnext hC.2 (by omega), List.range'_succ]
        rfl
      · rw [List.countP_cons_of_neg ha] at hbound ⊢
        obtain ⟨hobs, hnext⟩ := hbetween i s a (Bool.eq_false_iff.mpr ha) hs
        rw [hobs, ih hnext hC.2 hbound]
        rfl

end Schedule

/-- A run with enough ticks has a first part with exactly so many. -/
theorem exists_append_count {α : Type*} [BEq α] [LawfulBEq α] (tick : α) {n : ℕ} {as : List α}
    (h : n ≤ as.count tick) : ∃ bs cs, as = bs ++ cs ∧ bs.count tick = n := by
  induction as generalizing n with
  | nil => exact ⟨[], [], rfl, (Nat.le_zero.mp h).symm⟩
  | cons a as ih =>
      by_cases ha : a = tick
      · subst ha
        rw [List.count_cons_self] at h
        rcases Nat.eq_zero_or_pos n with rfl | hpos
        · exact ⟨[], a :: as, rfl, rfl⟩
        · obtain ⟨bs, cs, rfl, hcount⟩ := ih (show n - 1 ≤ as.count a by omega)
          refine ⟨a :: bs, cs, rfl, ?_⟩
          rw [List.count_cons_self, hcount]
          omega
      · rw [List.count_cons_of_ne ha] at h
        obtain ⟨bs, cs, rfl, hcount⟩ := ih h
        exact ⟨a :: bs, cs, rfl, by rw [List.count_cons_of_ne ha, hcount]⟩

/-! ## Every so many ticks -/

section Beat

variable {every : ℕ}

/-- The tick with the number `i` is on the beat; the first one, number 0, is. -/
def OnBeat (every i : ℕ) : Prop := i % every = 0

instance (every : ℕ) : DecidablePred (OnBeat every) :=
  fun _ => inferInstanceAs (Decidable (_ = _))

/-- The last tick up to number `i` that was on the beat. -/
def lastBeat (every i : ℕ) : ℕ := i - i % every

theorem lastBeat_le (every i : ℕ) : lastBeat every i ≤ i := Nat.sub_le _ _

/-- A remainder counts up and starts over. -/
theorem succ_mod (hevery : 0 < every) (i : ℕ) :
    (i + 1) % every = if i % every + 1 = every then 0 else i % every + 1 := by
  have hlt : i % every < every := Nat.mod_lt i hevery
  have hstep : (i + 1) % every = (i % every + 1) % every := (Nat.mod_add_mod i every 1).symm
  rw [hstep]
  split
  · rename_i hfull
    rw [hfull, Nat.mod_self]
  · exact Nat.mod_eq_of_lt (by omega)

theorem onBeat_succ_iff (hevery : 0 < every) (i : ℕ) :
    OnBeat every (i + 1) ↔ every ≤ i + 1 - lastBeat every i := by
  have hlt : i % every < every := Nat.mod_lt i hevery
  have hle : i % every ≤ i := Nat.mod_le i every
  have hdist : i + 1 - lastBeat every i = i % every + 1 := by
    rw [lastBeat]
    omega
  rw [hdist, OnBeat, succ_mod hevery]
  split <;> omega

theorem lastBeat_succ (hevery : 0 < every) (i : ℕ) :
    lastBeat every (i + 1) = if OnBeat every (i + 1) then i + 1 else lastBeat every i := by
  have hle : i % every ≤ i := Nat.mod_le i every
  by_cases hbeat : OnBeat every (i + 1)
  · rw [if_pos hbeat, lastBeat, show (i + 1) % every = 0 from hbeat, Nat.sub_zero]
  · have hcount : (i + 1) % every = i % every + 1 := by
      rw [OnBeat, succ_mod hevery] at hbeat
      rw [succ_mod hevery]
      split at hbeat
      · exact absurd rfl hbeat
      · rename_i hnot
        exact if_neg hnot
    rw [if_neg hbeat, lastBeat, lastBeat, hcount]
    omega

/-- In any `every` ticks in a row one is on the beat. -/
theorem exists_onBeat (hevery : 0 < every) (i : ℕ) :
    ∃ k, i ≤ k ∧ k < i + every ∧ OnBeat every k := by
  have hlt : (i + every - 1) % every < every := Nat.mod_lt _ hevery
  refine ⟨lastBeat every (i + every - 1), ?_, ?_, ?_⟩
  · rw [lastBeat]
    omega
  · have hle := lastBeat_le every (i + every - 1)
    omega
  · exact Nat.sub_mod_eq_zero_of_mod_eq (Nat.mod_mod _ _).symm

end Beat

end TfnAks.Lib.Cadence
