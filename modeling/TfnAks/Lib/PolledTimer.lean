/-
# TfnAks.Lib.PolledTimer — a periodic timer that is only looked at now and then

A loop keeps the tick at which it last did its periodic work, in a 32-bit counter that wraps, and
does the work again when it finds that a period has gone by (`poll`). How often it does depends on
how often it looks: a firing is late by less than the gap between two looks, and the lateness is
lost. So `n` firings take at most `n` times the period and the gap (`le_countFires`), wherever the
timer stood before the first look.
-/
import TfnAks.Lib.LatchedTimeout

namespace TfnAks.Lib.PolledTimer

open TfnAks.Lib.LatchedTimeout

variable (period : UInt32)

/-- A period has gone by. -/
def fires (last now : UInt32) : Bool := period ≤ now - last

/-- The tick kept after a look at `now`. -/
def poll (last now : UInt32) : UInt32 := if fires period last now then now else last

/-- How often the timer fires in a series of looks. -/
def countFires : UInt32 → List UInt32 → ℕ
  | _, [] => 0
  | last, now :: rest =>
    (if fires period last now then 1 else 0) + countFires (poll period last now) rest

/-- At the real tick `t` the last firing is `age` ticks old, less than a period. -/
structure Within (last : UInt32) (t age : ℕ) : Prop where
  lt : age < period.toNat
  age_eq : (UInt32.ofNat t - last).toNat = age

variable {period}

/-- A look leaves the timer within its period. -/
theorem within_poll (hperiod : 0 < period.toNat) (last : UInt32) (t : ℕ) :
    ∃ age, Within period (poll period last (UInt32.ofNat t)) t age := by
  unfold poll
  by_cases h : fires period last (UInt32.ofNat t) = true
  · rw [if_pos h]
    exact ⟨0, hperiod, by rw [UInt32.sub_self]; rfl⟩
  · rw [if_neg h]
    have hlt : UInt32.ofNat t - last < period := by
      rw [fires, decide_eq_true_iff] at h
      exact UInt32.not_le.mp h
    exact ⟨_, UInt32.lt_iff_toNat_lt.mp hlt, rfl⟩

/-- Until the next look the age grows with the time. -/
theorem Within.later {last : UInt32} {t t' age gap : ℕ} (h : Within period last t age) (ht : t ≤ t')
    (hgap : t' ≤ t + gap) (hwrap : period.toNat + gap ≤ 2 ^ 32) :
    (UInt32.ofNat t' - last).toNat = age + (t' - t) := by
  have hlt := h.lt
  have hage := h.age_eq
  have hmod : ∀ n : ℕ, (UInt32.ofNat n).toNat = n % 2 ^ 32 := fun n => by simp
  rw [UInt32.toNat_sub, hmod] at hage ⊢
  omega

/-- **One look.** A firing covers less than the period and the gap, no firing loses nothing. -/
theorem Within.poll {last : UInt32} {t t' age gap : ℕ} (h : Within period last t age) (ht : t ≤ t')
    (hgap : t' ≤ t + gap) (hwrap : period.toNat + gap ≤ 2 ^ 32) (hperiod : 0 < period.toNat) :
    ∃ age', Within period (poll period last (UInt32.ofNat t')) t' age' ∧
      t' - t + age ≤
        (if fires period last (UInt32.ofNat t') then period.toNat + gap else 0) + age' := by
  have hlater := h.later ht hgap hwrap
  have hlt := h.lt
  unfold PolledTimer.poll
  by_cases hfires : fires period last (UInt32.ofNat t') = true
  · rw [if_pos hfires, if_pos hfires]
    refine ⟨0, ⟨hperiod, by rw [UInt32.sub_self]; rfl⟩, ?_⟩
    omega
  · rw [if_neg hfires, if_neg hfires]
    refine ⟨age + (t' - t), ⟨?_, hlater⟩, by omega⟩
    rw [fires, decide_eq_true_iff, UInt32.not_le, UInt32.lt_iff_toNat_lt, hlater] at hfires
    exact hfires

/-- The time of a series of looks, and the age before it, are covered by the firings. -/
theorem Within.time_lt {gap : ℕ} (hwrap : period.toNat + gap ≤ 2 ^ 32) (hperiod : 0 < period.toNat)
    {ts : List ℕ} {last : UInt32} {t age : ℕ} (h : Within period last t age)
    (hlooks : (t :: ts).IsChain fun a b => a ≤ b ∧ b ≤ a + gap) :
    (t :: ts).getLast (List.cons_ne_nil t ts) - t + age <
      countFires period last (ts.map UInt32.ofNat) * (period.toNat + gap) + period.toNat := by
  induction ts generalizing last t age with
  | nil =>
      have hlt := h.lt
      simpa using Nat.lt_of_lt_of_le hlt (Nat.le_add_left _ _)
  | cons t' ts ih =>
      rw [List.isChain_cons_cons] at hlooks
      obtain ⟨⟨ht, hgap⟩, hrest⟩ := hlooks
      -- a look that fires covers the time since the last firing, any other lets the age grow
      obtain ⟨age', hwithin, hcovered⟩ := h.poll ht hgap hwrap hperiod
      have hlater := ih hwithin hrest
      rw [List.getLast_cons (List.cons_ne_nil t' ts), List.map_cons, countFires, Nat.add_mul]
      generalize countFires period (PolledTimer.poll period last (UInt32.ofNat t'))
        (ts.map UInt32.ofNat) * (period.toNat + gap) = covered at hlater ⊢
      split at hcovered
      · rename_i hfires
        rw [if_pos hfires, Nat.one_mul]
        omega
      · rename_i hfires
        rw [if_neg hfires, Nat.zero_mul]
        omega

/-- **Enough time, enough firings.** In a series of looks with at most `gap` between two of them,
`n` times the period and the gap are time for `n` firings. -/
theorem le_countFires {gap n : ℕ} (hwrap : period.toNat + gap ≤ 2 ^ 32) (hperiod : 0 < period.toNat)
    {t : ℕ} {ts : List ℕ} (last : UInt32)
    (hlooks : (t :: ts).IsChain fun a b => a ≤ b ∧ b ≤ a + gap)
    (htime : n * (period.toNat + gap) ≤ (t :: ts).getLast (List.cons_ne_nil t ts) - t) :
    n ≤ countFires period last ((t :: ts).map UInt32.ofNat) := by
  obtain ⟨age, hwithin⟩ := within_poll hperiod last t
  have hlt := hwithin.time_lt hwrap hperiod hlooks
  rw [List.map_cons, countFires]
  generalize countFires period (poll period last (UInt32.ofNat t)) (ts.map UInt32.ofNat) = count
    at hlt ⊢
  have hmul : n * (period.toNat + gap) < (count + 1) * (period.toNat + gap) := by
    rw [Nat.add_mul, Nat.one_mul]
    omega
  have hcount : n < count + 1 := Nat.lt_of_mul_lt_mul_right hmul
  omega

end TfnAks.Lib.PolledTimer
