/-
# TfnAks.Lib.FifoService — a queue whose server may skip turns

Some actions of a machine put items at the back of a queue; others are turns of the server, and a
turn either serves, that is, takes the head, or is skipped. `Fifo` is the law of such a queue. Two
things follow by induction over a run: everything put in comes out in that order or is still waiting
(`Fifo.ledger`), and after `k` servings the first `k` items have been taken (`Fifo.take_isPrefix`).

How many turns `k` servings need is a question of its own. `Patient` answers it by a rank that a
skipped turn lowers: with ranks up to `bound`, a turn serves at least once in `bound + 1` turns
(`Patient.turns_le`). Where no rank bounds the delay because others can cause it again and again,
each of them is a credit for one more turn (`exists_of_credits`).
-/
import Mathlib.Data.List.Infix
import TfnAks.Lib.Runs

namespace TfnAks.Lib.FifoService

open TfnAks.Lib.Runs

variable {σ α ε : Type*}

/-- `put s a` goes to the back; a serving action takes the head. -/
def Fifo (step : σ → α → σ) (queue : σ → List ε) (put : σ → α → List ε) (serves : σ → α → Bool) :
    Prop :=
  ∀ s a, queue (step s a) = (if serves s a then (queue s).tail else queue s) ++ put s a

/-- The item an action takes. -/
def taken (queue : σ → List ε) (serves : σ → α → Bool) (s : σ) (a : α) : List ε :=
  if serves s a then (queue s).head?.toList else []

/-- The number of serving actions of a run. -/
def servings (step : σ → α → σ) (serves : σ → α → Bool) : σ → List α → ℕ
  | _, [] => 0
  | s, a :: as => (if serves s a then 1 else 0) + servings step serves (step s a) as

/-! ## What comes out -/

section Fifo

variable {step : σ → α → σ} {queue : σ → List ε} {put : σ → α → List ε} {serves : σ → α → Bool}

theorem Fifo.balance (h : Fifo step queue put serves) (s : σ) (a : α) :
    queue s ++ put s a = taken queue serves s a ++ queue (step s a) := by
  rw [h s a, taken]
  split
  · cases queue s <;> rfl
  · rfl

/-- **The ledger.** What was waiting and what was put in is what was taken and what is waiting, in
order. -/
theorem Fifo.ledger (h : Fifo step queue put serves) (s : σ) (as : List α) :
    queue s ++ gather step put s as =
      gather step (taken queue serves) s as ++ queue (exec step s as) := by
  induction as generalizing s with
  | nil => exact List.append_nil (queue s)
  | cons a as ih =>
      calc queue s ++ gather step put s (a :: as)
          = (queue s ++ put s a) ++ gather step put (step s a) as := by
            rw [gather_cons, List.append_assoc]
        _ = taken queue serves s a ++ (queue (step s a) ++ gather step put (step s a) as) := by
            rw [h.balance, List.append_assoc]
        _ = gather step (taken queue serves) s (a :: as) ++ queue (exec step s (a :: as)) := by
            rw [ih, gather_cons, exec_cons, List.append_assoc]

/-- **After `k` servings** the first `k` items are out. -/
theorem Fifo.take_isPrefix (h : Fifo step queue put serves) {k : ℕ} {s : σ} {as : List α}
    (hk : k ≤ (queue s).length) (hserved : k ≤ servings step serves s as) :
    (queue s).take k <+: gather step (taken queue serves) s as := by
  induction as generalizing k s with
  | nil =>
      obtain rfl : k = 0 := Nat.le_zero.mp hserved
      exact List.nil_prefix
  | cons a as ih =>
      rw [servings] at hserved
      rw [gather_cons, taken]
      have hstep := h s a
      by_cases hs : serves s a = true
      · rw [if_pos hs] at hserved hstep ⊢
        -- the head is taken, the other `k - 1` items move up
        cases hq : queue s with
        | nil => simp
        | cons e rest =>
            rw [hq, List.tail_cons] at hstep
            rw [hq, List.length_cons] at hk
            cases k with
            | zero => exact List.nil_prefix
            | succ k =>
                have hlen : k ≤ rest.length := Nat.le_of_succ_le_succ hk
                have hrest : (queue (step s a)).take k = rest.take k := by
                  rw [hstep, List.take_append_of_le_length hlen]
                have hprefix := ih (k := k) (s := step s a)
                  (by rw [hstep, List.length_append]; omega) (by omega)
                rw [hrest] at hprefix
                exact List.cons_prefix_cons.mpr ⟨rfl, hprefix⟩
      · rw [if_neg hs] at hserved hstep ⊢
        -- nothing is taken, and what is put in comes after the first `k` items
        have hsame : (queue (step s a)).take k = (queue s).take k := by
          rw [hstep, List.take_append_of_le_length hk]
        have hprefix := ih (k := k) (s := step s a)
          (by rw [hstep, List.length_append]; omega) (by omega)
        rw [hsame] at hprefix
        exact hprefix

end Fifo

/-! ## How many turns it takes -/

/-- A skipped turn lowers the rank, and what is no turn does not raise it. -/
structure Patient (step : σ → α → σ) (turn : α → Bool) (serves : σ → α → Bool) (rank : σ → ℕ)
    (bound : ℕ) : Prop where
  rank_le : ∀ s, rank s ≤ bound
  between : ∀ s a, turn a = false → rank (step s a) ≤ rank s
  skipped : ∀ s a, turn a = true → serves s a = false → rank (step s a) < rank s

/-- **The bound.** Between two servings at most `bound` turns are skipped. -/
theorem Patient.turns_le {step : σ → α → σ} {turn : α → Bool} {serves : σ → α → Bool}
    {rank : σ → ℕ} {bound : ℕ} (h : Patient step turn serves rank bound) (s : σ) (as : List α) :
    as.countP turn ≤ (bound + 1) * servings step serves s as + rank s := by
  induction as generalizing s with
  | nil => exact Nat.zero_le _
  | cons a as ih =>
      have hrest := ih (step s a)
      have hbound := h.rank_le (step s a)
      rw [List.countP_cons, servings, Nat.mul_add]
      by_cases hturn : turn a = true
      · rw [if_pos hturn]
        by_cases hs : serves s a = true
        · rw [if_pos hs]
          omega
        · have hlower := h.skipped s a hturn (eq_false_of_ne_true hs)
          rw [if_neg hs]
          omega
      · have hkept := h.between s a (eq_false_of_ne_true hturn)
        rw [if_neg hturn]
        omega

/-- In `bound + 1` turns per item, `k` items are served. -/
theorem Patient.le_servings {step : σ → α → σ} {turn : α → Bool} {serves : σ → α → Bool}
    {rank : σ → ℕ} {bound k : ℕ} (h : Patient step turn serves rank bound) {s : σ} {as : List α}
    (hturns : (bound + 1) * k ≤ as.countP turn) : k ≤ servings step serves s as := by
  have hle := h.turns_le s as
  have hrank := h.rank_le s
  by_contra hlt
  have hmul : (bound + 1) * (servings step serves s as + 1) ≤ (bound + 1) * k :=
    Nat.mul_le_mul_left _ (Nat.lt_of_not_le hlt)
  rw [Nat.mul_add] at hmul
  omega

/-- A run with a serving has an action that serves. -/
theorem exists_serves_of_servings_pos {step : σ → α → σ} {serves : σ → α → Bool} {s : σ}
    {as : List α} (h : 0 < servings step serves s as) :
    ∃ pre a post, as = pre ++ a :: post ∧ serves (exec step s pre) a = true := by
  induction as generalizing s with
  | nil => exact absurd h (Nat.lt_irrefl 0)
  | cons a as ih =>
      by_cases hs : serves s a = true
      · exact ⟨[], a, as, rfl, hs⟩
      · rw [servings, if_neg hs, Nat.zero_add] at h
        obtain ⟨pre, b, post, rfl, hb⟩ := ih h
        exact ⟨a :: pre, b, post, rfl, hb⟩

/-! ## How long something can be put off -/

/-- **The credit rule.** Under `I`, a turn that does not end the wait spends a credit, and an action
gives one at most if it is a cause of delay. So the wait is over within one turn more than there are
credits and causes. -/
theorem exists_of_credits {step : σ → α → σ} {I : σ → Prop} {A : α → Prop} {ends : σ → α → Prop}
    {turn delays : α → Bool} {credits : σ → ℕ}
    (hstep : ∀ s a, A a → I s → ¬ ends s a → I (step s a) ∧
      credits (step s a) + (if turn a then 1 else 0) ≤ credits s + if delays a then 1 else 0)
    {s : σ} (hs : I s) {as : List α} (has : ∀ a ∈ as, A a)
    (hturns : credits s + as.countP delays < as.countP turn) :
    ∃ pre a post, as = pre ++ a :: post ∧ ends (exec step s pre) a := by
  induction as generalizing s with
  | nil => exact absurd hturns (Nat.not_lt_zero _)
  | cons a as ih =>
      rw [List.forall_mem_cons] at has
      by_cases hends : ends s a
      · exact ⟨[], a, as, rfl, hends⟩
      · obtain ⟨hnext, hcredits⟩ := hstep s a has.1 hs hends
        rw [List.countP_cons, List.countP_cons] at hturns
        obtain ⟨pre, b, post, rfl, hb⟩ := ih hnext has.2 (by omega)
        exact ⟨a :: pre, b, post, rfl, hb⟩

end TfnAks.Lib.FifoService
