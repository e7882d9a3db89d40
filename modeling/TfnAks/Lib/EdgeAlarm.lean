/-
# TfnAks.Lib.EdgeAlarm — an alarm on the change to a faulty value

Some actions of a machine bring a code, and the machine keeps the last one. An edge-triggered alarm
compares the next code with the kept one: it goes off when the code is faulty and another one than
before. Such an alarm is silent while a fault lasts, so the question is whether a fault can begin
unnoticed. `FaultyBlock` is a stretch of a run whose codes are all faulty, between clean ones;
`FaultyBlock.raises` finds the alarm in it.
-/
import Mathlib.Data.List.Induction
import TfnAks.Lib.Runs

namespace TfnAks.Lib.EdgeAlarm

open TfnAks.Lib.Runs

variable {σ α κ : Type*}

/-- The alarm goes off at the code `x` after `prev`. -/
def Raises (clean prev x : κ) : Prop := x ≠ clean ∧ x ≠ prev

instance [DecidableEq κ] (clean prev x : κ) : Decidable (Raises clean prev x) :=
  inferInstanceAs (Decidable (_ ∧ _))

/-- The last code of a history; a history without codes counts as clean. -/
def lastCode (code? : α → Option κ) (clean : κ) (as : List α) : κ :=
  (as.filterMap code?).getLast?.getD clean

theorem lastCode_concat (code? : α → Option κ) (clean : κ) (as : List α) (a : α) :
    lastCode code? clean (as ++ [a]) = (code? a).getD (lastCode code? clean as) := by
  unfold lastCode
  rw [List.filterMap_append]
  cases h : code? a <;> simp [h]

/-- A machine that keeps, at `stored`, the last code of its actions. -/
def Keeps (step : σ → α → σ) (code? : α → Option κ) (stored : σ → κ) : Prop :=
  ∀ s a, stored (step s a) = (code? a).getD (stored s)

/-- From a clean start the kept code is the last one of the history. -/
theorem Keeps.stored_exec {step : σ → α → σ} {code? : α → Option κ} {stored : σ → κ}
    (h : Keeps step code? stored) {s : σ} {clean : κ} (hs : stored s = clean) (as : List α) :
    stored (exec step s as) = lastCode code? clean as := by
  induction as using List.reverseRecOn with
  | nil => exact hs
  | append_singleton as a ih =>
      rw [exec_append, exec_cons, exec_nil, h, ih, lastCode_concat]

/-! ## Blocks -/

/-- In a run `pre ++ block ++ post` the codes of `block` are faulty, and it cannot be extended: the
code before it and the one after it, if any, are clean. -/
structure FaultyBlock (code? : α → Option κ) (clean : κ) (pre block post : List α) : Prop where
  nonempty : block.filterMap code? ≠ []
  faulty : ∀ x ∈ block.filterMap code?, x ≠ clean
  before : lastCode code? clean pre = clean
  after : ∀ x ∈ (post.filterMap code?).head?, x = clean

/-- **No block is silent.** The alarm goes off at the first code of a block. -/
theorem FaultyBlock.raises {code? : α → Option κ} {clean : κ} {pre block post : List α}
    (h : FaultyBlock code? clean pre block post) :
    ∃ before a later x, block = before ++ a :: later ∧ code? a = some x ∧
      Raises clean (lastCode code? clean (pre ++ before)) x := by
  obtain ⟨x, xs, hcodes⟩ := List.exists_cons_of_ne_nil h.nonempty
  obtain ⟨before, a, later, hblock, hnone, hx, -⟩ := List.filterMap_eq_cons_iff.mp hcodes
  refine ⟨before, a, later, x, hblock, hx, ?_⟩
  -- nothing before `a` in the block has a code, so the last one is that of `pre`
  have hlast : lastCode code? clean (pre ++ before) = clean := by
    rw [lastCode, List.filterMap_append, List.filterMap_eq_nil_iff.mpr hnone, List.append_nil]
    exact h.before
  have hfaulty : x ≠ clean := by
    apply h.faulty
    rw [hcodes]
    exact List.mem_cons_self
  rw [hlast]
  exact ⟨hfaulty, hfaulty⟩

end TfnAks.Lib.EdgeAlarm
