/-
# TfnAks.Lib.FirstBest — a scan that keeps the best value and where it was found first

A loop walks some indices in increasing order and keeps the best value seen together with its index;
a value replaces the best only if it is strictly better. What "better" means is a strict total order
`r`, read "the right one is better": `<` for a maximum, `>` for a minimum.

`scan_isFirstBest` says what the loop finds, `IsFirstBest.value_eq` that the value does not depend
on the order of the indices.
-/
import Mathlib

namespace TfnAks.Lib.FirstBest

variable {α ι : Type*} (r : α → α → Prop) [DecidableRel r]

/-- One turn of the loop. -/
def keepBest (f : ι → α) (best : α × ι) (i : ι) : α × ι :=
  if r best.1 (f i) then (f i, i) else best

theorem keepBest_of_better {f : ι → α} {best : α × ι} {i : ι} (h : r best.1 (f i)) :
    keepBest r f best i = (f i, i) := if_pos h

theorem keepBest_of_not_better {f : ι → α} {best : α × ι} {i : ι} (h : ¬ r best.1 (f i)) :
    keepBest r f best i = best := if_neg h

/-- A loop that keeps the value without the index. -/
theorem foldl_keepValue (f : ι → α) (is : List ι) (a : α) (i : ι) :
    is.foldl (fun b i => if r b (f i) then f i else b) a =
      (is.foldl (keepBest r f) (a, i)).1 := by
  refine @List.foldl_hom (α × ι) α ι Prod.fst _ _ is (a, i) ?_
  intro b i
  unfold keepBest
  split_ifs <;> rfl

omit [DecidableRel r] in
/-- Of the indices `is`, `best` has the best value and the first index that has it. -/
structure IsFirstBest [LT ι] (f : ι → α) (is : List ι) (best : α × ι) : Prop where
  value : best.1 = f best.2
  mem : best.2 ∈ is
  unbeaten : ∀ i ∈ is, ¬ r best.1 (f i)
  first : ∀ i ∈ is, i < best.2 → r (f i) best.1

section Scan

variable {r} [IsStrictTotalOrder α r] [LinearOrder ι]

omit [DecidableRel r] in
theorem IsFirstBest.start (f : ι → α) (i : ι) : IsFirstBest r f [i] (f i, i) where
  value := rfl
  mem := List.mem_singleton_self i
  unbeaten := by
    intro j hj
    rw [List.mem_singleton.mp hj]
    exact irrefl _
  first := by
    intro j hj hlt
    rw [List.mem_singleton.mp hj] at hlt
    exact absurd hlt (lt_irrefl i)

omit [DecidableRel r] [LinearOrder ι] in
/-- What beats `a` beats whatever does not beat `a`. -/
theorem rel_of_not_better {a b c : α} (hab : ¬ r a b) (hac : r a c) : r b c := by
  by_cases hba : r b a
  · exact IsTrans.trans b a c hba hac
  · rw [← Std.Trichotomous.trichotomous a b hab hba]
    exact hac

/-- One more index, not before any of the others. -/
theorem IsFirstBest.keep {f : ι → α} {is : List ι} {best : α × ι} (h : IsFirstBest r f is best)
    {i : ι} (hi : ∀ j ∈ is, j ≤ i) : IsFirstBest r f (is ++ [i]) (keepBest r f best i) := by
  by_cases hbetter : r best.1 (f i)
  · -- a new best beats all before it, so it is also the first of its value
    rw [keepBest_of_better r hbetter]
    have hall : ∀ j ∈ is, r (f j) (f i) := fun j hj =>
      rel_of_not_better (h.unbeaten j hj) hbetter
    refine ⟨rfl, List.mem_append_right is (List.mem_singleton_self i), ?_, ?_⟩
    · intro j hj
      rcases List.mem_append.mp hj with hj | hj
      · exact asymm (hall j hj)
      · rw [List.mem_singleton.mp hj]
        exact irrefl _
    · intro j hj hlt
      rcases List.mem_append.mp hj with hj | hj
      · exact hall j hj
      · rw [List.mem_singleton.mp hj] at hlt
        exact absurd hlt (lt_irrefl i)
  · -- an equal value does not replace the one found earlier
    rw [keepBest_of_not_better r hbetter]
    refine ⟨h.value, List.mem_append_left _ h.mem, ?_, ?_⟩
    · intro j hj
      rcases List.mem_append.mp hj with hj | hj
      · exact h.unbeaten j hj
      · rw [List.mem_singleton.mp hj]
        exact hbetter
    · intro j hj hlt
      rcases List.mem_append.mp hj with hj | hj
      · exact h.first j hj hlt
      · rw [List.mem_singleton.mp hj] at hlt
        exact absurd hlt (not_lt.mpr (hi _ h.mem))

/-- **What the loop finds.** Induction on the indices from the end. -/
theorem scan_isFirstBest (f : ι → α) {i : ι} {is : List ι} (h : (i :: is).Pairwise (· ≤ ·)) :
    IsFirstBest r f (i :: is) (is.foldl (keepBest r f) (f i, i)) := by
  induction is using List.reverseRecOn with
  | nil => exact .start f i
  | append_singleton is j ih =>
      rw [← List.cons_append, List.pairwise_append] at h
      rw [List.foldl_append, List.foldl_cons, List.foldl_nil]
      exact (ih h.1).keep fun k hk => h.2.2 k hk j (List.mem_singleton_self j)

end Scan

/-- The best value depends on the values alone, not on the order in which they are looked at. -/
theorem IsFirstBest.value_eq {r : α → α → Prop} [IsStrictTotalOrder α r] {κ : Type*} [LT ι] [LT κ]
    {f : ι → α} {g : κ → α} {is : List ι} {ks : List κ} {best : α × ι} {best' : α × κ}
    (h : IsFirstBest r f is best) (h' : IsFirstBest r g ks best')
    (hfg : ∀ i ∈ is, ∃ k ∈ ks, g k = f i) (hgf : ∀ k ∈ ks, ∃ i ∈ is, f i = g k) :
    best.1 = best'.1 := by
  obtain ⟨k, hk, hgk⟩ := hfg _ h.mem
  obtain ⟨i, hi, hfi⟩ := hgf _ h'.mem
  have hle : ¬ r best.1 best'.1 := by
    rw [h'.value, ← hfi]
    exact h.unbeaten i hi
  have hge : ¬ r best'.1 best.1 := by
    rw [h.value, ← hgk]
    exact h'.unbeaten k hk
  exact Std.Trichotomous.trichotomous _ _ hle hge

end TfnAks.Lib.FirstBest
