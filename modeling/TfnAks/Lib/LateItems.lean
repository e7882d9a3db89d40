/-
# TfnAks.Lib.LateItems — draining a page whose last items keep changing

`Lib.BudgetedRefresh` drains a page on fixed values. Here the values may change from pass to pass,
but only in items near the end of the page. As long as the passes have not got there they send what
they would send of a fixed page (`due_refreshed_drain`, `refreshed_drain_succ`). Once the end is
reached, a pass that is not stopped by its budget brings every item it walks up to date
(`refreshed_due_of_eq`).
-/
import TfnAks.Lib.BudgetedRefresh

namespace TfnAks.Lib.BudgetedRefresh

section Drain

variable {K : Type*} {cost : K → Nat} {budget : Nat}

theorem fitting_eq_self {ks : List K} (h : (ks.map cost).sum ≤ budget) :
    fitting cost budget ks = ks := by
  induction ks generalizing budget with
  | nil => rfl
  | cons k ks ih =>
      rw [List.map_cons, List.sum_cons] at h
      rw [fitting_cons_of_le ks (by omega), ih (by omega)]

theorem drain_isPrefix (n : Nat) (ks : List K) : drain cost budget n ks <+: ks := by
  induction n generalizing ks with
  | zero => exact List.nil_prefix
  | succ n ih =>
      have hprefix : fitting cost budget ks <+: ks := fitting_isPrefix budget ks
      have hsplit := List.prefix_iff_eq_append.mp hprefix
      rw [drain]
      conv => rhs; rw [← hsplit]
      exact (List.prefix_append_right_inj _).mpr (ih _)

/-- The last of the passes goes on where the others stopped. -/
theorem drain_succ (n : Nat) (ks : List K) :
    drain cost budget (n + 1) ks =
      drain cost budget n ks ++
        fitting cost budget (ks.drop (drain cost budget n ks).length) := by
  induction n generalizing ks with
  | zero => simp [drain]
  | succ n ih =>
      rw [drain, ih, drain, List.length_append, ← List.append_assoc, List.drop_drop]

theorem drain_isPrefix_of_le {m n : Nat} (h : m ≤ n) (ks : List K) :
    drain cost budget m ks <+: drain cost budget n ks := by
  induction n, h using Nat.le_induction with
  | base => exact List.prefix_refl _
  | succ n _ ih =>
      rw [drain_succ]
      exact ih.trans (List.prefix_append _ _)

end Drain

section Values

variable {K : Type*} {V : K → Type*} [∀ k, DecidableEq (V k)] [DecidableEq K]
  {cost : K → Nat} {budget : Nat} {page : List K} {value steady cache : ∀ k, V k}

/-- **Before the late items** the due items are those the passes have not reached, when no current
value is a cached one to begin with. -/
theorem due_refreshed_drain (hpage : page.Nodup) (hdiff : ∀ k ∈ page, value k ≠ cache k) {n : Nat}
    (hsteady : ∀ k ∈ drain cost budget n page, value k = steady k) :
    due page false value (refreshed (drain cost budget n page) steady cache) =
      page.drop (drain cost budget n page).length := by
  rw [← filter_notMem_of_isPrefix hpage (drain_isPrefix n page)]
  refine List.filter_congr fun k hk => ?_
  unfold refreshed
  by_cases hsent : k ∈ drain cost budget n page
  · rw [if_pos hsent]
    simp [hsent, hsteady k hsent]
  · rw [if_neg hsent]
    simp [hsent, hdiff k hk]

omit [∀ k, DecidableEq (V k)] in
theorem refreshed_congr {sent : List K} {value' : ∀ k, V k} (h : ∀ k ∈ sent, value k = value' k) :
    refreshed sent value cache = refreshed sent value' cache := by
  funext k
  unfold refreshed
  by_cases hk : k ∈ sent
  · rw [if_pos hk, if_pos hk, h k hk]
  · rw [if_neg hk, if_neg hk]

omit [∀ k, DecidableEq (V k)] in
/-- A pass that goes on from there. -/
theorem refreshed_drain_succ {n : Nat}
    (hsteady : ∀ k ∈ drain cost budget n page, value k = steady k) :
    refreshed (fitting cost budget (page.drop (drain cost budget n page).length)) value
        (refreshed (drain cost budget n page) steady cache) =
      refreshed (drain cost budget (n + 1) page) value cache := by
  rw [drain_succ, refreshed_append, ← refreshed_congr hsteady]

/-- A pass that reaches all it walks, when the rest of the page is up to date. -/
theorem refreshed_due_of_eq {walked : List K} (h : ∀ k, k ∉ walked → value k = cache k) :
    refreshed (due walked false value cache) value cache = value := by
  funext k
  unfold refreshed
  by_cases hk : k ∈ due walked false value cache
  · rw [if_pos hk]
  · rw [if_neg hk]
    rw [mem_due_iff, not_and_not_right] at hk
    by_cases hw : k ∈ walked
    · exact (hk hw).symm
    · exact (h k hw).symm

end Values

end TfnAks.Lib.BudgetedRefresh
