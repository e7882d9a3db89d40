/-
# TfnAks.Lib.SparseSampling — thinning a stream of ticks out

A sampler takes the first tick and after it each tick that is `due` by then, measured from the last
one it took. So neighbours among the picked ticks are due by one another (`isChain_pick`), and every
tick has a picked one not after it by which it was not due yet (`exists_pick_before`).

When `due` is a minimal distance in time, a bounded window holds only so many picked ticks
(`length_le_of_gaps`), however the ticks lie in it. Conversely, times without a hole have no wide
gap (`isChain_of_no_hole`).
-/
import Mathlib.Data.List.Chain
import Mathlib.Data.Nat.Notation

namespace TfnAks.Lib.SparseSampling

section Pick

variable {α β : Type*} (key : α → β) (due : β → β → Prop) [DecidableRel due]

/-- The ticks a sampler takes, when the last one it took has the key `last` (none yet if `none`). -/
def pick : Option β → List α → List α
  | _, [] => []
  | none, x :: xs => x :: pick (some (key x)) xs
  | some l, x :: xs => if due l (key x) then x :: pick (some (key x)) xs else pick (some l) xs

@[simp] theorem pick_nil (last : Option β) : pick key due last [] = [] := by
  cases last <;> rfl

@[simp] theorem pick_none_cons (x : α) (xs : List α) :
    pick key due none (x :: xs) = x :: pick key due (some (key x)) xs := rfl

theorem pick_cons_of_due {l : β} {x : α} (h : due l (key x)) (xs : List α) :
    pick key due (some l) (x :: xs) = x :: pick key due (some (key x)) xs := if_pos h

theorem pick_cons_of_not_due {l : β} {x : α} (h : ¬ due l (key x)) (xs : List α) :
    pick key due (some l) (x :: xs) = pick key due (some l) xs := if_neg h

theorem pick_sublist (last : Option β) (xs : List α) : (pick key due last xs).Sublist xs := by
  induction xs generalizing last with
  | nil => rw [pick_nil]
  | cons x xs ih =>
      cases last with
      | none => exact (ih _).cons_cons x
      | some l =>
          by_cases h : due l (key x)
          · rw [pick_cons_of_due key due h]
            exact (ih _).cons_cons x
          · rw [pick_cons_of_not_due key due h]
            exact (ih _).cons x

/-- The first tick is taken. -/
theorem head?_pick_none (xs : List α) : (pick key due none xs).head? = xs.head? := by
  cases xs <;> rfl

theorem isChain_pick_some (l : β) (xs : List α) :
    (∀ y ∈ (pick key due (some l) xs).head?, due l (key y)) ∧
      (pick key due (some l) xs).IsChain fun a b => due (key a) (key b) := by
  induction xs generalizing l with
  | nil => exact ⟨fun _ h => (Option.not_mem_none _ h).elim, .nil⟩
  | cons x xs ih =>
      by_cases h : due l (key x)
      · rw [pick_cons_of_due key due h]
        refine ⟨?_, List.isChain_cons.mpr (ih (key x))⟩
        intro y hy
        rw [← Option.some.inj hy]
        exact h
      · rw [pick_cons_of_not_due key due h]
        exact ih l

/-- **Neighbours among the picked ticks are due by one another.** -/
theorem isChain_pick (last : Option β) (xs : List α) :
    (pick key due last xs).IsChain fun a b => due (key a) (key b) := by
  cases last with
  | some l => exact (isChain_pick_some key due l xs).2
  | none =>
      cases xs with
      | nil => exact .nil
      | cons x xs => exact List.isChain_cons.mpr (isChain_pick_some key due (key x) xs)

theorem isChain_and {R S : α → α → Prop} {xs : List α} (hR : xs.IsChain R) (hS : xs.IsChain S) :
    xs.IsChain fun a b => R a b ∧ S a b := by
  induction xs with
  | nil => exact .nil
  | cons x xs ih =>
      rw [List.isChain_cons] at hR hS ⊢
      exact ⟨fun y hy => ⟨hR.1 y hy, hS.1 y hy⟩, ih hR.2 hS.2⟩

variable {r : β → β → Prop}

theorem exists_before_some (hirrefl : ∀ k, ¬ due k k) (hrefl : ∀ k, r k k) {l : β} {xs : List α}
    (hl : ∀ x ∈ xs, r l (key x)) (hsorted : xs.Pairwise fun a b => r (key a) (key b)) {x : α}
    (hx : x ∈ xs) :
    ∃ k, (k = l ∨ ∃ q ∈ pick key due (some l) xs, key q = k) ∧ r k (key x) ∧ ¬ due k (key x) := by
  induction xs generalizing l with
  | nil => exact absurd hx List.not_mem_nil
  | cons y ys ih =>
      rw [List.pairwise_cons] at hsorted
      by_cases hdue : due l (key y)
      · rw [pick_cons_of_due key due hdue]
        rcases List.mem_cons.mp hx with rfl | hx
        · exact ⟨key x, .inr ⟨x, List.mem_cons_self, rfl⟩, hrefl _, hirrefl _⟩
        · obtain ⟨k, hk, hrk, hnot⟩ := ih hsorted.1 hsorted.2 hx
          refine ⟨k, .inr ?_, hrk, hnot⟩
          rcases hk with rfl | ⟨q, hq, hkey⟩
          · exact ⟨y, List.mem_cons_self, rfl⟩
          · exact ⟨q, List.mem_cons_of_mem y hq, hkey⟩
      · rw [pick_cons_of_not_due key due hdue]
        rcases List.mem_cons.mp hx with rfl | hx
        · exact ⟨l, .inl rfl, hl x List.mem_cons_self, hdue⟩
        · exact ih (fun z hz => hl z (List.mem_cons_of_mem y hz)) hsorted.2 hx

/-- **Every tick has a picked one not after it by which it was not due yet.** -/
theorem exists_pick_before (hirrefl : ∀ k, ¬ due k k) (hrefl : ∀ k, r k k) {xs : List α}
    (hsorted : xs.Pairwise fun a b => r (key a) (key b)) {x : α} (hx : x ∈ xs) :
    ∃ q ∈ pick key due none xs, r (key q) (key x) ∧ ¬ due (key q) (key x) := by
  cases xs with
  | nil => exact absurd hx List.not_mem_nil
  | cons y ys =>
      rw [pick_none_cons]
      rw [List.pairwise_cons] at hsorted
      rcases List.mem_cons.mp hx with rfl | hx
      · exact ⟨x, List.mem_cons_self, hrefl _, hirrefl _⟩
      · obtain ⟨k, hk, hrk, hnot⟩ :=
          exists_before_some key due hirrefl hrefl hsorted.1 hsorted.2 hx
        rcases hk with rfl | ⟨q, hq, rfl⟩
        · exact ⟨y, List.mem_cons_self, hrk, hnot⟩
        · exact ⟨q, List.mem_cons_of_mem y hq, hrk, hnot⟩

end Pick

section Gaps

variable {α : Type*} {time : α → ℕ} {period : ℕ}

/-- Items `period` apart take `period` each. -/
theorem time_add_length_mul_le {x : α} {xs : List α}
    (h : (x :: xs).IsChain fun a b => time a + period ≤ time b) :
    ∃ y ∈ x :: xs, time x + xs.length * period ≤ time y := by
  induction xs generalizing x with
  | nil => exact ⟨x, List.mem_cons_self, by simp⟩
  | cons y ys ih =>
      rw [List.isChain_cons_cons] at h
      obtain ⟨z, hz, hle⟩ := ih h.2
      refine ⟨z, List.mem_cons_of_mem x hz, ?_⟩
      have hgap := h.1
      rw [List.length_cons, Nat.succ_mul]
      omega

/-- In a stream in order of time the first and the last item bound the window. -/
theorem window_of_ends {window : ℕ} {xs : List α}
    (hsorted : xs.Pairwise fun a b => time a ≤ time b)
    (hends : ∀ first ∈ xs.head?, ∀ last ∈ xs.getLast?, time last - time first < window) :
    ∀ a ∈ xs, ∀ b ∈ xs, time b < time a + window := by
  intro a ha b hb
  -- any two lie between the first and the last
  have hfirst : ∃ first ∈ xs.head?, time first ≤ time a := by
    cases xs with
    | nil => exact absurd ha List.not_mem_nil
    | cons x xs =>
        refine ⟨x, rfl, ?_⟩
        rcases List.mem_cons.mp ha with rfl | ha
        · exact Nat.le_refl _
        · exact (List.pairwise_cons.mp hsorted).1 a ha
  have hlast : ∃ last ∈ xs.getLast?, time b ≤ time last := by
    rcases List.eq_nil_or_concat xs with rfl | ⟨ys, y, rfl⟩
    · exact absurd hb List.not_mem_nil
    · rw [List.concat_eq_append] at hb hsorted ⊢
      refine ⟨y, List.getLast?_concat, ?_⟩
      rcases List.mem_append.mp hb with hb | hb
      · exact (List.pairwise_append.mp hsorted).2.2 b hb y (List.mem_singleton_self y)
      · rw [List.mem_singleton.mp hb]
  obtain ⟨first, hfirstMem, hfirst⟩ := hfirst
  obtain ⟨last, hlastMem, hlast⟩ := hlast
  have hlt := hends first hfirstMem last hlastMem
  omega

/-- **A window of less than `n` periods holds at most `n` items `period` apart.** -/
theorem length_le_of_gaps {n : ℕ} {xs : List α}
    (hgaps : xs.IsChain fun a b => time a + period ≤ time b)
    (hwindow : ∀ a ∈ xs, ∀ b ∈ xs, time b < time a + n * period) : xs.length ≤ n := by
  cases xs with
  | nil => exact Nat.zero_le n
  | cons x xs =>
      obtain ⟨y, hy, hle⟩ := time_add_length_mul_le hgaps
      have hlt := hwindow x List.mem_cons_self y hy
      have hmul : xs.length * period < n * period := by omega
      exact Nat.lt_of_mul_lt_mul_right hmul

/-- In a list in order of time nothing lies between neighbours: if wherever two items are more than
`width` apart there is one between them, then neighbours are at most `width` apart. -/
theorem isChain_of_no_hole {width : ℕ} {ts : List ℕ} (hsorted : ts.Pairwise (· < ·))
    (h : ∀ a ∈ ts, ∀ b ∈ ts, a + width < b → ∃ u ∈ ts, a < u ∧ u < b) :
    ts.IsChain fun a b => b ≤ a + width := by
  induction ts with
  | nil => exact .nil
  | cons x xs ih =>
      rw [List.pairwise_cons] at hsorted
      refine List.isChain_cons.mpr ⟨?_, ih hsorted.2 ?_⟩
      · intro y hy
        by_contra hwide
        have hmem : y ∈ xs := List.mem_of_mem_head? hy
        obtain ⟨u, hu, hxu, huy⟩ :=
          h x List.mem_cons_self y (List.mem_cons_of_mem x hmem) (by omega)
        rcases List.mem_cons.mp hu with rfl | hu
        · omega
        · -- `y` is the first of `xs`, so `u` is not before it
          obtain ⟨ys, rfl⟩ : ∃ ys, xs = y :: ys := ⟨xs.tail, List.eq_cons_of_mem_head? hy⟩
          rcases List.mem_cons.mp hu with rfl | hu
          · omega
          · have hlt := (List.pairwise_cons.mp hsorted.2).1 u hu
            omega
      · intro a ha b hb hwide
        obtain ⟨u, hu, hau, hub⟩ :=
          h a (List.mem_cons_of_mem x ha) b (List.mem_cons_of_mem x hb) hwide
        rcases List.mem_cons.mp hu with rfl | hu
        · have hlt := hsorted.1 a ha
          omega
        · exact ⟨u, hu, hau, hub⟩

end Gaps

end TfnAks.Lib.SparseSampling
