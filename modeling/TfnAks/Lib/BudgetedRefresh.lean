/-
# TfnAks.Lib.BudgetedRefresh — repainting a page under a byte budget

A page is a list of items, each with a current value and with the value a cache remembers for it. A
pass sends the items that are due, in page order, until the next one does not fit the budget, and
the cache takes over the values that were sent. Everything a pass sends is therefore a prefix of
what is due (`fitting`), and what is due afterwards is the rest of it (`due_refreshed`).

`mem_fitting_iff` says which items the first pass reaches, `drain_eq` that enough passes send
everything that was due, once and in order. A pass that no budget stops leaves the page with the
current values, as long as the cache was right or the pass was forced (`paint_due`).
-/
import Mathlib

namespace TfnAks.Lib.BudgetedRefresh

section Fitting

variable {K : Type*} {cost : K → Nat}

/-- The items of `ks`, from the first on, as long as each still fits what is left of the budget. -/
def fitting (cost : K → Nat) (budget : Nat) : List K → List K
  | [] => []
  | k :: ks => if cost k ≤ budget then k :: fitting cost (budget - cost k) ks else []

@[simp] theorem fitting_nil (budget : Nat) : fitting cost budget [] = [] := rfl

theorem fitting_cons_of_le {budget : Nat} {k : K} (ks : List K) (h : cost k ≤ budget) :
    fitting cost budget (k :: ks) = k :: fitting cost (budget - cost k) ks := if_pos h

theorem fitting_cons_of_lt {budget : Nat} {k : K} (ks : List K) (h : budget < cost k) :
    fitting cost budget (k :: ks) = [] := if_neg (by omega)

theorem fitting_isPrefix (budget : Nat) (ks : List K) : fitting cost budget ks <+: ks := by
  induction ks generalizing budget with
  | nil => exact List.prefix_refl []
  | cons k ks ih =>
      by_cases h : cost k ≤ budget
      · rw [fitting_cons_of_le ks h]
        exact List.cons_prefix_cons.mpr ⟨rfl, ih _⟩
      · rw [fitting_cons_of_lt ks (by omega)]
        exact List.nil_prefix

/-- What a pass sends is within its budget. -/
theorem sum_fitting_le (budget : Nat) (ks : List K) :
    ((fitting cost budget ks).map cost).sum ≤ budget := by
  induction ks generalizing budget with
  | nil => exact Nat.zero_le budget
  | cons k ks ih =>
      by_cases h : cost k ≤ budget
      · have hrest := ih (budget - cost k)
        rw [fitting_cons_of_le ks h, List.map_cons, List.sum_cons]
        omega
      · rw [fitting_cons_of_lt ks (by omega)]
        exact Nat.zero_le budget

/-- The pass reaches an item exactly when everything up to and including it fits the budget. -/
theorem mem_fitting_iff {budget : Nat} {pre post : List K} {k : K}
    (h : (pre ++ k :: post).Nodup) :
    k ∈ fitting cost budget (pre ++ k :: post) ↔ ((pre ++ [k]).map cost).sum ≤ budget := by
  induction pre generalizing budget with
  | nil =>
      by_cases hk : cost k ≤ budget
      · rw [List.nil_append, fitting_cons_of_le post hk]
        simpa using hk
      · rw [List.nil_append, fitting_cons_of_lt post (by omega)]
        simpa using hk
  | cons p pre ih =>
      rw [List.cons_append, List.nodup_cons] at h
      have hne : k ≠ p := by
        rintro rfl
        exact h.1 (by simp)
      rw [List.cons_append, List.cons_append, List.map_cons, List.sum_cons]
      by_cases hp : cost p ≤ budget
      · rw [fitting_cons_of_le _ hp, List.mem_cons, or_iff_right hne, ih h.2]
        omega
      · rw [fitting_cons_of_lt _ (by omega)]
        refine iff_of_false (List.not_mem_nil) ?_
        omega

theorem exists_eq_takeWhile_append [DecidableEq K] {ks : List K} {k : K} (h : k ∈ ks) :
    ∃ post, ks = ks.takeWhile (fun j => decide (j ≠ k)) ++ k :: post := by
  induction ks with
  | nil => simp at h
  | cons j ks ih =>
      by_cases hj : j = k
      · exact ⟨ks, by simp [hj]⟩
      · obtain ⟨post, hpost⟩ := ih ((List.mem_cons.mp h).resolve_left (Ne.symm hj))
        refine ⟨post, ?_⟩
        rw [List.takeWhile_cons_of_pos (by simpa using hj), List.cons_append, ← hpost]

/-- The cost of everything up to and including `k`. -/
def costThrough [DecidableEq K] (cost : K → Nat) (ks : List K) (k : K) : Nat :=
  ((ks.takeWhile (fun j => decide (j ≠ k)) ++ [k]).map cost).sum

theorem mem_fitting_iff_costThrough [DecidableEq K] {budget : Nat} {ks : List K} (hks : ks.Nodup)
    {k : K} (h : k ∈ ks) : k ∈ fitting cost budget ks ↔ costThrough cost ks k ≤ budget := by
  obtain ⟨post, hpost⟩ := exists_eq_takeWhile_append h
  rw [hpost] at hks
  have hmem := @mem_fitting_iff _ cost budget _ _ _ hks
  rw [← hpost] at hmem
  exact hmem

/-- What `n` passes send of the items `ks`, when each pass goes on where the one before stopped. -/
def drain (cost : K → Nat) (budget : Nat) : Nat → List K → List K
  | 0, _ => []
  | n + 1, ks =>
    fitting cost budget ks ++ drain cost budget n (ks.drop (fitting cost budget ks).length)

@[simp] theorem drain_nil (budget n : Nat) : drain cost budget n [] = [] := by
  induction n with
  | zero => rfl
  | succ n ih => exact ih

/-- **Enough passes send everything, once and in order**, when each single item fits: every pass
sends at least one of what is left. -/
theorem drain_eq {budget n : Nat} {ks : List K} (hfit : ∀ k ∈ ks, cost k ≤ budget)
    (hn : ks.length ≤ n) : drain cost budget n ks = ks := by
  induction n generalizing ks with
  | zero =>
      have hnil : ks = [] := List.eq_nil_of_length_eq_zero (by omega)
      rw [hnil]
      rfl
  | succ n ih =>
      have hrest : ∀ k ∈ ks.drop (fitting cost budget ks).length, cost k ≤ budget :=
        fun k hk => hfit k (List.mem_of_mem_drop hk)
      -- the first item fits, so the pass shortens the list
      have hlen : (ks.drop (fitting cost budget ks).length).length ≤ n := by
        cases ks with
        | nil => simp
        | cons k ks =>
            rw [fitting_cons_of_le ks (hfit k List.mem_cons_self), List.length_drop]
            simp only [List.length_cons] at hn ⊢
            omega
      rw [drain, ih hrest hlen]
      exact List.prefix_iff_eq_append.mp (fitting_isPrefix budget ks)

end Fitting

section Page

variable {K : Type*} {V : K → Type*} [∀ k, DecidableEq (V k)]

/-- The items of the page that a pass has to send: all of them when it is forced, else those whose
value is not the cached one. -/
def due (page : List K) (force : Bool) (value cache : ∀ k, V k) : List K :=
  page.filter fun k => force || decide (value k ≠ cache k)

@[simp] theorem due_force (page : List K) (value cache : ∀ k, V k) :
    due page true value cache = page := by
  simp [due]

theorem mem_due_iff {page : List K} {value cache : ∀ k, V k} {k : K} :
    k ∈ due page false value cache ↔ k ∈ page ∧ value k ≠ cache k := by
  simp [due]

theorem due_append (page page' : List K) (force : Bool) (value cache : ∀ k, V k) :
    due (page ++ page') force value cache = due page force value cache ++ due page' force value cache :=
  List.filter_append ..

theorem due_nodup {page : List K} (h : page.Nodup) (force : Bool) (value cache : ∀ k, V k) :
    (due page force value cache).Nodup :=
  h.filter _

variable [DecidableEq K]

/-- The cache after the items `sent` went out. -/
def refreshed (sent : List K) (value cache : ∀ k, V k) : ∀ k, V k :=
  fun k => if k ∈ sent then value k else cache k

/-- What was sent is no longer due; nothing else changes. -/
theorem due_refreshed (page sent : List K) (value cache : ∀ k, V k) :
    due page false value (refreshed sent value cache) =
      (due page false value cache).filter fun k => decide (k ∉ sent) := by
  unfold due refreshed
  rw [List.filter_filter]
  refine List.filter_congr fun k _ => ?_
  by_cases hk : k ∈ sent <;> simp [hk]

theorem filter_notMem_of_isPrefix {ks sent : List K} (h : ks.Nodup) (hsent : sent <+: ks) :
    (ks.filter fun k => decide (k ∉ sent)) = ks.drop sent.length := by
  obtain ⟨rest, rfl⟩ := hsent
  have hdisj := (List.nodup_append'.mp h).2.2
  rw [List.filter_append, List.drop_left]
  have hnone : (sent.filter fun k => decide (k ∉ sent)) = [] := by
    rw [List.filter_eq_nil_iff]
    intro k hk
    simp [hk]
  have hall : (rest.filter fun k => decide (k ∉ sent)) = rest := by
    rw [List.filter_eq_self]
    intro k hk
    simpa using fun hs => hdisj hs hk
  rw [hnone, hall, List.nil_append]

/-- What `n` unforced passes send with the same values. -/
def passes (cost : K → Nat) (budget : Nat) (page : List K) (value : ∀ k, V k) :
    Nat → (∀ k, V k) → List K
  | 0, _ => []
  | n + 1, cache =>
    let sent := fitting cost budget (due page false value cache)
    sent ++ passes cost budget page value n (refreshed sent value cache)

theorem passes_eq_drain {page : List K} (h : page.Nodup) (cost : K → Nat) (budget : Nat)
    (value : ∀ k, V k) (n : Nat) (cache : ∀ k, V k) :
    passes cost budget page value n cache =
      drain cost budget n (due page false value cache) := by
  induction n generalizing cache with
  | zero => rfl
  | succ n ih =>
      rw [passes, drain, ih, due_refreshed,
        filter_notMem_of_isPrefix (due_nodup h _ _ _) (fitting_isPrefix budget _)]

/-- What the cache holds after `n` unforced passes with the same values. -/
def cacheAfter (cost : K → Nat) (budget : Nat) (page : List K) (value : ∀ k, V k) :
    Nat → (∀ k, V k) → (∀ k, V k)
  | 0, cache => cache
  | n + 1, cache =>
    cacheAfter cost budget page value n
      (refreshed (fitting cost budget (due page false value cache)) value cache)

omit [∀ k, DecidableEq (V k)] in
theorem refreshed_append (sent more : List K) (value cache : ∀ k, V k) :
    refreshed (sent ++ more) value cache = refreshed more value (refreshed sent value cache) := by
  funext k
  unfold refreshed
  by_cases hsent : k ∈ sent <;> by_cases hmore : k ∈ more <;> simp [hsent, hmore]

omit [∀ k, DecidableEq (V k)] in
theorem refreshed_nil (value cache : ∀ k, V k) : refreshed [] value cache = cache := by
  funext k
  exact if_neg List.not_mem_nil

/-- The cache takes over exactly what the passes sent. -/
theorem cacheAfter_eq_refreshed (cost : K → Nat) (budget : Nat) (page : List K) (value : ∀ k, V k)
    (n : Nat) (cache : ∀ k, V k) :
    cacheAfter cost budget page value n cache =
      refreshed (passes cost budget page value n cache) value cache := by
  induction n generalizing cache with
  | zero => exact (refreshed_nil value cache).symm
  | succ n ih => rw [cacheAfter, passes, ih, refreshed_append]

theorem refreshed_due {page : List K} (hpage : ∀ k, k ∈ page) (value cache : ∀ k, V k) :
    refreshed (due page false value cache) value cache = value := by
  funext k
  unfold refreshed
  by_cases hk : k ∈ due page false value cache
  · rw [if_pos hk]
  · rw [if_neg hk]
    rw [mem_due_iff, not_and_not_right] at hk
    exact (hk (hpage k)).symm

/-- **Convergence.** As many unforced passes as there are due items send each of them once and leave
the cache with the current values. -/
theorem passes_converge {cost : K → Nat} {budget n : Nat} {page : List K} (h : page.Nodup)
    (hpage : ∀ k, k ∈ page) (hfit : ∀ k ∈ page, cost k ≤ budget) {value cache : ∀ k, V k}
    (hn : (due page false value cache).length ≤ n) :
    passes cost budget page value n cache = due page false value cache ∧
      cacheAfter cost budget page value n cache = value := by
  have hsent : passes cost budget page value n cache = due page false value cache := by
    rw [passes_eq_drain h]
    exact drain_eq (fun k hk => hfit k (mem_due_iff.mp hk).1) hn
  refine ⟨hsent, ?_⟩
  rw [cacheAfter_eq_refreshed, hsent, refreshed_due hpage]

/-- After a pass that left something out, something is still due. -/
theorem due_refreshed_fitting_ne_nil {cost : K → Nat} {budget : Nat} {page : List K}
    (h : page.Nodup) {value cache : ∀ k, V k}
    (hsent : fitting cost budget (due page false value cache) ≠ due page false value cache) :
    due page false value
      (refreshed (fitting cost budget (due page false value cache)) value cache) ≠ [] := by
  have hprefix : fitting cost budget (due page false value cache) <+:
      due page false value cache := fitting_isPrefix budget _
  rw [due_refreshed, filter_notMem_of_isPrefix (due_nodup h _ _ _) hprefix]
  intro hdrop
  have hsplit := List.prefix_iff_eq_append.mp hprefix
  rw [hdrop, List.append_nil] at hsplit
  exact hsent hsplit

/-- **A forced pass and enough unforced ones**: they send exactly the items the forced pass reached
and those whose value the cache did not hold to begin with. -/
theorem mem_forced_passes_iff {cost : K → Nat} {budget n : Nat} {page : List K} (h : page.Nodup)
    (hfit : ∀ k ∈ page, cost k ≤ budget) (hn : page.length ≤ n) (value cache : ∀ k, V k) {k : K} :
    k ∈ fitting cost budget page ++ passes cost budget page value n
        (refreshed (fitting cost budget page) value cache) ↔
      k ∈ fitting cost budget page ∨ (k ∈ page ∧ value k ≠ cache k) := by
  set sent := fitting cost budget page
  -- after the forced pass the due items are those it did not reach and the cache does not hold
  have hdue : ∀ j ∈ due page false value (refreshed sent value cache), cost j ≤ budget :=
    fun j hj => hfit j (mem_due_iff.mp hj).1
  have hlen : (due page false value (refreshed sent value cache)).length ≤ n :=
    (List.length_filter_le _ _).trans hn
  rw [passes_eq_drain h, drain_eq hdue hlen, due_refreshed, List.mem_append, List.mem_filter,
    mem_due_iff]
  by_cases hk : k ∈ sent <;> simp [hk]

/-! ### What the page shows -/

/-- The page after the items `sent` were written to it, one at a time and in order. -/
def paint (value : ∀ k, V k) (shown : ∀ k, Option (V k)) (sent : List K) : ∀ k, Option (V k) :=
  sent.foldl (fun shown k => Function.update shown k (some (value k))) shown

omit [∀ k, DecidableEq (V k)] in
theorem paint_eq_refreshed (value : ∀ k, V k) (shown : ∀ k, Option (V k)) (sent : List K) :
    paint value shown sent = refreshed sent (fun k => some (value k)) shown := by
  unfold paint
  induction sent generalizing shown with
  | nil => rfl
  | cons k ks ih =>
      rw [List.foldl_cons, ih]
      funext j
      by_cases hks : j ∈ ks
      · simp [refreshed, hks]
      · by_cases hj : j = k
        · subst hj
          simp [refreshed, hks]
        · simp [refreshed, hks, hj]

/-- **A pass over the whole page brings it up to date**, when it is forced or the cache was right
about what the page shows. -/
theorem paint_due {page : List K} (hpage : ∀ k, k ∈ page) {force : Bool} {value cache : ∀ k, V k}
    {shown : ∀ k, Option (V k)} (h : force = false → ∀ k, shown k = some (cache k)) (k : K) :
    paint value shown (due page force value cache) k = some (value k) := by
  rw [paint_eq_refreshed]
  unfold refreshed
  by_cases hk : k ∈ due page force value cache
  · rw [if_pos hk]
  · rw [if_neg hk]
    cases force with
    | true =>
        rw [due_force] at hk
        exact absurd (hpage k) hk
    | false =>
        rw [mem_due_iff, not_and_not_right] at hk
        rw [h rfl k, hk (hpage k)]

omit [DecidableEq K] in
/-- Nothing is due of values the cache holds. -/
@[simp] theorem due_self (page : List K) (value : ∀ k, V k) : due page false value value = [] := by
  simp [due]

end Page

end TfnAks.Lib.BudgetedRefresh
