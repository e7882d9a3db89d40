/-
# TfnAks.Bms.FullRefresh — what a forced refresh repaints

After a start or a display restart the HMI task calls `buildBmsNextionCommands` once with
`forceFullRefresh` and from then on without. The first call stops at its byte budget, long before
the end of the page, and what it did not reach is left to the cache: a later call sends a component
only if its value is not the cached one. A component the cache happens to agree on is never sent.

`fullRefresh_iff`: the forced call and any 76 or more after it send every component if and only if
each one is within the first 90 bytes of the page or differs from the cache.
-/
import TfnAks.Bms.NextionPacket

namespace TfnAks.Bms

open TfnAks.Lib.BudgetedRefresh

/-! ## One call, in terms of what is due -/

section Call

variable (force : Bool) (maxBytes : Nat) (value : (c : BmsComponent) → c.Value)

/-- The bytes of a component's command. -/
def commandBytes (c : BmsComponent) : Nat := (command c (value c)).bytes

theorem commandBytes_le (c : BmsComponent) : commandBytes value c ≤ 90 :=
  (bytes_le c (value c)).trans (by decide)

theorem refresh_of_not_due {p : Pass} {c : BmsComponent}
    (h : (force || decide (value c ≠ p.cache.entry c)) = false) :
    p.refresh force maxBytes value c = p := by
  rw [Pass.refresh, h]
  rfl

theorem refresh_of_exhausted {p : Pass} (h : p.budgetExhausted = true) (c : BmsComponent) :
    (p.refresh force maxBytes value c).emitted = p.emitted ∧
      (p.refresh force maxBytes value c).cache = p.cache ∧
      (p.refresh force maxBytes value c).budgetExhausted = true ∧
      ((p.refresh force maxBytes value c).allProcessed = true → p.allProcessed = true) := by
  have hemit : p.emitAndCheck maxBytes (command c (value c)) = (p, false) := by
    rw [Pass.emitAndCheck, if_pos h]
  unfold Pass.refresh
  rw [hemit]
  split
  · exact ⟨rfl, rfl, h, fun hproc => absurd hproc Bool.false_ne_true⟩
  · exact ⟨rfl, rfl, h, id⟩

theorem refresh_of_too_long {p : Pass} {c : BmsComponent} (hx : p.budgetExhausted = false)
    (hdue : (force || decide (value c ≠ p.cache.entry c)) = true)
    (h : maxBytes < p.currentBytes + commandBytes value c) :
    p.refresh force maxBytes value c = { p with budgetExhausted := true, allProcessed := false } := by
  have hlt : maxBytes < p.currentBytes + (command c (value c)).bytes := h
  rw [Pass.refresh, if_pos hdue, Pass.emitAndCheck, if_neg (by rw [hx]; exact Bool.false_ne_true),
    if_pos hlt]

theorem refresh_of_fits {p : Pass} {c : BmsComponent} (hx : p.budgetExhausted = false)
    (hdue : (force || decide (value c ≠ p.cache.entry c)) = true)
    (h : p.currentBytes + commandBytes value c ≤ maxBytes) :
    p.refresh force maxBytes value c =
      { p with
        cache := { p.cache with entry := Function.update p.cache.entry c (value c) }
        currentBytes := p.currentBytes + commandBytes value c
        emitted := p.emitted ++ [command c (value c)] } := by
  have hlt : ¬ maxBytes < p.currentBytes + (command c (value c)).bytes := Nat.not_lt.mpr h
  rw [Pass.refresh, if_pos hdue, Pass.emitAndCheck, if_neg (by rw [hx]; exact Bool.false_ne_true),
    if_neg hlt]
  rfl

/-- Once the budget is exhausted the rest of the page changes nothing. -/
theorem foldl_refresh_of_exhausted (cs : List BmsComponent) {p : Pass}
    (h : p.budgetExhausted = true) :
    (cs.foldl (Pass.refresh force maxBytes value) p).emitted = p.emitted ∧
      (cs.foldl (Pass.refresh force maxBytes value) p).cache = p.cache ∧
      ((cs.foldl (Pass.refresh force maxBytes value) p).allProcessed = true →
        p.allProcessed = true) := by
  induction cs generalizing p with
  | nil => exact ⟨rfl, rfl, id⟩
  | cons c cs ih =>
      obtain ⟨he, hc, hx, hproc⟩ := refresh_of_exhausted force maxBytes value h c
      obtain ⟨ihe, ihc, ihproc⟩ := ih hx
      rw [List.foldl_cons, ihe, ihc, he, hc]
      exact ⟨rfl, rfl, fun hall => hproc (ihproc hall)⟩

theorem due_update {cs : List BmsComponent} {c : BmsComponent} (h : c ∉ cs)
    (entry : (c : BmsComponent) → c.Value) :
    due cs force value (Function.update entry c (value c)) = due cs force value entry := by
  refine List.filter_congr fun k hk => ?_
  have hne : k ≠ c := fun heq => h (heq ▸ hk)
  rw [Function.update_of_ne hne]

theorem refreshed_cons (c : BmsComponent) (sent : List BmsComponent)
    (entry : (c : BmsComponent) → c.Value) :
    refreshed (c :: sent) value entry =
      refreshed sent value (Function.update entry c (value c)) := by
  funext k
  unfold refreshed
  by_cases hk : k = c
  · subst hk
    simp
  · simp [hk]

/-- **One pass.** Within its budget it sends the longest fitting prefix of what is due, and the
cache takes exactly these values over; it counts as complete when that prefix is all of it.
Induction on the components still to come; the bytes used so far and the cache vary. -/
theorem foldl_refresh (cs : List BmsComponent) (hcs : cs.Nodup) {p : Pass}
    (hx : p.budgetExhausted = false) (hbytes : p.currentBytes ≤ maxBytes) :
    let sent := fitting (commandBytes value) (maxBytes - p.currentBytes)
      (due cs force value p.cache.entry)
    (cs.foldl (Pass.refresh force maxBytes value) p).emitted =
        p.emitted ++ sent.map (fun c => command c (value c)) ∧
      (cs.foldl (Pass.refresh force maxBytes value) p).cache.entry =
        refreshed sent value p.cache.entry ∧
      ((cs.foldl (Pass.refresh force maxBytes value) p).allProcessed = true ↔
        p.allProcessed = true ∧ sent = due cs force value p.cache.entry) := by
  induction cs generalizing p with
  | nil =>
      exact ⟨(List.append_nil _).symm, (refreshed_nil value _).symm, (and_iff_left rfl).symm⟩
  | cons c cs ih =>
      rw [List.nodup_cons] at hcs
      rw [List.foldl_cons]
      cases hdue : (force || decide (value c ≠ p.cache.entry c)) with
      | false =>
          -- unchanged: neither bytes nor budget
          have hskip : due (c :: cs) force value p.cache.entry = due cs force value p.cache.entry :=
            List.filter_cons_of_neg (by rw [hdue]; exact Bool.false_ne_true)
          rw [refresh_of_not_due force maxBytes value hdue, hskip]
          exact ih hcs.2 hx hbytes
      | true =>
          have hhead : due (c :: cs) force value p.cache.entry =
              c :: due cs force value p.cache.entry := List.filter_cons_of_pos hdue
          rw [hhead]
          by_cases hfits : p.currentBytes + commandBytes value c ≤ maxBytes
          · rw [fitting_cons_of_le _ (by omega), refresh_of_fits force maxBytes value hx hdue hfits]
            obtain ⟨he, hc, hproc⟩ := ih (p := { p with
              cache := { p.cache with entry := Function.update p.cache.entry c (value c) }
              currentBytes := p.currentBytes + commandBytes value c
              emitted := p.emitted ++ [command c (value c)] }) hcs.2 hx hfits
            -- the entry of `c` decides nothing for the components behind it
            rw [due_update force value hcs.1, Nat.sub_add_eq] at he hc hproc
            refine ⟨?_, ?_, ?_⟩
            · rw [he, List.map_cons, List.append_assoc]
              rfl
            · rw [hc, refreshed_cons]
            · rw [hproc, List.cons_inj_right]
          · -- the first that does not fit ends the pass for all behind it
            rw [fitting_cons_of_lt _ (by omega),
              refresh_of_too_long force maxBytes value hx hdue (by omega)]
            obtain ⟨he, hc, hproc⟩ := foldl_refresh_of_exhausted force maxBytes value cs
              (p := { p with budgetExhausted := true, allProcessed := false }) rfl
            rw [he, hc]
            refine ⟨(List.append_nil _).symm, (refreshed_nil value _).symm, ?_, ?_⟩
            · intro hall
              exact absurd (hproc hall) Bool.false_ne_true
            · rintro ⟨-, hnil⟩
              exact absurd hnil (List.cons_ne_nil _ _).symm

/-- No component touches `isWarm`. -/
theorem foldl_refresh_isWarm (cs : List BmsComponent) (p : Pass) :
    (cs.foldl (Pass.refresh force maxBytes value) p).cache.isWarm = p.cache.isWarm := by
  induction cs generalizing p with
  | nil => rfl
  | cons c cs ih =>
      rw [List.foldl_cons, ih]
      unfold Pass.refresh Pass.emitAndCheck
      split_ifs <;> rfl

end Call

/-! ## One call -/

/-- The components a call walks. -/
def walked (forceFullRefresh updateCells isWarm : Bool) : List BmsComponent :=
  (if updateCells || forceFullRefresh || !isWarm then cellComponents else []) ++ summaryComponents

theorem walked_sublist (force updateCells isWarm : Bool) :
    (walked force updateCells isWarm).Sublist page := by
  unfold walked page
  split
  · exact List.Sublist.refl _
  · exact List.sublist_append_right _ _

theorem walked_nodup (force updateCells isWarm : Bool) : (walked force updateCells isWarm).Nodup :=
  page_nodup.sublist (walked_sublist force updateCells isWarm)

theorem walked_eq_page {force updateCells isWarm : Bool}
    (h : (updateCells || force || !isWarm) = true) : walked force updateCells isWarm = page :=
  congrArg (· ++ summaryComponents) (if_pos h)

/-- What a call returns of its pass. -/
def buildResult (p : Pass) : List Command × BmsNextionCache :=
  (p.emitted, if p.allProcessed then { p.cache with isWarm := true } else p.cache)

theorem buildResult_entry (p : Pass) : (buildResult p).2.entry = p.cache.entry := by
  unfold buildResult
  cases p.allProcessed <;> rfl

theorem buildResult_isWarm (p : Pass) :
    (buildResult p).2.isWarm = true ↔ p.allProcessed = true ∨ p.cache.isWarm = true := by
  unfold buildResult
  cases p.allProcessed <;> simp

section Refresh

variable (comp : BmsComputed) (raw : BmsPackData) (cellDataVerified : Bool)

/-- **Every call** sends the longest fitting prefix of what is due of the components it walks; the
cache takes these values over and is warm once nothing was left out. -/
theorem build_walked (cache : BmsNextionCache) (force updateCells : Bool) (maxBytes : Nat) :
    let value := currentValue comp raw cellDataVerified
    let wanted := due (walked force updateCells cache.isWarm) force value cache.entry
    let sent := fitting (commandBytes value) maxBytes wanted
    let result := buildBmsNextionCommands comp raw cache force updateCells maxBytes cellDataVerified
    result.1 = sent.map (fun c => command c (value c)) ∧
      result.2.entry = refreshed sent value cache.entry ∧
      (result.2.isWarm = true ↔ cache.isWarm = true ∨ sent = wanted) := by
  intro value wanted sent result
  obtain ⟨he, hc, hproc⟩ := foldl_refresh force maxBytes value
    (walked force updateCells cache.isWarm) (walked_nodup force updateCells cache.isWarm)
    (p := ⟨cache, 0, false, true, []⟩) rfl (Nat.zero_le _)
  have hwarm := foldl_refresh_isWarm force maxBytes value
    (walked force updateCells cache.isWarm) ⟨cache, 0, false, true, []⟩
  have hresult : result =
      buildResult ((walked force updateCells cache.isWarm).foldl
        (Pass.refresh force maxBytes value) ⟨cache, 0, false, true, []⟩) := rfl
  rw [hresult]
  refine ⟨he, (buildResult_entry _).trans hc, ?_⟩
  rw [buildResult_isWarm, hwarm, hproc, and_iff_right rfl, or_comm]
  exact Iff.rfl

/-! ## The calls of a full refresh -/

/-- A call that processes the cells, as a pass over the page. -/
theorem build_spec (cache : BmsNextionCache) (force updateCells : Bool)
    (h : (updateCells || force || !cache.isWarm) = true) (maxBytes : Nat) :
    let value := currentValue comp raw cellDataVerified
    let sent := fitting (commandBytes value) maxBytes (due page force value cache.entry)
    let result := buildBmsNextionCommands comp raw cache force updateCells maxBytes cellDataVerified
    result.1.map Command.component = sent ∧ result.2.entry = refreshed sent value cache.entry := by
  obtain ⟨hsent, hentry, -⟩ :=
    build_walked comp raw cellDataVerified cache force updateCells maxBytes
  rw [walked_eq_page h] at hsent hentry
  refine ⟨?_, hentry⟩
  rw [hsent, List.map_map]
  exact List.map_id' _

/-- `n` further calls, without force, with the cells, on the same data. -/
def unforcedCalls : Nat → BmsNextionCache → List Command
  | 0, _ => []
  | n + 1, cache =>
    let (commands, cache) := buildBmsNextionCommands comp raw cache false true 90 cellDataVerified
    commands ++ unforcedCalls n cache

/-- The commands of a forced call and `n` further ones. -/
def fullRefresh (updateCells : Bool) (n : Nat) (cache : BmsNextionCache) : List Command :=
  let (commands, cache) := buildBmsNextionCommands comp raw cache true updateCells 90 cellDataVerified
  commands ++ unforcedCalls comp raw cellDataVerified n cache

theorem unforcedCalls_components (n : Nat) (cache : BmsNextionCache) :
    (unforcedCalls comp raw cellDataVerified n cache).map Command.component =
      passes (commandBytes (currentValue comp raw cellDataVerified)) 90 page
        (currentValue comp raw cellDataVerified) n cache.entry := by
  induction n generalizing cache with
  | zero => rfl
  | succ n ih =>
      obtain ⟨hsent, hentry⟩ := build_spec comp raw cellDataVerified cache false true rfl 90
      rw [unforcedCalls, List.map_append, ih, passes, hsent, hentry]

/-- Which components a forced call and 76 or more further ones send. -/
theorem mem_fullRefresh_iff (updateCells : Bool) (more : Nat) (cache : BmsNextionCache)
    (c : BmsComponent) :
    c ∈ (fullRefresh comp raw cellDataVerified updateCells (76 + more) cache).map
        Command.component ↔
      costThrough (commandBytes (currentValue comp raw cellDataVerified)) page c ≤ 90 ∨
        cache.entry c ≠ currentValue comp raw cellDataVerified c := by
  obtain ⟨hsent, hentry⟩ := build_spec comp raw cellDataVerified cache true updateCells (by simp) 90
  rw [due_force] at hsent hentry
  rw [fullRefresh, List.map_append, unforcedCalls_components, hsent, hentry,
    mem_forced_passes_iff page_nodup (fun k _ => commandBytes_le _ k) (by rw [length_page]; omega),
    mem_fitting_iff_costThrough page_nodup (mem_page c)]
  refine or_congr Iff.rfl ?_
  rw [and_iff_right (mem_page c), ne_comm]

end Refresh

/-- **When a full refresh repaints the whole page.** For every data, every cache and any 76 or more
calls after the forced one. -/
theorem fullRefresh_iff (comp : BmsComputed) (raw : BmsPackData) (cellDataVerified updateCells : Bool)
    (more : Nat) (cache : BmsNextionCache) :
    (∀ c, c ∈ (fullRefresh comp raw cellDataVerified updateCells (76 + more) cache).map
        Command.component) ↔
      ∀ c, costThrough (commandBytes (currentValue comp raw cellDataVerified)) page c ≤ 90 ∨
        cache.entry c ≠ currentValue comp raw cellDataVerified c :=
  forall_congr' fun c => mem_fullRefresh_iff comp raw cellDataVerified updateCells more cache c

/-- A pack of 3300 mV cells, at rest. -/
def restingPack : BmsPackData := ⟨fun _ => 3300⟩

/-- A pack at rest. -/
def restingComputed : BmsComputed := ⟨3300, 3300, fun _ => false, 0⟩

/-- The display restarts while the cache is up to date with the data: `cell5` and everything behind
it stay blank. -/
theorem warm_cache_leaves_blank :
    ¬ ∀ (comp : BmsComputed) (raw : BmsPackData) (cache : BmsNextionCache) (c : BmsComponent),
      c ∈ (fullRefresh comp raw true true 76 cache).map Command.component := by
  intro h
  have hsent := h restingComputed restingPack
    ⟨currentValue restingComputed restingPack true, true⟩ (.cell ⟨5, by decide⟩)
  rcases (mem_fullRefresh_iff _ _ _ _ 0 _ _).mp hsent with hbytes | hne
  · exact absurd hbytes (by decide)
  · exact hne rfl

end TfnAks.Bms
