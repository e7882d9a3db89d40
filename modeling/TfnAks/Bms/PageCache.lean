/-
# TfnAks.Bms.PageCache — the cache of the BMS page over many calls

`buildBmsNextionCommands` called again and again on one cache, with whatever data, flags and budget
each call has. Each call is one step of a machine whose state is the cache and whose answer is the
commands it emits (`pageStep`).

What holds of every sequence of calls: a call stays within its budget and names no component twice,
and the cache entry of a component is the value of the last command that went out for it
(`pageStep_account`). What holds of repeated calls on the same data: as many calls as there are
components to repaint bring the page up to date, each of them painted once (`page_converges`).
-/
import TfnAks.Bms.FullRefresh
import TfnAks.Lib.Mealy

namespace TfnAks.Bms

open TfnAks.Lib.BudgetedRefresh TfnAks.Lib.Mealy

/-! ## One call -/

/-- The arguments of a call, the cache apart. -/
structure PageCall where
  comp : BmsComputed
  raw : BmsPackData
  forceFullRefresh : Bool
  updateCells : Bool
  maxBytes : Nat
  cellDataVerified : Bool

/-- The value each component has to show. -/
def PageCall.value (call : PageCall) : (c : BmsComponent) → c.Value :=
  currentValue call.comp call.raw call.cellDataVerified

/-- The cache after a call, and the commands it emitted. -/
def pageStep (cache : BmsNextionCache) (call : PageCall) : BmsNextionCache × List Command :=
  (buildBmsNextionCommands call.comp call.raw cache call.forceFullRefresh call.updateCells
    call.maxBytes call.cellDataVerified).swap

/-- The components a call has to send. -/
def PageCall.wanted (call : PageCall) (cache : BmsNextionCache) : List BmsComponent :=
  due (walked call.forceFullRefresh call.updateCells cache.isWarm) call.forceFullRefresh call.value
    cache.entry

/-- The components a call sends. -/
def PageCall.sent (call : PageCall) (cache : BmsNextionCache) : List BmsComponent :=
  fitting (commandBytes call.value) call.maxBytes (call.wanted cache)

section Call

variable (call : PageCall) (cache : BmsNextionCache)

theorem pageStep_commands :
    (pageStep cache call).2 = (call.sent cache).map fun c => command c (call.value c) :=
  (build_walked call.comp call.raw call.cellDataVerified cache _ _ _).1

theorem pageStep_entry :
    (pageStep cache call).1.entry = refreshed (call.sent cache) call.value cache.entry :=
  (build_walked call.comp call.raw call.cellDataVerified cache _ _ _).2.1

theorem pageStep_isWarm :
    (pageStep cache call).1.isWarm = true ↔
      cache.isWarm = true ∨ call.sent cache = call.wanted cache :=
  (build_walked call.comp call.raw call.cellDataVerified cache _ _ _).2.2

theorem pageStep_components : (pageStep cache call).2.map Command.component = call.sent cache := by
  rw [pageStep_commands, List.map_map]
  exact List.map_id' _

theorem sent_nodup : (call.sent cache).Nodup :=
  (due_nodup (walked_nodup _ _ _) _ _ _).sublist (fitting_isPrefix _ _).sublist

theorem pageStep_bytes_le :
    ((pageStep cache call).2.map Command.bytes).sum ≤ call.maxBytes := by
  rw [pageStep_commands, List.map_map]
  exact sum_fitting_le call.maxBytes (call.wanted cache)

theorem ne_of_mem_sent {c : BmsComponent} (hforce : call.forceFullRefresh = false)
    (hc : c ∈ call.sent cache) : call.value c ≠ cache.entry c := by
  have hwanted : c ∈ call.wanted cache := (fitting_isPrefix _ _).subset hc
  unfold PageCall.wanted at hwanted
  rw [hforce] at hwanted
  exact (mem_due_iff.mp hwanted).2

end Call

/-! ## What the cache remembers -/

/-- The last of some commands that was for the component `c`. -/
def lastCommand (c : BmsComponent) (commands : List Command) : Option Command :=
  (commands.filter fun cmd => decide (cmd.component = c)).getLast?

theorem lastCommand_append (c : BmsComponent) (commands more : List Command) :
    lastCommand c (commands ++ more) = (lastCommand c more).or (lastCommand c commands) := by
  unfold lastCommand
  rw [List.filter_append, List.getLast?_append]

/-- Among the commands for some components, the last one for `c` shows the value of `c`. -/
theorem lastCommand_map (c : BmsComponent) (cs : List BmsComponent)
    (value : (c : BmsComponent) → c.Value) :
    lastCommand c (cs.map fun k => command k (value k)) =
      if c ∈ cs then some (command c (value c)) else none := by
  induction cs with
  | nil => rfl
  | cons k cs ih =>
      rw [List.map_cons, ← List.singleton_append, lastCommand_append, ih]
      by_cases hcs : c ∈ cs
      · rw [if_pos hcs, if_pos (List.mem_cons_of_mem k hcs)]
        rfl
      · by_cases hk : k = c
        · subst hk
          simp [hcs, lastCommand, command]
        · have hne : ¬ (c = k) := fun h => hk h.symm
          simp [hcs, hk, hne, lastCommand, command]

/-- The commands of some calls, one call after the other. -/
def commandsOf (cache : BmsNextionCache) (calls : List PageCall) : List Command :=
  (outputs pageStep cache calls).flatten

theorem commandsOf_concat (cache : BmsNextionCache) (calls : List PageCall) (call : PageCall) :
    commandsOf cache (calls ++ [call]) =
      commandsOf cache calls ++ (pageStep (stateAfter pageStep cache calls) call).2 := by
  unfold commandsOf
  rw [outputs_append, List.flatten_append, outputs_cons, outputs_nil, List.flatten_singleton]

/-- **The cache holds what was sent last**, whatever the calls were. -/
theorem entry_eq_lastCommand (cache : BmsNextionCache) (calls : List PageCall) (c : BmsComponent)
    (cmd : Command) (h : lastCommand c (commandsOf cache calls) = some cmd) :
    cmd = command c ((stateAfter pageStep cache calls).entry c) := by
  induction calls using List.reverseRecOn with
  | nil => cases h
  | append_singleton calls call ih =>
      rw [commandsOf_concat, pageStep_commands, lastCommand_append, lastCommand_map] at h
      rw [stateAfter_concat, pageStep_entry]
      unfold refreshed
      by_cases hc : c ∈ call.sent (stateAfter pageStep cache calls)
      · rw [if_pos hc] at h
        rw [if_pos hc]
        exact (Option.some.inj h).symm
      · rw [if_neg hc, Option.none_or] at h
        rw [if_neg hc]
        exact ih h

/-- **The account of every call**, after any calls from a fresh cache. It stays within its budget
and names no component twice; unforced, it sends only what the cache does not hold; the cache then
holds what was sent last for each component, and has not changed where nothing was sent. -/
theorem pageStep_account (calls : List PageCall) (call : PageCall) :
    let cache := stateAfter pageStep .fresh calls
    let after := (pageStep cache call).1
    let commands := (pageStep cache call).2
    (commands.map Command.bytes).sum ≤ call.maxBytes ∧
      (commands.map fun cmd => cmd.component.name).Nodup ∧
      (call.forceFullRefresh = false →
        ∀ cmd ∈ commands, call.value cmd.component ≠ cache.entry cmd.component) ∧
      (∀ c cmd, lastCommand c (commandsOf .fresh (calls ++ [call])) = some cmd →
        cmd = command c (after.entry c)) ∧
      ∀ c, c ∉ commands.map Command.component → after.entry c = cache.entry c := by
  intro cache after commands
  have hcomponents : commands.map Command.component = call.sent cache :=
    pageStep_components call cache
  refine ⟨pageStep_bytes_le call cache, ?_, ?_, ?_, ?_⟩
  · have hnames : (commands.map fun cmd => cmd.component.name) =
        (call.sent cache).map BmsComponent.name := by
      rw [← hcomponents, List.map_map]
      rfl
    rw [hnames]
    exact (sent_nodup call cache).map name_injective
  · intro hforce cmd hcmd
    refine ne_of_mem_sent call cache hforce ?_
    rw [← hcomponents]
    exact List.mem_map_of_mem hcmd
  · -- the display and the cache have seen the same commands
    intro c cmd hlast
    have hentry := entry_eq_lastCommand .fresh (calls ++ [call]) c cmd hlast
    rw [stateAfter_concat] at hentry
    exact hentry
  · intro c hc
    rw [hcomponents] at hc
    show (pageStep cache call).1.entry c = cache.entry c
    rw [pageStep_entry]
    exact if_neg hc

/-- A call as the display task makes it, on the resting pack. -/
def restingCall (maxBytes : Nat) : PageCall :=
  ⟨restingComputed, restingPack, false, true, maxBytes, true⟩

theorem pageStep_account_restingPack :
    ((pageStep .fresh (restingCall 90)).2.map Command.bytes).sum ≤ 90 ∧
      ∀ cmd ∈ (pageStep .fresh (restingCall 90)).2,
        (restingCall 90).value cmd.component ≠ BmsNextionCache.fresh.entry cmd.component :=
  ⟨(pageStep_account [] (restingCall 90)).1, (pageStep_account [] (restingCall 90)).2.2.1 rfl⟩

/-! ## Repeated calls on the same data -/

section Repeated

variable (comp : BmsComputed) (raw : BmsPackData) (cellDataVerified : Bool) (maxBytes : Nat)

/-- The call without force, with the cells. -/
def unforcedCall : PageCall := ⟨comp, raw, false, true, maxBytes, cellDataVerified⟩

theorem unforcedCall_wanted (cache : BmsNextionCache) :
    (unforcedCall comp raw cellDataVerified maxBytes).wanted cache =
      due page false (currentValue comp raw cellDataVerified) cache.entry := by
  unfold PageCall.wanted
  rw [walked_eq_page rfl]
  rfl

theorem commandsOf_replicate_components (n : Nat) (cache : BmsNextionCache) :
    (commandsOf cache (List.replicate n (unforcedCall comp raw cellDataVerified maxBytes))).map
        Command.component =
      passes (commandBytes (currentValue comp raw cellDataVerified)) maxBytes page
        (currentValue comp raw cellDataVerified) n cache.entry := by
  induction n generalizing cache with
  | zero => rfl
  | succ n ih =>
      have hsent := pageStep_components (unforcedCall comp raw cellDataVerified maxBytes) cache
      have hentry := pageStep_entry (unforcedCall comp raw cellDataVerified maxBytes) cache
      unfold PageCall.sent at hsent hentry
      rw [unforcedCall_wanted] at hsent hentry
      unfold commandsOf at ih ⊢
      rw [List.replicate_succ, outputs_cons, List.flatten_cons, List.map_append, ih, hsent, hentry]
      rfl

theorem stateAfter_replicate_entry (n : Nat) (cache : BmsNextionCache) :
    (stateAfter pageStep cache
        (List.replicate n (unforcedCall comp raw cellDataVerified maxBytes))).entry =
      cacheAfter (commandBytes (currentValue comp raw cellDataVerified)) maxBytes page
        (currentValue comp raw cellDataVerified) n cache.entry := by
  induction n generalizing cache with
  | zero => rfl
  | succ n ih =>
      have hentry := pageStep_entry (unforcedCall comp raw cellDataVerified maxBytes) cache
      unfold PageCall.sent at hentry
      rw [unforcedCall_wanted] at hentry
      rw [List.replicate_succ, stateAfter_cons, ih, hentry]
      rfl

/-- After a call the cache is warm unless something is still to be repainted. -/
theorem warm_of_nothing_due (cache : BmsNextionCache)
    (h : due page false (currentValue comp raw cellDataVerified)
      (pageStep cache (unforcedCall comp raw cellDataVerified maxBytes)).1.entry = []) :
    (pageStep cache (unforcedCall comp raw cellDataVerified maxBytes)).1.isWarm = true := by
  rw [pageStep_isWarm]
  by_contra hcold
  rw [not_or] at hcold
  have hsent := hcold.2
  unfold PageCall.sent at hsent
  rw [unforcedCall_wanted] at hsent
  rw [pageStep_entry] at h
  unfold PageCall.sent at h
  rw [unforcedCall_wanted] at h
  exact due_refreshed_fitting_ne_nil page_nodup hsent h

theorem due_length_le (value entry : (c : BmsComponent) → c.Value) :
    (due page false value entry).length ≤ 76 :=
  (List.length_filter_le _ _).trans length_page.le

/-- With a budget for the longest command, `n` calls bring the page up to date when at most `n`
components are to be repainted. -/
theorem calls_converge (hbytes : 20 ≤ maxBytes) {n : Nat} {cache : BmsNextionCache}
    (hn : (due page false (currentValue comp raw cellDataVerified) cache.entry).length ≤ n) :
    (commandsOf cache (List.replicate n (unforcedCall comp raw cellDataVerified maxBytes))).map
        Command.component = due page false (currentValue comp raw cellDataVerified) cache.entry ∧
      (stateAfter pageStep cache
        (List.replicate n (unforcedCall comp raw cellDataVerified maxBytes))).entry =
        currentValue comp raw cellDataVerified := by
  rw [commandsOf_replicate_components, stateAfter_replicate_entry]
  exact passes_converge page_nodup mem_page (fun c _ => (bytes_le c _).trans hbytes) hn

/-- The cache is warm after these calls, if there is one at all: the last leaves nothing to
repaint. -/
theorem calls_warm (hbytes : 20 ≤ maxBytes) {n : Nat} {cache : BmsNextionCache}
    (hn : (due page false (currentValue comp raw cellDataVerified) cache.entry).length ≤ n + 1) :
    (stateAfter pageStep cache
      (List.replicate (n + 1) (unforcedCall comp raw cellDataVerified maxBytes))).isWarm = true := by
  have hentry := (calls_converge comp raw cellDataVerified maxBytes hbytes hn).2
  rw [List.replicate_succ', stateAfter_concat] at hentry ⊢
  apply warm_of_nothing_due comp raw cellDataVerified maxBytes
  rw [hentry, due_self]

/-- Once the page is up to date a call emits nothing. -/
theorem commandsOf_replicate_of_current (n : Nat) {cache : BmsNextionCache}
    (h : cache.entry = currentValue comp raw cellDataVerified) :
    commandsOf cache (List.replicate n (unforcedCall comp raw cellDataVerified maxBytes)) = [] := by
  have hsent := commandsOf_replicate_components comp raw cellDataVerified maxBytes n cache
  rw [passes_eq_drain page_nodup, h, due_self, drain_nil] at hsent
  exact List.map_eq_nil_iff.mp hsent

/-- **The page converges.** On the same data, after at most 76 calls whose budget holds the longest
command, the cache holds the data and is warm; the calls sent each component that differed once and
no other, and calls after them send nothing. -/
theorem page_converges (comp : BmsComputed) (raw : BmsPackData) (cellDataVerified : Bool)
    {maxBytes : Nat} (hbytes : 20 ≤ maxBytes) (cache : BmsNextionCache) :
    ∃ n ≤ 76,
      let call : PageCall := ⟨comp, raw, false, true, maxBytes, cellDataVerified⟩
      let calls := List.replicate n call
      let last := stateAfter pageStep cache calls
      last.entry = call.value ∧ last.isWarm = true ∧
        (∀ c, ((commandsOf cache calls).map Command.component).count c =
          if cache.entry c = call.value c then 0 else 1) ∧
        ∀ m, commandsOf last (List.replicate m call) = [] := by
  -- each call sends at least one of what is due, and there are 76 components
  have hdue := due_length_le (currentValue comp raw cellDataVerified) cache.entry
  obtain ⟨n, hn76, hn⟩ : ∃ n, n + 1 ≤ 76 ∧
      (due page false (currentValue comp raw cellDataVerified) cache.entry).length ≤ n + 1 :=
    ⟨75, by omega, by omega⟩
  refine ⟨n + 1, hn76, ?_⟩
  intro call calls last
  obtain ⟨hsent, hentry⟩ := calls_converge comp raw cellDataVerified maxBytes hbytes hn
  refine ⟨hentry, ?_, ?_, fun m =>
    commandsOf_replicate_of_current comp raw cellDataVerified maxBytes m hentry⟩
  · exact calls_warm comp raw cellDataVerified maxBytes hbytes hn
  · intro c
    have hcount : ((commandsOf cache calls).map Command.component).count c =
        (due page false call.value cache.entry).count c := congrArg (List.count c) hsent
    rw [hcount, (due_nodup page_nodup _ _ _).count]
    simp only [mem_due_iff, mem_page, true_and, ne_comm (a := call.value c), ite_not]

end Repeated

theorem page_converges_fresh :
    ∃ n ≤ 76, (stateAfter pageStep .fresh (List.replicate n (restingCall 20))).isWarm = true := by
  obtain ⟨n, hn, -, hwarm, -⟩ :=
    page_converges restingComputed restingPack true (le_refl 20) .fresh
  exact ⟨n, hn, hwarm⟩

end TfnAks.Bms
