/-
# TfnAks.Hmi.ShownPass — what the display shows after each pass

The task and the display together, pass after pass. The main page is up to date after every pass.
The BMS page is drained under its budget of 90 bytes, in the order of the components; while that
goes on only `warn` changes, and it comes last but one, so the passes of a cold start send what they
would send of a page that stands still. Fourteen of them reach the end of it (`drained_late`), and
from then on a pass changes `warn` at most.
-/
import TfnAks.Hmi.HmiTask

namespace TfnAks.Hmi

open TfnAks.Bms TfnAks.Relay TfnAks.Vcu TfnAks.Lib.BudgetedRefresh TfnAks.Lib.Mealy TfnAks.Lib.Runs

/-! ## The display -/

/-- What the two pages show: for each component what was written to it last. -/
structure Screen where
  main : Page
  bms : BmsComponent → Option Command

/-- The display carries out a command for the BMS page. -/
def writeBms (page : BmsComponent → Option Command) (cmd : Command) : BmsComponent → Option Command :=
  Function.update page cmd.component (some cmd)

/-- The commands of a pass on both pages. -/
def Screen.write (s : Screen) (o : HmiOutput) : Screen :=
  ⟨o.mainCommands.foldl Page.write s.main, o.bmsCommands.foldl writeBms s.bms⟩

/-- The task and the display it writes to. -/
structure ShownTask where
  task : HmiTask
  screen : Screen

/-- The task at its start, before a display that shows anything. -/
def ShownTask.begun (screen : Screen) : ShownTask := ⟨.begun, screen⟩

/-- A pass of the firmware, and the display that executes what it writes. -/
def ShownTask.pass (s : ShownTask) (p : HmiPass) : ShownTask :=
  let (task, output) := s.task.pass sourceVerified p
  ⟨task, s.screen.write output⟩

/-- The record a pass paints the main page from. -/
def HmiPass.screenData (p : HmiPass) : HmiDisplayData :=
  Hmi.screenData sourceVerified p.screenQueue p.vcuState (areAllContactorsClosed p.getRelayState)

/-- The queue holds a record with a fresh BMS frame. -/
def bmsValid (queue : Option TelemetryData) : Bool :=
  queue.isSome && (queue.getD .zero).telBmsDataValid

/-- What the BMS page has to show as long as the cells are not verified. -/
def noCellValue (bmsValid : Bool) : (c : BmsComponent) → c.Value
  | .cell _ | .cellmax | .cellmin => cellVoltageNoData
  | .j _ | .bal _ | .cellcan => (0 : UInt8)
  | .warn => if bmsValid then bmsWarnOk else bmsWarnCritical

theorem bmsPageData_value (queue : Option TelemetryData) :
    currentValue (bmsPageData false queue).2 (bmsPageData false queue).1 false =
      noCellValue (bmsValid queue) := by
  have hdata : bmsPageData false queue =
      (⟨fun _ => cellVoltageNoData⟩,
        { cellMaxMv := cellVoltageNoData
          cellMinMv := cellVoltageNoData
          balanceFlag _ := false
          warningLevel := if bmsValid queue then bmsWarnOk else bmsWarnCritical }) := by
    show (if (bmsValid queue && false) = true then _ else _) = _
    rw [Bool.and_false]
    rfl
  rw [hdata]
  funext c
  cases c <;> rfl

/-! ## The main page -/

theorem pending_of_scan (d : DisplayHMI) (got : Option UInt8) (bytes : List UInt8) :
    (d.scan got bytes).1.nextionResetPending =
      (d.nextionResetPending || decide (ClassifiesReset d.rxState bytes)) := by
  induction bytes generalizing d got with
  | nil => simp [DisplayHMI.scan, not_classifiesReset_nil]
  | cons b bs ih =>
      have hrest := ih (d.scanByte got b).1 (d.scanByte got b).2
      have hone : (d.scanByte got b).1.nextionResetPending =
          (d.nextionResetPending || decide ((rxClassifyByte d.rxState b).2 = .nextionReset)) := by
        unfold DisplayHMI.scanByte
        rcases rxClassifyByte d.rxState b with ⟨st, event⟩
        cases event with
        | none => simp
        | touch cmd => cases got <;> simp
        | nextionReset => simp
      rw [(scanByte_spec d got b).1, hone] at hrest
      show ((d.scanByte got b).1.scan (d.scanByte got b).2 bs).1.nextionResetPending = _
      rw [hrest, Bool.or_assoc, ← Bool.decide_or]
      simp only [classifiesReset_cons]

theorem pending_of_readTouchCommand {d : DisplayHMI} (hinit : d.isInitialized = true)
    (bytes : List UInt8) :
    (d.readTouchCommand bytes).1.nextionResetPending =
      (d.nextionResetPending || decide (ClassifiesReset d.rxState bytes)) := by
  cases bytes with
  | nil => simp [DisplayHMI.readTouchCommand, hinit, not_classifiesReset_nil]
  | cons b bs => simpa [DisplayHMI.readTouchCommand, hinit] using pending_of_scan d none (b :: bs)

theorem classifiesReset_append (st : RxState) (bytes more : List UInt8) :
    ClassifiesReset st (bytes ++ more) ↔
      ClassifiesReset st bytes ∨ ClassifiesReset (stateAfter rxClassifyByte st bytes) more := by
  unfold ClassifiesReset
  rw [outputs_append, List.mem_append]

/-- The object, with its cache right about the main page. -/
structure ShownTask.MainShown (s : ShownTask) : Prop where
  queue : s.task.sensorDataQueue = true
  initialized : s.task.display.isInitialized = true
  shown : s.task.display.hasCachedScreen = true →
    ∀ c, s.screen.main c = some (s.task.display.lastScreenData.formatted c)

theorem begun_mainShown (screen : Screen) : (ShownTask.begun screen).MainShown :=
  ⟨rfl, rfl, fun h => absurd h Bool.false_ne_true⟩

/-- The BMS page touches neither the display object nor the queue. -/
theorem sendBmsPage_kept (verified : SourceVerified) (force : Bool) (queue : Option TelemetryData)
    (nowMs : UInt32) (t : HmiTask) :
    (t.sendBmsPage verified force queue nowMs).1.display = t.display ∧
      (t.sendBmsPage verified force queue nowMs).1.sensorDataQueue = t.sensorDataQueue := by
  unfold HmiTask.sendBmsPage HmiTask.cellClock
  split_ifs <;> exact ⟨rfl, rfl⟩

theorem paint_display (verified : SourceVerified) (force : Bool) (data : HmiDisplayData)
    (queue : Option TelemetryData) (nowMs : UInt32) (t : HmiTask) :
    (t.paint verified force data queue nowMs).1.display = (t.display.updateScreen data).1 :=
  (sendBmsPage_kept verified force queue nowMs _).1

/-- What the pass leaves of the display object: the data is cached, then the bytes are scanned. -/
theorem pass_display {s : ShownTask} (hs : s.MainShown) (p : HmiPass) :
    (s.pass p).task.display =
      DisplayObject.readTouchCommand
        { s.task.display.takeNextionResetFlag with
          lastScreenData := p.screenData
          hasCachedScreen := true } p.received := by
  have hupdate := updateScreen_spec (o := s.task.display.takeNextionResetFlag) hs.initialized
    p.screenData
  have hpaint := paint_display sourceVerified s.task.display.nextionResetPending p.screenData
    p.bmsQueue p.nowMs s.task.takeNextionResetFlag.1
  have htaken : s.task.takeNextionResetFlag.1.display = s.task.display.takeNextionResetFlag := rfl
  rw [htaken] at hpaint
  obtain ⟨⟨queue, display, cache, lastCellUpdateMs, firstRun⟩, screen⟩ := s
  obtain rfl : queue = true := hs.queue
  rw [hupdate] at hpaint
  exact congrArg (fun o : DisplayObject => o.readTouchCommand p.received) hpaint

theorem pass_main {s : ShownTask} (hs : s.MainShown) (p : HmiPass) (c : MainComponent) :
    (s.pass p).screen.main c = some (p.screenData.formatted c) := by
  have hupdate := updateScreen_spec (o := s.task.display.takeNextionResetFlag) hs.initialized
    p.screenData
  have hmain : (s.pass p).screen.main =
      (commandsFor p.screenData (due mainComponents (!s.task.display.hasCachedScreen)
        p.screenData.formatted s.task.display.lastScreenData.formatted)).foldl Page.write
          s.screen.main := by
    obtain ⟨⟨queue, display, cache, lastCellUpdateMs, firstRun⟩, screen⟩ := s
    obtain rfl : queue = true := hs.queue
    exact congrArg (fun r : DisplayObject × List MainCommand => r.2.foldl Page.write screen.main)
      hupdate
  rw [hmain, foldl_write_commandsFor]
  refine paint_due mem_mainComponents (fun hforce => ?_) c
  rw [Bool.not_eq_false'] at hforce
  exact hs.shown hforce

theorem pass_sensorDataQueue (verified : SourceVerified) (t : HmiTask) (p : HmiPass) :
    (t.pass verified p).1.sensorDataQueue = t.sensorDataQueue := by
  show (HmiTask.sendBmsPage _ _ _ _ _).1.sensorDataQueue = _
  exact (sendBmsPage_kept _ _ _ _ _).2

/-- **Every pass brings the main page up to date**, and keeps the cache right about it. -/
theorem pass_mainShown (s : ShownTask) (p : HmiPass) (hs : s.MainShown) :
    (s.pass p).MainShown := by
  have hdisplay := pass_display hs p
  have hcached := readTouchCommand_spec (d := { s.task.display.takeNextionResetFlag.toDisplayHMI with
    hasCachedScreen := true }) hs.initialized p.received
  refine ⟨?_, ?_, fun _ => ?_⟩
  · exact (pass_sensorDataQueue sourceVerified s.task p).trans hs.queue
  · rw [hdisplay]
    exact hcached.2.1
  · rw [hdisplay]
    exact pass_main hs p

/-! ## The BMS page -/

/-- The bytes of each command; those of `warn` do not depend on its value. -/
def pageCost : BmsComponent → Nat := commandBytes (noCellValue true)

theorem commandBytes_noCellValue (bmsValid : Bool) :
    commandBytes (noCellValue bmsValid) = pageCost := by
  funext c
  cases c with
  | warn => cases bmsValid <;> decide
  | _ => rfl

theorem noCellValue_eq {c : BmsComponent} (hc : c ≠ .warn) (a b : Bool) :
    noCellValue a c = noCellValue b c := by
  cases c with
  | warn => exact absurd rfl hc
  | _ => rfl

/-- No value is the one a cold cache holds. -/
theorem noCellValue_ne_fresh (bmsValid : Bool) (c : BmsComponent) :
    noCellValue bmsValid c ≠ BmsNextionCache.fresh.entry c := by
  cases c with
  | cell i | cellmax | cellmin => exact show (65535 : UInt16) ≠ 0 by decide
  | j i | bal i | cellcan => exact show (0 : UInt8) ≠ 255 by decide
  | warn => cases bmsValid <;> decide

/-- What the first passes send of the page. -/
def drained (n : Nat) : List BmsComponent := drain pageCost 90 n page

theorem drained_isPrefix (n : Nat) : drained n <+: page := drain_isPrefix n page

/-- **The fourteenth pass** is the one that gets to `warn`. -/
theorem drained_late : (drained 13).length = 73 ∧ drained 14 = page := by
  have hlate : (drained 13).length = 73 := by decide
  refine ⟨hlate, ?_⟩
  have hrest : fitting pageCost 90 (page.drop 73) = page.drop 73 := fitting_eq_self (by decide)
  have hsplit := List.prefix_iff_eq_append.mp (drained_isPrefix 13)
  rw [hlate] at hsplit
  rw [drained, drain_succ, ← drained, hlate, hrest, hsplit]

theorem warn_notMem_drained {n : Nat} (hn : n ≤ 13) : .warn ∉ drained n := by
  intro hmem
  have hlate : .warn ∈ drained 13 := (drain_isPrefix_of_le hn page).subset hmem
  have htake : drained 13 = page.take 73 := by
    rw [← drained_late.1]
    exact List.prefix_iff_eq_take.mp (drained_isPrefix 13)
  rw [htake] at hlate
  exact absurd hlate (by decide)

/-- What the cache holds after `n` passes without a restart of the display, the last of them with
`valid`. -/
def Painted (n : Nat) (valid : Bool) (cache : BmsNextionCache) : Prop :=
  if n < 14 then
    cache.isWarm = false ∧
      cache.entry = refreshed (drained n) (noCellValue true) BmsNextionCache.fresh.entry
  else cache.isWarm = true ∧ cache.entry = noCellValue valid

theorem fresh_painted (valid : Bool) : Painted 0 valid .fresh :=
  ⟨rfl, (refreshed_nil _ _).symm⟩

/-- A call of the task: the budget is 90, and only the first pass is forced. -/
structure PageCall.OfPass (call : PageCall) (n : Nat) (valid : Bool) : Prop where
  value : call.value = noCellValue valid
  budget : call.maxBytes = 90
  forced : call.forceFullRefresh = true → n = 0

section Call

variable {call : PageCall} {cache : BmsNextionCache} {n : Nat} {last valid : Bool}

/-- The passes of a cold start send the page front to back. -/
theorem painted_wanted (hcall : PageCall.OfPass call n valid) (hn : n < 14)
    (h : Painted n last cache) : call.wanted cache = page.drop (drained n).length := by
  rw [Painted, if_pos hn] at h
  have hwalked : walked call.forceFullRefresh call.updateCells cache.isWarm = page := by
    apply walked_eq_page
    rw [h.1, Bool.not_false, Bool.or_true]
  have hdue : due page false (noCellValue valid) cache.entry = page.drop (drained n).length := by
    rw [h.2]
    refine due_refreshed_drain page_nodup (fun c _ => noCellValue_ne_fresh valid c) fun c hc => ?_
    refine noCellValue_eq ?_ _ _
    rintro rfl
    exact warn_notMem_drained (by omega) hc
  unfold PageCall.wanted
  rw [hwalked, hcall.value]
  cases hforce : call.forceFullRefresh with
  | false => exact hdue
  | true =>
      -- forced or not, the first pass finds the whole page due
      obtain rfl := hcall.forced hforce
      rw [due_force]
      rfl

theorem painted_sent (hcall : PageCall.OfPass call n valid) (hn : n < 14)
    (h : Painted n last cache) :
    call.sent cache = fitting pageCost 90 (page.drop (drained n).length) := by
  unfold PageCall.sent
  rw [painted_wanted hcall hn h, hcall.value, hcall.budget, commandBytes_noCellValue]

theorem painted_entry (hcall : PageCall.OfPass call n valid) (hn : n < 14)
    (h : Painted n last cache) :
    (pageStep cache call).1.entry =
      refreshed (drained (n + 1)) (noCellValue valid) BmsNextionCache.fresh.entry := by
  have hentry := h
  rw [Painted, if_pos hn] at hentry
  rw [pageStep_entry, painted_sent hcall hn h, hentry.2, hcall.value]
  refine refreshed_drain_succ fun c hc => noCellValue_eq ?_ _ _
  rintro rfl
  exact warn_notMem_drained (by omega) hc

/-- A pass of the cold start. -/
theorem painted_cold (hcall : PageCall.OfPass call n valid) (hn : n < 14)
    (h : Painted n last cache) : Painted (n + 1) valid (pageStep cache call).1 := by
  have hentry := painted_entry hcall hn h
  have hwarm := pageStep_isWarm call cache
  rw [painted_sent hcall hn h, painted_wanted hcall hn h] at hwarm
  rw [Painted, if_pos hn] at h
  rw [h.1, eq_false Bool.false_ne_true, false_or] at hwarm
  by_cases hnext : n + 1 < 14
  · rw [Painted, if_pos hnext]
    constructor
    · -- the page is complete with its last item, which is still to come
      rw [Bool.eq_false_iff, ne_eq, hwarm]
      intro hall
      have hdone : drained (n + 1) = page := by
        rw [drained, drain_succ, ← drained, hall]
        exact List.prefix_iff_eq_append.mp (drained_isPrefix n)
      have hmem := warn_notMem_drained (n := n + 1) (by omega)
      rw [hdone] at hmem
      exact hmem (mem_page .warn)
    · rw [hentry]
      refine refreshed_congr fun c hc => noCellValue_eq ?_ _ _
      rintro rfl
      exact warn_notMem_drained (by omega) hc
  · -- the fourteenth pass has room for all that is left
    obtain rfl : n = 13 := by omega
    rw [Painted, if_neg hnext]
    constructor
    · rw [hwarm, drained_late.1]
      exact fitting_eq_self (by decide)
    · rw [hentry, drained_late.2]
      funext c
      exact if_pos (mem_page c)

/-- A pass over the complete page: only `warn` can have changed, and it fits. -/
theorem painted_warm (hcall : PageCall.OfPass call n valid) (hn : 14 ≤ n)
    (h : Painted n last cache) : Painted (n + 1) valid (pageStep cache call).1 := by
  rw [Painted, if_neg (by omega)] at h
  obtain ⟨hwarm, hentry⟩ := h
  have hforce : call.forceFullRefresh = false := by
    rw [Bool.eq_false_iff]
    intro hforced
    have hzero := hcall.forced hforced
    omega
  set ws := walked call.forceFullRefresh call.updateCells cache.isWarm with hws
  have hwanted : call.wanted cache = due ws false (noCellValue valid) (noCellValue last) := by
    unfold PageCall.wanted
    rw [hcall.value, hentry, hforce, hws, hforce]
  have hwarnOnly : ∀ c ∈ call.wanted cache, c = .warn := by
    intro c hc
    rw [hwanted, mem_due_iff] at hc
    by_contra hne
    exact hc.2 (noCellValue_eq hne _ _)
  have hsent : call.sent cache = call.wanted cache := by
    unfold PageCall.sent
    rw [hcall.value, hcall.budget, commandBytes_noCellValue]
    refine fitting_eq_self ?_
    have hnodup : (call.wanted cache).Nodup := due_nodup (walked_nodup _ _ _) _ _ _
    have hsub : (call.wanted cache).Subperm [.warn] :=
      List.subperm_of_subset hnodup fun c hc => List.mem_singleton.mpr (hwarnOnly c hc)
    have hlen := hsub.length_le
    match hlist : call.wanted cache with
    | [] => decide
    | [c] =>
        rw [hwarnOnly c (by rw [hlist]; exact List.mem_singleton_self c)]
        decide
    | _ :: _ :: _ =>
        rw [hlist] at hlen
        simp at hlen
  rw [Painted, if_neg (by omega)]
  constructor
  · rw [pageStep_isWarm]
    exact Or.inl hwarm
  · rw [pageStep_entry, hsent, hwanted, hcall.value, hentry]
    refine refreshed_due_of_eq fun c hc => ?_
    -- `warn` is walked in every pass
    refine noCellValue_eq ?_ _ _
    rintro rfl
    exact hc (List.mem_append_right _ (by decide))

end Call

/-! ## Runs without a restart of the display -/

/-- The call of `buildBmsNextionCommands` in a pass. -/
def ShownTask.bmsCall (s : ShownTask) (p : HmiPass) : PageCall :=
  s.task.bmsCall sourceVerified s.task.display.nextionResetPending p.bmsQueue p.nowMs

theorem bmsCall_value (s : ShownTask) (p : HmiPass) :
    (s.bmsCall p).value = noCellValue (bmsValid p.bmsQueue) := bmsPageData_value p.bmsQueue

theorem bmsCall_forced {s : ShownTask} {p : HmiPass}
    (h : (s.bmsCall p).forceFullRefresh = true) :
    s.task.bmsFirstRun = true ∨ s.task.display.nextionResetPending = true := by
  by_contra hnot
  rw [not_or, Bool.not_eq_true, Bool.not_eq_true] at hnot
  have hforced : (s.task.cellClock s.task.display.nextionResetPending p.nowMs).2.1 = true := h
  unfold HmiTask.cellClock at hforced
  rw [hnot.1, hnot.2] at hforced
  simp only [Bool.or_false, Bool.false_eq_true, if_false] at hforced
  split at hforced <;> exact Bool.false_ne_true hforced

theorem cellClock_bmsFirstRun (t : HmiTask) (force : Bool) (nowMs : UInt32) :
    (t.cellClock force nowMs).1.bmsFirstRun = false := by
  unfold HmiTask.cellClock
  split
  · rfl
  · rename_i h
    rw [Bool.not_eq_true, Bool.or_eq_false_iff] at h
    split <;> exact h.1

/-- The arguments do not depend on the display object. -/
theorem bmsCall_display (t : HmiTask) (display : DisplayObject) (force : Bool)
    (queue : Option TelemetryData) (nowMs : UInt32) :
    { t with display := display }.bmsCall sourceVerified force queue nowMs =
      t.bmsCall sourceVerified force queue nowMs := by
  unfold HmiTask.bmsCall HmiTask.cellClock
  split_ifs <;> rfl

/-- What a pass does about the BMS page. -/
theorem pass_bms {s : ShownTask} (hs : s.MainShown) (p : HmiPass) :
    (s.pass p).task.bmsHmiCache = (pageStep s.task.bmsHmiCache (s.bmsCall p)).1 ∧
      (s.pass p).screen.bms =
        (pageStep s.task.bmsHmiCache (s.bmsCall p)).2.foldl writeBms s.screen.bms ∧
      (s.pass p).task.bmsFirstRun = false := by
  have hcall := bmsCall_display s.task (s.task.display.takeNextionResetFlag.updateScreen
    p.screenData).1 s.task.display.nextionResetPending p.bmsQueue p.nowMs
  obtain ⟨⟨queue, display, cache, lastCellUpdateMs, firstRun⟩, screen⟩ := s
  obtain rfl : queue = true := hs.queue
  refine ⟨?_, ?_, cellClock_bmsFirstRun _ _ _⟩
  · exact congrArg (fun call => (pageStep cache call).1) hcall
  · exact congrArg (fun call => (pageStep cache call).2.foldl writeBms screen.bms) hcall

/-- The commands of a call, written to the page. -/
theorem foldl_writeBms (page : BmsComponent → Option Command) (cs : List BmsComponent)
    (value : (c : BmsComponent) → c.Value) (c : BmsComponent) :
    (cs.map fun k => command k (value k)).foldl writeBms page c =
      if c ∈ cs then some (command c (value c)) else page c := by
  induction cs generalizing page with
  | nil => rfl
  | cons k cs ih =>
      rw [List.map_cons, List.foldl_cons, ih]
      by_cases hcs : c ∈ cs
      · rw [if_pos hcs, if_pos (List.mem_cons_of_mem k hcs)]
      · rw [if_neg hcs]
        by_cases hk : c = k
        · subst hk
          rw [if_pos List.mem_cons_self]
          exact Function.update_self ..
        · rw [if_neg (by simp [hcs, hk])]
          exact Function.update_of_ne hk _ _

/-- The display shows what the cache holds, apart from the values of a cold cache. -/
def ShownTask.BmsShown (s : ShownTask) : Prop :=
  ∀ c, s.task.bmsHmiCache.entry c = BmsNextionCache.fresh.entry c ∨
    s.screen.bms c = some (command c (s.task.bmsHmiCache.entry c))

theorem pass_bmsShown {s : ShownTask} (hs : s.MainShown) (h : s.BmsShown) (p : HmiPass) :
    (s.pass p).BmsShown := by
  obtain ⟨hcache, hscreen, -⟩ := pass_bms hs p
  intro c
  rw [hcache, hscreen, pageStep_entry, pageStep_commands, foldl_writeBms]
  unfold refreshed
  by_cases hc : c ∈ (s.bmsCall p).sent s.task.bmsHmiCache
  · rw [if_pos hc, if_pos hc]
    exact Or.inr rfl
  · rw [if_neg hc, if_neg hc]
    exact h c

/-- The bytes of some passes. -/
def received (ps : List HmiPass) : List UInt8 := (ps.map HmiPass.received).flatten

theorem received_concat (ps : List HmiPass) (p : HmiPass) :
    received (ps ++ [p]) = received ps ++ p.received := by
  simp [received]

/-- The task and the display after the passes `ps`, none of which has classified a restart. -/
structure ShownTask.After (ps : List HmiPass) (valid : Bool) (s : ShownTask) : Prop where
  main : s.MainShown
  rx : s.task.display.rxState = stateAfter rxClassifyByte .start (received ps)
  pending : s.task.display.nextionResetPending = false
  firstRun : s.task.bmsFirstRun = true → ps.length = 0
  painted : Painted ps.length valid s.task.bmsHmiCache
  bms : s.BmsShown

theorem begun_after (screen : Screen) (valid : Bool) : (ShownTask.begun screen).After [] valid where
  main := begun_mainShown screen
  rx := rfl
  pending := rfl
  firstRun _ := rfl
  painted := fresh_painted valid
  bms _ := Or.inl rfl

theorem pass_after {s : ShownTask} {ps : List HmiPass} {last : Bool} (h : s.After ps last)
    (p : HmiPass) (hquiet : ¬ ClassifiesReset .start (received (ps ++ [p]))) :
    (s.pass p).After (ps ++ [p]) (bmsValid p.bmsQueue) := by
  obtain ⟨hmain, hrx, hpending, hfirst, hpainted, hbms⟩ := h
  obtain ⟨hcache, -, hran⟩ := pass_bms hmain p
  have hdisplay := pass_display hmain p
  have hlength : (ps ++ [p]).length = ps.length + 1 := List.length_append
  rw [received_concat, classifiesReset_append, not_or] at hquiet
  have hcall : PageCall.OfPass (s.bmsCall p) ps.length (bmsValid p.bmsQueue) := by
    refine ⟨bmsCall_value s p, rfl, fun hforced => ?_⟩
    rcases bmsCall_forced hforced with hrun | hreset
    · exact hfirst hrun
    · exact absurd (hpending.symm.trans hreset) Bool.false_ne_true
  -- the bytes are read after the painting, so a restart in them shows in the next pass
  have hscan := readTouchCommand_spec (d := { s.task.display.takeNextionResetFlag.toDisplayHMI with
    hasCachedScreen := true }) hmain.initialized p.received
  have hreset := pending_of_readTouchCommand
    (d := { s.task.display.takeNextionResetFlag.toDisplayHMI with hasCachedScreen := true })
    hmain.initialized p.received
  refine ⟨pass_mainShown s p hmain, ?_, ?_, ?_, ?_, pass_bmsShown hmain hbms p⟩
  · rw [hdisplay, received_concat, stateAfter_append, ← hrx]
    exact hscan.1
  · rw [hdisplay]
    refine hreset.trans ?_
    show (false || decide (ClassifiesReset s.task.display.rxState p.received)) = false
    rw [Bool.false_or, hrx]
    exact decide_eq_false hquiet.2
  · rw [hran]
    exact fun hrun => absurd hrun Bool.false_ne_true
  · rw [hlength, hcache]
    by_cases hn : ps.length < 14
    · exact painted_cold hcall hn hpainted
    · exact painted_warm hcall (by omega) hpainted

theorem exec_mainShown (screen : Screen) (ps : List HmiPass) :
    (exec ShownTask.pass (.begun screen) ps).MainShown :=
  exec_invariant pass_mainShown (begun_mainShown screen) ps

theorem exec_after (screen : Screen) (ps : List HmiPass)
    (hquiet : ¬ ClassifiesReset .start (received ps)) :
    ∃ last, (exec ShownTask.pass (.begun screen) ps).After ps last := by
  induction ps using List.reverseRecOn with
  | nil => exact ⟨true, begun_after screen true⟩
  | append_singleton ps p ih =>
      have hbefore : ¬ ClassifiesReset .start (received ps) := by
        intro hreset
        rw [received_concat, classifiesReset_append] at hquiet
        exact hquiet (Or.inl hreset)
      obtain ⟨last, hlast⟩ := ih hbefore
      rw [exec_append, exec_cons, exec_nil]
      exact ⟨_, pass_after hlast p hquiet⟩

/-! ## Every run -/

/-- The three signals that are not verified. -/
theorem formatted_noData (p : HmiPass) (c : MainComponent)
    (hc : c ∈ [MainComponent.bat, .temp, .packi]) :
    p.screenData.formatted c = .txt "--".toList := by
  have hdata : p.screenData.currentBattery = batteryNoData ∧
      p.screenData.bmsTemperatureC = tempNoData ∧
        p.screenData.packCurrentDeciA = currentNoData := by
    unfold HmiPass.screenData screenData
    cases p.screenQueue with
    | none => exact ⟨rfl, rfl, rfl⟩
    | some d => exact ⟨rfl, rfl, rfl⟩
  obtain ⟨hbat, htemp, hcurrent⟩ := hdata
  have htexts : formatBatteryText batteryNoData 8 = "--".toList ∧
      formatTempText tempNoData 8 = "--".toList ∧
        formatCurrentText currentNoData 10 = "--".toList := by decide
  cases c with
  | bat => rw [HmiDisplayData.formatted, hbat, htexts.1]
  | temp => rw [HmiDisplayData.formatted, htemp, htexts.2.1]
  | packi => rw [HmiDisplayData.formatted, hcurrent, htexts.2.2]
  | _ => exact absurd hc (by decide)

/-- **The pages show the pass.** After every pass each component of the main page shows the value of
the pass; from the fourteenth pass on, as long as no restart has been classified, the BMS page too.
-/
theorem pages_show_the_pass (screen : Screen) (ps : List HmiPass) (p : HmiPass) :
    let s := exec ShownTask.pass (.begun screen) (ps ++ [p])
    (∀ c, s.screen.main c = some (p.screenData.formatted c)) ∧
      (13 ≤ ps.length → ¬ ClassifiesReset .start (received (ps ++ [p])) →
        ∀ c, s.screen.bms c = some (command c (noCellValue (bmsValid p.bmsQueue) c))) := by
  intro s
  have hs : s = (exec ShownTask.pass (.begun screen) ps).pass p := by
    rw [← exec_nil ShownTask.pass (ShownTask.pass _ p), ← exec_cons, ← exec_append]
  refine ⟨?_, fun hlate hquiet c => ?_⟩
  · rw [hs]
    exact pass_main (exec_mainShown screen ps) p
  · have hbefore : ¬ ClassifiesReset .start (received ps) := by
      intro hreset
      rw [received_concat, classifiesReset_append] at hquiet
      exact hquiet (Or.inl hreset)
    obtain ⟨last, hlast⟩ := exec_after screen ps hbefore
    have hafter := pass_after hlast p hquiet
    rw [← hs] at hafter
    have hlength : (ps ++ [p]).length = ps.length + 1 := List.length_append
    have hpainted := hafter.painted
    rw [hlength, Painted, if_neg (by omega)] at hpainted
    have hshown := hafter.bms c
    rw [hpainted.2] at hshown
    exact hshown.resolve_left (noCellValue_ne_fresh _ c)

end TfnAks.Hmi
