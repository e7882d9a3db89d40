/-
# TfnAks.Hmi.PageCoherence — the main page shows the data of the last update

The display object and the display itself as one machine. The display keeps the last value written
to each component and loses them all when it restarts; the object does not see the restart, it sees
the marker the display sends, once `readTouchCommand` has classified it. Between the two the change
cache is wrong about the page, so the runs of interest are those in which no update falls into that
gap.
-/
import TfnAks.Hmi.MainPage
import TfnAks.Lib.Runs

namespace TfnAks.Hmi

open TfnAks.Lib.BudgetedRefresh TfnAks.Lib.Mealy TfnAks.Lib.Runs

/-- What the main page shows: for each component the last value written to it since the display's
last restart. -/
abbrev Page := MainComponent → Option ShownValue

/-- The display carries out a command. -/
def Page.write (page : Page) (cmd : MainCommand) : Page :=
  Function.update page cmd.component (some cmd.value)

/-- The object and the page it paints. -/
structure PageSystem where
  object : DisplayObject
  page : Page
  /-- The display has restarted, and no scan has classified a marker since. -/
  markerUnread : Bool

/-- After `begin()`. The page can be in any state: the display may have been running for long. -/
def PageSystem.begun (page : Page) : PageSystem := ⟨⟨.begun, .zero⟩, page, false⟩

/-- The calls of the task, and a restart of the display. -/
inductive PageAction where
  | updateScreen (data : HmiDisplayData)
  | readTouchCommand (bytes : List UInt8)
  | takeNextionResetFlag
  | nextionReset
  deriving DecidableEq

/-- A scan, for what it leaves. -/
def DisplayObject.readTouchCommand (o : DisplayObject) (bytes : List UInt8) : DisplayObject :=
  { o with toDisplayHMI := (o.toDisplayHMI.readTouchCommand bytes).1 }

/-- The reset flag taken, for what it leaves. -/
def DisplayObject.takeNextionResetFlag (o : DisplayObject) : DisplayObject :=
  { o with toDisplayHMI := o.toDisplayHMI.takeNextionResetFlag.1 }

/-- One of these actions; a restart blanks the page. -/
def PageSystem.step (s : PageSystem) : PageAction → PageSystem
  | .updateScreen data =>
    let (object, commands) := s.object.updateScreen data
    { s with object := object, page := commands.foldl Page.write s.page }
  | .readTouchCommand bytes =>
    { s with
      object := s.object.readTouchCommand bytes
      markerUnread := s.markerUnread && !decide (ClassifiesReset s.object.rxState bytes) }
  | .takeNextionResetFlag => { s with object := s.object.takeNextionResetFlag }
  | .nextionReset => { s with page := fun _ => none, markerUnread := true }

/-- The assumption on a run: whenever the screen is updated, a marker has been classified since the
last restart of the display. -/
def ResetsClassified (s : PageSystem) (as : List PageAction) : Prop :=
  Before PageSystem.step s as fun s a => ∀ data, a = .updateScreen data → s.markerUnread = false

/-- The action is neither an update nor a restart, as the display makes it or as a scan reads it. -/
def PageAction.Quiet (s : PageSystem) : PageAction → Prop
  | .updateScreen _ => False
  | .readTouchCommand bytes => ¬ ClassifiesReset s.object.rxState bytes
  | .takeNextionResetFlag => True
  | .nextionReset => False

/-! ## The invariant -/

/-- The page shows the data of the last update, as far as the object relies on it. -/
structure PageSystem.Coherent (s : PageSystem) : Prop where
  initialized : s.object.isInitialized = true
  shown : s.markerUnread = false → s.object.hasCachedScreen = true →
    ∀ c, s.page c = some (s.object.lastScreenData.formatted c)

theorem begun_coherent (page : Page) : (PageSystem.begun page).Coherent :=
  ⟨rfl, fun _ hcached => absurd hcached Bool.false_ne_true⟩

/-- The commands of a call, written one after the other. -/
theorem foldl_write_commandsFor (page : Page) (data : HmiDisplayData)
    (components : List MainComponent) :
    (commandsFor data components).foldl Page.write page = paint data.formatted page components :=
  List.foldl_map

theorem updateScreen_object {s : PageSystem} (hinit : s.object.isInitialized = true)
    (data : HmiDisplayData) :
    (s.step (.updateScreen data)).object =
      { s.object with lastScreenData := data, hasCachedScreen := true } :=
  congrArg Prod.fst (updateScreen_spec hinit data)

/-- **An update brings the whole page up to date**: a component it does not write already shows the
value. -/
theorem updateScreen_shown {s : PageSystem} (hs : s.Coherent) (hread : s.markerUnread = false)
    (data : HmiDisplayData) (c : MainComponent) :
    (s.step (.updateScreen data)).page c = some (data.formatted c) := by
  show ((s.object.updateScreen data).2.foldl Page.write s.page) c = _
  rw [updateScreen_spec hs.initialized, foldl_write_commandsFor]
  refine paint_due mem_mainComponents (fun hforce => ?_) c
  rw [Bool.not_eq_false'] at hforce
  exact hs.shown hread hforce

theorem readTouchCommand_coherent {s : PageSystem} (hs : s.Coherent) (bytes : List UInt8) :
    (s.step (.readTouchCommand bytes)).Coherent := by
  have hcached := readTouchCommand_hasCachedScreen hs.initialized bytes
  refine ⟨(readTouchCommand_spec hs.initialized bytes).2.1, fun hread hforce => ?_⟩
  -- a scan that leaves the cache alone has classified nothing
  have hboth := hcached.symm.trans hforce
  rw [Bool.and_eq_true, decide_eq_true_eq] at hboth
  have hunread : (s.markerUnread && !decide (ClassifiesReset s.object.rxState bytes)) = false := hread
  rw [decide_eq_false hboth.2, Bool.not_false, Bool.and_true] at hunread
  exact hs.shown hunread hboth.1

/-- Every action keeps the page coherent, an update when no marker is unread. -/
theorem step_coherent {s : PageSystem} {a : PageAction} (hs : s.Coherent)
    (hread : ∀ data, a = .updateScreen data → s.markerUnread = false) : (s.step a).Coherent := by
  cases a with
  | updateScreen data =>
      have hshown := updateScreen_shown hs (hread data rfl) data
      have hobject := updateScreen_object hs.initialized data
      refine ⟨?_, fun _ _ => ?_⟩
      · rw [hobject]
        exact hs.initialized
      · rw [hobject]
        exact hshown
  | readTouchCommand bytes => exact readTouchCommand_coherent hs bytes
  | takeNextionResetFlag => exact ⟨hs.initialized, hs.shown⟩
  | nextionReset => exact ⟨hs.initialized, fun hread => absurd hread (by simp [PageSystem.step])⟩

theorem ResetsClassified.coherent {s : PageSystem} (hs : s.Coherent) {as : List PageAction}
    (h : ResetsClassified s as) :
    Before PageSystem.step s as fun s a =>
      s.Coherent ∧ ∀ data, a = .updateScreen data → s.markerUnread = false :=
  Before.of_invariant (fun _ _ => step_coherent) (fun _ _ hs hread => ⟨hs, hread⟩) hs h

/-! ## Quiet stretches -/

theorem step_quiet {s : PageSystem} {a : PageAction} (hinit : s.object.isInitialized = true)
    (h : a.Quiet s) :
    (s.step a).object.isInitialized = true ∧
      (s.step a).object.hasCachedScreen = s.object.hasCachedScreen ∧
      (s.step a).object.lastScreenData = s.object.lastScreenData := by
  cases a with
  | updateScreen data => exact h.elim
  | readTouchCommand bytes =>
      have hcached := readTouchCommand_hasCachedScreen hinit bytes
      have hnone : ¬ ClassifiesReset s.object.rxState bytes := h
      rw [decide_eq_true hnone, Bool.and_true] at hcached
      exact ⟨(readTouchCommand_spec hinit bytes).2.1, hcached, rfl⟩
  | takeNextionResetFlag => exact ⟨hinit, rfl, rfl⟩
  | nextionReset => exact h.elim

/-- A quiet stretch leaves the cache and its data alone. -/
theorem exec_quiet {s : PageSystem} (hinit : s.object.isInitialized = true) {as : List PageAction}
    (h : Before PageSystem.step s as fun s a => a.Quiet s) :
    (exec PageSystem.step s as).object.isInitialized = true ∧
      (exec PageSystem.step s as).object.hasCachedScreen = s.object.hasCachedScreen ∧
      (exec PageSystem.step s as).object.lastScreenData = s.object.lastScreenData := by
  induction as generalizing s with
  | nil => exact ⟨hinit, rfl, rfl⟩
  | cons a as ih =>
      rw [before_cons] at h
      obtain ⟨hinit', hcached, hlast⟩ := step_quiet hinit h.1
      obtain ⟨ih₁, ih₂, ih₃⟩ := ih hinit' h.2
      exact ⟨ih₁, ih₂.trans hcached, ih₃.trans hlast⟩

/-- An update with the data the cache holds writes nothing. -/
theorem updateScreen_same {o : DisplayObject} (hinit : o.isInitialized = true)
    (hcached : o.hasCachedScreen = true) : (o.updateScreen o.lastScreenData).2 = [] := by
  rw [updateScreen_spec hinit, hcached, Bool.not_true, due_self]
  rfl

/-! ## The page over a whole run -/

/-- **The page never drifts from the data.** In every run in which each restart of the display has
been classified before the next update, every component shows after an update exactly the value that
is formatted from its data; and an update with the data of the last one, with no restart in between,
writes nothing. -/
theorem main_page_never_drifts (page : Page) (as : List PageAction)
    (h : ResetsClassified (.begun page) as) :
    (∀ pre data post, as = pre ++ .updateScreen data :: post → ∀ c,
      (exec PageSystem.step (.begun page) (pre ++ [.updateScreen data])).page c =
        some (data.formatted c)) ∧
    ∀ pre data mid post, as = pre ++ .updateScreen data :: (mid ++ .updateScreen data :: post) →
      (Before PageSystem.step (exec PageSystem.step (.begun page) (pre ++ [.updateScreen data])) mid
        fun s a => a.Quiet s) →
      ((exec PageSystem.step (.begun page) (pre ++ .updateScreen data :: mid)).object.updateScreen
        data).2 = [] := by
  have hcoherent := h.coherent (begun_coherent page)
  constructor
  · intro pre data post heq c
    obtain ⟨hs, hread⟩ := hcoherent pre _ post heq
    rw [exec_append]
    exact updateScreen_shown hs (hread data rfl) data c
  · intro pre data mid post heq hquiet
    obtain ⟨hs, -⟩ := hcoherent pre _ _ heq
    rw [exec_append, exec_cons, exec_nil] at hquiet
    rw [exec_append, exec_cons]
    set s := exec PageSystem.step (.begun page) pre
    -- nothing quiet in between touches the cache, so the second call compares equal data
    have hobject := updateScreen_object hs.initialized data
    obtain ⟨hinit, hcached, hlast⟩ :=
      exec_quiet (by rw [hobject]; exact hs.initialized) hquiet
    rw [hobject] at hcached hlast
    have hnothing := updateScreen_same hinit hcached
    rw [hlast] at hnothing
    exact hnothing

/-- A restart of the display between two updates with the same data: the second one repaints the
page, the third one has nothing to write. -/
theorem main_page_after_restart :
    (exec PageSystem.step (.begun fun _ => none)
        [.updateScreen .zero, .nextionReset, .readTouchCommand [0x88], .updateScreen .zero]).page
          .packi = some (HmiDisplayData.zero.formatted .packi) ∧
      ((exec PageSystem.step (.begun fun _ => none)
        [.updateScreen .zero, .nextionReset, .readTouchCommand [0x88], .updateScreen .zero,
          .takeNextionResetFlag]).object.updateScreen .zero).2 = [] := by
  have hreads : ResetsClassified (.begun fun _ => none)
      [.updateScreen .zero, .nextionReset, .readTouchCommand [0x88], .updateScreen .zero,
        .takeNextionResetFlag, .updateScreen .zero] := by
    refine before_cons.mpr ⟨fun _ _ => rfl, before_cons.mpr ⟨nofun, before_cons.mpr ⟨nofun, ?_⟩⟩⟩
    refine before_cons.mpr ⟨fun _ _ => rfl, before_cons.mpr ⟨nofun, before_cons.mpr ⟨?_, ?_⟩⟩⟩
    · exact fun _ _ => rfl
    · exact before_nil
  obtain ⟨hshown, hsame⟩ := main_page_never_drifts (fun _ => none) _ hreads
  refine ⟨?_, ?_⟩
  · exact hshown [.updateScreen .zero, .nextionReset, .readTouchCommand [0x88]] .zero _ rfl .packi
  · refine hsame [.updateScreen .zero, .nextionReset, .readTouchCommand [0x88]] .zero
      [.takeNextionResetFlag] [] rfl ?_
    exact before_cons.mpr ⟨trivial, before_nil⟩

end TfnAks.Hmi
