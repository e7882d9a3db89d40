/-
# TfnAks.Can.FreshnessFlags — the freshness flags are exact for ever

Motor, BMS and charger frames are three streams with one life. `Stream` says what distinguishes
them: which frames are accepted, what is read from them, the timeout, what the object keeps
(`StreamView`), and which tick of a call the update sees. `Stream.Lawful` is what the code does to
such a view, one frame and one call at a time; the three instances follow it.

The rest is proved once for a lawful stream. `Stream.Lawful.tracks_exec` carries `StreamTracks`
along a run at real times, `Stream.Lawful.view_of_stale` says that nothing but an accepted frame
moves a stale view. The charger has no telemetry flags; its view makes up the one it would have.
-/
import TfnAks.Can.CanTask

namespace TfnAks.Can

open TfnAks.Lib.Runs TfnAks.Lib.LatchedTimeout

/-! ## The charger -/

/-- `getChargerCommand`: the last command and whether it is fresh. -/
def CanManager.getChargerCommand (m : CanManager) : ChargerCommand × Bool :=
  (m.chargerCommand, m.chargerValid)

/-- An accepted charger frame: extended, identifier `0x1806E5F4`, at least four bytes. -/
def TwaiMessage.isCharger (msg : TwaiMessage) : Bool :=
  msg.extd && msg.identifier == canIdLbChargerCmd && 4 ≤ msg.dataLengthCode

/-- The charger stream; its timeout flag is what the telemetry does not have. -/
def CanManager.chargerView (m : CanManager) : StreamView ChargerCommand where
  stamp := ⟨m.hasSeenCharger, m.chargerValid, m.lastChargerTick⟩
  payload := m.chargerCommand
  dataValid := m.chargerValid
  timeoutActive := m.hasSeenCharger && !m.chargerValid

theorem handleCharger_chargerView (msg : TwaiMessage) (now : TickType) (m : CanManager) :
    (m.handleCharger1806E5F4 msg now).chargerView =
      if 4 ≤ msg.dataLengthCode then .receive msg.chargerCommand now else m.chargerView := by
  unfold CanManager.handleCharger1806E5F4 parseCharger1806E5F4
  by_cases h : msg.dataLengthCode < 4
  · rw [if_pos h, if_neg (UInt8.not_le.mpr h)]
  · rw [if_neg h, if_pos (UInt8.not_lt.mp h)]
    rfl

/-- **One frame**, for the charger. -/
theorem handleFrame_chargerView (msg : TwaiMessage) (now : TickType) (m : CanManager) :
    (m.handleFrame msg now).1.chargerView =
      if msg.isCharger then .receive msg.chargerCommand now else m.chargerView := by
  unfold CanManager.handleFrame TwaiMessage.isCharger
  -- along the dispatch: every other handler keeps the charger's fields
  cases hext : msg.extd with
  | false =>
      simp only [Bool.false_eq_true, if_false, Bool.false_and]
      split
      · rw [handleMotorStatus_eq]
        rfl
      · split <;> rfl
  | true =>
      rw [if_pos rfl, Bool.true_and]
      by_cases hbms : msg.identifier = canIdLbBmsE000
      · have hother : (msg.identifier == canIdLbChargerCmd) = false := by
          rw [hbms]
          decide
        rw [if_pos hbms, hother]
        rw [handleLbBmsE000_eq]
        rfl
      · rw [if_neg hbms]
        by_cases hcharger : msg.identifier = canIdLbChargerCmd
        · rw [if_pos hcharger, handleCharger_chargerView, hcharger]
          simp
        · have hother : (msg.identifier == canIdLbChargerCmd) = false := by simpa using hcharger
          rw [if_neg hcharger, hother]
          split
          · rw [handleLbBmsE001_eq]
            rfl
          · split <;> rfl

theorem updateMotorStatusValidity_chargerView (now : TickType) (m : CanManager) :
    (m.updateMotorStatusValidity now).chargerView = m.chargerView := by
  rw [updateMotorStatusValidity_eq]
  rfl

theorem updateBmsValidity_chargerView (now : TickType) (m : CanManager) :
    (m.updateBmsValidity now).chargerView = m.chargerView := by
  rw [updateBmsValidity_eq]
  rfl

theorem updateChargerValidity_chargerView (now : TickType) (m : CanManager) :
    (m.updateChargerValidity now).chargerView =
      m.chargerView.update now (pdMsToTicks canChargerTimeoutMs) := by
  unfold CanManager.updateChargerValidity StreamView.update isBmsStatusTimedOut Stamp.check
    Stamp.timedOut CanManager.chargerView
  cases hs : m.hasSeenCharger with
  | false => simp [hs]
  | true =>
      cases hv : m.chargerValid with
      | false => simp [hs, hv]
      | true =>
          by_cases hold : pdMsToTicks canChargerTimeoutMs ≤ now - m.lastChargerTick <;>
            simp [hs, hv, hold]

/-! ## Calls at real times -/

/-- A call of `processRxMessages` with the real tick of each of its reads of the counter. -/
structure TimedCall where
  frames : List RxFrame
  frames_le : frames.length ≤ rxMessagesPerCall
  motorUpdate : Nat
  bmsUpdate : Nat
  chargerUpdate : Nat

/-- What the code sees of the ticks. The uptime is not read before the snapshot. -/
def TimedCall.call (c : TimedCall) : CanCall where
  frames := c.frames
  frames_le := c.frames_le
  motorTick := UInt32.ofNat c.motorUpdate
  bmsTick := UInt32.ofNat c.bmsUpdate
  chargerTick := UInt32.ofNat c.chargerUpdate
  timestampMs := 0

/-- The real ticks of a call, in the order in which they are read. -/
def TimedCall.ticks (c : TimedCall) : List Nat :=
  c.frames.map RxFrame.tick ++ [c.motorUpdate, c.bmsUpdate, c.chargerUpdate]

/-- Each update of a stream comes less than `2^32` ticks, minus its timeout, after the one before.
-/
def ChecksInTime (timeoutMs : Nat) (updates : List Nat) : Prop :=
  updates.IsChain fun a b => b - a < 2 ^ 32 - msInTicks timeoutMs

instance (timeoutMs : Nat) (updates : List Nat) : Decidable (ChecksInTime timeoutMs updates) :=
  inferInstanceAs (Decidable (updates.IsChain _))

/-- A run that starts, with the entry of its first call, at the real tick `start`. -/
structure InTime (start : Nat) (calls : List TimedCall) : Prop where
  ordered : (start :: calls.flatMap TimedCall.ticks).Pairwise (· ≤ ·)
  motor : ChecksInTime canMotorStatusTimeoutMs (start :: calls.map TimedCall.motorUpdate)
  bms : ChecksInTime canBmsStatusTimeoutMs (start :: calls.map TimedCall.bmsUpdate)
  charger : ChecksInTime canChargerTimeoutMs (start :: calls.map TimedCall.chargerUpdate)

/-! ## A stream -/

/-- A stream of the manager: its frames, its timeout, where its state is and when it is checked. -/
structure Stream (α : Type) where
  accepts : TwaiMessage → Bool
  read : TwaiMessage → α
  timeoutMs : Nat
  view : CanManager → StreamView α
  tick : CanCall → TickType
  update : TimedCall → Nat

/-- The motor frames. -/
def motorStream : Stream UInt8 where
  accepts := TwaiMessage.isMotorStatus
  read := TwaiMessage.motorErrorFlags
  timeoutMs := canMotorStatusTimeoutMs
  view := CanManager.motorView
  tick := CanCall.motorTick
  update := TimedCall.motorUpdate

/-- The frames `0xE000`. -/
def bmsStream : Stream UInt16 where
  accepts := TwaiMessage.isLbBmsE000
  read := TwaiMessage.packVoltageDeciV
  timeoutMs := canBmsStatusTimeoutMs
  view := CanManager.bmsView
  tick := CanCall.bmsTick
  update := TimedCall.bmsUpdate

/-- The frames of the charger. -/
def chargerStream : Stream ChargerCommand where
  accepts := TwaiMessage.isCharger
  read := TwaiMessage.chargerCommand
  timeoutMs := canChargerTimeoutMs
  view := CanManager.chargerView
  tick := CanCall.chargerTick
  update := TimedCall.chargerUpdate

/-- What the code does to the view of a stream. -/
structure Stream.Lawful {α : Type} (S : Stream α) : Prop where
  frame : ∀ msg now m, S.view (CanManager.handleFrame msg now m).1 =
    if S.accepts msg then .receive (S.read msg) now else S.view m
  call : ∀ (m : CanManager) (c : CanCall), (m.handleFrames c.frames).bmsView.Mirrors →
    S.view (m.processRxMessages c) =
      (S.view (m.handleFrames c.frames)).update (S.tick c) (pdMsToTicks S.timeoutMs)
  tick : ∀ c : TimedCall, S.tick c.call = UInt32.ofNat (S.update c)
  update_mem : ∀ c : TimedCall, S.update c ∈ [c.motorUpdate, c.bmsUpdate, c.chargerUpdate]
  timeout_pos : 0 < msInTicks S.timeoutMs
  timeout_lt : msInTicks S.timeoutMs < 2 ^ 32

theorem motorStream_lawful : motorStream.Lawful where
  frame := fun msg now m => (handleFrame_views msg now m).1
  call := by
    intro m c h
    have hmirrors := (updateMotorStatusValidity_views c.motorTick (m.handleFrames c.frames)).2
    rw [← hmirrors] at h
    show CanManager.motorView _ = _
    rw [CanManager.processRxMessages, (updateChargerValidity_views _ _).1,
      (updateBmsValidity_views h _).1]
    exact (updateMotorStatusValidity_views _ _).1
  tick := fun _ => rfl
  update_mem := fun _ => by simp [motorStream]
  timeout_pos := by decide
  timeout_lt := by decide

theorem bmsStream_lawful : bmsStream.Lawful where
  frame := fun msg now m => (handleFrame_views msg now m).2
  call := by
    intro m c h
    have hsame := (updateMotorStatusValidity_views c.motorTick (m.handleFrames c.frames)).2
    have hmirrors := h
    rw [← hsame] at hmirrors
    show CanManager.bmsView _ = (CanManager.bmsView _).update _ _
    rw [CanManager.processRxMessages, (updateChargerValidity_views _ _).2,
      (updateBmsValidity_views hmirrors _).2, hsame]
    rfl
  tick := fun _ => rfl
  update_mem := fun _ => by simp [bmsStream]
  timeout_pos := by decide
  timeout_lt := by decide

theorem chargerStream_lawful : chargerStream.Lawful where
  frame := handleFrame_chargerView
  call := by
    intro m c _
    show CanManager.chargerView _ = (CanManager.chargerView _).update _ _
    rw [CanManager.processRxMessages, updateChargerValidity_chargerView,
      updateBmsValidity_chargerView, updateMotorStatusValidity_chargerView]
    rfl
  tick := fun _ => rfl
  update_mem := fun _ => by simp [chargerStream]
  timeout_pos := by decide
  timeout_lt := by decide

/-! ## One call -/

theorem StreamView.Mirrors.update {α : Type} {v : StreamView α} (h : v.Mirrors)
    (now timeout : TickType) : (v.update now timeout).Mirrors := by
  unfold StreamView.update
  by_cases hout : v.stamp.timedOut now timeout = true
  · have hseen : v.stamp.seen = true := by
      simp only [Stamp.timedOut, Bool.and_eq_true] at hout
      exact hout.1.1
    rw [if_pos hout]
    simp [StreamView.Mirrors, Stamp.check, hout, hseen]
  · rw [if_neg hout]
    exact h

/-- A stale view stays as it is. -/
theorem StreamView.update_of_stale {α : Type} {v : StreamView α} (h : v.stamp.valid = false)
    (now timeout : TickType) : v.update now timeout = v := by
  have hout : v.stamp.timedOut now timeout = false := by simp [Stamp.timedOut, h]
  rw [StreamView.update, hout]
  rfl

section Lawful

variable {α : Type} {S : Stream α}

theorem Stream.Lawful.mirrors_handleFrames (hS : S.Lawful) {m : CanManager}
    (h : (S.view m).Mirrors) (frames : List RxFrame) : (S.view (m.handleFrames frames)).Mirrors := by
  induction frames generalizing m with
  | nil => exact h
  | cons f frames ih =>
      refine ih ?_
      rw [hS.frame]
      split
      · exact ⟨rfl, rfl⟩
      · exact h

theorem Stream.Lawful.mirrors_call (hS : S.Lawful) {m : CanManager} (hbms : m.bmsView.Mirrors)
    (h : (S.view m).Mirrors) (c : CanCall) : (S.view (m.processRxMessages c)).Mirrors := by
  rw [hS.call m c (bmsStream_lawful.mirrors_handleFrames hbms c.frames)]
  exact (hS.mirrors_handleFrames h c.frames).update _ _

/-- Frames the stream does not accept leave its view alone. -/
theorem Stream.Lawful.view_handleFrames (hS : S.Lawful) (m : CanManager) {frames : List RxFrame}
    (h : ∀ f ∈ frames, S.accepts f.msg = false) : S.view (m.handleFrames frames) = S.view m := by
  induction frames generalizing m with
  | nil => rfl
  | cons f frames ih =>
      rw [List.forall_mem_cons] at h
      have hone : S.view (m.handleFrame f.msg (UInt32.ofNat f.tick)).1 = S.view m := by
        rw [hS.frame, h.1]
        rfl
      exact (ih _ h.2).trans hone

/-- **A stale stream stays stale** in every call without an accepted frame, at any ticks. -/
theorem Stream.Lawful.view_of_stale (hS : S.Lawful) {m : CanManager} (hbms : m.bmsView.Mirrors)
    (hstale : (S.view m).stamp.valid = false) {calls : List CanCall}
    (h : ∀ c ∈ calls, ∀ f ∈ c.frames, S.accepts f.msg = false) :
    S.view (exec CanManager.processRxMessages m calls) = S.view m := by
  induction calls generalizing m with
  | nil => rfl
  | cons c calls ih =>
      rw [List.forall_mem_cons] at h
      have hframes := hS.view_handleFrames m h.1
      have hcall : S.view (m.processRxMessages c) = S.view m := by
        rw [hS.call m c (bmsStream_lawful.mirrors_handleFrames hbms c.frames), hframes]
        exact StreamView.update_of_stale hstale _ _
      have hbms' : (m.processRxMessages c).bmsView.Mirrors :=
        bmsStream_lawful.mirrors_call hbms hbms c
      have hrest := ih hbms' (by rw [hcall]; exact hstale) h.2
      exact hrest.trans hcall

/-! ## A run at real times -/

/-- The view of a stream tracks the frames `seen` up to its update at `ref`. -/
def Stream.TracksAt (S : Stream α) (m : CanManager) (seen : List RxFrame) (ref : Nat) : Prop :=
  StreamTracks S.accepts S.read (msInTicks S.timeoutMs) (S.view m) seen ref

theorem Stream.Lawful.tracks_handleFrames (hS : S.Lawful) {m : CanManager} {seen : List RxFrame}
    {ref : Nat} (h : S.TracksAt m seen ref) {frames : List RxFrame}
    (hticks : ∀ f ∈ frames, ref ≤ f.tick) :
    S.TracksAt (m.handleFrames frames) (seen ++ frames) ref := by
  induction frames generalizing m seen with
  | nil =>
      rw [List.append_nil]
      exact h
  | cons f frames ih =>
      rw [List.forall_mem_cons] at hticks
      have hone : S.TracksAt (m.handleFrame f.msg (UInt32.ofNat f.tick)).1 (seen ++ [f]) ref := by
        unfold Stream.TracksAt
        rw [hS.frame]
        exact h.receive hS.timeout_pos hticks.1 f.msg
      have hrest := ih hone hticks.2
      rwa [List.append_assoc] at hrest

/-- One call: its frames, then the update of the stream. -/
theorem Stream.Lawful.tracks_call (hS : S.Lawful) {m : CanManager} (hbms : m.bmsView.Mirrors)
    {seen : List RxFrame} {ref now : Nat} (h : S.TracksAt m seen ref) (href : ref ≤ now)
    (hseen : ∀ f ∈ seen, f.tick ≤ now) {c : TimedCall}
    (hordered : (now :: c.ticks).Pairwise (· ≤ ·))
    (hgap : S.update c - ref < 2 ^ 32 - msInTicks S.timeoutMs) :
    S.TracksAt (m.processRxMessages c.call) (seen ++ c.frames) (S.update c) ∧
      (∀ f ∈ seen ++ c.frames, f.tick ≤ S.update c) := by
  obtain ⟨hnow, hsorted⟩ := List.pairwise_cons.mp hordered
  obtain ⟨_, _, hbefore⟩ := List.pairwise_append.mp hsorted
  have hframe : ∀ f ∈ c.frames, f.tick ∈ c.frames.map RxFrame.tick := fun f hf =>
    List.mem_map_of_mem hf
  have hframesGe : ∀ f ∈ c.frames, ref ≤ f.tick := by
    intro f hf
    have hge := hnow f.tick (List.mem_append_left _ (hframe f hf))
    omega
  have hupdate : now ≤ S.update c := hnow _ (List.mem_append_right _ (hS.update_mem c))
  have hall : ∀ f ∈ seen ++ c.frames, f.tick ≤ S.update c := by
    intro f hf
    rcases List.mem_append.mp hf with hf | hf
    · have hle := hseen f hf
      omega
    · exact hbefore _ (hframe f hf) _ (hS.update_mem c)
  refine ⟨?_, hall⟩
  -- the frames first, then this stream's update; the other two updates leave its view
  have hframes := hS.tracks_handleFrames h hframesGe
  unfold Stream.TracksAt at hframes ⊢
  rw [hS.call m c.call (bmsStream_lawful.mirrors_handleFrames hbms c.frames), hS.tick]
  exact hframes.update hS.timeout_lt (by omega) hall hgap

/-- The time of the last update in a run, `ref` before the first. -/
def Stream.lastUpdate (S : Stream α) (ref : Nat) (calls : List TimedCall) : Nat :=
  calls.foldl (fun _ c => S.update c) ref

theorem Stream.Lawful.tracks_exec (hS : S.Lawful) {m : CanManager} (hbms : m.bmsView.Mirrors)
    {seen : List RxFrame} {ref now : Nat} (h : S.TracksAt m seen ref) (href : ref ≤ now)
    (hseen : ∀ f ∈ seen, f.tick ≤ now) {calls : List TimedCall}
    (hordered : (now :: calls.flatMap TimedCall.ticks).Pairwise (· ≤ ·))
    (hgaps : ChecksInTime S.timeoutMs (ref :: calls.map S.update)) :
    S.TracksAt (exec CanManager.processRxMessages m (calls.map TimedCall.call))
      (seen ++ calls.flatMap TimedCall.frames) (S.lastUpdate ref calls) := by
  induction calls generalizing m seen ref now with
  | nil =>
      rw [List.flatMap_nil, List.append_nil]
      exact h
  | cons c calls ih =>
      rw [List.flatMap_cons] at hordered
      obtain ⟨hnow, hsorted⟩ := List.pairwise_cons.mp hordered
      obtain ⟨hcall, hrest, hcross⟩ := List.pairwise_append.mp hsorted
      obtain ⟨hgap, hgaps'⟩ := List.isChain_cons_cons.mp hgaps
      have hfirst : (now :: c.ticks).Pairwise (· ≤ ·) :=
        List.pairwise_cons.mpr ⟨fun t ht => hnow t (List.mem_append_left _ ht), hcall⟩
      obtain ⟨htracks, hle⟩ := hS.tracks_call hbms h href hseen hfirst hgap
      -- the next call starts from the time of this stream's update
      have hmem : S.update c ∈ c.ticks := List.mem_append_right _ (hS.update_mem c)
      have hrest' : (S.update c :: calls.flatMap TimedCall.ticks).Pairwise (· ≤ ·) :=
        List.pairwise_cons.mpr ⟨fun t ht => hcross _ hmem t ht, hrest⟩
      have hbms' := bmsStream_lawful.mirrors_call hbms hbms c.call
      have hrun := ih hbms' htracks (Nat.le_refl _) hle hrest' hgaps'
      rw [List.append_assoc] at hrun
      exact hrun

/-! ## Exact flags -/

/-- The flags say exactly how old the last accepted frame is at the real tick `now`. -/
structure FlagsExact (accepts : TwaiMessage → Bool) (timeoutMs : Nat) (frames : List RxFrame)
    (now : Nat) (valid timedOut : Bool) : Prop where
  valid_iff : valid = true ↔
    ∃ f, lastFrame accepts frames = some f ∧ now - f.tick < msInTicks timeoutMs
  timedOut_iff : timedOut = true ↔
    ∃ f, lastFrame accepts frames = some f ∧ msInTicks timeoutMs ≤ now - f.tick

theorem Stream.TracksAt.exact {m : CanManager} {seen : List RxFrame} {ref : Nat}
    (hpos : 0 < msInTicks S.timeoutMs) (h : S.TracksAt m seen ref) :
    FlagsExact S.accepts S.timeoutMs seen ref (S.view m).dataValid (S.view m).timeoutActive := by
  obtain ⟨hdata, hactive⟩ := h.mirrors
  have hseen := h.tracks.seen
  cases hlast : lastFrame S.accepts seen with
  | none =>
      rw [hlast] at hseen
      rw [hdata, hactive, hseen]
      exact ⟨by simp [hlast], by simp [hlast]⟩
  | some f =>
      rw [hlast] at hseen
      have hvalid := h.tracks.valid f.tick (by rw [hlast]; rfl)
      rw [hdata, hactive, hseen]
      simp only [Option.map_some, Option.isSome_some, Bool.true_and]
      refine ⟨?_, ?_⟩
      · rw [hvalid, hlast]
        simp only [Option.some.injEq, exists_eq_left']
        omega
      · rw [Bool.not_eq_true', ← Bool.not_eq_true, hvalid, hlast]
        simp only [Option.some.injEq, exists_eq_left']
        omega

theorem begun_tracksAt (hview : (S.view .begun).stamp.seen = false)
    (hmirrors : (S.view .begun).Mirrors) (ref : Nat) : S.TracksAt .begun [] ref := by
  refine ⟨?_, ?_, hmirrors⟩
  · have hstart := Tracks.start (msInTicks S.timeoutMs) ref (S.view .begun).stamp.valid
      (S.view .begun).stamp.last
    rw [← hview] at hstart
    exact hstart
  · intro f hf
    cases hf

/-- The flags of a stream after a run that ends with the call `c`. -/
theorem Stream.Lawful.exact_exec (hS : S.Lawful) (hview : (S.view .begun).stamp.seen = false)
    (hmirrors : (S.view .begun).Mirrors) {start : Nat} {calls : List TimedCall} {c : TimedCall}
    (hordered : (start :: (calls ++ [c]).flatMap TimedCall.ticks).Pairwise (· ≤ ·))
    (hgaps : ChecksInTime S.timeoutMs (start :: (calls ++ [c]).map S.update)) :
    FlagsExact S.accepts S.timeoutMs ((calls ++ [c]).flatMap TimedCall.frames) (S.update c)
      (S.view (exec CanManager.processRxMessages .begun
        ((calls ++ [c]).map TimedCall.call))).dataValid
      (S.view (exec CanManager.processRxMessages .begun
        ((calls ++ [c]).map TimedCall.call))).timeoutActive := by
  have hbms : CanManager.begun.bmsView.Mirrors := ⟨rfl, rfl⟩
  have hrun := hS.tracks_exec hbms (begun_tracksAt hview hmirrors start) (Nat.le_refl start)
    (by simp) hordered hgaps
  have hlast : S.lastUpdate start (calls ++ [c]) = S.update c := by
    simp [Stream.lastUpdate, List.foldl_append]
  rw [hlast, List.nil_append] at hrun
  exact hrun.exact hS.timeout_pos

end Lawful

theorem exec_bmsView_mirrors (calls : List CanCall) :
    (exec CanManager.processRxMessages .begun calls).bmsView.Mirrors := by
  refine exec_invariant (I := fun m : CanManager => m.bmsView.Mirrors) ?_ ⟨rfl, rfl⟩ calls
  intro m c h
  exact bmsStream_lawful.mirrors_call h h c

theorem exec_motorView_mirrors (calls : List CanCall) :
    (exec CanManager.processRxMessages .begun calls).motorView.Mirrors := by
  have hboth : (exec CanManager.processRxMessages .begun calls).bmsView.Mirrors ∧
      (exec CanManager.processRxMessages .begun calls).motorView.Mirrors := by
    refine exec_invariant (I := fun m : CanManager => m.bmsView.Mirrors ∧ m.motorView.Mirrors)
      ?_ ⟨⟨rfl, rfl⟩, rfl, rfl⟩ calls
    intro m c h
    exact ⟨bmsStream_lawful.mirrors_call h.1 h.1 c, motorStream_lawful.mirrors_call h.1 h.2 c⟩
  exact hboth.2

/-- A timed-out view is stale. -/
theorem StreamView.Mirrors.stale {α : Type} {v : StreamView α} (h : v.Mirrors)
    (hactive : v.timeoutActive = true) : v.stamp.valid = false ∧ v.dataValid = false := by
  have hm := h.2
  rw [hactive] at hm
  have hboth : v.stamp.seen = true ∧ v.stamp.valid = false := by simpa using hm.symm
  refine ⟨hboth.2, ?_⟩
  rw [h.1, hboth.2, Bool.and_false]

/-! ## The three streams -/

/-- After the call `c`, `frames` being those handled so far, the flags of all three streams are
exact. The charger has the freshness that `getChargerCommand` returns and no timeout flag. -/
structure CanManager.AllExact (m : CanManager) (frames : List RxFrame) (c : TimedCall) : Prop where
  motor : FlagsExact TwaiMessage.isMotorStatus canMotorStatusTimeoutMs frames c.motorUpdate
    m.getTelemetryData.telMotorDataValid m.getTelemetryData.telMotorTimeoutActive
  bms : FlagsExact TwaiMessage.isLbBmsE000 canBmsStatusTimeoutMs frames c.bmsUpdate
    m.getTelemetryData.telBmsDataValid m.getTelemetryData.telBmsTimeoutActive
  charger : m.getChargerCommand.2 = true ↔
    ∃ f, lastFrame TwaiMessage.isCharger frames = some f ∧
      c.chargerUpdate - f.tick < msInTicks canChargerTimeoutMs

theorem allExact_of_inTime {start : Nat} {calls : List TimedCall} {c : TimedCall}
    (h : InTime start (calls ++ [c])) :
    (exec CanManager.processRxMessages .begun ((calls ++ [c]).map TimedCall.call)).AllExact
      ((calls ++ [c]).flatMap TimedCall.frames) c where
  motor := motorStream_lawful.exact_exec rfl ⟨rfl, rfl⟩ h.ordered h.motor
  bms := bmsStream_lawful.exact_exec rfl ⟨rfl, rfl⟩ h.ordered h.bms
  charger := (chargerStream_lawful.exact_exec rfl ⟨rfl, rfl⟩ h.ordered h.charger).valid_iff

/-- A frame moves the flags of a stream only when the stream accepts it. -/
structure CanManager.FrameFrame (m : CanManager) (msg : TwaiMessage) (now : TickType) : Prop where
  motor : msg.isMotorStatus = false →
    (m.handleFrame msg now).1.getTelemetryData.telMotorDataValid =
        m.getTelemetryData.telMotorDataValid ∧
      (m.handleFrame msg now).1.getTelemetryData.telMotorTimeoutActive =
        m.getTelemetryData.telMotorTimeoutActive
  bms : msg.isLbBmsE000 = false →
    (m.handleFrame msg now).1.getTelemetryData.telBmsDataValid =
        m.getTelemetryData.telBmsDataValid ∧
      (m.handleFrame msg now).1.getTelemetryData.telBmsTimeoutActive =
        m.getTelemetryData.telBmsTimeoutActive
  charger : msg.isCharger = false →
    (m.handleFrame msg now).1.getChargerCommand.2 = m.getChargerCommand.2

theorem handleFrame_frame (m : CanManager) (msg : TwaiMessage) (now : TickType) :
    m.FrameFrame msg now where
  motor := by
    intro h
    have hview := (handleFrame_views msg now m).1
    rw [h] at hview
    exact ⟨congrArg StreamView.dataValid hview, congrArg StreamView.timeoutActive hview⟩
  bms := by
    intro h
    have hview := (handleFrame_views msg now m).2
    rw [h] at hview
    exact ⟨congrArg StreamView.dataValid hview, congrArg StreamView.timeoutActive hview⟩
  charger := by
    intro h
    have hview := handleFrame_chargerView msg now m
    rw [h] at hview
    exact congrArg StreamView.dataValid hview

/-- No frame of `calls` is accepted by `accepts`. -/
def NoneAccepted (accepts : TwaiMessage → Bool) (calls : List CanCall) : Prop :=
  ∀ c ∈ calls, ∀ f ∈ c.frames, accepts f.msg = false

/-- What has timed out in `m` is still timed out in `m'`, unless `later` brings an accepted frame.
-/
structure StaysTimedOut (m m' : CanManager) (later : List CanCall) : Prop where
  motor : m.getTelemetryData.telMotorTimeoutActive = true →
    NoneAccepted TwaiMessage.isMotorStatus later →
      m'.getTelemetryData.telMotorTimeoutActive = true ∧
        m'.getTelemetryData.telMotorDataValid = false
  bms : m.getTelemetryData.telBmsTimeoutActive = true →
    NoneAccepted TwaiMessage.isLbBmsE000 later →
      m'.getTelemetryData.telBmsTimeoutActive = true ∧ m'.getTelemetryData.telBmsDataValid = false
  charger : m.getChargerCommand.2 = false → NoneAccepted TwaiMessage.isCharger later →
    m'.getChargerCommand.2 = false

theorem exec_staysTimedOut (calls later : List CanCall) :
    StaysTimedOut (exec CanManager.processRxMessages .begun calls)
      (exec CanManager.processRxMessages .begun (calls ++ later)) later := by
  have hbms := exec_bmsView_mirrors calls
  have hmotor := exec_motorView_mirrors calls
  rw [exec_append]
  refine ⟨?_, ?_, ?_⟩
  · intro hactive hnone
    have hstale := hmotor.stale hactive
    have hview := motorStream_lawful.view_of_stale hbms hstale.1 hnone
    exact ⟨(congrArg StreamView.timeoutActive hview).trans hactive,
      (congrArg StreamView.dataValid hview).trans hstale.2⟩
  · intro hactive hnone
    have hstale := hbms.stale hactive
    have hview := bmsStream_lawful.view_of_stale hbms hstale.1 hnone
    exact ⟨(congrArg StreamView.timeoutActive hview).trans hactive,
      (congrArg StreamView.dataValid hview).trans hstale.2⟩
  · intro hdown hnone
    have hview := chargerStream_lawful.view_of_stale hbms hdown hnone
    exact (congrArg StreamView.dataValid hview).trans hdown

/-- **The freshness flags are exact for ever.** After each call of a run at real times the flags say
exactly whether the last accepted frame is younger than the timeout; a frame the stream does not
accept never moves them; and, at any ticks whatever, only an accepted frame ends a timeout. -/
theorem freshness_flags_exact :
    (∀ start calls c, InTime start (calls ++ [c]) →
      (exec CanManager.processRxMessages .begun ((calls ++ [c]).map TimedCall.call)).AllExact
        ((calls ++ [c]).flatMap TimedCall.frames) c) ∧
      (∀ (m : CanManager) (msg : TwaiMessage) (now : TickType), m.FrameFrame msg now) ∧
      (∀ calls later : List CanCall,
        StaysTimedOut (exec CanManager.processRxMessages .begun calls)
          (exec CanManager.processRxMessages .begun (calls ++ later)) later) := by
  refine ⟨?_, handleFrame_frame, exec_staysTimedOut⟩
  intro start calls c h
  exact allExact_of_inTime h

/-- A motor frame at tick 0, and a call shortly before the tick counter wraps. -/
def longSilence : List TimedCall :=
  [ ⟨[⟨⟨false, canIdMotorStatus, 8, Vector.replicate 8 0⟩, 0⟩], by decide, 0, 0, 0⟩
  , ⟨[], by decide, 2 ^ 32 - 300, 2 ^ 32 - 300, 2 ^ 32 - 300⟩ ]

/-- The call after it, where the counter reads little more than at the frame. -/
def afterWrap : TimedCall := ⟨[], by decide, 2 ^ 32 + 20, 2 ^ 32 + 20, 2 ^ 32 + 20⟩

theorem longSilence_timedOut :
    InTime 0 (longSilence ++ [afterWrap]) ∧
      (exec CanManager.processRxMessages .begun
        ((longSilence ++ [afterWrap]).map TimedCall.call)).AllExact
          ((longSilence ++ [afterWrap]).flatMap TimedCall.frames) afterWrap ∧
      (exec CanManager.processRxMessages .begun
        ((longSilence ++ [afterWrap]).map
          TimedCall.call)).getTelemetryData.telMotorTimeoutActive = true := by
  have hinTime : InTime 0 (longSilence ++ [afterWrap]) :=
    ⟨by decide, by decide, by decide, by decide⟩
  have hexact := freshness_flags_exact.1 0 longSilence afterWrap hinTime
  have hlast : lastFrame TwaiMessage.isMotorStatus
      ((longSilence ++ [afterWrap]).flatMap TimedCall.frames) =
      some ⟨⟨false, canIdMotorStatus, 8, Vector.replicate 8 0⟩, 0⟩ := rfl
  exact ⟨hinTime, hexact, hexact.motor.timedOut_iff.mpr ⟨_, hlast, by decide⟩⟩

end TfnAks.Can
