/-
# TfnAks.Can.Streams — what the telemetry flags say about the frames

The motor frames (`0x200`) and the BMS frames (`0xE000`) are two streams with the same life: a frame
stores its payload and raises the stream's `valid` flag, the periodic update drops the flag and
raises the timeout once the last frame is old. `StreamView` is what the object keeps about one
stream; `motor_view` and `bms_view` read it off a `CanManager`, and the lemmas after them say how
every step of the CAN task moves the two views.

`StreamTracks` ties a view to the frames that were really received, at real times. It is kept by
every step (`StreamTracks.receive`, `StreamTracks.update`), as long as the updates come often
enough.
-/
import TfnAks.Can.CanManager

namespace TfnAks.Can

open TfnAks.Lib.LatchedTimeout

/-! ## The frames of the streams -/

/-- An accepted motor frame: standard, identifier `0x200`, at least four bytes. -/
def TwaiMessage.isMotorStatus (msg : TwaiMessage) : Bool :=
  !msg.extd && msg.identifier == canIdMotorStatus && 4 ≤ msg.dataLengthCode

/-- An accepted BMS frame: extended, identifier `0xE000`, eight bytes. -/
def TwaiMessage.isLbBmsE000 (msg : TwaiMessage) : Bool :=
  msg.extd && msg.identifier == canIdLbBmsE000 && 8 ≤ msg.dataLengthCode

theorem not_isMotorStatus {msg : TwaiMessage}
    (h : msg.extd = false → msg.identifier ≠ canIdMotorStatus) : ¬ msg.isMotorStatus = true := by
  simp only [TwaiMessage.isMotorStatus, Bool.and_eq_true, Bool.not_eq_true', beq_iff_eq]
  rintro ⟨⟨hext, hid⟩, _⟩
  exact h hext hid

theorem not_isLbBmsE000 {msg : TwaiMessage}
    (h : msg.extd = true → msg.identifier ≠ canIdLbBmsE000) : ¬ msg.isLbBmsE000 = true := by
  simp only [TwaiMessage.isLbBmsE000, Bool.and_eq_true, beq_iff_eq]
  rintro ⟨⟨hext, hid⟩, _⟩
  exact h hext hid

/-- The error flags a motor frame carries; one of four bytes carries none. -/
def TwaiMessage.motorErrorFlags (msg : TwaiMessage) : UInt8 :=
  if 5 ≤ msg.dataLengthCode then msg.data.get 4 else 0

/-- The speed a motor frame carries. -/
def TwaiMessage.motorRpm (msg : TwaiMessage) : UInt16 := word (msg.data.get 0) (msg.data.get 1)

/-- The pack voltage a BMS frame carries. -/
def TwaiMessage.packVoltageDeciV (msg : TwaiMessage) : UInt16 :=
  word (msg.data.get 2) (msg.data.get 3)

/-- The set points a charger frame carries. -/
def TwaiMessage.chargerCommand (msg : TwaiMessage) : ChargerCommand :=
  ⟨word (msg.data.get 0) (msg.data.get 1), word (msg.data.get 2) (msg.data.get 3)⟩

/-- The pack voltage of a frame in its place, and nothing else. -/
def TwaiMessage.packVoltageBytes (msg : TwaiMessage) : Vector UInt8 8 :=
  #v[0, 0, msg.data.get 2, msg.data.get 3, 0, 0, 0, 0]

/-- The error flags of a frame in their place, and nothing else. -/
def TwaiMessage.errorFlagsByte (msg : TwaiMessage) : Vector UInt8 8 :=
  #v[0, 0, 0, 0, msg.data.get 4, 0, 0, 0]

/-- What the object keeps about a stream: ticks and flags, the payload that decisions are made on,
and the two telemetry flags. -/
structure StreamView (α : Type) where
  stamp : Stamp
  payload : α
  dataValid : Bool
  timeoutActive : Bool

/-- A frame with payload `p` at tick `now`. -/
def StreamView.receive {α : Type} (p : α) (now : TickType) : StreamView α :=
  ⟨.accept now, p, true, false⟩

/-- The motor stream: its stamp, the error flags, and the two flags of the telemetry. -/
def CanManager.motorView (m : CanManager) : StreamView UInt8 where
  stamp := ⟨m.hasSeenMotorStatus, m.motorStatus.isValid, m.lastMotorStatusTick⟩
  payload := m.telemetryData.telMotorErrorFlags
  dataValid := m.telemetryData.telMotorDataValid
  timeoutActive := m.telemetryData.telMotorTimeoutActive

/-- The BMS stream: its stamp, the pack voltage, and the two flags of the telemetry. -/
def CanManager.bmsView (m : CanManager) : StreamView UInt16 where
  stamp := ⟨m.hasSeenBmsE000, m.bmsE000Valid, m.lastBmsE000Tick⟩
  payload := m.telemetryData.telBmsPackVoltageDeciV
  dataValid := m.telemetryData.telBmsDataValid
  timeoutActive := m.telemetryData.telBmsTimeoutActive

/-! ## Frames -/

theorem handleMotorStatus_views (msg : TwaiMessage) (now : TickType) (m : CanManager) :
    (m.handleMotorStatus msg now).1.motorView =
        (if 4 ≤ msg.dataLengthCode then .receive msg.motorErrorFlags now else m.motorView) ∧
      (m.handleMotorStatus msg now).1.bmsView = m.bmsView := by
  unfold CanManager.handleMotorStatus parseMotorStatus
  by_cases h : msg.dataLengthCode < 4
  · rw [if_pos h, if_neg (UInt8.not_le.mpr h)]
    exact ⟨rfl, rfl⟩
  · rw [if_neg h, if_pos (UInt8.not_lt.mp h)]
    exact ⟨rfl, rfl⟩

theorem handleLbBmsE000_views (msg : TwaiMessage) (now : TickType) (m : CanManager) :
    (m.handleLbBmsE000 msg now).1.motorView = m.motorView ∧
      (m.handleLbBmsE000 msg now).1.bmsView =
        (if 8 ≤ msg.dataLengthCode then .receive msg.packVoltageDeciV now else m.bmsView) := by
  unfold CanManager.handleLbBmsE000 parseLbBmsE000
  by_cases h : msg.dataLengthCode < 8
  · rw [if_pos h, if_neg (UInt8.not_le.mpr h)]
    exact ⟨rfl, rfl⟩
  · rw [if_neg h, if_pos (UInt8.not_lt.mp h)]
    exact ⟨rfl, rfl⟩

/-- **One frame.** An accepted frame of a stream becomes its view; every other frame leaves the view
alone. -/
theorem handleFrame_views (msg : TwaiMessage) (now : TickType) (m : CanManager) :
    (m.handleFrame msg now).1.motorView =
        (if msg.isMotorStatus then .receive msg.motorErrorFlags now else m.motorView) ∧
      (m.handleFrame msg now).1.bmsView =
        (if msg.isLbBmsE000 then .receive msg.packVoltageDeciV now else m.bmsView) := by
  rcases handleFrame_cases msg now m with ⟨hext, hid, heq⟩ | ⟨hext, hid, heq⟩ | ⟨hmotor, hbms, heq⟩
  · rw [heq, TwaiMessage.isMotorStatus, TwaiMessage.isLbBmsE000, hext, hid]
    simpa using handleMotorStatus_views msg now m
  · rw [heq, TwaiMessage.isMotorStatus, TwaiMessage.isLbBmsE000, hext, hid]
    simpa using handleLbBmsE000_views msg now m
  · rw [if_neg (not_isMotorStatus hmotor), if_neg (not_isLbBmsE000 hbms)]
    rcases heq with heq | heq | heq
    · rw [heq]
      exact ⟨rfl, rfl⟩
    · rw [heq, handleLbBmsE001_eq]
      exact ⟨rfl, rfl⟩
    · rw [heq, handleCharger1806E5F4_eq]
      exact ⟨rfl, rfl⟩

/-! ## Updates -/

/-- What an update makes of a view. -/
def StreamView.update {α : Type} (v : StreamView α) (now timeout : TickType) : StreamView α :=
  if v.stamp.timedOut now timeout then
    { v with stamp := v.stamp.check now timeout, dataValid := false, timeoutActive := true }
  else v

theorem updateMotorStatusValidity_views (now : TickType) (m : CanManager) :
    (m.updateMotorStatusValidity now).motorView =
        m.motorView.update now (pdMsToTicks canMotorStatusTimeoutMs) ∧
      (m.updateMotorStatusValidity now).bmsView = m.bmsView := by
  have hsame : isMotorStatusTimedOut m.hasSeenMotorStatus m.motorStatus.isValid now
      m.lastMotorStatusTick (pdMsToTicks canMotorStatusTimeoutMs) =
        m.motorView.stamp.timedOut now (pdMsToTicks canMotorStatusTimeoutMs) := by
    unfold isMotorStatusTimedOut Stamp.timedOut CanManager.motorView
    cases m.hasSeenMotorStatus <;> cases m.motorStatus.isValid <;> rfl
  unfold CanManager.updateMotorStatusValidity StreamView.update
  rw [hsame]
  by_cases h : m.motorView.stamp.timedOut now (pdMsToTicks canMotorStatusTimeoutMs) = true
  · rw [if_pos h, if_pos h, Stamp.check, if_pos h]
    exact ⟨rfl, rfl⟩
  · rw [if_neg h, if_neg h]
    exact ⟨rfl, rfl⟩

/-- The flags of a view mirror its `valid` flag, and are down before the first frame. -/
def StreamView.Mirrors {α : Type} (v : StreamView α) : Prop :=
  v.dataValid = (v.stamp.seen && v.stamp.valid) ∧ v.timeoutActive = (v.stamp.seen && !v.stamp.valid)

/-- `updateBmsValidity` writes the telemetry flags of a stale stream again each time; with flags
that mirror the stream this changes nothing. -/
theorem updateBmsValidity_views {m : CanManager} (h : m.bmsView.Mirrors) (now : TickType) :
    (m.updateBmsValidity now).motorView = m.motorView ∧
      (m.updateBmsValidity now).bmsView =
        m.bmsView.update now (pdMsToTicks canBmsStatusTimeoutMs) := by
  obtain ⟨hdata, hactive⟩ := h
  simp only [CanManager.bmsView] at hdata hactive
  unfold CanManager.updateBmsValidity CanManager.checkBmsE000 StreamView.update CanManager.bmsView
    isBmsStatusTimedOut Stamp.check Stamp.timedOut
  cases hs : m.hasSeenBmsE000 with
  | false =>
      rw [hs, Bool.false_and] at hdata
      cases hv : m.bmsE000Valid <;> simp [hs, hv, hdata, CanManager.motorView]
  | true =>
      rw [hs, Bool.true_and] at hdata hactive
      cases hv : m.bmsE000Valid with
      | false =>
          rw [hv] at hdata hactive
          simp [hs, hv, hdata, hactive, CanManager.motorView]
      | true =>
          by_cases hold : pdMsToTicks canBmsStatusTimeoutMs ≤ now - m.lastBmsE000Tick <;>
            simp [hs, hv, hold, CanManager.motorView]

theorem updateChargerValidity_views (now : TickType) (m : CanManager) :
    (m.updateChargerValidity now).motorView = m.motorView ∧
      (m.updateChargerValidity now).bmsView = m.bmsView := by
  rw [updateChargerValidity_eq]
  exact ⟨rfl, rfl⟩

/-! ## Views and real frames -/

/-- A received frame with the real tick it was handled at. -/
structure RxFrame where
  msg : TwaiMessage
  tick : Nat

/-- The last of some frames, oldest first, that satisfies `p`. -/
def lastFrame (p : TwaiMessage → Bool) (frames : List RxFrame) : Option RxFrame :=
  (frames.filter fun f => p f.msg).getLast?

theorem lastFrame_append (p : TwaiMessage → Bool) (frames : List RxFrame) (f : RxFrame) :
    lastFrame p (frames ++ [f]) = if p f.msg then some f else lastFrame p frames := by
  unfold lastFrame
  rw [List.filter_append]
  cases h : p f.msg <;> simp [h]

theorem tick_le_of_lastFrame {p : TwaiMessage → Bool} {frames : List RxFrame} {now : Nat}
    (h : ∀ f ∈ frames, f.tick ≤ now) {f : RxFrame} (hf : lastFrame p frames = some f) :
    f.tick ≤ now := by
  have hmem := List.mem_of_getLast? hf
  exact h f (List.mem_filter.mp hmem).1

/-- The view `v` of a stream whose accepted frames so far are those of `frames` that satisfy `p`,
carrying the payload `read`, when its last update was at the real tick `ref`. -/
structure StreamTracks {α : Type} (p : TwaiMessage → Bool) (read : TwaiMessage → α) (timeout : Nat)
    (v : StreamView α) (frames : List RxFrame) (ref : Nat) : Prop where
  tracks : Tracks timeout v.stamp ((lastFrame p frames).map RxFrame.tick) ref
  payload : ∀ f, lastFrame p frames = some f → v.payload = read f.msg
  mirrors : v.Mirrors

section StreamTracks

variable {α : Type} {p : TwaiMessage → Bool} {read : TwaiMessage → α} {timeout : Nat}
  {v : StreamView α} {frames : List RxFrame} {ref : Nat}

/-- A frame is handled: the step of the receive loop. -/
theorem StreamTracks.receive (h : StreamTracks p read timeout v frames ref) (hpos : 0 < timeout)
    {now : Nat} (hnow : ref ≤ now) (msg : TwaiMessage) :
    StreamTracks p read timeout
      (if p msg then .receive (read msg) (UInt32.ofNat now) else v)
      (frames ++ [⟨msg, now⟩]) ref := by
  have hlast := lastFrame_append p frames ⟨msg, now⟩
  cases hp : p msg with
  | true =>
      -- an accepted frame is the last one, and fresh at whatever time
      simp only [hp, if_true] at hlast
      refine ⟨?_, ?_, rfl, rfl⟩
      · rw [hlast]
        exact Tracks.accept hnow hpos
      · intro f hf
        rw [hlast] at hf
        rw [← Option.some.inj hf]
        rfl
  | false =>
      simp only [hp, Bool.false_eq_true, if_false] at hlast
      refine ⟨?_, ?_, h.mirrors⟩
      · rw [hlast]
        exact h.tracks
      · intro f hf
        rw [hlast] at hf
        exact h.payload f hf

/-- The update of a stream: the step of the validity functions. -/
theorem StreamTracks.update (h : StreamTracks p read timeout v frames ref) (hto : timeout < 2 ^ 32)
    {now : Nat} (href : ref ≤ now) (hframes : ∀ f ∈ frames, f.tick ≤ now)
    (hgap : now - ref < 2 ^ 32 - timeout) :
    StreamTracks p read timeout (v.update (UInt32.ofNat now) (UInt32.ofNat timeout)) frames now := by
  have hcheck := h.tracks.check hto href (by
    intro t ht
    obtain ⟨f, hf, rfl⟩ := Option.map_eq_some_iff.mp ht
    exact tick_le_of_lastFrame hframes hf) hgap
  obtain ⟨hdata, hactive⟩ := h.mirrors
  unfold StreamView.update
  by_cases hout : v.stamp.timedOut (UInt32.ofNat now) (UInt32.ofNat timeout) = true
  · have hseen : v.stamp.seen = true := by
      simp only [Stamp.timedOut, Bool.and_eq_true] at hout
      exact hout.1.1
    rw [if_pos hout]
    refine ⟨hcheck, h.payload, ?_⟩
    simp [StreamView.Mirrors, Stamp.check, hout, hseen]
  · rw [Stamp.check, if_neg hout] at hcheck
    rw [if_neg hout]
    exact ⟨hcheck, h.payload, hdata, hactive⟩

/-- While the timeout is not active, the last frame was fresh at the last update. -/
theorem StreamTracks.fresh (h : StreamTracks p read timeout v frames ref)
    (hactive : v.timeoutActive = false) {f : RxFrame} (hf : lastFrame p frames = some f) :
    ref < f.tick + timeout ∧ v.dataValid = true := by
  have hseen : v.stamp.seen = true := by
    rw [h.tracks.seen, hf]
    rfl
  have hvalid : v.stamp.valid = true := by
    have hm := h.mirrors.2
    rw [hactive, hseen, Bool.true_and] at hm
    simpa using hm.symm
  refine ⟨(h.tracks.valid f.tick (by rw [hf]; rfl)).mp hvalid, ?_⟩
  rw [h.mirrors.1, hseen, hvalid]
  rfl

end StreamTracks

end TfnAks.Can
