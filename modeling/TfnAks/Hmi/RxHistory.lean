/-
# TfnAks.Hmi.RxHistory — each event read off the bytes before it

`HMI_rxClassifyByte` keeps four counters. This module says what they remember of the stream:
`zeroRun` and `ffRun` a piece of the start-up sequence, `touchState` and `pendingCmd` a piece of a
touch frame, each of them the bytes that came last. So every event can be read off the stream alone,
without the state (`event_at`): a reset is the byte `88` or the end of `00 00 00 FF FF FF`, and a
touch is the end of `5A cmd ~cmd`.
-/
import TfnAks.Hmi.RxClassifier

namespace TfnAks.Hmi

open TfnAks.Lib.Mealy

/-- The bytes that are no part of a touch frame. -/
def IsSystemByte (b : UInt8) : Prop := b = 0x00 ∨ b = 0xFF ∨ b = 0x88

instance (b : UInt8) : Decidable (IsSystemByte b) := inferInstanceAs (Decidable (_ ∨ _))

/-- The start-up sequence of the display. -/
def startupSequence : List UInt8 := [0x00, 0x00, 0x00, 0xFF, 0xFF, 0xFF]

/-- The frame of a touch command. -/
def touchFrame (c : UInt8) : List UInt8 := [0x5A, c, ~~~c]

/-! ## One byte -/

@[simp] theorem rxClassifyByte_ready (st : RxState) :
    rxClassifyByte st 0x88 = (.start, .nextionReset) := rfl

@[simp] theorem rxClassifyByte_zero (st : RxState) :
    rxClassifyByte st 0x00 = st.trackStartup 0x00 := rfl

@[simp] theorem rxClassifyByte_ff (st : RxState) :
    rxClassifyByte st 0xFF = st.trackStartup 0xFF := rfl

theorem rxClassifyByte_of_not_system {b : UInt8} (hb : ¬ IsSystemByte b) (st : RxState) :
    rxClassifyByte st b = st.trackTouch b := by
  obtain ⟨h0, hff, h88⟩ : b ≠ 0x00 ∧ b ≠ 0xFF ∧ b ≠ 0x88 := by
    simpa [IsSystemByte] using hb
  unfold rxClassifyByte
  rw [if_neg h88, if_neg (by simp [h0, hff])]

/-- A system byte cancels whatever touch frame was open. -/
theorem touchState_of_system {b : UInt8} (hb : IsSystemByte b) (st : RxState) :
    (rxClassifyByte st b).1.touchState = 0 := by
  rcases hb with rfl | rfl | rfl
  · rw [rxClassifyByte_zero]
    simp only [RxState.trackStartup]
    split_ifs <;> rfl
  · rw [rxClassifyByte_ff]
    simp only [RxState.trackStartup]
    split_ifs <;> rfl
  · rfl

theorem trackTouch_idle (p z f b : UInt8) :
    RxState.trackTouch ⟨0, p, z, f⟩ b =
      (if b = 0x5A then (⟨1, p, 0, 0⟩, .none) else (⟨0, p, 0, 0⟩, .none)) := rfl

theorem trackTouch_opened (p z f b : UInt8) :
    RxState.trackTouch ⟨1, p, z, f⟩ b = (⟨2, b, 0, 0⟩, .none) := rfl

theorem trackTouch_command (p z f b : UInt8) :
    RxState.trackTouch ⟨2, p, z, f⟩ b =
      (⟨0, p, 0, 0⟩, if b = ~~~p then .touch p else .none) := by
  show (if b = ~~~p then (_, _) else (_, _)) = _
  split_ifs <;> rfl

/-! ## What the counters remember -/

/-- What `zeroRun` and `ffRun` say about the bytes read so far, the latest first. -/
inductive StartupSeen : UInt8 → UInt8 → List UInt8 → Prop
  | nothing (past : List UInt8) : StartupSeen 0 0 past
  | oneZero (past : List UInt8) : StartupSeen 1 0 (0x00 :: past)
  | twoZeros (past : List UInt8) : StartupSeen 2 0 (0x00 :: 0x00 :: past)
  | threeZeros (past : List UInt8) : StartupSeen 3 0 (0x00 :: 0x00 :: 0x00 :: past)
  | oneFF (past : List UInt8) : StartupSeen 3 1 (0xFF :: 0x00 :: 0x00 :: 0x00 :: past)
  | twoFFs (past : List UInt8) : StartupSeen 3 2 (0xFF :: 0xFF :: 0x00 :: 0x00 :: 0x00 :: past)

/-- What `touchState` and `pendingCmd` say about the bytes read so far, the latest first. -/
inductive TouchSeen : UInt8 → UInt8 → List UInt8 → Prop
  | idle (cmd : UInt8) (past : List UInt8) : TouchSeen 0 cmd past
  | opened (cmd : UInt8) (past : List UInt8) : TouchSeen 1 cmd (0x5A :: past)
  | command {cmd : UInt8} (hcmd : ¬ IsSystemByte cmd) (past : List UInt8) :
      TouchSeen 2 cmd (cmd :: 0x5A :: past)

/-- The counters agree with the bytes read so far, the latest first. -/
structure RxState.Remembers (st : RxState) (past : List UInt8) : Prop where
  startup : StartupSeen st.zeroRun st.ffRun past
  touch : TouchSeen st.touchState st.pendingCmd past

theorem remembers_start (past : List UInt8) : RxState.start.Remembers past :=
  ⟨.nothing past, .idle 0 past⟩

theorem StartupSeen.zero {z f : UInt8} {past : List UInt8} (h : StartupSeen z f past)
    (t p : UInt8) :
    (RxState.trackStartup ⟨t, p, z, f⟩ 0x00).1.Remembers (0x00 :: past) := by
  cases h with
  | nothing => exact ⟨.oneZero _, .idle _ _⟩
  | oneZero past => exact ⟨.twoZeros _, .idle _ _⟩
  | twoZeros past => exact ⟨.threeZeros _, .idle _ _⟩
  | threeZeros past => exact ⟨.threeZeros _, .idle _ _⟩
  | oneFF past => exact ⟨.oneZero _, .idle _ _⟩
  | twoFFs past => exact ⟨.oneZero _, .idle _ _⟩

theorem StartupSeen.ff {z f : UInt8} {past : List UInt8} (h : StartupSeen z f past)
    (t p : UInt8) :
    (RxState.trackStartup ⟨t, p, z, f⟩ 0xFF).1.Remembers (0xFF :: past) := by
  cases h with
  | nothing => exact ⟨.nothing _, .idle _ _⟩
  | oneZero past => exact ⟨.nothing _, .idle _ _⟩
  | twoZeros past => exact ⟨.nothing _, .idle _ _⟩
  | threeZeros past => exact ⟨.oneFF _, .idle _ _⟩
  | oneFF past => exact ⟨.twoFFs _, .idle _ _⟩
  | twoFFs past => exact remembers_start _

theorem TouchSeen.other {t p : UInt8} {past : List UInt8} (h : TouchSeen t p past) {b : UInt8}
    (hb : ¬ IsSystemByte b) (z f : UInt8) :
    (RxState.trackTouch ⟨t, p, z, f⟩ b).1.Remembers (b :: past) := by
  cases h with
  | idle =>
      rw [trackTouch_idle]
      split_ifs with h5a
      · subst h5a
        exact ⟨.nothing _, .opened _ _⟩
      · exact ⟨.nothing _, .idle _ _⟩
  | opened past => exact ⟨.nothing _, .command hb _⟩
  | command hcmd past =>
      rw [trackTouch_command]
      exact ⟨.nothing _, .idle _ _⟩

theorem remembers_step (st : RxState) (past : List UInt8) (b : UInt8) (h : st.Remembers past) :
    (rxClassifyByte st b).1.Remembers (b :: past) := by
  by_cases hb : IsSystemByte b
  · rcases hb with rfl | rfl | rfl
    · exact h.startup.zero _ _
    · exact h.startup.ff _ _
    · exact remembers_start _
  · rw [rxClassifyByte_of_not_system hb]
    exact h.touch.other hb _ _

/-- After every stream the counters agree with the bytes of the stream. -/
theorem remembers_stateAfter (stream : List UInt8) :
    (stateAfter rxClassifyByte .start stream).Remembers stream.reverse :=
  seen_stateAfter rxClassifyByte (remembers_start []) remembers_step stream

/-! ## The event of one byte -/

/-- No byte outside the system bytes resets. -/
theorem TouchSeen.not_reset {t p : UInt8} {past : List UInt8} (h : TouchSeen t p past)
    (b z f : UInt8) : (RxState.trackTouch ⟨t, p, z, f⟩ b).2 ≠ .nextionReset := by
  cases h with
  | idle =>
      rw [trackTouch_idle]
      split_ifs <;> exact RxEvent.noConfusion
  | opened past => exact RxEvent.noConfusion
  | command hcmd past =>
      rw [trackTouch_command]
      split_ifs <;> exact RxEvent.noConfusion

/-- A reset is the byte `88` or ends the start-up sequence. -/
theorem RxState.Remembers.reset {st : RxState} {past : List UInt8} (h : st.Remembers past)
    {b : UInt8} (hev : (rxClassifyByte st b).2 = .nextionReset) :
    b = 0x88 ∨ startupSequence.reverse <+: b :: past := by
  obtain ⟨t, p, z, f⟩ := st
  obtain ⟨hstartup, htouch⟩ := h
  by_cases hb : IsSystemByte b
  · rcases hb with rfl | rfl | rfl
    · cases hstartup <;> cases hev
    · cases hstartup with
      | twoFFs past => exact .inr ⟨past, rfl⟩
      | _ => cases hev
    · exact .inl rfl
  · rw [rxClassifyByte_of_not_system hb] at hev
    exact absurd hev (htouch.not_reset b z f)

theorem TouchSeen.frame {t p : UInt8} {past : List UInt8} (h : TouchSeen t p past) {b z f c : UInt8}
    (hb : ¬ IsSystemByte b) (hev : (RxState.trackTouch ⟨t, p, z, f⟩ b).2 = .touch c) :
    (touchFrame c).reverse <+: b :: past ∧ ∀ x ∈ touchFrame c, ¬ IsSystemByte x := by
  cases h with
  | idle =>
      rw [trackTouch_idle] at hev
      split_ifs at hev
  | opened past => cases hev
  | command hcmd past =>
      rw [trackTouch_command] at hev
      split_ifs at hev with hneg
      cases hev
      subst hneg
      refine ⟨⟨past, rfl⟩, ?_⟩
      simp only [touchFrame, List.mem_cons, List.not_mem_nil, or_false]
      rintro x (rfl | rfl | rfl)
      · decide
      · exact hcmd
      · exact hb

/-- A touch ends its frame, and no byte of the frame is a system byte. -/
theorem RxState.Remembers.touch_frame {st : RxState} {past : List UInt8} (h : st.Remembers past)
    {b c : UInt8} (hev : (rxClassifyByte st b).2 = .touch c) :
    (touchFrame c).reverse <+: b :: past ∧ ∀ x ∈ touchFrame c, ¬ IsSystemByte x := by
  obtain ⟨t, p, z, f⟩ := st
  obtain ⟨hstartup, htouch⟩ := h
  have hb : ¬ IsSystemByte b := by
    rintro (rfl | rfl | rfl)
    · cases hstartup <;> cases hev
    · cases hstartup <;> cases hev
    · cases hev
  rw [rxClassifyByte_of_not_system hb] at hev
  exact htouch.frame hb hev

/-- Whatever was seen before, `00 00 00 FF FF` leaves the classifier one byte from a reset. -/
theorem StartupSeen.stateAfter_almost {z f : UInt8} {past : List UInt8} (h : StartupSeen z f past)
    (t p : UInt8) :
    stateAfter rxClassifyByte ⟨t, p, z, f⟩ [0x00, 0x00, 0x00, 0xFF, 0xFF] = ⟨0, 0, 3, 2⟩ := by
  cases h <;> rfl

/-! ## The event at each position -/

/-- The state in which the byte at position `i` is read. -/
theorem remembers_at (stream : List UInt8) (i : ℕ) :
    (stateAfter rxClassifyByte .start (stream.take i)).Remembers (stream.take i).reverse :=
  remembers_stateAfter (stream.take i)

theorem reset_of_startup {stream : List UInt8} {i : ℕ} {b : UInt8} (hb : stream[i]? = some b)
    (hend : startupSequence <:+ stream.take (i + 1)) :
    (rxClassifyByte (stateAfter rxClassifyByte .start (stream.take i)) b).2 = .nextionReset := by
  rw [List.take_add_one, hb] at hend
  obtain ⟨before, hbefore⟩ := hend
  have hsplit : before ++ [0x00, 0x00, 0x00, 0xFF, 0xFF] ++ [0xFF] = stream.take i ++ [b] := by
    rw [List.append_assoc]
    exact hbefore
  obtain ⟨htake, hlast⟩ := List.append_inj' hsplit rfl
  cases hlast
  rw [← htake, stateAfter_append]
  have hseen := (remembers_stateAfter before).startup
  generalize stateAfter rxClassifyByte .start before = st at hseen
  obtain ⟨t, p, z, f⟩ := st
  rw [hseen.stateAfter_almost t p]
  rfl

/-- **Every event is read off the bytes.** A reset is answered exactly at a byte `88` and at the end
of `00 00 00 FF FF FF`; a touch is answered only at the end of its frame, whose bytes are no system
bytes; no byte is answered with both. -/
theorem event_at (stream : List UInt8) (i : ℕ) :
    ((outputs rxClassifyByte .start stream)[i]? = some .nextionReset ↔
      ∃ b, stream[i]? = some b ∧ (b = 0x88 ∨ startupSequence <:+ stream.take (i + 1))) ∧
    (∀ c, (outputs rxClassifyByte .start stream)[i]? = some (.touch c) →
      touchFrame c <:+ stream.take (i + 1) ∧ ∀ x ∈ touchFrame c, ¬ IsSystemByte x) ∧
    ¬ ((outputs rxClassifyByte .start stream)[i]? = some .nextionReset ∧
      ∃ c, (outputs rxClassifyByte .start stream)[i]? = some (.touch c)) := by
  rw [getElem?_outputs]
  -- the state before the byte remembers a suffix of the stream, which decides the event
  have hseen := remembers_at stream i
  refine ⟨⟨?_, ?_⟩, ?_, ?_⟩
  · intro hev
    obtain ⟨b, hb, hev⟩ := Option.map_eq_some_iff.mp hev
    refine ⟨b, hb, (hseen.reset hev).imp_right ?_⟩
    intro hprefix
    rw [List.take_add_one, hb, ← List.reverse_prefix, List.reverse_append]
    exact hprefix
  · rintro ⟨b, hb, hreset⟩
    rw [hb]
    rcases hreset with rfl | hend
    · rfl
    · exact congrArg some (reset_of_startup hb hend)
  · intro c hev
    obtain ⟨b, hb, hev⟩ := Option.map_eq_some_iff.mp hev
    rw [List.take_add_one, hb, ← List.reverse_prefix, List.reverse_append]
    exact hseen.touch_frame hev
  · rintro ⟨hreset, c, htouch⟩
    rw [hreset] at htouch
    cases htouch

theorem event_at_reset_and_touch :
    (outputs rxClassifyByte .start (startupSequence ++ touchFrame 3))[5]? = some .nextionReset ∧
      touchFrame 3 <:+ (startupSequence ++ touchFrame 3).take 9 :=
  ⟨(event_at (startupSequence ++ touchFrame 3) 5).1.mpr ⟨0xFF, rfl, .inr ⟨[], rfl⟩⟩,
    ((event_at (startupSequence ++ touchFrame 3) 8).2.1 3 rfl).1⟩

end TfnAks.Hmi
