/-
# TfnAks.Hmi.TouchResync — which noise a touch frame survives

A touch frame is recognised exactly when the classifier is idle as its first byte arrives. The state
after a stream can be told from the stream alone: the classifier is idle exactly after a stream that
is `Framed`, a run of single bytes that open no frame and of complete three-byte groups, which a
system byte starts afresh. A stream that ends inside such a group swallows the frame that follows it
(`touch_after_iff`), whatever the command; a second press is never swallowed (`second_press`).
-/
import TfnAks.Hmi.RxHistory

namespace TfnAks.Hmi

open TfnAks.Lib.Mealy

/-! ## Streams that leave no frame open -/

/-- The stream leaves no touch frame open: read from the left, after its last system byte it is made
of bytes other than `5A` and of groups `5A x y`. -/
inductive Framed : List UInt8 → Prop
  | nil : Framed []
  | idle {b : UInt8} {rest : List UInt8} :
      ¬ IsSystemByte b → b ≠ 0x5A → Framed rest → Framed (b :: rest)
  | group {x y : UInt8} {rest : List UInt8} :
      ¬ IsSystemByte x → ¬ IsSystemByte y → Framed rest → Framed (0x5A :: x :: y :: rest)
  | restart (noise : List UInt8) {b : UInt8} {rest : List UInt8} :
      IsSystemByte b → Framed rest → Framed (noise ++ b :: rest)

theorem Framed.append {P Q : List UInt8} (hP : Framed P) (hQ : Framed Q) : Framed (P ++ Q) := by
  induction hP with
  | nil => exact hQ
  | idle hsys h5a _ ih => exact .idle hsys h5a ih
  | group hx hy _ ih => exact .group hx hy ih
  | restart noise hsys _ ih =>
      rw [List.append_assoc]
      exact .restart noise hsys ih

theorem framed_concat_system (P : List UInt8) {b : UInt8} (hb : IsSystemByte b) :
    Framed (P ++ [b]) :=
  .restart P hb .nil

/-! ## The classifier is idle exactly after such a stream -/

/-- Where in a touch frame the stream ends, by `touchState`. -/
inductive EndsIn (P : List UInt8) : UInt8 → Prop
  | idle : Framed P → EndsIn P 0
  | opened {Q : List UInt8} : Framed Q → P = Q ++ [0x5A] → EndsIn P 1
  | command {Q : List UInt8} {x : UInt8} :
      Framed Q → ¬ IsSystemByte x → P = Q ++ [0x5A, x] → EndsIn P 2

theorem EndsIn.concat {P : List UInt8} {st : RxState} (h : EndsIn P st.touchState) (b : UInt8) :
    EndsIn (P ++ [b]) (rxClassifyByte st b).1.touchState := by
  by_cases hb : IsSystemByte b
  · rw [touchState_of_system hb]
    exact .idle (framed_concat_system P hb)
  · rw [rxClassifyByte_of_not_system hb]
    obtain ⟨t, p, z, f⟩ := st
    replace h : EndsIn P t := h
    cases h with
    | idle hP =>
        rw [trackTouch_idle]
        split_ifs with h5a
        · subst h5a
          exact .opened hP rfl
        · exact .idle (hP.append (.idle hb h5a .nil))
    | opened hQ hP =>
        subst hP
        exact .command hQ hb (List.append_assoc _ _ _)
    | command hQ hx hP =>
        subst hP
        rw [trackTouch_command, List.append_assoc]
        exact .idle (hQ.append (.group hx hb .nil))

theorem endsIn_stateAfter (P : List UInt8) :
    EndsIn P (stateAfter rxClassifyByte .start P).touchState := by
  induction P using List.reverseRecOn with
  | nil => exact .idle .nil
  | append_singleton P b ih =>
      rw [stateAfter_concat]
      exact ih.concat b

theorem framed_of_idle {P : List UInt8}
    (h : (stateAfter rxClassifyByte .start P).touchState = 0) : Framed P := by
  have hends := endsIn_stateAfter P
  rw [h] at hends
  cases hends with
  | idle hP => exact hP

theorem touchState_of_idle {st : RxState} (h0 : st.touchState = 0) {b : UInt8}
    (hb : ¬ IsSystemByte b) (h5a : b ≠ 0x5A) : (rxClassifyByte st b).1.touchState = 0 := by
  obtain ⟨t, p, z, f⟩ := st
  replace h0 : t = 0 := h0
  rw [rxClassifyByte_of_not_system hb, h0, trackTouch_idle, if_neg h5a]

/-- From the idle state `5A x` waits for the complement of `x`. -/
theorem stateAfter_opening {st : RxState} (h0 : st.touchState = 0) {x : UInt8}
    (hx : ¬ IsSystemByte x) : stateAfter rxClassifyByte st [0x5A, x] = ⟨2, x, 0, 0⟩ := by
  obtain ⟨t, p, z, f⟩ := st
  replace h0 : t = 0 := h0
  rw [stateAfter_cons, stateAfter_cons, stateAfter_nil, h0,
    rxClassifyByte_of_not_system (b := 0x5A) (by decide), trackTouch_idle, if_pos rfl,
    rxClassifyByte_of_not_system hx, trackTouch_opened]

theorem rxClassifyByte_command (x : UInt8) {y : UInt8} (hy : ¬ IsSystemByte y) :
    rxClassifyByte ⟨2, x, 0, 0⟩ y = (⟨0, x, 0, 0⟩, if y = ~~~x then .touch x else .none) := by
  rw [rxClassifyByte_of_not_system hy, trackTouch_command]

theorem Framed.touchState_stateAfter {P : List UInt8} (hP : Framed P) (st : RxState)
    (h0 : st.touchState = 0) : (stateAfter rxClassifyByte st P).touchState = 0 := by
  induction hP generalizing st with
  | nil => exact h0
  | idle hsys h5a _ ih => exact ih _ (touchState_of_idle h0 hsys h5a)
  | @group x y rest hx hy _ ih =>
      show (stateAfter rxClassifyByte st ([0x5A, x] ++ y :: rest)).touchState = 0
      rw [stateAfter_append, stateAfter_opening h0 hx, stateAfter_cons,
        rxClassifyByte_command x hy]
      exact ih _ rfl
  | restart noise hsys _ ih =>
      rw [stateAfter_append]
      exact ih _ (touchState_of_system hsys _)

theorem idle_iff_framed (P : List UInt8) :
    (stateAfter rxClassifyByte .start P).touchState = 0 ↔ Framed P :=
  ⟨framed_of_idle, fun hP => hP.touchState_stateAfter .start rfl⟩

/-! ## The frame after the stream -/

/-- The commands of the display. -/
def IsCommand (c : UInt8) : Prop := c = 1 ∨ c = 2 ∨ c = 3 ∨ c = 4

theorem IsCommand.bytes {c : UInt8} (hc : IsCommand c) :
    ¬ IsSystemByte c ∧ c ≠ 0x5A ∧ ¬ IsSystemByte (~~~c) ∧ ~~~c ≠ 0x5A := by
  rcases hc with rfl | rfl | rfl | rfl <;> decide

theorem getLast?_outputs_touchFrame (st : RxState) (c : UInt8) :
    (outputs rxClassifyByte st (touchFrame c)).getLast? =
      some (rxClassifyByte (stateAfter rxClassifyByte st [0x5A, c]) (~~~c)).2 := rfl

/-- The frame is recognised from the idle state. -/
theorem touch_of_idle {st : RxState} (h0 : st.touchState = 0) {c : UInt8} (hc : IsCommand c) :
    (outputs rxClassifyByte st (touchFrame c)).getLast? = some (.touch c) := by
  obtain ⟨hsys, -, hneg, -⟩ := hc.bytes
  rw [getLast?_outputs_touchFrame, stateAfter_opening h0 hsys, rxClassifyByte_command c hneg,
    if_pos rfl]

/-- Inside a frame the classifier takes `5A` for a command or for a checksum, and is idle again
before the frame ends. -/
theorem swallowed {P : List UInt8} {st : RxState} (hends : EndsIn P st.touchState)
    (h0 : st.touchState ≠ 0) {c : UInt8} (hc : IsCommand c) :
    (stateAfter rxClassifyByte st [0x5A, c]).touchState = 0 := by
  obtain ⟨hsys, h5a, -⟩ := hc.bytes
  obtain ⟨t, p, z, f⟩ := st
  replace hends : EndsIn P t := hends
  rw [stateAfter_cons, rxClassifyByte_of_not_system (b := 0x5A) (by decide)]
  cases hends with
  | idle => exact absurd rfl h0
  | opened =>
      rw [trackTouch_opened, stateAfter_cons, rxClassifyByte_command _ hsys]
      rfl
  | command =>
      rw [trackTouch_command]
      exact touchState_of_idle rfl hsys h5a

/-- Only the idle state recognises the frame. -/
theorem no_touch_of_swallowed {st : RxState} {c : UInt8} (hc : IsCommand c)
    (h : (stateAfter rxClassifyByte st [0x5A, c]).touchState = 0) :
    (outputs rxClassifyByte st (touchFrame c)).getLast? = some .none := by
  obtain ⟨-, -, hneg, h5a⟩ := hc.bytes
  rw [getLast?_outputs_touchFrame]
  generalize stateAfter rxClassifyByte st [0x5A, c] = st' at h
  obtain ⟨t, p, z, f⟩ := st'
  replace h : t = 0 := h
  rw [rxClassifyByte_of_not_system hneg, h, trackTouch_idle, if_neg h5a]

theorem getLast?_outputs_append_touchFrame (P : List UInt8) (c : UInt8) :
    (outputs rxClassifyByte .start (P ++ touchFrame c)).getLast? =
      (outputs rxClassifyByte (stateAfter rxClassifyByte .start P) (touchFrame c)).getLast? := by
  rw [outputs_append, List.getLast?_append, getLast?_outputs_touchFrame]
  rfl

/-- **A touch frame survives exactly the noise that leaves no frame open.** -/
theorem touch_after_iff (P : List UInt8) {c : UInt8} (hc : IsCommand c) :
    (outputs rxClassifyByte .start (P ++ touchFrame c)).getLast? = some (.touch c) ↔ Framed P := by
  rw [getLast?_outputs_append_touchFrame, ← idle_iff_framed]
  constructor
  · intro htouch
    by_contra h0
    rw [no_touch_of_swallowed hc (swallowed (endsIn_stateAfter P) h0 hc)] at htouch
    cases htouch
  · intro h0
    exact touch_of_idle h0 hc

theorem touch_after_group :
    (outputs rxClassifyByte .start ([0x5A, 0x07, 0x5A] ++ touchFrame 3)).getLast? =
      some (.touch 3) :=
  (touch_after_iff [0x5A, 0x07, 0x5A] (.inr (.inr (.inl rfl)))).mpr
    (.group (by decide) (by decide) .nil)

/-- One stray `5A` swallows the press of the emergency stop. -/
theorem emergency_stop_swallowed :
    ¬ ∀ (P : List UInt8) (c : UInt8), IsCommand c →
      (outputs rxClassifyByte .start (P ++ touchFrame c)).getLast? = some (.touch c) := by
  intro h
  exact absurd (h [0x5A] 3 (.inr (.inr (.inl rfl)))) (by decide)

/-- Whatever came before a frame, the classifier is idle after it. -/
theorem idle_after_touchFrame (P : List UInt8) {c : UInt8} (hc : IsCommand c) :
    (stateAfter rxClassifyByte .start (P ++ touchFrame c)).touchState = 0 := by
  obtain ⟨hsys, -, hneg, h5a⟩ := hc.bytes
  show (stateAfter rxClassifyByte .start (P ++ ([0x5A, c] ++ [~~~c]))).touchState = 0
  rw [stateAfter_append, stateAfter_concat]
  by_cases h0 : (stateAfter rxClassifyByte .start P).touchState = 0
  · rw [stateAfter_opening h0 hsys, rxClassifyByte_command c hneg]
  · exact touchState_of_idle (swallowed (endsIn_stateAfter P) h0 hc) hneg h5a

/-- **A second press is never swallowed**, whatever came before the first. -/
theorem second_press (P : List UInt8) {c d : UInt8} (hc : IsCommand c) (hd : IsCommand d) :
    (outputs rxClassifyByte .start (P ++ touchFrame c ++ touchFrame d)).getLast? =
      some (.touch d) := by
  rw [getLast?_outputs_append_touchFrame]
  exact touch_of_idle (idle_after_touchFrame P hc) hd

end TfnAks.Hmi
