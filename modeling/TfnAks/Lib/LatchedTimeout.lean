/-
# TfnAks.Lib.LatchedTimeout — a timeout on a tick counter that wraps

A stream of messages is watched with a 32-bit tick counter: the tick of the last message is kept,
and a check drops the `valid` flag once the counter has moved on by the timeout. Only the next
message raises the flag again. The difference of two wrapped ticks is the real age as long as that
is below `2^32` (`age_exact`), and it stays below as long as the checks come often enough, because a
flag that is still up was up at the last check too.

`Tracks` says what the kept fields mean in real time; `Tracks.accept` and `Tracks.check` are its two
steps. The result is exact: after each check the flag is up iff the last message is younger than the
timeout.
-/
import Mathlib

namespace TfnAks.Lib.LatchedTimeout

/-- The fields kept about a stream. -/
structure Stamp where
  seen : Bool
  valid : Bool
  last : UInt32

/-- The wrapped difference reaches the timeout, in a stream whose flag is up. -/
def Stamp.timedOut (s : Stamp) (now timeout : UInt32) : Bool :=
  s.seen && s.valid && timeout ≤ now - s.last

/-- A message at tick `now`. -/
def Stamp.accept (now : UInt32) : Stamp := ⟨true, true, now⟩

/-- A check at tick `now`. -/
def Stamp.check (s : Stamp) (now timeout : UInt32) : Stamp :=
  if s.timedOut now timeout then { s with valid := false } else s

/-- The wrapped difference of two ticks less than `2^32` apart is their distance. -/
theorem age_exact {t now : ℕ} (h : t ≤ now) (hlt : now - t < 2 ^ 32) :
    (UInt32.ofNat now - UInt32.ofNat t).toNat = now - t := by
  have hnow : (UInt32.ofNat now).toNat = now % 2 ^ 32 := by simp
  have ht : (UInt32.ofNat t).toNat = t % 2 ^ 32 := by simp
  rw [UInt32.toNat_sub, hnow, ht]
  omega

/-- The fields `s`, kept about a stream whose last message came at the real tick `last` (none yet if
`none`), when the last check was at the real tick `ref`. -/
structure Tracks (timeout : ℕ) (s : Stamp) (last : Option ℕ) (ref : ℕ) : Prop where
  seen : s.seen = last.isSome
  tick : ∀ t, last = some t → s.last = UInt32.ofNat t
  valid : ∀ t, last = some t → (s.valid = true ↔ ref < t + timeout)

theorem Tracks.start (timeout ref : ℕ) (valid : Bool) (tick : UInt32) :
    Tracks timeout ⟨false, valid, tick⟩ none ref where
  seen := rfl
  tick := fun _ h => by simp at h
  valid := fun _ h => by simp at h

theorem Tracks.accept {timeout ref now : ℕ} (h : ref ≤ now) (hpos : 0 < timeout) :
    Tracks timeout (Stamp.accept (UInt32.ofNat now)) (some now) ref where
  seen := rfl
  tick := by
    intro t ht
    rw [← Option.some.inj ht]
    rfl
  valid := by
    intro t ht
    rw [← Option.some.inj ht]
    exact iff_of_true rfl (by omega)

/-- **The check is exact**: afterwards the flag is up iff the last message is younger than the
timeout, provided the checks are less than `2^32 - timeout` ticks apart. -/
theorem Tracks.check {timeout ref now : ℕ} {s : Stamp} {last : Option ℕ}
    (h : Tracks timeout s last ref) (hto : timeout < 2 ^ 32) (href : ref ≤ now)
    (hlast : ∀ t, last = some t → t ≤ now) (hgap : now - ref < 2 ^ 32 - timeout) :
    Tracks timeout (s.check (UInt32.ofNat now) (UInt32.ofNat timeout)) last now where
  seen := by
    rw [← h.seen]
    unfold Stamp.check
    split <;> rfl
  tick := by
    intro t ht
    rw [← h.tick t ht]
    unfold Stamp.check
    split <;> rfl
  valid := by
    intro t ht
    have htick := h.tick t ht
    have hvalid := h.valid t ht
    have hseen : s.seen = true := by rw [h.seen, ht]; rfl
    have hle := hlast t ht
    have htimeout : (UInt32.ofNat timeout).toNat = timeout := by simpa using hto
    unfold Stamp.check Stamp.timedOut
    by_cases hv : s.valid = true
    · -- up at the last check, so the message is young enough for the difference not to wrap
      have href := hvalid.mp hv
      have hage := age_exact hle (by omega)
      rw [hseen, hv, htick, Bool.true_and, Bool.true_and]
      have hcmp : (UInt32.ofNat timeout ≤ UInt32.ofNat now - UInt32.ofNat t) ↔ timeout ≤ now - t := by
        rw [UInt32.le_iff_toNat_le, hage, htimeout]
      by_cases hout : timeout ≤ now - t
      · rw [if_pos (by simpa using hcmp.mpr hout)]
        exact iff_of_false Bool.false_ne_true (by omega)
      · rw [if_neg (by simpa using fun hc => hout (hcmp.mp hc))]
        exact iff_of_true hv (by omega)
    · -- a flag that is down stays down, and the message only gets older
      have hold : ¬ ref < t + timeout := fun hc => hv (hvalid.mpr hc)
      have hdown : s.valid = false := by simpa using hv
      rw [hdown, Bool.and_false, Bool.false_and, if_neg Bool.false_ne_true, hdown]
      exact iff_of_false Bool.false_ne_true (by omega)

end TfnAks.Lib.LatchedTimeout
