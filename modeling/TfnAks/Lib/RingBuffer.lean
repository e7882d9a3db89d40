/-
# TfnAks.Lib.RingBuffer — a bounded queue in a circular array

A ring of capacity `cap` is an array with the index of the oldest element, the index where the next
one goes and the number of elements between them. The three numbers depend on each other; the
structure carries that as fields, so a ring whose indices disagree cannot be built.

`toList` reads a ring as a queue, oldest first. Each operation has its lemma in terms of `toList`,
and a user of the ring reasons about lists only.
-/
import Mathlib.Data.Nat.ModEq
import Mathlib.Logic.Function.Basic

namespace TfnAks.Lib.RingBuffer

/-- Slots in a circle: the oldest item is at `head`, the next goes to `tail`. -/
structure Ring (α : Type*) (cap : Nat) where
  slots : Fin cap → α
  head : Nat
  tail : Nat
  count : Nat
  head_lt : head < cap
  count_le : count ≤ cap
  tail_eq : tail = (head + count) % cap

variable {α : Type*} {cap : Nat}

namespace Ring

theorem cap_pos (r : Ring α cap) : 0 < cap := Nat.zero_lt_of_lt r.head_lt

/-- A ring with no element; `init` is what the unused slots hold. -/
def empty (hcap : 0 < cap) (init : α) : Ring α cap where
  slots := fun _ => init
  head := 0
  tail := 0
  count := 0
  head_lt := hcap
  count_le := Nat.zero_le cap
  tail_eq := (Nat.zero_mod cap).symm

/-- The slot `i` places behind the oldest one. -/
def slot (r : Ring α cap) (i : Nat) : α :=
  r.slots ⟨(r.head + i) % cap, Nat.mod_lt _ r.cap_pos⟩

/-- The elements, oldest first. -/
def toList (r : Ring α cap) : List α := (List.range r.count).map r.slot

/-- Read the oldest element. -/
def peek (r : Ring α cap) : Option α :=
  if r.count = 0 then none else some (r.slots ⟨r.head, r.head_lt⟩)

/-- Drop the oldest element of a ring that has one. -/
def advance (r : Ring α cap) (h : r.count ≠ 0) : Ring α cap where
  slots := r.slots
  head := (r.head + 1) % cap
  tail := r.tail
  count := r.count - 1
  head_lt := Nat.mod_lt _ r.cap_pos
  count_le := Nat.le_trans (Nat.sub_le _ _) r.count_le
  tail_eq := by
    rw [r.tail_eq, Nat.mod_add_mod]
    congr 1
    omega

/-- Write behind the newest element of a ring that has room. -/
def append (d : α) (r : Ring α cap) (h : r.count < cap) : Ring α cap where
  slots := fun j => if j.val = r.tail then d else r.slots j
  head := r.head
  tail := (r.tail + 1) % cap
  count := r.count + 1
  head_lt := r.head_lt
  count_le := h
  tail_eq := by rw [r.tail_eq, Nat.mod_add_mod, Nat.add_assoc]

/-- Drop the oldest element, if there is one. -/
def dropFront (r : Ring α cap) : Ring α cap :=
  if h : r.count = 0 then r else r.advance h

theorem count_ne_zero_of_full {r : Ring α cap} (h : r.count = cap) : r.count ≠ 0 := by
  rw [h]
  exact r.cap_pos.ne'

theorem advance_count_lt {r : Ring α cap} (h : r.count ≠ 0) : (r.advance h).count < cap :=
  Nat.lt_of_lt_of_le (Nat.sub_one_lt h) r.count_le

/-- Append `d`; a full ring loses its oldest element for it. -/
def push (d : α) (r : Ring α cap) : Ring α cap :=
  if h : r.count = cap then
    (r.advance (count_ne_zero_of_full h)).append d (advance_count_lt _)
  else r.append d (Nat.lt_of_le_of_ne r.count_le h)

/-- Forget the elements; the slots keep what they hold. -/
def reset (r : Ring α cap) : Ring α cap where
  slots := r.slots
  head := 0
  tail := 0
  count := 0
  head_lt := r.cap_pos
  count_le := Nat.zero_le cap
  tail_eq := (Nat.zero_mod cap).symm

theorem tail_lt (r : Ring α cap) : r.tail < cap := by
  rw [r.tail_eq]
  exact Nat.mod_lt _ r.cap_pos

/-! ## The queue -/

@[simp] theorem length_toList (r : Ring α cap) : r.toList.length = r.count := by
  simp [toList]

theorem toList_eq_nil_iff (r : Ring α cap) : r.toList = [] ↔ r.count = 0 := by
  rw [← List.length_eq_zero_iff, length_toList]

@[simp] theorem toList_reset (r : Ring α cap) : r.reset.toList = [] :=
  (toList_eq_nil_iff _).mpr rfl

/-- Two places of a ring are different slots as long as they are less than a lap apart. -/
theorem place_ne {h i n : Nat} (hi : i < n) (hn : n < cap) : (h + i) % cap ≠ (h + n) % cap := by
  intro heq
  have hmod : i ≡ n [MOD cap] := Nat.ModEq.add_left_cancel' h heq
  have : i = n := hmod.eq_of_lt_of_lt (hi.trans hn) hn
  omega

theorem toList_append (d : α) (r : Ring α cap) (h : r.count < cap) :
    (r.append d h).toList = r.toList ++ [d] := by
  -- the slot written is none of those in use
  have hold : ∀ i ∈ List.range r.count, (r.append d h).slot i = r.slot i := by
    intro i hi
    have hne : (r.head + i) % cap ≠ r.tail := by
      rw [r.tail_eq]
      exact place_ne (List.mem_range.mp hi) h
    exact if_neg hne
  have hnew : (r.append d h).slot r.count = d := if_pos r.tail_eq.symm
  show (List.range (r.count + 1)).map (r.append d h).slot = _
  rw [List.range_succ, List.map_append, List.map_congr_left hold, List.map_singleton, hnew]
  rfl

theorem toList_advance (r : Ring α cap) (h : r.count ≠ 0) :
    r.toList = r.slots ⟨r.head, r.head_lt⟩ :: (r.advance h).toList := by
  obtain ⟨n, hn⟩ : ∃ n, r.count = n + 1 := Nat.exists_eq_succ_of_ne_zero h
  have hfront : r.slot 0 = r.slots ⟨r.head, r.head_lt⟩ := by
    show r.slots _ = _
    congr 2
    exact Nat.mod_eq_of_lt r.head_lt
  have hrest : ∀ i, r.slot (i + 1) = (r.advance h).slot i := by
    intro i
    show r.slots _ = r.slots _
    congr 2
    rw [advance, Nat.mod_add_mod, Nat.add_assoc, Nat.add_comm 1 i]
  show (List.range r.count).map r.slot = _ :: (List.range (r.count - 1)).map (r.advance h).slot
  rw [hn, List.range_succ_eq_map, List.map_cons, List.map_map, hfront, Nat.add_sub_cancel]
  congr 1
  exact List.map_congr_left fun i _ => hrest i

theorem peek_eq_head? (r : Ring α cap) : r.peek = r.toList.head? := by
  by_cases h : r.count = 0
  · rw [peek, if_pos h, (toList_eq_nil_iff r).mpr h]
    rfl
  · rw [peek, if_neg h, toList_advance r h]
    rfl

@[simp] theorem toList_dropFront (r : Ring α cap) : r.dropFront.toList = r.toList.tail := by
  by_cases h : r.count = 0
  · rw [dropFront, dif_pos h, (toList_eq_nil_iff r).mpr h]
    rfl
  · rw [dropFront, dif_neg h, toList_advance r h]
    rfl

/-- **`push` on the queue.** The element goes to the back; a full ring gives up its front. -/
@[simp] theorem toList_push (d : α) (r : Ring α cap) :
    (r.push d).toList = (if r.count = cap then r.toList.tail else r.toList) ++ [d] := by
  by_cases h : r.count = cap
  · rw [push, dif_pos h, toList_append, if_pos h, toList_advance r (count_ne_zero_of_full h)]
    rfl
  · rw [push, dif_neg h, toList_append, if_neg h]

end Ring

end TfnAks.Lib.RingBuffer
