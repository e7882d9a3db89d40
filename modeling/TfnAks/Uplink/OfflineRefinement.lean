/-
# TfnAks.Uplink.OfflineRefinement — the offline buffer's statics, the ring, and a list

Three levels of one design. At the bottom the four statics of `lib/OfflineBuffer/OfflineBuffer.cpp`
(`ObStatics`): an array and three `int`s that know nothing of each other, where an access outside
the array has no meaning. In the middle the ring of `TfnAks.Lib.RingBuffer`. At the top the list of
`tools/e2e/offline_buffer_sim.py` (`OfflineBufferSim`), which is what the buffer is for.

A call carries what its out parameter holds beforehand, and its answer what it holds afterwards, so
equal answers include that a parameter is left alone.
-/
import TfnAks.Lib.Mealy
import TfnAks.Uplink.OfflineBuffer

namespace TfnAks.Uplink

open TfnAks.Lib.RingBuffer TfnAks.Lib.Mealy

/-- A call of the C interface, with the value of its out parameter before the call. -/
inductive ObCall where
  | reset
  | push (data : TelemetryData)
  | pop (out : TelemetryData)
  | peek (out : TelemetryData)
  | dropFront
  | count
  | isEmpty
  deriving DecidableEq

/-- What a call gives back. -/
inductive ObAnswer where
  | done
  | bool (returned : Bool)
  /-- the returned value and the out parameter -/
  | found (returned : Bool) (out : TelemetryData)
  | int (returned : Int)
  deriving DecidableEq

/-! ## The statics -/

/-- The static variables of the C file; the indices are `int`. -/
structure ObStatics where
  buf : Fin obCapacity → TelemetryData
  head : Int
  tail : Int
  count : Int

/-- All zero, as static storage is. -/
def ObStatics.booted : ObStatics := ⟨fun _ => .zero, 0, 0, 0⟩

/-- An index of `s_buf`, if it is one. -/
def obIndex (i : Int) : Option (Fin obCapacity) :=
  if h : 0 ≤ i ∧ i < obCapacity then some ⟨i.toNat, (Int.toNat_lt h.1).mpr h.2⟩ else none

/-- `(i + 1) % OB_CAPACITY` -/
def obNext (i : Int) : Int := (i + 1).tmod obCapacity

namespace ObStatics

/-- Forgets the samples and leaves the slots as they are. -/
def obReset (s : ObStatics) : ObStatics := { s with head := 0, tail := 0, count := 0 }

/-- The first half of `ob_push`: a full buffer drops its oldest record. -/
def makeRoom (s : ObStatics) : ObStatics :=
  if s.count = obCapacity then { s with head := obNext s.head, count := s.count - 1 } else s

/-- The second half: the record goes to `s_buf[s_tail]`. -/
def append (data : TelemetryData) (s : ObStatics) : Option ObStatics :=
  (obIndex s.tail).map fun i =>
    { s with buf := Function.update s.buf i data, tail := obNext s.tail, count := s.count + 1 }

/-- Overwrites the oldest sample when the array is full; always true. -/
def obPush (data : TelemetryData) (s : ObStatics) : Option (ObStatics × Bool) :=
  (s.makeRoom.append data).map fun s => (s, true)

/-- False and the out parameter untouched when there is nothing. -/
def obPop (out : TelemetryData) (s : ObStatics) : Option (ObStatics × Bool × TelemetryData) :=
  if s.count = 0 then some (s, false, out)
  else
    (obIndex s.head).map fun i =>
      ({ s with head := obNext s.head, count := s.count - 1 }, true, s.buf i)

/-- The same, and the sample stays. -/
def obPeek (out : TelemetryData) (s : ObStatics) : Option (Bool × TelemetryData) :=
  if s.count = 0 then some (false, out)
  else (obIndex s.head).map fun i => (true, s.buf i)

/-- Removes the oldest sample unread. -/
def obDropFront (s : ObStatics) : ObStatics × Bool :=
  if s.count = 0 then (s, false)
  else ({ s with head := obNext s.head, count := s.count - 1 }, true)

/-- The number of samples. -/
def obCount (s : ObStatics) : Int := s.count

/-- Whether there are none. -/
def obIsEmpty (s : ObStatics) : Bool := s.count == 0

/-- One call; `none` when it reaches outside the array. -/
def call (s : ObStatics) : ObCall → Option (ObStatics × ObAnswer)
  | .reset => some (s.obReset, .done)
  | .push data => (s.obPush data).map fun (s, b) => (s, .bool b)
  | .pop out => (s.obPop out).map fun (s, b, out) => (s, .found b out)
  | .peek out => (s.obPeek out).map fun (b, out) => (s, .found b out)
  | .dropFront => some (s.obDropFront.1, .bool s.obDropFront.2)
  | .count => some (s, .int s.obCount)
  | .isEmpty => some (s, .bool s.obIsEmpty)

/-- A sequence of calls with all its answers. -/
def calls (s : ObStatics) : List ObCall → Option (ObStatics × List ObAnswer)
  | [] => some (s, [])
  | c :: cs =>
    (s.call c).bind fun (s, answer) => (s.calls cs).map fun (s, answers) => (s, answer :: answers)

end ObStatics

/-! ## The list -/

/-- The Python class: a list with a bound. -/
structure OfflineBufferSim where
  capacity : Nat
  items : List TelemetryData

namespace OfflineBufferSim

/-- Drops the first item when the list is full. -/
def push (item : TelemetryData) (s : OfflineBufferSim) : OfflineBufferSim :=
  { s with items := (if s.items.length = s.capacity then s.items.tail else s.items) ++ [item] }

/-- The first item. -/
def peek (s : OfflineBufferSim) : Option TelemetryData := s.items.head?

/-- Removes the first item. -/
def dropFront (s : OfflineBufferSim) : OfflineBufferSim × Bool :=
  if s.items.isEmpty then (s, false) else ({ s with items := s.items.tail }, true)

/-- The number of items. -/
def count (s : OfflineBufferSim) : Nat := s.items.length

/-- Whether there are none. -/
def isEmpty (s : OfflineBufferSim) : Bool := s.items.isEmpty

/-- What a call should do: a read answers false and leaves the parameter alone when there is nothing
to read. -/
def call (s : OfflineBufferSim) : ObCall → OfflineBufferSim × ObAnswer
  | .reset => ({ s with items := [] }, .done)
  | .push data => (s.push data, .bool true)
  | .pop out => (s.dropFront.1, .found s.peek.isSome (s.peek.getD out))
  | .peek out => (s, .found s.peek.isSome (s.peek.getD out))
  | .dropFront => (s.dropFront.1, .bool s.dropFront.2)
  | .count => (s, .int s.count)
  | .isEmpty => (s, .bool s.isEmpty)

end OfflineBufferSim

/-! ## The ring between them -/

/-- A call on the ring. -/
def obCall (b : OfflineBuffer) : ObCall → OfflineBuffer × ObAnswer
  | .reset => (b.reset, .done)
  | .push data => (obPush data b, .bool true)
  | .pop out => (obDropFront b, .found (obPeek b).isSome ((obPeek b).getD out))
  | .peek out => (b, .found (obPeek b).isSome ((obPeek b).getD out))
  | .dropFront => (obDropFront b, .bool (obCount b != 0))
  | .count => (b, .int (obCount b))
  | .isEmpty => (b, .bool (obCount b == 0))

/-- `ob_pop` is the read and the drop of `obCall`. -/
theorem obCall_pop (b : OfflineBuffer) (out : TelemetryData) :
    obCall b (.pop out) = (obPop b).elim (b, .found false out) fun r => (r.2, .found true r.1) := by
  unfold obCall obPop
  cases hp : obPeek b with
  | some d => rfl
  | none =>
      have hcount : b.count = 0 := obPeek_eq_none_iff.mp hp
      have hdrop : obDropFront b = b := by
        rw [obDropFront, Ring.dropFront, dif_pos hcount]
      simp [hdrop]

/-- The list of a ring. -/
def simOf (b : OfflineBuffer) : OfflineBufferSim := ⟨obCapacity, b.toList⟩

theorem isEmpty_toList (b : OfflineBuffer) : b.toList.isEmpty = (obCount b == 0) := by
  rw [Bool.eq_iff_iff, List.isEmpty_iff, Ring.toList_eq_nil_iff, beq_iff_eq]
  rfl

theorem simOf_obDropFront (b : OfflineBuffer) :
    (simOf b).dropFront = (simOf (obDropFront b), obCount b != 0) := by
  unfold OfflineBufferSim.dropFront
  have hempty : (simOf b).items.isEmpty = (obCount b == 0) := isEmpty_toList b
  have htail : (simOf (obDropFront b)).items = (simOf b).items.tail := Ring.toList_dropFront b
  rw [hempty]
  by_cases h : obCount b = 0
  · have hnil : b.toList = [] := (Ring.toList_eq_nil_iff b).mpr h
    have hsame : simOf (obDropFront b) = simOf b := by
      simp only [simOf, obDropFront, Ring.toList_dropFront, hnil, List.tail_nil]
    simp [h, hsame]
  · simp [h, simOf, obDropFront]

/-- **The ring refines the list**, call by call. -/
theorem obCall_simOf (b : OfflineBuffer) (c : ObCall) :
    (simOf b).call c = (simOf (obCall b c).1, (obCall b c).2) := by
  have hpeek : (simOf b).peek = obPeek b := (Ring.peek_eq_head? b).symm
  have hcount : (simOf b).count = obCount b := Ring.length_toList b
  cases c with
  | reset => simp [OfflineBufferSim.call, obCall, simOf]
  | push data =>
      simp only [OfflineBufferSim.call, OfflineBufferSim.push, obCall, obPush, simOf,
        Ring.toList_push, Ring.length_toList]
  | pop out => simp only [OfflineBufferSim.call, obCall, simOf_obDropFront, hpeek]
  | peek out => simp only [OfflineBufferSim.call, obCall, hpeek]
  | dropFront => simp only [OfflineBufferSim.call, obCall, simOf_obDropFront]
  | count => simp only [OfflineBufferSim.call, obCall, hcount]
  | isEmpty =>
      have hempty : (simOf b).isEmpty = (obCount b == 0) := isEmpty_toList b
      simp only [OfflineBufferSim.call, obCall, hempty]

/-! ## The statics are the ring -/

/-- The statics hold the fields of the ring. -/
structure ObStatics.Holds (s : ObStatics) (b : OfflineBuffer) : Prop where
  buf : s.buf = b.slots
  head : s.head = b.head
  tail : s.tail = b.tail
  count : s.count = b.count

theorem obIndex_natCast {n : Nat} (h : n < obCapacity) : obIndex n = some ⟨n, h⟩ := by
  have hint : (0 : Int) ≤ n ∧ (n : Int) < obCapacity := by omega
  rw [obIndex, dif_pos hint]
  rfl

theorem obNext_natCast (n : Nat) : obNext n = ((n + 1) % obCapacity : Nat) := by
  unfold obNext
  rw [← Int.natCast_succ, Int.ofNat_tmod]

theorem holds_advance {s : ObStatics} {b : OfflineBuffer} (h : s.Holds b) (hb : b.count ≠ 0) :
    ObStatics.Holds { s with head := obNext s.head, count := s.count - 1 } (b.advance hb) := by
  refine ⟨h.buf, ?_, h.tail, ?_⟩
  · show obNext s.head = _
    rw [h.head, obNext_natCast]
    rfl
  · show s.count - 1 = ((b.count - 1 : Nat) : Int)
    rw [h.count]
    omega

theorem append_holds {s : ObStatics} {b : OfflineBuffer} (h : s.Holds b) (hb : b.count < obCapacity)
    (data : TelemetryData) : ∃ s', s.append data = some s' ∧ s'.Holds (b.append data hb) := by
  have hwrite : s.append data =
      some { s with
        buf := Function.update s.buf ⟨b.tail, b.tail_lt⟩ data
        tail := obNext s.tail
        count := s.count + 1 } := by
    rw [ObStatics.append, h.tail, obIndex_natCast b.tail_lt]
    rfl
  refine ⟨_, hwrite, ?buf, h.head, ?tail, ?count⟩
  case buf =>
    funext j
    show Function.update s.buf _ data j = if j.val = b.tail then data else b.slots j
    rw [h.buf, Function.update_apply]
    simp only [Fin.ext_iff]
  case tail =>
    show obNext s.tail = _
    rw [h.tail, obNext_natCast]
    rfl
  case count =>
    show s.count + 1 = ((b.count + 1 : Nat) : Int)
    rw [h.count]
    omega

theorem obPush_holds {s : ObStatics} {b : OfflineBuffer} (h : s.Holds b) (data : TelemetryData) :
    ∃ s', s.obPush data = some (s', true) ∧ s'.Holds (obPush data b) := by
  unfold ObStatics.obPush ObStatics.makeRoom obPush Ring.push
  by_cases hfull : b.count = obCapacity
  · -- the ring that has made room has room
    have hs : s.count = obCapacity := by rw [h.count, hfull]
    have hadv := holds_advance h (Ring.count_ne_zero_of_full hfull)
    obtain ⟨s', hs', hholds⟩ := append_holds hadv (Ring.advance_count_lt _) data
    rw [if_pos hs, dif_pos hfull, hs']
    exact ⟨s', rfl, hholds⟩
  · have hs : s.count ≠ obCapacity := by
      rw [h.count]
      omega
    obtain ⟨s', hs', hholds⟩ := append_holds h (Nat.lt_of_le_of_ne b.count_le hfull) data
    rw [if_neg hs, dif_neg hfull, hs']
    exact ⟨s', rfl, hholds⟩

theorem obDropFront_holds {s : ObStatics} {b : OfflineBuffer} (h : s.Holds b) :
    s.obDropFront.1.Holds (obDropFront b) ∧ s.obDropFront.2 = (obCount b != 0) := by
  unfold ObStatics.obDropFront obDropFront Ring.dropFront obCount
  by_cases hb : b.count = 0
  · have hs : s.count = 0 := by rw [h.count, hb]; rfl
    rw [if_pos hs, dif_pos hb, hb]
    exact ⟨h, rfl⟩
  · have hs : s.count ≠ 0 := by rw [h.count]; omega
    rw [if_neg hs, dif_neg hb]
    exact ⟨holds_advance h hb, by simpa using hb⟩

theorem obPeek_holds {s : ObStatics} {b : OfflineBuffer} (h : s.Holds b) (out : TelemetryData) :
    s.obPeek out = some ((obPeek b).isSome, (obPeek b).getD out) := by
  unfold ObStatics.obPeek obPeek Ring.peek
  by_cases hb : b.count = 0
  · have hs : s.count = 0 := by rw [h.count, hb]; rfl
    rw [if_pos hs, if_pos hb]
    rfl
  · have hs : s.count ≠ 0 := by rw [h.count]; omega
    rw [if_neg hs, if_neg hb, h.head, obIndex_natCast b.head_lt, h.buf]
    rfl

/-- `ob_pop` reads what `ob_peek` reads and drops what `ob_drop_front` drops. -/
theorem obPop_eq (s : ObStatics) (out : TelemetryData) :
    s.obPop out = (s.obPeek out).map fun (b, out) => (s.obDropFront.1, b, out) := by
  unfold ObStatics.obPop ObStatics.obPeek ObStatics.obDropFront
  by_cases hs : s.count = 0
  · simp [hs]
  · simp only [if_neg hs, Option.map_map]
    rfl

/-- **The statics refine the ring**, call by call, and no call reaches outside the array. -/
theorem call_holds {s : ObStatics} {b : OfflineBuffer} (h : s.Holds b) (c : ObCall) :
    ∃ s', s.call c = some (s', (obCall b c).2) ∧ s'.Holds (obCall b c).1 := by
  cases c with
  | reset => exact ⟨s.obReset, rfl, h.buf, rfl, rfl, rfl⟩
  | push data =>
      obtain ⟨s', hs', hholds⟩ := obPush_holds h data
      refine ⟨s', ?_, hholds⟩
      rw [ObStatics.call, hs']
      rfl
  | pop out =>
      -- the peek has the answer, the drop the state
      refine ⟨s.obDropFront.1, ?_, (obDropFront_holds h).1⟩
      rw [ObStatics.call, obPop_eq, obPeek_holds h]
      rfl
  | peek out =>
      refine ⟨s, ?_, h⟩
      rw [ObStatics.call, obPeek_holds h]
      rfl
  | dropFront =>
      refine ⟨s.obDropFront.1, ?_, (obDropFront_holds h).1⟩
      rw [ObStatics.call, (obDropFront_holds h).2]
      rfl
  | count =>
      refine ⟨s, ?_, h⟩
      rw [ObStatics.call, ObStatics.obCount, h.count]
      rfl
  | isEmpty =>
      refine ⟨s, ?_, h⟩
      have hempty : s.obIsEmpty = (obCount b == 0) := by
        rw [ObStatics.obIsEmpty, h.count, Bool.eq_iff_iff, beq_iff_eq, beq_iff_eq]
        exact Int.natCast_eq_zero
      rw [ObStatics.call, hempty]
      rfl

theorem calls_holds {s : ObStatics} {b : OfflineBuffer} (h : s.Holds b) (cs : List ObCall) :
    ∃ s', s.calls cs = some (s', outputs obCall b cs) ∧ s'.Holds (stateAfter obCall b cs) := by
  induction cs generalizing s b with
  | nil => exact ⟨s, rfl, h⟩
  | cons c cs ih =>
      obtain ⟨s₁, hcall, h₁⟩ := call_holds h c
      obtain ⟨s₂, hcalls, h₂⟩ := ih h₁
      refine ⟨s₂, ?_, h₂⟩
      rw [ObStatics.calls, hcall, Option.bind_some]
      simp only [hcalls]
      rfl

/-! ## The statics against the list -/

/-- **The offline buffer is a bounded drop-oldest queue.** Every sequence of calls from boot stays
inside the array and gets, call by call, the answers of the list. -/
theorem offlineBuffer_refines_sim (cs : List ObCall) :
    ∃ s, ObStatics.booted.calls cs = some (s, outputs OfflineBufferSim.call ⟨obCapacity, []⟩ cs) ∧
      (0 ≤ s.head ∧ s.head < obCapacity) ∧ (0 ≤ s.tail ∧ s.tail < obCapacity) := by
  have hbooted : ObStatics.booted.Holds obBooted := ⟨rfl, rfl, rfl, rfl⟩
  obtain ⟨s, hs, hholds⟩ := calls_holds hbooted cs
  have hsim : outputs obCall obBooted cs = outputs OfflineBufferSim.call (simOf obBooted) cs := by
    refine outputs_eq_of_simulation (R := fun b t => t = simOf b) ?_ rfl cs
    rintro b t c rfl
    rw [obCall_simOf]
    exact ⟨rfl, rfl⟩
  refine ⟨s, ?_, ?_, ?_⟩
  · rw [hs, hsim]
    rfl
  · rw [hholds.head]
    have hlt := (stateAfter obCall obBooted cs).head_lt
    omega
  · rw [hholds.tail]
    have hlt := (stateAfter obCall obBooted cs).tail_lt
    omega

end TfnAks.Uplink
