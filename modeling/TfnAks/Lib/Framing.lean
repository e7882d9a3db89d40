/-
# TfnAks.Lib.Framing — messages closed by an end mark

A stream is a sequence of messages, each followed by the end mark: `k` times the symbol `m`, which
no message contains. A reader collects symbols until it has seen the mark. It gets every message
back, however the stream is cut on its way (`read_frames`); and a reader that comes in late,
anywhere in the stream, misreads one message at most (`read_late`).
-/
import Mathlib.Data.List.Infix
import TfnAks.Lib.Mealy

namespace TfnAks.Lib.Framing

open TfnAks.Lib.Mealy

variable {α : Type*}

/-- A message with its end mark. -/
def frame (m : α) (k : ℕ) (body : List α) : List α := body ++ List.replicate k m

/-- The messages of a stream, one after the other. -/
def frames (m : α) (k : ℕ) (bodies : List (List α)) : List α := bodies.flatMap (frame m k)

/-- What a reader has of the message it is in: its symbols, and how many marks it has seen since. -/
structure Reader (α : Type*) where
  body : List α
  run : ℕ
  deriving DecidableEq

/-- Between two messages. -/
def Reader.start : Reader α := ⟨[], 0⟩

variable [DecidableEq α] (m : α) (k : ℕ)

/-- One symbol; the answer is a message that is complete with it. -/
def Reader.step (r : Reader α) (a : α) : Reader α × Option (List α) :=
  if a = m then
    if r.run + 1 = k then (.start, some r.body) else (⟨r.body, r.run + 1⟩, none)
  else (⟨r.body ++ List.replicate r.run m ++ [a], 0⟩, none)

/-- The messages a reader gets from a stream. -/
def read (r : Reader α) (stream : List α) : List (List α) :=
  (outputs (Reader.step m k) r stream).filterMap id

/-- The reader after a stream. -/
def readerAfter (r : Reader α) (stream : List α) : Reader α :=
  stateAfter (Reader.step m k) r stream

theorem read_append (r : Reader α) (stream more : List α) :
    read m k r (stream ++ more) = read m k r stream ++ read m k (readerAfter m k r stream) more := by
  unfold read readerAfter
  rw [outputs_append, List.filterMap_append]

theorem readerAfter_append (r : Reader α) (stream more : List α) :
    readerAfter m k r (stream ++ more) = readerAfter m k (readerAfter m k r stream) more :=
  stateAfter_append _ r stream more

/-- A stream that is read in chunks gives the same messages. -/
theorem read_chunks (r : Reader α) (chunks : List (List α)) :
    ((chunkOutputs (Reader.step m k) r chunks).flatten).filterMap id = read m k r chunks.flatten := by
  rw [flatten_chunkOutputs]
  rfl

section Parts

variable {m k}

/-- Inside a message nothing is complete. -/
theorem read_body {body : List α} (hbody : m ∉ body) (r : Reader α) (hrun : r.run = 0) :
    read m k r body = [] ∧ readerAfter m k r body = ⟨r.body ++ body, 0⟩ := by
  induction body generalizing r with
  | nil =>
      rw [List.append_nil, ← hrun]
      exact ⟨rfl, rfl⟩
  | cons a body ih =>
      rw [List.mem_cons, not_or] at hbody
      have hstep : Reader.step m k r a = (⟨r.body ++ [a], 0⟩, none) := by
        rw [Reader.step, if_neg (Ne.symm hbody.1), hrun, List.replicate_zero, List.append_nil]
      obtain ⟨hread, hafter⟩ := ih hbody.2 ⟨r.body ++ [a], 0⟩ rfl
      have hcons : read m k r (a :: body) = read m k ⟨r.body ++ [a], 0⟩ body := by
        simp only [read, outputs_cons, hstep, List.filterMap_cons, id]
      have hlater : readerAfter m k r (a :: body) = readerAfter m k ⟨r.body ++ [a], 0⟩ body := by
        simp only [readerAfter, stateAfter_cons, hstep]
      rw [hcons, hlater, hread, hafter, List.append_assoc]
      exact ⟨rfl, rfl⟩

/-- The end mark completes the message. Induction on the symbols of the mark still to come. -/
theorem read_mark {n : ℕ} (r : Reader α) (hn : r.run + n = k) (hpos : 0 < n) :
    read m k r (List.replicate n m) = [r.body] ∧
      readerAfter m k r (List.replicate n m) = .start := by
  induction n generalizing r with
  | zero => exact absurd hpos (Nat.lt_irrefl 0)
  | succ n ih =>
      rw [List.replicate_succ]
      by_cases hlast : r.run + 1 = k
      · obtain rfl : n = 0 := by omega
        have hstep : Reader.step m k r m = (.start, some r.body) := by
          rw [Reader.step, if_pos rfl, if_pos hlast]
        simp [read, readerAfter, hstep]
      · have hstep : Reader.step m k r m = (⟨r.body, r.run + 1⟩, none) := by
          rw [Reader.step, if_pos rfl, if_neg hlast]
        obtain ⟨hread, hafter⟩ := ih ⟨r.body, r.run + 1⟩ (show r.run + 1 + n = k by omega) (by omega)
        constructor
        · simpa only [read, outputs_cons, hstep, List.filterMap_cons, id] using hread
        · simpa only [readerAfter, stateAfter_cons, hstep] using hafter

theorem read_frame (hk : 0 < k) {body : List α} (hbody : m ∉ body) (r : Reader α) (hrun : r.run = 0) :
    read m k r (frame m k body) = [r.body ++ body] ∧
      readerAfter m k r (frame m k body) = .start := by
  obtain ⟨hnone, hcollected⟩ := read_body (k := k) hbody r hrun
  obtain ⟨hone, hstart⟩ := read_mark (m := m) (n := k) ⟨r.body ++ body, 0⟩ (Nat.zero_add k) hk
  rw [frame, read_append, readerAfter_append, hcollected, hnone, hone, hstart]
  exact ⟨rfl, rfl⟩

/-- **A reader gets every message back**, and has nothing left over. -/
theorem read_frames (hk : 0 < k) {bodies : List (List α)} (h : ∀ body ∈ bodies, m ∉ body) :
    read m k .start (frames m k bodies) = bodies ∧
      readerAfter m k .start (frames m k bodies) = .start := by
  induction bodies with
  | nil => exact ⟨rfl, rfl⟩
  | cons body bodies ih =>
      rw [List.forall_mem_cons] at h
      obtain ⟨hread, hafter⟩ := read_frame hk h.1 .start rfl
      obtain ⟨ihread, ihafter⟩ := ih h.2
      rw [frames, List.flatMap_cons, read_append, readerAfter_append, hread, hafter]
      exact ⟨congrArg (body :: ·) ihread, ihafter⟩

end Parts

/-- With an end mark of one symbol each of them completes a message. -/
theorem length_read_one (r : Reader α) (hrun : r.run = 0) (stream : List α) :
    (read m 1 r stream).length = stream.count m := by
  induction stream generalizing r with
  | nil => rfl
  | cons a stream ih =>
      by_cases ha : a = m
      · subst ha
        have hstep : Reader.step a 1 r a = (.start, some r.body) := by
          rw [Reader.step, if_pos rfl, if_pos (by omega)]
        have hlater := ih .start rfl
        simp only [read, outputs_cons, hstep, List.filterMap_cons, id] at hlater ⊢
        rw [List.length_cons, hlater, List.count_cons_self]
      · have hstep : Reader.step m 1 r a = (⟨r.body ++ List.replicate r.run m ++ [a], 0⟩, none) := by
          rw [Reader.step, if_neg ha]
        have hlater := ih ⟨r.body ++ List.replicate r.run m ++ [a], 0⟩ rfl
        simp only [read, outputs_cons, hstep, List.filterMap_cons, id] at hlater ⊢
        rw [hlater, List.count_cons_of_ne ha]

/-! ## A reader that comes in late -/

section Late

variable {m k}

/-- From any state the next message is read, perhaps with symbols that are not its own, and then the
reader is in step. -/
theorem read_frame_any (hk : 0 < k) {body : List α} (hbody : m ∉ body) (hne : body ≠ [])
    (r : Reader α) :
    ∃ first, read m k r (frame m k body) = [first] ∧
      readerAfter m k r (frame m k body) = .start := by
  obtain ⟨a, body, rfl⟩ := List.exists_cons_of_ne_nil hne
  rw [List.mem_cons, not_or] at hbody
  have hstep : Reader.step m k r a = (⟨r.body ++ List.replicate r.run m ++ [a], 0⟩, none) := by
    rw [Reader.step, if_neg (Ne.symm hbody.1)]
  obtain ⟨hread, hafter⟩ := read_frame hk hbody.2
    (⟨r.body ++ List.replicate r.run m ++ [a], 0⟩ : Reader α) rfl
  refine ⟨r.body ++ List.replicate r.run m ++ [a] ++ body, ?_, ?_⟩
  · simpa only [frame, List.cons_append, read, outputs_cons, hstep, List.filterMap_cons, id] using
      hread
  · simpa only [frame, List.cons_append, readerAfter, stateAfter_cons, hstep] using hafter

/-- A piece of the mark completes nothing. -/
theorem read_piece {n : ℕ} (r : Reader α) (hn : r.run + n < k) :
    read m k r (List.replicate n m) = [] ∧
      readerAfter m k r (List.replicate n m) = ⟨r.body, r.run + n⟩ := by
  induction n generalizing r with
  | zero => exact ⟨rfl, rfl⟩
  | succ n ih =>
      have hstep : Reader.step m k r m = (⟨r.body, r.run + 1⟩, none) := by
        rw [Reader.step, if_pos rfl, if_neg (by omega)]
      obtain ⟨hread, hafter⟩ := ih ⟨r.body, r.run + 1⟩ (show r.run + 1 + n < k by omega)
      rw [List.replicate_succ]
      constructor
      · simpa only [read, outputs_cons, hstep, List.filterMap_cons, id] using hread
      · simp only [readerAfter, stateAfter_cons, hstep] at hafter ⊢
        rw [hafter]
        congr 1
        omega

omit [DecidableEq α] in
/-- What is left of a message, from anywhere in it: an end of its body with the mark, or a piece of
the mark. -/
theorem suffix_frame_cases {body rest : List α} (hrest : rest <:+ frame m k body) :
    (∃ tail, tail <:+ body ∧ rest = frame m k tail) ∨ ∃ n < k, rest = List.replicate n m := by
  rcases List.suffix_or_suffix_of_suffix hrest (List.suffix_append body (List.replicate k m)) with
    h | h
  · obtain ⟨hlen, hall⟩ := List.suffix_replicate_iff.mp h
    rcases Nat.lt_or_eq_of_le hlen with hlt | heq
    · exact Or.inr ⟨rest.length, hlt, hall⟩
    · refine Or.inl ⟨[], List.nil_suffix, ?_⟩
      rw [hall, heq]
      rfl
  · obtain ⟨tail, rfl⟩ := h
    obtain ⟨pre, hpre⟩ := hrest
    rw [frame, ← List.append_assoc] at hpre
    exact Or.inl ⟨tail, ⟨pre, List.append_cancel_right hpre⟩, rfl⟩

omit [DecidableEq α] in
theorem frames_cons (body : List α) (bodies : List (List α)) :
    frames m k (body :: bodies) = frame m k body ++ frames m k bodies := List.flatMap_cons

omit [DecidableEq α] in
/-- Messages that lie in a piece shorter than the stream leave the first one out. -/
theorem suffix_of_frames_suffix {body : List α} {bodies rest : List (List α)} {late : List α}
    (hrest : rest <:+ body :: bodies) (hlate : frames m k rest <:+ late)
    (hshort : late.length < (frames m k (body :: bodies)).length) : rest <:+ bodies := by
  rcases List.suffix_cons_iff.mp hrest with rfl | h
  · exact absurd hlate.length_le (Nat.not_le_of_lt hshort)
  · exact h

omit [DecidableEq α] in
theorem tail_suffix_of_suffix_cons {body : List α} {bodies rest : List (List α)}
    (h : rest <:+ body :: bodies) : rest.tail <:+ bodies := by
  rcases List.suffix_cons_iff.mp h with rfl | h
  · exact List.suffix_rfl
  · exact (List.tail_suffix rest).trans h

/-- **A reader that comes in late**, anywhere in the stream, misreads one message at most and gets
every later one: of the messages that lie wholly in what it hears it misses none but the first. -/
theorem read_late (hk : 0 < k) {bodies : List (List α)} (h : ∀ body ∈ bodies, m ∉ body ∧ body ≠ [])
    {late : List α} (hlate : late <:+ frames m k bodies) :
    ∃ first later, read m k .start late = first ++ later ∧ first.length ≤ 1 ∧ later <:+ bodies ∧
      ∀ rest, rest <:+ bodies → frames m k rest <:+ late → rest.tail <:+ later := by
  induction bodies with
  | nil =>
      obtain rfl : late = [] := List.suffix_nil.mp hlate
      refine ⟨[], [], rfl, Nat.zero_le 1, List.suffix_rfl, fun rest hrest _ => ?_⟩
      exact (List.tail_suffix rest).trans hrest
  | cons body bodies ih =>
      rw [List.forall_mem_cons] at h
      have hframe : 0 < (frame m k body).length := by
        rw [frame, List.length_append, List.length_replicate]
        omega
      rw [frames_cons] at hlate
      obtain ⟨hall, hstart⟩ := read_frames (m := m) hk fun b hb => (h.2 b hb).1
      rcases List.suffix_or_suffix_of_suffix hlate (List.suffix_append _ (frames m k bodies)) with
        hs | hs
      · obtain ⟨first, later, hread, hfirst, hlater, hgets⟩ := ih h.2 hs
        refine ⟨first, later, hread, hfirst, hlater.trans (List.suffix_cons body bodies),
          fun rest hrest hlies => hgets rest (suffix_of_frames_suffix hrest hlies ?_) hlies⟩
        have hle := hs.length_le
        rw [frames_cons, List.length_append]
        omega
      · obtain ⟨rest, rfl⟩ := hs
        obtain ⟨pre, hpre⟩ := hlate
        rw [← List.append_assoc] at hpre
        rw [read_append]
        rcases suffix_frame_cases ⟨pre, List.append_cancel_right hpre⟩ with
          ⟨tail, htail, rfl⟩ | ⟨n, hn, rfl⟩
        · have hbody : m ∉ tail := fun hmem => h.1.1 (htail.subset hmem)
          obtain ⟨hread, hafter⟩ := read_frame (m := m) hk hbody .start rfl
          rw [hread, hafter, hall]
          exact ⟨[tail], bodies, rfl, Nat.le_refl 1, List.suffix_cons body bodies,
            fun rest hrest _ => tail_suffix_of_suffix_cons hrest⟩
        · obtain ⟨hread, hafter⟩ := read_piece (m := m) (k := k) (n := n) .start
            (show 0 + n < k by omega)
          rw [hread, hafter, List.nil_append]
          have hshort : (List.replicate n m ++ frames m k bodies).length <
              (frames m k (body :: bodies)).length := by
            have hpos := List.length_pos_iff.mpr h.1.2
            simp only [frames_cons, frame, List.length_append, List.length_replicate]
            omega
          -- the marks that are missing make the next message unreadable
          cases bodies with
          | nil =>
              refine ⟨[], [], rfl, Nat.zero_le 1, List.nil_suffix, fun rest hrest hlies => ?_⟩
              exact (List.tail_suffix rest).trans (suffix_of_frames_suffix hrest hlies hshort)
          | cons next bodies =>
              rw [List.forall_mem_cons] at h
              obtain ⟨first, hfirst, hafter⟩ := read_frame_any hk h.2.1.1 h.2.1.2
                (⟨Reader.start.body, Reader.start.run + n⟩ : Reader α)
              have hlater := (read_frames (m := m) hk fun b hb => (h.2.2 b hb).1).1
              rw [frames_cons, read_append, hfirst, hafter]
              refine ⟨[first], bodies, congrArg ([first] ++ ·) hlater, Nat.le_refl 1,
                (List.suffix_cons next bodies).trans (List.suffix_cons body _), ?_⟩
              intro rest hrest hlies
              rw [← frames_cons] at hlies
              exact tail_suffix_of_suffix_cons (suffix_of_frames_suffix hrest hlies hshort)

end Late

end TfnAks.Lib.Framing
