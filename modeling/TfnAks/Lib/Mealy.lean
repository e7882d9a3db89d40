/-
# TfnAks.Lib.Mealy — machines that answer each input symbol, and streams cut into chunks

A machine reads one symbol at a time and answers each: `step : σ → ι → σ × ω`. The state it is left
in after one chunk of a stream is the state it starts the next chunk in, so cutting the stream does
not change what it answers (`flatten_chunkOutputs`). The last section compares a reader that takes
the first item of each chunk with the whole stream.
-/
import Mathlib.Data.List.Induction

namespace TfnAks.Lib.Mealy

variable {σ ι ω : Type*} (step : σ → ι → σ × ω)

/-- The state after the symbols `is`. -/
def stateAfter (s : σ) (is : List ι) : σ := is.foldl (fun s i => (step s i).1) s

/-- The answers to the symbols `is`, one for each. -/
def outputs (s : σ) : List ι → List ω
  | [] => []
  | i :: is => (step s i).2 :: outputs (step s i).1 is

@[simp] theorem stateAfter_nil (s : σ) : stateAfter step s [] = s := rfl

@[simp] theorem stateAfter_cons (s : σ) (i : ι) (is : List ι) :
    stateAfter step s (i :: is) = stateAfter step (step s i).1 is := rfl

@[simp] theorem outputs_nil (s : σ) : outputs step s [] = [] := rfl

@[simp] theorem outputs_cons (s : σ) (i : ι) (is : List ι) :
    outputs step s (i :: is) = (step s i).2 :: outputs step (step s i).1 is := rfl

theorem outputs_append (s : σ) (is js : List ι) :
    outputs step s (is ++ js) = outputs step s is ++ outputs step (stateAfter step s is) js := by
  induction is generalizing s with
  | nil => rfl
  | cons i is ih =>
      rw [List.cons_append, outputs_cons, ih, outputs_cons, stateAfter_cons, List.cons_append]

theorem stateAfter_append (s : σ) (is js : List ι) :
    stateAfter step s (is ++ js) = stateAfter step (stateAfter step s is) js :=
  List.foldl_append

theorem stateAfter_concat (s : σ) (is : List ι) (i : ι) :
    stateAfter step s (is ++ [i]) = (step (stateAfter step s is) i).1 := by
  rw [stateAfter_append, stateAfter_cons, stateAfter_nil]

/-- The answer at one position is the answer to its symbol in the state the symbols before it
leave. -/
theorem getElem?_outputs (s : σ) (is : List ι) (n : ℕ) :
    (outputs step s is)[n]? = is[n]?.map fun i => (step (stateAfter step s (is.take n)) i).2 := by
  induction is generalizing s n with
  | nil => rfl
  | cons i is ih =>
      cases n with
      | zero => rfl
      | succ n => exact ih (step s i).1 n

/-- **History rule.** A relation between the state and the symbols read so far, the latest first,
that every symbol keeps holds after every stream. -/
theorem seen_stateAfter {R : σ → List ι → Prop} {s : σ} (hstart : R s [])
    (hstep : ∀ s past i, R s past → R (step s i).1 (i :: past)) (is : List ι) :
    R (stateAfter step s is) is.reverse := by
  induction is using List.reverseRecOn with
  | nil => exact hstart
  | append_singleton is i ih =>
      rw [stateAfter_concat, List.reverse_concat]
      exact hstep _ _ i ih

/-- **Simulation.** A relation that every input keeps, with the same answer on both sides, makes two
machines answer alike for ever. -/
theorem outputs_eq_of_simulation {τ : Type*} {step : σ → ι → σ × ω} {step' : τ → ι → τ × ω}
    {R : σ → τ → Prop}
    (hstep : ∀ s t i, R s t → R (step s i).1 (step' t i).1 ∧ (step s i).2 = (step' t i).2)
    {s : σ} {t : τ} (h : R s t) (is : List ι) : outputs step s is = outputs step' t is := by
  induction is generalizing s t with
  | nil => rfl
  | cons i is ih =>
      obtain ⟨hR, hout⟩ := hstep s t i h
      rw [outputs_cons, outputs_cons, hout, ih hR]

/-- The answers chunk by chunk, each chunk read from the state the one before it left. -/
def chunkOutputs (s : σ) : List (List ι) → List (List ω)
  | [] => []
  | c :: cs => outputs step s c :: chunkOutputs (stateAfter step s c) cs

@[simp] theorem chunkOutputs_nil (s : σ) : chunkOutputs step s [] = [] := rfl

@[simp] theorem chunkOutputs_cons (s : σ) (c : List ι) (cs : List (List ι)) :
    chunkOutputs step s (c :: cs) =
      outputs step s c :: chunkOutputs step (stateAfter step s c) cs := rfl

/-- **Cutting a stream does not change the answers.** -/
theorem flatten_chunkOutputs (s : σ) (cs : List (List ι)) :
    (chunkOutputs step s cs).flatten = outputs step s cs.flatten := by
  induction cs generalizing s with
  | nil => rfl
  | cons c cs ih =>
      rw [chunkOutputs_cons, List.flatten_cons, List.flatten_cons, outputs_append, ih]

/-! ## The first item of each chunk -/

variable {α : Type*}

@[simp] theorem filterMap_head?_nil_cons (ls : List (List α)) :
    ([] :: ls).filterMap List.head? = ls.filterMap List.head? := rfl

@[simp] theorem filterMap_head?_cons_cons (a : α) (l : List α) (ls : List (List α)) :
    ((a :: l) :: ls).filterMap List.head? = a :: ls.filterMap List.head? := rfl

theorem length_filterMap_head?_le (ls : List (List α)) :
    (ls.filterMap List.head?).length ≤ ls.flatten.length := by
  induction ls with
  | nil => exact Nat.le_refl 0
  | cons l ls ih =>
      rw [List.flatten_cons, List.length_append]
      cases l with
      | nil =>
          rw [filterMap_head?_nil_cons, List.length_nil]
          omega
      | cons a l =>
          rw [filterMap_head?_cons_cons, List.length_cons, List.length_cons]
          omega

/-- Taking the first item of each chunk misses nothing exactly when no chunk has two. -/
theorem filterMap_head?_eq_flatten_iff (ls : List (List α)) :
    ls.filterMap List.head? = ls.flatten ↔ ∀ l ∈ ls, l.length ≤ 1 := by
  induction ls with
  | nil => simp
  | cons l ls ih =>
      rw [List.forall_mem_cons, ← ih, List.flatten_cons]
      match l with
      | [] => simp
      | [a] => simp
      | a :: b :: l =>
          refine iff_of_false ?_ ?_
          · intro h
            have hlen := congrArg List.length h
            rw [filterMap_head?_cons_cons, List.length_cons, List.length_append,
              List.length_cons, List.length_cons] at hlen
            have hle := length_filterMap_head?_le ls
            omega
          · intro h
            have hlen := h.1
            simp at hlen

end TfnAks.Lib.Mealy
