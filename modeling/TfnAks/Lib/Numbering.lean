/-
# TfnAks.Lib.Numbering — consecutive numbers over a run

A machine writes lines, each made from a record and the number the machine counts at. If every step
numbers its lines from the count it finds and leaves the count behind its last one, the lines of a
whole run are numbered without a gap and without a repetition (`gather_numbered`), however many
lines the steps write, none included.
-/
import Mathlib.Data.Nat.Notation
import TfnAks.Lib.Runs

namespace TfnAks.Lib.Numbering

open TfnAks.Lib.Runs

section NumberedFrom

variable {ρ β : Type*} (line : ℕ → ρ → β)

/-- The lines of `records`, with consecutive numbers from `k` on. -/
def numberedFrom (k : ℕ) (records : List ρ) : List β := records.mapIdx fun i r => line (k + i) r

@[simp] theorem numberedFrom_nil (k : ℕ) : numberedFrom line k [] = [] := rfl

@[simp] theorem length_numberedFrom (k : ℕ) (records : List ρ) :
    (numberedFrom line k records).length = records.length :=
  List.length_mapIdx

/-- The second part goes on where the first one stopped. -/
theorem numberedFrom_append (k : ℕ) (rs rs' : List ρ) :
    numberedFrom line k (rs ++ rs') =
      numberedFrom line k rs ++ numberedFrom line (k + rs.length) rs' := by
  unfold numberedFrom
  rw [List.mapIdx_append]
  congr 2
  funext i r
  rw [Nat.add_assoc, Nat.add_comm i]

theorem getElem?_numberedFrom (k i : ℕ) (records : List ρ) :
    (numberedFrom line k records)[i]? = records[i]?.map (line (k + i)) :=
  List.getElem?_mapIdx

theorem map_numberedFrom {γ : Type*} (f : β → γ) (k : ℕ) (records : List ρ) :
    (numberedFrom line k records).map f = numberedFrom (fun k r => f (line k r)) k records := by
  apply List.ext_getElem?
  intro i
  rw [List.getElem?_map, getElem?_numberedFrom, getElem?_numberedFrom, Option.map_map]
  rfl

theorem numberedFrom_map {γ : Type*} (g : γ → ρ) (k : ℕ) (records : List γ) :
    numberedFrom line k (records.map g) = numberedFrom (fun k r => line k (g r)) k records := by
  apply List.ext_getElem?
  intro i
  rw [getElem?_numberedFrom, getElem?_numberedFrom, List.getElem?_map, Option.map_map]
  rfl

/-- Only the records that are there matter. -/
theorem numberedFrom_congr {line line' : ℕ → ρ → β} {k : ℕ} {records : List ρ}
    (h : ∀ k, ∀ r ∈ records, line k r = line' k r) :
    numberedFrom line k records = numberedFrom line' k records := by
  apply List.ext_getElem?
  intro i
  rw [getElem?_numberedFrom, getElem?_numberedFrom]
  cases hr : records[i]? with
  | none => rfl
  | some r => exact congrArg some (h _ r (List.mem_of_getElem? hr))

end NumberedFrom

section Runs

variable {σ α ρ β : Type*} {step : σ → α → σ} {line : ℕ → ρ → β} {records : σ → α → List ρ}
  {lines : σ → α → List β} {I : ℕ → σ → Prop}

/-- **The numbers of a run.** `I k` says that the machine counts at `k`. -/
theorem gather_numbered
    (hstep : ∀ k s a, I k s → lines s a = numberedFrom line k (records s a) ∧
      I (k + (records s a).length) (step s a))
    {k : ℕ} {s : σ} (hs : I k s) (as : List α) :
    gather step lines s as = numberedFrom line k (gather step records s as) ∧
      I (k + (gather step records s as).length) (exec step s as) := by
  induction as generalizing k s with
  | nil => exact ⟨rfl, hs⟩
  | cons a as ih =>
      obtain ⟨hlines, hnext⟩ := hstep k s a hs
      obtain ⟨hrest, hlast⟩ := ih hnext
      rw [gather_cons, gather_cons, exec_cons, List.length_append, numberedFrom_append, hlines,
        hrest, ← Nat.add_assoc]
      exact ⟨rfl, hlast⟩

end Runs

end TfnAks.Lib.Numbering
