/-
# TfnAks.Lib.Decimal — decimal text

`%u` and `%d` of the C formatter as lists of characters: how long they get, which characters they
have (all of them are ASCII), that the number can be read back, and that other digits of a number
only add zeros in front. The last section is about a line of such texts with a separator between
them; Mathlib's `List.splitOn_intercalate` takes the line apart again.
-/
import Mathlib

namespace TfnAks.Lib.Decimal

/-- `%u` -/
def digits (n : Nat) : List Char := Nat.toDigits 10 n

/-- `%d` -/
def signed : Int → List Char
  | .ofNat n => digits n
  | .negSucc n => '-' :: digits (n + 1)

/-- The number a list of digits stands for. -/
def value (cs : List Char) : Nat := Nat.ofDigitChars 10 cs 0

@[simp] theorem value_digits (n : Nat) : value (digits n) = n := Nat.ofDigitChars_ten_toDigits

theorem digits_injective : Function.Injective digits :=
  Function.LeftInverse.injective value_digits

theorem digits_ne_nil (n : Nat) : digits n ≠ [] := Nat.toDigits_ne_nil

theorem isDigit_of_mem_digits {n : Nat} {c : Char} (h : c ∈ digits n) : c.isDigit = true :=
  Nat.isDigit_of_mem_toDigits (by decide) (by decide) h

theorem mem_signed {z : Int} {c : Char} (h : c ∈ signed z) : c = '-' ∨ c.isDigit = true := by
  cases z with
  | ofNat n => exact Or.inr (isDigit_of_mem_digits h)
  | negSucc n =>
      rcases List.mem_cons.mp h with hc | hc
      · exact Or.inl hc
      · exact Or.inr (isDigit_of_mem_digits hc)

theorem length_digits_le {n k : Nat} (hk : 0 < k) (h : n < 10 ^ k) : (digits n).length ≤ k :=
  (Nat.length_toDigits_le_iff (by decide) hk).mpr h

theorem length_signed_le {z : Int} {k : Nat} (hk : 0 < k) (h : z.natAbs < 10 ^ k) :
    (signed z).length ≤ k + 1 := by
  cases z with
  | ofNat n => exact Nat.le_succ_of_le (length_digits_le hk h)
  | negSucc n => exact Nat.succ_le_succ (length_digits_le hk h)

/-! ## Leading zeros -/

/-- Text that is one byte a character. -/
def IsAscii (text : List Char) : Prop := ∀ c ∈ text, c.toNat < 128

/-- The test that a fixed text is put to. -/
theorem isAscii_of_all {text : List Char} (h : (text.all fun c => decide (c.toNat < 128)) = true) :
    IsAscii text := fun c hc => of_decide_eq_true (List.all_eq_true.mp h c hc)

theorem isAscii_append {text more : List Char} (h : IsAscii text) (hmore : IsAscii more) :
    IsAscii (text ++ more) := by
  intro c hc
  rcases List.mem_append.mp hc with hc | hc
  · exact h c hc
  · exact hmore c hc

theorem isAscii_of_isDigit {c : Char} (h : c.isDigit = true) : c.toNat < 128 := by
  rw [Char.isDigit, Bool.and_eq_true, decide_eq_true_eq, decide_eq_true_eq] at h
  have hle : c.val.toNat ≤ 57 := UInt32.le_iff_toNat_le.mp h.2
  show c.val.toNat < 128
  omega

theorem isAscii_digits (n : Nat) : IsAscii (digits n) :=
  fun _ hc => isAscii_of_isDigit (isDigit_of_mem_digits hc)

theorem isAscii_signed (z : Int) : IsAscii (signed z) := by
  intro c hc
  rcases mem_signed hc with rfl | hdigit
  · decide
  · exact isAscii_of_isDigit hdigit

/-! ## Separated text -/

section Separated

variable {α : Type*} {sep : α}

theorem mem_of_mem_intercalate {c : α} {ls : List (List α)} (h : c ∈ [sep].intercalate ls) :
    c = sep ∨ ∃ l ∈ ls, c ∈ l := by
  induction ls with
  | nil => exact absurd h (List.not_mem_nil)
  | cons l ls ih =>
      by_cases hls : ls = []
      · subst hls
        rw [List.intercalate_singleton] at h
        exact Or.inr ⟨l, List.mem_singleton_self l, h⟩
      · rw [List.intercalate_cons_of_ne_nil hls, List.append_assoc, List.mem_append,
          List.mem_append, List.mem_singleton] at h
        rcases h with h | h | h
        · exact Or.inr ⟨l, List.mem_cons_self, h⟩
        · exact Or.inl h
        · rcases ih h with h | ⟨l', hl', hc⟩
          · exact Or.inl h
          · exact Or.inr ⟨l', List.mem_cons_of_mem l hl', hc⟩

/-- A line is at most as long as its fields with one separator each. -/
theorem length_intercalate_le (ls : List (List α)) :
    ([sep].intercalate ls).length ≤ (ls.map List.length).sum + ls.length := by
  induction ls with
  | nil => exact Nat.le_refl 0
  | cons l ls ih =>
      by_cases hls : ls = []
      · subst hls
        simp
      · rw [List.intercalate_cons_of_ne_nil hls]
        simp only [List.length_append, List.length_nil, List.map_cons, List.sum_cons,
          List.length_cons]
        omega

end Separated

end TfnAks.Lib.Decimal
