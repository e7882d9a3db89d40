/-
# TfnAks.Lib.CText — text as the C and C++ libraries read it

What a program gets that takes text apart with input streams and `strtol`. A stream is the list of
the characters still in it.

* `getlines` is a loop over `std::getline`: the fields between delimiters, but for an empty one at
the end (`getlines_concat`, `getlines_of_getLast`). * `words` is a loop over `>>`: the maximal runs
of characters that are no white space. * `strtol` and `strtoul` without an end pointer: they skip
white space, take a sign, for base 16 a prefix, and as many digits as there are, none included, and
never look at the rest. A numeral that is nothing but digits is read as its value
(`Numeral.strtoul`, `Numeral.leadingInt`). * `hexText` is `%0kX`, of a number that fits
(`number_hexText`).

The width of C's `long` is a parameter.
-/
import Mathlib

namespace TfnAks.Lib.CText

/-! ## Streams -/

section Getline

variable {α : Type*} [DecidableEq α] (delim : α)

/-- One `std::getline`: the item before the next delimiter and the stream behind that; it fails on
an empty stream. -/
def getline (ss : List α) : Option (List α × List α) :=
  if ss = [] then none
  else some (ss.takeWhile (· ≠ delim), (ss.dropWhile (· ≠ delim)).tail)

theorem length_of_getline {ss item rest : List α} (h : getline delim ss = some (item, rest)) :
    rest.length < ss.length := by
  unfold getline at h
  split at h
  · cases h
  · rename_i hss
    obtain ⟨-, rfl⟩ := Prod.mk.inj (Option.some.inj h)
    have hpos : 0 < ss.length := List.length_pos_iff.mpr hss
    have hle : (ss.dropWhile (· ≠ delim)).length ≤ ss.length := (List.dropWhile_suffix _).length_le
    rw [List.length_tail]
    omega

/-- `while (std::getline(ss, item, delim))` -/
def getlines (ss : List α) : List (List α) :=
  match _h : getline delim ss with
  | none => []
  | some (item, rest) => item :: getlines rest
termination_by ss.length
decreasing_by exact length_of_getline delim _h

theorem getlines_of_getline {ss item rest : List α} (h : getline delim ss = some (item, rest)) :
    getlines delim ss = item :: getlines delim rest := by
  rw [getlines]
  split
  · rename_i hnone
    rw [h] at hnone
    cases hnone
  · rename_i heq
    rw [h] at heq
    cases heq
    rfl

@[simp] theorem getlines_nil : getlines delim [] = [] := by
  rw [getlines]
  rfl

theorem getlines_cons_self (ss : List α) :
    getlines delim (delim :: ss) = [] :: getlines delim ss := by
  have hline : getline delim (delim :: ss) = some ([], ss) := by
    rw [getline, if_neg (List.cons_ne_nil _ _)]
    simp
  exact getlines_of_getline delim hline

theorem getlines_singleton {c : α} (hc : c ≠ delim) : getlines delim [c] = [[c]] := by
  have hline : getline delim [c] = some ([c], []) := by
    rw [getline, if_neg (List.cons_ne_nil _ _)]
    simp [hc]
  rw [getlines_of_getline delim hline, getlines_nil]

/-- Any other character belongs to the item that begins the rest. -/
theorem getlines_cons_of_ne {c : α} (hc : c ≠ delim) {ss : List α} (hss : ss ≠ []) :
    getlines delim (c :: ss) = (getlines delim ss).modifyHead (c :: ·) := by
  have hline : getline delim ss =
      some (ss.takeWhile (· ≠ delim), (ss.dropWhile (· ≠ delim)).tail) := if_neg hss
  have hcons : getline delim (c :: ss) =
      some (c :: ss.takeWhile (· ≠ delim), (ss.dropWhile (· ≠ delim)).tail) := by
    rw [getline, if_neg (List.cons_ne_nil _ _)]
    simp [hc]
  rw [getlines_of_getline delim hline, getlines_of_getline delim hcons]
  rfl

/-- A delimiter at the end adds no field. -/
theorem getlines_concat (ss : List α) : getlines delim (ss ++ [delim]) = ss.splitOn delim := by
  induction ss with
  | nil => rw [List.nil_append, getlines_cons_self, getlines_nil, List.splitOn_nil]
  | cons c ss ih =>
      rw [List.cons_append, List.splitOn_cons_eq_if_modifyHead]
      by_cases hc : c = delim
      · rw [hc, getlines_cons_self, ih]
        simp
      · rw [getlines_cons_of_ne delim hc (by simp), ih]
        simp [hc]

/-- Without one, the fields are what stands between the delimiters. -/
theorem getlines_of_getLast {ss : List α} (hss : ss ≠ []) (hlast : ss.getLast? ≠ some delim) :
    getlines delim ss = ss.splitOn delim := by
  induction ss with
  | nil => exact absurd rfl hss
  | cons c ss ih =>
      cases ss with
      | nil =>
          have hc : c ≠ delim := fun heq => hlast (by rw [heq]; rfl)
          rw [getlines_singleton delim hc, List.splitOn_eq_singleton (by simpa using hc.symm)]
      | cons d ss =>
          rw [List.getLast?_cons_cons] at hlast
          have hrest := ih (List.cons_ne_nil d ss) hlast
          rw [List.splitOn_cons_eq_if_modifyHead]
          by_cases hc : c = delim
          · rw [hc, getlines_cons_self, hrest]
            simp
          · rw [getlines_cons_of_ne delim hc (List.cons_ne_nil d ss), hrest]
            simp [hc]

end Getline

section Words

variable {α : Type*} (isSep : α → Bool)

/-- One `>>` into a string: the word behind the separators and the stream behind the word; it fails
when there is no word. -/
def extract (ss : List α) : Option (List α × List α) :=
  let ss := ss.dropWhile isSep
  if ss.isEmpty then none else some (ss.takeWhile (!isSep ·), ss.dropWhile (!isSep ·))

/-- The maximal runs of characters that are no separators. -/
def words (ss : List α) : List (List α) := (ss.splitOnP isSep).filter (!·.isEmpty)

/-- What is left behind the dropped characters begins with one that is kept. -/
theorem exists_cons_of_dropWhile_ne_nil {p : α → Bool} {ss : List α} (h : ss.dropWhile p ≠ []) :
    ∃ c cs, ss.dropWhile p = c :: cs ∧ p c = false := by
  obtain ⟨c, cs, heq⟩ := List.exists_cons_of_ne_nil h
  refine ⟨c, cs, heq, ?_⟩
  have hhead := List.head?_dropWhile_not p ss
  rw [heq] at hhead
  simpa using hhead

theorem extract_cases {ss word rest : List α} (h : extract isSep ss = some (word, rest)) :
    ∃ c cs, ss.dropWhile isSep = c :: cs ∧ isSep c = false ∧
      word = c :: cs.takeWhile (!isSep ·) ∧ rest = cs.dropWhile (!isSep ·) := by
  unfold extract at h
  dsimp only at h
  split at h
  · cases h
  · rename_i hss
    rw [List.isEmpty_iff] at hss
    obtain ⟨c, cs, heq, hc⟩ := exists_cons_of_dropWhile_ne_nil hss
    obtain ⟨rfl, rfl⟩ := Prod.mk.inj (Option.some.inj h)
    refine ⟨c, cs, heq, hc, ?_, ?_⟩
    · rw [heq, List.takeWhile_cons_of_pos (by simp [hc])]
    · rw [heq, List.dropWhile_cons_of_pos (by simp [hc])]

theorem length_of_extract {ss word rest : List α} (h : extract isSep ss = some (word, rest)) :
    rest.length < ss.length := by
  obtain ⟨c, cs, heq, -, -, rfl⟩ := extract_cases isSep h
  have hle : (ss.dropWhile isSep).length ≤ ss.length := (List.dropWhile_suffix _).length_le
  have hrest : (cs.dropWhile (!isSep ·)).length ≤ cs.length := (List.dropWhile_suffix _).length_le
  rw [heq, List.length_cons] at hle
  omega

@[simp] theorem words_nil : words isSep ([] : List α) = [] := rfl

theorem words_cons_sep {c : α} (hc : isSep c = true) (ss : List α) :
    words isSep (c :: ss) = words isSep ss := by
  unfold words
  rw [List.splitOnP_cons_eq_if_modifyHead, if_pos hc]
  rfl

theorem words_dropWhile (ss : List α) : words isSep (ss.dropWhile isSep) = words isSep ss := by
  induction ss with
  | nil => rfl
  | cons c ss ih =>
      cases hc : isSep c with
      | true => rw [List.dropWhile_cons_of_pos hc, words_cons_sep isSep hc, ih]
      | false => rw [List.dropWhile_cons_of_neg (by simp [hc])]

theorem words_singleton {word : List α} (hword : ∀ c ∈ word, isSep c = false) (hne : word ≠ []) :
    words isSep word = [word] := by
  unfold words
  rw [List.splitOnP_eq_singleton hword]
  exact List.filter_cons_of_pos (by simpa using hne)

theorem words_append_cons {word : List α} (hword : ∀ c ∈ word, isSep c = false) (hne : word ≠ [])
    {c : α} (hc : isSep c = true) (rest : List α) :
    words isSep (word ++ c :: rest) = word :: words isSep (c :: rest) := by
  rw [words_cons_sep isSep hc]
  unfold words
  rw [List.splitOnP_append_cons_of_forall_mem hword c hc]
  exact List.filter_cons_of_pos (by simpa using hne)

theorem words_of_extract_none {ss : List α} (h : extract isSep ss = none) : words isSep ss = [] := by
  rw [← words_dropWhile]
  unfold extract at h
  dsimp only at h
  split at h
  · rename_i hnil
    rw [List.isEmpty_iff.mp hnil]
    rfl
  · cases h

/-- **A loop over `>>` takes the words.** -/
theorem words_of_extract {ss word rest : List α} (h : extract isSep ss = some (word, rest)) :
    words isSep ss = word :: words isSep rest := by
  obtain ⟨c, cs, heq, hc, hword, hrest⟩ := extract_cases isSep h
  rw [← words_dropWhile, heq]
  have hsplit : c :: cs = word ++ rest := by
    rw [hword, hrest, List.cons_append, List.takeWhile_append_dropWhile]
  have hne : word ≠ [] := by
    rw [hword]
    exact List.cons_ne_nil _ _
  have hkept : ∀ d ∈ word, isSep d = false := by
    intro d hd
    rw [hword] at hd
    rcases List.mem_cons.mp hd with rfl | hd
    · exact hc
    · simpa using List.mem_takeWhile_imp hd
  rw [hsplit]
  by_cases hend : rest = []
  · rw [hend, List.append_nil, words_singleton isSep hkept hne, words_nil]
  · rw [hrest] at hend
    obtain ⟨d, ds, hds, hd⟩ := exists_cons_of_dropWhile_ne_nil hend
    rw [← hrest] at hds
    rw [hds]
    exact words_append_cons isSep hkept hne (by simpa using hd) ds

end Words

/-! ## Numbers -/

/-- `isspace` of the C locale. -/
def isSpace (c : Char) : Bool := c.toNat = 32 || (9 ≤ c.toNat && c.toNat ≤ 13)

/-- The value of a digit in the bases up to 36. -/
def digitValue (c : Char) : Option ℕ :=
  if 48 ≤ c.toNat ∧ c.toNat ≤ 57 then some (c.toNat - 48)
  else if 97 ≤ c.toNat ∧ c.toNat ≤ 122 then some (c.toNat - 97 + 10)
  else if 65 ≤ c.toNat ∧ c.toNat ≤ 90 then some (c.toNat - 65 + 10)
  else none

/-- A digit of the base. -/
def isDigit (base : ℕ) (c : Char) : Bool := (digitValue c).any (· < base)

/-- The value of a string of digits. -/
def number (base : ℕ) (ds : List Char) : ℕ :=
  ds.foldl (fun n c => base * n + (digitValue c).getD 0) 0

/-- Behind the white space: the sign, and the text after it. -/
def sign : List Char → Bool × List Char
  | '-' :: s => (true, s)
  | '+' :: s => (false, s)
  | s => (false, s)

/-- `0x` in front of a hexadecimal digit. -/
def dropPrefix (base : ℕ) : List Char → List Char
  | '0' :: x :: c :: s =>
    if base = 16 ∧ (x = 'x' ∨ x = 'X') ∧ isDigit 16 c = true then c :: s else '0' :: x :: c :: s
  | s => s

/-- What `strtol` converts: whether there is a minus, and the digits. -/
def subject (base : ℕ) (s : List Char) : Bool × List Char :=
  let (negative, s) := sign (s.dropWhile isSpace)
  (negative, (dropPrefix base s).takeWhile (isDigit base))

/-- The number `s` begins with, 0 if it begins with none. -/
def leadingInt (base : ℕ) (s : List Char) : ℤ :=
  let (negative, ds) := subject base s
  if negative then -(number base ds : ℤ) else number base ds

/-- The two widths of C's `long`. -/
inductive LongWidth where
  | bits32
  | bits64
  deriving DecidableEq

/-- The bits of a `long`. -/
def LongWidth.bits : LongWidth → ℕ
  | .bits32 => 32
  | .bits64 => 64

/-- `strtol(s, nullptr, base)`: the leading number, moved into the range of `long`. -/
def strtol (w : LongWidth) (base : ℕ) (s : List Char) : ℤ :=
  max (-2 ^ (w.bits - 1)) (min (2 ^ (w.bits - 1) - 1) (leadingInt base s))

/-- `strtoul(s, nullptr, base)`: `ULONG_MAX` for too many digits, else a minus wraps around. -/
def strtoul (w : LongWidth) (base : ℕ) (s : List Char) : ℕ :=
  let (negative, ds) := subject base s
  if 2 ^ w.bits ≤ number base ds then 2 ^ w.bits - 1
  else if negative then (2 ^ w.bits - number base ds) % 2 ^ w.bits
  else number base ds

/-- A numeral: digits and nothing else. -/
structure Numeral (base : ℕ) (ds : List Char) (v : ℕ) : Prop where
  ne_nil : ds ≠ []
  digits : ∀ c ∈ ds, isDigit base c = true
  value : number base ds = v

theorem le_toNat_of_isDigit {base : ℕ} {c : Char} (h : isDigit base c = true) : 48 ≤ c.toNat := by
  by_contra hlt
  have hnone : digitValue c = none := by
    unfold digitValue
    rw [if_neg (by omega), if_neg (by omega), if_neg (by omega)]
  rw [isDigit, hnone] at h
  cases h

theorem isSpace_of_isDigit {base : ℕ} {c : Char} (h : isDigit base c = true) : isSpace c = false := by
  have hle := le_toNat_of_isDigit h
  simp only [isSpace, Bool.or_eq_false_iff, Bool.and_eq_false_iff, decide_eq_false_iff_not]
  omega

theorem sign_of_isDigit {base : ℕ} {c : Char} (h : isDigit base c = true) (s : List Char) :
    sign (c :: s) = (false, c :: s) := by
  have hle := le_toNat_of_isDigit h
  unfold sign
  split
  · rename_i heq
    obtain ⟨rfl, -⟩ := List.cons.inj heq
    exact absurd hle (by decide)
  · rename_i heq
    obtain ⟨rfl, -⟩ := List.cons.inj heq
    exact absurd hle (by decide)
  · rfl

/-- Of digits nothing is taken for a prefix: `x` is none. -/
theorem dropPrefix_of_digits {base : ℕ} {ds : List Char} (h : ∀ c ∈ ds, isDigit base c = true) :
    dropPrefix base ds = ds := by
  unfold dropPrefix
  split
  · rename_i x c s
    refine if_neg ?_
    rintro ⟨rfl, hx, -⟩
    have hdigit := h x (by simp)
    rcases hx with rfl | rfl <;> exact absurd hdigit (by decide)
  · rfl

theorem subject_of_digits {base : ℕ} {ds : List Char} (hne : ds ≠ [])
    (h : ∀ c ∈ ds, isDigit base c = true) : subject base ds = (false, ds) := by
  obtain ⟨c, cs, rfl⟩ := List.exists_cons_of_ne_nil hne
  have hc : isDigit base c = true := h c List.mem_cons_self
  have hspace : (c :: cs).dropWhile isSpace = c :: cs :=
    List.dropWhile_cons_of_neg (by rw [isSpace_of_isDigit hc]; exact Bool.false_ne_true)
  rw [subject, hspace, sign_of_isDigit hc]
  dsimp only
  rw [dropPrefix_of_digits h, List.takeWhile_eq_self_iff.mpr h]

/-- A prefix in front of the digits changes nothing. -/
theorem subject_prefixed {x : Char} (hx : x = 'x' ∨ x = 'X') {ds : List Char} (hne : ds ≠ [])
    (h : ∀ c ∈ ds, isDigit 16 c = true) : subject 16 ('0' :: x :: ds) = (false, ds) := by
  obtain ⟨c, cs, rfl⟩ := List.exists_cons_of_ne_nil hne
  have hzero : isDigit 16 '0' = true := by decide
  have hc : isDigit 16 c = true := h c List.mem_cons_self
  have hspace : ('0' :: x :: c :: cs).dropWhile isSpace = '0' :: x :: c :: cs :=
    List.dropWhile_cons_of_neg (by decide)
  rw [subject, hspace, sign_of_isDigit hzero]
  dsimp only
  rw [dropPrefix, if_pos ⟨rfl, hx, hc⟩, List.takeWhile_eq_self_iff.mpr h]

theorem Numeral.leadingInt {base : ℕ} {ds : List Char} {v : ℕ} (h : Numeral base ds v) :
    leadingInt base ds = v := by
  rw [CText.leadingInt, subject_of_digits h.ne_nil h.digits]
  exact congrArg Nat.cast h.value

theorem strtoul_of_subject {w : LongWidth} {base : ℕ} {s ds : List Char} {v : ℕ}
    (hsubject : subject base s = (false, ds)) (hvalue : number base ds = v) (hv : v < 2 ^ 32) :
    strtoul w base s = v := by
  have hwidth : 2 ^ 32 ≤ 2 ^ w.bits := by cases w <;> decide
  rw [strtoul, hsubject]
  dsimp only
  rw [hvalue, if_neg (by omega)]
  exact if_neg Bool.false_ne_true

theorem Numeral.strtoul {w : LongWidth} {base : ℕ} {ds : List Char} {v : ℕ}
    (h : Numeral base ds v) (hv : v < 2 ^ 32) : strtoul w base ds = v :=
  strtoul_of_subject (subject_of_digits h.ne_nil h.digits) h.value hv

/-- `%0kX`: the last `k` hexadecimal digits of a number, in capitals. -/
def hexText : ℕ → ℕ → List Char
  | 0, _ => []
  | k + 1, n => hexText k (n / 16) ++ [(Nat.digitChar (n % 16)).toUpper]

@[simp] theorem length_hexText (k n : ℕ) : (hexText k n).length = k := by
  induction k generalizing n with
  | zero => rfl
  | succ k ih => rw [hexText, List.length_append, ih, List.length_singleton]

theorem digitValue_hexDigit {d : ℕ} (hd : d < 16) :
    digitValue (Nat.digitChar d).toUpper = some d := by
  have hall : ∀ d < 16, digitValue (Nat.digitChar d).toUpper = some d := by decide
  exact hall d hd

/-- The digits are read back as the number, if they are enough for it. -/
theorem number_hexText {k n : ℕ} (hn : n < 16 ^ k) : number 16 (hexText k n) = n := by
  induction k generalizing n with
  | zero =>
      have hzero : n = 0 := by simpa using hn
      rw [hzero]
      rfl
  | succ k ih =>
      have hfront : n / 16 < 16 ^ k := by
        rw [Nat.div_lt_iff_lt_mul (by decide), ← Nat.pow_succ]
        exact hn
      have hlast : n % 16 < 16 := Nat.mod_lt n (by decide)
      have hread := ih hfront
      unfold number at hread ⊢
      rw [hexText, List.foldl_append, hread, List.foldl_cons, List.foldl_nil,
        digitValue_hexDigit hlast]
      exact Nat.div_add_mod n 16

/-- Clamping moves no number that is small in either width. -/
theorem strtol_eq_iff {w : LongWidth} {base : ℕ} {s : List Char} {k : ℤ} (hk : 0 ≤ k)
    (hk' : k < 2 ^ 31 - 1) : strtol w base s = k ↔ leadingInt base s = k := by
  have hwidth : (2 : ℤ) ^ 31 ≤ 2 ^ (w.bits - 1) := by cases w <;> decide
  rw [strtol]
  omega

end TfnAks.Lib.CText
