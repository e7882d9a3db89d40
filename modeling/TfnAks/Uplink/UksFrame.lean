/-
# TfnAks.Uplink.UksFrame — the rules of the ground unit

`parse_uks_frame` of `tools/e2e/contract.py`, which restates the receiver's `Decode_Line`. The
dictionary of the values is an association list in the order in which the loop fills it.

The definitions are the Python code on a `PlainLine`: ASCII, so that `str.isdigit` is
`Char.isDigit`, and no token with more than 4300 digits, where `int` raises ValueError. Every line
the firmware writes is one (`telLine`).
-/
import Mathlib.Data.List.DropRight
import TfnAks.Lib.Decimal
import TfnAks.SystemConfig

namespace TfnAks.Uplink

open TfnAks.Lib.Decimal

/-- The keys of `FIELD_RANGES`. -/
inductive UksField where
  | ver
  | seq
  | rpm
  | torque
  | motorErr
  | motorValid
  | motorTimeout
  | cellVmax
  | cellVmin
  | tempH
  | tempL
  | sysState
  | packV
  | current
  | soc
  | bmsValid
  | tsMs
  | spdX10
  deriving DecidableEq, Repr

/-- `UksRejection` by its `reason`. -/
inductive UksRejection where
  | parseFail
  | badTag
  | badVersion
  | rangeFail
  deriving DecidableEq, Repr

/-- The tag and the eighteen fields. -/
def tokenCount : Nat := 19

/-- The version the receiver takes. -/
def uksVer : Int := 2

/-- The highest motor speed the receiver takes. -/
def telRpmMax : Int := 20000

/-- The fields of a line behind the tag. -/
def fieldOrder : List UksField :=
  [.ver, .seq, .rpm, .torque, .motorErr, .motorValid, .motorTimeout, .cellVmax, .cellVmin, .tempH,
    .tempL, .sysState, .packV, .current, .soc, .bmsValid, .tsMs, .spdX10]

/-- Smallest and greatest value, both allowed. -/
def fieldRanges : UksField → Int × Int
  | .ver => (0, 255)
  | .seq => (0, 4294967295)
  | .rpm => (0, 65535)
  | .torque => (-32768, 32767)
  | .motorErr => (0, 255)
  | .motorValid => (0, 1)
  | .motorTimeout => (0, 1)
  | .cellVmax => (0, 65535)
  | .cellVmin => (0, 65535)
  | .tempH => (-128, 127)
  | .tempL => (-128, 127)
  | .sysState => (1, 4)
  | .packV => (0, 65535)
  | .current => (-2147483647, 2147483647)
  | .soc => (0, 10000)
  | .bmsValid => (0, 1)
  | .tsMs => (0, 4294967295)
  | .spdX10 => (0, 3000)

/-- `_is_strict_int_token` of an ASCII token; `str.isdigit` itself takes the digits of other scripts
too. -/
def isStrictIntToken (tok : List Char) (allowSign : Bool) : Bool :=
  if tok = [] then false
  else
    let body :=
      if allowSign && (tok.head? = some '-' || tok.head? = some '+') then tok.tail else tok
    if body = [] then false else body.all Char.isDigit

/-- `int(tok)` of a token that is an optional sign and at most `intMaxStrDigits` ASCII digits. -/
def intOf : List Char → Int
  | '-' :: ds => -(value ds : Int)
  | '+' :: ds => value ds
  | ds => value ds

/-- The body of the loop over the fields. -/
def parseField (x : UksField × List Char) : Except UksRejection (UksField × Int) :=
  let lo := (fieldRanges x.1).1
  let hi := (fieldRanges x.1).2
  if !isStrictIntToken x.2 (lo < 0) then .error .parseFail
  else if intOf x.2 < lo ∨ hi < intOf x.2 then .error .parseFail
  else .ok (x.1, intOf x.2)

/-- `values[f]` of a key the loop has set. -/
def valueOf (values : List (UksField × Int)) (f : UksField) : Int := (values.lookup f).getD 0

/-- The two checks after the loop. -/
def checkValues (values : List (UksField × Int)) : Except UksRejection (List (UksField × Int)) :=
  if valueOf values .ver ≠ uksVer then .error .badVersion
  else if telRpmMax < valueOf values .rpm then .error .rangeFail
  else .ok values

/-- `parse_uks_frame` of the text of a `PlainLine`. -/
def parseUksFrame (line : List Char) : Except UksRejection (List (UksField × Int)) :=
  let raw := line.rdropWhile fun c => c == '\r' || c == '\n'
  let fields := raw.splitOn ','
  if fields.length ≠ tokenCount then .error .parseFail
  else if fields.head? ≠ some ['T', 'E', 'L'] then .error .badTag
  else ((fieldOrder.zip fields.tail).mapM parseField).bind checkValues

/-! ## Tokens -/

theorem isStrictIntToken_digits (n : Nat) (allowSign : Bool) :
    isStrictIntToken (digits n) allowSign = true := by
  have hdigit : ∀ c ∈ digits n, c.isDigit = true := fun c hc => isDigit_of_mem_digits hc
  have hne : digits n ≠ [] := digits_ne_nil n
  -- a digit is no sign, so the whole token is the body
  have hhead : ∀ c, c.isDigit = false → (digits n).head? ≠ some c := by
    intro c hc hh
    rw [hdigit c (List.mem_of_head? hh)] at hc
    exact Bool.noConfusion hc
  simp only [isStrictIntToken, if_neg hne, hhead '-' (by decide), hhead '+' (by decide),
    decide_false, Bool.or_false, Bool.and_false, Bool.false_eq_true, if_false, List.all_eq_true]
  exact hdigit

theorem intOf_digits (n : Nat) : intOf (digits n) = n := by
  have hdigit : ∀ c ∈ digits n, c.isDigit = true := fun c hc => isDigit_of_mem_digits hc
  have hvalue : (value (digits n) : Int) = n := congrArg Nat.cast (value_digits n)
  unfold intOf
  split
  · rename_i ds heq
    rw [heq] at hdigit
    exact absurd (hdigit '-' List.mem_cons_self) (by decide)
  · rename_i ds heq
    rw [heq] at hdigit
    exact absurd (hdigit '+' List.mem_cons_self) (by decide)
  · exact hvalue

theorem isStrictIntToken_signed (z : Int) : isStrictIntToken (signed z) true = true := by
  cases z with
  | ofNat n => exact isStrictIntToken_digits n true
  | negSucc n =>
      have hbody : (digits (n + 1)).all Char.isDigit = true :=
        List.all_eq_true.mpr fun c hc => isDigit_of_mem_digits hc
      show isStrictIntToken ('-' :: digits (n + 1)) true = true
      simp [isStrictIntToken, digits_ne_nil, hbody]

theorem intOf_signed (z : Int) : intOf (signed z) = z := by
  cases z with
  | ofNat n => exact intOf_digits n
  | negSucc n =>
      show -(value (digits (n + 1)) : Int) = Int.negSucc n
      rw [value_digits]
      rfl

/-- An unsigned value in its range is read as it was written. -/
theorem parseField_digits {f : UksField} {n : Nat} (hlo : (fieldRanges f).1 ≤ n)
    (hhi : n ≤ (fieldRanges f).2) : parseField (f, digits n) = .ok (f, (n : Int)) := by
  have hin : ¬ ((n : Int) < (fieldRanges f).1 ∨ (fieldRanges f).2 < n) := by omega
  simp only [parseField, isStrictIntToken_digits, intOf_digits, Bool.not_true, Bool.false_eq_true,
    if_false, if_neg hin]

/-- A signed value in its range is read as it was written. -/
theorem parseField_signed {f : UksField} {z : Int} (hneg : (fieldRanges f).1 < 0)
    (hlo : (fieldRanges f).1 ≤ z) (hhi : z ≤ (fieldRanges f).2) :
    parseField (f, signed z) = .ok (f, z) := by
  have hin : ¬ (z < (fieldRanges f).1 ∨ (fieldRanges f).2 < z) := by omega
  simp only [parseField, hneg, decide_true, isStrictIntToken_signed, intOf_signed, Bool.not_true,
    Bool.false_eq_true, if_false, if_neg hin]

/-- The loop over tokens that are all read. -/
theorem mapM_parseField {xs : List (UksField × List Char)} {vs : List (UksField × Int)}
    (h : List.Forall₂ (fun x v => parseField x = .ok v) xs vs) : xs.mapM parseField = .ok vs := by
  induction h with
  | nil => rfl
  | cons hx _ ih =>
      rw [List.mapM_cons, hx, ih]
      rfl

end TfnAks.Uplink
