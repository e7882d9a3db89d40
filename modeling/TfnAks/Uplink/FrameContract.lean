/-
# TfnAks.Uplink.FrameContract — the line of a record under the rules of the ground unit

A record whose values the receiver allows is formatted to a line that the receiver takes apart into
the same values (`mapM_telFields`); what is left is its check of the version, and of the motor
speed, which is narrower than the range of the field (`accepted_telPayload_iff`).
-/
import TfnAks.Telemetry.Sanitize
import TfnAks.Uplink.Telemetry
import TfnAks.Uplink.UksFrame

namespace TfnAks.Uplink

open TfnAks.Lib.Decimal

/-- The line is not rejected. -/
def Accepted (line : List Char) : Prop := ∃ values, parseUksFrame line = .ok values

/-- The values of a record in the receiver's terms. -/
def frameValues (seq : UInt32) (d : TelemetryData) : List (UksField × Int) :=
  [ (.ver, loraProtocolVersion)
  , (.seq, seq.toNat)
  , (.rpm, d.telMotorRpm.toNat)
  , (.torque, d.telMotorTorqueFeedback.toInt)
  , (.motorErr, d.telMotorErrorFlags.toNat)
  , (.motorValid, flag d.telMotorDataValid)
  , (.motorTimeout, flag d.telMotorTimeoutActive)
  , (.cellVmax, d.telBmsCellVoltageMaxDeciMv.toNat)
  , (.cellVmin, d.telBmsCellVoltageMinDeciMv.toNat)
  , (.tempH, d.telBmsTempHighestC.toInt)
  , (.tempL, d.telBmsTempLowestC.toInt)
  , (.sysState, d.telBmsSystemState.toNat)
  , (.packV, d.telBmsPackVoltageDeciV.toNat)
  , (.current, d.telBmsCurrentCentiMa.toInt)
  , (.soc, d.telBmsSocHundredths.toNat)
  , (.bmsValid, flag d.telBmsDataValid)
  , (.tsMs, d.telTimestampMs.toNat)
  , (.spdX10, d.telSpeedKmhX10.toNat) ]

/-- The fields whose range at the receiver is narrower than their C type are in it. The motor speed
is not among them: its range is that of the type. -/
structure UksRanges (d : TelemetryData) : Prop where
  sysState_pos : 1 ≤ d.telBmsSystemState.toNat
  sysState_le : d.telBmsSystemState.toNat ≤ 4
  current_gt : -2147483647 ≤ d.telBmsCurrentCentiMa.toInt
  soc_le : d.telBmsSocHundredths.toNat ≤ 10000
  spd_le : d.telSpeedKmhX10.toNat ≤ telSpdX10Max

/-! ## Sanitised records -/

theorem sanitizeSystemState_range (raw : UInt8) :
    1 ≤ (sanitizeSystemState raw).toNat ∧ (sanitizeSystemState raw).toNat ≤ 4 := by
  rw [sanitizeSystemState]
  split
  · rename_i h
    exact ⟨UInt8.le_iff_toNat_le.mp h.1, UInt8.le_iff_toNat_le.mp h.2⟩
  · decide

theorem sanitizeSoc_le (raw : UInt16) : (sanitizeSoc raw).toNat ≤ 10000 := by
  rw [sanitizeSoc]
  split
  · decide
  · rename_i h
    exact UInt16.le_iff_toNat_le.mp (UInt16.not_lt.mp h)

theorem sanitizeCurrent_gt (raw : Int32) : -2147483647 ≤ (sanitizeCurrent raw).toInt := by
  rw [sanitizeCurrent]
  split
  · decide
  · rename_i h
    have hne : raw.toInt ≠ Int32.minValue.toInt := mt Int32.toInt_inj.mp h
    have hge : Int32.minValue.toInt ≤ raw.toInt := raw.minValue_le_toInt
    have hmin : Int32.minValue.toInt = -2147483648 := by decide
    omega

/-- **What sanitising is for.** With a clamped speed, a sanitised record is in the ranges. -/
theorem sanitizeForUplink_ranges {d : TelemetryData}
    (hspd : d.telSpeedKmhX10.toNat ≤ telSpdX10Max) : UksRanges (sanitizeForUplink d) where
  sysState_pos := (sanitizeSystemState_range _).1
  sysState_le := (sanitizeSystemState_range _).2
  current_gt := sanitizeCurrent_gt _
  soc_le := sanitizeSoc_le _
  spd_le := hspd

/-! ## Taking the line apart -/

theorem flag_le_one (b : Bool) : flag b ≤ 1 := by
  cases b <;> decide

theorem mapM_telFields {d : TelemetryData} (h : UksRanges d) (seq : UInt32) :
    (fieldOrder.zip (telFields seq d)).mapM parseField = .ok (frameValues seq d) := by
  have unsigned : ∀ {f : UksField} {n hi : Nat}, (fieldRanges f).1 = 0 →
      (fieldRanges f).2 = hi → n ≤ hi → parseField (f, digits n) = .ok (f, (n : Int)) := by
    intro f n hi hlo hhi hn
    apply parseField_digits
    · omega
    · omega
  apply mapM_parseField
  -- one entry for each field of the format string, in order
  refine .cons (unsigned rfl rfl (by decide)) <|
    .cons (unsigned rfl rfl (Nat.le_of_lt_succ seq.toNat_lt)) <|
    .cons (unsigned rfl rfl (Nat.le_of_lt_succ d.telMotorRpm.toNat_lt)) <|
    .cons (parseField_signed (by decide) ?torqueLo ?torqueHi) <|
    .cons (unsigned rfl rfl (Nat.le_of_lt_succ d.telMotorErrorFlags.toNat_lt)) <|
    .cons (unsigned rfl rfl (flag_le_one _)) <|
    .cons (unsigned rfl rfl (flag_le_one _)) <|
    .cons (unsigned rfl rfl (Nat.le_of_lt_succ d.telBmsCellVoltageMaxDeciMv.toNat_lt)) <|
    .cons (unsigned rfl rfl (Nat.le_of_lt_succ d.telBmsCellVoltageMinDeciMv.toNat_lt)) <|
    .cons (parseField_signed (by decide) ?tempHLo ?tempHHi) <|
    .cons (parseField_signed (by decide) ?tempLLo ?tempLHi) <|
    .cons (parseField_digits ?sysLo ?sysHi) <|
    .cons (unsigned rfl rfl (Nat.le_of_lt_succ d.telBmsPackVoltageDeciV.toNat_lt)) <|
    .cons (parseField_signed (by decide) h.current_gt ?currentHi) <|
    .cons (unsigned rfl rfl h.soc_le) <|
    .cons (unsigned rfl rfl (flag_le_one _)) <|
    .cons (unsigned rfl rfl (Nat.le_of_lt_succ d.telTimestampMs.toNat_lt)) <|
    .cons (unsigned rfl rfl h.spd_le) .nil
  case torqueLo => exact d.telMotorTorqueFeedback.le_toInt
  case torqueHi => exact Int.le_of_lt_add_one d.telMotorTorqueFeedback.toInt_lt
  case tempHLo => exact d.telBmsTempHighestC.le_toInt
  case tempHHi => exact Int.le_of_lt_add_one d.telBmsTempHighestC.toInt_lt
  case tempLLo => exact d.telBmsTempLowestC.le_toInt
  case tempLHi => exact Int.le_of_lt_add_one d.telBmsTempLowestC.toInt_lt
  case sysLo => exact Int.ofNat_le.mpr h.sysState_pos
  case sysHi => exact Int.ofNat_le.mpr h.sysState_le
  case currentHi => exact Int.le_of_lt_add_one d.telBmsCurrentCentiMa.toInt_lt

/-- A field is a decimal number: it has no comma and no line end. -/
theorem isDigit_or_minus_of_mem_telFields {seq : UInt32} {d : TelemetryData} {tok : List Char}
    (htok : tok ∈ telFields seq d) {c : Char} (hc : c ∈ tok) : c = '-' ∨ c.isDigit = true := by
  have hnumber : (∃ n, tok = digits n) ∨ ∃ z, tok = signed z := by
    simp only [telFields, List.mem_cons, List.not_mem_nil, or_false] at htok
    rcases htok with h | h | h | h | h | h | h | h | h | h | h | h | h | h | h | h | h | h <;>
      first | exact Or.inl ⟨_, h⟩ | exact Or.inr ⟨_, h⟩
  rcases hnumber with ⟨n, rfl⟩ | ⟨z, rfl⟩
  · exact Or.inr (isDigit_of_mem_digits hc)
  · exact mem_signed hc

/-- The fields of a line with its tag. -/
theorem not_mem_tel_fields {seq : UInt32} {d : TelemetryData} {tok : List Char}
    (htok : tok ∈ ['T', 'E', 'L'] :: telFields seq d) {c : Char}
    (hc : c ∉ ['T', 'E', 'L', '-']) (hdigit : c.isDigit = false) : c ∉ tok := by
  intro hmem
  rcases List.mem_cons.mp htok with rfl | htok
  · exact hc (List.mem_append_left ['-'] hmem)
  · rcases isDigit_or_minus_of_mem_telFields htok hmem with rfl | h
    · exact hc (by decide)
    · rw [hdigit] at h
      exact Bool.noConfusion h

theorem rdropWhile_telText (seq : UInt32) (d : TelemetryData) :
    (telText seq d).rdropWhile (fun c => c == '\r' || c == '\n') =
      List.intercalate [','] (['T', 'E', 'L'] :: telFields seq d) := by
  have hsplit : telText seq d =
      (List.intercalate [','] (['T', 'E', 'L'] :: telFields seq d) ++ ['\r']) ++ ['\n'] := by
    rw [List.append_assoc]
    rfl
  rw [hsplit, List.rdropWhile_concat_pos _ _ _ (by decide),
    List.rdropWhile_concat_pos _ _ _ (by decide), List.rdropWhile_eq_self_iff]
  intro hne hend
  -- the last character would be one of a field or a comma
  have hmem := List.getLast_mem hne
  have hlast : (List.intercalate [','] (['T', 'E', 'L'] :: telFields seq d)).getLast hne = '\r' ∨
      (List.intercalate [','] (['T', 'E', 'L'] :: telFields seq d)).getLast hne = '\n' := by
    simpa using hend
  rcases hlast with heq | heq <;> rw [heq] at hmem <;>
    rcases mem_of_mem_intercalate hmem with hc | ⟨tok, htok, hc⟩
  · exact absurd hc (by decide)
  · exact not_mem_tel_fields htok (by decide) (by decide) hc
  · exact absurd hc (by decide)
  · exact not_mem_tel_fields htok (by decide) (by decide) hc

/-- Between the commas are the tag and the eighteen fields. -/
theorem splitOn_telText (seq : UInt32) (d : TelemetryData) :
    ((telText seq d).rdropWhile (fun c => c == '\r' || c == '\n')).splitOn ',' =
      ['T', 'E', 'L'] :: telFields seq d := by
  rw [rdropWhile_telText]
  exact List.splitOn_intercalate ','
    (fun tok htok => not_mem_tel_fields htok (by decide) (by decide)) (List.cons_ne_nil _ _)

/-- The receiver finds the tag and the eighteen fields. -/
theorem parseUksFrame_telText (seq : UInt32) (d : TelemetryData) :
    parseUksFrame (telText seq d) =
      ((fieldOrder.zip (telFields seq d)).mapM parseField).bind checkValues := by
  have hcount : (['T', 'E', 'L'] :: telFields seq d).length = tokenCount := rfl
  simp only [parseUksFrame, splitOn_telText, hcount, ne_eq, not_true_eq_false, if_false,
    List.head?_cons, List.tail_cons]

/-! ## The buffer is long enough -/

theorem length_telText_lt (seq : UInt32) (d : TelemetryData) :
    (telText seq d).length < telPayloadSize := by
  -- the longest spelling of each type of a field
  have h8 : ∀ x : UInt8, (digits x.toNat).length ≤ 3 := fun x =>
    length_digits_le (by decide) (x.toNat_lt.trans (by decide))
  have h16 : ∀ x : UInt16, (digits x.toNat).length ≤ 5 := fun x =>
    length_digits_le (by decide) (x.toNat_lt.trans (by decide))
  have h32 : ∀ x : UInt32, (digits x.toNat).length ≤ 10 := fun x =>
    length_digits_le (by decide) (x.toNat_lt.trans (by decide))
  have hflag : ∀ b : Bool, (digits (flag b)).length ≤ 1 := fun b =>
    length_digits_le (by decide) (Nat.lt_of_le_of_lt (flag_le_one b) (by decide))
  have hs8 : ∀ x : Int8, (signed x.toInt).length ≤ 4 := fun x =>
    length_signed_le (k := 3) (by decide) (by have := x.toInt_lt; have := x.le_toInt; omega)
  have hs16 : ∀ x : Int16, (signed x.toInt).length ≤ 6 := fun x =>
    length_signed_le (k := 5) (by decide) (by have := x.toInt_lt; have := x.le_toInt; omega)
  have hs32 : ∀ x : Int32, (signed x.toInt).length ≤ 11 := fun x =>
    length_signed_le (k := 10) (by decide) (by have := x.toInt_lt; have := x.le_toInt; omega)
  have hver : (digits loraProtocolVersion).length = 1 := by decide
  have hline : (List.intercalate [','] (['T', 'E', 'L'] :: telFields seq d)).length ≤ _ :=
    length_intercalate_le _
  have hseq := h32 seq
  have hrpm := h16 d.telMotorRpm
  have htorque := hs16 d.telMotorTorqueFeedback
  have herr := h8 d.telMotorErrorFlags
  have hmotor := hflag d.telMotorDataValid
  have htimeout := hflag d.telMotorTimeoutActive
  have hmax := h16 d.telBmsCellVoltageMaxDeciMv
  have hmin := h16 d.telBmsCellVoltageMinDeciMv
  have htempH := hs8 d.telBmsTempHighestC
  have htempL := hs8 d.telBmsTempLowestC
  have hsys := h8 d.telBmsSystemState
  have hpack := h16 d.telBmsPackVoltageDeciV
  have hcurrent := hs32 d.telBmsCurrentCentiMa
  have hsoc := h16 d.telBmsSocHundredths
  have hbms := hflag d.telBmsDataValid
  have hts := h32 d.telTimestampMs
  have hspd := h16 d.telSpeedKmhX10
  simp only [telFields, List.map_cons, List.map_nil, List.sum_cons, List.sum_nil, List.length_cons,
    List.length_nil] at hline
  simp only [telText, telFields, telPayloadSize, List.length_append, List.length_cons,
    List.length_nil]
  omega

/-- `snprintf` cuts nothing off. -/
theorem telPayload_eq (seq : UInt32) (d : TelemetryData) : telPayload seq d = telText seq d :=
  List.take_of_length_le (Nat.le_sub_one_of_lt (length_telText_lt seq d))

/-! ## Acceptance -/

/-- The receiver's answer to the line of a record in the ranges. -/
theorem parseUksFrame_telPayload {d : TelemetryData} (h : UksRanges d) (seq : UInt32) :
    parseUksFrame (telPayload seq d) =
      if telRpmMax < (d.telMotorRpm.toNat : Int) then .error .rangeFail
      else .ok (frameValues seq d) := by
  rw [telPayload_eq, parseUksFrame_telText, mapM_telFields h]
  rfl

/-- A record in the ranges is accepted exactly when its motor speed is plausible. -/
theorem accepted_telPayload_iff {d : TelemetryData} (h : UksRanges d) (seq : UInt32) :
    Accepted (telPayload seq d) ↔ (d.telMotorRpm.toNat : Int) ≤ telRpmMax := by
  rw [Accepted, parseUksFrame_telPayload h]
  by_cases hrpm : telRpmMax < (d.telMotorRpm.toNat : Int)
  · rw [if_pos hrpm]
    refine iff_of_false ?_ (Int.not_le.mpr hrpm)
    rintro ⟨values, hv⟩
    cases hv
  · rw [if_neg hrpm]
    exact iff_of_true ⟨_, rfl⟩ (Int.not_lt.mp hrpm)

end TfnAks.Uplink
