/-
# TfnAks.Uplink.RoundTrip — decoding undoes encoding

`build_tel_line` of `tools/e2e/contract.py` formats a dictionary of values with `%d` throughout,
where `sendStatus` uses `%u`, `%d` and `%ld` on fields of different types. On the values of a record
both give the same line, and the receiver's rules take that line back to the values.
-/
import TfnAks.Uplink.FrameContract

namespace TfnAks.Uplink

open TfnAks.Lib.Decimal

/-- `build_tel_line`; `%d` of a Python integer is its decimal text with a minus sign if negative. -/
def buildTelLine (f : UksField → Int) : List Char :=
  List.intercalate [',']
    [ ['T', 'E', 'L']
    , signed (f .ver), signed (f .seq), signed (f .rpm), signed (f .torque), signed (f .motorErr)
    , signed (f .motorValid), signed (f .motorTimeout), signed (f .cellVmax), signed (f .cellVmin)
    , signed (f .tempH), signed (f .tempL), signed (f .sysState), signed (f .packV)
    , signed (f .current), signed (f .soc), signed (f .bmsValid), signed (f .tsMs)
    , signed (f .spdX10) ] ++ ['\r', '\n']

/-- The two formats agree on the values of a record. -/
theorem telText_eq_buildTelLine (seq : UInt32) (d : TelemetryData) :
    telText seq d = buildTelLine (valueOf (frameValues seq d)) := rfl

/-- The dictionary has one entry for each key, in the order of the format string. -/
theorem frameValues_keys (seq : UInt32) (d : TelemetryData) :
    (frameValues seq d).map Prod.fst = fieldOrder := rfl

/-- The line a started object writes when the UART takes it. -/
theorem Telemetry.sendStatus_telText {t : Telemetry} (ht : t.telIsInitialized = true) {written : Int}
    (hw : 0 ≤ written) (d : TelemetryData) :
    (t.sendStatus written d).2 = some (telText t.telSequenceCounter d) := by
  rw [t.sendStatus_of_initialized ht, if_neg (Int.not_lt.mpr hw), telPayload_eq]

/-- **The round trip.** The line of a sanitised record with a plausible motor speed and a clamped
vehicle speed fits its buffer, is the contract's line for the same values, and is decoded to these
values, with the protocol version and the sequence number it was sent under. -/
theorem telemetry_round_trip {d : TelemetryData} (hrpm : d.telMotorRpm ≤ 20000)
    (hspd : d.telSpeedKmhX10 ≤ 3000) (seq : UInt32) :
    (telText seq (sanitizeForUplink d)).length < telPayloadSize ∧
      (∀ (t : Telemetry) (written : Int), t.telIsInitialized = true → t.telSequenceCounter = seq →
        0 ≤ written →
          (t.sendStatus written (sanitizeForUplink d)).2 =
            some (telText seq (sanitizeForUplink d))) ∧
      telText seq (sanitizeForUplink d) =
        buildTelLine (valueOf (frameValues seq (sanitizeForUplink d))) ∧
      parseUksFrame (telText seq (sanitizeForUplink d)) =
        .ok (frameValues seq (sanitizeForUplink d)) ∧
      valueOf (frameValues seq (sanitizeForUplink d)) .ver = 2 ∧
      valueOf (frameValues seq (sanitizeForUplink d)) .seq = seq.toNat := by
  have hranges : UksRanges (sanitizeForUplink d) :=
    sanitizeForUplink_ranges (UInt16.le_iff_toNat_le.mp hspd)
  have hplausible : ¬ telRpmMax < ((sanitizeForUplink d).telMotorRpm.toNat : Int) := by
    have hle : d.telMotorRpm.toNat ≤ 20000 := UInt16.le_iff_toNat_le.mp hrpm
    show ¬ (20000 : Int) < (d.telMotorRpm.toNat : Int)
    omega
  refine ⟨length_telText_lt _ _, ?_, telText_eq_buildTelLine _ _, ?_, rfl, rfl⟩
  · rintro t written ht rfl hw
    exact t.sendStatus_telText ht hw _
  · rw [← telPayload_eq, parseUksFrame_telPayload hranges, if_neg hplausible]

/-- The round trip at a record with negative values and out-of-range raw ones. -/
theorem telemetry_round_trip_extreme :
    parseUksFrame (telText 7 (sanitizeForUplink
      { TelemetryData.zero with
        telMotorRpm := 20000
        telMotorTorqueFeedback := -32768
        telBmsCurrentCentiMa := Int32.minValue
        telBmsSocHundredths := 65535
        telSpeedKmhX10 := 3000 })) =
      .ok (frameValues 7
        { TelemetryData.zero with
          telMotorRpm := 20000
          telMotorTorqueFeedback := -32768
          telBmsSystemState := 4
          telBmsCurrentCentiMa := Int32.minValue + 1
          telBmsSocHundredths := 10000
          telSpeedKmhX10 := 3000 }) :=
  (telemetry_round_trip (by decide) (by decide) 7).2.2.2.1

end TfnAks.Uplink
