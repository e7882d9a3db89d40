/-
# TfnAks.Telemetry.Sanitize — values the ground unit does not reject

`lib/Telemetry/TelemetrySanitize.h`. Three fields have a narrower range at the receiver than their C
type; `sanitizeForUplink` brings them into it and keeps the other fields.
-/
import TfnAks.Telemetry.Data

namespace TfnAks

/-- An unknown system state counts as FAULT (4). -/
def sanitizeSystemState (raw : UInt8) : UInt8 :=
  if 1 ≤ raw ∧ raw ≤ 4 then raw else 4

/-- 100 % at most. -/
def sanitizeSoc (raw : UInt16) : UInt16 :=
  if 10000 < raw then 10000 else raw

/-- `INT32_MIN` is the only value the receiver leaves out. -/
def sanitizeCurrent (raw : Int32) : Int32 :=
  if raw = Int32.minValue then Int32.minValue + 1 else raw

/-- The three fields whose values the receiver may refuse; the motor speed is not among them. -/
def sanitizeForUplink (raw : TelemetryData) : TelemetryData :=
  { raw with
    telBmsSystemState := sanitizeSystemState raw.telBmsSystemState
    telBmsSocHundredths := sanitizeSoc raw.telBmsSocHundredths
    telBmsCurrentCentiMa := sanitizeCurrent raw.telBmsCurrentCentiMa }

end TfnAks
