/-
# TfnAks.Uplink.Telemetry — one frame to the ground unit

The class of `lib/Telemetry/Telemetry.cpp`. `sendStatus` formats a record as a line of comma
separated fields and hands it to the UART. The result of `uart_write_bytes` is an argument; what
comes back besides the object is the text that reached the UART, `none` when there is none. The
driver is installed with a transmit ring, so the call gives -1 with nothing written or waits until
the whole text is in.
-/
import TfnAks.Lib.Decimal
import TfnAks.SystemConfig
import TfnAks.Telemetry.Data

namespace TfnAks.Uplink

open TfnAks.Lib.Decimal

/-- The members of the class. -/
structure Telemetry where
  telIsInitialized : Bool
  telSequenceCounter : UInt32
  deriving DecidableEq, Repr

/-- The constructor. -/
def Telemetry.new : Telemetry := ⟨false, 0⟩

/-- Starts the numbering at 0. -/
def Telemetry.begin (_t : Telemetry) : Telemetry := ⟨true, 0⟩

/-- A boolean as `1u` or `0u`. -/
def flag (b : Bool) : Nat := if b then 1 else 0

/-- The values of the format string after its tag, in order. -/
def telFields (seq : UInt32) (d : TelemetryData) : List (List Char) :=
  [ digits loraProtocolVersion
  , digits seq.toNat
  , digits d.telMotorRpm.toNat
  , signed d.telMotorTorqueFeedback.toInt
  , digits d.telMotorErrorFlags.toNat
  , digits (flag d.telMotorDataValid)
  , digits (flag d.telMotorTimeoutActive)
  , digits d.telBmsCellVoltageMaxDeciMv.toNat
  , digits d.telBmsCellVoltageMinDeciMv.toNat
  , signed d.telBmsTempHighestC.toInt
  , signed d.telBmsTempLowestC.toInt
  , digits d.telBmsSystemState.toNat
  , digits d.telBmsPackVoltageDeciV.toNat
  , signed d.telBmsCurrentCentiMa.toInt
  , digits d.telBmsSocHundredths.toNat
  , digits (flag d.telBmsDataValid)
  , digits d.telTimestampMs.toNat
  , digits d.telSpeedKmhX10.toNat ]

/-- The whole formatted text: `TEL,…\r\n`. -/
def telText (seq : UInt32) (d : TelemetryData) : List Char :=
  List.intercalate [','] (['T', 'E', 'L'] :: telFields seq d) ++ ['\r', '\n']

/-- `sizeof(TEL_payload)` -/
def telPayloadSize : Nat := 192

/-- The buffer after `snprintf`, without the terminating zero. -/
def telPayload (seq : UInt32) (d : TelemetryData) : List Char :=
  (telText seq d).take (telPayloadSize - 1)

/-- Formats, cuts to the buffer and writes. Only a write that succeeds uses up its number. -/
def Telemetry.sendStatus (written : Int) (d : TelemetryData) (t : Telemetry) :
    Telemetry × Option (List Char) :=
  if !t.telIsInitialized then (t, none)
  else
    let payloadLength := (telText t.telSequenceCounter d).length
    if payloadLength = 0 then (t, none)
    else
      let txLength := if payloadLength < telPayloadSize then payloadLength else telPayloadSize - 1
      if written < 0 then (t, none)
      else
        ({ t with telSequenceCounter := t.telSequenceCounter + 1 },
          some ((telPayload t.telSequenceCounter d).take txLength))

theorem telText_ne_nil (seq : UInt32) (d : TelemetryData) : telText seq d ≠ [] := by
  simp [telText]

/-- `sendStatus` of a started object: it writes unless the UART refuses. -/
theorem Telemetry.sendStatus_of_initialized {t : Telemetry} (ht : t.telIsInitialized = true)
    (written : Int) (d : TelemetryData) :
    t.sendStatus written d =
      if written < 0 then (t, none)
      else
        ({ t with telSequenceCounter := t.telSequenceCounter + 1 },
          some (telPayload t.telSequenceCounter d)) := by
  have hlen : (telText t.telSequenceCounter d).length ≠ 0 :=
    mt List.length_eq_zero_iff.mp (telText_ne_nil _ _)
  have htake : (telPayload t.telSequenceCounter d).take
      (if (telText t.telSequenceCounter d).length < telPayloadSize
        then (telText t.telSequenceCounter d).length else telPayloadSize - 1) =
      telPayload t.telSequenceCounter d := by
    apply List.take_of_length_le
    rw [telPayload, List.length_take]
    split <;> omega
  simp only [Telemetry.sendStatus, ht, Bool.not_true, Bool.false_eq_true, if_false, if_neg hlen,
    htake]

theorem Telemetry.sendStatus_initialized (written : Int) (d : TelemetryData) (t : Telemetry) :
    (t.sendStatus written d).1.telIsInitialized = t.telIsInitialized := by
  simp only [Telemetry.sendStatus]
  split
  · rfl
  · split
    · rfl
    · split <;> rfl

/-- What reaches the UART is the formatted line. -/
theorem Telemetry.sendStatus_line {t : Telemetry} {written : Int} {d : TelemetryData}
    {line : List Char} (h : (t.sendStatus written d).2 = some line) :
    line = telPayload t.telSequenceCounter d := by
  have hstarted : t.telIsInitialized = true := by
    cases ht : t.telIsInitialized with
    | false => simp [Telemetry.sendStatus, ht] at h
    | true => rfl
  rw [t.sendStatus_of_initialized hstarted] at h
  by_cases hw : written < 0
  · rw [if_pos hw] at h
    cases h
  · rw [if_neg hw] at h
    exact (Option.some.inj h).symm

/-- A started object reports a written line exactly when the UART took it. -/
theorem Telemetry.isSome_sendStatus_iff {t : Telemetry} (ht : t.telIsInitialized = true)
    (written : Int) (d : TelemetryData) :
    (t.sendStatus written d).2.isSome = true ↔ 0 ≤ written := by
  rw [t.sendStatus_of_initialized ht]
  by_cases h : written < 0
  · rw [if_pos h]
    exact iff_of_false Bool.false_ne_true (Int.not_le.mpr h)
  · rw [if_neg h]
    exact iff_of_true rfl (Int.not_lt.mp h)

end TfnAks.Uplink
