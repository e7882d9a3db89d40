/-
# TfnAks.Telemetry.Data — the telemetry record shared by all tasks

`TelemetryData` of `lib/Telemetry/Telemetry.h`, with the C field types: the CAN task fills it, the
VCU decides on it, the LoRa task sends it. A value-initialised record is `TelemetryData.zero`.
-/

namespace TfnAks

/-- The record the tasks share; the units are in the names. -/
structure TelemetryData where
  telMotorRpm : UInt16
  telMotorTorqueFeedback : Int16
  telMotorErrorFlags : UInt8
  telMotorDataValid : Bool
  telMotorTimeoutActive : Bool
  telBmsCellVoltageMaxDeciMv : UInt16
  telBmsCellVoltageMinDeciMv : UInt16
  telBmsTempHighestC : Int8
  telBmsTempLowestC : Int8
  telBmsSystemState : UInt8
  telBmsPackVoltageDeciV : UInt16
  telBmsCurrentCentiMa : Int32
  telBmsSocHundredths : UInt16
  telBmsDataValid : Bool
  telBmsTimeoutActive : Bool
  telTimestampMs : UInt32
  telSpeedKmhX10 : UInt16
  deriving DecidableEq, Repr

/-- `TelemetryData x = {};` -/
def TelemetryData.zero : TelemetryData where
  telMotorRpm := 0
  telMotorTorqueFeedback := 0
  telMotorErrorFlags := 0
  telMotorDataValid := false
  telMotorTimeoutActive := false
  telBmsCellVoltageMaxDeciMv := 0
  telBmsCellVoltageMinDeciMv := 0
  telBmsTempHighestC := 0
  telBmsTempLowestC := 0
  telBmsSystemState := 0
  telBmsPackVoltageDeciV := 0
  telBmsCurrentCentiMa := 0
  telBmsSocHundredths := 0
  telBmsDataValid := false
  telBmsTimeoutActive := false
  telTimestampMs := 0
  telSpeedKmhX10 := 0

end TfnAks
