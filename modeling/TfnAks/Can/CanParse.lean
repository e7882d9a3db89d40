/-
# TfnAks.Can.CanParse — CAN payloads to values

The pure parsers of `lib/CanParse/CanParse.cpp`. A parser that rejects a frame answers `none` and
writes nothing. Multi-byte fields are big-endian. Parsers of frames whose meaning is not known
(`0xE002` and the like) write nothing either and are left out.
-/
import TfnAks.SystemConfig

namespace TfnAks.Can

/-- `twai_message_t`: `extd` distinguishes 29-bit from 11-bit frames. -/
structure TwaiMessage where
  extd : Bool
  identifier : UInt32
  dataLengthCode : UInt8
  data : Vector UInt8 8
  deriving DecidableEq, Repr

/-- `(hi << 8) | lo` -/
def word (hi lo : UInt8) : UInt16 := (hi.toUInt16 <<< 8) ||| lo.toUInt16

/-- The fields of a motor frame. -/
structure MotorStatus where
  rpm : UInt16
  torqueFeedback : Int16
  errorFlags : UInt8
  isValid : Bool
  deriving DecidableEq, Repr

/-- What the BMS asks the charger for. -/
structure ChargerCommand where
  chargeVoltageSetpointDeciV : UInt16
  chargeCurrentSetpointDeciA : UInt16
  deriving DecidableEq, Repr

/-- Frame `0x200`; the error flags are in the fifth byte, 0 in a frame of four. -/
def parseMotorStatus (msg : TwaiMessage) : Option MotorStatus :=
  if msg.dataLengthCode < 4 then none
  else
    some
      { rpm := word msg.data[0] msg.data[1]
        torqueFeedback := (word msg.data[2] msg.data[3]).toInt16
        errorFlags := if 5 ≤ msg.dataLengthCode then msg.data[4] else 0
        isValid := true }

/-- The fields `parseLbBmsE000` writes. -/
structure LbBmsE000 where
  bmsCurrentCentiMa : Int32
  bmsPackVoltageDeciV : UInt16
  bmsSocHundredths : UInt16
  bmsDataValid : Bool
  deriving DecidableEq, Repr

/-- Frame `0xE000`: current, pack voltage and state of charge. -/
def parseLbBmsE000 (msg : TwaiMessage) : Option LbBmsE000 :=
  if msg.dataLengthCode < 8 then none
  else
    some
      { bmsCurrentCentiMa := (word msg.data[0] msg.data[1]).toInt16.toInt32 * 10
        bmsPackVoltageDeciV := word msg.data[2] msg.data[3]
        bmsSocHundredths := word msg.data[4] msg.data[5]
        bmsDataValid := true }

/-- The fields `parseLbBmsE001` writes: the higher and the lower of two temperatures. -/
structure LbBmsE001 where
  bmsTempHighestC : Int8
  bmsTempLowestC : Int8
  deriving DecidableEq, Repr

/-- Frame `0xE001`: the higher and the lower of its two temperatures. -/
def parseLbBmsE001 (msg : TwaiMessage) : Option LbBmsE001 :=
  if msg.dataLengthCode < 8 then none
  else
    let t1 := msg.data[6].toInt8
    let t2 := msg.data[7].toInt8
    some ⟨if t2 ≤ t1 then t1 else t2, if t1 ≤ t2 then t1 else t2⟩

/-- Frame `0x1806E5F4`: the two setpoints. -/
def parseCharger1806E5F4 (msg : TwaiMessage) : Option ChargerCommand :=
  if msg.dataLengthCode < 4 then none
  else some ⟨word msg.data[0] msg.data[1], word msg.data[2] msg.data[3]⟩

/-- The verdict on a pack voltage. -/
inductive BmsPackVoltageFault where
  | none
  | undervoltage
  | overvoltage
  deriving DecidableEq, Repr

/-- Both limits count as faults. -/
def checkPackVoltageFault (packVoltageDeciV : UInt16) (criticalMinDeciV criticalMaxDeciV : Nat) :
    BmsPackVoltageFault :=
  if packVoltageDeciV.toNat ≤ criticalMinDeciV then .undervoltage
  else if criticalMaxDeciV ≤ packVoltageDeciV.toNat then .overvoltage
  else .none

/-- Never before the first frame, nor again once the stream is invalid; `now - lastTick` wraps. -/
def isMotorStatusTimedOut (hasSeen lastValid : Bool) (now lastTick timeoutTicks : TickType) : Bool :=
  if !hasSeen || !lastValid then false else timeoutTicks ≤ now - lastTick

/-- The same test, for the BMS and charger frames. -/
def isBmsStatusTimedOut (hasSeen lastValid : Bool) (now lastTick timeoutTicks : TickType) : Bool :=
  if !hasSeen || !lastValid then false else timeoutTicks ≤ now - lastTick

end TfnAks.Can
