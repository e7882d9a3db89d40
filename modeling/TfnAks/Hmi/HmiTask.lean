/-
# TfnAks.Hmi.HmiTask — the passes of the display task

The loop of `vTask_HMI_Display` in `src/main.cpp`. A pass fetches the restart flag, paints the main
page from the telemetry queue, the state of the VCU and the relays, paints the BMS page from a
second look at the queue, and scans the display's answers for one touch command. Other tasks run
between its reads, so what each of them answers is an input of the pass (`HmiPass`).

Signals whose meaning on the bus is not verified are replaced by "no data" before they get to the
display; the four flags that say so are one record here (`SourceVerified`), all false in the
firmware.
-/
import TfnAks.Bms.BmsAlgo
import TfnAks.Bms.PageCache
import TfnAks.Hmi.PageCoherence
import TfnAks.Lib.LateItems
import TfnAks.Vcu.VcuLogic

namespace TfnAks.Hmi

open TfnAks.Bms TfnAks.Relay TfnAks.Vcu TfnAks.Lib.BudgetedRefresh TfnAks.Lib.Mealy

/-! ## What the display may show -/

/-- The `HMI_*_SOURCE_VERIFIED` flags. -/
structure SourceVerified where
  soc : Bool
  temp : Bool
  current : Bool
  cellVoltage : Bool
  deriving DecidableEq, Repr

/-- Their values in the firmware. -/
def sourceVerified : SourceVerified := ⟨false, false, false, false⟩

/-- `HMI_CELL_VOLTAGE_NO_DATA` -/
def cellVoltageNoData : UInt16 := 65535

/-- Whole percent, 100 at most; no data from a source that is not verified. -/
def batteryDisplayValue (sourceVerified bmsDataValid : Bool) (socHundredths : UInt16) : UInt8 :=
  if !sourceVerified || !bmsDataValid then batteryNoData
  else
    let percent := socHundredths / 100
    if 100 < percent then 100 else percent.toUInt8

/-- The temperature, if its source is verified and fresh. -/
def temperatureDisplayValue (sourceVerified bmsDataValid : Bool) (temperatureC : Int16) : Int16 :=
  if !sourceVerified || !bmsDataValid then tempNoData else temperatureC

/-- The current, if its source is verified and fresh. -/
def currentDisplayValue (sourceVerified bmsDataValid : Bool) (packCurrentDeciA : Int16) : Int16 :=
  if !sourceVerified || !bmsDataValid then currentNoData else packCurrentDeciA

/-- The state as the display names it. -/
def mapVcuState : VcuState → HmiVcuState
  | .init => .init
  | .idle => .idle
  | .ready => .ready
  | .drive => .drive
  | .emergencyStop => .emergencyStop
  | .fault => .fault

/-- The channels the display task asks for, in order. -/
def relayChannels : List UInt8 := (List.range relayTotalChannels.toNat).map UInt8.ofNat

/-- `HMI_areAllContactorsClosed`, from what the calls of `getRelayState` answer. -/
def areAllContactorsClosed (getRelayState : UInt8 → Bool) : Bool := relayChannels.all getRelayState

/-- The record for the main page. Without data in the queue the numbers are 0, apart from the three
with a value for "no data". The torque is not copied. -/
def screenData (verified : SourceVerified) (queue : Option TelemetryData) (vcuState : VcuState)
    (contactorClosed : Bool) : HmiDisplayData :=
  let data :=
    { HmiDisplayData.zero with
      currentBattery := batteryNoData
      bmsTemperatureC := tempNoData
      packCurrentDeciA := currentNoData }
  let data :=
    match queue with
    | none => data
    | some d =>
      { data with
        currentSpeed := d.telSpeedKmhX10 / 10
        currentBattery :=
          batteryDisplayValue verified.soc d.telBmsDataValid d.telBmsSocHundredths
        motorRpm := d.telMotorRpm
        motorErrorFlags := d.telMotorErrorFlags
        motorDataValid := d.telMotorDataValid
        motorTimeoutActive := d.telMotorTimeoutActive
        bmsTemperatureC :=
          temperatureDisplayValue verified.temp d.telBmsDataValid d.telBmsTempHighestC.toInt16
        bmsPackVoltageDeciV := d.telBmsPackVoltageDeciV
        packCurrentDeciA :=
          currentDisplayValue verified.current d.telBmsDataValid
            (d.telBmsCurrentCentiMa / 100).toInt16 }
  { data with vcuState := mapVcuState vcuState, contactorClosed := contactorClosed }

/-- `BMS_raw` and `BMS_comp`, from the second look at the queue. -/
def bmsPageData (cellDataVerified : Bool) (queue : Option TelemetryData) :
    BmsPackData × BmsComputed :=
  let d := queue.getD .zero
  let bmsValid := queue.isSome && d.telBmsDataValid
  if bmsValid && cellDataVerified then
    -- no cell is known yet: each of them shows its share of the pack
    let raw : BmsPackReading :=
      { cellVoltageMv _ := UInt16.ofNat (d.telBmsPackVoltageDeciV.toNat * 100 / bmsCellCount)
        cellTempC _ := d.telBmsTempHighestC.toInt16
        isValid := bmsValid }
    (raw.toBmsPackData,
      { (computePack raw).toBmsComputed with
        cellMaxMv := d.telBmsCellVoltageMaxDeciMv / 10
        cellMinMv := d.telBmsCellVoltageMinDeciMv / 10 })
  else
    (⟨fun _ => cellVoltageNoData⟩,
      { cellMaxMv := cellVoltageNoData
        cellMinMv := cellVoltageNoData
        balanceFlag _ := false
        warningLevel := if bmsValid then bmsWarnOk else bmsWarnCritical })

/-- The event a touch command posts; any other value is only logged. -/
def touchEvent (cmd : UInt8) : Option VcuEvent :=
  if cmd = 1 then some .startRequest
  else if cmd = 2 then some .reset
  else if cmd = 3 then some .emergencyStop
  else if cmd = 4 then some .driveEnable
  else none

/-! ## A pass -/

/-- The locals and statics of the task. -/
structure HmiTask where
  /-- `TEL_sensorDataQueue != nullptr` -/
  sensorDataQueue : Bool
  display : DisplayObject
  bmsHmiCache : BmsNextionCache
  bmsLastCellUpdateMs : UInt32
  bmsFirstRun : Bool

/-- The task when `begin()` has been successful: `app_main` starts it only once the queue exists. -/
def HmiTask.begun : HmiTask where
  sensorDataQueue := true
  display := ⟨.begun, .zero⟩
  bmsHmiCache := .fresh
  bmsLastCellUpdateMs := 0
  bmsFirstRun := true

/-- What a pass reads, in the order it reads it. -/
structure HmiPass where
  screenQueue : Option TelemetryData
  vcuState : VcuState
  getRelayState : UInt8 → Bool
  bmsQueue : Option TelemetryData
  nowMs : UInt32
  /-- the bytes the display has sent -/
  received : List UInt8

/-- What a pass writes to the display, and the event it posts. -/
structure HmiOutput where
  mainCommands : List MainCommand
  bmsCommands : List Command
  posted : Option VcuEvent

/-- `forceRefresh` and `updateCells`, with the clock of the cells: all of the page on the first pass
and after a restart of the display, the cells once a second otherwise. -/
def HmiTask.cellClock (bmsForceFromReset : Bool) (nowMs : UInt32) (t : HmiTask) :
    HmiTask × Bool × Bool :=
  if t.bmsFirstRun || bmsForceFromReset then
    ({ t with bmsFirstRun := false, bmsLastCellUpdateMs := nowMs }, true, true)
  else if 1000 ≤ nowMs - t.bmsLastCellUpdateMs then
    ({ t with bmsLastCellUpdateMs := nowMs }, false, true)
  else (t, false, false)

/-- The arguments of `buildBmsNextionCommands`. -/
def HmiTask.bmsCall (verified : SourceVerified) (bmsForceFromReset : Bool)
    (queue : Option TelemetryData) (nowMs : UInt32) (t : HmiTask) : PageCall :=
  let (raw, comp) := bmsPageData verified.cellVoltage queue
  let (_, forceRefresh, updateCells) := t.cellClock bmsForceFromReset nowMs
  ⟨comp, raw, forceRefresh, updateCells, 90, verified.cellVoltage⟩

/-- The block that paints the BMS page. -/
def HmiTask.sendBmsPage (verified : SourceVerified) (bmsForceFromReset : Bool)
    (queue : Option TelemetryData) (nowMs : UInt32) (t : HmiTask) : HmiTask × List Command :=
  if !t.sensorDataQueue then (t, [])
  else
    let (cache, commands) :=
      pageStep t.bmsHmiCache (t.bmsCall verified bmsForceFromReset queue nowMs)
    ({ (t.cellClock bmsForceFromReset nowMs).1 with bmsHmiCache := cache }, commands)

/-! The pieces of a pass between two reads of something shared. -/

/-- The same on the task's object. -/
def HmiTask.takeNextionResetFlag (t : HmiTask) : HmiTask × Bool :=
  ({ t with display := t.display.takeNextionResetFlag },
    t.display.toDisplayHMI.takeNextionResetFlag.2)

/-- `updateScreen` and the BMS page. -/
def HmiTask.paint (verified : SourceVerified) (bmsForceFromReset : Bool) (data : HmiDisplayData)
    (bmsQueue : Option TelemetryData) (nowMs : UInt32) (t : HmiTask) :
    HmiTask × List MainCommand × List Command :=
  let (display, mainCommands) := t.display.updateScreen data
  let t := { t with display := display }
  let (t, bmsCommands) := t.sendBmsPage verified bmsForceFromReset bmsQueue nowMs
  (t, mainCommands, bmsCommands)

/-- The scan for a touch command, and the event it posts. -/
def HmiTask.touch (received : List UInt8) (t : HmiTask) : HmiTask × Option VcuEvent :=
  let incomingCommand := (t.display.toDisplayHMI.readTouchCommand received).2
  ({ t with display := t.display.readTouchCommand received }, incomingCommand.bind touchEvent)

/-- One pass of the loop. -/
def HmiTask.pass (verified : SourceVerified) (t : HmiTask) (p : HmiPass) : HmiTask × HmiOutput :=
  let (t, bmsForceFromReset) := t.takeNextionResetFlag
  let screenQueue := if t.sensorDataQueue then p.screenQueue else none
  let data := screenData verified screenQueue p.vcuState (areAllContactorsClosed p.getRelayState)
  let (t, mainCommands, bmsCommands) := t.paint verified bmsForceFromReset data p.bmsQueue p.nowMs
  let (t, posted) := t.touch p.received
  (t, ⟨mainCommands, bmsCommands, posted⟩)

end TfnAks.Hmi
