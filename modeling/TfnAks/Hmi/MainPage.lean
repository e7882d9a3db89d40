/-
# TfnAks.Hmi.MainPage — the main page of the display and its change cache

`DisplayHMI::updateScreen` of `lib/DisplayHMI/DisplayHMI.cpp`, with the formatters and the two send
helpers of `lib/HMIHelpers`. The page has eleven components. Four of them show numbers (`.val`), the
other seven texts (`.txt`); a text is formatted afresh in every call, for the new data and for the
data of the last call, and the two texts are compared. The vehicle state and the validity are read
from more than one value of the data, so different data can give the same text.
-/
import TfnAks.Hmi.DisplayHMI
import TfnAks.Lib.BudgetedRefresh
import TfnAks.Lib.Decimal

namespace TfnAks.Hmi

open TfnAks.Lib.Decimal TfnAks.Lib.BudgetedRefresh

/-- What `snprintf` leaves in a buffer of `size` bytes: the text, cut so that its end mark fits. -/
def snprintf (size : Nat) (text : List Char) : List Char := text.take (size - 1)

theorem snprintf_of_lt {size : Nat} {text : List Char} (h : text.length < size) :
    snprintf size text = text := List.take_of_length_le (by omega)

theorem length_snprintf_le (size : Nat) (text : List Char) :
    (snprintf size text).length ≤ size - 1 := List.length_take_le _ _

/-! ## The texts -/

/-- `HMI_VcuState`. The type is an `enum class` over `uint8_t`, so a variable of it can hold the
other values of that type too. -/
inductive HmiVcuState where
  | init
  | idle
  | ready
  | drive
  | emergencyStop
  | fault
  | other (value : UInt8) (h : 5 < value)
  deriving DecidableEq

/-- The word for a state. -/
def getStateText : HmiVcuState → List Char
  | .init => "INIT".toList
  | .idle => "IDLE".toList
  | .ready => "READY".toList
  | .drive => "DRIVE".toList
  | .emergencyStop => "ESTOP".toList
  | .fault => "FAULT".toList
  | .other _ _ => "UNK".toList

/-- A timeout shows before anything else. -/
def getValidityText (dataValid timeoutActive : Bool) : List Char :=
  if timeoutActive then "TIMEOUT".toList
  else if dataValid then "VALID".toList else "INVALID".toList

/-- Closed only when all relays are. -/
def getContactorText (contactorClosed : Bool) : List Char :=
  if contactorClosed then "CLOSED".toList else "OPEN".toList

/-- One digit of `%X`. -/
def hexDigit (n : Nat) : Char := (Nat.digitChar n).toUpper

/-- `"0x%02X"` -/
def errorText (errorFlags : UInt8) : List Char :=
  ['0', 'x', hexDigit (errorFlags.toNat / 16), hexDigit (errorFlags.toNat % 16)]

/-- The flags as `0xNN`, cut to the buffer. -/
def formatErrorText (errorFlags : UInt8) (outputSize : Nat) : List Char :=
  snprintf outputSize (errorText errorFlags)

/-- `HMI_BATTERY_NO_DATA` -/
def batteryNoData : UInt8 := 255

/-- `HMI_TEMP_NO_DATA` -/
def tempNoData : Int16 := -127

/-- `HMI_CURRENT_NO_DATA` -/
def currentNoData : Int16 := -32768

/-- The percent, or dashes. -/
def batteryText (batteryValue : UInt8) : List Char :=
  if batteryValue = batteryNoData then "--".toList else digits batteryValue.toNat

/-- That text, cut to the buffer. -/
def formatBatteryText (batteryValue : UInt8) (outSize : Nat) : List Char :=
  snprintf outSize (batteryText batteryValue)

/-- The degrees, or dashes. -/
def tempText (tempValue : Int16) : List Char :=
  if tempValue = tempNoData then "--".toList else signed tempValue.toInt

/-- That text, cut to the buffer. -/
def formatTempText (tempValue : Int16) (outSize : Nat) : List Char :=
  snprintf outSize (tempText tempValue)

/-- `"%s%d.%d"` of the sign, the amperes and the tenths. -/
def currentText (currentDeciA : Int16) : List Char :=
  if currentDeciA = currentNoData then "--".toList
  else
    let neg := decide (currentDeciA < 0)
    let mag := currentDeciA.toInt.natAbs
    (if neg then "-".toList else "".toList) ++ digits (mag / 10) ++ ".".toList ++ digits (mag % 10)

/-- The current with one decimal, cut to the buffer. -/
def formatCurrentText (currentDeciA : Int16) (outSize : Nat) : List Char :=
  snprintf outSize (currentText currentDeciA)

/-! ## The page -/

/-- `HMI_DisplayData` -/
structure HmiDisplayData where
  currentSpeed : UInt16
  currentBattery : UInt8
  bmsTemperatureC : Int16
  bmsPackVoltageDeciV : UInt16
  packCurrentDeciA : Int16
  motorRpm : UInt16
  motorTorqueFeedback : Int16
  motorErrorFlags : UInt8
  motorDataValid : Bool
  motorTimeoutActive : Bool
  contactorClosed : Bool
  vcuState : HmiVcuState
  deriving DecidableEq

/-- `HMI_DisplayData{}` -/
def HmiDisplayData.zero : HmiDisplayData := ⟨0, 0, 0, 0, 0, 0, 0, 0, false, false, false, .init⟩

/-- The components of the main page. -/
inductive MainComponent where
  | speed
  | bat
  | rpm
  | torque
  | temp
  | packv
  | packi
  | state
  | motorErr
  | valid
  | contactor
  deriving DecidableEq, Repr

/-- The name a command addresses the component by. -/
def MainComponent.name : MainComponent → List Char
  | .speed => "speed".toList
  | .bat => "bat".toList
  | .rpm => "rpm".toList
  | .torque => "torque".toList
  | .temp => "temp".toList
  | .packv => "packv".toList
  | .packi => "packi".toList
  | .state => "state".toList
  | .motorErr => "motorErr".toList
  | .valid => "valid".toList
  | .contactor => "contactor".toList

/-- The components in the order a call walks them. -/
def mainComponents : List MainComponent :=
  [.speed, .bat, .rpm, .torque, .temp, .packv, .packi, .state, .motorErr, .valid, .contactor]

theorem mem_mainComponents (c : MainComponent) : c ∈ mainComponents := by
  cases c <;> decide

/-- The names tell the components apart. -/
theorem mainComponent_name_injective : Function.Injective MainComponent.name := by
  intro c c' h
  have hnames : (mainComponents.map MainComponent.name).Nodup := by decide
  exact List.inj_on_of_nodup_map hnames (mem_mainComponents c) (mem_mainComponents c') h

/-- What a component can be made to show: a number or a text. -/
inductive ShownValue where
  | val (n : Int)
  | txt (text : List Char)
  deriving DecidableEq, Repr

/-- A command that was written to the UART, before the end bytes. -/
structure MainCommand where
  component : MainComponent
  value : ShownValue
  deriving DecidableEq, Repr

/-- `"%s.val=%ld"` or `"%s.txt=\"%s\""` -/
def MainCommand.text (cmd : MainCommand) : List Char :=
  match cmd.value with
  | .val n => cmd.component.name ++ ".val=".toList ++ signed n
  | .txt text => cmd.component.name ++ ".txt=\"".toList ++ text ++ "\"".toList

/-- The buffer the helper formats its command in. -/
def MainCommand.bufferSize (cmd : MainCommand) : Nat :=
  match cmd.value with
  | .val _ => 48
  | .txt _ => 64

/-! ## One call -/

/-- A command is never empty, so the length check before the write always passes. -/
def sendNumericIfChanged (component : MainComponent) (value lastValue : Int) (force : Bool) :
    List MainCommand :=
  if !force && value == lastValue then [] else [⟨component, .val value⟩]

/-- A command for a text that differs from the last one, or is forced. -/
def sendTextIfChanged (component : MainComponent) (value lastValue : List Char) (force : Bool) :
    List MainCommand :=
  if !force && value == lastValue then [] else [⟨component, .txt value⟩]

/-- The object with the data of the last `updateScreen`. -/
structure DisplayObject extends DisplayHMI where
  lastScreenData : HmiDisplayData
  deriving DecidableEq

/-- `updateScreen`: the object it leaves and the commands it writes, in order. -/
def DisplayObject.updateScreen (o : DisplayObject) (data : HmiDisplayData) :
    DisplayObject × List MainCommand :=
  if !o.isInitialized then (o, [])
  else
    let forceRefresh := !o.hasCachedScreen
    let last := o.lastScreenData
    -- texts are compared as they are formatted, not by the values behind them
    let currentErrorText := formatErrorText data.motorErrorFlags 16
    let lastErrorText := formatErrorText last.motorErrorFlags 16
    let curBatText := formatBatteryText data.currentBattery 8
    let lastBatText := formatBatteryText last.currentBattery 8
    let curTempText := formatTempText data.bmsTemperatureC 8
    let lastTempText := formatTempText last.bmsTemperatureC 8
    let curCurrText := formatCurrentText data.packCurrentDeciA 10
    let lastCurrText := formatCurrentText last.packCurrentDeciA 10
    let commands :=
      sendNumericIfChanged .speed data.currentSpeed.toNat last.currentSpeed.toNat forceRefresh ++
      sendTextIfChanged .bat curBatText lastBatText forceRefresh ++
      sendNumericIfChanged .rpm data.motorRpm.toNat last.motorRpm.toNat forceRefresh ++
      sendNumericIfChanged .torque data.motorTorqueFeedback.toInt last.motorTorqueFeedback.toInt
        forceRefresh ++
      sendTextIfChanged .temp curTempText lastTempText forceRefresh ++
      sendNumericIfChanged .packv data.bmsPackVoltageDeciV.toNat last.bmsPackVoltageDeciV.toNat
        forceRefresh ++
      sendTextIfChanged .packi curCurrText lastCurrText forceRefresh ++
      sendTextIfChanged .state (getStateText data.vcuState) (getStateText last.vcuState)
        forceRefresh ++
      sendTextIfChanged .motorErr currentErrorText lastErrorText forceRefresh ++
      sendTextIfChanged .valid (getValidityText data.motorDataValid data.motorTimeoutActive)
        (getValidityText last.motorDataValid last.motorTimeoutActive) forceRefresh ++
      sendTextIfChanged .contactor (getContactorText data.contactorClosed)
        (getContactorText last.contactorClosed) forceRefresh
    ({ o with lastScreenData := data, hasCachedScreen := true }, commands)

/-! ## What a call writes -/

/-- The value each component has to show for the data. -/
def HmiDisplayData.formatted (data : HmiDisplayData) : MainComponent → ShownValue
  | .speed => .val data.currentSpeed.toNat
  | .bat => .txt (formatBatteryText data.currentBattery 8)
  | .rpm => .val data.motorRpm.toNat
  | .torque => .val data.motorTorqueFeedback.toInt
  | .temp => .txt (formatTempText data.bmsTemperatureC 8)
  | .packv => .val data.bmsPackVoltageDeciV.toNat
  | .packi => .txt (formatCurrentText data.packCurrentDeciA 10)
  | .state => .txt (getStateText data.vcuState)
  | .motorErr => .txt (formatErrorText data.motorErrorFlags 16)
  | .valid => .txt (getValidityText data.motorDataValid data.motorTimeoutActive)
  | .contactor => .txt (getContactorText data.contactorClosed)

/-- The page, one component after the other. -/
theorem mainComponents_eq :
    mainComponents = [MainComponent.speed] ++ [MainComponent.bat] ++ [MainComponent.rpm] ++
      [MainComponent.torque] ++ [MainComponent.temp] ++ [MainComponent.packv] ++
      [MainComponent.packi] ++ [MainComponent.state] ++ [MainComponent.motorErr] ++
      [MainComponent.valid] ++ [MainComponent.contactor] := rfl

/-- The commands for the components that are due, each with its value. -/
def commandsFor (data : HmiDisplayData) (components : List MainComponent) : List MainCommand :=
  components.map fun c => ⟨c, data.formatted c⟩

theorem commandsFor_append (data : HmiDisplayData) (cs cs' : List MainComponent) :
    commandsFor data (cs ++ cs') = commandsFor data cs ++ commandsFor data cs' := List.map_append

section Helpers

variable (c : MainComponent) (data last : HmiDisplayData) {force : Bool}

/-- Both helpers send a component exactly when it is due. -/
theorem sendNumericIfChanged_eq {value lastValue : Int} (hvalue : data.formatted c = .val value)
    (hlast : last.formatted c = .val lastValue) :
    sendNumericIfChanged c value lastValue force =
      commandsFor data (due [c] force data.formatted last.formatted) := by
  by_cases h : value = lastValue <;> cases force <;>
    simp [sendNumericIfChanged, commandsFor, due, hvalue, hlast, h]

theorem sendTextIfChanged_eq {value lastValue : List Char}
    (hvalue : data.formatted c = .txt value) (hlast : last.formatted c = .txt lastValue) :
    sendTextIfChanged c value lastValue force =
      commandsFor data (due [c] force data.formatted last.formatted) := by
  by_cases h : value = lastValue <;> cases force <;>
    simp [sendTextIfChanged, commandsFor, due, hvalue, hlast, h]

end Helpers

/-- **A call is one pass over the page**: it writes the components that are due, in order. -/
theorem updateScreen_spec {o : DisplayObject} (hinit : o.isInitialized = true)
    (data : HmiDisplayData) :
    o.updateScreen data =
      ({ o with lastScreenData := data, hasCachedScreen := true },
        commandsFor data (due mainComponents (!o.hasCachedScreen) data.formatted
          o.lastScreenData.formatted)) := by
  unfold DisplayObject.updateScreen
  simp only [hinit, Bool.not_true, Bool.false_eq_true, if_false]
  set last := o.lastScreenData
  rw [mainComponents_eq]
  simp only [due_append, commandsFor_append]
  rw [sendNumericIfChanged_eq .speed data last rfl rfl, sendTextIfChanged_eq .bat data last rfl rfl,
    sendNumericIfChanged_eq .rpm data last rfl rfl, sendNumericIfChanged_eq .torque data last rfl rfl,
    sendTextIfChanged_eq .temp data last rfl rfl, sendNumericIfChanged_eq .packv data last rfl rfl,
    sendTextIfChanged_eq .packi data last rfl rfl, sendTextIfChanged_eq .state data last rfl rfl,
    sendTextIfChanged_eq .motorErr data last rfl rfl, sendTextIfChanged_eq .valid data last rfl rfl,
    sendTextIfChanged_eq .contactor data last rfl rfl]

/-! ## No text is cut, no command either -/

theorem length_batteryText_le (batteryValue : UInt8) : (batteryText batteryValue).length ≤ 3 := by
  unfold batteryText
  split
  · decide
  · exact length_digits_le (by decide) ((UInt8.toNat_lt batteryValue).trans (by decide))

theorem natAbs_toInt_le (v : Int16) : v.toInt.natAbs ≤ 32768 := by
  have hlo := v.le_toInt
  have hhi := v.toInt_lt
  omega

theorem length_signed_int16_le (v : Int16) : (signed v.toInt).length ≤ 6 :=
  length_signed_le (by decide) ((natAbs_toInt_le v).trans_lt (by decide))

theorem length_tempText_le (tempValue : Int16) : (tempText tempValue).length ≤ 6 := by
  unfold tempText
  split
  · decide
  · exact length_signed_int16_le tempValue

theorem length_currentText_le (currentDeciA : Int16) : (currentText currentDeciA).length ≤ 7 := by
  unfold currentText
  split
  · decide
  · have hmag := natAbs_toInt_le currentDeciA
    have hamp : (digits (currentDeciA.toInt.natAbs / 10)).length ≤ 4 :=
      length_digits_le (by decide) (by omega)
    have htenth : (digits (currentDeciA.toInt.natAbs % 10)).length ≤ 1 :=
      length_digits_le (by decide) (by omega)
    have hsign : (if decide (currentDeciA < 0) then "-".toList else "".toList).length ≤ 1 := by
      split <;> decide
    simp only [List.length_append]
    show _ + _ + 1 + _ ≤ 7
    omega

/-- The buffers of `updateScreen` are wide enough: no text is cut, so two texts are equal in their
buffers only when they are equal. -/
theorem texts_fit (data : HmiDisplayData) :
    formatBatteryText data.currentBattery 8 = batteryText data.currentBattery ∧
      formatTempText data.bmsTemperatureC 8 = tempText data.bmsTemperatureC ∧
      formatCurrentText data.packCurrentDeciA 10 = currentText data.packCurrentDeciA ∧
      formatErrorText data.motorErrorFlags 16 = errorText data.motorErrorFlags :=
  ⟨snprintf_of_lt ((length_batteryText_le _).trans_lt (by decide)),
    snprintf_of_lt ((length_tempText_le _).trans_lt (by decide)),
    snprintf_of_lt ((length_currentText_le _).trans_lt (by decide)),
    snprintf_of_lt (show 4 < 16 by decide)⟩

theorem length_getStateText_le (state : HmiVcuState) : (getStateText state).length ≤ 15 := by
  cases state with
  | other value h => exact show 3 ≤ 15 by decide
  | _ => decide

theorem length_getValidityText_le (dataValid timeoutActive : Bool) :
    (getValidityText dataValid timeoutActive).length ≤ 15 := by
  cases dataValid <;> cases timeoutActive <;> decide

theorem length_getContactorText_le (contactorClosed : Bool) :
    (getContactorText contactorClosed).length ≤ 15 := by
  cases contactorClosed <;> decide

theorem length_mainComponent_name_le (c : MainComponent) : c.name.length ≤ 9 := by
  cases c <;> decide

/-- A value takes at most 15 characters: the widest text buffer has 16. -/
theorem formatted_cases (data : HmiDisplayData) (c : MainComponent) :
    (∃ n, data.formatted c = .val n ∧ (signed n).length ≤ 6) ∨
      ∃ text, data.formatted c = .txt text ∧ text.length ≤ 15 := by
  have hnat : ∀ v : UInt16, (signed (v.toNat : Int)).length ≤ 6 := fun v =>
    length_signed_le (by decide) ((UInt16.toNat_lt v).trans (by decide))
  have hbuf : ∀ {size : Nat} (text : List Char), size ≤ 16 → (snprintf size text).length ≤ 15 := by
    intro size text hsize
    have hlen := length_snprintf_le size text
    omega
  cases c with
  | speed | rpm | packv => exact Or.inl ⟨_, rfl, hnat _⟩
  | torque => exact Or.inl ⟨_, rfl, length_signed_int16_le _⟩
  | bat | temp | packi | motorErr => exact Or.inr ⟨_, rfl, hbuf _ (by decide)⟩
  | state => exact Or.inr ⟨_, rfl, length_getStateText_le data.vcuState⟩
  | valid => exact Or.inr ⟨_, rfl, length_getValidityText_le _ _⟩
  | contactor => exact Or.inr ⟨_, rfl, length_getContactorText_le _⟩

/-- **Every command fits the buffer it is formatted in**, so the bytes that are handed to the UART
are the bytes of the command. -/
theorem command_fits {data : HmiDisplayData} {components : List MainComponent} {cmd : MainCommand}
    (h : cmd ∈ commandsFor data components) : cmd.text.length < cmd.bufferSize := by
  obtain ⟨c, -, rfl⟩ := List.mem_map.mp h
  have hname := length_mainComponent_name_le c
  rcases formatted_cases data c with ⟨n, heq, hlen⟩ | ⟨text, heq, hlen⟩
  · simp only [MainCommand.text, MainCommand.bufferSize, heq, List.length_append]
    show _ + 5 + _ < 48
    omega
  · simp only [MainCommand.text, MainCommand.bufferSize, heq, List.length_append]
    show _ + 6 + _ + 1 < 64
    omega

end TfnAks.Hmi
