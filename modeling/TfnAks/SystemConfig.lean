/-
# TfnAks.SystemConfig — the constants of `include/SystemConfig.h` the model reads

Values are plain naturals; a definition that uses one at a fixed width converts it there. The tick
rate is `CONFIG_FREERTOS_HZ` of `sdkconfig.esp32dev`, so one tick is 10 ms.
-/

namespace TfnAks

/-! ## CAN identifiers -/

/-- Motor driver, standard frame. -/
def canIdMotorStatus : UInt32 := 0x200

/-- Pack voltage, current, state of charge; extended, like the others of the BMS. -/
def canIdLbBmsE000 : UInt32 := 0x0000E000

/-- The two temperatures. -/
def canIdLbBmsE001 : UInt32 := 0x0000E001

/-- Cell voltages, like the next three; the firmware does not read them yet. -/
def canIdLbBmsE002 : UInt32 := 0x0000E002
def canIdLbBmsE003 : UInt32 := 0x0000E003
def canIdLbBmsE004 : UInt32 := 0x0000E004
def canIdLbBmsE005 : UInt32 := 0x0000E005

/-- Cell temperatures, like the next one; not read yet either. -/
def canIdLbBmsE032 : UInt32 := 0x0000E032
def canIdLbBmsE033 : UInt32 := 0x0000E033

/-- From the BMS to the charger; only listened to. -/
def canIdLbChargerCmd : UInt32 := 0x1806E5F4

/-- A standard frame of the logs whose meaning is not known. -/
def canIdLbStd0x000 : UInt32 := 0x000

/-! ## Safety thresholds of the pack voltage, in deciV -/

/-- 3.00 V a cell. -/
def bmsWarnMinPackVoltageDeciV : Nat := 720

/-- 2.50 V a cell. -/
def bmsCriticalMinPackVoltageDeciV : Nat := 600

/-- 3.55 V a cell. -/
def bmsWarnMaxPackVoltageDeciV : Nat := 852

/-- 3.65 V a cell. -/
def bmsCriticalMaxPackVoltageDeciV : Nat := 876

/-! ## Periods and timeouts, in ms -/

/-- From the entry of a stop to the opening of the contactors: one iteration. -/
def vcuContactorOpenDelayMs : UInt32 := 20

/-- Age at which the motor stream is stale. -/
def canMotorStatusTimeoutMs : Nat := 500

/-- Age at which the BMS stream is stale. -/
def canBmsStatusTimeoutMs : Nat := 500

/-- Age at which the charger command is stale. -/
def canChargerTimeoutMs : Nat := 2000

/-- Five records a second. -/
def loraTxPeriodMs : Nat := 200

/-- Three heartbeats of the ground unit. -/
def linkTimeoutMs : UInt32 := 3000

/-- For the first heartbeat after the boot. -/
def bootLinkGraceMs : UInt32 := 5000

/-- Between two samples of an outage. -/
def offlineSamplePeriodMs : UInt32 := 1000

/-- Between two warnings about bytes that are noise. -/
def loraUnknownByteWarnIntervalMs : UInt32 := 10000

/-! ## Counts and protocol values -/

/-- Relays on the sixteen pins of the chip. -/
def relayTotalChannels : UInt8 := 10

/-- Between the controller and the radio. -/
def loraUartBaud : Nat := 9600

/-- Buffered samples sent beside a live record. -/
def replayBurstPerTick : Nat := 1

/-- Samples the offline buffer holds. -/
def obCapacity : Nat := 75

/-- Second field of every line. -/
def loraProtocolVersion : Nat := 2

/-- 300.0 km/h, the limit of the receiver. -/
def telSpdX10Max : Nat := 3000

/-- The one byte the ground unit sends. -/
def uksHeartbeatByte : UInt8 := 0xB0

/-- Level of the radio's AUX pin when it can take a frame. -/
def loraAuxReadyLevel : Int := 1

/-! ## Ticks -/

/-- FreeRTOS tick counter type, 32 bits and free-running. -/
abbrev TickType := UInt32

/-- Ticks in a second. -/
def configFreertosHz : Nat := 100

/-- `portTICK_PERIOD_MS` -/
def portTickPeriodMs : Nat := 1000 / configFreertosHz

/-- A duration in ticks, rounded down. -/
def msInTicks (ms : Nat) : Nat := ms * configFreertosHz / 1000

/-- `pdMS_TO_TICKS` of ESP-IDF. -/
def pdMsToTicks (ms : Nat) : TickType := UInt32.ofNat (msInTicks ms)

end TfnAks
