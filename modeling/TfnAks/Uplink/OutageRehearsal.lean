/-
# TfnAks.Uplink.OutageRehearsal — the outage rehearsal of the host tests

`run_outage_simulation` of `tools/e2e/aks_loop_sim.py`, with the buffer of
`tools/e2e/offline_buffer_sim.py` and the sanitizers of `tools/e2e/contract.py`. A virtual clock
runs in ticks of 200 ms through live operation, an outage and the replay after it. Python's integers
have no width, so durations and times are naturals and the sensor values integers; a dictionary is a
structure with its keys as fields.

The constants of `contract.py` have the names and values of `include/SystemConfig.h`.
-/
import Mathlib.Data.Nat.Notation
import TfnAks.SystemConfig

namespace TfnAks.Uplink.Rehearsal

/-! ## Readings and packets -/

/-- The dictionary of `_sensor_reading`. -/
structure Reading where
  rpm : Int
  torque : Int
  motorErr : Int
  motorValid : Int
  motorTimeout : Int
  cellVmax : Int
  cellVmin : Int
  tempH : Int
  tempL : Int
  sysState : Int
  packV : Int
  current : Int
  soc : Int
  bmsValid : Int
  tsMs : ℕ
  spdX10 : Int
  deriving DecidableEq

/-- `_sensor_reading`: the same values in every tick, but for the time. -/
def sensorReading (nowMs : ℕ) : Reading where
  rpm := 1200
  torque := 100
  motorErr := 0
  motorValid := 1
  motorTimeout := 0
  cellVmax := 37500
  cellVmin := 37400
  tempH := 28
  tempL := 26
  sysState := 2
  packV := 780
  current := 5000
  soc := 8000
  bmsValid := 1
  tsMs := nowMs
  spdX10 := 250

/-- The value no line may carry. -/
def int32Min : Int := -2147483648

/-- States the receiver does not know become 4, fault. -/
def sanitizeSystemState (raw : Int) : Int := if 1 ≤ raw ∧ raw ≤ 4 then raw else 4

/-- 100 % at most. -/
def sanitizeSoc (raw : Int) : Int := if 10000 < raw then 10000 else raw

/-- The smallest 32-bit number is out of the range of the field. -/
def sanitizeCurrent (raw : Int) : Int := if raw = int32Min then int32Min + 1 else raw

/-- The three of them; the other values are sent as they are. -/
def sanitize (reading : Reading) : Reading :=
  { reading with
    sysState := sanitizeSystemState reading.sysState
    soc := sanitizeSoc reading.soc
    current := sanitizeCurrent reading.current }

@[simp] theorem sensorReading_tsMs (nowMs : ℕ) : (sensorReading nowMs).tsMs = nowMs := rfl

@[simp] theorem sanitize_tsMs (reading : Reading) : (sanitize reading).tsMs = reading.tsMs := rfl

/-- A sanitized reading with the two keys added on the way out. -/
structure PacketFields extends Reading where
  ver : ℕ
  seq : ℕ
  deriving DecidableEq

/-- Replayed from the buffer, or live. -/
inductive PacketKind where
  | replay
  | live
  deriving DecidableEq

/-- A packet with the tick in which it is sent. -/
structure EmittedPacket where
  tickNowMs : ℕ
  kind : PacketKind
  fields : PacketFields
  deriving DecidableEq

/-- What the rehearsal gives back. -/
structure SimResult where
  /-- in the order in which they are sent -/
  packets : List EmittedPacket
  bufferedOutageTs : List ℕ
  outageStartMs : ℕ
  outageEndMs : ℕ
  deriving DecidableEq

/-! ## The buffer -/

/-- The class of `offline_buffer_sim.py`, with any kind of items as in Python. -/
structure OfflineBufferSim (Item : Type*) where
  capacity : ℕ
  items : List Item

namespace OfflineBufferSim

variable {Item : Type*}

/-- A full buffer drops its first item. -/
def push (item : Item) (b : OfflineBufferSim Item) : OfflineBufferSim Item :=
  { b with items := (if b.items.length = b.capacity then b.items.tail else b.items) ++ [item] }

/-- The first item. -/
def peek (b : OfflineBufferSim Item) : Option Item := b.items.head?

/-- Removes the first item. -/
def dropFront (b : OfflineBufferSim Item) : OfflineBufferSim Item × Bool :=
  if b.items.isEmpty then (b, false) else ({ b with items := b.items.tail }, true)

end OfflineBufferSim

/-! ## The loop -/

/-- The variables of the loop, but for the clock. -/
structure SimState where
  result : SimResult
  buffer : OfflineBufferSim Reading
  seq : ℕ
  lastOfflineSampleMs : ℕ
  hasOfflineSample : Bool

/-- The rule of the firmware, on integers that do not wrap. -/
def contractOfflineShouldSample (nowMs lastSampleMs : ℕ) (hasSample : Bool) : Bool :=
  if !hasSample then true else offlineSamplePeriodMs.toNat ≤ nowMs - lastSampleMs

namespace SimState

/-- Sanitize, add version and number. -/
def packet (nowMs : ℕ) (kind : PacketKind) (seq : ℕ) (reading : Reading) : EmittedPacket :=
  ⟨nowMs, kind, { sanitize reading with ver := loraProtocolVersion, seq := seq }⟩

/-- One more packet, under the next number. -/
def send (nowMs : ℕ) (kind : PacketKind) (reading : Reading) (s : SimState) : SimState :=
  { s with
    seq := s.seq + 1
    result := { s.result with packets := s.result.packets ++ [packet nowMs kind s.seq reading] } }

/-- The body of the replay loop, for the record that `peek` returned. -/
def replayFront (nowMs : ℕ) (buffered : Reading) (s : SimState) : SimState :=
  let s := s.send nowMs .replay buffered
  { s with buffer := s.buffer.dropFront.1 }

/-- The loop over the replays of one tick; an empty buffer breaks out of it. -/
def replayBurst (nowMs : ℕ) : ℕ → SimState → SimState
  | 0, s => s
  | n + 1, s =>
    match s.buffer.peek with
    | none => s
    | some buffered => replayBurst nowMs n (s.replayFront nowMs buffered)

/-- A tick with the link up: replay first, then the live packet. -/
def normalTick (nowMs : ℕ) (s : SimState) : SimState :=
  (s.replayBurst nowMs replayBurstPerTick).send nowMs .live (sensorReading nowMs)

/-- The reading of the tick goes to the buffer. -/
def takeSample (nowMs : ℕ) (s : SimState) : SimState :=
  let reading := sensorReading nowMs
  { s with
    lastOfflineSampleMs := nowMs
    hasOfflineSample := true
    buffer := s.buffer.push reading
    result := { s.result with bufferedOutageTs := s.result.bufferedOutageTs ++ [reading.tsMs] } }

/-- A tick with the link down. -/
def offlineTick (nowMs : ℕ) (s : SimState) : SimState :=
  if contractOfflineShouldSample nowMs s.lastOfflineSampleMs s.hasOfflineSample then
    s.takeSample nowMs
  else s

/-- The outage is a fixed interval of time. -/
def LinkDown (nowMs : ℕ) (s : SimState) : Prop :=
  s.result.outageStartMs ≤ nowMs ∧ nowMs < s.result.outageEndMs

instance (nowMs : ℕ) (s : SimState) : Decidable (s.LinkDown nowMs) :=
  inferInstanceAs (Decidable (_ ∧ _))

/-- One round of the loop. -/
def tick (nowMs : ℕ) (s : SimState) : SimState :=
  if ¬ s.LinkDown nowMs then s.normalTick nowMs else s.offlineTick nowMs

/-- `while now_ms < total_ms` -/
def loop (totalMs nowMs : ℕ) (s : SimState) : SimState :=
  if nowMs < totalMs then loop totalMs (nowMs + loraTxPeriodMs) (s.tick nowMs) else s
termination_by totalMs - nowMs
decreasing_by
  simp only [loraTxPeriodMs]
  omega

end SimState

/-- The time after the outage when the caller leaves it open. Python computes it with floats, which
are exact below 2^53. -/
def defaultPostLiveMs (outageMs : ℕ) : ℕ :=
  let maxBuffered := outageMs / offlineSamplePeriodMs.toNat
  let ticksNeeded := (maxBuffered + replayBurstPerTick - 1) / replayBurstPerTick
  ticksNeeded * loraTxPeriodMs * 3 / 2

/-- The state before the first tick. -/
def SimState.start (preLiveMs outageMs : ℕ) : SimState where
  result := ⟨[], [], preLiveMs, preLiveMs + outageMs⟩
  buffer := ⟨obCapacity, []⟩
  seq := 0
  lastOfflineSampleMs := 0
  hasOfflineSample := false

/-- The whole rehearsal; without a third duration it takes the default. -/
def runOutageSimulation (preLiveMs outageMs : ℕ) (postLiveMs : Option ℕ) : SimResult :=
  let postLiveMs := postLiveMs.getD (defaultPostLiveMs outageMs)
  let totalMs := preLiveMs + outageMs + postLiveMs
  ((SimState.start preLiveMs outageMs).loop totalMs 0).result

end TfnAks.Uplink.Rehearsal
