/-
# TfnAks.Relay.RelayManager — the contactor driver and the MCP23S17 behind it

`lib/RelayManager/RelayManager.cpp`. The driver keeps the ten logical relay bits in one 16-bit word
(`relayState`) and mirrors them, inverted (the hardware is active-low), into the two output latches
of an I/O expander. A method is modelled as its effect on the driver together with the list of
register writes it sends, in order.

The second half is the hardware the writes go to: the chip (`Mcp23s17`), the SPI bus (`SpiBus`,
which says of each transfer since power-on whether it succeeds), and the `Board` that joins them.
-/
import TfnAks.Lib.Runs
import TfnAks.SystemConfig

namespace TfnAks.Relay

open TfnAks.Lib.Runs

/-! ## The chip -/

/-- The two 8-bit ports of the expander: `a` drives channels 0–7, `b` channels 8–15. -/
inductive Port where
  | a
  | b
  deriving DecidableEq, Repr

/-- The registers the driver writes (`IODIRA 0x00`, `IODIRB 0x01`, `OLATA 0x14`, `OLATB 0x15`). -/
inductive Mcp23s17Reg where
  | iodir (p : Port)
  | olat (p : Port)
  deriving DecidableEq, Repr

/-- The registers of the chip the driver writes. -/
structure Mcp23s17 where
  iodira : BitVec 8
  iodirb : BitVec 8
  olata : BitVec 8
  olatb : BitVec 8
  deriving DecidableEq, Repr

/-- After power-on all pins are inputs and, as `begin` notes, `OLAT` is `0x00`. -/
def Mcp23s17.powerOn : Mcp23s17 := ⟨0xFF, 0xFF, 0x00, 0x00⟩

/-- Direction register of a port; 0 is output. -/
def Mcp23s17.iodir (c : Mcp23s17) : Port → BitVec 8
  | .a => c.iodira
  | .b => c.iodirb

/-- Latch register of a port. -/
def Mcp23s17.olat (c : Mcp23s17) : Port → BitVec 8
  | .a => c.olata
  | .b => c.olatb

/-- One transfer that succeeds. -/
def Mcp23s17.write (c : Mcp23s17) (reg : Mcp23s17Reg) (value : BitVec 8) : Mcp23s17 :=
  match reg with
  | .iodir .a => { c with iodira := value }
  | .iodir .b => { c with iodirb := value }
  | .olat .a => { c with olata := value }
  | .olat .b => { c with olatb := value }

/-- The port of a channel. -/
def portOf (ch : Nat) : Port := if ch < 8 then .a else .b

/-- The bit of a channel in its port. -/
def bitOf (ch : Nat) : Nat := if ch < 8 then ch else ch - 8

/-- The output latch of channel `ch` holds a low level (relay ON, were the pin an output). -/
def Mcp23s17.latchLow (c : Mcp23s17) (ch : Nat) : Bool := !(c.olat (portOf ch)).getLsbD (bitOf ch)

/-- The pin of channel `ch` is an output and driven low: the relay is energised. -/
def Mcp23s17.drivenLow (c : Mcp23s17) (ch : Nat) : Bool :=
  !(c.iodir (portOf ch)).getLsbD (bitOf ch) && c.latchLow ch

/-! ## The driver -/

/-- The statics of the driver; `relayState` has bit `ch` set for a closed relay. -/
structure RelayManager where
  relayState : BitVec 16
  /-- `s_spiDev != nullptr` -/
  spiDev : Bool
  initialized : Bool
  deriving DecidableEq, Repr

/-- The initial values of the statics. -/
def RelayManager.powerOn : RelayManager := ⟨0, false, false⟩

/-- A register write. -/
structure SpiWrite where
  reg : Mcp23s17Reg
  value : BitVec 8
  deriving DecidableEq, Repr

/-- `writeRegister`: one SPI transfer, or nothing while there is no device. The result of the
transfer is only logged, so the driver goes on the same way after a failure. -/
def RelayManager.writeRegister (m : RelayManager) (reg : Mcp23s17Reg) (value : BitVec 8) :
    List SpiWrite :=
  if m.spiDev then [⟨reg, value⟩] else []

/-- The byte of `hw` that goes to a port: `hw & 0xFF` and `(hw >> 8) & 0xFF`. -/
def latchByte (hw : BitVec 16) : Port → BitVec 8
  | .a => (hw &&& 0xFF).setWidth 8
  | .b => ((hw >>> 8) &&& 0xFF).setWidth 8

/-- `hw = ~s_relayState`, written to `OLATA` and `OLATB`. -/
def RelayManager.writeLatches (m : RelayManager) : List SpiWrite :=
  let hw := ~~~m.relayState
  m.writeRegister (.olat .a) (latchByte hw .a) ++ m.writeRegister (.olat .b) (latchByte hw .b)

/-- `begin`: `busInit` and `devAdd` say whether `spi_bus_initialize` and `spi_bus_add_device` return
`ESP_OK`. -/
def RelayManager.begin (busInit devAdd : Bool) (m : RelayManager) :
    Bool × RelayManager × List SpiWrite :=
  if !busInit then (false, m, [])
  else if !devAdd then (false, m, [])
  else
    let m := { m with spiDev := true }
    -- latches before directions: an output pin with a low latch energises its relay
    let writes :=
      m.writeRegister (.olat .a) 0xFF ++ m.writeRegister (.olat .b) 0xFF ++
        m.writeRegister (.iodir .a) 0x00 ++ m.writeRegister (.iodir .b) 0x00
    (true, { m with relayState := 0, initialized := true }, writes)

/-- One channel; both latches are written anew. -/
def RelayManager.setRelay (channel : UInt8) (state : Bool) (m : RelayManager) :
    RelayManager × List SpiWrite :=
  if !m.initialized || relayTotalChannels ≤ channel then (m, [])
  else
    let bit := 1#16 <<< channel.toNat
    let m := { m with relayState := if state then m.relayState ||| bit else m.relayState &&& ~~~bit }
    (m, m.writeLatches)

/-- All channels closed. -/
def RelayManager.allOn (m : RelayManager) : RelayManager × List SpiWrite :=
  if !m.initialized then (m, [])
  else
    let m := { m with relayState := (1#16 <<< relayTotalChannels.toNat) - 1 }
    (m, m.writeLatches)

/-- `silent` only decides whether the call is logged. -/
def RelayManager.allOff (_silent : Bool) (m : RelayManager) : RelayManager × List SpiWrite :=
  let m := { m with relayState := 0 }
  (m, m.writeRegister (.olat .a) 0xFF ++ m.writeRegister (.olat .b) 0xFF)

/-- The shadow bit of a channel; channels that do not exist read as open. -/
def RelayManager.getRelayState (m : RelayManager) (channel : UInt8) : Bool :=
  if relayTotalChannels ≤ channel then false else m.relayState.getLsbD channel.toNat

/-- Every relay bit is 0: all contactors are commanded open. -/
def RelayManager.ContactorsOpen (m : RelayManager) : Prop :=
  ∀ channel : UInt8, m.getRelayState channel = false

theorem contactorsOpen_of_relayState_zero {m : RelayManager} (h : m.relayState = 0) :
    m.ContactorsOpen := by
  intro channel
  simp [RelayManager.getRelayState, h]

theorem allOff_contactorsOpen (silent : Bool) (m : RelayManager) :
    (m.allOff silent).1.ContactorsOpen := by
  apply contactorsOpen_of_relayState_zero
  simp only [RelayManager.allOff]

@[simp] theorem allOff_initialized (silent : Bool) (m : RelayManager) :
    (m.allOff silent).1.initialized = m.initialized := by
  simp only [RelayManager.allOff]

@[simp] theorem allOn_initialized (m : RelayManager) :
    m.allOn.1.initialized = m.initialized := by
  by_cases h : m.initialized = true <;> simp [RelayManager.allOn, h]

/-! ## The driver's calls as one type -/

/-- A call of the driver. -/
inductive RelayOp where
  | begin (busInit devAdd : Bool)
  | setRelay (channel : UInt8) (state : Bool)
  | allOn
  | allOff (silent : Bool)
  deriving DecidableEq, Repr

/-- The driver after the call, and the register writes of the call. -/
def RelayOp.call (m : RelayManager) : RelayOp → RelayManager × List SpiWrite
  | .begin busInit devAdd => (m.begin busInit devAdd).2
  | .setRelay channel state => m.setRelay channel state
  | .allOn => m.allOn
  | .allOff silent => m.allOff silent

/-- The channels the call asks to energise, as a mask. -/
def RelayOp.requests : RelayOp → BitVec 16
  | .setRelay channel true => 1#16 <<< channel.toNat
  | .allOn => 0x3FF
  | _ => 0

/-! ## Driver, bus and chip together -/

/-- `spi n` says whether the `n`-th `spi_device_transmit` since power-on returns `ESP_OK`. -/
abbrev SpiBus := Nat → Bool

/-- The driver and the chip behind its bus. -/
structure Board where
  mgr : RelayManager
  chip : Mcp23s17
  /-- transfers attempted since power-on -/
  transmits : Nat
  /-- channels some call since power-on asked to energise -/
  requested : BitVec 16

/-- Both as they come out of power-on. -/
def Board.powerOn : Board := ⟨.powerOn, .powerOn, 0, 0⟩

/-- One transfer. A failed one leaves the register as it was. -/
def Board.transmit (spi : SpiBus) (b : Board) (w : SpiWrite) : Board :=
  { b with
    chip := if spi b.transmits then b.chip.write w.reg w.value else b.chip
    transmits := b.transmits + 1 }

/-- The board when a call has been made and none of its register writes is out yet. -/
def Board.enter (b : Board) (op : RelayOp) : Board :=
  { b with mgr := (op.call b.mgr).1, requested := b.requested ||| op.requests }

/-- The board after a call with all its register writes. -/
def Board.step (spi : SpiBus) (b : Board) (op : RelayOp) : Board :=
  exec (Board.transmit spi) (b.enter op) (op.call b.mgr).2

end TfnAks.Relay
