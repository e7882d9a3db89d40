/-
# TfnAks.Relay.ShadowState — the driver's shadow word is what the latches hold

`relayState` is the driver's own idea of the relays; nothing ever reads the chip back. As long as
every SPI transfer succeeds that idea is right: once `begin` has returned true, each of the ten
channels has a low latch exactly when its bit is set, and the bit is what the last call about the
channel asked for. The other six pins of the chip stay high, between the register writes of a call
too.
-/
import TfnAks.Relay.PowerOnSafety

namespace TfnAks.Relay

open TfnAks.Lib.Runs

/-- A bus on which every transfer succeeds. -/
def allSucceed : SpiBus := fun _ => true

/-- What a call asks of a channel, `none` if it does not affect it. -/
def RelayOp.asks (ch : UInt8) : RelayOp → Option Bool
  | .begin busInit devAdd => if busInit && devAdd then some false else none
  | .setRelay channel state => if channel = ch then some state else none
  | .allOn => some true
  | .allOff _ => some false

/-- What the last call that affects the channel asks of it. -/
def lastAsked (ops : List RelayOp) (ch : UInt8) : Option Bool :=
  (ops.filterMap (RelayOp.asks ch)).getLast?

/-- The latches of the pins that drive no relay are high. -/
def Board.UnusedHigh (b : Board) : Prop :=
  ∀ pin, 10 ≤ pin → pin < 16 → b.chip.latchLow pin = false

theorem lastAsked_concat (ops : List RelayOp) (op : RelayOp) (ch : UInt8) :
    lastAsked (ops ++ [op]) ch = (op.asks ch).or (lastAsked ops ch) := by
  rw [lastAsked, lastAsked, List.filterMap_append]
  cases h : op.asks ch with
  | none => simp [h]
  | some state => simp [h]

/-! ## The bits of the shadow word -/

theorem toNat_lt_ten {ch : UInt8} (h : ch < 10) : ch.toNat < 10 := UInt8.lt_iff_toNat_lt.mp h

/-- `allOn` sets the ten channels and no other bit. -/
theorem allOn_bits_getLsbD (pin : Nat) :
    ((1#16 <<< relayTotalChannels.toNat) - 1).getLsbD pin = decide (pin < 10) := by
  have hmask : (1#16 <<< relayTotalChannels.toNat) - 1 = BitVec.ofNat 16 (2 ^ 10 - 1) := by decide
  rw [hmask, BitVec.getLsbD_ofNat, Nat.testBit_two_pow_sub_one]
  by_cases h : pin < 10
  · simp [h, Nat.lt_trans h]
  · simp [h]

section Bits

variable {m : RelayManager}

/-- The bits of a `setRelay` that is carried out. -/
theorem setRelay_getLsbD (hi : m.initialized = true) {channel : UInt8} (hch : channel < 10)
    (state : Bool) (pin : Nat) :
    (m.setRelay channel state).1.relayState.getLsbD pin =
      if channel.toNat = pin then state else m.relayState.getLsbD pin := by
  have hlt := toNat_lt_ten hch
  have hvalid : (!m.initialized || decide (relayTotalChannels ≤ channel)) = false := by
    have hle : ¬ relayTotalChannels ≤ channel := UInt8.not_le.mpr hch
    rw [hi, decide_eq_false hle]
    rfl
  simp only [RelayManager.setRelay, hvalid, Bool.false_eq_true, if_false]
  rw [← BitVec.twoPow_eq]
  by_cases hpin : channel.toNat = pin
  · subst hpin
    cases state <;> simp [Nat.lt_trans hlt]
  · cases state with
    | true => simp [hpin]
    | false =>
        simp only [Bool.false_eq_true, if_false, if_neg hpin, BitVec.getLsbD_and,
          BitVec.getLsbD_not, BitVec.getLsbD_twoPow, decide_eq_false hpin, Bool.and_false,
          Bool.not_false, Bool.and_true]
        by_cases hwide : pin < 16
        · simp [hwide]
        · simp [hwide, BitVec.getLsbD_of_ge m.relayState pin (Nat.not_lt.mp hwide)]

theorem setRelay_of_invalid {channel : UInt8} (h : 10 ≤ channel) (state : Bool) (m : RelayManager) :
    m.setRelay channel state = (m, []) := by
  have hinvalid : (!m.initialized || decide (relayTotalChannels ≤ channel)) = true := by
    rw [decide_eq_true (show relayTotalChannels ≤ channel from h), Bool.or_true]
  rw [RelayManager.setRelay, if_pos hinvalid]

theorem allOn_of_initialized (hi : m.initialized = true) :
    m.allOn.1.relayState = (1#16 <<< relayTotalChannels.toNat) - 1 := by
  simp [RelayManager.allOn, hi]

/-- **A call and a channel**: the bit becomes what the call asks for, or stays. -/
theorem call_getLsbD (hi : m.initialized = true) (op : RelayOp) {ch : UInt8} (hch : ch < 10) :
    (op.call m).1.relayState.getLsbD ch.toNat =
      (op.asks ch).getD (m.relayState.getLsbD ch.toNat) := by
  cases op with
  | begin busInit devAdd =>
      cases busInit <;> cases devAdd <;> simp [RelayOp.call, RelayManager.begin, RelayOp.asks]
  | setRelay channel state =>
      rw [RelayOp.call, RelayOp.asks]
      by_cases hvalid : channel < 10
      · rw [setRelay_getLsbD hi hvalid]
        by_cases heq : channel = ch
        · rw [if_pos heq, if_pos (congrArg UInt8.toNat heq), Option.getD_some]
        · rw [if_neg heq, if_neg (mt UInt8.toNat_inj.mp heq), Option.getD_none]
      · have hne : channel ≠ ch := by
          rintro rfl
          exact hvalid hch
        rw [setRelay_of_invalid (UInt8.not_lt.mp hvalid), if_neg hne, Option.getD_none]
  | allOn =>
      rw [RelayOp.call, allOn_of_initialized hi, allOn_bits_getLsbD, RelayOp.asks,
        Option.getD_some, decide_eq_true (toNat_lt_ten hch)]
  | allOff silent => simp [RelayOp.call, RelayManager.allOff, RelayOp.asks]

/-- No call sets a bit beyond the ten channels. -/
theorem call_unused (hi : m.initialized = true) (op : RelayOp) {pin : Nat} (hpin : 10 ≤ pin)
    (h : m.relayState.getLsbD pin = false) : (op.call m).1.relayState.getLsbD pin = false := by
  cases op with
  | begin busInit devAdd =>
      cases busInit <;> cases devAdd <;> simp [RelayOp.call, RelayManager.begin, h]
  | setRelay channel state =>
      rw [RelayOp.call]
      by_cases hvalid : channel < 10
      · have hne : channel.toNat ≠ pin := by
          have hlt := toNat_lt_ten hvalid
          omega
        rw [setRelay_getLsbD hi hvalid, if_neg hne, h]
      · rw [setRelay_of_invalid (UInt8.not_lt.mp hvalid), h]
  | allOn =>
      rw [RelayOp.call, allOn_of_initialized hi, allOn_bits_getLsbD]
      exact decide_eq_false (Nat.not_lt.mpr hpin)
  | allOff silent => simp [RelayOp.call, RelayManager.allOff]

end Bits

/-! ## The register writes -/

/-- A direction register is written, not a latch. -/
def SpiWrite.IsDirection (w : SpiWrite) : Prop := ∃ p value, w = ⟨.iodir p, value⟩

theorem writeLatches_of_device {m : RelayManager} (hd : m.spiDev = true) :
    m.writeLatches =
      [⟨.olat .a, latchByte (~~~m.relayState) .a⟩, ⟨.olat .b, latchByte (~~~m.relayState) .b⟩] := by
  simp [RelayManager.writeLatches, RelayManager.writeRegister, hd]

/-- A shadow word of 0 is written as 0xFF. -/
theorem writeLatches_of_zero {m : RelayManager} (hd : m.spiDev = true) (h : m.relayState = 0) :
    m.writeLatches = [⟨.olat .a, 0xFF⟩, ⟨.olat .b, 0xFF⟩] := by
  rw [writeLatches_of_device hd, h]
  decide

/-- A device is never given up. -/
theorem call_spiDev {m : RelayManager} (hd : m.spiDev = true) (op : RelayOp) :
    (op.call m).1.spiDev = true := by
  cases op with
  | begin busInit devAdd =>
      cases busInit <;> cases devAdd <;> simp [RelayOp.call, RelayManager.begin, hd]
  | setRelay channel state =>
      simp only [RelayOp.call, RelayManager.setRelay]
      split <;> simp [hd]
  | allOn =>
      rw [RelayOp.call]
      by_cases hi : m.initialized = true <;> simp [RelayManager.allOn, hi, hd]
  | allOff silent => simp [RelayOp.call, RelayManager.allOff, hd]

/-- With a device, a call does nothing at all or writes its new shadow word to both latches, `begin`
with the directions after it. -/
theorem call_writes {m : RelayManager} (hd : m.spiDev = true) (op : RelayOp) :
    op.call m = (m, []) ∨
      ∃ dirs, (∀ w ∈ dirs, SpiWrite.IsDirection w) ∧
        (op.call m).2 = (op.call m).1.writeLatches ++ dirs := by
  have hlatches : (op.call m).2 = (op.call m).1.writeLatches →
      ∃ dirs, (∀ w ∈ dirs, SpiWrite.IsDirection w) ∧
        (op.call m).2 = (op.call m).1.writeLatches ++ dirs := by
    intro h
    refine ⟨[], by simp, ?_⟩
    rw [List.append_nil, h]
  have hdev := call_spiDev hd op
  cases op with
  | begin busInit devAdd =>
      cases busInit with
      | false => exact .inl (by simp [RelayOp.call, RelayManager.begin])
      | true =>
          cases devAdd with
          | false => exact .inl (by simp [RelayOp.call, RelayManager.begin])
          | true =>
              have hzero : ((RelayOp.begin true true).call m).1.relayState = 0 := by
                simp [RelayOp.call, RelayManager.begin]
              -- the latches first, then the two direction registers
              refine .inr ⟨[⟨.iodir .a, 0x00⟩, ⟨.iodir .b, 0x00⟩], ?_, ?_⟩
              · intro w hw
                simp only [List.mem_cons, List.not_mem_nil, or_false] at hw
                rcases hw with rfl | rfl <;> exact ⟨_, _, rfl⟩
              · rw [writeLatches_of_zero hdev hzero, call_begin_writes]
                simp only [List.cons_append, List.nil_append]
  | setRelay channel state =>
      refine Or.imp id hlatches ?_
      simp only [RelayOp.call, RelayManager.setRelay]
      split
      · exact .inl rfl
      · exact .inr rfl
  | allOn =>
      refine Or.imp id hlatches ?_
      simp only [RelayOp.call, RelayManager.allOn]
      split
      · exact .inl rfl
      · exact .inr rfl
  | allOff silent =>
      have hzero : ((RelayOp.allOff silent).call m).1.relayState = 0 := by
        simp [RelayOp.call, RelayManager.allOff]
      refine .inr (hlatches ?_)
      rw [writeLatches_of_zero hdev hzero]
      simp [RelayOp.call, RelayManager.allOff, RelayManager.writeRegister, hd]

theorem transmit_allSucceed_chip (b : Board) (w : SpiWrite) :
    (b.transmit allSucceed w).chip = b.chip.write w.reg w.value := rfl

/-- The latches after both have been written: low exactly where a bit is set. -/
theorem latchLow_writeLatches {m : RelayManager} (hd : m.spiDev = true) (b : Board) {pin : Nat}
    (hpin : pin < 16) :
    (exec (Board.transmit allSucceed) b m.writeLatches).chip.latchLow pin =
      m.relayState.getLsbD pin := by
  rw [writeLatches_of_device hd, exec_cons, exec_cons, exec_nil, transmit_allSucceed_chip,
    transmit_allSucceed_chip, latchLow_write, latchLow_write]
  have hbyte := latchByte_getLsbD m.relayState hpin
  cases hport : portOf pin with
  | a =>
      rw [hport] at hbyte
      rw [if_neg (by simp), if_pos rfl, hbyte, Bool.not_not]
  | b =>
      rw [hport] at hbyte
      rw [if_pos rfl, hbyte, Bool.not_not]

/-- Writing directions moves no latch. -/
theorem latchLow_directions {dirs : List SpiWrite} (hdirs : ∀ w ∈ dirs, SpiWrite.IsDirection w)
    (b : Board) (pin : Nat) :
    (exec (Board.transmit allSucceed) b dirs).chip.latchLow pin = b.chip.latchLow pin := by
  have hstep : ∀ (c : Board) (w : SpiWrite), w.IsDirection →
      c.chip.latchLow pin = b.chip.latchLow pin →
        (c.transmit allSucceed w).chip.latchLow pin = b.chip.latchLow pin := by
    rintro c w ⟨p, value, rfl⟩ hc
    rw [transmit_allSucceed_chip, latchLow_write, if_neg (by simp), hc]
  exact exec_invariant_of_forall hstep rfl hdirs

/-! ## One call -/

/-- What holds between calls once `begin` has returned true. -/
structure Board.Mirrors (ops : List RelayOp) (b : Board) : Prop where
  initialized : b.mgr.initialized = true
  spiDev : b.mgr.spiDev = true
  latch : ∀ pin < 16, b.chip.latchLow pin = b.mgr.relayState.getLsbD pin
  unused : ∀ pin, 10 ≤ pin → b.mgr.relayState.getLsbD pin = false
  channel : ∀ ch < 10, lastAsked ops ch = some (b.mgr.relayState.getLsbD ch.toNat)

theorem Board.Mirrors.unusedHigh {ops : List RelayOp} {b : Board} (h : b.Mirrors ops) :
    b.UnusedHigh := by
  intro pin hpin hlt
  rw [h.latch pin hlt, h.unused pin hpin]

theorem step_mgr (b : Board) (op : RelayOp) :
    (b.step allSucceed op).mgr = (op.call b.mgr).1 :=
  (exec_transmit_fields allSucceed (b.enter op) (op.call b.mgr).2).2

/-- The latches after a call that has a device: those of the new shadow word. -/
theorem step_latch {b : Board} (hd : b.mgr.spiDev = true) (op : RelayOp)
    (hlatch : ∀ pin < 16, b.chip.latchLow pin = b.mgr.relayState.getLsbD pin) {pin : Nat}
    (hpin : pin < 16) :
    (b.step allSucceed op).chip.latchLow pin =
      (b.step allSucceed op).mgr.relayState.getLsbD pin := by
  rw [step_mgr, Board.step]
  rcases call_writes hd op with hnone | ⟨dirs, hdirs, hwrites⟩
  · rw [hnone]
    exact hlatch pin hpin
  · rw [hwrites, exec_append, latchLow_directions hdirs,
      latchLow_writeLatches (call_spiDev hd op) _ hpin]

/-- **The step lemma.** -/
theorem step_mirrors {ops : List RelayOp} {b : Board} (h : b.Mirrors ops) (op : RelayOp) :
    (b.step allSucceed op).Mirrors (ops ++ [op]) where
  initialized := by
    rw [step_mgr]
    exact call_initialized op h.initialized
  spiDev := by
    rw [step_mgr]
    exact call_spiDev h.spiDev op
  latch _ hpin := step_latch h.spiDev op h.latch hpin
  unused pin hpin := by
    rw [step_mgr]
    exact call_unused h.initialized op hpin (h.unused pin hpin)
  channel ch hch := by
    rw [step_mgr, lastAsked_concat, call_getLsbD h.initialized op hch, h.channel ch hch]
    cases op.asks ch <;> rfl

/-- `begin` sets it all up, whatever was before. -/
theorem begin_mirrors (ops : List RelayOp) (b : Board) :
    (b.step allSucceed (.begin true true)).Mirrors (ops ++ [.begin true true]) where
  initialized := by rw [step_mgr]; rfl
  spiDev := by rw [step_mgr]; rfl
  latch pin hpin := by
    have hhigh : (b.step allSucceed (.begin true true)).chip.olat (portOf pin) = 0xFF := by
      rw [begin_olat]
      cases portOf pin <;> rfl
    rw [step_mgr, Mcp23s17.latchLow, hhigh, allOnes_getLsbD (bitOf_lt hpin)]
    simp [RelayOp.call, RelayManager.begin]
  unused pin _ := by
    rw [step_mgr]
    simp [RelayOp.call, RelayManager.begin]
  channel ch _ := by
    rw [step_mgr, lastAsked_concat]
    simp [RelayOp.call, RelayManager.begin, RelayOp.asks]

/-- The write puts no zero bit into the latch of an unused pin. -/
def SpiWrite.KeepsUnusedHigh (w : SpiWrite) : Prop :=
  ∀ pin, 10 ≤ pin → pin < 16 → w.reg = .olat (portOf pin) → w.value.getLsbD (bitOf pin) = true

theorem writeLatches_keepsUnusedHigh {m : RelayManager} (hd : m.spiDev = true)
    (h : ∀ pin, 10 ≤ pin → m.relayState.getLsbD pin = false) :
    ∀ w ∈ m.writeLatches, w.KeepsUnusedHigh := by
  intro w hw pin hpin hlt hreg
  have hbyte := latchByte_getLsbD m.relayState hlt
  rw [h pin hpin, Bool.not_false] at hbyte
  rw [writeLatches_of_device hd, List.mem_cons, List.mem_singleton] at hw
  rcases hw with rfl | rfl
  · rw [← Mcp23s17Reg.olat.inj hreg] at hbyte
    exact hbyte
  · rw [← Mcp23s17Reg.olat.inj hreg] at hbyte
    exact hbyte

/-- The six other pins stay high all through a call. -/
theorem unusedHigh_during {ops : List RelayOp} {b : Board} (h : b.Mirrors ops) (op : RelayOp) :
    Always (Board.transmit allSucceed) (b.enter op) (op.call b.mgr).2 Board.UnusedHigh := by
  have hunused : ∀ pin, 10 ≤ pin → (op.call b.mgr).1.relayState.getLsbD pin = false :=
    fun pin hpin => call_unused h.initialized op hpin (h.unused pin hpin)
  have hkeeps : ∀ (c : Board) (w : SpiWrite), w.KeepsUnusedHigh → c.UnusedHigh →
      (c.transmit allSucceed w).UnusedHigh := by
    intro c w hw hc pin hpin hlt
    rw [transmit_allSucceed_chip, latchLow_write]
    split
    · rename_i hreg
      rw [hw pin hpin hlt hreg, Bool.not_true]
    · exact hc pin hpin hlt
  have henter : (b.enter op).UnusedHigh := h.unusedHigh
  refine always_of_forall hkeeps henter ?_
  -- a write of the call is one of the two latches of the shadow word, or a direction
  intro w hw
  rcases call_writes h.spiDev op with hnone | ⟨dirs, hdirs, hwrites⟩
  · rw [hnone] at hw
    exact absurd hw List.not_mem_nil
  · rw [hwrites, List.mem_append] at hw
    rcases hw with hw | hw
    · exact writeLatches_keepsUnusedHigh (call_spiDev h.spiDev op) hunused w hw
    · obtain ⟨p, value, rfl⟩ := hdirs w hw
      intro pin _ _ hreg
      cases hreg

/-! ## Every run -/

/-- Before the first `begin` that returns true there is no device. -/
theorem exec_without_begin {ops : List RelayOp} (h : .begin true true ∉ ops) :
    (exec (Board.step allSucceed) Board.powerOn ops).mgr.initialized = false ∧
      (exec (Board.step allSucceed) Board.powerOn ops).mgr.spiDev = false := by
  have hstep : ∀ (b : Board) (op : RelayOp), op ≠ .begin true true →
      b.mgr.initialized = false ∧ b.mgr.spiDev = false →
        (b.step allSucceed op).mgr.initialized = false ∧
          (b.step allSucceed op).mgr.spiDev = false := by
    rintro b op hop ⟨hi, hd⟩
    rw [step_mgr]
    exact (call_without_device hop hi hd).2
  refine exec_invariant_of_forall hstep ⟨rfl, rfl⟩ ?_
  rintro op hop rfl
  exact h hop

theorem exec_mirrors {ops : List RelayOp} (h : .begin true true ∈ ops) :
    (exec (Board.step allSucceed) Board.powerOn ops).Mirrors ops := by
  induction ops using List.reverseRecOn with
  | nil => exact absurd h List.not_mem_nil
  | append_singleton ops op ih =>
      rw [exec_append, exec_cons, exec_nil]
      by_cases hearlier : .begin true true ∈ ops
      · exact step_mirrors (ih hearlier) op
      · rw [List.mem_append, List.mem_singleton] at h
        rw [← h.resolve_left hearlier]
        exact begin_mirrors ops _

/-- **The shadow state is the hardware.** Over every sequence of calls from power-on with all
transfers succeeding: once a `begin` has returned true, the latch of each of the ten channels is low
exactly when its bit is set, which is what the last call about it asked for, and the pins 10–15 are
high after each call and all through the next one; a `setRelay` of another channel writes nothing,
and before the first successful `begin` no other call writes anything. -/
theorem shadow_mirrors_latches (ops : List RelayOp) :
    let b := exec (Board.step allSucceed) Board.powerOn ops
    (.begin true true ∈ ops →
      (∀ ch : UInt8, ch < 10 →
        (b.chip.latchLow ch.toNat = true ↔ b.mgr.getRelayState ch = true) ∧
          (b.mgr.getRelayState ch = true ↔ lastAsked ops ch = some true)) ∧
      b.UnusedHigh ∧
      ∀ op : RelayOp,
        Always (Board.transmit allSucceed) (b.enter op) (op.call b.mgr).2 Board.UnusedHigh) ∧
    (∀ (channel : UInt8) (state : Bool), 10 ≤ channel →
      ((RelayOp.setRelay channel state).call b.mgr).2 = []) ∧
    (.begin true true ∉ ops → ∀ op : RelayOp, op ≠ .begin true true → (op.call b.mgr).2 = []) := by
  intro b
  refine ⟨fun hbegun => ?_, ?_, ?_⟩
  · have hb : b.Mirrors ops := exec_mirrors hbegun
    refine ⟨?_, hb.unusedHigh, unusedHigh_during hb⟩
    intro ch hch
    have hlt := toNat_lt_ten hch
    have hstate : b.mgr.getRelayState ch = b.mgr.relayState.getLsbD ch.toNat := by
      exact if_neg (UInt8.not_le.mpr hch)
    rw [hstate, hb.latch ch.toNat (by omega), hb.channel ch hch]
    exact ⟨Iff.rfl, ⟨congrArg some, Option.some.inj⟩⟩
  · intro channel state hch
    rw [RelayOp.call, setRelay_of_invalid hch]
  · intro hbegun op hop
    obtain ⟨hi, hd⟩ := exec_without_begin hbegun
    exact (call_without_device hop hi hd).1

end TfnAks.Relay
