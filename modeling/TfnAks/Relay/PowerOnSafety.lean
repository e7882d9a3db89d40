/-
# TfnAks.Relay.PowerOnSafety — no relay fires unasked, and what the driver needs for it

`begin` writes both output latches high before it turns the pins into outputs, because the chip
powers on with low latches and a low output energises its relay. The order of the four writes is
right; what it cannot see is a latch write that fails, since `writeRegister` only logs the failure
and `begin` goes on to the direction registers.

`unrequested_iff` is exact about this: over every sequence of calls and every pattern of failing
transfers, no relay is driven unasked and `begin` leaves both latches high exactly when, in every
`begin` that reaches its writes, each latch write succeeds or finds the latch already high.
-/
import Mathlib.Tactic.IntervalCases
import TfnAks.Relay.RelayManager

namespace TfnAks.Relay

open TfnAks.Lib.Runs

/-! ## The property -/

/-- An output pin of the ten channels is driven low only if some call asked for its channel. -/
def Board.Safe (b : Board) : Prop :=
  ∀ ch < 10, b.chip.drivenLow ch = true → b.requested.getLsbD ch = true

/-- The board is safe at every point of a call: when it is made and after each register write. -/
def Board.SafeDuring (spi : SpiBus) (b : Board) (op : RelayOp) : Prop :=
  Always (Board.transmit spi) (b.enter op) (op.call b.mgr).2 Board.Safe

/-- A `begin` that returns true leaves both output latches at `0xFF`. -/
def Board.BeginLatchesHigh (spi : SpiBus) (b : Board) (op : RelayOp) : Prop :=
  ∀ busInit devAdd, op = .begin busInit devAdd → (b.mgr.begin busInit devAdd).1 = true →
    ∀ p, (b.step spi op).chip.olat p = 0xFF

/-- The condition on the bus: when a `begin` gets a device, each of its two latch writes succeeds,
unless the latch holds `0xFF` already. -/
def Board.LatchWritesLand (spi : SpiBus) (b : Board) (op : RelayOp) : Prop :=
  op = .begin true true →
    (spi b.transmits = true ∨ b.chip.olata = 0xFF) ∧
      (spi (b.transmits + 1) = true ∨ b.chip.olatb = 0xFF)

/-! ## Latches and requests -/

/-- Every low latch belongs to a channel some call asked for. -/
def Board.Covered (b : Board) : Prop :=
  ∀ ch < 10, b.chip.latchLow ch = true → b.requested.getLsbD ch = true

/-- Both ports are still inputs, as at power-on. -/
def Board.AllInputs (b : Board) : Prop := b.chip.iodira = 0xFF ∧ b.chip.iodirb = 0xFF

theorem bitOf_lt {ch : Nat} (h : ch < 16) : bitOf ch < 8 := by
  unfold bitOf
  split <;> omega

theorem allOnes_getLsbD {k : Nat} (h : k < 8) : (0xFF : BitVec 8).getLsbD k = true := by
  revert k
  decide

theorem Board.Covered.safe {b : Board} (h : b.Covered) : b.Safe := by
  intro ch hch hlow
  rw [Mcp23s17.drivenLow, Bool.and_eq_true] at hlow
  exact h ch hch hlow.2

theorem Board.AllInputs.safe {b : Board} (h : b.AllInputs) : b.Safe := by
  intro ch hch hlow
  have hport : b.chip.iodir (portOf ch) = 0xFF := by
    cases portOf ch
    · exact h.1
    · exact h.2
  rw [Mcp23s17.drivenLow, hport, allOnes_getLsbD (bitOf_lt (by omega))] at hlow
  simp at hlow

theorem Board.covered_of_latches_high {b : Board} (h : ∀ p, b.chip.olat p = 0xFF) : b.Covered := by
  intro ch hch hlow
  rw [Mcp23s17.latchLow, h, allOnes_getLsbD (bitOf_lt (by omega))] at hlow
  simp at hlow

theorem latchLow_write (c : Mcp23s17) (reg : Mcp23s17Reg) (value : BitVec 8) (ch : Nat) :
    (c.write reg value).latchLow ch =
      if reg = .olat (portOf ch) then !value.getLsbD (bitOf ch) else c.latchLow ch := by
  unfold Mcp23s17.latchLow
  cases reg with
  | iodir p => cases p <;> cases portOf ch <;> simp [Mcp23s17.write, Mcp23s17.olat]
  | olat p => cases p <;> cases portOf ch <;> simp [Mcp23s17.write, Mcp23s17.olat]

/-- The zero bits a register write puts into a latch all belong to requested channels. -/
def SpiWrite.CoveredBy (w : SpiWrite) (requested : BitVec 16) : Prop :=
  ∀ ch < 10, w.reg = .olat (portOf ch) → w.value.getLsbD (bitOf ch) = false →
    requested.getLsbD ch = true

theorem coveredBy_allOnes (reg : Mcp23s17Reg) (requested : BitVec 16) :
    SpiWrite.CoveredBy ⟨reg, 0xFF⟩ requested := by
  intro ch hch _ hbit
  rw [allOnes_getLsbD (bitOf_lt (by omega))] at hbit
  exact absurd hbit (by simp)

theorem coveredBy_iodir (p : Port) (value : BitVec 8) (requested : BitVec 16) :
    SpiWrite.CoveredBy ⟨.iodir p, value⟩ requested := by
  intro ch _ hreg
  exact absurd hreg (by simp)

@[simp] theorem transmit_requested (spi : SpiBus) (b : Board) (w : SpiWrite) :
    (b.transmit spi w).requested = b.requested := rfl

@[simp] theorem transmit_mgr (spi : SpiBus) (b : Board) (w : SpiWrite) :
    (b.transmit spi w).mgr = b.mgr := rfl

@[simp] theorem transmit_transmits (spi : SpiBus) (b : Board) (w : SpiWrite) :
    (b.transmit spi w).transmits = b.transmits + 1 := rfl

theorem transmit_chip (spi : SpiBus) (b : Board) (w : SpiWrite) :
    (b.transmit spi w).chip = if spi b.transmits = true then b.chip.write w.reg w.value else b.chip :=
  rfl

/-- A register write keeps the board covered, whether it succeeds or not. -/
theorem transmit_covered {spi : SpiBus} {b : Board} {w : SpiWrite} (hb : b.Covered)
    (hw : w.CoveredBy b.requested) : (b.transmit spi w).Covered := by
  intro ch hch hlow
  rw [transmit_requested]
  rw [transmit_chip] at hlow
  split at hlow
  · rw [latchLow_write] at hlow
    split at hlow
    · rename_i hreg
      exact hw ch hch hreg (by simpa using hlow)
    · exact hb ch hch hlow
  · exact hb ch hch hlow

theorem transmit_allInputs {spi : SpiBus} {b : Board} {p : Port} {value : BitVec 8}
    (hb : b.AllInputs) : (b.transmit spi ⟨.olat p, value⟩).AllInputs := by
  unfold Board.AllInputs
  rw [transmit_chip]
  split
  · cases p <;> exact hb
  · exact hb

/-- A whole list of covered writes leaves the board covered at every point. -/
theorem always_covered (spi : SpiBus) {b : Board} {ws : List SpiWrite} (hb : b.Covered)
    (hws : ∀ w ∈ ws, w.CoveredBy b.requested) :
    Always (Board.transmit spi) b ws Board.Covered := by
  induction ws generalizing b with
  | nil => exact always_nil.mpr hb
  | cons w ws ih =>
      rw [List.forall_mem_cons] at hws
      exact always_cons.mpr ⟨hb, ih (transmit_covered hb hws.1) hws.2⟩

/-! ## What the calls write -/

/-- Relay bits are only ever set for channels below ten that some call asked for. -/
def Board.BitsRequested (b : Board) : Prop :=
  ∀ ch, b.mgr.relayState.getLsbD ch = true → b.requested.getLsbD ch = true

/-- The inverted state, cut into the two latch bytes, is low exactly on the set channels. -/
theorem latchByte_getLsbD (state : BitVec 16) {ch : Nat} (h : ch < 16) :
    (latchByte (~~~state) (portOf ch)).getLsbD (bitOf ch) = !state.getLsbD ch := by
  unfold portOf bitOf
  interval_cases ch <;> simp [latchByte]

theorem writeLatches_coveredBy {m : RelayManager} {requested : BitVec 16}
    (h : ∀ ch, m.relayState.getLsbD ch = true → requested.getLsbD ch = true) :
    ∀ w ∈ m.writeLatches, w.CoveredBy requested := by
  intro w hw ch hch hreg hbit
  apply h
  have hvalue : w.value = latchByte (~~~m.relayState) (portOf ch) := by
    simp only [RelayManager.writeLatches, RelayManager.writeRegister] at hw
    split at hw
    · simp only [List.cons_append, List.nil_append, List.mem_cons, List.not_mem_nil, or_false] at hw
      rcases hw with rfl | rfl
      · rw [← Mcp23s17Reg.olat.inj hreg]
      · rw [← Mcp23s17Reg.olat.inj hreg]
    · simp at hw
  rw [hvalue, latchByte_getLsbD m.relayState (by omega)] at hbit
  simpa using hbit

/-! ## One call -/

/-- What holds between calls as long as the latch writes of every `begin` land: before the first
`begin` that gets a device nothing has been written, and after it the latches are covered. -/
structure Board.Sound (b : Board) : Prop where
  bits : b.BitsRequested
  fresh : b.mgr.initialized = false → b.mgr.spiDev = false ∧ b.chip = .powerOn
  covered : b.mgr.initialized = true → b.Covered

theorem Board.sound_powerOn : Board.powerOn.Sound where
  bits := by intro ch h; simp [Board.powerOn, RelayManager.powerOn] at h
  fresh := fun _ => ⟨rfl, rfl⟩
  covered := by intro h; simp [Board.powerOn, RelayManager.powerOn] at h

theorem exec_transmit_fields (spi : SpiBus) (b : Board) (ws : List SpiWrite) :
    (exec (Board.transmit spi) b ws).requested = b.requested ∧
      (exec (Board.transmit spi) b ws).mgr = b.mgr := by
  refine exec_invariant (I := fun c : Board => c.requested = b.requested ∧ c.mgr = b.mgr) ?_ ⟨rfl, rfl⟩ ws
  rintro c w ⟨hr, hm⟩
  exact ⟨by rw [transmit_requested, hr], by rw [transmit_mgr, hm]⟩

theorem enter_covered {b : Board} (h : b.Covered) (op : RelayOp) : (b.enter op).Covered := by
  intro ch hch hlow
  simp [Board.enter, h ch hch hlow]

theorem enter_bits {b : Board} (h : b.BitsRequested) (op : RelayOp) :
    (b.enter op).BitsRequested := by
  intro ch hch
  have hold := h ch
  simp only [Board.enter, BitVec.getLsbD_or, Bool.or_eq_true] at hch ⊢
  cases op with
  | begin busInit devAdd =>
      refine Or.inl (hold ?_)
      cases busInit <;> cases devAdd <;> simp_all [RelayOp.call, RelayManager.begin]
  | setRelay channel state =>
      simp only [RelayOp.call, RelayManager.setRelay] at hch
      split at hch
      · exact Or.inl (hold hch)
      · cases state with
        | true =>
            simp only [if_true, BitVec.getLsbD_or, Bool.or_eq_true] at hch
            exact hch.imp hold id
        | false =>
            simp only [Bool.false_eq_true, if_false, BitVec.getLsbD_and, Bool.and_eq_true] at hch
            exact Or.inl (hold hch.1)
  | allOn =>
      simp only [RelayOp.call, RelayManager.allOn] at hch
      split at hch
      · exact Or.inl (hold hch)
      · exact Or.inr hch
  | allOff silent =>
      simp [RelayOp.call, RelayManager.allOff] at hch

/-- Whatever a call writes is covered by the requests made up to and including it. -/
theorem call_coveredBy {b : Board} (h : b.BitsRequested) (op : RelayOp) :
    ∀ w ∈ (op.call b.mgr).2, w.CoveredBy (b.enter op).requested := by
  intro w hw
  have hbits := enter_bits h op
  cases op with
  | begin busInit devAdd =>
      simp only [RelayOp.call, RelayManager.begin] at hw
      split at hw
      · simp at hw
      · split at hw
        · simp at hw
        · simp only [RelayManager.writeRegister, if_true, List.cons_append, List.nil_append,
            List.mem_cons, List.not_mem_nil, or_false] at hw
          rcases hw with rfl | rfl | rfl | rfl
          · exact coveredBy_allOnes _ _
          · exact coveredBy_allOnes _ _
          · exact coveredBy_iodir _ _ _
          · exact coveredBy_iodir _ _ _
  | setRelay channel state =>
      -- a bit that is not requested is off in the shadow word, so its latch is written high
      simp only [RelayOp.call, RelayManager.setRelay] at hw
      split at hw
      · simp at hw
      · rename_i hok
        refine writeLatches_coveredBy ?_ w hw
        intro ch hch
        apply hbits ch
        simpa [Board.enter, RelayOp.call, RelayManager.setRelay, hok] using hch
  | allOn =>
      simp only [RelayOp.call, RelayManager.allOn] at hw
      split at hw
      · simp at hw
      · rename_i hok
        refine writeLatches_coveredBy ?_ w hw
        intro ch hch
        apply hbits ch
        simpa [Board.enter, RelayOp.call, RelayManager.allOn, hok] using hch
  | allOff silent =>
      simp only [RelayOp.call, RelayManager.allOff, RelayManager.writeRegister] at hw
      split at hw
      · simp only [List.cons_append, List.nil_append, List.mem_cons, List.not_mem_nil,
          or_false] at hw
        rcases hw with rfl | rfl <;> exact coveredBy_allOnes _ _
      · simp at hw

theorem call_begin_writes (m : RelayManager) :
    (RelayOp.call m (.begin true true)).2 =
      [⟨.olat .a, 0xFF⟩, ⟨.olat .b, 0xFF⟩, ⟨.iodir .a, 0x00⟩, ⟨.iodir .b, 0x00⟩] := by
  simp [RelayOp.call, RelayManager.begin, RelayManager.writeRegister]

/-- The latches after the two latch writes of `begin`: each is high if its write succeeded, and what
it was before if not. -/
theorem latch_writes_olat (spi : SpiBus) (b : Board) (p : Port) :
    ((b.transmit spi ⟨.olat .a, 0xFF⟩).transmit spi ⟨.olat .b, 0xFF⟩).chip.olat p =
      match p with
      | .a => if spi b.transmits = true then 0xFF else b.chip.olata
      | .b => if spi (b.transmits + 1) = true then 0xFF else b.chip.olatb := by
  rw [transmit_chip, transmit_chip, transmit_transmits]
  cases p <;> cases spi b.transmits <;> cases spi (b.transmits + 1) <;>
    simp [Mcp23s17.write, Mcp23s17.olat]

/-- A direction write leaves the latches alone. -/
theorem transmit_iodir_olat (spi : SpiBus) (b : Board) (q : Port) (value : BitVec 8) (p : Port) :
    (b.transmit spi ⟨.iodir q, value⟩).chip.olat p = b.chip.olat p := by
  rw [transmit_chip]
  split
  · cases q <;> cases p <;> rfl
  · rfl

theorem begin_olat (spi : SpiBus) (b : Board) (p : Port) :
    (b.step spi (.begin true true)).chip.olat p =
      match p with
      | .a => if spi b.transmits = true then 0xFF else b.chip.olata
      | .b => if spi (b.transmits + 1) = true then 0xFF else b.chip.olatb := by
  simp only [Board.step, call_begin_writes, exec_cons, exec_nil]
  rw [transmit_iodir_olat, transmit_iodir_olat]
  exact latch_writes_olat spi (b.enter (.begin true true)) p

/-- Point for point, `begin` leaves both latches high exactly when its latch writes land. -/
theorem beginLatchesHigh_iff (spi : SpiBus) (b : Board) (op : RelayOp) :
    b.BeginLatchesHigh spi op ↔ b.LatchWritesLand spi op := by
  constructor
  · rintro h rfl
    have hhigh := h true true rfl rfl
    have ha := hhigh .a
    have hb := hhigh .b
    rw [begin_olat] at ha hb
    constructor
    · by_cases hs : spi b.transmits = true
      · exact Or.inl hs
      · exact Or.inr (by simpa [hs] using ha)
    · by_cases hs : spi (b.transmits + 1) = true
      · exact Or.inl hs
      · exact Or.inr (by simpa [hs] using hb)
  · rintro h busInit devAdd rfl htrue p
    obtain ⟨rfl, rfl⟩ : busInit = true ∧ devAdd = true := by
      cases busInit <;> cases devAdd <;> simp_all [RelayManager.begin]
    obtain ⟨ha, hb⟩ := h rfl
    rw [begin_olat]
    cases p with
    | a => rcases ha with ha | ha <;> simp [ha]
    | b => rcases hb with hb | hb <;> simp [hb]

theorem transmit_latch_covered_or_inputs (spi : SpiBus) (p : Port) {b : Board}
    (h : b.Covered ∨ b.AllInputs) :
    (b.transmit spi ⟨.olat p, 0xFF⟩).Covered ∨ (b.transmit spi ⟨.olat p, 0xFF⟩).AllInputs :=
  h.imp (fun h => transmit_covered h (coveredBy_allOnes _ _)) transmit_allInputs

/-- `begin` with a device: safe before the latches are high because the pins are inputs (or the
latches covered), safe after because no latch is low any more. -/
theorem begin_safe {spi : SpiBus} {b : Board} (hq : b.Covered ∨ b.AllInputs)
    (hland : b.LatchWritesLand spi (.begin true true)) :
    b.SafeDuring spi (.begin true true) ∧ (b.step spi (.begin true true)).Covered := by
  have hsafe : ∀ c : Board, c.Covered ∨ c.AllInputs → c.Safe :=
    fun c h => h.elim Board.Covered.safe Board.AllInputs.safe
  set c := b.enter (.begin true true) with hc
  have h0 : c.Covered ∨ c.AllInputs := hq.imp (fun h => enter_covered h _) id
  have h1 := transmit_latch_covered_or_inputs spi .a h0
  -- both latch registers are all ones, written now or high before
  have h2 : ((c.transmit spi ⟨.olat .a, 0xFF⟩).transmit spi ⟨.olat .b, 0xFF⟩).Covered := by
    apply Board.covered_of_latches_high
    intro p
    rw [latch_writes_olat]
    obtain ⟨ha, hb⟩ := hland rfl
    cases p with
    | a => rcases ha with ha | ha <;> simp [hc, Board.enter, ha]
    | b => rcases hb with hb | hb <;> simp [hc, Board.enter, hb]
  have hrest : ∀ w ∈ [(⟨.iodir .a, 0x00⟩ : SpiWrite), ⟨.iodir .b, 0x00⟩],
      w.CoveredBy ((c.transmit spi ⟨.olat .a, 0xFF⟩).transmit spi ⟨.olat .b, 0xFF⟩).requested := by
    intro w hw
    simp only [List.mem_cons, List.not_mem_nil, or_false] at hw
    rcases hw with rfl | rfl <;> exact coveredBy_iodir _ _ _
  have halways := always_covered spi h2 hrest
  constructor
  · -- inputs up to the second latch write, covered latches from there on
    unfold Board.SafeDuring
    rw [call_begin_writes, always_cons, always_cons]
    exact ⟨hsafe c h0, hsafe _ h1, fun pre hpre => (halways pre hpre).safe⟩
  · unfold Board.step
    rw [call_begin_writes]
    exact halways _ (List.prefix_refl _)

/-- Before the first device, only a `begin` that gets one writes anything. -/
theorem call_without_device {m : RelayManager} {op : RelayOp} (hop : op ≠ .begin true true)
    (hi : m.initialized = false) (hd : m.spiDev = false) :
    (op.call m).2 = [] ∧ (op.call m).1.initialized = false ∧ (op.call m).1.spiDev = false := by
  cases op with
  | begin busInit devAdd =>
      cases busInit <;> cases devAdd <;> simp_all [RelayOp.call, RelayManager.begin]
  | setRelay channel state => simp [RelayOp.call, RelayManager.setRelay, hi, hd]
  | allOn => simp [RelayOp.call, RelayManager.allOn, hi, hd]
  | allOff silent =>
      simp [RelayOp.call, RelayManager.allOff, RelayManager.writeRegister, hi, hd]

theorem call_initialized {m : RelayManager} (op : RelayOp) (hi : m.initialized = true) :
    (op.call m).1.initialized = true := by
  cases op with
  | begin busInit devAdd =>
      cases busInit <;> cases devAdd <;> simp [RelayOp.call, RelayManager.begin, hi]
  | setRelay channel state =>
      simp only [RelayOp.call, RelayManager.setRelay]
      split <;> simp [hi]
  | allOn => simp [RelayOp.call, hi]
  | allOff silent => simp [RelayOp.call, hi]

/-- **The step lemma.** From a sound board, a call whose latch writes land is safe throughout and
leaves the board sound. -/
theorem step_sound {spi : SpiBus} {b : Board} {op : RelayOp} (hb : b.Sound)
    (hland : b.LatchWritesLand spi op) : (b.step spi op).Sound ∧ b.SafeDuring spi op := by
  obtain ⟨hreq, hmgr⟩ := exec_transmit_fields spi (b.enter op) (op.call b.mgr).2
  have hbits : (b.step spi op).BitsRequested := by
    intro ch hch
    rw [Board.step, hmgr] at hch
    rw [Board.step, hreq]
    exact enter_bits hb.bits op ch hch
  have hinit : (b.step spi op).mgr.initialized = (op.call b.mgr).1.initialized := by
    rw [Board.step, hmgr]
    rfl
  by_cases hi : b.mgr.initialized = true
  · -- latches covered since an earlier `begin`: every write of the call keeps them so
    have halways := always_covered spi (enter_covered (hb.covered hi) op)
      (call_coveredBy hb.bits op)
    refine ⟨⟨hbits, ?_, ?_⟩, fun pre hpre => (halways pre hpre).safe⟩
    · intro h
      rw [hinit, call_initialized op hi] at h
      exact absurd h (by simp)
    · intro _
      exact halways _ (List.prefix_refl _)
  · -- no `begin` has had a device yet, so the chip is as it powered on
    obtain ⟨hdev, hchip⟩ := hb.fresh (by simpa using hi)
    have hinputs : b.AllInputs := by
      simp [Board.AllInputs, hchip, Mcp23s17.powerOn]
    -- only a `begin` that gets its device writes at all
    by_cases hop : op = .begin true true
    · subst hop
      obtain ⟨hsafe, hcov⟩ := begin_safe (Or.inr hinputs) hland
      refine ⟨⟨hbits, ?_, fun _ => hcov⟩, hsafe⟩
      intro h
      rw [hinit] at h
      simp [RelayOp.call, RelayManager.begin] at h
    · obtain ⟨hnil, hi', hd'⟩ := call_without_device hop (by simpa using hi) hdev
      have hstep : b.step spi op = b.enter op := by
        rw [Board.step, hnil, exec_nil]
      refine ⟨⟨hbits, ?_, ?_⟩, ?_⟩
      · intro _
        rw [hstep]
        exact ⟨hd', hchip⟩
      · intro h
        rw [hinit, hi'] at h
        exact absurd h (by simp)
      · unfold Board.SafeDuring
        rw [hnil, always_nil]
        exact Board.AllInputs.safe hinputs

/-! ## Every run -/

/-- **Exactly when no relay fires unasked.** From power-on, over every sequence of calls and every
pattern of failing transfers: at every point (between the register writes too) a pin is driven low
only for a channel some call asked for, and every `begin` that returns true leaves both latches
high, if and only if the latch writes of every `begin` land. -/
theorem unrequested_iff (spi : SpiBus) (ops : List RelayOp) :
    Before (Board.step spi) Board.powerOn ops
        (fun b op => b.SafeDuring spi op ∧ b.BeginLatchesHigh spi op) ↔
      Before (Board.step spi) Board.powerOn ops (fun b op => b.LatchWritesLand spi op) := by
  constructor
  · -- the second half of the property alone forces the writes to land
    intro h pre op post heq
    exact (beginLatchesHigh_iff spi _ op).mp (h pre op post heq).2
  · refine Before.of_invariant (I := Board.Sound) ?_ ?_ Board.sound_powerOn
    · intro b op hb hland
      exact (step_sound hb hland).1
    · intro b op hb hland
      exact ⟨(step_sound hb hland).2, (beginLatchesHigh_iff spi b op).mpr hland⟩

/-- The failing run: only the very first transfer (`OLATA = 0xFF`) fails. `begin` still returns
true, latch A is still low, and the pin of channel 0 is driven low with nothing requested. -/
theorem first_transfer_fails_drives_low :
    (RelayManager.powerOn.begin true true).1 = true ∧
      (Board.powerOn.step (fun n => n != 0) (.begin true true)).chip.olata = 0x00 ∧
      (Board.powerOn.step (fun n => n != 0) (.begin true true)).chip.drivenLow 0 = true ∧
      (Board.powerOn.step (fun n => n != 0) (.begin true true)).requested = 0 ∧
      ¬ Board.powerOn.SafeDuring (fun n => n != 0) (.begin true true) ∧
      ¬ Board.powerOn.BeginLatchesHigh (fun n => n != 0) (.begin true true) := by
  have hlow : (Board.powerOn.step (fun n => n != 0) (.begin true true)).chip.drivenLow 0 = true := by
    decide
  have hreq : (Board.powerOn.step (fun n => n != 0) (.begin true true)).requested = 0 := by decide
  refine ⟨by decide, by decide, hlow, hreq, ?_, ?_⟩
  · intro h
    have hsafe := h _ (List.prefix_refl _) 0 (by decide) hlow
    exact absurd hsafe (by decide)
  · intro h
    exact absurd (h true true rfl rfl .a) (by decide)

end TfnAks.Relay
