/-
# TfnAks.Uplink.E22Boot — the configuration dialog of `vTask_LoRa_UKS`

At boot the task reads the module's registers, compares them with the contract, writes the contract
when they differ or could not be read, and checks the confirmation. The other party is `E22Module`,
as `E22Regs.h` documents it: nine registers, of which a read returns CRYPT as zero.

The comparison that decides whether to write leaves CRYPT out, as the one after the write has to. A
module whose seven readable registers match keeps whatever key it has (`e22Boot_inContract_iff`).
-/
import TfnAks.Uplink.E22Config

namespace TfnAks.Uplink

/-! ## The module -/

/-- The registers of the module itself, with the key. -/
structure E22Module where
  regs : E22RegValues
  cryptH : UInt8
  cryptL : UInt8
  deriving DecidableEq, Repr

/-- The response to a read, and the confirmation of a write. -/
def E22Module.registerResponse (m : E22Module) : List UInt8 := regFrame e22CmdRead m.regs 0 0

/-- The module in config mode after a command, and its response. -/
def E22Module.execute (m : E22Module) : List UInt8 → E22Module × List UInt8
  | [cmd, start, len] =>
    if cmd = e22CmdRead ∧ start = e22RegBlockStart ∧ len = e22RegBlockLen then
      (m, m.registerResponse)
    else (m, [0xFF, 0xFF, 0xFF])
  | [cmd, start, len, addh, addl, netid, reg0, reg1, reg2, reg3, cryptH, cryptL] =>
    if cmd = e22CmdWrite ∧ start = e22RegBlockStart ∧ len = e22RegBlockLen then
      let m' : E22Module := ⟨⟨addh, addl, netid, reg0, reg1, reg2, reg3⟩, cryptH, cryptL⟩
      (m', m'.registerResponse)
    else (m, [0xFF, 0xFF, 0xFF])
  | _ => (m, [0xFF, 0xFF, 0xFF])

/-- All nine registers hold the contract values. -/
def E22Module.InContract (m : E22Module) : Prop :=
  m.regs = e22ContractRegs ∧ m.cryptH = e22CfgCryptH ∧ m.cryptL = e22CfgCryptL

/-- The module after the write of the contract. -/
def E22Module.contract : E22Module := ⟨e22ContractRegs, e22CfgCryptH, e22CfgCryptL⟩

/-! ## The dialog -/

/-- How the dialog ends. -/
inductive E22BootResult where
  | noConfigMode
  | alreadyInContract
  | flashTimeout
  | writeRejected
  | confirmed
  | confirmationMismatch
  deriving DecidableEq, Repr

/-- The size of the response and write buffers. -/
def e22FrameSize : Nat := 3 + e22RegBlockLen.toNat

/-- `LO_needsWrite`, from the response to the read. -/
def e22NeedsWrite (readResp : List UInt8) : Bool :=
  if e22IsErrorResponse readResp then true
  else
    match e22ParseRegResponse readResp with
    | some current => !e22RegsEqual current e22ContractRegs
    | none => true

/-- What the task makes of the confirmation. -/
def e22Confirm (confirm : List UInt8) : E22BootResult :=
  if e22IsErrorResponse confirm then .writeRejected
  else
    match e22ParseRegResponse confirm with
    | some written =>
      if e22RegsEqual written e22ContractRegs then .confirmed else .confirmationMismatch
    | none => .confirmationMismatch

/-- The boot sequence. `auxCfgReady` and `flashDone` say whether AUX goes high in time after the
change of mode and after the write; `received` is what arrives of a response before the read
timeout. -/
def e22Boot (auxCfgReady flashDone : Bool) (received : List UInt8 → List UInt8) (m : E22Module) :
    E22Module × E22BootResult :=
  if !auxCfgReady then (m, .noConfigMode)
  else
    let (m, answer) := m.execute (e22BuildReadAllCommand 3)
    if e22NeedsWrite ((received answer).take e22FrameSize) then
      let (m, answer) := m.execute (e22BuildWriteCommand e22ContractRegs e22FrameSize)
      if !flashDone then (m, .flashTimeout)
      else (m, e22Confirm ((received answer).take e22FrameSize))
    else (m, .alreadyInContract)

/-! ## What it achieves -/

/-- The dialog with a module whose responses arrive. -/
theorem e22Boot_eq (flashDone : Bool) (m : E22Module) :
    e22Boot true flashDone id m =
      if e22NeedsWrite m.registerResponse then
        if flashDone then (.contract, .confirmed) else (.contract, .flashTimeout)
      else (m, .alreadyInContract) := by
  cases flashDone <;> rfl

/-- The task writes exactly when one of the seven readable registers is off. -/
theorem e22NeedsWrite_registerResponse (m : E22Module) :
    e22NeedsWrite m.registerResponse = true ↔ m.regs ≠ e22ContractRegs := by
  rw [e22NeedsWrite, E22Module.registerResponse]
  simp [← Bool.not_eq_true]

/-- The dialog writes the contract, or finds the readable registers in order and leaves the module
as it is. -/
theorem e22Boot_module (flashDone : Bool) (m : E22Module) :
    (e22Boot true flashDone id m).1 = if m.regs = e22ContractRegs then m else .contract := by
  have hwrites := e22NeedsWrite_registerResponse m
  rw [e22Boot_eq]
  by_cases h : m.regs = e22ContractRegs
  · rw [if_neg (fun hw => hwrites.mp hw h), if_pos h]
  · rw [if_pos (hwrites.mpr h), if_neg h]
    cases flashDone <;> rfl

/-- **The dialog brings the module to the contract exactly when it writes, or has no key to clear.**
For every content of the nine registers. -/
theorem e22Boot_inContract_iff (flashDone : Bool) (m : E22Module) :
    (e22Boot true flashDone id m).1.InContract ↔
      m.regs ≠ e22ContractRegs ∨ (m.cryptH = e22CfgCryptH ∧ m.cryptL = e22CfgCryptL) := by
  rw [e22Boot_module]
  by_cases h : m.regs = e22ContractRegs
  · rw [if_pos h]
    constructor
    · rintro ⟨_, hcrypt⟩
      exact Or.inr hcrypt
    · rintro (hne | hcrypt)
      · exact absurd h hne
      · exact ⟨h, hcrypt⟩
  · rw [if_neg h]
    exact iff_of_true ⟨rfl, rfl, rfl⟩ (Or.inl h)

/-- A module in contract but for its key. -/
def keyedModule : E22Module := ⟨e22ContractRegs, 0x12, 0x34⟩

/-- It keeps its key. -/
theorem keyedModule_keeps_key :
    ¬ ∀ (flashDone : Bool) (m : E22Module), (e22Boot true flashDone id m).1.InContract := by
  intro h
  have hcrypt := (h true keyedModule).2.1
  exact absurd hcrypt (by decide)

end TfnAks.Uplink
