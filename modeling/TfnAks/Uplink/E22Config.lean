/-
# TfnAks.Uplink.E22Config — the register commands of the LoRa module

`lib/E22Config/E22Config.cpp` with the constants of `include/E22Regs.h`. A command is the list of
bytes built, empty when the buffer is too small; a response is the list of bytes received. The
module's encryption key (CRYPT) is written with the other registers but reads as zero, so
`E22RegValues` does not have it and `e22_regsEqual` does not compare it.
-/

namespace TfnAks.Uplink

/-! ## `E22Regs.h` -/

/-- First byte of a command that writes registers. -/
def e22CmdWrite : UInt8 := 0xC0

/-- First byte of a command that reads them, and of the answer with their values. -/
def e22CmdRead : UInt8 := 0xC1

/-- Address of the first register, ADDH. -/
def e22RegBlockStart : UInt8 := 0x00

/-- The registers from ADDH to CRYPT_L. -/
def e22RegBlockLen : UInt8 := 0x09

/-- High byte of the key that is written. -/
def e22CfgCryptH : UInt8 := 0x00

/-- Low byte of the key that is written. -/
def e22CfgCryptL : UInt8 := 0x00

/-- The registers that can be read back. -/
structure E22RegValues where
  addh : UInt8
  addl : UInt8
  netid : UInt8
  reg0 : UInt8
  reg1 : UInt8
  reg2 : UInt8
  reg3 : UInt8
  deriving DecidableEq, Repr

/-- `E22_CONTRACT_REGS`, the `E22_CFG_*` values. -/
def e22ContractRegs : E22RegValues where
  addh := 0x00
  addl := 0x00
  netid := 0x00
  reg0 := 0x64
  reg1 := 0x00
  reg2 := 0x17
  reg3 := 0x00

/-! ## Commands and responses -/

/-- Asks for the whole block. -/
def e22BuildReadAllCommand (outBufSize : Nat) : List UInt8 :=
  if outBufSize < 3 then [] else [e22CmdRead, e22RegBlockStart, e22RegBlockLen]

/-- The register block behind a header, in the order of the register addresses. -/
def regFrame (cmd : UInt8) (regs : E22RegValues) (cryptH cryptL : UInt8) : List UInt8 :=
  [ cmd, e22RegBlockStart, e22RegBlockLen
  , regs.addh, regs.addl, regs.netid, regs.reg0, regs.reg1, regs.reg2, regs.reg3
  , cryptH, cryptL ]

/-- Writes the whole block, the key included. -/
def e22BuildWriteCommand (regs : E22RegValues) (outBufSize : Nat) : List UInt8 :=
  if outBufSize < 3 + e22RegBlockLen.toNat then []
  else regFrame e22CmdWrite regs e22CfgCryptH e22CfgCryptL

/-- The module answers `FF FF FF` to a command it does not take. -/
def e22IsErrorResponse : List UInt8 → Bool
  | a :: b :: c :: _ => a == 0xFF && b == 0xFF && c == 0xFF
  | _ => false

/-- The last two bytes are CRYPT and are ignored. -/
def e22ParseRegResponse : List UInt8 → Option E22RegValues
  | cmd :: start :: len :: addh :: addl :: netid :: reg0 :: reg1 :: reg2 :: reg3 :: _ :: _ :: _ =>
    if cmd ≠ e22CmdRead then none
    else if start ≠ e22RegBlockStart then none
    else if len ≠ e22RegBlockLen then none
    else some ⟨addh, addl, netid, reg0, reg1, reg2, reg3⟩
  | _ => none

/-- Compares all that can be read, and so not the key. -/
def e22RegsEqual (a b : E22RegValues) : Bool :=
  a.addh == b.addh && a.addl == b.addl && a.netid == b.netid && a.reg0 == b.reg0 &&
    a.reg1 == b.reg1 && a.reg2 == b.reg2 && a.reg3 == b.reg3

@[simp] theorem e22RegsEqual_iff {a b : E22RegValues} : e22RegsEqual a b = true ↔ a = b := by
  cases a
  cases b
  simp [e22RegsEqual, and_assoc]

/-- A well-formed response is read back as it was sent, whatever its last two bytes. -/
@[simp] theorem e22ParseRegResponse_regFrame (regs : E22RegValues) (cryptH cryptL : UInt8) :
    e22ParseRegResponse (regFrame e22CmdRead regs cryptH cryptL) = some regs := rfl

@[simp] theorem e22IsErrorResponse_regFrame (regs : E22RegValues) (cryptH cryptL : UInt8) :
    e22IsErrorResponse (regFrame e22CmdRead regs cryptH cryptL) = false := rfl

end TfnAks.Uplink
