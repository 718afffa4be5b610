import WirePatch.Hardware.Ctrl
import WirePatch.Simulator.SubWord

/-!
# Instructions and their words

The instructions the simulator implements, with their operands, and the words they are encoded in:
the opcodes of `or1200_defines.v` (`Or1200.Or32`) and the sub-opcodes and fields of each group. An
instruction does what its function in the simulator does, on the registers it names and on its
immediate, extended to a word.

## Main definitions

* `Instruction`: an instruction with its registers and its immediate field.
* `Instruction.encode`: its word, with the reserved bits clear.
* `Instruction.imm`, `Instruction.perform`: its immediate operand and its effect.
* `Instruction.ImmediateAgrees`: the decoder of the processor forms the same immediate.
-/

namespace WirePatch

/-! ### Operations -/

/-- The branches with a displacement. -/
inductive BranchOp
  | j
  | jal
  | bf
  | bnf
  deriving DecidableEq, Repr

namespace BranchOp

def opcode : BranchOp → BitVec 6
  | j => Or1200.Or32.j
  | jal => Or1200.Or32.jal
  | bf => Or1200.Or32.bf
  | bnf => Or1200.Or32.bnf

/-- A branch to a target. -/
def perform (cpu : CPU) (target : U32) : BranchOp → CPU
  | j => cpuSetBranchPc cpu target
  | jal => cpuSetLr (cpuSetBranchPc cpu target) (cpu.pc + 8)
  | bf => if cpuIsSetSrFlag cpu sprSrF then cpuSetBranchPc cpu target else cpu
  | bnf => if cpuIsSetSrFlag cpu sprSrF then cpu else cpuSetBranchPc cpu target

end BranchOp

/-- The jumps to an address in a register. -/
inductive JumpOp
  | jr
  | jalr
  deriving DecidableEq, Repr

namespace JumpOp

def opcode : JumpOp → BitVec 6
  | jr => Or1200.Or32.jr
  | jalr => Or1200.Or32.jalr

def insn : JumpOp → CPU → Control → CPU
  | jr => Insn.jr
  | jalr => Insn.jalr

end JumpOp

/-- The instructions on a register and an immediate, with a register for the result. -/
inductive ImmediateOp
  | addi
  | addic
  | muli
  | xori
  | andi
  | ori
  deriving DecidableEq, Repr

namespace ImmediateOp

def opcode : ImmediateOp → BitVec 6
  | addi => Or1200.Or32.addi
  | addic => Or1200.Or32.addic
  | muli => Or1200.Or32.muli
  | xori => Or1200.Or32.xori
  | andi => Or1200.Or32.andi
  | ori => Or1200.Or32.ori

/-- The extension of the immediate. -/
def extend : ImmediateOp → BitVec 16 → U32
  | addi | addic | muli | xori => BitVec.signExtend 32
  | andi | ori => BitVec.setWidth 32

/-- An operation on two words. -/
def perform (cpu : CPU) (rD : Reg) (a b : U32) : ImmediateOp → CPU
  | addi => Insn.checkRange (Insn.addBase cpu false rD a b)
  | addic => Insn.checkRange (Insn.addBase cpu (cpuIsSetSrFlag cpu sprSrCy) rD a b)
  | muli => Insn.checkRange (Insn.mulShared cpu a b rD)
  | xori => cpuSetGpr cpu rD (a ^^^ b)
  | andi => cpuSetGpr cpu rD (a &&& b)
  | ori => cpuSetGpr cpu rD (a ||| b)

end ImmediateOp

/-- The instructions on registers, with a register for the result. -/
inductive RegisterOp
  | add
  | addc
  | sub
  | and
  | or
  | xor
  | mul
  | mulu
  | div
  | divu
  | sll
  | srl
  | sra
  | ror
  | exths
  | extbs
  | exthz
  | extbz
  | extws
  | extwz
  | cmov
  | ff1
  | fl1
  deriving DecidableEq, Repr

namespace RegisterOp

/-- The bits 9 to 0 of the word. -/
def code : RegisterOp → BitVec 10
  | add => 0x000
  | addc => 0x001
  | sub => 0x002
  | and => 0x003
  | or => 0x004
  | xor => 0x005
  | mul => 0x306
  | mulu => 0x30b
  | div => 0x309
  | divu => 0x30a
  | sll => 0x008
  | srl => 0x048
  | sra => 0x088
  | ror => 0x0c8
  | exths => 0x00c
  | extbs => 0x04c
  | exthz => 0x08c
  | extbz => 0x0cc
  | extws => 0x00d
  | extwz => 0x04d
  | cmov => 0x00e
  | ff1 => 0x00f
  | fl1 => 0x10f

def insn (undef : ℕ → U32) : RegisterOp → CPU → Control → CPU
  | add => Insn.add
  | addc => Insn.addc
  | sub => Insn.sub
  | and => Insn.and
  | or => Insn.or
  | xor => Insn.xor
  | mul => Insn.mul
  | mulu => Insn.mulu
  | div => Insn.or32Div undef
  | divu => Insn.divu
  | sll => Insn.sll (undef 0)
  | srl => Insn.srl (undef 0)
  | sra => Insn.sra (undef 0)
  | ror => Insn.ror (undef 0)
  | exths => Insn.exths
  | extbs => Insn.extbs
  | exthz => Insn.exthz
  | extbz => Insn.extbz
  | extws => Insn.extws
  | extwz => Insn.extwz
  | cmov => Insn.cmov
  | ff1 => Insn.ff1
  | fl1 => Insn.fl1

end RegisterOp

/-- The shifts and rotates by an immediate. -/
inductive ShiftOp
  | slli
  | srli
  | srai
  | rori
  deriving DecidableEq, Repr

namespace ShiftOp

/-- The bits 7 and 6 of the word. -/
def code : ShiftOp → BitVec 2
  | slli => 0
  | srli => 1
  | srai => 2
  | rori => 3

/-- A word shifted by an amount. -/
def value (undef a amount : U32) : ShiftOp → U32
  | slli => Insn.cShl undef a amount
  | srli => Insn.cShr undef a amount
  | srai => Insn.shiftRightSigned undef a amount
  | rori => Insn.rotateRight undef a amount

end ShiftOp

/-- The comparisons. -/
inductive CompareOp
  | eq
  | ne
  | gtu
  | geu
  | ltu
  | leu
  | gts
  | ges
  | lts
  | les
  deriving DecidableEq, Repr

namespace CompareOp

/-- The bits 25 to 21 of the word. -/
def code : CompareOp → BitVec 5
  | eq => 0x0
  | ne => 0x1
  | gtu => 0x2
  | geu => 0x3
  | ltu => 0x4
  | leu => 0x5
  | gts => 0xa
  | ges => 0xb
  | lts => 0xc
  | les => 0xd

/-- The relation of a comparison. -/
def rel : CompareOp → U32 → U32 → Bool
  | eq => fun a b => a == b
  | ne => fun a b => a != b
  | gtu => fun a b => b.ult a
  | geu => fun a b => b.ule a
  | ltu => fun a b => a.ult b
  | leu => fun a b => a.ule b
  | gts => fun a b => b.slt a
  | ges => fun a b => b.sle a
  | lts => fun a b => a.slt b
  | les => fun a b => a.sle b

end CompareOp

/-- The accumulating multiplications of two registers. -/
inductive MacOp
  | mac
  | msb
  deriving DecidableEq, Repr

namespace MacOp

/-- The bits 3 to 0 of the word. -/
def code : MacOp → BitVec 4
  | mac => 0x1
  | msb => 0x2

def insn : MacOp → CPU → Control → CPU
  | mac => Insn.mac
  | msb => Insn.msb

end MacOp

/-- The opcode of a load or store in the processor. -/
def MemOp.or32 : MemOp → BitVec 6
  | lwz => Or1200.Or32.lwz
  | lws => Or1200.Or32.lws
  | lhz => Or1200.Or32.lhz
  | lhs => Or1200.Or32.lhs
  | lbz => Or1200.Or32.lbz
  | lbs => Or1200.Or32.lbs
  | sw => Or1200.Or32.sw
  | sh => Or1200.Or32.sh
  | sb => Or1200.Or32.sb

/-! ### Instructions -/

/-- The instructions of the simulator. The register of an access is the one it loads or stores. -/
inductive Instruction
  | branch (op : BranchOp) (N : BitVec 26)
  | jump (op : JumpOp) (rB : Reg)
  | immediate (op : ImmediateOp) (rD rA : Reg) (I : BitVec 16)
  | register (op : RegisterOp) (rD rA rB : Reg)
  | shift (op : ShiftOp) (rD rA : Reg) (L : BitVec 6)
  | compare (op : CompareOp) (rA rB : Reg)
  | compareI (op : CompareOp) (rA : Reg) (I : BitVec 16)
  | access (op : MemOp) (reg rA : Reg) (I : BitVec 16)
  | mtspr (rA rB : Reg) (K : BitVec 16)
  | mfspr (rD rA : Reg) (K : BitVec 16)
  | mac (op : MacOp) (rA rB : Reg)
  | maci (rA : Reg) (I : BitVec 16)
  | movhi (rD : Reg) (K : BitVec 16)
  | macrc (rD : Reg)
  | nop (K : BitVec 16)
  | sys (K : BitVec 16)
  | trap (K : BitVec 16)
  | rfe
  deriving DecidableEq, Repr

/-- A word with a displacement. -/
def formN (op : BitVec 6) (n : BitVec 26) : U32 := op ++ n

/-- A word with an immediate. -/
def formI (op : BitVec 6) (d a : BitVec 5) (imm : BitVec 16) : U32 := op ++ d ++ a ++ imm

/-- A word with three registers. -/
def formR (op : BitVec 6) (d a b : BitVec 5) (low : BitVec 11) : U32 := op ++ d ++ a ++ b ++ low

/-- A word with an immediate and a bit above it. -/
def formM (op : BitVec 6) (d : BitVec 5) (on : BitVec 1) (imm : BitVec 16) : U32 :=
  op ++ d ++ 0#4 ++ (on ++ imm)

/-- A word with an immediate in two parts. -/
def formS (op : BitVec 6) (a b : BitVec 5) (imm : BitVec 16) : U32 :=
  formR op (imm.extractLsb' 11 5) a b (imm.extractLsb' 0 11)

/-- The registers of an instruction and the immediate of an access, with nothing in the fields that
select the operation. -/
def Control.ofOperands (rD rA rB : Reg) (I : U32) : Control where
  inst := 0
  opcode := 0
  sfOp := 0
  aluOp := 0
  roShiftIOp := 0
  rD := rD
  rA := rA
  rB := rB
  N := 0
  K := 0
  I := I
  L := 0

namespace Instruction

/-- The word of an instruction. -/
def encode : Instruction → U32
  | branch op N => formN op.opcode N
  | jump op rB => formR op.opcode 0 0 (.ofFin rB) 0
  | immediate op rD rA I => formI op.opcode (.ofFin rD) (.ofFin rA) I
  | register op rD rA rB =>
    formR Or1200.Or32.alu (.ofFin rD) (.ofFin rA) (.ofFin rB) (0#1 ++ op.code)
  | shift op rD rA L =>
    formI Or1200.Or32.shRoti (.ofFin rD) (.ofFin rA) (0#8 ++ op.code ++ L)
  | compare op rA rB => formR Or1200.Or32.sfxx op.code (.ofFin rA) (.ofFin rB) 0
  | compareI op rA I => formI Or1200.Or32.sfxxi op.code (.ofFin rA) I
  | access op reg rA I =>
    if op.isStore then formS op.or32 (.ofFin rA) (.ofFin reg) I
    else formI op.or32 (.ofFin reg) (.ofFin rA) I
  | mtspr rA rB K => formS Or1200.Or32.mtspr (.ofFin rA) (.ofFin rB) K
  | mfspr rD rA K => formI Or1200.Or32.mfspr (.ofFin rD) (.ofFin rA) K
  | mac op rA rB => formR Or1200.Or32.macmsb 0 (.ofFin rA) (.ofFin rB) (0#7 ++ op.code)
  | maci rA I => formI Or1200.Or32.maci 0 (.ofFin rA) I
  | movhi rD K => formM Or1200.Or32.movhi (.ofFin rD) 0 K
  | macrc rD => formM Or1200.Or32.macrc (.ofFin rD) 1 0
  | nop K => formI Or1200.Or32.nop 8 0 K
  | sys K => formI Or1200.Or32.xsync 0 0 K
  | trap K => formI Or1200.Or32.xsync 8 0 K
  | rfe => formN Or1200.Or32.rfe 0

/-- The immediate operand of an instruction, extended to a word. A displacement counts words, and a
shift amount has five bits in a processor of 32 bits. -/
def imm : Instruction → U32
  | branch _ N => N.signExtend 32 <<< 2
  | immediate op _ _ I => op.extend I
  | shift _ _ _ L => (L.extractLsb' 0 5).setWidth 32
  | compareI _ _ I | access _ _ _ I | maci _ I => I.signExtend 32
  | mtspr _ _ K | mfspr _ _ K | movhi _ K | nop K | sys K | trap K => K.setWidth 32
  | jump .. | register .. | compare .. | mac .. | macrc _ | rfe => 0

/-- What an instruction does with its operands. -/
def perform (m : Machine) (i : Instruction) : Machine :=
  let cpu := m.cpu
  match i with
  | branch op _ => m.setCpu (op.perform cpu (cpu.pc + i.imm))
  | jump op rB => m.setCpu (op.insn cpu (.ofOperands 0 0 rB 0))
  | immediate op rD rA _ => m.setCpu (op.perform cpu rD (cpu.gpr rA) i.imm)
  | register op rD rA rB => m.setCpu (op.insn m.junk cpu (.ofOperands rD rA rB 0))
  | shift op rD rA _ => m.setCpu (cpuSetGpr cpu rD (op.value (m.junk 0) (cpu.gpr rA) i.imm))
  | compare op rA rB =>
    m.setCpu (cpuSetSrFlag cpu sprSrF (op.rel (cpu.gpr rA) (cpu.gpr rB)))
  | compareI op rA _ => m.setCpu (cpuSetSrFlag cpu sprSrF (op.rel (cpu.gpr rA) i.imm))
  | access op reg rA _ => op.exec m (.ofOperands reg rA reg i.imm)
  | mtspr rA rB _ => cpuSetSpr m (cpu.gpr rA ||| i.imm) (cpu.gpr rB)
  | mfspr rD rA _ => m.setCpu (cpuSetGpr cpu rD (cpuGetSpr m (cpu.gpr rA ||| i.imm)))
  | mac op rA rB => m.setCpu (op.insn cpu (.ofOperands 0 rA rB 0))
  | maci rA _ => m.setCpu (cpuSetMac cpu (cpuGetMac cpu + calcMul (cpu.gpr rA) i.imm))
  | movhi rD _ => m.setCpu (cpuSetGpr cpu rD (i.imm <<< 16))
  | macrc rD => m.setCpu (Insn.macrc cpu (.ofOperands rD 0 0 0))
  | nop _ => m
  | sys _ => m.setCpu (WirePatch.sys cpu)
  | trap _ => m.setCpu (WirePatch.trap cpu)
  | rfe => m.setCpu { cpu with sr := cpu.esr, npc := cpu.epcr }

/-- The immediate operand of an instruction is the one the processor takes from its word: the
displacement in the target of a branch, the low bits of `id_simm` for a shift, and `id_simm` for
the other instructions that have one. -/
def ImmediateAgrees (i : Instruction) : Prop :=
  match i with
  | branch .. => ∀ pc : U32, (pc + i.imm).extractLsb' 2 30 =
      Or1200.idBranchAddrtarget i.encode (pc.extractLsb' 2 30)
  | shift .. => i.imm = ((Or1200.idSimm i.encode).extractLsb' 0 5).setWidth 32
  | jump .. | register .. | compare .. | mac .. | macrc _ | rfe => True
  | immediate .. | compareI .. | access .. | mtspr .. | mfspr .. | maci .. | movhi .. | nop _ |
    sys _ | trap _ => i.imm = Or1200.idSimm i.encode

end Instruction

end WirePatch
