import WirePatch.Hardware.MultMac
import WirePatch.Hardware.Operands
import WirePatch.Hardware.Shifter

/-!
# Result of the arithmetic unit

The decoder of the operations of the arithmetic unit of the OR1200 core (`or1200_ctrl.v`, lines
778–860 and 1149–1159), the multiplexer of its results and its comparison (`or1200_alu.v`, lines
194–318, 427–446 and 470–480). `OR1200_CASE_DEFAULT`, `OR1200_IMPL_ALU_FFL1`,
`OR1200_IMPL_ALU_EXT` and `OR1200_IMPL_ALU_COMP2` are defined in `or1200_defines.v`;
`OR1200_IMPL_ALU_CUST5`, `OR1200_IMPL_ALU_ROTATE` and `OR1200_ADDITIONAL_FLAG_MODIFIERS` are not.

## Main definitions

* `Or1200.aluOpOf`, `Or1200.aluOp2Of`, `Or1200.compOpOf`: the operation of an instruction word.
* `Or1200.UnitIn`, `Or1200.result`, `Or1200.flagcomp`: the unit.
* `Or1200.UnitIn.Fed`, `Or1200.retire`: the operands of an instruction, and the registers after it.
* `Or1200.Pipe.retired`: the instructions that left the execute stage.

## Main results

* `Or1200.Pipe.fed_run`, `Or1200.Pipe.gpr_succ_eq_retire`: the stages execute an instruction on the
  registers that the instructions before it left.
-/

namespace WirePatch.Or1200

open Clocked

/-! ### Operations -/

namespace AluCode

def add : BitVec 5 := 0x00
def addc : BitVec 5 := 0x01
def sub : BitVec 5 := 0x02
def and : BitVec 5 := 0x03
def or : BitVec 5 := 0x04
def xor : BitVec 5 := 0x05
def mul : BitVec 5 := 0x06
def shrot : BitVec 5 := 0x08
def div : BitVec 5 := 0x09
def divu : BitVec 5 := 0x0a
def mulu : BitVec 5 := 0x0b
def exthb : BitVec 5 := 0x0c
def extw : BitVec 5 := 0x0d
def cmov : BitVec 5 := 0x0e
def ffl1 : BitVec 5 := 0x0f
def comp : BitVec 5 := 0x10
def movhi : BitVec 5 := 0x11

end AluCode

/-- The opcodes that stand for one operation. -/
def aluOpCases : List (BitVec 6 × BitVec 5) :=
  [(Or32.movhi, AluCode.movhi), (Or32.addi, AluCode.add), (Or32.addic, AluCode.addc),
   (Or32.andi, AluCode.and), (Or32.ori, AluCode.or), (Or32.xori, AluCode.xor),
   (Or32.muli, AluCode.mul), (Or32.shRoti, AluCode.shrot), (Or32.sfxxi, AluCode.comp),
   (Or32.sfxx, AluCode.comp)]

/-- `alu_op`. `OR1200_ALUOP_NOP` is the code of `OR1200_ALUOP_OR`. -/
def aluOpOf (insn : BitVec 32) : BitVec 5 :=
  let op := insn.extractLsb' 26 6
  if op = Or32.alu then 0#1 ++ insn.extractLsb' 0 4 else (aluOpCases.lookup op).getD AluCode.or

/-- `alu_op2`. -/
def aluOp2Of (insn : BitVec 32) : BitVec 4 := insn.extractLsb' 6 4

/-- `comp_op`. -/
def compOpOf (insn : BitVec 32) : BitVec 4 := insn.extractLsb' 21 4

/-! ### The unit -/

/-- The inputs of the unit. -/
structure UnitIn where
  a : BitVec 32
  b : BitVec 32
  multMacResult : BitVec 32
  macrcOp : Bool
  carry : Bool
  flag : Bool

/-- The inputs of the adder. -/
def UnitIn.adder (i : UnitIn) (compOp : BitVec 4) : AluIn :=
  { a := i.a, b := i.b, carry := i.carry, compOp := compOp }

/-- `extended`. -/
def extended (aluOp2 : BitVec 4) (a : BitVec 32) : BitVec 32 :=
  if aluOp2 = 0 then (BitVec.ofBool (a.getLsbD 15)).replicate 16 ++ a.extractLsb' 0 16
  else if aluOp2 = 1 then (BitVec.ofBool (a.getLsbD 7)).replicate 24 ++ a.extractLsb' 0 8
  else if aluOp2 = 2 then 0#16 ++ a.extractLsb' 0 16
  else if aluOp2 = 3 then 0#24 ++ a.extractLsb' 0 8
  else a

/-- `result`. -/
def result (aluOp : BitVec 5) (aluOp2 compOp : BitVec 4) (i : UnitIn) : BitVec 32 :=
  if aluOp = AluCode.ffl1 then if aluOp2 = 0 then ff1 i.a else fl1 i.a
  else if aluOp = AluCode.shrot then shiftedRotated false aluOp2 i.a i.b
  else if aluOp = AluCode.addc then resultSum .addc (i.adder compOp)
  else if aluOp = AluCode.sub then resultSum .sub (i.adder compOp)
  else if aluOp = AluCode.add then resultSum .add (i.adder compOp)
  else if aluOp = AluCode.xor then i.a ^^^ i.b
  else if aluOp = AluCode.or then i.a ||| i.b
  else if aluOp = AluCode.exthb then extended aluOp2 i.a
  else if aluOp = AluCode.extw then i.a
  else if aluOp = AluCode.movhi then if i.macrcOp then i.multMacResult else i.b <<< 16
  else if aluOp ∈ [AluCode.div, AluCode.divu, AluCode.mul, AluCode.mulu] then i.multMacResult
  else if aluOp = AluCode.cmov then if i.flag then i.a else i.b
  else i.a &&& i.b

/-- `flagcomp`. -/
def flagcomp (compOp : BitVec 4) (a b : BitVec 32) : Bool :=
  let compA := compOperand compOp a
  let compB := compOperand compOp b
  match (compOp.extractLsb' 0 3).toNat with
  | 0 => compA == compB
  | 1 => compA != compB
  | 2 => compB.ult compA
  | 3 => compB.ule compA
  | 4 => compA.ult compB
  | 5 => compA.ule compB
  | _ => false

/-- `flagforw` and `flag_we`. -/
def aluFlag (aluOp : BitVec 5) (compOp : BitVec 4) (i : UnitIn) : Forward :=
  { forw := flagcomp compOp i.a i.b, we := aluOp == AluCode.comp }

/-- `result` for the operation of an instruction word. -/
def resultOf (insn : BitVec 32) (i : UnitIn) : BitVec 32 :=
  result (aluOpOf insn) (aluOp2Of insn) (compOpOf insn) i

/-! ### One instruction after the other -/

/-- `id_macrc_op`. -/
def macrcOpOf (insn : BitVec 32) : Bool :=
  insn.extractLsb' 26 6 == Or32.macrc && insn.getLsbD 16

/-- The unit reads the operands of an instruction that finds the registers `g`. -/
structure UnitIn.Fed (u : UnitIn) (insn : BitVec 32) (g : BitVec 5 → BitVec 32) : Prop where
  a : readsA insn = true → u.a = g (addrAOf insn)
  b : selImmOf insn = true ∨ readsB insn = true → u.b = Pipe.secondOperand insn g
  macrcOp : u.macrcOp = macrcOpOf insn

/-- The registers after an instruction with a result. -/
def retire (insn value : BitVec 32) (g : BitVec 5 → BitVec 32) : BitVec 5 → BitVec 32 :=
  if (rfwbOpOf insn).getLsbD 0 then
    Function.update g (rfAddrwOf insn) (if rfAddrwOf insn = 0 then 0 else value)
  else g

namespace Pipe

/-- What the unit reads in a cycle, with the flags and the result of the multiplier from `u`. -/
def unitIn (s : Pipe) (u : UnitIn) : UnitIn :=
  { u with a := s.operandA, b := s.operandB, macrcOp := macrcOpOf s.exInsn }

/-- The instructions that left the execute stage, without the flushed ones. -/
def retired (x : ℕ → PipeIn) : ℕ → List (BitVec 32)
  | 0 => []
  | t + 1 =>
    if (x t).advance.IsActive ∧ (regs x t).exInsn ≠ flushNop then
      retired x t ++ [(regs x t).exInsn]
    else retired x t

section Runs

variable {x : ℕ → PipeIn} {t : ℕ}

/-- No instruction is in the execute stage before one left the decode stage. -/
theorem exInsn_of_not_lastActive (h : ∀ p, ¬ LastActive (fun r => (x r).advance) p t) :
    (regs x t).exInsn = flushNop := by
  induction t with
  | zero => rfl
  | succ t ih =>
    have hstage : (regs x (t + 1)).exInsn =
      (x t).exStage flushNop (regs x t).idInsn (regs x t).exInsn := rfl
    rw [hstage]
    rcases exStage_cases (x t) flushNop (regs x t).idInsn (regs x t).exInsn with
      hnop | ⟨hact, -⟩ | ⟨hidle, hold⟩
    · exact hnop
    · exact absurd ((lastActive_succ_of_isActive hact).mpr rfl) (h t)
    · rw [hold]
      exact ih fun p hp => h p ((lastActive_succ_of_isIdle hidle).mpr hp)

/-- The unit reads the operands of the instruction in the execute stage. -/
theorem fed_run (hplain : ∀ r < t, (x r).Plain)
    (hkept : ∀ r < t, (x r).advance.IsActive → (regs x r).Kept (x r))
    (hne : (regs x t).exInsn ≠ flushNop) (u : UnitIn) :
    ((regs x t).unitIn u).Fed (regs x t).exInsn (regs x t).gpr := by
  have hsome : ∃ p, LastActive (fun r => (x r).advance) p t := by
    by_contra hno
    exact hne (exInsn_of_not_lastActive (not_exists.mp hno))
  obtain ⟨p, hp⟩ := hsome
  have hkeptP := hkept p hp.lt hp.isActive
  have hkeptQ (q : ℕ) (hq : LastActive (fun r => (x r).advance) q p) :=
    hkept q (hq.lt.trans hp.lt) hq.isActive
  exact ⟨operandA_of_lastActive hplain hp hkeptP hkeptQ hne,
    operandB_of_lastActive hplain hp hkeptP hkeptQ hne, rfl⟩

/-- The registers after an instruction leaves the execute stage. -/
theorem gpr_succ_eq_retire (hplain : ∀ r ≤ t, (x r).Plain) (hact : (x t).advance.IsActive)
    (hkept : (regs x t).Kept (x t)) (hne : (regs x t).exInsn ≠ flushNop) :
    (regs x (t + 1)).gpr =
      retire (regs x t).exInsn ((regs x t).muxout (x t)) (regs x t).gpr := by
  have hwf : (regs x t).Wf := wf_run fun r hr => hplain r hr.le
  have haddr := hwf.rfAddrw.resolve_left hne
  refine (gpr_step_of_kept hwf (hplain t le_rfl) (exFreeze_of_isActive hact) hkept).trans ?_
  rw [retire, ← hwf.rfwbOp, ← haddr]
  split_ifs with hwe hzero
  · exact absurd hzero (hkept hwe).2
  · rfl
  · rfl

/-- An instruction that was flushed leaves the registers. -/
theorem gpr_succ_of_flushNop (hplain : ∀ r ≤ t, (x r).Plain)
    (hnop : (regs x t).exInsn = flushNop) : (regs x (t + 1)).gpr = (regs x t).gpr := by
  have hwf : (regs x t).Wf := wf_run fun r hr => hplain r hr.le
  have hwe : (regs x t).rfwbOp.getLsbD 0 = false := by
    rw [hwf.rfwbOp, hnop]
    decide
  refine (gpr_step (s := regs x t) (hplain t le_rfl)).trans ?_
  rw [hwe]
  rfl

end Runs

end Pipe

end WirePatch.Or1200
