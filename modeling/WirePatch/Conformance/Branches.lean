import WirePatch.Conformance.Computation
import WirePatch.Hardware.Genpc
import WirePatch.Simulator.Sequence

/-!
# Branches: the simulator and the processor

A branch or jump of the simulator leaves its target in `branch_pc` and the address behind the delay
slot in the link register. The program counter of the processor selects the same target, under the
same condition, and the write-back stage writes the same address. A jump to an address that is not
aligned is not compared: the simulator enters the handler of alignment errors for it, and the
processor drops the low bits.

## Main definitions

* `Instruction.IsBranch`: the branches and jumps.
* `Or1200.BranchIn.Fed`: what the program counter reads for an instruction.

## Main results

* `Instruction.perform_eq_genpc`: the target and the registers.
-/

namespace WirePatch

open Or1200 (BranchIn Genpc branchOpOf idBranchAddrtarget retire rfwbOpOf)

/-- An aligned address is its upper bits. -/
theorem IsAligned.append_zero {pc : U32} (h : IsAligned pc) : pc.extractLsb' 2 30 ++ 0#2 = pc := by
  have hlt := pc.isLt
  refine BitVec.eq_of_toNat_eq ?_
  rw [BitVec.toNat_append, BitVec.extractLsb'_toNat, Nat.shiftRight_eq_div_pow, Nat.shiftLeft_eq,
    Nat.mod_eq_of_lt (by omega)]
  simp only [IsAligned] at h
  simp
  omega

/-- What the program counter reads when an instruction is in the execute stage. -/
structure Or1200.BranchIn.Fed (b : BranchIn) (insn : U32) (cpu : CPU) : Prop where
  branchOp : b.branchOp = branchOpOf insn
  exBranchAddrtarget : b.exBranchAddrtarget = idBranchAddrtarget insn (cpu.pc.extractLsb' 2 30)
  operandB : Or1200.readsB insn = true → b.operandB = cpu.file (Or1200.addrBOf insn)
  flag : b.flag = cpu.flag
  exceptStart : b.exceptStart = false
  sprPcWe : b.sprPcWe = false

namespace Instruction

/-- The branches and jumps. -/
def IsBranch : Instruction → Bool
  | branch .. | jump .. => true
  | _ => false

section Branches

variable {m : Machine} {s : Genpc} {b : BranchIn}

theorem branchOpOf_eq {insn : U32} {op : BitVec 6} (h : insn.extractLsb' 26 6 = op) :
    branchOpOf insn = (Or1200.branchOpCases.lookup op).getD Or1200.BranchCode.nop := by
  rw [branchOpOf, h]

/-- The target of a branch. -/
theorem exBranchAddrtarget_eq {op : BranchOp} {N : BitVec 26}
    (hb : b.Fed (branch op N).encode m.cpu) (hpc : IsAligned m.cpu.pc) :
    b.exBranchAddrtarget ++ 0#2 = m.cpu.pc + (branch op N).imm := by
  have himm : IsAligned (branch op N).imm := by
    change (N.signExtend 32 <<< 2).toNat % 4 = 0
    rw [BitVec.toNat_shiftLeft, Nat.shiftLeft_eq]
    omega
  rw [hb.exBranchAddrtarget, ← immediateAgrees_branch op N m.cpu.pc]
  exact (hpc.add himm).append_zero

theorem branchPc_perform_branch {op : BranchOp} {N : BitVec 26}
    (hb : b.Fed (branch op N).encode m.cpu) (hpc : IsAligned m.cpu.pc) :
    ((branch op N).perform m).cpu.branchPc =
      if (s.next b).2 then (s.next b).1 else m.cpu.branchPc := by
  have htarget := exBranchAddrtarget_eq hb hpc
  have hop := hb.branchOp.trans (branchOpOf_eq (op_formN op.opcode N))
  have hflag : b.flag = cpuIsSetSrFlag m.cpu sprSrF := hb.flag
  rw [Genpc.next, hb.sprPcWe, hb.exceptStart, hop, htarget, hflag]
  have hcpu : ((branch op N).perform m).cpu =
    op.perform m.cpu (m.cpu.pc + (branch op N).imm) := rfl
  rw [hcpu]
  cases op with
  | j | jal => rfl
  | bf | bnf =>
    rw [BranchOp.perform]
    cases cpuIsSetSrFlag m.cpu sprSrF <;> rfl

/-- A jump to an aligned address. -/
theorem cpu_perform_jump (op : JumpOp) {rB : Reg} (hrB : IsAligned (m.cpu.gpr rB)) :
    ((jump op rB).perform m).cpu =
      match op with
      | .jr => cpuSetBranchPc m.cpu (m.cpu.gpr rB)
      | .jalr => cpuSetLr (cpuSetBranchPc m.cpu (m.cpu.gpr rB)) (m.cpu.pc + 8) := by
  have haligned : ¬ m.cpu.gpr rB &&& 0x3 ≠ 0 := not_not.mpr (isAligned_iff.mp hrB)
  cases op with
  | jr => exact if_neg haligned
  | jalr => exact if_neg haligned

theorem branchPc_perform_jump {op : JumpOp} {rB : Reg} (hb : b.Fed (jump op rB).encode m.cpu)
    (hrB : IsAligned (m.cpu.gpr rB)) :
    ((jump op rB).perform m).cpu.branchPc =
      if (s.next b).2 then (s.next b).1 else m.cpu.branchPc := by
  have hop := op_formR op.opcode 0 0 (.ofFin rB) 0
  have hreads : Or1200.readsB (jump op rB).encode = true := by
    rw [encode, readsB_eq hop]
    cases op <;> rfl
  have hoperand : b.operandB = m.cpu.gpr rB := by
    rw [hb.operandB hreads, Or1200.addrBOf, encode, b_formR]
    rfl
  rw [Genpc.next, hb.sprPcWe, hb.exceptStart, hb.branchOp.trans (branchOpOf_eq hop),
    cpu_perform_jump op hrB, hoperand]
  cases op <;> rfl

/-- The link register. -/
theorem file_cpuSetLr (cpu : CPU) (value : U32) :
    (cpuSetLr cpu value).file = Function.update cpu.file 9 value := by
  have hgpr (addr : BitVec 5) : (cpuSetLr cpu value).file addr =
    Function.update cpu.gpr ptLr value addr.toFin := rfl
  funext addr
  rw [hgpr]
  by_cases haddr : addr = 9
  · rw [haddr, Function.update_self]
    exact Function.update_self ptLr value cpu.gpr
  · rw [Function.update_of_ne haddr]
    exact Function.update_of_ne (fun h => haddr (BitVec.toFin_inj.mp h)) value cpu.gpr

/-- The registers that a branch leaves. -/
theorem retire_of_branchOps {insn : U32} {op : BitVec 6} (hop : insn.extractLsb' 26 6 = op)
    (hne : op ∉ Or1200.aluOps ∧ op ∉ Or1200.loadOps ∧ op ≠ Or1200.Or32.mfspr) (value : U32)
    (cpu : CPU) : retire insn value cpu.file =
      if op = Or1200.Or32.jal ∨ op = Or1200.Or32.jalr then (cpuSetLr cpu value).file
      else cpu.file := by
  have hwb : rfwbOpOf insn = if op = Or1200.Or32.jal ∨ op = Or1200.Or32.jalr then
      Or1200.RfwbOp.lr else Or1200.RfwbOp.nop := by
    rw [rfwbOpOf, hop, if_neg hne.2.2, if_neg (mt List.contains_iff_mem.mp hne.2.1),
      if_neg (mt List.contains_iff_mem.mp hne.1)]
  split_ifs at hwb ⊢ with hlink
  · rw [retire, hwb, Or1200.rfAddrwOf, hop, if_pos hlink, file_cpuSetLr]
    rfl
  · exact retire_of_not_writes hwb ..

theorem file_perform_branch (op : BranchOp) (cpu : CPU) (target : U32) :
    (op.perform cpu target).file =
      if op.opcode = Or1200.Or32.jal ∨ op.opcode = Or1200.Or32.jalr then
        (cpuSetLr cpu (cpu.pc + 8)).file
      else cpu.file := by
  cases op with
  | j | jal => rfl
  | bf | bnf =>
    rw [BranchOp.perform]
    cases cpuIsSetSrFlag cpu sprSrF <;> rfl

theorem flag_perform_branch (op : BranchOp) (cpu : CPU) (target : U32) :
    (op.perform cpu target).flag = cpu.flag := by
  cases op with
  | j | jal => rfl
  | bf | bnf =>
    rw [BranchOp.perform]
    split_ifs <;> rfl

/-- A branch or jump has the target and leaves the registers in the simulator that it has and leaves
in the processor, when the program counter reads its operands and the addresses are aligned. -/
theorem perform_eq_genpc {i : Instruction} (hi : i.IsBranch = true)
    (hb : b.Fed i.encode m.cpu) (hpc : IsAligned m.cpu.pc)
    (hjump : ∀ op rB, i = jump op rB → IsAligned (m.cpu.gpr rB)) (s : Genpc) :
    (i.perform m).cpu.branchPc = (if (s.next b).2 then (s.next b).1 else m.cpu.branchPc) ∧
      (i.perform m).cpu.file = retire i.encode (m.cpu.pc + 8) m.cpu.file ∧
      (i.perform m).cpu.flag = m.cpu.flag := by
  cases i with
  | branch op N =>
    refine ⟨branchPc_perform_branch hb hpc, ?_, ?_⟩
    · rw [encode, retire_of_branchOps (op_formN ..) (by cases op <;> decide)]
      exact file_perform_branch op m.cpu _
    · exact flag_perform_branch op m.cpu _
  | jump op rB =>
    have hcpu := cpu_perform_jump (m := m) op (hjump op rB rfl)
    refine ⟨branchPc_perform_jump hb (hjump op rB rfl), ?_, ?_⟩
    · rw [hcpu, encode, retire_of_branchOps (op_formR ..) (by cases op <;> decide)]
      cases op <;> rfl
    · rw [hcpu]
      cases op <;> rfl
  | _ => cases hi

end Branches

/-- `l.jalr r5` at address 0x2000 finds 0x3000 in the register. -/
theorem perform_eq_genpc_jalr :
    let i := jump .jalr 5
    let m := (nopMachine 0x2000).setCpu (cpuSetGpr (CPU.startAt 0x2000) 5 0x3000)
    let b : BranchIn :=
      { branchOp := Or1200.BranchCode.jr
        exceptType := 0
        exceptPrefix := false
        exBranchAddrtarget := idBranchAddrtarget i.encode 0x800
        operandB := 0x3000
        flag := false
        exceptStart := false
        epcr := 0
        sprDatI := 0
        sprPcWe := false
        exPc := 0x2000
        spEpcrGhost := 0 }
    (i.perform m).cpu.branchPc =
        (if (Genpc.reset.next b).2 then (Genpc.reset.next b).1 else m.cpu.branchPc) ∧
      (i.perform m).cpu.file = retire i.encode (m.cpu.pc + 8) m.cpu.file ∧
      (i.perform m).cpu.flag = m.cpu.flag :=
  perform_eq_genpc rfl ⟨by decide, by decide, fun _ => by decide, by decide, rfl, rfl⟩ (by decide)
    (fun op rB h => by cases h; decide) Genpc.reset

end Instruction

end WirePatch
