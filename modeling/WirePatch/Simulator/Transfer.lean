import WirePatch.Simulator.Alu

/-!
# Control transfers

The branch and jump instructions, `simulator.c`, lines 1453–1523, the system call and the trap,
lines 2209–2225, and `rfe`, lines 2227–2236. A branch leaves its target in `branch_pc`, from where
`cpu_advance_pc` moves it behind the delay slot; an exception and `rfe` write `npc`, so that no
delay slot follows them.

## Main definitions

* `Insn.bf`, `Insn.bnf`, `Insn.j`, `Insn.jal`, `Insn.jalr`, `Insn.jr`.
* `Insn.sysTrapSync`, `Insn.rfe`.
-/

namespace WirePatch

/-- The target of a branch with an immediate displacement. -/
def branchTarget (cpu : CPU) (cont : Control) : U32 :=
  cpu.pc + signExtend (cont.N <<< 2) 27

/-- `cpu_set_branch_pc`. -/
def cpuSetBranchPc (cpu : CPU) (target : U32) : CPU :=
  { cpu with branchPc := target }

/-- `cpu_set_lr`. -/
def cpuSetLr (cpu : CPU) (value : U32) : CPU :=
  { cpu with gpr := Function.update cpu.gpr ptLr value }

namespace Insn

def bf (cpu : CPU) (cont : Control) : CPU :=
  if cpuIsSetSrFlag cpu sprSrF then cpuSetBranchPc cpu (branchTarget cpu cont) else cpu

def bnf (cpu : CPU) (cont : Control) : CPU :=
  if !cpuIsSetSrFlag cpu sprSrF then cpuSetBranchPc cpu (branchTarget cpu cont) else cpu

def j (cpu : CPU) (cont : Control) : CPU :=
  cpuSetBranchPc cpu (branchTarget cpu cont)

def jal (cpu : CPU) (cont : Control) : CPU :=
  cpuSetLr (cpuSetBranchPc cpu (branchTarget cpu cont)) (cpu.pc + 8)

def jalr (cpu : CPU) (cont : Control) : CPU :=
  if cpu.gpr cont.rB &&& 0x3 ≠ 0 then
    alignmentException cpu (cpu.gpr cont.rB)
  else
    cpuSetLr (cpuSetBranchPc cpu (cpu.gpr cont.rB)) (cpu.pc + 8)

def jr (cpu : CPU) (cont : Control) : CPU :=
  if cpu.gpr cont.rB &&& 0x3 ≠ 0 then
    alignmentException cpu (cpu.gpr cont.rB)
  else
    cpuSetBranchPc cpu (cpu.gpr cont.rB)

/-- `sys_trap_sync`. The synchronisation instructions are not implemented. -/
def sysTrapSync (cpu : CPU) (cont : Control) : Option CPU :=
  if cont.inst &&& 0xffff0000 = 0x20000000 then some (sys cpu)
  else if cont.inst &&& 0xffff0000 = 0x21000000 then some (trap cpu)
  else none

def rfe (cpu : CPU) (_ : Control) : CPU :=
  { cpu with sr := cpu.esr, npc := cpu.epcr }

end Insn

/-! ### Which words transfer control -/

/-- The opcodes of the branches and jumps, which have a delay slot. -/
def delayedOps : List U32 := [opJ, opJal, opJalr, opBf, opBnf, opJr]

/-- Whether an instruction is a branch or jump that is taken: a conditional branch when its
condition holds, a register jump when its target is aligned. -/
def isTaken (op : U32) (cpu : CPU) (cont : Control) : Bool :=
  if op = opBf then cpuIsSetSrFlag cpu sprSrF
  else if op = opBnf then !cpuIsSetSrFlag cpu sprSrF
  else if op = opJalr ∨ op = opJr then cpu.gpr cont.rB &&& 0x3 == 0
  else op == opJ || op == opJal

/-- Whether a word is a control transfer: a branch or jump, `l.rfe`, `l.sys` or `l.trap`. -/
def isControlTransfer (inst : U32) : Bool :=
  delayedOps.contains (opcode inst) || opcode inst == opRfe ||
    (opcode inst == opSysTrapSync &&
      (inst &&& 0xffff0000 == 0x20000000 || inst &&& 0xffff0000 == 0x21000000))

theorem mem_delayedOps_of_isTaken {op : U32} {cpu : CPU} {cont : Control}
    (h : isTaken op cpu cont = true) : op ∈ delayedOps := by
  simp only [delayedOps, List.mem_cons, List.not_mem_nil, or_false]
  simp only [isTaken] at h
  split_ifs at h with hbf hbnf hreg
  · simp [hbf]
  · simp [hbnf]
  · rcases hreg with rfl | rfl <;> simp
  · rcases Bool.or_eq_true_iff.mp h with h | h <;> simp [eq_of_beq h]

end WirePatch
