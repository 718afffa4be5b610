import WirePatch.Foundations.Switch
import WirePatch.Simulator.Memory
import WirePatch.Simulator.Spr
import WirePatch.Simulator.Transfer

/-!
# Fetch, decode and execute

The dispatch tables and the step function of the simulator, `simulator.c`, lines 1960–2059,
2242–2341, 2357–2371 and 2423–2643. An instruction that is not implemented loops for ever in the
firmware build, so `dispatch` and everything above it are partial. The test for an executable
delay slot before a branch guards an empty statement and is left out.

## Main definitions

* `dispatch`, `execute`, `fetch`, `cpuExecInst`.
-/

namespace WirePatch

/-! ### Sub-opcodes -/

def sfeqOp : U32 := 0x0
def sfneOp : U32 := 0x1
def sfgtuOp : U32 := 0x2
def sfgeuOp : U32 := 0x3
def sfltuOp : U32 := 0x4
def sfleuOp : U32 := 0x5
def sfgtsOp : U32 := 0xa
def sfgesOp : U32 := 0xb
def sfltsOp : U32 := 0xc
def sflesOp : U32 := 0xd

/-- The cases of `sfi`. -/
def sfiCases : List (U32 × (CPU → Control → CPU)) :=
  [(sfneOp, Insn.sfnei),
   (sfgtuOp, Insn.sfgtui),
   (sfeqOp, Insn.sfeqi),
   (sfgeuOp, Insn.sfgeui),
   (sfgesOp, Insn.sfgesi),
   (sfltuOp, Insn.sfltui),
   (sfltsOp, Insn.sfltsi),
   (sfleuOp, Insn.sfleui),
   (sflesOp, Insn.sflesi),
   (sfgtsOp, Insn.sfgtsi)]

/-- `sfi`. -/
def sfi (cpu : CPU) (cont : Control) : Option CPU :=
  ((sfiCases).lookup cont.sfOp).map fun insn => insn cpu cont

/-- The cases of `sf`. -/
def sfCases : List (U32 × (CPU → Control → CPU)) :=
  [(sfneOp, Insn.sfne),
   (sfeqOp, Insn.sfeq),
   (sfltuOp, Insn.sfltu),
   (sfleuOp, Insn.sfleu),
   (sfgtuOp, Insn.sfgtu),
   (sfgtsOp, Insn.sfgts),
   (sfgeuOp, Insn.sfgeu),
   (sfgesOp, Insn.sfges),
   (sfltsOp, Insn.sflts),
   (sflesOp, Insn.sfles)]

/-- `sf`. -/
def sf (cpu : CPU) (cont : Control) : Option CPU :=
  ((sfCases).lookup cont.sfOp).map fun insn => insn cpu cont

/-- `mac_msb`. -/
def macMsb (cpu : CPU) (cont : Control) : Option CPU :=
  if cont.inst &&& 0xf = 0x2 then some (Insn.msb cpu cont)
  else if cont.inst &&& 0xf = 0x1 then some (Insn.mac cpu cont)
  else none

def rsSlliOp : U32 := 0x0
def rsSrliOp : U32 := 0x1
def rsSraiOp : U32 := 0x2
def rsRoriOp : U32 := 0x3

/-- The cases of `ro_shift_i`. -/
def roShiftICases (undef : ℕ → U32) : List (U32 × (CPU → Control → CPU)) :=
  [(rsSlliOp, Insn.slli (undef 0)),
   (rsSrliOp, Insn.srli (undef 0)),
   (rsSraiOp, Insn.srai (undef 0)),
   (rsRoriOp, Insn.rori (undef 0))]

/-- `ro_shift_i`. -/
def roShiftI (undef : ℕ → U32) (cpu : CPU) (cont : Control) : Option CPU :=
  ((roShiftICases undef).lookup cont.roShiftIOp).map fun insn => insn cpu cont

def addAluOp : U32 := 0x0
def addcAluOp : U32 := 0x1
def subAluOp : U32 := 0x2
def andAluOp : U32 := 0x3
def orAluOp : U32 := 0x4
def xorAluOp : U32 := 0x5
def exthsAluOp : U32 := 0xc
def extbsAluOp : U32 := 0x1 <<< 6 ||| 0xc
def extbzAluOp : U32 := 0x3 <<< 6 ||| 0xc
def exthzAluOp : U32 := 0x2 <<< 6 ||| 0xc
def extwsAluOp : U32 := 0x0 <<< 6 ||| 0xd
def extwzAluOp : U32 := 0x1 <<< 6 ||| 0xd
def sllAluOp : U32 := 0x0 <<< 6 ||| 0x8
def srlAluOp : U32 := 0x1 <<< 6 ||| 0x8
def sraAluOp : U32 := 0x2 <<< 6 ||| 0x8
def divuAluOp : U32 := 0x3 <<< 8 ||| 0xa
def divAluOp : U32 := 0x3 <<< 8 ||| 0x9
def ff1AluOp : U32 := 0x0 <<< 8 ||| 0xf
def fl1AluOp : U32 := 0x1 <<< 8 ||| 0xf
def mulAluOp : U32 := 0x3 <<< 8 ||| 0x6
def muluAluOp : U32 := 0x3 <<< 8 ||| 0xb
def rorAluOp : U32 := 0x3 <<< 6 ||| 0x8
def cmovAluOp : U32 := 0x0 <<< 6 ||| 0xe

/-- The cases of `alu`. -/
def aluCases (undef : ℕ → U32) : List (U32 × (CPU → Control → CPU)) :=
  [(addAluOp, Insn.add),
   (addcAluOp, Insn.addc),
   (extwsAluOp, Insn.extws),
   (extwzAluOp, Insn.extwz),
   (exthsAluOp, Insn.exths),
   (extbsAluOp, Insn.extbs),
   (extbzAluOp, Insn.extbz),
   (exthzAluOp, Insn.exthz),
   (divuAluOp, Insn.divu),
   (divAluOp, Insn.or32Div undef),
   (ff1AluOp, Insn.ff1),
   (fl1AluOp, Insn.fl1),
   (mulAluOp, Insn.mul),
   (muluAluOp, Insn.mulu),
   (subAluOp, Insn.sub),
   (andAluOp, Insn.and),
   (xorAluOp, Insn.xor),
   (sllAluOp, Insn.sll (undef 0)),
   (srlAluOp, Insn.srl (undef 0)),
   (sraAluOp, Insn.sra (undef 0)),
   (rorAluOp, Insn.ror (undef 0)),
   (orAluOp, Insn.or),
   (cmovAluOp, Insn.cmov)]

/-- `alu`. -/
def alu (undef : ℕ → U32) (cpu : CPU) (cont : Control) : Option CPU :=
  ((aluCases undef).lookup cont.aluOp).map fun insn => insn cpu cont

/-! ### Execution -/

/-- What a case of `execute` does: the machine after it, or none when it never ends. -/
abbrev Handler := Machine → Control → Option Machine

/-- An instruction that reads and writes the simulated registers only. -/
def onCpu (insn : CPU → Control → CPU) : Handler :=
  fun m cont => some (m.setCpu (insn m.cpu cont))

/-- An instruction that reads or writes memory or the special purpose registers. -/
def onMachine (insn : Machine → Control → Machine) : Handler :=
  fun m cont => some (insn m cont)

/-- A group of register instructions with a sub-opcode. -/
def onSwitch (switch : (ℕ → U32) → CPU → Control → Option CPU) : Handler :=
  fun m cont => (switch m.junk m.cpu cont).map m.setCpu

/-- The cases of `execute`. -/
def executeCases : List (U32 × Handler) :=
  [(opJ, onCpu Insn.j),
   (opJal, onCpu Insn.jal),
   (opJalr, onCpu Insn.jalr),
   (opBf, onCpu Insn.bf),
   (opBnf, onCpu Insn.bnf),
   (opJr, onCpu Insn.jr),
   (opNop, onCpu Insn.or32Nop),
   (opLbz, onMachine Insn.lbz),
   (opLhz, onMachine Insn.lhz),
   (opLbs, onMachine Insn.lbs),
   (opLhs, onMachine Insn.lhs),
   (opLwz, onMachine Insn.lwz),
   (opLws, onMachine Insn.lwz),
   (opAddi, onCpu Insn.addi),
   (opAddic, onCpu Insn.addic),
   (opOri, onCpu Insn.ori),
   (opSfi, onSwitch fun _ => sfi),
   (opSw, onMachine Insn.sw),
   (opSb, onMachine Insn.sb),
   (opSh, onMachine Insn.sh),
   (opAlu, onSwitch alu),
   (opMac, onSwitch fun _ => macMsb),
   (opMaci, onCpu Insn.maci),
   (opMacrcMovhi, onCpu Insn.macrcMovhi),
   (opMuli, onCpu Insn.muli),
   (opAndi, onCpu Insn.andi),
   (opXori, onCpu Insn.xori),
   (opSf, onSwitch fun _ => sf),
   (opRoShiftI, onSwitch roShiftI),
   (opMtspr, onMachine Insn.or32Mtspr),
   (opMfspr, onMachine Insn.or32Mfspr),
   (opSysTrapSync, onSwitch fun _ => Insn.sysTrapSync),
   (opRfe, onCpu Insn.rfe)]

/-- The switch of `execute`, without the advance of the program counter at its end. -/
def dispatch (op : U32) (m : Machine) (cont : Control) : Option Machine :=
  (executeCases.lookup op).bind fun handler => handler m cont

/-- `execute`. -/
def execute (op : U32) (m : Machine) (cont : Control) : Option Machine :=
  (dispatch op m cont).map Machine.advance

/-- The word that stands for a failed fetch. -/
def fetchMarker : U32 := 0xdeadbeef

/-- `fetch`: the machine after it and the word. -/
def fetch (m : Machine) : Machine × U32 :=
  let out := guestLoadI m m.cpu.pc
  let inst := out.2.getD fetchMarker
  if out.1 = 1 then (m.setCpu (instructionTLBMiss m.cpu m.cpu.pc), inst)
  else if out.1 = 2 then (m.setCpu (instructionPageFault m.cpu m.cpu.pc), inst)
  else (m, inst)

/-- `cpu_exec_inst`. -/
def cpuExecInst (m : Machine) : Option Machine :=
  let out := fetch m
  if out.2 = fetchMarker then some out.1.advance
  else execute (opcode out.2) out.1 (decode out.2)

/-! ### What a fetch does, by the word the walk returns -/

section Fetch

variable {m : Machine}

theorem fetch_of_two_lt (h : 2 < virtualToPhysicalI m m.cpu.pc) :
    fetch m = (m, m.word (virtualToPhysicalI m m.cpu.pc)) := by
  rw [fetch, guestLoadI, if_pos h]
  rfl

theorem fetch_of_eq_zero (h : virtualToPhysicalI m m.cpu.pc = 0) :
    fetch m = (m, fetchMarker) := by
  rw [fetch, guestLoadI, h]
  rfl

theorem fetch_of_eq_one (h : virtualToPhysicalI m m.cpu.pc = 1) :
    fetch m = (m.setCpu (instructionTLBMiss m.cpu m.cpu.pc), fetchMarker) := by
  rw [fetch, guestLoadI, h]
  rfl

theorem fetch_of_eq_two (h : virtualToPhysicalI m m.cpu.pc = 2) :
    fetch m = (m.setCpu (instructionPageFault m.cpu m.cpu.pc), fetchMarker) := by
  rw [fetch, guestLoadI, h]
  rfl

end Fetch

/-! ### Machines whose memory holds one word everywhere -/

/-- A machine that finds the same word at every aligned address. -/
def Machine.filled (inst : U32) (cpu : CPU) : Machine :=
  { (default : Machine) with
    cpu := cpu
    mem := fun a => ByteMemory.byteOf 4 inst (a &&& 3).toNat }

/-- The registers of a machine that is about to execute the word at an address, outside of every
delay slot. -/
def CPU.startAt (pc : U32) : CPU :=
  { (default : CPU) with pc := pc, npc := pc + 4, branchPc := noBranch }

/-- A machine with `l.nop` everywhere. -/
def nopMachine (pc : U32) : Machine :=
  .filled 0x15000000 (.startAt pc)

/-- The machine after a number of instructions none of which hangs. -/
def Machine.after (m : Machine) : ℕ → Machine
  | 0 => m
  | i + 1 => (cpuExecInst (m.after i)).getD default

theorem cpuExecInst_after {m : Machine} {i : ℕ} (h : (cpuExecInst (m.after i)).isSome = true) :
    cpuExecInst (m.after i) = some (m.after (i + 1)) := by
  obtain ⟨m', hm'⟩ := Option.isSome_iff_exists.mp h
  rw [Machine.after, hm']
  rfl

end WirePatch
