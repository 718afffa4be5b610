import WirePatch.Foundations.BitMask
import Mathlib.Logic.Function.Basic

/-!
# State of the recovery simulator

The registers of the simulated processor (`struct CPU`, `cpu.h`, lines 135–149), the flags of its
supervision register (`spr_defs.h`, lines 171–187) and the machine around it: physical memory,
the special purpose registers of the processor the firmware runs on, and a record of the data
accesses made. The model is the firmware build: `STANDALONE` and `MMU_SUPPORT` are defined, so
that every `assert` is empty (`cpu.h`, line 93) and the timer registers are not simulated.

A C value of type `u32` or `i32` is a word of 32 bits, read as signed by the operations that use
it as `i32`; a C `bool` is a `Bool`. A signed sum or difference that overflows wraps, as it does in
the compiled firmware. An operation whose result C leaves open and the compiler does not fix, a
shift by 32 or more and the negation of `INT_MIN` in a division, takes an arbitrary word.

## Main definitions

* `CPU`, `Machine`, `Access`.
* `cpuSetGpr`, `cpuSetSrFlag`, `cpuIsSetSrFlag`, `isInDelaySlot`, `cpuAdvancePc`.

## Main results

* `cpuSetSrFlag_eq`: a flag update is a masked assignment of the supervision register.
-/

namespace WirePatch

/-- `u32` and `i32`. -/
abbrev U32 := BitVec 32

/-- `u64` and `i64`. -/
abbrev U64 := BitVec 64

/-- The number of a general purpose register, below `NUM_REGS`. -/
abbrev Reg := Fin 32

/-- `NUM_REGS` is not 0, so that numerals name registers. -/
instance numRegs_neZero : NeZero 32 := ⟨by decide⟩

/-- The link register, `PT_LR`. -/
def ptLr : Reg := 9

/-- `struct CPU`. -/
@[ext] structure CPU where
  gpr : Reg → U32
  pc : U32
  npc : U32
  sr : U32
  machi : U32
  maclo : U32
  branchPc : U32
  esr : U32
  epcr : U32
  eear : U32
  dsr : U32
  deriving Inhabited

/-- Whether a data access reads or writes memory. -/
inductive Dir
  | load
  | store
  deriving DecidableEq, Repr

/-- The width of a data access. -/
inductive Width
  | byte
  | half
  | word
  deriving DecidableEq, Repr

/-- One data access to physical memory. -/
structure Access where
  dir : Dir
  width : Width
  addr : U32
  value : U32
  deriving DecidableEq, Repr

/-- The simulated processor and its surroundings. -/
@[ext] structure Machine where
  /-- The simulated registers. -/
  cpu : CPU
  /-- Physical memory. -/
  mem : U32 → BitVec 8
  /-- The special purpose registers reached by the `l.mfspr` and `l.mtspr` of the firmware. -/
  spr : U32 → U32
  /-- The data accesses made so far, the latest first. It is written and never read. -/
  log : List Access
  /-- The words the compiled program yields where C defines none: an automatic variable before its
  first assignment, a shift by 32 or more, the negation of `INT_MIN` in a division. The first two
  are those of the next instruction, which needs no more. -/
  junk : ℕ → U32
  deriving Inhabited

/-! ### Flags of the supervision register -/

def sprSrSm : U32 := 0x00000001
def sprSrTee : U32 := 0x00000002
def sprSrIee : U32 := 0x00000004
def sprSrDme : U32 := 0x00000020
def sprSrIme : U32 := 0x00000040
def sprSrF : U32 := 0x00000200
def sprSrCy : U32 := 0x00000400
def sprSrOv : U32 := 0x00000800
def sprSrOve : U32 := 0x00001000
def sprSrDsx : U32 := 0x00002000
def sprSrEph : U32 := 0x00004000
def sprSrFo : U32 := 0x00008000

/-- The `int` that a C truth value is. -/
def cBool (b : Bool) : U32 := bif b then 1 else 0

/-- `cpu_set_sr_flag`. -/
def cpuSetSrFlag (cpu : CPU) (flag : U32) (set : Bool) : CPU :=
  { cpu with sr := cpu.sr &&& ~~~flag ||| flag &&& (0 - cBool set) }

/-- `cpu_is_set_sr_flag`. -/
def cpuIsSetSrFlag (cpu : CPU) (flag : U32) : Bool :=
  (cpu.sr &&& flag) != 0

theorem and_neg_cBool (flag : U32) (set : Bool) :
    flag &&& (0 - cBool set) = bif set then flag else 0#32 := by
  cases set
  · change flag &&& 0#32 = 0#32
    exact BitVec.and_zero
  · change flag &&& BitVec.allOnes 32 = flag
    exact BitVec.and_allOnes

/-- A flag update is a masked assignment of the supervision register. -/
theorem cpuSetSrFlag_eq (cpu : CPU) (flag : U32) (set : Bool) :
    cpuSetSrFlag cpu flag set = { cpu with sr := BitMask.assign cpu.sr flag set } := by
  rw [cpuSetSrFlag, and_neg_cBool, BitMask.assign]

/-- A flag test on a single bit reads the supervision register through it. -/
theorem cpuIsSetSrFlag_congr {c d : CPU} {flag : U32} (h : c.sr &&& flag = d.sr &&& flag) :
    cpuIsSetSrFlag c flag = cpuIsSetSrFlag d flag := by
  rw [cpuIsSetSrFlag, cpuIsSetSrFlag, h]

theorem cpuIsSetSrFlag_eq_true {c : CPU} {flag : U32} :
    cpuIsSetSrFlag c flag = true ↔ c.sr &&& flag ≠ 0 := by
  simp [cpuIsSetSrFlag]

theorem cpuIsSetSrFlag_eq_false {c : CPU} {flag : U32} :
    cpuIsSetSrFlag c flag = false ↔ c.sr &&& flag = 0 := by
  simp [cpuIsSetSrFlag]

theorem cpuIsSetSrFlag_cpuSetSrFlag_self {flag : U32} (h : flag ≠ 0) (cpu : CPU) (set : Bool) :
    cpuIsSetSrFlag (cpuSetSrFlag cpu flag set) flag = set := by
  rw [cpuSetSrFlag_eq, cpuIsSetSrFlag, BitMask.assign_and_self]
  cases set
  · rfl
  · exact bne_iff_ne.mpr h

theorem cpuIsSetSrFlag_cpuSetSrFlag_of_disjoint {flag other : U32} (h : flag &&& other = 0)
    (cpu : CPU) (set : Bool) :
    cpuIsSetSrFlag (cpuSetSrFlag cpu flag set) other = cpuIsSetSrFlag cpu other := by
  rw [cpuSetSrFlag_eq]
  exact cpuIsSetSrFlag_congr (BitMask.assign_and_of_disjoint h ..)

/-! ### Registers and the program counter -/

/-- The register file after a write; register 0 stays 0. -/
def setReg (gpr : Reg → U32) (reg : Reg) (value : U32) : Reg → U32 :=
  Function.update gpr reg (if reg = 0 then 0 else value)

/-- `cpu_set_gpr`. -/
def cpuSetGpr (cpu : CPU) (reg : Reg) (value : U32) : CPU :=
  { cpu with gpr := setReg cpu.gpr reg value }

theorem setReg_self (gpr : Reg → U32) (reg : Reg) (value : U32) :
    setReg gpr reg value reg = if reg = 0 then 0 else value :=
  Function.update_self ..

theorem setReg_of_ne {gpr : Reg → U32} {reg r : Reg} (h : r ≠ reg) (value : U32) :
    setReg gpr reg value r = gpr r :=
  Function.update_of_ne h ..

/-- Two writes to a register leave the same register file when it is register 0 or the values are
equal. -/
theorem setReg_inj {gpr : Reg → U32} {reg : Reg} {v w : U32} :
    setReg gpr reg v = setReg gpr reg w ↔ reg = 0 ∨ v = w := by
  constructor
  · intro h
    have hreg := congrFun h reg
    rw [setReg_self, setReg_self] at hreg
    by_cases h0 : reg = 0
    · exact .inl h0
    · exact .inr (by rwa [if_neg h0, if_neg h0] at hreg)
  · rintro (h | h)
    · rw [setReg, setReg, if_pos h, if_pos h]
    · rw [h]

/-- `cpu_get_mac`. -/
def cpuGetMac (cpu : CPU) : U64 :=
  cpu.maclo.setWidth 64 ||| cpu.machi.setWidth 64 <<< 32

/-- `cpu_set_mac`. -/
def cpuSetMac (cpu : CPU) (m : U64) : CPU :=
  { cpu with machi := (m >>> 32).setWidth 32, maclo := (m &&& 0xffffffff).setWidth 32 }

/-- The value of `branch_pc` when no branch is pending. -/
def noBranch : U32 := 0xffffffff

/-- `is_in_delay_slot`. -/
def isInDelaySlot (cpu : CPU) : Bool :=
  cpu.npc != cpu.pc + 4

theorem isInDelaySlot_eq_false {cpu : CPU} : isInDelaySlot cpu = false ↔ cpu.npc = cpu.pc + 4 := by
  simp [isInDelaySlot]

theorem isInDelaySlot_eq_true {cpu : CPU} : isInDelaySlot cpu = true ↔ cpu.npc ≠ cpu.pc + 4 := by
  simp [isInDelaySlot]

/-- `cpu_advance_pc`. -/
def cpuAdvancePc (cpu : CPU) : CPU :=
  if cpu.branchPc ≠ noBranch then
    { cpu with pc := cpu.npc, npc := cpu.branchPc, branchPc := noBranch }
  else
    { cpu with pc := cpu.npc, npc := cpu.npc + 4 }

/-- Advancing the program counter changes `pc`, `npc` and `branch_pc` only, and leaves no branch
pending. -/
@[simp] theorem cpuAdvancePc_eq (cpu : CPU) : cpuAdvancePc cpu =
    { cpu with
      pc := cpu.npc
      npc := if cpu.branchPc = noBranch then cpu.npc + 4 else cpu.branchPc
      branchPc := noBranch } := by
  by_cases h : cpu.branchPc = noBranch
  · rw [cpuAdvancePc, if_neg (not_not.mpr h), if_pos h, ← h]
  · rw [cpuAdvancePc, if_pos h, if_neg h]

/-- The machine with its simulated registers replaced. -/
def Machine.setCpu (m : Machine) (cpu : CPU) : Machine :=
  { m with cpu := cpu }

@[simp] theorem Machine.setCpu_cpu (m : Machine) (cpu : CPU) : (m.setCpu cpu).cpu = cpu := rfl

@[simp] theorem Machine.setCpu_mem (m : Machine) (cpu : CPU) : (m.setCpu cpu).mem = m.mem := rfl

@[simp] theorem Machine.setCpu_spr (m : Machine) (cpu : CPU) : (m.setCpu cpu).spr = m.spr := rfl

@[simp] theorem Machine.setCpu_junk (m : Machine) (cpu : CPU) : (m.setCpu cpu).junk = m.junk := rfl

@[simp] theorem Machine.setCpu_log (m : Machine) (cpu : CPU) : (m.setCpu cpu).log = m.log := rfl

/-- The machine after the program counter has advanced. Each instruction has undefined words of its
own. -/
def Machine.advance (m : Machine) : Machine :=
  { m.setCpu (cpuAdvancePc m.cpu) with junk := fun n => m.junk (n + 2) }

@[simp] theorem Machine.advance_cpu (m : Machine) : m.advance.cpu = cpuAdvancePc m.cpu := rfl

@[simp] theorem Machine.advance_mem (m : Machine) : m.advance.mem = m.mem := rfl

@[simp] theorem Machine.advance_spr (m : Machine) : m.advance.spr = m.spr := rfl

/-- The machine at another address, outside of every delay slot. -/
def Machine.goto (m : Machine) (pc : U32) : Machine :=
  m.setCpu { m.cpu with pc := pc, npc := pc + 4 }

theorem Machine.goto_self {m : Machine} (h : m.cpu.npc = m.cpu.pc + 4) : m.goto m.cpu.pc = m := by
  rw [Machine.goto, ← h]
  rfl

end WirePatch
