import WirePatch.Hardware.Ctrl
import WirePatch.Hardware.Except

/-!
# Program counter of the processor

The unit of the OR1200 core that addresses the next fetch (`or1200_genpc.v`, lines 133–311), and the
decoder of the branches (`or1200_ctrl.v`, lines 1042–1086). The next address comes from a write to
the program counter, from an exception that starts, from a branch in the execute stage or, else, is
the one after the last address. The exception for an illegal instruction starts at the handler of
the monitor, and a return from that handler goes to the shadow register of EPCR. Bit 0 of an address
marks the target of a branch or an exception. The delayed copy of `genpc_refetch`, which is not
read, is left out.

## Main definitions

* `Or1200.branchOpOf`: the decoder.
* `Or1200.exceptVector`: the address of the handler of an exception.
* `Or1200.Genpc`, `Or1200.GenpcIn`, `Or1200.Genpc.step`: the unit.

## Main results

* `Or1200.Genpc.icpuAdrO_of_exceptStart`: an exception that starts addresses its handler.
* `Or1200.Genpc.icpuAdrO_of_rty`: an address without an answer is kept.
-/

namespace WirePatch.Or1200

/-! ### Branches -/

namespace BranchCode

def nop : BitVec 3 := 0
def j : BitVec 3 := 1
def jr : BitVec 3 := 2
def bal : BitVec 3 := 3
def bf : BitVec 3 := 4
def bnf : BitVec 3 := 5
def rfe : BitVec 3 := 6

end BranchCode

/-- The opcodes of the branches. -/
def branchOpCases : List (BitVec 6 × BitVec 3) :=
  [(Or32.j, BranchCode.j), (Or32.jal, BranchCode.j), (Or32.jalr, BranchCode.jr),
   (Or32.jr, BranchCode.jr), (Or32.bnf, BranchCode.bnf), (Or32.bf, BranchCode.bf),
   (Or32.rfe, BranchCode.rfe)]

/-- `branch_op`. -/
def branchOpOf (insn : U32) : BitVec 3 :=
  (branchOpCases.lookup (insn.extractLsb' 26 6)).getD BranchCode.nop

/-- `OR1200_BOOT_ADR`. -/
def bootAdr : U32 := 0x00000100

/-- `SP_IIE_ADDR_COMPARE`. -/
def inHandler (exPc : U32) : Bool := exPc.extractLsb' 24 8 == 0x08

/-- The address of the handler of an exception. -/
def exceptVector (exceptType : BitVec 4) (exceptPrefix : Bool) : U32 :=
  if exceptType = ExceptType.illegal then spIieAddr
  else (if exceptPrefix then 0xf0000#20 else 0x00000#20) ++ exceptType ++ 0x00#8

/-- The handlers are aligned. -/
theorem exceptVector_aligned (exceptType : BitVec 4) (exceptPrefix : Bool) :
    (exceptVector exceptType exceptPrefix).extractLsb' 2 30 ++ 0#2 =
      exceptVector exceptType exceptPrefix := by
  revert exceptType exceptPrefix
  decide

theorem extractLsb'_append_zero (a : BitVec 30) : (a ++ 0#2).extractLsb' 2 30 = a := by
  refine BitVec.eq_of_getLsbD_eq fun k hk => ?_
  rw [BitVec.getLsbD_extractLsb', BitVec.getLsbD_append, if_neg (by omega), decide_eq_true hk,
    Bool.true_and]
  exact congrArg a.getLsbD (by omega)

/-- The address of a fetch: the last argument is the mark. -/
def fetchAdr (a : BitVec 30) (taken : Bool) : U32 := a ++ 0#1 ++ BitVec.ofBool taken

@[simp] theorem fetchAdr_mark (a : BitVec 30) (taken : Bool) :
    (fetchAdr a taken).getLsbD 0 = taken := by
  rw [fetchAdr, BitVec.getLsbD_append]
  exact BitVec.getLsbD_ofBool ..

@[simp] theorem extractLsb'_fetchAdr (a : BitVec 30) (taken : Bool) :
    (fetchAdr a taken).extractLsb' 2 30 = a := by
  refine BitVec.eq_of_getLsbD_eq fun k hk => ?_
  rw [fetchAdr, BitVec.getLsbD_extractLsb', BitVec.getLsbD_append, BitVec.getLsbD_append]
  rw [if_neg (by omega), if_neg (by omega), decide_eq_true hk, Bool.true_and]
  exact congrArg a.getLsbD (by omega)

/-! ### The unit -/

/-- The registers of the unit. -/
structure Genpc where
  pcregDefault : BitVec 30
  pcregSelect : Bool

/-- The inputs that select the next address. -/
structure BranchIn where
  branchOp : BitVec 3
  exceptType : BitVec 4
  exceptPrefix : Bool
  exBranchAddrtarget : BitVec 30
  operandB : U32
  flag : Bool
  exceptStart : Bool
  epcr : U32
  sprDatI : U32
  sprPcWe : Bool
  exPc : U32
  spEpcrGhost : U32

/-- The inputs of the unit. -/
structure GenpcIn extends BranchIn where
  rst : Bool
  icpuRtyI : Bool
  icpuAdrI : U32
  genpcRefetch : Bool
  genpcFreeze : Bool
  noMoreDslot : Bool

namespace Genpc

section Signals

variable (s : Genpc)

/-- `pcreg`. -/
def pcreg : BitVec 30 := if s.pcregSelect then bootAdr.extractLsb' 2 30 else s.pcregDefault

/-- The address after the last one. -/
def sequential : U32 := (s.pcreg + 1) ++ 0#2

/-- `pc` and `ex_branch_taken`. -/
def next (i : BranchIn) : U32 × Bool :=
  if i.sprPcWe then (i.sprDatI, false)
  else if i.exceptStart then (exceptVector i.exceptType i.exceptPrefix, true)
  else if i.branchOp = BranchCode.nop then (s.sequential, false)
  else if i.branchOp = BranchCode.j then (i.exBranchAddrtarget ++ 0#2, true)
  else if i.branchOp = BranchCode.jr then (i.operandB, true)
  else if i.branchOp = BranchCode.bf then
    if i.flag then (i.exBranchAddrtarget ++ 0#2, true) else (s.sequential, false)
  else if i.branchOp = BranchCode.bnf then
    if i.flag then (s.sequential, false) else (i.exBranchAddrtarget ++ 0#2, true)
  else if i.branchOp = BranchCode.rfe then
    (if inHandler i.exPc then i.spEpcrGhost else i.epcr, true)
  else (i.sprDatI, false)

variable (i : GenpcIn)

/-- `pc[31:2]`. -/
def nextPcreg : BitVec 30 := (s.next i.toBranchIn).1.extractLsb' 2 30

/-- `icpu_adr_o`. -/
def icpuAdrO : U32 :=
  if !i.noMoreDslot && !i.exceptStart && !i.sprPcWe && (i.icpuRtyI || i.genpcRefetch) then
    i.icpuAdrI
  else fetchAdr (s.nextPcreg i) ((s.next i.toBranchIn).2 || i.sprPcWe)

/-- One step of the unit. -/
def step : Genpc :=
  { pcregDefault :=
      if i.rst then (bootAdr >>> 2 - 4).setWidth 30
      else if s.pcregSelect then bootAdr.extractLsb' 2 30
      else if i.sprPcWe then i.sprDatI.extractLsb' 2 30
      else if i.noMoreDslot || i.exceptStart ||
          !i.genpcFreeze && !i.icpuRtyI && !i.genpcRefetch then
        s.nextPcreg i
      else s.pcregDefault
    pcregSelect := if i.rst then true else if s.pcregSelect then false else s.pcregSelect }

/-- The unit in reset. -/
def reset : Genpc :=
  { pcregDefault := (bootAdr >>> 2 - 4).setWidth 30, pcregSelect := true }

end Signals

section Steps

variable {s : Genpc} {i : GenpcIn}

theorem next_of_exceptStart (hpc : i.sprPcWe = false) (hstart : i.exceptStart = true) :
    s.next i.toBranchIn = (exceptVector i.exceptType i.exceptPrefix, true) := by
  rw [next, hpc, hstart]
  rfl

theorem next_of_rfe (hpc : i.sprPcWe = false) (hstart : i.exceptStart = false)
    (hrfe : i.branchOp = BranchCode.rfe) :
    s.next i.toBranchIn = (if inHandler i.exPc then i.spEpcrGhost else i.epcr, true) := by
  rw [next, hpc, hstart, hrfe]
  rfl

/-- An exception that starts addresses its handler. -/
theorem icpuAdrO_of_exceptStart (hpc : i.sprPcWe = false) (hstart : i.exceptStart = true) :
    s.icpuAdrO i =
      fetchAdr ((exceptVector i.exceptType i.exceptPrefix).extractLsb' 2 30) true := by
  rw [icpuAdrO, nextPcreg, next_of_exceptStart hpc hstart, hstart]
  simp

theorem pcregSelect_step (hrst : i.rst = false) : (s.step i).pcregSelect = false := by
  cases hselect : s.pcregSelect <;> simp [step, hrst, hselect]

/-- A taken branch whose delay slot is behind it addresses its target. -/
theorem icpuAdrO_of_noMoreDslot (hslot : i.noMoreDslot = true)
    (htaken : (s.next i.toBranchIn).2 = true) :
    s.icpuAdrO i = fetchAdr (s.nextPcreg i) true := by
  rw [icpuAdrO, hslot, htaken]
  rfl

/-- An address without an answer is kept. -/
theorem icpuAdrO_of_rty (hslot : i.noMoreDslot = false) (hstart : i.exceptStart = false)
    (hpc : i.sprPcWe = false) (hrty : i.icpuRtyI = true) : s.icpuAdrO i = i.icpuAdrI := by
  rw [icpuAdrO, hslot, hstart, hpc, hrty]
  rfl

end Steps

end Genpc

end WirePatch.Or1200
