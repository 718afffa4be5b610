import WirePatch.Foundations.PartialRun
import WirePatch.Simulator.Execute

/-!
# The recovery routine

`runSim.c`: the routine the firmware calls when a checker has fired. It reads what was violated
and where from the registers of the processor, repairs the state or chooses the instruction to
resume at, and simulates from there until it is outside of every delay slot.

## Main definitions

* `recalcEa`, `calcJumpTarget`: the helpers that look back at instructions already executed.
* `runSimEntry`: the routine up to its loop.
* `recoveryLoop`, `runSim`.
-/

namespace WirePatch

/-! ### Registers of the checkers -/

def assertionReg : U32 := (7 <<< 11) + 5
def eppcReg : U32 := (7 <<< 11) + 7

/-- `getAssertionReg`. -/
def getAssertionReg (m : Machine) : U32 := getSPR m assertionReg

/-- `getEPPCReg`. -/
def getEPPCReg (m : Machine) : U32 := getSPR m eppcReg

/-- `getEPCRReg`. -/
def getEPCRReg (m : Machine) : U32 := getSPR m sprEpcrBase

/-! ### Looking back -/

/-- The fetch of both helpers: the program counter is moved to an address and the word there is
fetched. -/
def fetchAt (m : Machine) (address : U32) : Machine × U32 :=
  fetch (m.setCpu { m.cpu with pc := address, npc := address + 4 })

/-- The program counter put back, by the last statements of both helpers. -/
def restorePc (m : Machine) (backupPc : U32) : Machine :=
  m.setCpu { m.cpu with pc := backupPc, npc := backupPc + 4 }

/-- `recalc_ea`: the machine after it and the effective address. -/
def recalcEa (m : Machine) (address : U32) : Machine × U32 :=
  let out := fetchAt m address
  (restorePc out.1 m.cpu.pc, calcEa out.1.cpu (decode out.2))

/-- The switch of `calc_jump_target`. -/
def jumpTarget (cpu : CPU) (cont : Control) : U32 :=
  if cont.opcode = opRfe then cpu.epcr
  else if cont.opcode = opJ ∨ cont.opcode = opJal ∨ cont.opcode = opBf ∨ cont.opcode = opBnf then
    branchTarget cpu cont
  else if cont.opcode = opJalr ∨ cont.opcode = opJr then cpu.gpr cont.rB
  else if cont.opcode = opSysTrapSync then 0xC00
  else 0

/-- `calc_jump_target`: the machine after it and the target. -/
def calcJumpTarget (m : Machine) (address : U32) : Machine × U32 :=
  let out := fetchAt m address
  (restorePc out.1 m.cpu.pc, jumpTarget out.1.cpu (decode out.2))

/-! ### The routine -/

/-- The address of the first simulated instruction, from the registers of the checkers. -/
def resumePc (eppc epcr : U32) : U32 :=
  if epcr - eppc > 4 ∨ eppc - epcr > 4 then eppc - 4 else eppc

/-- Whether the program counter is in the page of the instruction TLB miss vector. -/
def inMissPage (pc : U32) : Bool :=
  pc &&& 0xFFFFFF00 == 0xA00

/-- EEAR for an exception raised at an address: the address itself when the program counter is in
the page of the instruction TLB miss vector, else the effective address of the instruction. -/
def recalcEear (m : Machine) (address : U32) : Machine × U32 :=
  if inMissPage m.cpu.pc then (m, address) else recalcEa m address

/-- The last assignments to EPCR and EEAR. -/
def setEpcrEear (m : Machine) (epcr eear : U32) : Machine :=
  m.setCpu { m.cpu with epcr := epcr, eear := eear }

/-- The reconstruction of EPCR and EEAR for a violation of the exception registers. -/
def reconstruct (m : Machine) (violated eppc : U32) : Machine :=
  if cpuIsSetSrFlag m.cpu sprSrDsx then
    -- the faulting instruction is in the delay slot of the branch at `eppc`
    let epcr := eppc
    let eear := recalcEear m (epcr + 4)
    setEpcrEear eear.1 epcr eear.2
  else if violated &&& 0x80000 = 0 then
    -- the faulting instruction follows the one at `eppc`
    let epcr := eppc + 4
    let eear := recalcEear m epcr
    setEpcrEear eear.1 epcr eear.2
  else
    -- the faulting instruction is the target of the control transfer before `eppc`, or at it
    let first := calcJumpTarget m (eppc - 4)
    let target := if first.2 = 0 then calcJumpTarget first.1 eppc else first
    let eear := recalcEear target.1 target.2
    setEpcrEear eear.1 target.2 eear.2

/-- How the routine leaves the part before its loop. -/
inductive Entry
  | done (m : Machine)
  | loop (m : Machine)

/-- `runSim` after the first repair: the supervision register is restored, or the loop is
prepared. -/
def enterLoop (m : Machine) (violated : U32) : Entry :=
  if violated &&& 0x8000 ≠ 0 then
    .done (m.setCpu { m.cpu with sr := m.cpu.esr, pc := m.cpu.epcr })
  else
    let pc := resumePc (getEPPCReg m) (getEPCRReg m)
    let m := m.setCpu { m.cpu with pc := pc, npc := pc + 4 }
    if violated &&& 0x8 ≠ 0 then
      .loop (reconstruct m violated (getEPPCReg m))
    else
      .loop m

/-- `runSim` up to its loop. -/
def runSimEntry (m : Machine) : Entry :=
  let violated := getAssertionReg m
  if violated &&& 0x308 ≠ 0 then
    let m := m.setCpu { m.cpu with sr := m.cpu.sr &&& 0xFFFFFFFE }
    if violated &&& 0x8 = 0 then .done m else enterLoop m violated
  else
    enterLoop m violated

/-- The loop: the first instruction, and then instructions until the next one is not in a delay
slot. The result counts the instructions. -/
def recoveryLoop (fuel : ℕ) (m : Machine) : Option (ℕ × Machine) :=
  (cpuExecInst m).bind fun m =>
    (PartialRun.doWhile cpuExecInst (fun m => isInDelaySlot m.cpu) fuel m).map
      fun r => (r.1 + 1, r.2)

/-- `runSim`, with a bound on the iterations of its loop. -/
def runSim (fuel : ℕ) (m : Machine) : Option Machine :=
  match runSimEntry m with
  | .done m => some m
  | .loop m => (recoveryLoop fuel m).map Prod.snd

end WirePatch
