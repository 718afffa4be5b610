import WirePatch.Foundations.Clocked

/-!
# Access to special-purpose registers

How the OR1200 core selects and writes a special-purpose register (`or1200_sprs.v`, lines
236–342), and the registers among the performance counters that carry the address, the data and
the strobe of the fabric (lines 419–453 and 515–537).

## Main definitions

* `Or1200.SprPorts.sprCs`: the selected groups.
* `Or1200.SpRegs`, `Or1200.SpRegs.step`: the registers of the fabric and their next values.

## Main results

* `Or1200.SprPorts.spRegWe_of_idle`: while the debug unit is idle, the registers of the fabric are
  written in every mode.
-/

namespace WirePatch.Or1200

open Clocked

/-- The signals that select and write a register. -/
structure SprPorts where
  rst : Bool
  sr : BitVec 17
  addrbase : BitVec 32
  addrofs : BitVec 16
  datI : BitVec 32
  /-- `l.mfspr` in the execute stage. -/
  exSprRead : Bool
  /-- `l.mtspr` in the execute stage. -/
  exSprWrite : Bool
  duAddr : BitVec 32
  duDatDu : BitVec 32
  duRead : Bool
  duWrite : Bool

namespace SprPorts

variable (y : SprPorts)

def duAccess : Bool := y.duRead || y.duWrite

def sprAddr : BitVec 32 :=
  if y.duAccess then y.duAddr else y.addrbase ||| y.addrofs.setWidth 32

def sprDatO : BitVec 32 := if y.duWrite then y.duDatDu else y.datI

def sprWe : Bool := y.duWrite || (y.exSprWrite && !y.duAccess)

/-- `spr_addr[OR1200_SPR_GROUP_BITS]`. -/
def group : BitVec 5 := y.sprAddr.extractLsb' 11 5

/-- `spr_addr[10:0]`. -/
def offset : BitVec 11 := y.sprAddr.extractLsb' 0 11

/-- The case statement sets one bit, that of the group. -/
def unqualifiedCs : BitVec 32 := 1#32 <<< y.group.toNat

/-- What qualifies the selects. A write by user code is qualified in group 7 only. -/
def csQualifier : Bool :=
  y.duRead || y.duWrite || y.exSprRead || (y.exSprWrite && (y.sr.getLsbD 0 || y.group == 0x07#5))

def sprCs : BitVec 32 := y.unqualifiedCs &&& (if y.csQualifier then BitVec.allOnes 32 else 0)

/-- `sp_reg1_sel` to `sp_reg3_sel`, for the offset of the register in `OR1200_SPR_GROUP_PC`. -/
def spRegSel (pccr : BitVec 5) : Bool := y.sprCs.getLsbD 7 && y.offset == pccr.setWidth 11

/-- `sp_reg1_we` to `sp_reg3_we`. -/
def spRegWe (pccr : BitVec 5) : Bool := y.sprWe && y.spRegSel pccr

variable {y}

theorem getLsbD_sprCs (g : BitVec 5) :
    y.sprCs.getLsbD g.toNat = (y.group == g && y.csQualifier) := by
  have hone : y.unqualifiedCs.getLsbD g.toNat = (y.group == g) := by
    rw [unqualifiedCs]
    generalize y.group = a
    revert a g
    decide
  rw [sprCs, BitVec.getLsbD_and, hone]
  cases y.csQualifier with
  | true => rw [if_pos rfl, BitVec.getLsbD_allOnes, decide_eq_true g.isLt]
  | false => simp

/-- Without the debug unit, the write of a register of the fabric asks for no mode. -/
theorem spRegWe_of_idle (hr : y.duRead = false) (hw : y.duWrite = false) (pccr : BitVec 5) :
    y.spRegWe pccr = (y.exSprWrite && y.group == 7 && y.offset == pccr.setWidth 11) := by
  have hselect : y.sprCs.getLsbD 7 = (y.group == 7 && y.csQualifier) := getLsbD_sprCs 7
  rw [spRegWe, spRegSel, hselect, sprWe, csQualifier, duAccess, hr, hw]
  cases y.exSprWrite <;> cases hg : y.group == 7 <;> simp_all

end SprPorts

/-- The registers that carry the address, the data and the strobe of the fabric. -/
structure SpRegs where
  spReg1 : BitVec 32
  spReg2 : BitVec 32
  spReg3 : BitVec 32
  deriving DecidableEq, Repr

namespace SpRegs

def reset : SpRegs := ⟨2000, 0, 0⟩

def step (s : SpRegs) (y : SprPorts) : SpRegs where
  spReg1 := (Control.mk y.rst (y.spRegWe 1)).latch 2000 y.sprDatO s.spReg1
  spReg2 := (Control.mk y.rst (y.spRegWe 2)).latch 0 y.sprDatO s.spReg2
  spReg3 := (Control.mk y.rst (y.spRegWe 3)).latch 0 y.sprDatO s.spReg3

end SpRegs

end WirePatch.Or1200
