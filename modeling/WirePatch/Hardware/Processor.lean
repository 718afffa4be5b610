import WirePatch.Hardware.Sprs
import WirePatch.Simulator.State

/-!
# The processor as its exception handlers see it

The registers of the OR1200 core that the handler of a violation names, with the way the core
reads and writes them: the register file (`or1200_rf.v`, line 206), the special purpose registers
of the groups SYS, MAC, DU and PC (`or1200_sprs.v`, lines 390–480; `or1200_except.v`,
lines 650–661; `or1200_mult_mac.v`, lines 178–180; `or1200_du.v`, lines 645–647 and 1003), the
entry of an illegal instruction exception, and the return from its handler. A register that holds
fewer than 32 bits keeps the bits it has.

## Main definitions

* `Or1200.Gprs`, `Or1200.Dsr`, `Or1200.SprFile`, `Or1200.Processor`.
* `Or1200.Processor.illegal`, `Or1200.Processor.rfe`.

## Main results

* `Or1200.toSr_of_branchOpRfe`: a return loads the saved supervision register.
* `Or1200.Dsr.write_read`: DSR holds what is read from it.
-/

namespace WirePatch.Or1200

/-- A return from an exception loads the saved supervision register. -/
theorem toSr_of_branchOpRfe {s : SrSignals} (hstarted : s.exceptStarted = false)
    (hrfe : s.branchOpRfe = true) : toSr s = s.returned := by
  refine BitVec.eq_of_getLsbD_eq fun i hi => ?_
  simp only [toSr, SrSignals.ted, SrSignals.foToOve, SrSignals.forwardedFlag, SrSignals.ceToSm,
    hstarted, hrfe, if_true, Bool.false_eq_true, if_false, BitVec.getLsbD_append,
    BitVec.getLsbD_extractLsb']
  interval_cases i <;> simp

/-! ### Registers -/

/-- The general purpose registers. The data written to register 0 is 0. -/
structure Gprs where
  val : Reg → U32
  zero : val 0 = 0

namespace Gprs

@[ext] theorem ext {g g' : Gprs} (h : ∀ r, r ≠ 0 → g.val r = g'.val r) : g = g' := by
  obtain ⟨val, zero⟩ := g
  obtain ⟨val', zero'⟩ := g'
  have hval : val = val' := by
    funext r
    by_cases hr : r = 0
    · rw [hr, zero, zero']
    · exact h r hr
  subst hval
  rfl

/-- A register is written. -/
def set (g : Gprs) (rD : Reg) (value : U32) : Gprs where
  val := setReg g.val rD value
  zero := by
    by_cases h : rD = 0
    · rw [← h, setReg_self, if_pos h]
    · rw [setReg_of_ne (Ne.symm h), g.zero]

variable (g : Gprs)

theorem val_set_self {rD : Reg} (h : rD ≠ 0) (value : U32) : (g.set rD value).val rD = value :=
  (setReg_self ..).trans (if_neg h)

theorem val_set_of_ne {rD r : Reg} (h : r ≠ rD) (value : U32) :
    (g.set rD value).val r = g.val r :=
  setReg_of_ne h value

/-- The second of two writes to a register counts. -/
theorem set_set (rD : Reg) (v w : U32) : (g.set rD v).set rD w = g.set rD w := by
  refine Gprs.ext fun r hr => ?_
  by_cases h : r = rD
  · rw [h, val_set_self _ (h ▸ hr), val_set_self _ (h ▸ hr)]
  · rw [val_set_of_ne _ h, val_set_of_ne _ h, val_set_of_ne _ h]

theorem set_val (rD : Reg) : g.set rD (g.val rD) = g := by
  refine Gprs.ext fun r hr => ?_
  by_cases h : r = rD
  · rw [h, val_set_self _ (h ▸ hr)]
  · rw [val_set_of_ne _ h]

end Gprs

/-- DSR, of `OR1200_DU_DSR_WIDTH` bits. A write clears the bit of the illegal instruction
exception, so that no checker can stop the processor. -/
@[ext] structure Dsr where
  bits : BitVec 14
  noIie : bits &&& 0x3fbf = bits

/-- DSR after a write. -/
def Dsr.write (value : U32) : Dsr where
  bits := value.setWidth 14 &&& 0x3fbf
  noIie := by
    rw [BitVec.and_assoc]
    rfl

/-- The word read from DSR. -/
def Dsr.read (d : Dsr) : U32 := d.bits.setWidth 32

/-- DSR holds what is read from it. -/
theorem Dsr.write_read (d : Dsr) : Dsr.write d.read = d := by
  refine Dsr.ext ?_
  change (d.bits.setWidth 32).setWidth 14 &&& 0x3fbf = d.bits
  rw [BitVec.setWidth_setWidth_of_le _ (by decide), BitVec.setWidth_eq]
  exact d.noIie

/-- The special purpose registers: those the handler names, the shadow registers of EPCR, EEAR and
ESR among them, the supervision register, and all others by their number. -/
structure SprFile where
  sr : SrWord
  epcr : U32
  eear : U32
  esr : SrWord
  spEpcrGhost : U32
  spEearGhost : U32
  spEsrGhost : SrWord
  machi : U32
  maclo : U32
  dsr : Dsr
  spReg4 : U32
  others : U32 → U32

namespace SprFile

/-- The bit FO of ESR is constant. -/
def fixFo (value : U32) : SrWord :=
  value.extractLsb' 16 1 ++ 1#1 ++ value.extractLsb' 0 15

/-- ESR holds what is read from it when FO is set. -/
theorem fixFo_setWidth {esr : SrWord} (hfo : esr.getLsbD 15 = true) :
    fixFo (esr.setWidth 32) = esr := by
  refine BitVec.eq_of_getLsbD_eq fun i hi => ?_
  simp only [fixFo, BitVec.getLsbD_append, BitVec.getLsbD_extractLsb', BitVec.getLsbD_setWidth]
  interval_cases i <;> simp [hfo]

/-- The registers an `l.mfspr` reads, by number. -/
def readCases : List (U32 × (SprFile → U32)) :=
  [(32, epcr), (32 + 1, spEpcrGhost), (48, eear), (48 + 1, spEearGhost),
   (64, fun s => s.esr.setWidth 32), (64 + 1, fun s => s.spEsrGhost.setWidth 32),
   ((5 <<< 11) + 2, machi), ((5 <<< 11) + 1, maclo), ((6 <<< 11) + 20, fun s => s.dsr.read),
   ((7 <<< 11) + 4, spReg4)]

/-- The registers an `l.mtspr` writes, by number. -/
def writeCases : List (U32 × (SprFile → U32 → SprFile)) :=
  [(32, fun s value => { s with epcr := value }),
   (32 + 1, fun s value => { s with spEpcrGhost := value }),
   (48, fun s value => { s with eear := value }),
   (48 + 1, fun s value => { s with spEearGhost := value }),
   (64, fun s value => { s with esr := fixFo value }),
   (64 + 1, fun s value => { s with spEsrGhost := value.setWidth 17 }),
   ((5 <<< 11) + 2, fun s value => { s with machi := value }),
   ((5 <<< 11) + 1, fun s value => { s with maclo := value }),
   ((6 <<< 11) + 20, fun s value => { s with dsr := .write value }),
   ((7 <<< 11) + 4, fun s value => { s with spReg4 := value })]

/-- `l.mfspr`. -/
def read (s : SprFile) (number : U32) : U32 :=
  ((readCases.lookup number).map fun get => get s).getD (s.others number)

/-- `l.mtspr`. -/
def write (s : SprFile) (number value : U32) : SprFile :=
  ((writeCases.lookup number).map fun set => set s value).getD
    { s with others := Function.update s.others number value }

end SprFile

/-! ### The processor -/

/-- The registers of the processor, and memory. -/
structure Processor where
  gpr : Gprs
  pc : U32
  spr : SprFile
  mem : U32 → BitVec 8

/-- `SP_IIE_ADDR`, the handler of the illegal instruction exception. -/
def spIieAddr : U32 := 0x08000000

namespace Processor

/-- The entry of an illegal instruction exception: EPCR, EEAR and ESR move to their shadow
registers and receive the pc to return to, the pc of the instruction and the supervision
register. -/
def illegal (exPc : U32) (dsx : Bool) (p : Processor) : Processor :=
  { p with
    pc := spIieAddr
    spr := { p.spr with
      sr := toSr { (default : SrSignals) with sr := p.spr.sr, dsx := dsx, exceptStarted := true }
      epcr := p.pc
      eear := exPc
      esr := p.spr.sr
      spEpcrGhost := p.spr.epcr
      spEearGhost := p.spr.eear
      spEsrGhost := p.spr.esr } }

/-- `l.rfe` at an address in the range of that handler. -/
def rfe (p : Processor) : Processor :=
  { p with
    pc := p.spr.spEpcrGhost
    spr := { p.spr with
      sr := toSr { (default : SrSignals) with
        sr := p.spr.sr
        esr := p.spr.esr
        spEsrGhost := p.spr.spEsrGhost
        branchOpRfe := true
        spIieAddrCompare := true } } }

theorem sr_rfe (p : Processor) : p.rfe.spr.sr = p.spr.spEsrGhost :=
  toSr_of_branchOpRfe rfl rfl

end Processor

end WirePatch.Or1200
