import Mathlib.Data.BitVec

/-!
# Instruction decoder of the processor

The opcodes of the OR1200 core (`or1200_defines.v`, lines 686–724) and the immediate operands its
control unit takes from an instruction word (`or1200_ctrl.v`, lines 270–325), with the multiplier
and the accumulator of `or1200_defines.v` implemented.

## Main definitions

* `Or1200.Or32`: the opcodes.
* `Or1200.idSimm`, `Or1200.idBranchAddrtarget`: the immediate and the target of a branch.

## Main results

* `Or1200.idSimm_of_signed`, `Or1200.idSimm_of_mtspr`, `Or1200.idSimm_of_store`,
  `Or1200.idSimm_of_unsigned`: the immediate of each kind of instruction.
* `Or1200.idBranchAddrtarget_eq`: the target of a branch.
-/

namespace WirePatch.Or1200

/-! ### Opcodes -/

namespace Or32

def j : BitVec 6 := 0b000000
def jal : BitVec 6 := 0b000001
def bnf : BitVec 6 := 0b000011
def bf : BitVec 6 := 0b000100
def nop : BitVec 6 := 0b000101
def movhi : BitVec 6 := 0b000110
def macrc : BitVec 6 := 0b000110
def xsync : BitVec 6 := 0b001000
def rfe : BitVec 6 := 0b001001
def jr : BitVec 6 := 0b010001
def jalr : BitVec 6 := 0b010010
def maci : BitVec 6 := 0b010011
def lwz : BitVec 6 := 0b100001
def lws : BitVec 6 := 0b100010
def lbz : BitVec 6 := 0b100011
def lbs : BitVec 6 := 0b100100
def lhz : BitVec 6 := 0b100101
def lhs : BitVec 6 := 0b100110
def addi : BitVec 6 := 0b100111
def addic : BitVec 6 := 0b101000
def andi : BitVec 6 := 0b101001
def ori : BitVec 6 := 0b101010
def xori : BitVec 6 := 0b101011
def muli : BitVec 6 := 0b101100
def mfspr : BitVec 6 := 0b101101
def shRoti : BitVec 6 := 0b101110
def sfxxi : BitVec 6 := 0b101111
def mtspr : BitVec 6 := 0b110000
def macmsb : BitVec 6 := 0b110001
def sw : BitVec 6 := 0b110101
def sb : BitVec 6 := 0b110110
def sh : BitVec 6 := 0b110111
def alu : BitVec 6 := 0b111000
def sfxx : BitVec 6 := 0b111001

end Or32

/-! ### Immediates -/

/-- The opcodes with an immediate that is extended by its sign. -/
def signedOps : List (BitVec 6) :=
  [Or32.addi, Or32.addic, Or32.lwz, Or32.lws, Or32.lbz, Or32.lbs, Or32.lhz, Or32.lhs, Or32.muli,
   Or32.maci, Or32.xori, Or32.sfxxi]

/-- The opcodes of the stores. -/
def storeOps : List (BitVec 6) := [Or32.sw, Or32.sh, Or32.sb]

/-- `id_simm`. -/
def idSimm (idInsn : BitVec 32) : BitVec 32 :=
  let op := idInsn.extractLsb' 26 6
  if op ∈ signedOps then
    (BitVec.ofBool (idInsn.getLsbD 15)).replicate 16 ++ idInsn.extractLsb' 0 16
  else if op = Or32.mtspr then
    0#16 ++ idInsn.extractLsb' 21 5 ++ idInsn.extractLsb' 0 11
  else if op ∈ storeOps then
    (BitVec.ofBool (idInsn.getLsbD 25)).replicate 16 ++ idInsn.extractLsb' 21 5 ++
      idInsn.extractLsb' 0 11
  else
    0#16 ++ idInsn.extractLsb' 0 16

/-- `id_branch_addrtarget`, for the address `id_pc[31:2]`. -/
def idBranchAddrtarget (idInsn : BitVec 32) (idPc : BitVec 30) : BitVec 30 :=
  ((BitVec.ofBool (idInsn.getLsbD 25)).replicate 4 ++ idInsn.extractLsb' 0 26) + idPc

/-- Copies of the highest bit before a word extend it by its sign. -/
theorem replicate_msb_append {w : ℕ} (n : ℕ) (x : BitVec w) :
    (BitVec.ofBool x.msb).replicate n ++ x = x.signExtend (1 * n + w) := by
  refine BitVec.eq_of_getLsbD_eq fun i hi => ?_
  rw [BitVec.getLsbD_append, BitVec.getLsbD_signExtend, BitVec.getLsbD_replicate, decide_eq_true hi,
    Bool.true_and]
  by_cases hw : i < w
  · simp [hw]
  · have hlt : i - w < 1 * n := by omega
    rw [if_neg hw, if_neg hw, decide_eq_true hlt, Bool.true_and, Nat.mod_one]
    exact BitVec.getLsbD_ofBool ..

/-- The highest bit of a field. -/
theorem msb_extractLsb' {w : ℕ} (x : BitVec w) (start len : ℕ) :
    (x.extractLsb' start (len + 1)).msb = x.getLsbD (start + len) := by
  rw [BitVec.msb_eq_getLsbD_last, BitVec.getLsbD_extractLsb']
  simp

section Immediate

variable {idInsn : BitVec 32}

theorem not_mem_signedOps_of_store {op : BitVec 6} (h : op ∈ storeOps) : op ∉ signedOps := by
  revert op
  decide

theorem idSimm_of_signed (h : idInsn.extractLsb' 26 6 ∈ signedOps) :
    idSimm idInsn = (idInsn.extractLsb' 0 16).signExtend 32 := by
  rw [idSimm, if_pos h, ← replicate_msb_append 16, msb_extractLsb' idInsn 0 15]

theorem idSimm_of_mtspr (h : idInsn.extractLsb' 26 6 = Or32.mtspr) :
    idSimm idInsn = (idInsn.extractLsb' 21 5 ++ idInsn.extractLsb' 0 11).setWidth 32 := by
  rw [idSimm, h, if_neg (by decide), if_pos rfl]
  have hzero := BitVec.setWidth_eq_append (w := 32)
    (x := idInsn.extractLsb' 21 5 ++ idInsn.extractLsb' 0 11) (by decide)
  exact BitVec.append_assoc.trans hzero.symm

theorem idSimm_of_store (h : idInsn.extractLsb' 26 6 ∈ storeOps) :
    idSimm idInsn = (idInsn.extractLsb' 21 5 ++ idInsn.extractLsb' 0 11).signExtend 32 := by
  have hmtspr : idInsn.extractLsb' 26 6 ≠ Or32.mtspr := by
    rintro hop
    rw [hop] at h
    exact absurd h (by decide)
  have hmsb : (idInsn.extractLsb' 21 5 ++ idInsn.extractLsb' 0 11).msb = idInsn.getLsbD 25 := by
    rw [BitVec.msb_append]
    exact msb_extractLsb' idInsn 21 4
  rw [idSimm, if_neg (not_mem_signedOps_of_store h), if_neg hmtspr, if_pos h,
    ← replicate_msb_append 16, hmsb]
  exact BitVec.append_assoc

theorem idSimm_of_unsigned (hsigned : idInsn.extractLsb' 26 6 ∉ signedOps)
    (hmtspr : idInsn.extractLsb' 26 6 ≠ Or32.mtspr) (hstore : idInsn.extractLsb' 26 6 ∉ storeOps) :
    idSimm idInsn = (idInsn.extractLsb' 0 16).setWidth 32 := by
  rw [idSimm, if_neg hsigned, if_neg hmtspr, if_neg hstore]
  exact (BitVec.setWidth_eq_append (w := 32) (by decide)).symm

theorem idBranchAddrtarget_eq (idInsn : BitVec 32) (idPc : BitVec 30) :
    idBranchAddrtarget idInsn idPc = (idInsn.extractLsb' 0 26).signExtend 30 + idPc := by
  rw [idBranchAddrtarget, ← replicate_msb_append 4, msb_extractLsb' idInsn 0 25]

end Immediate

end WirePatch.Or1200
