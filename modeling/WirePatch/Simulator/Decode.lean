import WirePatch.Simulator.Arithmetic

/-!
# Instruction decoding

The opcodes of `simulator.h`, the fields of an instruction word (`simulator.c`, lines 50–80) and
`decode`, lines 2575–2609. `struct control` keeps every field the source decodes, whatever the
opcode is.

## Main definitions

* `Control`, `decode`, `calcEa`.
-/

namespace WirePatch

/-! ### Opcodes -/

def opJ : U32 := 0x0
def opJal : U32 := 0x1
def opJalr : U32 := 0x12
def opBnf : U32 := 0x3
def opBf : U32 := 0x4
def opNop : U32 := 0x5
def opJr : U32 := 0x11
def opLwz : U32 := 0x21
def opLws : U32 := 0x22
def opLbz : U32 := 0x23
def opLbs : U32 := 0x24
def opLhz : U32 := 0x25
def opLhs : U32 := 0x26
def opAddi : U32 := 0x27
def opAddic : U32 := 0x28
def opOri : U32 := 0x2a
def opXori : U32 := 0x2b
def opMuli : U32 := 0x2c
def opSfi : U32 := 0x2f
def opSw : U32 := 0x35
def opSb : U32 := 0x36
def opSh : U32 := 0x37
def opAlu : U32 := 0x38
def opMac : U32 := 0x31
def opMaci : U32 := 0x13
def opMacrcMovhi : U32 := 0x6
def opMtspr : U32 := 0x30
def opMfspr : U32 := 0x2d
def opAndi : U32 := 0x29
def opRoShiftI : U32 := 0x2e
def opSf : U32 := 0x39
def opSysTrapSync : U32 := 0x08
def opRfe : U32 := 0x9

/-! ### Fields of an instruction word -/

/-- `OPCODE`. -/
def opcode (inst : U32) : U32 := getBits inst 26 6

/-- `SF_OP`. -/
def sfOp (inst : U32) : U32 := getBits inst 21 5

/-- `ALU_OP`. -/
def aluOp (inst : U32) : U32 := getBits inst 0 10

/-- `ALU_SHIFT`. -/
def aluShift (inst : U32) : Bool := inst &&& 0xf == 0xc || inst &&& 0xf == 0x8

/-- `RO_SHIFT_I_OP`. -/
def roShiftIOp (inst : U32) : U32 := getBits inst 6 2

/-- `I_HI`. -/
def iHi (inst : U32) : U32 := getBits inst 21 5

/-- `I_LOW`. -/
def iLow (inst : U32) : U32 := getBits inst 0 11

/-- `SPLIT_I` and `SPLIT_K`. -/
def splitI (inst : U32) : U32 := iHi inst <<< 11 ||| iLow inst

/-- A field of five bits that names a register. -/
def regField (inst : U32) (shift : ℕ) : Reg := Fin.ofNat 32 (getBits inst shift 5).toNat

theorem toNat_mask {bits : ℕ} (h : bits < 32) : (1#32 <<< bits - 1).toNat = 2 ^ bits - 1 := by
  have hlt : 2 ^ bits < 2 ^ 32 := Nat.pow_lt_pow_right (by decide) h
  have hpos : 0 < 2 ^ bits := Nat.two_pow_pos bits
  have hshift : (1#32 <<< bits).toNat = 2 ^ bits := by
    rw [BitVec.toNat_shiftLeft, Nat.shiftLeft_eq, BitVec.toNat_one (by decide), Nat.one_mul,
      Nat.mod_eq_of_lt hlt]
  rw [BitVec.toNat_sub_of_le, hshift, BitVec.ofNat_eq_ofNat, BitVec.toNat_one (by decide)]
  rw [BitVec.le_def, hshift]
  exact hpos

/-- The bits of a word from a place on, as a word. -/
theorem getBits_eq (inst : U32) (shift : ℕ) {bits : ℕ} (h : bits < 32) :
    getBits inst shift bits = (inst.extractLsb' shift bits).setWidth 32 := by
  have hlt : 2 ^ bits < 2 ^ 32 := Nat.pow_lt_pow_right (by decide) h
  refine BitVec.eq_of_toNat_eq ?_
  rw [getBits, BitMask.toNat_and_low bits (toNat_mask h), BitVec.toNat_ushiftRight,
    BitVec.toNat_setWidth, BitVec.extractLsb'_toNat,
    Nat.mod_eq_of_lt (Nat.lt_trans (Nat.mod_lt _ (Nat.two_pow_pos bits)) hlt)]

theorem opcode_eq (inst : U32) : opcode inst = (inst.extractLsb' 26 6).setWidth 32 :=
  getBits_eq inst 26 (by decide)

/-- The immediate in two parts. -/
theorem splitI_eq (inst : U32) :
    splitI inst = (inst.extractLsb' 21 5 ++ inst.extractLsb' 0 11).setWidth 32 := by
  rw [splitI, iHi, iLow, getBits_eq _ _ (by decide), getBits_eq _ _ (by decide)]
  refine BitVec.eq_of_getLsbD_eq fun i hi => ?_
  simp only [BitVec.getLsbD_or, BitVec.getLsbD_shiftLeft, BitVec.getLsbD_setWidth,
    BitVec.getLsbD_append]
  by_cases hlow : i < 11
  · simp [hi, hlow]
  · simp [hi, hlow, show i - 11 < 32 by omega]

theorem regField_eq (inst : U32) (shift : ℕ) :
    regField inst shift = (inst.extractLsb' shift 5).toFin := by
  rw [regField, getBits_eq _ _ (by decide)]
  refine Fin.ext ?_
  have hlt := (inst.extractLsb' shift 5).isLt
  change (BitVec.setWidth 32 _).toNat % 32 = (inst.extractLsb' shift 5).toNat
  rw [BitVec.toNat_setWidth]
  omega

/-- The test for a shift or an extension looks at the sub-opcode only. -/
theorem aluShift_aluOp (inst : U32) : aluShift (aluOp inst) = aluShift inst := by
  have hlow : aluOp inst &&& 0xf = inst &&& 0xf := by
    rw [aluOp, getBits, BitVec.ushiftRight_zero, BitVec.and_assoc]
    rfl
  rw [aluShift, aluShift, hlow]

/-- `struct control`. -/
structure Control where
  inst : U32
  opcode : U32
  sfOp : U32
  aluOp : U32
  roShiftIOp : U32
  rD : Reg
  rA : Reg
  rB : Reg
  N : U32
  K : U32
  I : U32
  L : U32

/-- `decode`. -/
def decode (inst : U32) : Control where
  inst := inst
  opcode := opcode inst
  sfOp := sfOp inst
  aluOp := if aluShift inst then aluOp inst &&& ~~~0x30 else aluOp inst &&& ~~~0xf0
  roShiftIOp := roShiftIOp inst
  rD := regField inst 21
  rA := regField inst 16
  rB := regField inst 11
  N := getBits inst 0 26
  K := if opcode inst = opMtspr then splitI inst else getBits inst 0 16
  I :=
    if opcode inst = opSw ∨ opcode inst = opSh ∨ opcode inst = opSb then splitI inst
    else getBits inst 0 16
  L := getBits inst 0 5

/-- `calc_ea`. -/
def calcEa (cpu : CPU) (cont : Control) : U32 :=
  exts cont.I + cpu.gpr cont.rA

end WirePatch
