import WirePatch.Simulator.State

/-!
# Arithmetic helpers of the simulator

The field extraction, the extensions and the bit-serial arithmetic of `simulator.c`,
lines 50–115 and 140–563. The loops of `calc_add`, `calc_mulu` and `calc_divu` are recursions on
the number of iterations done; each returns the value of the C variables at that point.

## Main definitions

* `getBits`, `signExtend`, `exts`, `zeroExtend`, `isOverflow`.
* `calcAdd`, `calcMulu`, `calcMul`, `calcDivu`.
-/

namespace WirePatch

/-- `GET_BITS`. -/
def getBits (inst : U32) (shift bits : ℕ) : U32 :=
  inst >>> shift &&& (1#32 <<< bits - 1)

/-- `IS_BIT_SET`. -/
def isBitSet (a : U32) (bit : ℕ) : Bool :=
  (a &&& 1#32 <<< bit) != 0

/-- `IS_NEG`. -/
def isNeg (a : U32) : Bool :=
  (a &&& 1#32 <<< 31) != 0

theorem isBitSet_eq (a : U32) (bit : ℕ) : isBitSet a bit = a.getLsbD bit :=
  BitMask.and_one_shiftLeft_bne a bit

theorem isNeg_eq (a : U32) : isNeg a = a.getLsbD 31 :=
  BitMask.and_one_shiftLeft_bne a 31

/-- `zero_extend`. -/
def zeroExtend (value : U32) (numBits : ℕ) : U32 :=
  value &&& (1#32 <<< numBits - 1)

/-- `sign_extend`. -/
def signExtend (value : U32) (signBit : ℕ) : U32 :=
  if isBitSet value signBit then value ||| 0xffffffff#32 <<< signBit else value

/-- `exts`. -/
def exts (imm : U32) : U32 :=
  signExtend imm 15

/-- `is_overflow`. -/
def isOverflow (a b r : U32) : Bool :=
  (isNeg a && isNeg b && !isNeg r) || (!isNeg a && !isNeg b && isNeg r)

/-! ### Addition -/

/-- One iteration of the loop of `calc_add` on `(r, c)`. -/
def calcAddStep (a b : U32) (idx : ℕ) (s : U32 × Bool) : U32 × Bool :=
  let cin : U32 := if s.2 then 1#32 <<< idx else 0
  let mask : U32 := 1#32 <<< idx
  let A := a &&& mask
  let B := b &&& mask
  (s.1 ||| A ^^^ B ^^^ cin, (A &&& B ||| cin &&& (A ^^^ B)) != 0)

/-- `(r, c)` after the first `n` iterations of `calc_add`. -/
def calcAddLoop (carryIn : Bool) (a b : U32) : ℕ → U32 × Bool
  | 0 => (0, carryIn)
  | idx + 1 => calcAddStep a b idx (calcAddLoop carryIn a b idx)

/-- The outputs of `calc_add`. -/
structure AddOut where
  res : U32
  overflow : Bool
  carry : Bool
  deriving DecidableEq, Repr

/-- `calc_add`. -/
def calcAdd (carryIn : Bool) (a b : U32) : AddOut :=
  let s := calcAddLoop carryIn a b 32
  { res := s.1, overflow := isOverflow a b s.1, carry := s.2 }

/-! ### Multiplication -/

/-- The variables of `calc_mulu`. -/
structure MulState where
  prod : U64
  mand : U64
  mier : U32

/-- One iteration of the loop of `calc_mulu`. -/
def calcMuluStep (s : MulState) : MulState :=
  { prod := if s.mier &&& 0x1 ≠ 0 then s.prod + s.mand else s.prod
    mand := s.mand <<< 1
    mier := s.mier >>> 1 }

/-- The variables of `calc_mulu` after the first `n` iterations. -/
def calcMuluLoop (a b : U32) : ℕ → MulState
  | 0 => { prod := 0, mand := a.setWidth 64, mier := b }
  | idx + 1 => calcMuluStep (calcMuluLoop a b idx)

/-- `calc_mulu`. -/
def calcMulu (a b : U32) : U64 :=
  (calcMuluLoop a b 32).prod

/-- `calc_mul`. -/
def calcMul (a b : U32) : U64 :=
  let signA := a &&& 0x80000000
  let signB := b &&& 0x80000000
  let a := if signA ≠ 0 then (a ^^^ 0xffffffff) + 1 else a
  let b := if signB ≠ 0 then (b ^^^ 0xffffffff) + 1 else b
  let prod := calcMulu a b
  if signA ^^^ signB ≠ 0 then (prod - 1) ^^^ 0xffffffffffffffff else prod

/-! ### Division -/

/-- One iteration of the loop of `calc_divu` on `rq`. -/
def calcDivuStep (divisor : U32) (rq : U64) : U64 :=
  let rem := (rq >>> 32 &&& 0xffffffff) - divisor.setWidth 64
  if rem.slt 0 then
    rq <<< 1
  else
    (rq &&& 0xffffffff#64 ||| rem <<< 32) <<< 1 ||| 0x1#64

/-- `rq` after the first `n` iterations of `calc_divu`. -/
def calcDivuLoop (divisor dividend : U32) : ℕ → U64
  | 0 => dividend.setWidth 64 <<< 1
  | idx + 1 => calcDivuStep divisor (calcDivuLoop divisor dividend idx)

/-- `calc_divu`: the quotient and the remainder. -/
def calcDivu (divisor dividend : U32) : U32 × U32 :=
  let rq := calcDivuLoop divisor dividend 32
  ((rq &&& 0xffffffff).setWidth 32, (rq >>> 33).setWidth 32)

end WirePatch
