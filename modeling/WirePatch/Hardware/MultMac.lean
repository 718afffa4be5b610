import WirePatch.Foundations.SignMagnitude
import WirePatch.Hardware.Alu

/-!
# Multiplier and divider of the processor

The multiply and divide unit of the OR1200 core (`or1200_mult_mac.v`, lines 167–282 and 441–478)
with the generic multiplier (`or1200_gmultp2_32x32.v`) and the serial divider, as
`or1200_defines.v` selects them.

The multiplier is a pipeline that yields the product of its operands read as signed words. The
divider is a clocked machine: it loads the dividend, then shifts its register 32 times while the
instruction waits in the execute stage with its operands unchanged.

## Main definitions

* `Or1200.mulX`, `Or1200.mulProd`: an operand of the unit and the product.
* `Or1200.DivState`, `Or1200.divClock`, `Or1200.divQuotR`: the serial divider.
* `Or1200.aluResult`, `Or1200.ovForward`: the result and the overflow flag of an instruction.

## Main results

* `Or1200.divQuotR_eq`: the divider ends with 32 steps of its shift register.
* `Or1200.mulProd_low`, `Or1200.toInt_mulProd`: the product of the multiplier.
-/

namespace WirePatch.Or1200

/-- `x` and `y`: the magnitude of an operand for a signed operation. -/
def mulX (op : AluOp) (a : BitVec 32) : BitVec 32 :=
  if (op = .div ∨ op = .mul) ∧ a.getLsbD 31 then ~~~a + 1 else a

/-- `mul_prod_r`: the operands are converted to signed integers. -/
def mulProd (op : AluOp) (a b : BitVec 32) : BitVec 64 :=
  (mulX op a).signExtend 64 * (mulX op b).signExtend 64

/-- `div_by_zero`. -/
def divByZero (op : AluOp) (b : BitVec 32) : Bool :=
  b == 0 && (op == .div || op == .divu)

/-! ### Serial divider -/

/-- The registers of the serial divider. -/
structure DivState where
  divQuotR : BitVec 64
  divCntr : ℕ
  divFree : Bool

/-- `div_tmp`. -/
def divTmp (y : BitVec 32) (divQuotR : BitVec 64) : BitVec 32 :=
  divQuotR.extractLsb' 32 32 - y

/-- The update of `div_quot_r` while the counter runs. -/
def divShift (y : BitVec 32) (divQuotR : BitVec 64) : BitVec 64 :=
  if (divTmp y divQuotR).getLsbD 31 then
    divQuotR.extractLsb' 0 63 ++ 0#1
  else
    (divTmp y divQuotR).extractLsb' 0 31 ++ divQuotR.extractLsb' 0 32 ++ 1#1

/-- A clock of the divider while the division of `a` by `b` waits in the execute stage. -/
def divClock (op : AluOp) (a b : BitVec 32) (s : DivState) : DivState :=
  if divByZero op b then
    { divQuotR := 0, divCntr := 0, divFree := true }
  else if s.divCntr ≠ 0 then
    { s with divQuotR := divShift (mulX op b) s.divQuotR, divCntr := s.divCntr - 1 }
  else if s.divFree then
    { divQuotR := 0#31 ++ mulX op a ++ 0#1, divCntr := 32, divFree := false }
  else
    s

/-- `div_quot_r` when `div_stall` falls: the divider has been free, and was clocked once to load
the dividend and 32 times to divide. -/
def divQuotR (op : AluOp) (a b : BitVec 32) (before : BitVec 64) : BitVec 64 :=
  ((divClock op a b)^[33] { divQuotR := before, divCntr := 0, divFree := true }).divQuotR

/-- `div_quot_r` after `n` shifts in a division of `x` by `y`. -/
def divShifts (x y : BitVec 32) (n : ℕ) : BitVec 64 :=
  (divShift y)^[n] (0#31 ++ x ++ 0#1)

theorem divShifts_succ (x y : BitVec 32) (n : ℕ) :
    divShifts x y (n + 1) = divShift y (divShifts x y n) :=
  Function.iterate_succ_apply' ..

/-- The divider has done `n` shifts after `n + 1` clocks. -/
theorem divClock_iterate {op : AluOp} {b : BitVec 32} (h : divByZero op b = false)
    (a : BitVec 32) (before : BitVec 64) {n : ℕ} (hn : n ≤ 32) :
    (divClock op a b)^[n + 1] { divQuotR := before, divCntr := 0, divFree := true } =
      { divQuotR := divShifts (mulX op a) (mulX op b) n, divCntr := 32 - n, divFree := false } := by
  induction n with
  | zero => simp [divClock, divShifts, h]
  | succ n ih =>
    have hcntr : 32 - n ≠ 0 := by omega
    rw [Function.iterate_succ_apply', ih (Nat.le_of_succ_le hn), divShifts_succ]
    simp [divClock, h, hcntr, Nat.sub_sub]

/-- A division by zero leaves 0, any other one ends with 32 shifts, whatever the register held. -/
theorem divQuotR_eq (op : AluOp) (a b : BitVec 32) (before : BitVec 64) :
    divQuotR op a b before =
      if divByZero op b then 0 else divShifts (mulX op a) (mulX op b) 32 := by
  rw [divQuotR]
  split_ifs with h
  · rw [Function.iterate_succ_apply', divClock, if_pos h]
  · rw [divClock_iterate (eq_false_of_ne_true h) a before le_rfl]

/-! ### Result and overflow -/

/-- `ovforw` and `ov_we` of the unit. -/
def multMacOv (op : AluOp) (a b : BitVec 32) : Forward :=
  let prod := mulProd op a b
  match op with
  | .mul =>
    { forw :=
        (prod.getLsbD 31 &&
          !((a.getLsbD 31 ^^ b.getLsbD 31) && prod.extractLsb' 0 31 == 0)) ||
        prod.extractLsb' 32 32 != 0
      we := true }
  | .mulu => { forw := prod.extractLsb' 32 32 != 0, we := true }
  | .div | .divu =>
    { forw := divByZero op b || (a == 0x80000000 && b == 0xffffffff), we := true }
  | .add | .addc | .sub => { forw := false, we := false }

/-- The result of a signed operation from that on magnitudes. -/
def signedResult (a b m : BitVec 32) : BitVec 32 :=
  if a.getLsbD 31 ^^ b.getLsbD 31 then ~~~m + 1 else m

/-- `result` of `or1200_alu`; for a multiplication or a division it is `mult_mac_result`. The
register of the divider held `before`. -/
def aluResult (op : AluOp) (i : AluIn) (before : BitVec 64) : BitVec 32 :=
  match op with
  | .add | .addc | .sub => resultSum op i
  | .mul => signedResult i.a i.b ((mulProd op i.a i.b).extractLsb' 0 32)
  | .mulu => (mulProd op i.a i.b).extractLsb' 0 32
  | .div => signedResult i.a i.b ((divQuotR op i.a i.b before).extractLsb' 0 32)
  | .divu => (divQuotR op i.a i.b before).extractLsb' 0 32

/-- `ovforw` and `ov_we` of an instruction. -/
def ovForward (op : AluOp) (i : AluIn) : Forward :=
  (aluOv op i).merge (multMacOv op i.a i.b)

/-! ### Signs and products -/

/-- A signed operation reads the magnitude of an operand. -/
theorem mulX_of_signed {op : AluOp} (h : op = .div ∨ op = .mul) (a : BitVec 32) :
    mulX op a = a.abs := by
  rw [mulX, BitVec.abs, BitVec.neg_eq, BitVec.neg_eq_not_add]
  simp only [h, true_and, show a.getLsbD 31 = a.msb from rfl]
  rfl

theorem mulX_of_unsigned {op : AluOp} (h : ¬ (op = .div ∨ op = .mul)) (a : BitVec 32) :
    mulX op a = a := by
  rw [mulX, if_neg fun h' => h h'.1]

theorem signedResult_eq (a b m : BitVec 32) :
    signedResult a b m = SignMagnitude.withSign (a.msb ^^ b.msb) m := by
  rw [signedResult, SignMagnitude.withSign, BitVec.neg_eq_not_add]
  rfl

/-- The lower half of the product. -/
theorem mulProd_low (op : AluOp) (a b : BitVec 32) :
    (mulProd op a b).extractLsb' 0 32 = mulX op a * mulX op b := by
  have hlow (x : BitVec 32) : (x.signExtend 64).setWidth 32 = x := by
    refine BitVec.eq_of_getLsbD_eq fun i hi => ?_
    rw [BitVec.getLsbD_setWidth, BitVec.getLsbD_signExtend]
    simp [hi, Nat.lt_trans hi (by decide : 32 < 64)]
  rw [← BitVec.setWidth_eq_extractLsb' (by decide), mulProd, BitVec.setWidth_mul _ _ (by decide),
    hlow, hlow]

/-- The product of the signed operands fits in 64 bits. -/
theorem toInt_mulProd (op : AluOp) (a b : BitVec 32) :
    (mulProd op a b).toInt = (mulX op a).toInt * (mulX op b).toInt := by
  have hle := BitVec.toInt_mul_toInt_le (x := mulX op a) (y := mulX op b)
  have hge := BitVec.le_toInt_mul_toInt (x := mulX op a) (y := mulX op b)
  rw [mulProd, BitVec.toInt_mul, BitVec.toInt_signExtend_of_le (by decide),
    BitVec.toInt_signExtend_of_le (by decide)]
  refine Int.bmod_eq_of_le_mul_two ?_ ?_ <;> omega

/-- The product of the magnitudes, negated when the signs differ, is the product. -/
theorem signedResult_mul (a b : BitVec 32) :
    signedResult a b ((mulProd .mul a b).extractLsb' 0 32) = a * b := by
  rw [signedResult_eq, mulProd_low, mulX_of_signed (.inr rfl), mulX_of_signed (.inr rfl),
    SignMagnitude.withSign, BitVec.abs, BitVec.abs]
  cases a.msb <;> cases b.msb <;> simp

end WirePatch.Or1200
