import Mathlib.Data.BitVec

/-!
# Adder of the processor's arithmetic unit

The sum, the difference and their flags in the OR1200 core (`or1200_alu.v`, lines 118–178 and
310–385), with the options of `or1200_defines.v`: `OR1200_IMPL_ADDC`, `OR1200_IMPL_SUB`,
`OR1200_IMPL_CY`, `OR1200_IMPL_OV` and `OR1200_IMPL_ALU_COMP2` are defined,
`OR1200_IMPL_ALU_COMP3` is not.

## Main definitions

* `Or1200.AluOp`, `Or1200.AluIn`: the arithmetic operations and the inputs of the unit.
* `Or1200.resultSum`, `Or1200.aluCy`, `Or1200.aluOv`: its result and flags.
* `Or1200.Forward`: a forwarded flag and its write enable.

## Main results

* `Or1200.resultSum_eq`, `Or1200.cySum_eq`: the result and the carry of the adder.
* `Or1200.cySub_eq_iff`: when the borrow is the unsigned one.
-/

namespace WirePatch.Or1200

/-- The arithmetic operations of `alu_op`. -/
inductive AluOp
  | add
  | addc
  | sub
  | mul
  | mulu
  | div
  | divu
  deriving DecidableEq, Repr

/-- The inputs of `or1200_alu`. -/
structure AluIn where
  a : BitVec 32
  b : BitVec 32
  carry : Bool
  compOp : BitVec 4

/-- A flag and its write enable. -/
structure Forward where
  forw : Bool
  we : Bool

namespace Forward

/-- The two units forward a flag together. -/
def merge (f g : Forward) : Forward :=
  { forw := f.forw || g.forw, we := f.we || g.we }

/-- The flag after an instruction. -/
def next (f : Forward) (old : Bool) : Bool :=
  if f.we then f.forw else old

end Forward

/-- `comp_a` and `comp_b`: the sign bit is inverted for a signed comparison. -/
def compOperand (compOp : BitVec 4) (a : BitVec 32) : BitVec 32 :=
  BitVec.ofBool (a.getLsbD 31 ^^ compOp.getLsbD 3) ++ a.extractLsb' 0 31

/-- `cy_sub`. -/
def cySub (i : AluIn) : Bool :=
  (compOperand i.compOp i.a).ult (compOperand i.compOp i.b)

/-- `carry_in`. -/
def carryIn (op : AluOp) (i : AluIn) : BitVec 32 :=
  if op = .addc then (BitVec.ofBool i.carry).setWidth 32 else 0

/-- `b_mux`. -/
def bMux (op : AluOp) (i : AluIn) : BitVec 32 :=
  if op = .sub then ~~~i.b + 1 else i.b

/-- `{cy_sum, result_sum}`. -/
def sum (op : AluOp) (i : AluIn) : BitVec 33 :=
  i.a.setWidth 33 + (bMux op i).setWidth 33 + (carryIn op i).setWidth 33

/-- `result_sum`. -/
def resultSum (op : AluOp) (i : AluIn) : BitVec 32 :=
  (sum op i).extractLsb' 0 32

/-- `cy_sum`. -/
def cySum (op : AluOp) (i : AluIn) : Bool :=
  (sum op i).getLsbD 32

/-- `ov_sum`. -/
def ovSum (op : AluOp) (i : AluIn) : Bool :=
  let a := i.a.getLsbD 31
  let b := (bMux op i).getLsbD 31
  let r := (resultSum op i).getLsbD 31
  (!a && !b && r) || (!a && b && r && op == .sub) || (a && b && !r)

/-- `cyforw` and `cy_we`. -/
def aluCy (op : AluOp) (i : AluIn) : Forward :=
  match op with
  | .add | .addc => { forw := cySum op i, we := true }
  | .sub => { forw := cySub i, we := true }
  | .mul | .mulu | .div | .divu => { forw := false, we := false }

/-- `ovforw` and `ov_we` of the adder. -/
def aluOv (op : AluOp) (i : AluIn) : Forward :=
  match op with
  | .add | .addc | .sub => { forw := ovSum op i, we := true }
  | .mul | .mulu | .div | .divu => { forw := false, we := false }

/-! ### The adder -/

theorem toNat_sum (op : AluOp) (i : AluIn) :
    (sum op i).toNat = i.a.toNat + (bMux op i).toNat + (carryIn op i).toNat := by
  have ha := i.a.isLt
  have hb := (bMux op i).isLt
  have hc : (carryIn op i).toNat ≤ 1 := by
    rw [carryIn]
    split_ifs
    · cases i.carry <;> decide
    · decide
  simp only [sum, BitVec.toNat_add, BitVec.toNat_setWidth]
  omega

theorem resultSum_eq (op : AluOp) (i : AluIn) :
    resultSum op i = i.a + bMux op i + carryIn op i := by
  refine BitVec.eq_of_toNat_eq ?_
  rw [resultSum, BitVec.extractLsb'_toNat, toNat_sum, BitVec.toNat_add, BitVec.toNat_add,
    Nat.shiftRight_zero, Nat.mod_add_mod]

/-- The carry of the adder is the one out of bit 31. -/
theorem cySum_eq {op : AluOp} {i : AluIn} {c : Bool}
    (hc : carryIn op i = (BitVec.ofBool c).setWidth 32) :
    cySum op i = BitVec.carry 32 i.a (bMux op i) c := by
  have hlt := (sum op i).isLt
  have hcarry : (carryIn op i).toNat = c.toNat := by
    rw [hc]
    cases c <;> rfl
  rw [cySum, show (sum op i).getLsbD 32 = (sum op i).msb from rfl, BitVec.msb_eq_decide,
    BitVec.carry, toNat_sum, hcarry, Nat.mod_eq_of_lt i.a.isLt,
    Nat.mod_eq_of_lt (bMux op i).isLt]

theorem bMux_sub (i : AluIn) : bMux .sub i = -i.b := by
  rw [bMux, if_pos rfl, BitVec.neg_eq_not_add]
  rfl

/-! ### The borrow -/

theorem toNat_compOperand (compOp : BitVec 4) (a : BitVec 32) :
    (compOperand compOp a).toNat =
      if compOp.getLsbD 3 then (a.toNat + 2 ^ 31) % 2 ^ 32 else a.toNat := by
  have ha := a.isLt
  have hmsb : a.getLsbD 31 = decide (2 ^ 31 ≤ a.toNat) := BitVec.msb_eq_decide a
  rw [compOperand, BitVec.toNat_append, BitVec.extractLsb'_toNat, Nat.shiftRight_zero,
    Nat.shiftLeft_eq, Nat.mul_comm, ← Nat.two_pow_add_eq_or_of_lt (Nat.mod_lt _ (by decide)),
    BitVec.toNat_ofBool, hmsb]
  by_cases h : 2 ^ 31 ≤ a.toNat
  · rw [decide_eq_true h]
    cases compOp.getLsbD 3
    · simp
      omega
    · simp
      omega
  · rw [decide_eq_false h]
    cases compOp.getLsbD 3
    · simp
      omega
    · simp
      omega

/-- The borrow is the unsigned one when the comparison is unsigned or the signs are equal. -/
theorem cySub_eq_iff (i : AluIn) :
    decide (i.b > i.a) = cySub i ↔
      (i.compOp.getLsbD 3 = true → (i.a.toInt < 0 ↔ i.b.toInt < 0)) := by
  have ha := i.a.isLt
  have hb := i.b.isLt
  rw [Bool.eq_iff_iff, cySub, decide_eq_true_iff, BitVec.ult_iff_lt, BitVec.lt_def, gt_iff_lt,
    BitVec.lt_def, toNat_compOperand, toNat_compOperand, BitVec.toInt_eq_toNat_cond,
    BitVec.toInt_eq_toNat_cond]
  cases i.compOp.getLsbD 3
  · simp
  · simp only [if_true, forall_const]
    omega

end WirePatch.Or1200
