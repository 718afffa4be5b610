import WirePatch.Foundations.ShiftArithmetic
import WirePatch.Foundations.SignMagnitude
import WirePatch.Simulator.Alu

/-!
# What the bit-serial arithmetic computes

The loops of `calc_add`, `calc_mulu` and `calc_divu` (`simulator.c`, lines 140–563) compute the
sum, the product and the quotient of their operands; `calc_mul` and `or32_div` pass magnitudes to
them and put the sign back.

## Main results

* `calcAdd_res`, `calcAdd_carry`: the sum of two words and a carry, and the carry out.
* `calcMulu_toNat`, `calcMul_toInt`: the unsigned and the signed product.
* `calcDivu_toNat`, `divQuotient_eq_sdiv`: the unsigned and the signed quotient.
* `isSome_divQuotientDefined_iff`: the operands whose signed quotient is defined.
* `calcDivu_rem_toNat`: the remainder without its top bit.
-/

namespace WirePatch

/-! ### Addition -/

theorem calcAddStep_eq (a b : U32) {n : ℕ} (hn : n < 32) (s : U32 × Bool) :
    calcAddStep a b n s =
      (s.1 ||| (if a.getLsbD n ^^ (b.getLsbD n ^^ s.2) then BitVec.twoPow 32 n else 0#32),
        Bool.atLeastTwo (a.getLsbD n) (b.getLsbD n) s.2) := by
  have hne := BitMask.twoPow_ne_zero hn
  have hmask : 1#32 <<< n = BitVec.twoPow 32 n := rfl
  simp only [calcAddStep, hmask, BitVec.and_twoPow]
  cases a.getLsbD n <;> cases b.getLsbD n <;> cases s.2 <;> simp [hne]

/-- After `n` iterations the low `n` bits of the sum and the carry into bit `n` are known. -/
theorem calcAddLoop_eq (carryIn : Bool) (a b : U32) {n : ℕ} (hn : n ≤ 32) :
    (∀ i, (calcAddLoop carryIn a b n).1.getLsbD i =
      (decide (i < n) && (a + b + (BitVec.ofBool carryIn).setWidth 32).getLsbD i)) ∧
    (calcAddLoop carryIn a b n).2 = BitVec.carry n a b carryIn := by
  induction n with
  | zero => simp [calcAddLoop]
  | succ n ih =>
    obtain ⟨hsum, hcarry⟩ := ih (Nat.le_of_succ_le hn)
    rw [calcAddLoop, calcAddStep_eq a b hn, hcarry, BitVec.carry_succ]
    refine ⟨fun i => ?_, rfl⟩
    rw [BitVec.getLsbD_or, hsum, ← BitVec.getLsbD_add_add_bool hn]
    by_cases hi : i = n
    · subst hi
      cases hbit : (a + b + (BitVec.ofBool carryIn).setWidth 32).getLsbD i
      · simp
      · simp [Nat.lt_of_succ_le hn]
    · have hlt : i < n + 1 ↔ i < n := by omega
      split_ifs
      · simp [BitVec.getLsbD_twoPow, hlt, Ne.symm hi]
      · simp [hlt]

/-- `calc_add` computes the sum of two words and a carry. -/
theorem calcAdd_res (carryIn : Bool) (a b : U32) :
    (calcAdd carryIn a b).res = a + b + (BitVec.ofBool carryIn).setWidth 32 := by
  refine BitVec.eq_of_getLsbD_eq fun i hi => ?_
  rw [calcAdd, (calcAddLoop_eq carryIn a b le_rfl).1, decide_eq_true hi, Bool.true_and]

/-- The carry of `calc_add` is the carry out of bit 31. -/
theorem calcAdd_carry (carryIn : Bool) (a b : U32) :
    (calcAdd carryIn a b).carry = BitVec.carry 32 a b carryIn :=
  (calcAddLoop_eq carryIn a b le_rfl).2

/-! ### Multiplication -/

theorem and_one_ne_zero_iff (a : U32) : a &&& 0x1 ≠ 0 ↔ a.toNat % 2 = 1 := by
  rw [ne_eq, ← BitVec.toNat_inj, BitVec.toNat_and]
  change ¬ a.toNat &&& 1 = 0 ↔ _
  rw [Nat.and_one_is_mod]
  omega

/-- After `n` iterations the low `n` bits of the multiplier are done. -/
theorem calcMuluLoop_toNat (a b : U32) {n : ℕ} (hn : n ≤ 32) :
    (calcMuluLoop a b n).prod.toNat = a.toNat * (b.toNat % 2 ^ n) ∧
      (calcMuluLoop a b n).mand.toNat = a.toNat * 2 ^ n ∧
      (calcMuluLoop a b n).mier.toNat = b.toNat / 2 ^ n := by
  induction n with
  | zero =>
    have hlt := a.isLt
    simp only [calcMuluLoop, Nat.pow_zero, Nat.mod_one, Nat.mul_zero, Nat.mul_one, Nat.div_one,
      BitVec.toNat_setWidth]
    exact ⟨rfl, Nat.mod_eq_of_lt (by omega), trivial⟩
  | succ n ih =>
    obtain ⟨hprod, hmand, hmier⟩ := ih (Nat.le_of_succ_le hn)
    have hmandLt : a.toNat * 2 ^ (n + 1) < 2 ^ 64 := calc
      a.toNat * 2 ^ (n + 1) < 2 ^ 32 * 2 ^ (n + 1) :=
        Nat.mul_lt_mul_of_pos_right a.isLt (Nat.two_pow_pos _)
      _ ≤ 2 ^ 32 * 2 ^ 32 := Nat.mul_le_mul_left _ (Nat.pow_le_pow_right Nat.two_pos hn)
      _ = 2 ^ 64 := by norm_num
    have hprodLt : a.toNat * (b.toNat % 2 ^ (n + 1)) < 2 ^ 64 := calc
      a.toNat * (b.toNat % 2 ^ (n + 1)) ≤ a.toNat * 2 ^ (n + 1) :=
        Nat.mul_le_mul_left _ (Nat.mod_lt _ (Nat.two_pow_pos _)).le
      _ < 2 ^ 64 := hmandLt
    rw [calcMuluLoop, calcMuluStep]
    refine ⟨?_, ?_, ?_⟩
    · rw [ShiftArithmetic.mul_mod_pow_succ] at hprodLt ⊢
      simp only [and_one_ne_zero_iff, hmier]
      split_ifs with hbit
      · rw [if_pos hbit] at hprodLt
        rw [BitVec.toNat_add, hprod, hmand, Nat.mod_eq_of_lt hprodLt]
      · exact hprod
    · rw [BitVec.toNat_shiftLeft, hmand, Nat.shiftLeft_eq, Nat.pow_one, Nat.mul_assoc,
        ← Nat.pow_succ, Nat.mod_eq_of_lt hmandLt]
    · rw [BitVec.toNat_ushiftRight, hmier, Nat.shiftRight_eq_div_pow, Nat.div_div_eq_div_mul,
        Nat.pow_one, ← Nat.pow_succ]

/-- `calc_mulu` computes the unsigned product. -/
theorem calcMulu_toNat (a b : U32) : (calcMulu a b).toNat = a.toNat * b.toNat := by
  rw [calcMulu, (calcMuluLoop_toNat a b le_rfl).1, Nat.mod_eq_of_lt b.isLt]

/-! ### Signs -/

theorem and_signBit_ne_zero_iff (a : U32) : a &&& 0x80000000 ≠ 0 ↔ a.msb = true := by
  rw [BitVec.msb_eq_getLsbD_last]
  exact BitMask.and_twoPow_ne_zero_iff (i := 31) (by decide) a

theorem signBits_ne_iff (a b : U32) :
    (a &&& 0x80000000) ^^^ (b &&& 0x80000000) ≠ 0 ↔ (a.msb ^^ b.msb) = true := by
  have hand : (a &&& 0x80000000) ^^^ (b &&& 0x80000000) = (a ^^^ b) &&& 0x80000000 := by
    refine BitVec.eq_of_getLsbD_eq fun i _ => ?_
    simp only [BitVec.getLsbD_xor, BitVec.getLsbD_and]
    cases (0x80000000 : U32).getLsbD i <;> simp
  rw [hand, and_signBit_ne_zero_iff, BitVec.msb_xor]

/-- A magnitude as `calc_mul` and `or32_div` compute it. -/
theorem ite_signBit_eq_abs (a : U32) :
    (if a &&& 0x80000000 ≠ 0 then ~~~a + 1 else a) = a.abs := by
  simp only [and_signBit_ne_zero_iff, BitVec.abs, BitVec.neg_eq, BitVec.neg_eq_not_add]
  rfl

theorem not_sub_one {w : ℕ} (x : BitVec w) : ~~~(x - 1#w) = -x := by
  rw [BitVec.not_sub_one_eq_not_add_one, BitVec.neg_eq_not_add]

/-- `calc_mul` computes the signed product. -/
theorem calcMul_toInt (a b : U32) : (calcMul a b).toInt = a.toInt * b.toInt := by
  have hmul : calcMul a b =
      SignMagnitude.withSign (a.msb ^^ b.msb) (calcMulu a.abs b.abs) := by
    have hones (x : U32) : x ^^^ 0xffffffff = ~~~x := BitVec.xor_allOnes
    have hnot (p : U64) : (p - 1) ^^^ 0xffffffffffffffff = -p :=
      BitVec.xor_allOnes.trans (not_sub_one p)
    simp only [calcMul, hones, hnot, signBits_ne_iff, ite_signBit_eq_abs, SignMagnitude.withSign]
  have hle := Nat.mul_le_mul (SignMagnitude.two_mul_toNat_abs_le a)
    (SignMagnitude.two_mul_toNat_abs_le b)
  rw [hmul]
  refine SignMagnitude.toInt_withSign_mul (calcMulu_toNat ..) ?_
  rw [calcMulu_toNat]
  linarith

/-! ### Division -/

theorem toNat_shiftLeft_one_or_one (y : U64) :
    (y <<< 1 ||| 1#64).toNat = (2 * y.toNat + 1) % 2 ^ 64 := by
  have heven : 2 * y.toNat % 2 ^ 64 = 2 ^ 1 * (y.toNat % 2 ^ 63) := by omega
  rw [BitVec.toNat_or, BitVec.toNat_shiftLeft, Nat.shiftLeft_eq, Nat.mul_comm]
  change 2 * y.toNat % 2 ^ 64 ||| 1 = _
  rw [heven, ← Nat.two_pow_add_eq_or_of_lt (by decide)]
  omega

/-- An iteration of `calc_divu` is a step of a restoring divider. -/
theorem calcDivuStep_toNat (divisor : U32) (rq : U64) :
    (calcDivuStep divisor rq).toNat =
      ShiftArithmetic.divStep 32 divisor.toNat rq.toNat % 2 ^ 64 := by
  have hd := divisor.isLt
  have hrq := rq.isLt
  have hhigh : (rq >>> 32 &&& 0xffffffff).toNat = rq.toNat / 2 ^ 32 := by
    rw [BitMask.toNat_and_low 32 rfl, BitVec.toNat_ushiftRight, Nat.shiftRight_eq_div_pow,
      Nat.mod_eq_of_lt (by omega)]
  have hlow : (rq &&& 0xffffffff#64).toNat = rq.toNat % 2 ^ 32 :=
    BitMask.toNat_and_low 32 rfl rq
  have hrem : ((rq >>> 32 &&& 0xffffffff) - divisor.setWidth 64).toNat =
      (2 ^ 64 - divisor.toNat + rq.toNat / 2 ^ 32) % 2 ^ 64 := by
    rw [BitVec.toNat_sub, hhigh, BitVec.toNat_setWidth, Nat.mod_eq_of_lt (a := divisor.toNat)
      (by omega)]
  have hneg : ((rq >>> 32 &&& 0xffffffff) - divisor.setWidth 64).slt 0 = true ↔
      rq.toNat / 2 ^ 32 < divisor.toNat := by
    change BitVec.slt _ 0#64 = true ↔ _
    rw [BitVec.slt_zero_iff_msb_cond, BitVec.msb_eq_true_iff_two_mul_ge, hrem]
    omega
  simp only [calcDivuStep, ShiftArithmetic.divStep, hneg]
  split_ifs with h
  · rw [BitVec.toNat_shiftLeft, Nat.shiftLeft_eq, Nat.mul_comm, Nat.pow_one]
  · have hjoin : (rq &&& 0xffffffff#64 ||| ((rq >>> 32 &&& 0xffffffff) -
        divisor.setWidth 64) <<< 32).toNat = rq.toNat - divisor.toNat * 2 ^ 32 := by
      have hshift : (2 ^ 64 - divisor.toNat + rq.toNat / 2 ^ 32) % 2 ^ 64 * 2 ^ 32 % 2 ^ 64 =
          2 ^ 32 * (rq.toNat / 2 ^ 32 - divisor.toNat) := by omega
      rw [BitVec.toNat_or, hlow, BitVec.toNat_shiftLeft, hrem, Nat.or_comm, Nat.shiftLeft_eq,
        hshift, ← Nat.two_pow_add_eq_or_of_lt (Nat.mod_lt _ (by decide))]
      omega
    rw [toNat_shiftLeft_one_or_one, hjoin]

/-- After `n` iterations `rq` is the register of a restoring divider. -/
theorem calcDivuLoop_toNat {divisor : U32} (hd : divisor ≠ 0) (dividend : U32) {n k : ℕ}
    (h : n + k = 32) :
    (calcDivuLoop divisor dividend n).toNat =
      ShiftArithmetic.divRegister divisor.toNat dividend.toNat n k % 2 ^ 64 := by
  induction n generalizing k with
  | zero =>
    obtain rfl : k = 32 := by omega
    have hlt := dividend.isLt
    rw [calcDivuLoop, BitVec.toNat_shiftLeft, BitVec.toNat_setWidth,
      ShiftArithmetic.divRegister_start dividend.isLt, Nat.shiftLeft_eq]
    omega
  | succ n ih =>
    have hw : n + k + 1 = 32 := by omega
    have hpos : 0 < divisor.toNat := Nat.pos_of_ne_zero fun h0 => hd (BitVec.eq_of_toNat_eq h0)
    have hfit : ShiftArithmetic.divRegister divisor.toNat dividend.toNat n (k + 1) < 2 ^ 64 :=
      ShiftArithmetic.divRegister_lt hw dividend.isLt
    rw [calcDivuLoop, calcDivuStep_toNat, ih (k := k + 1) (by omega), Nat.mod_eq_of_lt hfit,
      ShiftArithmetic.divStep_divRegister hw hpos dividend.isLt]

theorem toNat_and_setWidth (rq : U64) :
    ((rq &&& 0xffffffff).setWidth 32).toNat = rq.toNat % 2 ^ 32 := by
  rw [BitVec.toNat_setWidth, BitMask.toNat_and_low 32 rfl, Nat.mod_mod]

/-- `calc_divu` computes the quotient. -/
theorem calcDivu_toNat {divisor : U32} (hd : divisor ≠ 0) (dividend : U32) :
    (calcDivu divisor dividend).1.toNat = dividend.toNat / divisor.toNat := by
  rw [calcDivu, toNat_and_setWidth, calcDivuLoop_toNat hd dividend (k := 0) rfl,
    Nat.mod_mod_of_dvd _ (by decide), ShiftArithmetic.divRegister_zero_mod dividend.isLt]

/-- `calc_divu` computes the low 31 bits of the remainder. -/
theorem calcDivu_rem_toNat {divisor : U32} (hd : divisor ≠ 0) (dividend : U32) :
    (calcDivu divisor dividend).2.toNat = dividend.toNat % divisor.toNat % 2 ^ 31 := by
  have hrem := ShiftArithmetic.divRegister_zero_mod_div (d := divisor.toNat) (w := 31) dividend.isLt
  rw [calcDivu, BitVec.toNat_setWidth, BitVec.toNat_ushiftRight,
    calcDivuLoop_toNat hd dividend (k := 0) rfl, Nat.shiftRight_eq_div_pow]
  change ShiftArithmetic.divRegister _ _ (31 + 1) 0 % (2 ^ (31 + 1) * 2 ^ (31 + 1)) /
    2 ^ (31 + 2) % 2 ^ 32 = _
  rw [hrem, Nat.mod_eq_of_lt ((Nat.mod_lt _ (by decide)).trans (by decide))]

/-! ### Signed division -/

/-- `Insn.divQuotient`, where the negations on the way to it are defined. -/
def divQuotientDefined (divisor dividend : U32) : Option U32 := do
  let absDivisor ← SignMagnitude.magnitude divisor
  let absDividend ← SignMagnitude.magnitude dividend
  let q := (calcDivu absDivisor absDividend).1
  some (if divisor &&& 0x80000000 ^^^ dividend &&& 0x80000000 ≠ 0 then ~~~(q - 1) else q)

theorem isSome_divQuotientDefined_iff (divisor dividend : U32) :
    (divQuotientDefined divisor dividend).isSome ↔
      divisor ≠ BitVec.intMin 32 ∧ dividend ≠ BitVec.intMin 32 := by
  rw [← SignMagnitude.isSome_magnitude_iff (by decide) divisor,
    ← SignMagnitude.isSome_magnitude_iff (by decide) dividend, divQuotientDefined]
  cases SignMagnitude.magnitude divisor <;> cases SignMagnitude.magnitude dividend <;> simp

theorem cNeg_of_ne {a : U32} (h : a ≠ BitVec.intMin 32) (undef : U32) :
    Insn.cNeg undef a = ~~~a + 1 :=
  if_neg h

/-- A sign taken away by a defined negation leaves the magnitude. -/
theorem ite_cNeg_eq_abs {a : U32} (h : a ≠ BitVec.intMin 32) (undef : U32) :
    (if a &&& 0x80000000 ≠ 0 then Insn.cNeg undef a else a) = a.abs := by
  rw [cNeg_of_ne h, ite_signBit_eq_abs]

/-- A quotient that is defined is the one the program computes. -/
theorem divQuotient_of_defined {divisor dividend q : U32}
    (h : divQuotientDefined divisor dividend = some q) (undef : ℕ → U32) :
    Insn.divQuotient undef divisor dividend = q := by
  obtain ⟨hdivisor, hdividend⟩ :=
    (isSome_divQuotientDefined_iff ..).mp (Option.isSome_of_eq_some h)
  rw [divQuotientDefined, SignMagnitude.magnitude_of_ne hdivisor,
    SignMagnitude.magnitude_of_ne hdividend] at h
  simp only [Insn.divQuotient, ite_cNeg_eq_abs hdivisor, ite_cNeg_eq_abs hdividend]
  exact Option.some.inj h

/-- The quotient of operands with a magnitude is defined, and it is the signed quotient. -/
theorem divQuotientDefined_eq {divisor dividend : U32} (hd : divisor ≠ 0)
    (hmin : divisor ≠ BitVec.intMin 32) (hmin' : dividend ≠ BitVec.intMin 32) :
    divQuotientDefined divisor dividend = some (dividend.sdiv divisor) := by
  have habs : divisor.abs ≠ 0 := SignMagnitude.abs_ne_zero hd
  have hquot : (calcDivu divisor.abs dividend.abs).1 = dividend.abs / divisor.abs :=
    BitVec.eq_of_toNat_eq (by rw [calcDivu_toNat habs, BitVec.toNat_udiv])
  have hnot (q : U32) : ~~~(q - 1) = -q := not_sub_one q
  rw [divQuotientDefined, SignMagnitude.magnitude_of_ne hmin, SignMagnitude.magnitude_of_ne hmin']
  simp only [Option.bind_eq_bind, Option.bind_some, signBits_ne_iff, hquot, hnot,
    SignMagnitude.sdiv_eq_withSign, SignMagnitude.withSign, Bool.xor_comm]

/-- `or32_div` computes the signed quotient of operands with a magnitude. -/
theorem divQuotient_eq_sdiv {divisor dividend : U32} (hd : divisor ≠ 0)
    (hmin : divisor ≠ BitVec.intMin 32) (hmin' : dividend ≠ BitVec.intMin 32) (undef : ℕ → U32) :
    Insn.divQuotient undef divisor dividend = dividend.sdiv divisor :=
  divQuotient_of_defined (divQuotientDefined_eq hd hmin hmin') undef

end WirePatch
