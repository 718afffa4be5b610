import WirePatch.Conformance.Arithmetic

/-!
# Arithmetic: the simulator and the integers

The additions, the subtraction, the signed multiplications and the divisions of the simulator
compared with exact arithmetic on integers. Except for a division, an instruction leaves the low
word of the exact result in its destination, the carry of the operands read as unsigned in CY, and
in OV whether the exact result of the operands read as signed is a word. The range exception, where
an instruction enters it, changes none of them.

`sub` takes the sign of its result from the register file after the write, where register 0 still
reads as 0, so that its overflow is right for the other destinations only. The divisions write exact
quotients, but `or32_div` negates its operands as C integers, which is not defined for `INT_MIN`; the
remainder of `calc_divu`, which they discard, lacks its top bit.

## Main definitions

* `IsSignedWord`: an integer is the value of a signed word.
* `LeavesExact`: what an instruction with an exact result leaves.
* `DividesRight`: a division writes the exact quotient, by defined negations.
* `IsQuotRem`: a quotient with its remainder.

## Main results

* `calcAdd_exact`, `leavesExact_add`: the additions.
* `leavesExact_sub_iff`: the subtraction, under the exact condition on its operands.
* `leavesExact_mul`: the multiplications.
* `dividesRight_iff`, `isQuotRem_calcDivu_iff`: the divisions, and the remainder, under the exact
  condition on their operands.
-/

namespace WirePatch

/-- An integer between `INT_MIN` and `INT_MAX`. -/
def IsSignedWord (z : ℤ) : Prop := -2 ^ 31 ≤ z ∧ z ≤ 2 ^ 31 - 1

instance (z : ℤ) : Decidable (IsSignedWord z) :=
  inferInstanceAs (Decidable (_ ∧ _))

/-- A state in which the destination holds the low word of the exact result `z`, OV tells that `z`
is not a signed word, and CY tells `carry`; the other registers are those of `cpu`, and a write of
register 0 leaves 0. -/
structure LeavesExact (cpu cpu' : CPU) (rD : Reg) (z : ℤ) (carry : Prop) : Prop where
  gpr : cpu'.gpr = setReg cpu.gpr rD (BitVec.ofInt 32 z)
  ov : cpuIsSetSrFlag cpu' sprSrOv = true ↔ ¬ IsSignedWord z
  cy : cpuIsSetSrFlag cpu' sprSrCy = true ↔ carry

/-- What the outcome of an instruction says about its exact result. -/
theorem leavesExact_iff {cpu cpu' : CPU} {rD : Reg} {r : U32} {o c : Bool} {z : ℤ} {carry : Prop}
    (h : cpu'.outcome = { gpr := setReg cpu.gpr rD r, ov := o, cy := c })
    (hr : r = BitVec.ofInt 32 z) (hc : c = true ↔ carry) :
    LeavesExact cpu cpu' rD z carry ↔ (o = true ↔ ¬ IsSignedWord z) := by
  have hgpr : cpu'.gpr = setReg cpu.gpr rD r := congrArg Outcome.gpr h
  have hov : cpuIsSetSrFlag cpu' sprSrOv = o := congrArg Outcome.ov h
  have hcy : cpuIsSetSrFlag cpu' sprSrCy = c := congrArg Outcome.cy h
  constructor
  · intro hleaves
    rw [← hov]
    exact hleaves.ov
  · intro ho
    exact ⟨by rw [hgpr, hr], by rw [hov, ho], by rw [hcy, hc]⟩

/-! ### Addition -/

/-- The outputs of `calc_add` are exact: sum and carry for the operands read as unsigned, overflow
for the operands read as signed. -/
structure AddExact (carryIn : Bool) (a b : U32) (out : AddOut) : Prop where
  sum : a.toNat + b.toNat + carryIn.toNat = out.res.toNat + 2 ^ 32 * out.carry.toNat
  overflow : out.overflow = true ↔ ¬ IsSignedWord (a.toInt + b.toInt + carryIn.toNat)

theorem isNeg_iff (a : U32) : isNeg a = true ↔ a.toInt < 0 := by
  have hmsb : a.getLsbD 31 = a.msb := rfl
  rw [isNeg_eq, hmsb, BitVec.msb_eq_toInt, decide_eq_true_iff]

theorem isOverflow_iff (a b r : U32) : isOverflow a b r = true ↔
    (a.toInt < 0 ∧ b.toInt < 0 ∧ ¬ r.toInt < 0) ∨ (¬ a.toInt < 0 ∧ ¬ b.toInt < 0 ∧ r.toInt < 0) := by
  simp only [isOverflow, Bool.or_eq_true, Bool.and_eq_true, Bool.not_eq_true', ← Bool.not_eq_true,
    isNeg_iff, and_assoc]

theorem calcAdd_exact (carryIn : Bool) (a b : U32) : AddExact carryIn a b (calcAdd carryIn a b) := by
  have ha := a.isLt
  have hb := b.isLt
  have hc := carryIn.toNat_lt
  have hres : (calcAdd carryIn a b).res.toNat =
      (a.toNat + b.toNat + carryIn.toNat) % 2 ^ 32 := by
    rw [calcAdd_res, BitVec.toNat_add, BitVec.toNat_add, BitVec.toNat_setWidth, BitVec.toNat_ofBool]
    omega
  have hcarry : (calcAdd carryIn a b).carry =
      decide (a.toNat + b.toNat + carryIn.toNat ≥ 2 ^ 32) := by
    rw [calcAdd_carry, BitVec.carry_width]
  constructor
  · rw [hres, hcarry]
    by_cases h : 2 ^ 32 ≤ a.toNat + b.toNat + carryIn.toNat
    · rw [decide_eq_true h, Bool.toNat_true]
      omega
    · rw [decide_eq_false h, Bool.toNat_false]
      omega
  · have hov : (calcAdd carryIn a b).overflow = isOverflow a b (calcAdd carryIn a b).res := rfl
    rw [hov, isOverflow_iff, IsSignedWord]
    simp only [BitVec.toInt_eq_toNat_cond, hres]
    omega

/-- The result of `calc_add` as a word. -/
theorem calcAdd_res_eq_ofInt (carryIn : Bool) (a b : U32) :
    (calcAdd carryIn a b).res = BitVec.ofInt 32 (a.toInt + b.toInt + carryIn.toNat) := by
  rw [calcAdd_res, BitVec.ofInt_add, BitVec.ofInt_add, BitVec.ofInt_toInt, BitVec.ofInt_toInt]
  cases carryIn <;> rfl

/-- An addition leaves its exact result, of the operands and the carry it consumes. -/
theorem leavesExact_addBase (cpu : CPU) (carryIn : Bool) (rD : Reg) (a b : U32) :
    LeavesExact cpu (Insn.checkRange (Insn.addBase cpu carryIn rD a b)) rD
      (a.toInt + b.toInt + carryIn.toNat) (2 ^ 32 ≤ a.toNat + b.toNat + carryIn.toNat) := by
  have hexact := calcAdd_exact carryIn a b
  refine (leavesExact_iff ((outcome_checkRange _).trans (outcome_addBase ..))
    (calcAdd_res_eq_ofInt ..) ?_).mpr hexact.overflow
  have hlt := (calcAdd carryIn a b).res.isLt
  have hsum := hexact.sum
  cases hcarry : (calcAdd carryIn a b).carry
  · rw [hcarry, Bool.toNat_false] at hsum
    exact iff_of_false Bool.false_ne_true (by omega)
  · rw [hcarry, Bool.toNat_true] at hsum
    exact iff_of_true rfl (by omega)

/-- `calc_add` is exact, and the four additions leave exact results: `l.add` and `l.addi` of their
operands, `l.addc` and `l.addic` of their operands and the old carry flag. -/
theorem leavesExact_add :
    (∀ carryIn a b, AddExact carryIn a b (calcAdd carryIn a b)) ∧
      ∀ (cpu : CPU) (cont : Control),
        LeavesExact cpu (Insn.add cpu cont) cont.rD
            ((cpu.gpr cont.rA).toInt + (cpu.gpr cont.rB).toInt)
            (2 ^ 32 ≤ (cpu.gpr cont.rA).toNat + (cpu.gpr cont.rB).toNat) ∧
          LeavesExact cpu (Insn.addi cpu cont) cont.rD
            ((cpu.gpr cont.rA).toInt + (exts cont.I).toInt)
            (2 ^ 32 ≤ (cpu.gpr cont.rA).toNat + (exts cont.I).toNat) ∧
          LeavesExact cpu (Insn.addc cpu cont) cont.rD
            ((cpu.gpr cont.rA).toInt + (cpu.gpr cont.rB).toInt +
              (cpuIsSetSrFlag cpu sprSrCy).toNat)
            (2 ^ 32 ≤ (cpu.gpr cont.rA).toNat + (cpu.gpr cont.rB).toNat +
              (cpuIsSetSrFlag cpu sprSrCy).toNat) ∧
          LeavesExact cpu (Insn.addic cpu cont) cont.rD
            ((cpu.gpr cont.rA).toInt + (exts cont.I).toInt + (cpuIsSetSrFlag cpu sprSrCy).toNat)
            (2 ^ 32 ≤ (cpu.gpr cont.rA).toNat + (exts cont.I).toNat +
              (cpuIsSetSrFlag cpu sprSrCy).toNat) := by
  refine ⟨calcAdd_exact, fun cpu cont => ⟨?_, ?_, ?_, ?_⟩⟩
  · simpa [Insn.add] using
      leavesExact_addBase cpu false cont.rD (cpu.gpr cont.rA) (cpu.gpr cont.rB)
  · simpa [Insn.addi] using
      leavesExact_addBase cpu false cont.rD (cpu.gpr cont.rA) (exts cont.I)
  · exact leavesExact_addBase ..
  · exact leavesExact_addBase ..

/-! ### Subtraction -/

/-- The overflow test of `sub` on a result read back from the register file. -/
theorem subOverflow_iff (a b r : U32) : Insn.subOverflow a b r = true ↔
    (a.toInt < 0 ∧ ¬ b.toInt < 0 ∧ ¬ r.toInt < 0) ∨
      (¬ a.toInt < 0 ∧ b.toInt < 0 ∧ r.toInt < 0) := by
  have hslt (x : U32) : x.slt 0 = true ↔ x.toInt < 0 := by
    rw [BitVec.slt_eq_decide, decide_eq_true_iff]
    rfl
  simp only [Insn.subOverflow, Bool.or_eq_true, Bool.and_eq_true, Bool.not_eq_true',
    ← Bool.not_eq_true, hslt, and_assoc]

/-- `l.sub` leaves the exact difference exactly when its destination is not register 0, or the
operands have equal signs, or a negative operand minus another one overflows and another one minus
a negative one does not. -/
theorem leavesExact_sub_iff (cpu : CPU) (cont : Control) :
    LeavesExact cpu (Insn.sub cpu cont) cont.rD
        ((cpu.gpr cont.rA).toInt - (cpu.gpr cont.rB).toInt)
        ((cpu.gpr cont.rA).toNat < (cpu.gpr cont.rB).toNat) ↔
      (cont.rD = 0 →
        ((cpu.gpr cont.rA).toInt < 0 → 0 ≤ (cpu.gpr cont.rB).toInt →
          (cpu.gpr cont.rA).toInt - (cpu.gpr cont.rB).toInt < -2 ^ 31) ∧
        (0 ≤ (cpu.gpr cont.rA).toInt → (cpu.gpr cont.rB).toInt < 0 →
          (cpu.gpr cont.rA).toInt - (cpu.gpr cont.rB).toInt ≤ 2 ^ 31 - 1)) := by
  generalize ha : cpu.gpr cont.rA = a
  generalize hb : cpu.gpr cont.rB = b
  have hsub : a - b = BitVec.ofInt 32 (a.toInt - b.toInt) := by
    rw [Int.sub_eq_add_neg, BitVec.ofInt_add, BitVec.ofInt_neg, BitVec.ofInt_toInt,
      BitVec.ofInt_toInt, BitVec.sub_eq_add_neg]
  have hcy : decide (b > a) = true ↔ a.toNat < b.toNat := by
    rw [decide_eq_true_iff, gt_iff_lt, BitVec.lt_def]
  have houtcome := outcome_sub cpu cont
  rw [ha, hb] at houtcome
  rw [leavesExact_iff houtcome hsub hcy, subOverflow_iff, setReg_self]
  have hsign := toInt_sub_neg_iff a b
  have halo := a.le_two_mul_toInt
  have hahi := a.two_mul_toInt_lt
  have hblo := b.le_two_mul_toInt
  have hbhi := b.two_mul_toInt_lt
  rw [IsSignedWord]
  by_cases h0 : cont.rD = 0
  · have hzero : (0 : U32).toInt = 0 := rfl
    rw [if_pos h0, hzero, imp_iff_right h0]
    clear hsign
    omega
  · rw [if_neg h0, hsign]
    refine iff_of_true ?_ fun h => absurd h h0
    clear hsign
    omega

/-- `l.sub r0,r3,r4`. -/
def subZeroWord : U32 := 0xe0032002

/-- With -1 in register 3 and 0 in register 4 the difference is -1, and OV is set. -/
theorem not_leavesExact_sub :
    ¬ LeavesExact (operandsAt 0xffffffff 0) (Insn.sub (operandsAt 0xffffffff 0)
        (decode subZeroWord)) 0 ((0xffffffff : U32).toInt - (0 : U32).toInt)
      ((0xffffffff : U32).toNat < (0 : U32).toNat) :=
  fun h => absurd (h.ov.mp (by decide +kernel)) (by decide)

/-! ### Multiplication -/

theorem setWidth_calcMul_eq_ofInt (a b : U32) :
    (calcMul a b).setWidth 32 = BitVec.ofInt 32 (a.toInt * b.toInt) := by
  rw [calcMul_setWidth, BitVec.ofInt_mul, BitVec.ofInt_toInt, BitVec.ofInt_toInt]

/-- A signed multiplication leaves its exact result. -/
theorem leavesExact_mulShared (cpu : CPU) (a b : U32) (rD : Reg) :
    LeavesExact cpu (Insn.checkRange (Insn.mulShared cpu a b rD)) rD (a.toInt * b.toInt)
      (a.toNat * b.toNat > 2 ^ 32 - 1) := by
  have hcy : decide (calcMulu a b > 0xffffffff) = true ↔ a.toNat * b.toNat > 2 ^ 32 - 1 := by
    rw [decide_eq_true_iff, calcMulu_gt_iff]
    exact Nat.succ_le_iff
  refine (leavesExact_iff ((outcome_checkRange _).trans (outcome_mulShared ..))
    (setWidth_calcMul_eq_ofInt a b) hcy).mpr ?_
  rw [calcMul_overflow_iff, IsSignedWord]
  omega

/-- `calc_mulu` and `calc_mul` compute the exact products, and the signed multiplications leave
exact results. -/
theorem leavesExact_mul :
    (∀ a b, (calcMulu a b).toNat = a.toNat * b.toNat ∧
        (calcMul a b).toInt = a.toInt * b.toInt) ∧
      ∀ (cpu : CPU) (cont : Control),
        LeavesExact cpu (Insn.mul cpu cont) cont.rD
            ((cpu.gpr cont.rA).toInt * (cpu.gpr cont.rB).toInt)
            ((cpu.gpr cont.rA).toNat * (cpu.gpr cont.rB).toNat > 2 ^ 32 - 1) ∧
          LeavesExact cpu (Insn.muli cpu cont) cont.rD
            ((cpu.gpr cont.rA).toInt * (exts cont.I).toInt)
            ((cpu.gpr cont.rA).toNat * (exts cont.I).toNat > 2 ^ 32 - 1) :=
  ⟨fun a b => ⟨calcMulu_toNat a b, calcMul_toInt a b⟩,
    fun cpu cont => ⟨leavesExact_mulShared cpu _ _ cont.rD, leavesExact_mulShared cpu _ _ cont.rD⟩⟩

/-! ### Division -/

theorem sdiv_eq_ofInt (a b : U32) : a.sdiv b = BitVec.ofInt 32 (a.toInt.tdiv b.toInt) := by
  refine BitVec.eq_of_toInt_eq ?_
  rw [BitVec.toInt_sdiv, BitVec.toInt_ofInt]

theorem udiv_eq_ofNat (a b : U32) : a / b = BitVec.ofNat 32 (a.toNat / b.toNat) := by
  rw [← BitVec.toNat_udiv, BitVec.ofNat_toNat, BitVec.setWidth_eq]

/-- The divisions. -/
inductive DivInsn
  | divu
  | div
  deriving DecidableEq, Repr

namespace DivInsn

/-- The instruction in the simulator. -/
def insn (undef : ℕ → U32) : DivInsn → CPU → Control → CPU
  | divu => Insn.divu
  | div => Insn.or32Div undef

/-- The exact quotient of `a` and `b` as a word: `l.divu` of the operands read as unsigned, rounded
down, `l.div` of the operands read as signed, rounded towards zero. -/
def quotient (a b : U32) : DivInsn → U32
  | divu => BitVec.ofNat 32 (a.toNat / b.toNat)
  | div => BitVec.ofInt 32 (a.toInt.tdiv b.toInt)

/-- The quotient the simulator computes, where the negations on the way to it are defined. -/
def defined (a b : U32) : DivInsn → Option U32
  | divu => some (calcDivu b a).1
  | div => divQuotientDefined b a

/-- The operands whose signs the simulator can take away. -/
def InRange (a b : U32) : DivInsn → Prop
  | divu => True
  | div => a.toInt ≠ -2 ^ 31 ∧ b.toInt ≠ -2 ^ 31

theorem isSome_defined_iff (i : DivInsn) (a b : U32) :
    (i.defined a b).isSome ↔ i.InRange a b := by
  cases i with
  | divu => exact iff_of_true rfl trivial
  | div =>
    rw [defined, isSome_divQuotientDefined_iff, InRange, ne_eq (BitVec.toInt _),
      ne_eq (BitVec.toInt _), ← eq_intMin_iff, ← eq_intMin_iff]
    exact And.comm

end DivInsn

/-- An instruction writes the exact quotient of its operands, by defined negations. -/
structure DividesRight (i : DivInsn) (undef : ℕ → U32) (cpu : CPU) (cont : Control) : Prop where
  writes : (i.insn undef cpu cont).gpr =
    setReg cpu.gpr cont.rD (i.quotient (cpu.gpr cont.rA) (cpu.gpr cont.rB))
  defined : (i.defined (cpu.gpr cont.rA) (cpu.gpr cont.rB)).isSome = true

/-- The divisions by a non-zero register are right, whatever words an undefined negation yields,
exactly when `l.div` has no operand that is its own negation. -/
theorem dividesRight_iff (i : DivInsn) (undef : ℕ → U32) {cpu : CPU} {cont : Control}
    (hb : cpu.gpr cont.rB ≠ 0) :
    DividesRight i undef cpu cont ↔ i.InRange (cpu.gpr cont.rA) (cpu.gpr cont.rB) := by
  have hdefined := i.isSome_defined_iff (cpu.gpr cont.rA) (cpu.gpr cont.rB)
  refine ⟨fun h => hdefined.mp h.defined, fun h => ⟨?_, hdefined.mpr h⟩⟩
  cases i with
  | divu =>
    have houtcome := congrArg Outcome.gpr (outcome_divu cpu cont)
    rw [if_pos hb, udiv_eq_ofNat] at houtcome
    exact houtcome
  | div =>
    have houtcome := congrArg Outcome.gpr
      (outcome_or32Div (mt (eq_intMin_iff _).mp h.1) (mt (eq_intMin_iff _).mp h.2) undef)
    rw [if_pos hb, sdiv_eq_ofInt] at houtcome
    exact houtcome

/-- `l.div r5,r3,r4`. -/
def divWord : U32 := 0xe0a32309

/-- -7 divided by 2. -/
theorem dividesRight_iff_seven :
    DividesRight .div (fun _ => 0) (operandsAt 0xfffffff9 2) (decode divWord) ↔
      DivInsn.div.InRange 0xfffffff9 2 :=
  dividesRight_iff .div (fun _ => 0)
    (show (operandsAt 0xfffffff9 2).gpr (decode divWord).rB ≠ 0 by decide)

/-- The least integer divided by 1. -/
theorem not_dividesRight_intMin :
    ¬ ∃ undef, DividesRight .div undef (operandsAt 0x80000000 1) (decode divWord) :=
  fun ⟨_, h⟩ => absurd h.defined (by decide +kernel)

/-- The outputs of `calc_divu` are a quotient and a remainder. -/
def IsQuotRem (divisor dividend : U32) (out : U32 × U32) : Prop :=
  dividend.toNat = out.1.toNat * divisor.toNat + out.2.toNat ∧ out.2.toNat < divisor.toNat

instance (divisor dividend : U32) (out : U32 × U32) : Decidable (IsQuotRem divisor dividend out) :=
  inferInstanceAs (Decidable (_ ∧ _))

/-- `calc_divu` returns quotient and remainder unless the dividend is at least `2 ^ 31` and below
the divisor: only then does the remainder, which is the dividend, have its top bit set. -/
theorem isQuotRem_calcDivu_iff {divisor : U32} (hd : 0 < divisor.toNat) (dividend : U32) :
    IsQuotRem divisor dividend (calcDivu divisor dividend) ↔
      ¬ (2 ^ 31 ≤ dividend.toNat ∧ dividend.toNat < divisor.toNat) := by
  have hne : divisor ≠ 0 := by
    rintro rfl
    exact absurd hd (by decide)
  have hx := dividend.isLt
  have hmod := Nat.mod_lt dividend.toNat hd
  have hdiv := Nat.div_add_mod' dividend.toNat divisor.toNat
  rw [IsQuotRem, calcDivu_toNat hne, calcDivu_rem_toNat hne]
  rcases Nat.lt_or_ge dividend.toNat divisor.toNat with h | h
  · rw [Nat.div_eq_of_lt h, Nat.mod_eq_of_lt h]
    omega
  · -- the remainder is below the divisor and at most the difference, so at most half the dividend
    have hle : dividend.toNat % divisor.toNat ≤ dividend.toNat - divisor.toNat := by
      rw [Nat.mod_eq_sub_mod h]
      exact Nat.mod_le ..
    rw [Nat.mod_eq_of_lt (show dividend.toNat % divisor.toNat < 2 ^ 31 by omega)]
    exact iff_of_true ⟨hdiv.symm, hmod⟩ fun hsmall => absurd hsmall.2 (Nat.not_lt.mpr h)

theorem isQuotRem_calcDivu_iff_seven :
    IsQuotRem 2 7 (calcDivu 2 7) ↔
      ¬ (2 ^ 31 ≤ (7 : U32).toNat ∧ (7 : U32).toNat < (2 : U32).toNat) :=
  isQuotRem_calcDivu_iff (by decide) 7

/-- `2 ^ 31` is less than the divisor, so that it is its own remainder; `calc_divu` returns 0. -/
theorem not_isQuotRem_calcDivu :
    ¬ IsQuotRem 0xffffffff 0x80000000 (calcDivu 0xffffffff 0x80000000) := by
  decide +kernel

end WirePatch
