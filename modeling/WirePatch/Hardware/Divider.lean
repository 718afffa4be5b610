import WirePatch.Foundations.ShiftArithmetic
import WirePatch.Foundations.SignMagnitude
import WirePatch.Hardware.MultMac

/-!
# When the serial divider is right

The serial divider compares the upper half of its register with the divisor by the sign bit of
their 32-bit difference. This is the comparison of a restoring divider as long as the difference
is below `2 ^ 31` in absolute value, which a divisor of at most `2 ^ 31` guarantees. For almost all
larger divisors the first step already subtracts where it should not.

## Main results

* `Or1200.divShift_toNat`: when a shift of the divider is a step of a restoring divider.
* `Or1200.divShifts_eq_udiv_iff`: for which operands the divider computes the quotient.
-/

namespace WirePatch.Or1200

theorem toNat_extractLsb' {w : ℕ} (x : BitVec w) (start len : ℕ) :
    (x.extractLsb' start len).toNat = x.toNat / 2 ^ start % 2 ^ len := by
  rw [BitVec.extractLsb'_toNat, Nat.shiftRight_eq_div_pow]

theorem toNat_append {v w : ℕ} (x : BitVec v) (y : BitVec w) :
    (x ++ y).toNat = x.toNat * 2 ^ w + y.toNat := by
  rw [BitVec.toNat_append, Nat.shiftLeft_eq, Nat.mul_comm, Nat.two_pow_add_eq_or_of_lt y.isLt]

theorem toNat_divTmp (y : BitVec 32) (r : BitVec 64) :
    (divTmp y r).toNat = (2 ^ 32 - y.toNat + r.toNat / 2 ^ 32) % 2 ^ 32 := by
  rw [divTmp, BitVec.toNat_sub, toNat_extractLsb']
  omega

/-- A shift of the divider is a step of a restoring divider when the compared words are less than
`2 ^ 31` apart, or just so far and the step does not subtract. -/
theorem divShift_toNat {y : BitVec 32} {r : BitVec 64}
    (hlow : y.toNat ≤ r.toNat / 2 ^ 32 + 2 ^ 31) (hhigh : r.toNat / 2 ^ 32 < y.toNat + 2 ^ 31) :
    (divShift y r).toNat = ShiftArithmetic.divStep 32 y.toNat r.toNat % 2 ^ 64 := by
  have hy := y.isLt
  have hr := r.isLt
  have hneg : (divTmp y r).getLsbD 31 = true ↔ r.toNat / 2 ^ 32 < y.toNat := by
    rw [show (divTmp y r).getLsbD 31 = (divTmp y r).msb from rfl,
      BitVec.msb_eq_true_iff_two_mul_ge, toNat_divTmp]
    omega
  rw [divShift, ShiftArithmetic.divStep]
  simp only [hneg]
  split_ifs with h
  · rw [toNat_append, toNat_extractLsb']
    change r.toNat / 2 ^ 0 % 2 ^ 63 * 2 ^ 1 + 0 = _
    omega
  · rw [toNat_append, toNat_append, toNat_extractLsb', toNat_extractLsb', toNat_divTmp]
    change _ * 2 ^ 1 + 1 = _
    omega

section Divide

variable {x y : BitVec 32}

theorem toNat_divShifts_zero (x y : BitVec 32) : (divShifts x y 0).toNat = 2 * x.toNat := by
  change (0#31 ++ x ++ 0#1).toNat = _
  rw [toNat_append, toNat_append]
  change (0 * 2 ^ 32 + x.toNat) * 2 ^ 1 + 0 = _
  omega

/-- The register of the divider after `n` shifts, as long as no comparison goes wrong. -/
theorem toNat_divShifts (hy : 0 < y.toNat)
    (hhead : ∀ k < 32, y.toNat ≤ ShiftArithmetic.divHead y.toNat x.toNat k + 2 ^ 31) {n k : ℕ}
    (hn : n + k = 32) :
    (divShifts x y n).toNat =
      ShiftArithmetic.divRegister y.toNat x.toNat n k % 2 ^ 64 := by
  induction n generalizing k with
  | zero =>
    obtain rfl : k = 32 := by omega
    have hx := x.isLt
    rw [ShiftArithmetic.divRegister_start x.isLt, toNat_divShifts_zero, Nat.mod_eq_of_lt (by omega)]
  | succ n ih =>
    have hw : n + k + 1 = 32 := by omega
    have hfit : ShiftArithmetic.divRegister y.toNat x.toNat n (k + 1) < 2 ^ 64 :=
      ShiftArithmetic.divRegister_lt hw x.isLt
    have hreg : (divShifts x y n).toNat = ShiftArithmetic.divRegister y.toNat x.toNat n (k + 1) := by
      rw [ih (k := k + 1) (by omega), Nat.mod_eq_of_lt hfit]
    have hdiv : (divShifts x y n).toNat / 2 ^ 32 =
        ShiftArithmetic.divHead y.toNat x.toNat k := by
      rw [hreg, ShiftArithmetic.divRegister_div hw x.isLt]
    have hlow := hhead k (by omega)
    have hhigh := ShiftArithmetic.divHead_lt (x := x.toNat) (k := k) hy
    have hlt := (divShifts x y n).isLt
    rw [divShifts_succ, divShift_toNat (by omega) (by omega), hreg,
      ShiftArithmetic.divStep_divRegister hw hy x.isLt]

/-- The lower half of the register is the quotient, as long as no comparison goes wrong. -/
theorem divShifts_eq_udiv (hy : 0 < y.toNat)
    (hhead : ∀ k < 32, y.toNat ≤ ShiftArithmetic.divHead y.toNat x.toNat k + 2 ^ 31) :
    (divShifts x y 32).extractLsb' 0 32 = x / y := by
  refine BitVec.eq_of_toNat_eq ?_
  rw [toNat_extractLsb', toNat_divShifts hy hhead (k := 0) rfl, BitVec.toNat_udiv, pow_zero,
    Nat.div_one, Nat.mod_mod_of_dvd _ (by decide), ShiftArithmetic.divRegister_zero_mod x.isLt]

/-- The bit of the quotient shifted in is the inverted sign of the difference. -/
theorem getLsbD_divShift_zero (y : BitVec 32) (r : BitVec 64) :
    (divShift y r).getLsbD 0 = !(divTmp y r).getLsbD 31 := by
  rw [divShift]
  split_ifs with h
  · rw [h]
    exact BitVec.getLsbD_append
  · rw [eq_false_of_ne_true h]
    exact BitVec.getLsbD_append

/-- A bit of the quotient stays once it is shifted in. -/
theorem getLsbD_divShift (y : BitVec 32) (r : BitVec 64) {i : ℕ} (hi : i < 32) :
    (divShift y r).getLsbD (i + 1) = r.getLsbD i := by
  have hi63 : i < 63 := by omega
  rw [divShift]
  split_ifs with h
  · refine BitVec.getLsbD_append.trans ?_
    simp [hi63]
  · refine BitVec.getLsbD_append.trans ?_
    rw [BitVec.getLsbD_append]
    simp [hi]

theorem getLsbD_divShifts (x y : BitVec 32) {n : ℕ} (hn : n ≤ 31) :
    (divShifts x y (n + 1)).getLsbD n = (divShifts x y 1).getLsbD 0 := by
  induction n with
  | zero => rfl
  | succ n ih =>
    rw [divShifts_succ, getLsbD_divShift y _ (by omega), ih (Nat.le_of_succ_le hn)]

/-- The first step subtracts when the difference of the top bit and the divisor has no sign bit. -/
theorem getLsbD_divShifts_one (x y : BitVec 32) :
    (divShifts x y 1).getLsbD 0 = true ↔
      (2 ^ 32 - y.toNat + x.toNat / 2 ^ 31) % 2 ^ 32 < 2 ^ 31 := by
  have htop : (divShifts x y 0).toNat / 2 ^ 32 = x.toNat / 2 ^ 31 := by
    rw [toNat_divShifts_zero]
    omega
  have hneg : (divTmp y (divShifts x y 0)).getLsbD 31 = true ↔
      2 ^ 31 ≤ (2 ^ 32 - y.toNat + x.toNat / 2 ^ 31) % 2 ^ 32 := by
    rw [show (divTmp y (divShifts x y 0)).getLsbD 31 = (divTmp y (divShifts x y 0)).msb from rfl,
      BitVec.msb_eq_true_iff_two_mul_ge, toNat_divTmp, htop]
    omega
  rw [divShifts_succ, getLsbD_divShift_zero, ← not_le, ← hneg, Bool.not_eq_true']
  exact (Bool.not_eq_true _).symm.to_iff

/-- The divider computes the quotient exactly when the divisor is at most `2 ^ 31`, or `2 ^ 31 + 1`
with the top bit of the dividend set. -/
theorem divShifts_eq_udiv_iff (hy : 0 < y.toNat) :
    (divShifts x y 32).extractLsb' 0 32 = x / y ↔
      y.toNat ≤ 2 ^ 31 ∨ y.toNat = 2 ^ 31 + 1 ∧ 2 ^ 31 ≤ x.toNat := by
  constructor
  · intro h
    by_contra hlarge
    have hx := x.isLt
    have hfirst : (divShifts x y 1).getLsbD 0 = true :=
      (getLsbD_divShifts_one x y).mpr (by omega)
    have hbit : ((divShifts x y 32).extractLsb' 0 32).getLsbD 31 = true := by
      rw [BitVec.getLsbD_extractLsb', Nat.zero_add, getLsbD_divShifts x y le_rfl, hfirst]
      rfl
    have hquot : (x / y).toNat < 2 := by
      rw [BitVec.toNat_udiv]
      exact Nat.div_lt_of_lt_mul (by omega)
    rw [h, show (x / y).getLsbD 31 = (x / y).msb from rfl, BitVec.msb_eq_true_iff_two_mul_ge]
      at hbit
    omega
  · rintro (hsmall | ⟨hone, htop⟩)
    · exact divShifts_eq_udiv hy fun k _ => by omega
    · refine divShifts_eq_udiv hy fun k hk => ?_
      have hpos : 1 ≤ x.toNat / 2 ^ k :=
        Nat.div_pos ((Nat.pow_le_pow_right Nat.two_pos (by omega)).trans htop)
          (Nat.two_pow_pos k)
      have hread := ShiftArithmetic.div_pow_succ x.toNat k
      have hle : x.toNat / 2 ^ k ≤ x.toNat := Nat.div_le_self ..
      have hx := x.isLt
      rw [ShiftArithmetic.divHead_of_lt (by omega)]
      omega

end Divide

end WirePatch.Or1200
