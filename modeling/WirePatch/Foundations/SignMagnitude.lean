import Mathlib.Data.BitVec

/-!
# Signed arithmetic by magnitudes

A signed product or quotient of bit vectors can be computed from the magnitudes of the operands:
the unsigned result is negated when the signs differ. In C the negation of the least signed word
overflows; the magnitudes a program computes are partial.

## Main definitions

* `SignMagnitude.withSign`: a magnitude with a sign.
* `SignMagnitude.neg`, `SignMagnitude.magnitude`: a negation and a magnitude that do not overflow.

## Main results

* `SignMagnitude.toNat_abs`: the magnitude of a bit vector.
* `SignMagnitude.toInt_withSign_mul`: signed multiplication.
* `SignMagnitude.sdiv_eq_withSign`: signed division.
* `SignMagnitude.isSome_magnitude_iff`: the words that have a magnitude.
-/

namespace SignMagnitude

variable {w v : ℕ}

/-- The magnitude `m` with the sign `neg`. -/
def withSign (neg : Bool) (m : BitVec w) : BitVec w :=
  if neg then -m else m

/-- The magnitude of a bit vector. -/
theorem toNat_abs (x : BitVec w) : x.abs.toNat = x.toInt.natAbs := by
  rw [BitVec.abs, BitVec.toInt_eq_msb_cond]
  cases hx : x.msb
  · simp
  · have hlt := x.isLt
    have hpos : 0 < x.toNat := by
      have := BitVec.msb_eq_true_iff_two_mul_ge.mp hx
      have := Nat.two_pow_pos w
      omega
    rw [if_pos rfl, if_pos rfl, BitVec.neg_eq, BitVec.toNat_neg, Nat.mod_eq_of_lt (by omega)]
    omega

theorem abs_ne_zero {x : BitVec w} (hx : x ≠ 0) : x.abs ≠ 0 := by
  intro h
  have hzero : x.toInt.natAbs = 0 := by
    rw [← toNat_abs, h]
    rfl
  refine hx (BitVec.eq_of_toInt_eq ?_)
  rw [Int.natAbs_eq_zero.mp hzero]
  exact BitVec.toInt_zero.symm

theorem two_mul_toNat_abs_le (x : BitVec w) : 2 * x.abs.toNat ≤ 2 ^ w := by
  have hlow := x.le_two_mul_toInt
  have hhigh := x.two_mul_toInt_lt
  have hcast : ((2 ^ w : ℕ) : ℤ) = 2 ^ w := Nat.cast_pow 2 w
  rw [toNat_abs]
  omega

theorem toInt_withSign_of_two_mul_lt {m : BitVec w} (h : 2 * m.toNat < 2 ^ w) (neg : Bool) :
    (withSign neg m).toInt = if neg then -(m.toNat : ℤ) else m.toNat := by
  cases neg
  · exact BitVec.toInt_eq_toNat_of_lt h
  · have hm : m.toInt = m.toNat := BitVec.toInt_eq_toNat_of_lt h
    rw [withSign, if_pos rfl, if_pos rfl, BitVec.toInt_neg, hm]
    have hcast : ((2 ^ w : ℕ) : ℤ) = 2 ^ w := Nat.cast_pow 2 w
    refine Int.bmod_eq_of_le_mul_two ?_ ?_ <;> omega

theorem toInt_eq_ite (x : BitVec w) :
    x.toInt = if x.msb then -(x.abs.toNat : ℤ) else x.abs.toNat := by
  have hneg : x.msb = true ↔ x.toInt < 0 := by rw [BitVec.msb_eq_toInt, decide_eq_true_iff]
  rw [toNat_abs]
  split_ifs with hx
  · rw [hneg] at hx
    omega
  · rw [hneg] at hx
    omega

/-- The product of the magnitudes, negated when the signs differ, is the signed product. -/
theorem toInt_withSign_mul {x y : BitVec w} {p : BitVec v}
    (hp : p.toNat = x.abs.toNat * y.abs.toNat) (hlt : 2 * p.toNat < 2 ^ v) :
    (withSign (x.msb ^^ y.msb) p).toInt = x.toInt * y.toInt := by
  rw [toInt_withSign_of_two_mul_lt hlt, hp, toInt_eq_ite x, toInt_eq_ite y, Nat.cast_mul]
  generalize (x.abs.toNat : ℤ) = m
  generalize (y.abs.toNat : ℤ) = n
  cases x.msb <;> cases y.msb <;> simp

/-- The quotient of the magnitudes, negated when the signs differ, is the signed quotient. -/
theorem sdiv_eq_withSign (x y : BitVec w) :
    x.sdiv y = withSign (x.msb ^^ y.msb) (x.abs / y.abs) := by
  rw [BitVec.sdiv_eq, withSign, BitVec.abs, BitVec.abs]
  cases x.msb <;> cases y.msb <;> simp

/-- The negation of a signed word. That of the least one overflows. -/
def neg (x : BitVec w) : Option (BitVec w) :=
  if x = BitVec.intMin w then none else some (-x)

/-- The magnitude of a signed word, by a test of its sign and a negation. -/
def magnitude (x : BitVec w) : Option (BitVec w) :=
  if x.msb then neg x else some x

theorem magnitude_of_ne {x : BitVec w} (h : x ≠ BitVec.intMin w) : magnitude x = some x.abs := by
  rw [magnitude, neg, if_neg h, BitVec.abs]
  split_ifs <;> rfl

/-- Every word but the least one has a magnitude. -/
theorem isSome_magnitude_iff (hw : 0 < w) (x : BitVec w) :
    (magnitude x).isSome ↔ x ≠ BitVec.intMin w := by
  constructor
  · rintro h rfl
    have hmsb : (BitVec.intMin w).msb = true := by
      rw [BitVec.msb_intMin, decide_eq_true hw]
    rw [magnitude, if_pos hmsb, neg, if_pos rfl] at h
    exact Bool.false_ne_true h
  · intro h
    rw [magnitude_of_ne h, Option.isSome_some]

end SignMagnitude
