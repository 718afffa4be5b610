import Mathlib.Data.BitVec
import Mathlib.Tactic.Ring

/-!
# Fields in two's complement

A field of a word, read as an integer: the bit of place `k` counts `-2 ^ k`, the bits below it count
as usual. Shifting the field moves its sign bit, and scales the integer by a power of two; a shift
to the right rounds it down.

## Main definitions

* `SignedField.value`: the integer of a field, from its highest place and its bits.

## Main results

* `SignedField.toInt_eq_value`: the integer of a bit vector.
* `SignedField.value_mul_two_pow`, `SignedField.value_div_two_pow`: shifted fields.
-/

namespace SignedField

/-- The integer of the bits `x` when the bit of place `k`, the highest one, is the sign. -/
def value (k x : ℕ) : ℤ :=
  if x.testBit k then (x : ℤ) - 2 ^ (k + 1) else x

theorem toInt_eq_value {k : ℕ} (x : BitVec (k + 1)) : x.toInt = value k x.toNat := by
  have hmsb : x.msb = x.toNat.testBit k := BitVec.msb_eq_getLsbD_last x
  rw [BitVec.toInt_eq_msb_cond, hmsb, value, Nat.cast_pow, Nat.cast_ofNat]

/-- A field moved to the left. -/
theorem value_mul_two_pow (k s x : ℕ) : value (k + s) (x * 2 ^ s) = 2 ^ s * value k x := by
  have hbit : (x * 2 ^ s).testBit (k + s) = x.testBit k := by
    rw [Nat.testBit_mul_two_pow, decide_eq_true (Nat.le_add_left s k), Bool.true_and,
      Nat.add_sub_cancel]
  rw [value, value, hbit]
  split_ifs
  · push_cast
    ring
  · push_cast
    ring

/-- A field moved to the right, over the bits that are dropped. -/
theorem value_div_two_pow (k s x : ℕ) : value k (x / 2 ^ s) = value (k + s) x / 2 ^ s := by
  have hpow : (2 ^ s : ℤ) ≠ 0 := pow_ne_zero s two_ne_zero
  rw [value, value, Nat.testBit_div_two_pow]
  split_ifs
  · have hsign : (x : ℤ) - 2 ^ (k + s + 1) = x + -2 ^ (k + 1) * 2 ^ s := by ring
    rw [hsign, Int.add_mul_ediv_right _ _ hpow]
    push_cast
    ring
  · push_cast
    rfl

end SignedField
