import Mathlib.Data.BitVec

/-!
# Shifts with a defined amount

In C a shift of a word by its width or more has no defined value. This file has the shifts as
partial functions of the amount, and the rotation that is written with two of them: its
complementary shift, by the width less the amount, has no defined value either when the amount
is 0.

## Main definitions

* `DefinedShift.shl`, `DefinedShift.shr`: a shift whose amount is below the width.
* `DefinedShift.rotateRight`: a rotation by two shifts.

## Main results

* `DefinedShift.isSome_rotateRight_iff`: the amounts a rotation by two shifts is defined for.
* `DefinedShift.rotateRight_of_lt`: its value.
-/

namespace DefinedShift

variable {w : ℕ} {n : BitVec w}

def shl (a n : BitVec w) : Option (BitVec w) :=
  if n.toNat < w then some (a <<< n) else none

def shr (a n : BitVec w) : Option (BitVec w) :=
  if n.toNat < w then some (a >>> n) else none

/-- `(a >> n) | (a << (w - n))`. -/
def rotateRight (a n : BitVec w) : Option (BitVec w) := do
  let low ← shr a n
  let high ← shl a (BitVec.ofNat w w - n)
  some (low ||| high)

theorem shl_of_lt (h : n.toNat < w) (a : BitVec w) : shl a n = some (a <<< n) := if_pos h

theorem shl_of_le (h : w ≤ n.toNat) (a : BitVec w) : shl a n = none := if_neg (Nat.not_lt.mpr h)

theorem shr_of_lt (h : n.toNat < w) (a : BitVec w) : shr a n = some (a >>> n) := if_pos h

theorem shr_of_le (h : w ≤ n.toNat) (a : BitVec w) : shr a n = none := if_neg (Nat.not_lt.mpr h)

theorem isSome_shl_iff (a n : BitVec w) : (shl a n).isSome ↔ n.toNat < w := Option.isSome_ite

theorem isSome_shr_iff (a n : BitVec w) : (shr a n).isSome ↔ n.toNat < w := Option.isSome_ite

/-- The complementary amount does not wrap. -/
theorem toNat_complement (h : n.toNat < w) :
    (BitVec.ofNat w w - n).toNat = w - n.toNat := by
  have hw : (BitVec.ofNat w w).toNat = w := by
    rw [BitVec.toNat_ofNat, Nat.mod_eq_of_lt Nat.lt_two_pow_self]
  rw [BitVec.toNat_sub_of_le (BitVec.le_def.mpr (by rw [hw]; exact h.le)), hw]

/-- A rotation is a shift and its complementary shift. -/
theorem ushiftRight_or_shiftLeft {k : ℕ} (hk : k < w) (a : BitVec w) :
    a >>> k ||| a <<< (w - k) = a.rotateRight k := by
  rw [BitVec.rotateRight_def, Nat.mod_eq_of_lt hk]

theorem or_complement (h : n.toNat < w) (a : BitVec w) :
    a >>> n ||| a <<< (BitVec.ofNat w w - n) = a.rotateRight n.toNat := by
  rw [← ushiftRight_or_shiftLeft h, BitVec.ushiftRight_eq', BitVec.shiftLeft_eq',
    toNat_complement h]

theorem rotateRight_of_lt (h0 : 0 < n.toNat) (h : n.toNat < w) (a : BitVec w) :
    rotateRight a n = some (a.rotateRight n.toNat) := by
  have hc := toNat_complement h
  rw [rotateRight, shr_of_lt h, shl_of_lt (by omega), ← or_complement h]
  rfl

/-- A rotation by two shifts is defined for the amounts between 0 and the width, both excluded. -/
theorem isSome_rotateRight_iff (a n : BitVec w) :
    (rotateRight a n).isSome ↔ 0 < n.toNat ∧ n.toNat < w := by
  rcases Nat.lt_or_ge n.toNat w with h | h
  · rcases Nat.eq_zero_or_pos n.toNat with h0 | h0
    · have hc := toNat_complement h
      rw [rotateRight, shr_of_lt h, shl_of_le (by omega)]
      exact iff_of_false (by simp) (by omega)
    · rw [rotateRight_of_lt h0 h, Option.isSome_some]
      exact iff_of_true rfl ⟨h0, h⟩
  · rw [rotateRight, shr_of_le h]
    exact iff_of_false (by simp) (by omega)

end DefinedShift
