import Mathlib.Data.BitVec
import WirePatch.Foundations.DefinedShift
import WirePatch.Foundations.PriorityChain

/-!
# Shifter and bit search of the processor's arithmetic unit

The shifts and rotations of the OR1200 core (`or1200_alu.v`, lines 376–398), and its searches for
the first and the last bit that is set (lines 211–224). `OR1200_IMPL_ALU_FFL1` is defined in
`or1200_defines.v`. `OR1200_IMPL_ALU_ROTATE` is not: the decoder then takes `l.ror` for an illegal
instruction. The shifter is modelled with and without the option.

## Main definitions

* `Or1200.shiftedRotated`: the output of the shifter.
* `Or1200.ff1`, `Or1200.fl1`: the priority chains of the bit search.

## Main results

* `Or1200.shiftedRotated_sll`, `Or1200.shiftedRotated_srl`, `Or1200.shiftedRotated_sra`,
  `Or1200.shiftedRotated_ror`: the shifts by the low five bits of the second operand.
* `Or1200.ff1_of_isLeast`, `Or1200.fl1_of_isGreatest`: the chains find their bit.
-/

namespace WirePatch.Or1200

/-! ### Shifts -/

def shrotopSll : BitVec 4 := 0
def shrotopSrl : BitVec 4 := 1
def shrotopSra : BitVec 4 := 2
def shrotopRor : BitVec 4 := 3

/-- `shifted_rotated`, where `rotate` tells whether `OR1200_IMPL_ALU_ROTATE` is defined. -/
def shiftedRotated (rotate : Bool) (aluOp2 : BitVec 4) (a b : BitVec 32) : BitVec 32 :=
  let amount := (b.extractLsb' 0 5).toNat
  if aluOp2 = shrotopSll then
    a <<< amount
  else if aluOp2 = shrotopSrl then
    a >>> amount
  else if rotate ∧ aluOp2 = shrotopRor then
    a <<< (32 - amount) ||| a >>> amount
  else
    (BitVec.ofBool (a.getLsbD 31)).replicate 32 <<< (32 - amount) ||| a >>> amount

theorem toNat_amount (b : BitVec 32) : (b.extractLsb' 0 5).toNat = b.toNat % 32 :=
  BitVec.extractLsb'_toNat ..

theorem shiftedRotated_sll (rotate : Bool) (a b : BitVec 32) :
    shiftedRotated rotate shrotopSll a b = a <<< (b.toNat % 32) := by
  rw [← toNat_amount]
  rfl

theorem shiftedRotated_srl (rotate : Bool) (a b : BitVec 32) :
    shiftedRotated rotate shrotopSrl a b = a >>> (b.toNat % 32) := by
  rw [← toNat_amount]
  rfl

theorem shiftedRotated_ror (a b : BitVec 32) :
    shiftedRotated true shrotopRor a b = a.rotateRight (b.toNat % 32) := by
  rw [← DefinedShift.ushiftRight_or_shiftLeft (Nat.mod_lt _ (by decide)), BitVec.or_comm,
    ← toNat_amount]
  rfl

/-- Copies of the sign above a shifted word make the shift arithmetic. -/
theorem sshiftRight_eq (a : BitVec 32) {n : ℕ} (hn : n < 32) :
    (BitVec.ofBool (a.getLsbD 31)).replicate 32 <<< (32 - n) ||| a >>> n = a.sshiftRight n := by
  refine BitVec.eq_of_getLsbD_eq fun i hi => ?_
  have hsign (j : ℕ) (hj : j < 1 * 32) :
      ((BitVec.ofBool (a.getLsbD 31)).replicate 32).getLsbD j = a.getLsbD 31 := by
    rw [BitVec.getLsbD_replicate, decide_eq_true hj, Bool.true_and, Nat.mod_one]
    exact BitVec.getLsbD_ofBool ..
  have hmsb : a.msb = a.getLsbD 31 := rfl
  rw [BitVec.getLsbD_or, BitVec.getLsbD_shiftLeft, BitVec.getLsbD_ushiftRight,
    BitVec.getLsbD_sshiftRight, hsign _ (by omega), hmsb]
  by_cases hlow : n + i < 32
  · simp [hi, hlow, show i < 32 - n by omega]
  · simp [hi, hlow, show ¬ i < 32 - n by omega, BitVec.getLsbD_of_ge a (n + i) (by omega)]

theorem shiftedRotated_sra (rotate : Bool) (a b : BitVec 32) :
    shiftedRotated rotate shrotopSra a b = a.sshiftRight (b.toNat % 32) := by
  rw [← sshiftRight_eq a (Nat.mod_lt _ (by decide)), ← toNat_amount]
  cases rotate <;> rfl

/-! ### Bit search -/

/-- The chain of `OR1200_ALUOP_FFL1` for `alu_op2` 0: `a[0] ? 1 : a[1] ? 2 : …`. -/
def ff1 (a : BitVec 32) : BitVec 32 :=
  PriorityChain.chain a.getLsbD (fun i => BitVec.ofNat 32 (i + 1)) 0 (List.range 32)

/-- The other chain of `OR1200_ALUOP_FFL1`: `a[31] ? 32 : a[30] ? 31 : …`. -/
def fl1 (a : BitVec 32) : BitVec 32 :=
  PriorityChain.chain a.getLsbD (fun i => BitVec.ofNat 32 (i + 1)) 0 (List.range 32).reverse

example : ff1 0x00050400 = 11 ∧ fl1 0x00050400 = 19 ∧ ff1 0 = 0 ∧ fl1 0x80000000 = 32 := by decide

theorem lt_of_isSet {a : BitVec 32} {i : ℕ} (h : a.getLsbD i = true) : i < 32 :=
  BitVec.lt_of_getLsbD h

theorem ff1_of_isLeast {a : BitVec 32} {i : ℕ} (h : IsLeast {j | a.getLsbD j = true} i) :
    ff1 a = BitVec.ofNat 32 (i + 1) :=
  PriorityChain.chain_range_of_isLeast h (lt_of_isSet h.1) _ _

theorem fl1_of_isGreatest {a : BitVec 32} {i : ℕ} (h : IsGreatest {j | a.getLsbD j = true} i) :
    fl1 a = BitVec.ofNat 32 (i + 1) :=
  PriorityChain.chain_reverse_range_of_isGreatest h (lt_of_isSet h.1) _ _

theorem ff1_zero : ff1 0 = 0 :=
  PriorityChain.chain_of_forall (fun _ _ => BitVec.getLsbD_zero) _ _

theorem fl1_zero : fl1 0 = 0 :=
  PriorityChain.chain_of_forall (fun _ _ => BitVec.getLsbD_zero) _ _

end WirePatch.Or1200
