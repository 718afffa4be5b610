import WirePatch.Conformance.Arithmetic
import WirePatch.Hardware.Shifter
import WirePatch.Simulator.Shifts

/-!
# Shifts: the simulator and the processor

The shifts and rotates of the simulator compared with the shifter of the processor, which takes the
low five bits of its second operand: a register, or the immediate of the instruction word. The
rotations are compared with the shifter that has them (`OR1200_IMPL_ALU_ROTATE`).

The results agree where the shifts of the simulator are defined. `srl` lacks the mask of the other
shifts by a register and is not defined for registers of 32 or more; `ror` and `rori` are not
defined for rotations by 0, which shift by 32.

## Main definitions

* `ShiftsRight`: an instruction does what the processor does, by defined shifts.
* `ShiftInsn.InRange`: the operands for which it does.

## Main results

* `Or1200.shiftedRotated_eq_shifted`: the shifter shifts by the low five bits of its operand.
* `shiftsRight_iff`: an instruction does what the processor does exactly in range.
-/

namespace WirePatch

/-! ### The processor -/

namespace Or1200

theorem getLsbD_append_field {k len i : ℕ} (hi : i < len) (x : BitVec k) (idInsn : BitVec 32) :
    (x ++ idInsn.extractLsb' 0 len).getLsbD i = idInsn.getLsbD i := by
  rw [BitVec.getLsbD_append, if_pos hi, BitVec.getLsbD_extractLsb', decide_eq_true hi,
    Bool.true_and, Nat.zero_add]

/-- The low bits of the immediate are those of the instruction word. -/
theorem getLsbD_idSimm (idInsn : BitVec 32) {i : ℕ} (hi : i < 11) :
    (idSimm idInsn).getLsbD i = idInsn.getLsbD i := by
  have h16 : i < 16 := hi.trans (by decide)
  simp only [idSimm]
  split_ifs
  · exact getLsbD_append_field h16 _ idInsn
  · exact getLsbD_append_field hi _ idInsn
  · exact getLsbD_append_field hi _ idInsn
  · exact getLsbD_append_field h16 _ idInsn

theorem toNat_idSimm_mod (idInsn : BitVec 32) :
    (idSimm idInsn).toNat % 32 = (decode idInsn).L.toNat := by
  have hlow : (idSimm idInsn).extractLsb' 0 5 = idInsn.extractLsb' 0 5 := by
    refine BitVec.eq_of_getLsbD_eq fun i hi => ?_
    rw [BitVec.getLsbD_extractLsb', BitVec.getLsbD_extractLsb', Nat.zero_add,
      getLsbD_idSimm idInsn (by omega)]
  have hL : (decode idInsn).L = (idInsn.extractLsb' 0 5).setWidth 32 := getBits_eq _ _ (by decide)
  rw [← toNat_amount, hlow, hL, BitVec.toNat_setWidth, Nat.mod_eq_of_lt]
  exact (idInsn.extractLsb' 0 5).isLt.trans (by decide)

end Or1200

/-- The operation in the shifter of the processor. -/
def ShiftOp.shrotop : ShiftOp → BitVec 4
  | slli => Or1200.shrotopSll
  | srli => Or1200.shrotopSrl
  | srai => Or1200.shrotopSra
  | rori => Or1200.shrotopRor

/-- The shifter shifts by the low five bits of its second operand. -/
theorem Or1200.shiftedRotated_eq_shifted {op : ShiftOp} {rotate : Bool}
    (h : op = .rori → rotate = true) (a b : U32) :
    Or1200.shiftedRotated rotate op.shrotop a b = op.shifted a (b.toNat % 32) := by
  cases op with
  | slli => exact Or1200.shiftedRotated_sll rotate a b
  | srli => exact Or1200.shiftedRotated_srl rotate a b
  | srai => exact Or1200.shiftedRotated_sra rotate a b
  | rori =>
    rw [h rfl]
    exact Or1200.shiftedRotated_ror a b

/-! ### Instructions -/

namespace ShiftInsn

/-- The second operand of the processor. -/
def operandB (cpu : CPU) (inst : U32) : ShiftInsn → U32
  | sll | srl | sra | ror => cpu.gpr (decode inst).rB
  | slli | srli | srai | rori => Or1200.idSimm inst

/-- The number of places: the register modulo 32, or the immediate. -/
def places (cpu : CPU) (cont : Control) : ShiftInsn → ℕ
  | sll | srl | sra | ror => (cpu.gpr cont.rB).toNat % 32
  | slli | srli | srai | rori => cont.L.toNat

theorem operandB_mod (i : ShiftInsn) (cpu : CPU) (inst : U32) :
    (i.operandB cpu inst).toNat % 32 = i.places cpu (decode inst) := by
  cases i with
  | sll | srl | sra | ror => rfl
  | slli | srli | srai | rori => exact Or1200.toNat_idSimm_mod inst

/-- The operands an instruction handles: all, but for `srl` a register below 32, and for the
rotations a number of places that is not 0. -/
def InRange (cpu : CPU) (cont : Control) : ShiftInsn → Prop
  | srl => (cpu.gpr cont.rB).toNat < 32
  | ror => (cpu.gpr cont.rB).toNat % 32 ≠ 0
  | rori => cont.L ≠ 0
  | sll | sra | slli | srli | srai => True

theorem op_inRange_iff (i : ShiftInsn) (cpu : CPU) (inst : U32) :
    i.op.InRange (i.amount cpu (decode inst)) ↔ i.InRange cpu (decode inst) := by
  have hmask := and_1f_lt (cpu.gpr (decode inst).rB)
  have hL := decode_L_lt inst
  cases i with
  | sll => exact iff_of_true hmask trivial
  | sra => exact iff_of_true hmask trivial
  | slli => exact iff_of_true hL trivial
  | srli => exact iff_of_true hL trivial
  | srai => exact iff_of_true hL trivial
  | srl => exact Iff.rfl
  | ror =>
    have hpos : 0 < (ror.amount cpu (decode inst)).toNat ↔
        (cpu.gpr (decode inst).rB).toNat % 32 ≠ 0 := by
      rw [← toNat_and_1f, Nat.pos_iff_ne_zero]
      rfl
    exact (and_iff_left hmask).trans hpos
  | rori => exact (and_iff_left hL).trans (BitVec.pos_iff_ne_zero _)

theorem toNat_amount {i : ShiftInsn} {cpu : CPU} {cont : Control} (h : i.InRange cpu cont) :
    (i.amount cpu cont).toNat = i.places cpu cont := by
  cases i with
  | sll | sra | ror => exact toNat_and_1f _
  | srl => exact (Nat.mod_eq_of_lt h).symm
  | slli | srli | srai | rori => rfl

end ShiftInsn

/-- An instruction writes its first operand shifted by its second one, which is what the processor
computes, and no shift on the way has an undefined value. -/
structure ShiftsRight (i : ShiftInsn) (undef : U32) (cpu : CPU) (inst : U32) : Prop where
  writes : i.insn undef cpu (decode inst) = cpuSetGpr cpu (decode inst).rD
    (i.op.shifted (cpu.gpr (decode inst).rA) (i.places cpu (decode inst)))
  or1200 (rotate : Bool) : (i.op = .rori → rotate = true) →
    Or1200.shiftedRotated rotate i.op.shrotop (cpu.gpr (decode inst).rA) (i.operandB cpu inst) =
      i.op.shifted (cpu.gpr (decode inst).rA) (i.places cpu (decode inst))
  defined :
    (i.op.defined (cpu.gpr (decode inst).rA) (i.amount cpu (decode inst))).isSome = true

/-- The shifts are right, whatever value an undefined shift has, exactly for operands in range. -/
theorem shiftsRight_iff (i : ShiftInsn) (undef : U32) (cpu : CPU) (inst : U32) :
    ShiftsRight i undef cpu inst ↔ i.InRange cpu (decode inst) := by
  rw [← ShiftInsn.op_inRange_iff]
  constructor
  · intro h
    exact (ShiftOp.isSome_defined_iff ..).mp h.defined
  · intro h
    refine ⟨?_, fun rotate hrotate => ?_, (ShiftOp.isSome_defined_iff ..).mpr h⟩
    · rw [ShiftInsn.insn_eq, ShiftOp.value_eq h,
        ShiftInsn.toNat_amount ((ShiftInsn.op_inRange_iff ..).mp h)]
    · rw [Or1200.shiftedRotated_eq_shifted hrotate, ShiftInsn.operandB_mod]

/-- `l.srl r5,r3,r4`. -/
def srlWord : U32 := 0xe0a32048

/-- A shift by a register that holds 32. -/
theorem not_shiftsRight_srl : ¬ ∃ undef, ShiftsRight .srl undef (operandsAt 1 32) srlWord :=
  fun ⟨_, h⟩ => absurd h.defined (by decide +kernel)

end WirePatch
