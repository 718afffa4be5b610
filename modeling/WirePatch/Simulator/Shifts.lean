import WirePatch.Foundations.DefinedShift
import WirePatch.Simulator.Instruction
import WirePatch.Simulator.SignExtension

/-!
# Shifts in the simulator

The eight shifts and rotates of `simulator.c`, lines 1357–1443. They differ in where the amount
comes from: a field of the instruction word, or a register, whose low five bits `sll`, `sra` and
`ror` take. `srl` takes the whole register. A rotation also shifts by 32 less the amount, and an
arithmetic shift calls `sign_extend`, which shifts two constants. Each of these shifts has a
defined value for amounts below 32 only.

## Main definitions

* `ShiftOp.defined`: the value of a shift, where all shifts on the way to it are defined.
* `ShiftInsn`, `ShiftInsn.amount`: the instructions and their amounts.
* `ShiftOp.shifted`: a word shifted or rotated by a number of places.

## Main results

* `ShiftOp.value_eq`: the value for an amount that is in range.
* `ShiftOp.isSome_defined_iff`: which amounts are in range.
-/

namespace WirePatch

/-- `sign_extend`, where its shifts are defined. -/
def signExtendDefined (value signBit : U32) : Option U32 := do
  let mask ← DefinedShift.shl 0x1#32 signBit
  if value &&& mask ≠ 0 then
    let high ← DefinedShift.shl 0xffffffff#32 signBit
    some (value ||| high)
  else
    some value

theorem signExtendDefined_of_lt {signBit : U32} (h : signBit < 32) (value : U32) :
    signExtendDefined value signBit = some (signExtend value signBit.toNat) := by
  simp only [signExtendDefined, DefinedShift.shl_of_lt h, Option.bind_eq_bind, Option.bind_some,
    signExtend, isBitSet, bne_iff_ne, BitVec.shiftLeft_eq']
  split_ifs <;> rfl

namespace ShiftOp

/-- `ShiftOp.value`, where the shifts on the way to it are defined. -/
def defined (a amount : U32) : ShiftOp → Option U32
  | slli => DefinedShift.shl a amount
  | srli => DefinedShift.shr a amount
  | srai => do
    let rA ← DefinedShift.shr a amount
    if amount > 0 then signExtendDefined rA (31 - amount) else some rA
  | rori => DefinedShift.rotateRight a amount

/-- A word shifted or rotated by a number of places. -/
def shifted (a : U32) (n : ℕ) : ShiftOp → U32
  | slli => a <<< n
  | srli => a >>> n
  | srai => a.sshiftRight n
  | rori => a.rotateRight n

/-- The amounts for which every shift on the way is by less than 32. A rotation by 0 has the
complementary shift by 32. -/
def InRange (amount : U32) : ShiftOp → Prop
  | slli | srli | srai => amount < 32
  | rori => 0 < amount ∧ amount < 32

variable {amount : U32}

theorem shiftRightSigned_eq (h : amount < 32) (undef a : U32) :
    Insn.shiftRightSigned undef a amount = a.sshiftRight amount.toNat := by
  refine BitVec.eq_of_toInt_eq ?_
  rw [toInt_shiftRightSigned undef a h, BitVec.toInt_sshiftRight, Int.shiftRight_eq_div_pow]
  rfl

theorem defined_srai (h : amount < 32) (undef a : U32) :
    srai.defined a amount = some (Insn.shiftRightSigned undef a amount) := by
  have hlt : amount.toNat < 32 := h
  have hsub : (31 - amount).toNat = 31 - amount.toNat :=
    BitVec.toNat_sub_of_le (BitVec.le_def.mpr (Nat.le_of_lt_succ hlt))
  have hbit : 31 - amount < 32 := by
    rw [BitVec.lt_def, hsub]
    exact (Nat.sub_le ..).trans_lt (by decide)
  simp only [defined, DefinedShift.shr_of_lt h, Option.bind_eq_bind, Option.bind_some,
    Insn.shiftRightSigned, Insn.cShr, if_pos h, signExtendDefined_of_lt hbit, hsub]
  split_ifs <;> rfl

/-- In range, an instruction shifts by its amount. -/
theorem value_eq {op : ShiftOp} (h : op.InRange amount) (undef a : U32) :
    op.value undef a amount = op.shifted a amount.toNat := by
  cases op with
  | slli => exact if_pos h
  | srli => exact if_pos h
  | srai => exact shiftRightSigned_eq h undef a
  | rori =>
    have hpos : 0 < amount.toNat := h.1
    have hlt : 32 - amount < 32 :=
      (DefinedShift.toNat_complement h.2).trans_lt (Nat.sub_lt (by decide) hpos)
    rw [value, Insn.rotateRight, Insn.cShr, Insn.cShl, if_pos h.2, if_pos hlt]
    exact DefinedShift.or_complement h.2 a

/-- In range, every shift on the way is defined. -/
theorem defined_eq {op : ShiftOp} (h : op.InRange amount) (a : U32) :
    op.defined a amount = some (op.shifted a amount.toNat) := by
  cases op with
  | slli => exact DefinedShift.shl_of_lt h a
  | srli => exact DefinedShift.shr_of_lt h a
  | srai => rw [defined_srai h 0, shiftRightSigned_eq h, shifted]
  | rori => exact DefinedShift.rotateRight_of_lt h.1 h.2 a

theorem isSome_defined_iff (op : ShiftOp) (a amount : U32) :
    (op.defined a amount).isSome ↔ op.InRange amount := by
  constructor
  · intro h
    cases op with
    | slli => exact (DefinedShift.isSome_shl_iff a amount).mp h
    | srli => exact (DefinedShift.isSome_shr_iff a amount).mp h
    | srai =>
      by_contra hge
      rw [defined, DefinedShift.shr_of_le (Nat.not_lt.mp hge)] at h
      exact Bool.false_ne_true h
    | rori => exact (DefinedShift.isSome_rotateRight_iff a amount).mp h
  · intro h
    rw [defined_eq h, Option.isSome_some]

end ShiftOp

/-! ### Instructions -/

/-- The shifts and rotates, by a register and by an immediate. -/
inductive ShiftInsn
  | sll
  | srl
  | sra
  | ror
  | slli
  | srli
  | srai
  | rori
  deriving DecidableEq, Repr

namespace ShiftInsn

def insn (undef : U32) : ShiftInsn → CPU → Control → CPU
  | sll => Insn.sll undef
  | srl => Insn.srl undef
  | sra => Insn.sra undef
  | ror => Insn.ror undef
  | slli => Insn.slli undef
  | srli => Insn.srli undef
  | srai => Insn.srai undef
  | rori => Insn.rori undef

/-- The operation of an instruction. -/
def op : ShiftInsn → ShiftOp
  | sll | slli => .slli
  | srl | srli => .srli
  | sra | srai => .srai
  | ror | rori => .rori

/-- The amount the simulator shifts by. -/
def amount (cpu : CPU) (cont : Control) : ShiftInsn → U32
  | sll | sra | ror => cpu.gpr cont.rB &&& 0x1f
  | srl => cpu.gpr cont.rB
  | slli | srli | srai | rori => cont.L

theorem insn_eq (i : ShiftInsn) (undef : U32) (cpu : CPU) (cont : Control) :
    i.insn undef cpu cont =
      cpuSetGpr cpu cont.rD (i.op.value undef (cpu.gpr cont.rA) (i.amount cpu cont)) := by
  cases i <;> rfl

end ShiftInsn

end WirePatch
