import WirePatch.Foundations.SignedField
import WirePatch.Simulator.SubWord

/-!
# Sign extension in the simulator

`sign_extend` (`simulator.c`, lines 160–200) sets the bits above a sign bit. For a value that fits
below its sign, it is the extension of a field in two's complement, so that a result of its callers
denotes the integer of the field: an immediate, a displacement counted in words, a part of a
register or of a loaded word, and a register shifted to the right.

## Main definitions

* `SignExtendCall`: the calls of `sign_extend`, with their arguments.
* `SignExtendPre`: its precondition.
* `SignExtendUses`: what the results of the callers denote.

## Main results

* `toInt_signExtend`: `sign_extend` under its precondition.
* `signExtendPre`: the calls meet the precondition.
* `signExtend_exact`: `sign_extend` and its callers.
-/

namespace WirePatch

/-- The precondition of `sign_extend`. -/
structure SignExtendPre (value : U32) (signBit : ℕ) : Prop where
  signBit_lt : signBit < 31
  value_lt : value.toNat < 2 ^ (signBit + 1)

/-- `sign_extend` is arithmetic sign extension. -/
theorem toInt_signExtend {value : U32} {signBit : ℕ} (h : SignExtendPre value signBit) :
    (signExtend value signBit).toInt = SignedField.value signBit value.toNat := by
  have hle : signBit + 1 ≤ 32 := Nat.succ_le_of_lt (h.signBit_lt.trans (by decide))
  rw [signExtend_eq h.signBit_lt h.value_lt, BitVec.toInt_signExtend_of_le hle,
    SignedField.toInt_eq_value, BitVec.toNat_setWidth, Nat.mod_eq_of_lt h.value_lt]

theorem signExtend_eq_ofInt {value : U32} {signBit : ℕ} (h : SignExtendPre value signBit) :
    signExtend value signBit = BitVec.ofInt 32 (SignedField.value signBit value.toNat) := by
  rw [← toInt_signExtend h, BitVec.ofInt_toInt]

/-! ### The calls -/

/-- The calls of `sign_extend`: in `exts`, `maci`, the branches and `calc_jump_target`, `exths`,
`extbs`, `lbs`, `srai` and `sra`. -/
inductive SignExtendCall
  | exts
  | maci
  | branch
  | exths
  | extbs
  | lbs
  | srai
  | sra
  deriving DecidableEq, Repr

namespace SignExtendCall

variable (cpu : CPU) (cont : Control) (ea word : U32)

/-- The first argument; `lbs` has loaded `word` for the address `ea`. -/
def value : SignExtendCall → U32
  | exts | maci => cont.I
  | branch => cont.N <<< 2
  | exths => cpu.gpr cont.rA &&& 0xffff
  | extbs => cpu.gpr cont.rA &&& 0xff
  | lbs => word >>> ((0x3 - (ea &&& 0x3)) * 8) &&& 0xff
  | srai => cpu.gpr cont.rA >>> cont.L
  | sra => cpu.gpr cont.rA >>> (cpu.gpr cont.rB &&& 0x1f)

/-- The second argument. -/
def signBit : SignExtendCall → ℕ
  | exts | maci | exths => 15
  | branch => 27
  | extbs | lbs => 7
  | srai => 31 - cont.L.toNat
  | sra => 31 - (cpu.gpr cont.rB &&& 0x1f).toNat

/-- The call is made: a shift by 0 extends nothing. -/
def Made : SignExtendCall → Prop
  | srai => cont.L > 0
  | sra => cpu.gpr cont.rB &&& 0x1f > 0
  | exts | maci | branch | exths | extbs | lbs => True

end SignExtendCall

/-- What the uses of `sign_extend` leave: integers of fields of the instruction word, of a register
or of a loaded word, modulo `2 ^ 32`, and quotients of a register, rounded down. -/
structure SignExtendUses (undef : U32) (cpu : CPU) (cont : Control) : Prop where
  exts : (WirePatch.exts cont.I).toInt = SignedField.value 15 cont.I.toNat
  calcEa : WirePatch.calcEa cpu cont =
    cpu.gpr cont.rA + BitVec.ofInt 32 (SignedField.value 15 cont.I.toNat)
  branchTarget : WirePatch.branchTarget cpu cont =
    cpu.pc + BitVec.ofInt 32 (4 * SignedField.value 25 cont.N.toNat)
  maci : Insn.maci cpu cont = cpuSetMac cpu (cpuGetMac cpu + calcMul (cpu.gpr cont.rA)
    (BitVec.ofInt 32 (SignedField.value 15 cont.I.toNat)))
  exths : Insn.exths cpu cont = cpuSetGpr cpu cont.rD
    (BitVec.ofInt 32 (SignedField.value 15 ((cpu.gpr cont.rA).toNat % 2 ^ 16)))
  extbs : Insn.extbs cpu cont = cpuSetGpr cpu cont.rD
    (BitVec.ofInt 32 (SignedField.value 7 ((cpu.gpr cont.rA).toNat % 2 ^ 8)))
  lbs (ea word : U32) : (Insn.lbsValue ea word).toInt =
    SignedField.value 7 (word.toNat / 2 ^ (8 * (3 - ea.toNat % 4)) % 2 ^ 8)
  srai : Insn.srai undef cpu cont = cpuSetGpr cpu cont.rD
    (BitVec.ofInt 32 ((cpu.gpr cont.rA).toInt / 2 ^ cont.L.toNat))
  sra : Insn.sra undef cpu cont = cpuSetGpr cpu cont.rD
    (BitVec.ofInt 32 ((cpu.gpr cont.rA).toInt / 2 ^ ((cpu.gpr cont.rB).toNat % 32)))

/-! ### Fields of an instruction word -/

theorem decode_I_lt (inst : U32) : (decode inst).I.toNat < 2 ^ 16 := by
  change (if _ then splitI inst else getBits inst 0 16).toNat < _
  split_ifs
  · rw [splitI_eq]
    exact toNat_setWidth_lt _
  · rw [getBits_eq _ _ (by decide)]
    exact toNat_setWidth_lt _

theorem decode_N_lt (inst : U32) : (decode inst).N.toNat < 2 ^ 26 := by
  change (getBits inst 0 26).toNat < _
  rw [getBits_eq _ _ (by decide)]
  exact toNat_setWidth_lt _

theorem decode_L_lt (inst : U32) : (decode inst).L < 32 := by
  change getBits inst 0 5 < _
  rw [getBits_eq _ _ (by decide)]
  exact toNat_setWidth_lt _

/-! ### Parts of a word -/

theorem toNat_and_ffff (x : U32) : (x &&& 0xffff).toNat = x.toNat % 2 ^ 16 :=
  BitMask.toNat_and_low 16 rfl x

theorem toNat_and_ff (x : U32) : (x &&& 0xff).toNat = x.toNat % 2 ^ 8 :=
  BitMask.toNat_and_low 8 rfl x

theorem toNat_and_1f (x : U32) : (x &&& 0x1f).toNat = x.toNat % 32 :=
  BitMask.toNat_and_low 5 rfl x

theorem toNat_displacement {N : U32} (h : N.toNat < 2 ^ 26) :
    (N <<< 2).toNat = N.toNat * 2 ^ 2 := by
  rw [BitVec.toNat_shiftLeft, Nat.shiftLeft_eq]
  omega

section Shifted

variable {a s : U32}

theorem toNat_ushiftRight (a s : U32) : (a >>> s).toNat = a.toNat / 2 ^ s.toNat := by
  rw [BitVec.ushiftRight_eq', BitVec.toNat_ushiftRight, Nat.shiftRight_eq_div_pow]

/-- A word shifted to the right by a positive amount fits below the place of its sign. -/
theorem signExtendPre_ushiftRight (hpos : s > 0) (hlt : s < 32) :
    SignExtendPre (a >>> s) (31 - s.toNat) := by
  have hs : 0 < s.toNat := hpos
  have hs' : s.toNat < 32 := hlt
  refine ⟨by omega, ?_⟩
  rw [toNat_ushiftRight]
  refine Nat.div_lt_of_lt_mul ?_
  rw [← pow_add, show s.toNat + (31 - s.toNat + 1) = 32 by omega]
  exact a.isLt

/-- The value of `srai` and `sra` is the quotient of the register, rounded down. -/
theorem toInt_shiftRightSigned (undef a : U32) (hlt : s < 32) :
    (Insn.shiftRightSigned undef a s).toInt = a.toInt / 2 ^ s.toNat := by
  have hs : s.toNat < 32 := hlt
  simp only [Insn.shiftRightSigned, Insn.cShr, if_pos hlt]
  split_ifs with hpos
  · rw [toInt_signExtend (signExtendPre_ushiftRight hpos hlt), toNat_ushiftRight,
      SignedField.value_div_two_pow, Nat.sub_add_cancel (by omega), ← SignedField.toInt_eq_value]
  · obtain rfl : s = 0 := BitVec.eq_of_toNat_eq (Nat.eq_zero_of_not_pos hpos)
    exact (Int.ediv_one a.toInt).symm

end Shifted

/-! ### The callers -/

section Callers

variable (cpu : CPU) (inst ea word : U32)

theorem signExtendPre_exts : SignExtendPre (decode inst).I 15 :=
  ⟨by decide, decode_I_lt inst⟩

theorem signExtendPre_branch : SignExtendPre ((decode inst).N <<< 2) 27 := by
  have hN := decode_N_lt inst
  refine ⟨by decide, ?_⟩
  rw [toNat_displacement hN]
  omega

theorem signExtendPre_half (x : U32) : SignExtendPre (x &&& 0xffff) 15 :=
  ⟨by decide, toNat_and_ffff x ▸ Nat.mod_lt _ (by decide)⟩

theorem signExtendPre_byte (x : U32) : SignExtendPre (x &&& 0xff) 7 :=
  ⟨by decide, toNat_and_ff x ▸ Nat.mod_lt _ (by decide)⟩

theorem and_1f_lt (x : U32) : x &&& 0x1f < 32 := by
  rw [BitVec.lt_def, toNat_and_1f]
  exact Nat.mod_lt _ (by decide)

/-- Every call of `sign_extend` that is made meets the precondition. -/
theorem signExtendPre {call : SignExtendCall} (h : call.Made cpu (decode inst)) :
    SignExtendPre (call.value cpu (decode inst) ea word) (call.signBit cpu (decode inst)) := by
  cases call with
  | exts => exact signExtendPre_exts inst
  | maci => exact signExtendPre_exts inst
  | branch => exact signExtendPre_branch inst
  | exths => exact signExtendPre_half _
  | extbs => exact signExtendPre_byte _
  | lbs => exact signExtendPre_byte _
  | srai => exact signExtendPre_ushiftRight h (decode_L_lt inst)
  | sra => exact signExtendPre_ushiftRight h (and_1f_lt _)

theorem signExtendUses (undef : U32) : SignExtendUses undef cpu (decode inst) where
  exts := toInt_signExtend (signExtendPre_exts inst)
  calcEa := by
    rw [calcEa, exts, signExtend_eq_ofInt (signExtendPre_exts inst), BitVec.add_comm]
  branchTarget := by
    rw [branchTarget, signExtend_eq_ofInt (signExtendPre_branch inst),
      toNat_displacement (decode_N_lt inst)]
    exact congrArg (fun z => cpu.pc + BitVec.ofInt 32 z) (SignedField.value_mul_two_pow 25 2 _)
  maci := by rw [Insn.maci, signExtend_eq_ofInt (signExtendPre_exts inst)]
  exths := by rw [Insn.exths, signExtend_eq_ofInt (signExtendPre_half _), toNat_and_ffff]
  extbs := by rw [Insn.extbs, signExtend_eq_ofInt (signExtendPre_byte _), toNat_and_ff]
  lbs ea word := by
    have hshift : ((0x3 - (ea &&& 0x3)) * 8).toNat = 8 * (3 - ea.toNat % 4) := by
      have hlow := low_toNat ea
      rw [byteShift_toNat]
      omega
    rw [Insn.lbsValue, toInt_signExtend (signExtendPre_byte _), toNat_and_ff, toNat_ushiftRight,
      hshift]
  srai := by
    rw [Insn.srai, ← toInt_shiftRightSigned undef _ (decode_L_lt inst), BitVec.ofInt_toInt]
  sra := by
    rw [Insn.sra, ← toNat_and_1f, ← toInt_shiftRightSigned undef _ (and_1f_lt _),
      BitVec.ofInt_toInt]

end Callers

/-- Below a sign bit of place 30 or less, `sign_extend` returns a value whose sign bit is clear and
subtracts twice the weight of the sign bit from any other one. Its callers keep to such arguments
for all instruction words and registers, and what they compute is exact. -/
theorem signExtend_exact :
    (∀ (signBit : ℕ) (value : U32), signBit < 31 → value.toNat < 2 ^ (signBit + 1) →
        (signExtend value signBit).toInt =
          if value.getLsbD signBit then (value.toNat : ℤ) - 2 ^ (signBit + 1) else value.toNat) ∧
      ∀ (undef : U32) (cpu : CPU) (inst : U32),
        (∀ (call : SignExtendCall) (ea word : U32), call.Made cpu (decode inst) →
          SignExtendPre (call.value cpu (decode inst) ea word) (call.signBit cpu (decode inst))) ∧
        SignExtendUses undef cpu (decode inst) :=
  ⟨fun _ _ hbit hvalue => toInt_signExtend ⟨hbit, hvalue⟩,
    fun undef cpu inst => ⟨fun _ ea word h => signExtendPre cpu inst ea word h,
      signExtendUses cpu inst undef⟩⟩

theorem signExtend_exact_half : (signExtend 0x8000 15).toInt = 0x8000 - 2 ^ (15 + 1) :=
  signExtend_exact.1 15 0x8000 (by decide) (by decide)

end WirePatch
