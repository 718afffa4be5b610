import WirePatch.Simulator.Instruction

/-!
# Decoding of encoded instructions

Decoding and dispatching the word of an instruction performs the operation of the instruction on its
operands, and on nothing else of the word. Its immediate is the one the decoder of the processor
forms.

## Main definitions

* `Instruction.Decodes`: the word of an instruction is dispatched to its effect.

## Main results

* `execute_encode`: the word of an instruction is executed as the instruction.
-/

namespace WirePatch

/-! ### Fields of a word -/

section Forms

variable (op : BitVec 6) (d a b : BitVec 5) (low : BitVec 11) (on : BitVec 1) (imm : BitVec 16)
  (n : BitVec 26)

theorem op_formN : (formN op n).extractLsb' 26 6 = op := BitVec.extractLsb'_append_eq_left

theorem n_formN : (formN op n).extractLsb' 0 26 = n := BitVec.extractLsb'_append_eq_right

theorem op_formI : (formI op d a imm).extractLsb' 26 6 = op := by
  rw [formI, BitVec.extractLsb'_append_eq_of_le (by decide),
    BitVec.extractLsb'_append_eq_of_le (by decide), BitVec.extractLsb'_append_eq_left]

theorem d_formI : (formI op d a imm).extractLsb' 21 5 = d := by
  rw [formI, BitVec.extractLsb'_append_eq_of_le (by decide),
    BitVec.extractLsb'_append_eq_of_le (by decide), BitVec.extractLsb'_append_eq_right]

theorem a_formI : (formI op d a imm).extractLsb' 16 5 = a := by
  rw [formI, BitVec.extractLsb'_append_eq_of_le (by decide), BitVec.extractLsb'_append_eq_right]

theorem imm_formI : (formI op d a imm).extractLsb' 0 16 = imm :=
  BitVec.extractLsb'_append_eq_right

/-- The part of the immediate a sub-opcode is in. -/
theorem part_formI {start len : ℕ} (h : start + len ≤ 16) :
    (formI op d a imm).extractLsb' start len = imm.extractLsb' start len :=
  BitVec.extractLsb'_append_eq_of_add_le h

theorem high_formI : (formI op d a imm).extractLsb' 16 16 = op ++ d ++ a :=
  BitVec.extractLsb'_append_eq_left

theorem op_formR : (formR op d a b low).extractLsb' 26 6 = op := by
  rw [formR, BitVec.extractLsb'_append_eq_of_le (by decide),
    BitVec.extractLsb'_append_eq_of_le (by decide), BitVec.extractLsb'_append_eq_of_le (by decide),
    BitVec.extractLsb'_append_eq_left]

theorem d_formR : (formR op d a b low).extractLsb' 21 5 = d := by
  rw [formR, BitVec.extractLsb'_append_eq_of_le (by decide),
    BitVec.extractLsb'_append_eq_of_le (by decide), BitVec.extractLsb'_append_eq_of_le (by decide),
    BitVec.extractLsb'_append_eq_right]

theorem a_formR : (formR op d a b low).extractLsb' 16 5 = a := by
  rw [formR, BitVec.extractLsb'_append_eq_of_le (by decide),
    BitVec.extractLsb'_append_eq_of_le (by decide), BitVec.extractLsb'_append_eq_right]

theorem b_formR : (formR op d a b low).extractLsb' 11 5 = b := by
  rw [formR, BitVec.extractLsb'_append_eq_of_le (by decide), BitVec.extractLsb'_append_eq_right]

theorem low_formR : (formR op d a b low).extractLsb' 0 11 = low :=
  BitVec.extractLsb'_append_eq_right

/-- The part of the low bits a sub-opcode is in. -/
theorem code_formR {len : ℕ} (h : 0 + len ≤ 11) :
    (formR op d a b low).extractLsb' 0 len = low.extractLsb' 0 len :=
  BitVec.extractLsb'_append_eq_of_add_le h

theorem split_formS : (formS op a b imm).extractLsb' 21 5 ++ (formS op a b imm).extractLsb' 0 11 =
    imm := by
  rw [formS, d_formR, low_formR]
  exact BitVec.extractLsb'_append_extractLsb' (w := 5)

theorem op_formS : (formS op a b imm).extractLsb' 26 6 = op := op_formR ..

theorem a_formS : (formS op a b imm).extractLsb' 16 5 = a := a_formR ..

theorem b_formS : (formS op a b imm).extractLsb' 11 5 = b := b_formR ..

theorem op_formM : (formM op d on imm).extractLsb' 26 6 = op := by
  rw [formM, BitVec.extractLsb'_append_eq_of_le (by decide),
    BitVec.extractLsb'_append_eq_of_le (by decide), BitVec.extractLsb'_append_eq_left]

theorem d_formM : (formM op d on imm).extractLsb' 21 5 = d := by
  rw [formM, BitVec.extractLsb'_append_eq_of_le (by decide),
    BitVec.extractLsb'_append_eq_of_le (by decide), BitVec.extractLsb'_append_eq_right]

theorem imm_formM : (formM op d on imm).extractLsb' 0 16 = imm := by
  rw [formM, BitVec.extractLsb'_append_eq_of_add_le (by decide), BitVec.extractLsb'_append_eq_right]

theorem low_formM : (formM op d on imm).extractLsb' 0 17 = on ++ imm :=
  BitVec.extractLsb'_append_eq_right

end Forms

/-! ### Extensions -/

/-- The extension of an extended word. -/
theorem signExtend_signExtend (value : U32) (signBit : ℕ) :
    signExtend (signExtend value signBit) signBit = signExtend value signBit := by
  have hset (x : U32) : (x ||| 0xffffffff#32 <<< signBit) ||| 0xffffffff#32 <<< signBit =
      x ||| 0xffffffff#32 <<< signBit := by
    rw [BitVec.or_assoc, BitVec.or_self]
  rw [signExtend, signExtend]
  split_ifs
  · exact hset value
  · rfl
  · rfl

theorem exts_setWidth (I : BitVec 16) : exts (I.setWidth 32) = I.signExtend 32 := by
  rw [exts, signExtend_eq (by decide), BitVec.setWidth_setWidth_of_le _ (by decide),
    BitVec.setWidth_eq]
  exact toNat_setWidth_lt I

theorem exts_signExtend (I : BitVec 16) : exts (I.signExtend 32) = I.signExtend 32 := by
  rw [← exts_setWidth]
  exact signExtend_signExtend _ 15

theorem signExtend_displacement (N : BitVec 26) :
    signExtend (N.setWidth 32 <<< 2) 27 = N.signExtend 32 <<< 2 := by
  have hlt : (N.setWidth 32 <<< 2).toNat < 2 ^ 28 := by
    have hN := N.isLt
    rw [BitVec.toNat_shiftLeft, BitVec.toNat_setWidth, Nat.shiftLeft_eq]
    omega
  rw [signExtend_eq (by decide) hlt]
  refine BitVec.eq_of_getLsbD_eq fun i hi => ?_
  rw [BitVec.getLsbD_signExtend, BitVec.msb_eq_getLsbD_last, BitVec.getLsbD_shiftLeft,
    BitVec.getLsbD_signExtend]
  simp only [BitVec.getLsbD_setWidth, BitVec.getLsbD_shiftLeft, BitVec.msb_eq_getLsbD_last]
  by_cases hlow : i < 2
  · simp [hi, hlow, show i < 27 + 1 by omega]
  · by_cases hhigh : i < 28
    · simp [hi, hlow, show i - 2 < 26 by omega, show i - 2 < 32 by omega, hhigh]
    · simp [hi, hlow, show ¬ i - 2 < 26 by omega, show i - 2 < 32 by omega, hhigh]

/-- A test of the low bits reads a field. -/
theorem low_eq {inst : U32} {k : ℕ} {v : BitVec k} (hk : k < 32)
    (h : inst.extractLsb' 0 k = v) : inst &&& (1#32 <<< k - 1) = v.setWidth 32 := by
  rw [← h, ← getBits_eq inst 0 hk, getBits, BitVec.ushiftRight_zero]

/-- A test of the high half reads a field. -/
theorem high_eq {inst : U32} {v : BitVec 16} (h : inst.extractLsb' 16 16 = v) :
    inst &&& 0xffff0000#32 = v.setWidth 32 <<< 16 := by
  have hmask : 0xffff0000#32 = BitMask.field 32 16 16 := by decide
  rw [hmask]
  exact (BitMask.and_field_eq_iff 16 (by decide) inst v).mpr h

/-! ### Decoded fields -/

theorem isStore_opcode (op : BitVec 6) :
    (op.setWidth 32 = opSw ∨ op.setWidth 32 = opSh ∨ op.setWidth 32 = opSb) ↔
      op ∈ Or1200.storeOps := by
  revert op
  decide

theorem MemOp.or32_mem_storeOps_iff (op : MemOp) : op.or32 ∈ Or1200.storeOps ↔ op.isStore := by
  cases op <;> decide

theorem isMtspr_opcode (op : BitVec 6) : op.setWidth 32 = opMtspr ↔ op = Or1200.Or32.mtspr := by
  revert op
  decide

section Decode

variable {inst : U32} {r : Reg} {op : BitVec 6} {imm : BitVec 16}

theorem decode_rD (h : inst.extractLsb' 21 5 = .ofFin r) : (decode inst).rD = r :=
  (regField_eq inst 21).trans (congrArg BitVec.toFin h)

theorem decode_rA (h : inst.extractLsb' 16 5 = .ofFin r) : (decode inst).rA = r :=
  (regField_eq inst 16).trans (congrArg BitVec.toFin h)

theorem decode_rB (h : inst.extractLsb' 11 5 = .ofFin r) : (decode inst).rB = r :=
  (regField_eq inst 11).trans (congrArg BitVec.toFin h)

theorem decode_N {n : BitVec 26} (h : inst.extractLsb' 0 26 = n) :
    (decode inst).N = n.setWidth 32 := by
  rw [← h]
  exact getBits_eq inst 0 (by decide)

theorem decode_L {l : BitVec 5} (h : inst.extractLsb' 0 5 = l) :
    (decode inst).L = l.setWidth 32 := by
  rw [← h]
  exact getBits_eq inst 0 (by decide)

theorem decode_sfOp {code : BitVec 5} (h : inst.extractLsb' 21 5 = code) :
    (decode inst).sfOp = code.setWidth 32 := by
  rw [← h]
  exact getBits_eq inst 21 (by decide)

theorem decode_roShiftIOp {code : BitVec 2} (h : inst.extractLsb' 6 2 = code) :
    (decode inst).roShiftIOp = code.setWidth 32 := by
  rw [← h]
  exact getBits_eq inst 6 (by decide)

/-- The contiguous immediate. -/
theorem decode_I (hop : inst.extractLsb' 26 6 ∉ Or1200.storeOps)
    (h : inst.extractLsb' 0 16 = imm) : (decode inst).I = imm.setWidth 32 := by
  have hstore : ¬ (opcode inst = opSw ∨ opcode inst = opSh ∨ opcode inst = opSb) := by
    rw [opcode_eq, isStore_opcode]
    exact hop
  calc (decode inst).I = getBits inst 0 16 := if_neg hstore
    _ = imm.setWidth 32 := by rw [getBits_eq _ _ (by decide), h]

/-- The immediate of a store. -/
theorem decode_splitI (hop : inst.extractLsb' 26 6 ∈ Or1200.storeOps)
    (h : inst.extractLsb' 21 5 ++ inst.extractLsb' 0 11 = imm) :
    (decode inst).I = imm.setWidth 32 := by
  have hstore : opcode inst = opSw ∨ opcode inst = opSh ∨ opcode inst = opSb := by
    rw [opcode_eq, isStore_opcode]
    exact hop
  calc (decode inst).I = splitI inst := if_pos hstore
    _ = imm.setWidth 32 := by rw [splitI_eq, h]

theorem decode_K (hop : inst.extractLsb' 26 6 ≠ Or1200.Or32.mtspr)
    (h : inst.extractLsb' 0 16 = imm) : (decode inst).K = imm.setWidth 32 := by
  have hmtspr : opcode inst ≠ opMtspr := by
    rw [opcode_eq, ne_eq, isMtspr_opcode]
    exact hop
  calc (decode inst).K = getBits inst 0 16 := if_neg hmtspr
    _ = imm.setWidth 32 := by rw [getBits_eq _ _ (by decide), h]

/-- The immediate of `l.mtspr`. -/
theorem decode_splitK (hop : inst.extractLsb' 26 6 = Or1200.Or32.mtspr)
    (h : inst.extractLsb' 21 5 ++ inst.extractLsb' 0 11 = imm) :
    (decode inst).K = imm.setWidth 32 := by
  have hmtspr : opcode inst = opMtspr := by
    rw [opcode_eq, isMtspr_opcode]
    exact hop
  calc (decode inst).K = splitI inst := if_pos hmtspr
    _ = imm.setWidth 32 := by rw [splitI_eq, h]

end Decode

/-! ### Dispatch -/

section Dispatch

variable (m : Machine) {inst : U32} {cont : Control}

theorem BranchOp.dispatch_opcode (op : BranchOp) :
    dispatch (op.opcode.setWidth 32) m cont =
      some (m.setCpu (op.perform m.cpu (branchTarget m.cpu cont))) := by
  cases op with
  | j => rfl
  | jal => rfl
  | bf => rfl
  | bnf =>
    have hbnf : Insn.bnf m.cpu cont = bnf.perform m.cpu (branchTarget m.cpu cont) := by
      rw [Insn.bnf, perform]
      cases cpuIsSetSrFlag m.cpu sprSrF <;> rfl
    exact congrArg (fun cpu => some (m.setCpu cpu)) hbnf

theorem JumpOp.dispatch_opcode (op : JumpOp) :
    dispatch (op.opcode.setWidth 32) m cont =
      some (m.setCpu (op.insn m.cpu (.ofOperands 0 0 cont.rB 0))) := by
  cases op <;> rfl

theorem ImmediateOp.dispatch_opcode (op : ImmediateOp) {I : BitVec 16}
    (hI : cont.I = I.setWidth 32) (hK : cont.K = I.setWidth 32) :
    dispatch (op.opcode.setWidth 32) m cont =
      some (m.setCpu (op.perform m.cpu cont.rD (m.cpu.gpr cont.rA) (op.extend I))) := by
  have hexts : exts cont.I = I.signExtend 32 := by
    rw [hI, exts_setWidth]
  cases op with
  | addi | addic | muli | xori => rw [extend, ← hexts]; rfl
  | andi | ori => rw [extend, ← hK]; rfl

/-- The sub-opcode that `decode` leaves of the low bits of a word. -/
theorem decode_aluOp {code : BitVec 10} (h : inst.extractLsb' 0 10 = code) :
    (decode inst).aluOp = if aluShift (code.setWidth 32) then code.setWidth 32 &&& ~~~0x30
      else code.setWidth 32 &&& ~~~0xf0 := by
  have hcode : aluOp inst = code.setWidth 32 := by
    rw [aluOp, getBits_eq _ _ (by decide), h]
  rw [← hcode, aluShift_aluOp]
  rfl

theorem RegisterOp.dispatch_code (op : RegisterOp) (h : inst.extractLsb' 0 10 = op.code) :
    dispatch (Or1200.Or32.alu.setWidth 32) m (decode inst) =
      some (m.setCpu (op.insn m.junk m.cpu
        (.ofOperands (decode inst).rD (decode inst).rA (decode inst).rB 0))) := by
  have halu : alu m.junk m.cpu (decode inst) = some (op.insn m.junk m.cpu
      (.ofOperands (decode inst).rD (decode inst).rA (decode inst).rB 0)) := by
    rw [alu, decode_aluOp h]
    cases op <;> rfl
  exact congrArg (Option.map m.setCpu) halu

theorem ShiftOp.dispatch_code (op : ShiftOp) (h : cont.roShiftIOp = op.code.setWidth 32) :
    dispatch (Or1200.Or32.shRoti.setWidth 32) m cont = some (m.setCpu
      (cpuSetGpr m.cpu cont.rD (op.value (m.junk 0) (m.cpu.gpr cont.rA) cont.L))) := by
  have hshift : roShiftI m.junk m.cpu cont =
      some (cpuSetGpr m.cpu cont.rD (op.value (m.junk 0) (m.cpu.gpr cont.rA) cont.L)) := by
    rw [roShiftI, h]
    cases op <;> rfl
  exact congrArg (Option.map m.setCpu) hshift

theorem CompareOp.dispatch_code (op : CompareOp) (h : cont.sfOp = op.code.setWidth 32) :
    dispatch (Or1200.Or32.sfxx.setWidth 32) m cont =
      some (m.setCpu (Insn.setFlag op.rel m.cpu cont)) := by
  have hsf : sf m.cpu cont = some (Insn.setFlag op.rel m.cpu cont) := by
    rw [sf, h]
    cases op <;> rfl
  exact congrArg (Option.map m.setCpu) hsf

theorem CompareOp.dispatch_codeI (op : CompareOp) (h : cont.sfOp = op.code.setWidth 32) :
    dispatch (Or1200.Or32.sfxxi.setWidth 32) m cont =
      some (m.setCpu (Insn.setFlagI op.rel m.cpu cont)) := by
  have hsfi : sfi m.cpu cont = some (Insn.setFlagI op.rel m.cpu cont) := by
    rw [sfi, h]
    cases op <;> rfl
  exact congrArg (Option.map m.setCpu) hsfi

theorem MacOp.dispatch_code (op : MacOp) (h : cont.inst &&& 0xf = op.code.setWidth 32) :
    dispatch (Or1200.Or32.macmsb.setWidth 32) m cont =
      some (m.setCpu (op.insn m.cpu (.ofOperands 0 cont.rA cont.rB 0))) := by
  have hmac : macMsb m.cpu cont = some (op.insn m.cpu (.ofOperands 0 cont.rA cont.rB 0)) := by
    rw [macMsb, h]
    cases op <;> rfl
  exact congrArg (Option.map m.setCpu) hmac

theorem MemOp.dispatch_or32 (op : MemOp) :
    dispatch (op.or32.setWidth 32) m cont = some (op.exec m cont) := by
  cases op <;> rfl

/-- An access reads the register it loads or the one it stores, and its address. -/
theorem MemOp.exec_congr (op : MemOp) {c c' : Control}
    (hreg : if op.isStore then c.rB = c'.rB else c.rD = c'.rD)
    (hea : calcEa m.cpu c = calcEa m.cpu c') : op.exec m c = op.exec m c' := by
  cases op <;> simp only [isStore, Bool.false_eq_true, if_true, if_false] at hreg <;>
    simp only [exec, Insn.lwz, Insn.lhz, Insn.lhs, Insn.lbz, Insn.lbs, Insn.loadByteOf,
      Insn.loadHalfOf, Insn.sw, Insn.sb, Insn.sh, hreg, hea]

end Dispatch

namespace Instruction

/-- The word of an instruction is dispatched to its effect. -/
def Decodes (i : Instruction) : Prop :=
  ∀ m : Machine, dispatch (opcode i.encode) m (decode i.encode) = some (i.perform m)

theorem decodes_branch (op : BranchOp) (N : BitVec 26) : (branch op N).Decodes := by
  intro m
  rw [encode, opcode_eq, op_formN, op.dispatch_opcode, branchTarget, decode_N (n_formN ..),
    signExtend_displacement]
  rfl

theorem decodes_jump (op : JumpOp) (rB : Reg) : (jump op rB).Decodes := by
  intro m
  rw [encode, opcode_eq, op_formR, op.dispatch_opcode, decode_rB (b_formR ..)]
  rfl

theorem decodes_immediate (op : ImmediateOp) (rD rA : Reg) (I : BitVec 16) :
    (immediate op rD rA I).Decodes := by
  intro m
  have hstore : op.opcode ∉ Or1200.storeOps := by cases op <;> decide
  have hmtspr : op.opcode ≠ Or1200.Or32.mtspr := by cases op <;> decide
  have hI := decode_I (op_formI op.opcode (.ofFin rD) (.ofFin rA) I ▸ hstore) (imm_formI ..)
  have hK := decode_K (op_formI op.opcode (.ofFin rD) (.ofFin rA) I ▸ hmtspr) (imm_formI ..)
  rw [encode, opcode_eq, op_formI, op.dispatch_opcode m hI hK, decode_rD (d_formI ..),
    decode_rA (a_formI ..)]
  rfl

theorem decodes_register (op : RegisterOp) (rD rA rB : Reg) : (register op rD rA rB).Decodes := by
  intro m
  have hcode : (0#1 ++ op.code).extractLsb' 0 10 = op.code := BitVec.extractLsb'_append_eq_right
  rw [encode, opcode_eq, op_formR,
    op.dispatch_code m ((code_formR _ _ _ _ _ (by decide)).trans hcode), decode_rD (d_formR ..),
    decode_rA (a_formR ..), decode_rB (b_formR ..)]
  rfl

theorem decodes_shift (op : ShiftOp) (rD rA : Reg) (L : BitVec 6) : (shift op rD rA L).Decodes := by
  intro m
  have hcode : (0#8 ++ op.code ++ L).extractLsb' 6 2 = op.code := by
    rw [BitVec.extractLsb'_append_eq_of_le (by decide), BitVec.extractLsb'_append_eq_right]
  have hL : (0#8 ++ op.code ++ L).extractLsb' 0 5 = L.extractLsb' 0 5 :=
    BitVec.extractLsb'_append_eq_of_add_le (by decide)
  rw [encode, opcode_eq, op_formI,
    op.dispatch_code m (decode_roShiftIOp ((part_formI _ _ _ _ (by decide)).trans hcode)),
    decode_rD (d_formI ..), decode_rA (a_formI ..),
    decode_L ((part_formI _ _ _ _ (by decide)).trans hL)]
  rfl

theorem decodes_compare (op : CompareOp) (rA rB : Reg) : (compare op rA rB).Decodes := by
  intro m
  rw [encode, opcode_eq, op_formR, op.dispatch_code m (decode_sfOp (d_formR ..)), Insn.setFlag,
    decode_rA (a_formR ..), decode_rB (b_formR ..)]
  rfl

theorem decodes_compareI (op : CompareOp) (rA : Reg) (I : BitVec 16) :
    (compareI op rA I).Decodes := by
  intro m
  have hstore : Or1200.Or32.sfxxi ∉ Or1200.storeOps := by decide
  rw [encode, opcode_eq, op_formI, op.dispatch_codeI m (decode_sfOp (d_formI ..)), Insn.setFlagI,
    decode_I (op_formI .. ▸ hstore) (imm_formI ..), exts_setWidth, decode_rA (a_formI ..)]
  rfl

theorem decodes_access (op : MemOp) (reg rA : Reg) (I : BitVec 16) :
    (access op reg rA I).Decodes := by
  intro m
  have hexts : exts (I.setWidth 32) = exts (I.signExtend 32) := by
    rw [exts_setWidth, exts_signExtend]
  rw [encode]
  cases h : op.isStore with
  | true =>
    have hstore := op.or32_mem_storeOps_iff.mpr h
    rw [if_pos rfl, opcode_eq, op_formS, op.dispatch_or32]
    refine congrArg some (op.exec_congr m ?_ ?_)
    · rw [h, if_pos rfl]
      exact decode_rB (b_formS ..)
    · rw [calcEa, decode_splitI (op_formS .. ▸ hstore) (split_formS ..), hexts,
        decode_rA (a_formS ..)]
      rfl
  | false =>
    have hstore := mt op.or32_mem_storeOps_iff.mp (Bool.not_eq_true _ ▸ h)
    rw [if_neg Bool.false_ne_true, opcode_eq, op_formI, op.dispatch_or32]
    refine congrArg some (op.exec_congr m ?_ ?_)
    · rw [h, if_neg Bool.false_ne_true]
      exact decode_rD (d_formI ..)
    · rw [calcEa, decode_I (op_formI .. ▸ hstore) (imm_formI ..), hexts, decode_rA (a_formI ..)]
      rfl

theorem decodes_mtspr (rA rB : Reg) (K : BitVec 16) : (mtspr rA rB K).Decodes := by
  intro m
  have hinsn (cont : Control) : dispatch (Or1200.Or32.mtspr.setWidth 32) m cont =
      some (cpuSetSpr m (m.cpu.gpr cont.rA ||| cont.K) (m.cpu.gpr cont.rB)) := rfl
  rw [encode, opcode_eq, op_formS, hinsn, decode_splitK (op_formS ..) (split_formS ..),
    decode_rA (a_formS ..), decode_rB (b_formS ..)]
  rfl

theorem decodes_mfspr (rD rA : Reg) (K : BitVec 16) : (mfspr rD rA K).Decodes := by
  intro m
  have hmtspr : Or1200.Or32.mfspr ≠ Or1200.Or32.mtspr := by decide
  have hinsn (cont : Control) : dispatch (Or1200.Or32.mfspr.setWidth 32) m cont = some (m.setCpu
      (cpuSetGpr m.cpu cont.rD (cpuGetSpr m (m.cpu.gpr cont.rA ||| cont.K)))) := rfl
  rw [encode, opcode_eq, op_formI, hinsn, decode_K (op_formI .. ▸ hmtspr) (imm_formI ..),
    decode_rD (d_formI ..), decode_rA (a_formI ..)]
  rfl

theorem decodes_mac (op : MacOp) (rA rB : Reg) : (mac op rA rB).Decodes := by
  intro m
  have hcode : (0#7 ++ op.code).extractLsb' 0 4 = op.code := BitVec.extractLsb'_append_eq_right
  have hlow := low_eq (k := 4) (by decide)
    ((code_formR Or1200.Or32.macmsb 0 (.ofFin rA) (.ofFin rB) (0#7 ++ op.code) (by decide)).trans
      hcode)
  rw [encode, opcode_eq, op_formR, op.dispatch_code m hlow, decode_rA (a_formR ..),
    decode_rB (b_formR ..)]
  rfl

theorem decodes_maci (rA : Reg) (I : BitVec 16) : (maci rA I).Decodes := by
  intro m
  have hstore : Or1200.Or32.maci ∉ Or1200.storeOps := by decide
  have hinsn (cont : Control) : dispatch (Or1200.Or32.maci.setWidth 32) m cont =
      some (m.setCpu (cpuSetMac m.cpu
        (cpuGetMac m.cpu + calcMul (m.cpu.gpr cont.rA) (exts cont.I)))) := rfl
  rw [encode, opcode_eq, op_formI, hinsn, decode_I (op_formI .. ▸ hstore) (imm_formI ..),
    exts_setWidth, decode_rA (a_formI ..)]
  rfl

theorem decodes_movhi (rD : Reg) (K : BitVec 16) : (movhi rD K).Decodes := by
  intro m
  have hmtspr : Or1200.Or32.movhi ≠ Or1200.Or32.mtspr := by decide
  have hlow := low_eq (by decide) (low_formM Or1200.Or32.movhi (.ofFin rD) 0 K)
  have hinsn : Insn.macrcMovhi m.cpu (decode (movhi rD K).encode) =
      Insn.movhi m.cpu (decode (movhi rD K).encode) := by
    refine if_neg fun h => ?_
    have hbit := congrArg (fun x => x.getLsbD 16) (hlow.symm.trans h)
    simp only [BitVec.getLsbD_setWidth, BitVec.getLsbD_append] at hbit
    simp at hbit
  rw [encode, opcode_eq, op_formM]
  refine congrArg (fun cpu => some (m.setCpu cpu)) (hinsn.trans ?_)
  rw [Insn.movhi, encode, decode_K (op_formM .. ▸ hmtspr) (imm_formM ..), decode_rD (d_formM ..)]
  rfl

theorem decodes_macrc (rD : Reg) : (macrc rD).Decodes := by
  intro m
  have hlow := low_eq (by decide) (low_formM Or1200.Or32.macrc (.ofFin rD) 1 0)
  have hinsn : Insn.macrcMovhi m.cpu (decode (macrc rD).encode) =
      Insn.macrc m.cpu (decode (macrc rD).encode) := if_pos hlow
  rw [encode, opcode_eq, op_formM]
  refine congrArg (fun cpu => some (m.setCpu cpu)) (hinsn.trans ?_)
  rw [Insn.macrc, encode, decode_rD (d_formM ..)]
  rfl

theorem decodes_nop (K : BitVec 16) : (nop K).Decodes := by
  intro m
  rw [encode, opcode_eq, op_formI]
  rfl

theorem decodes_sys (K : BitVec 16) : (sys K).Decodes := by
  intro m
  have hhigh : (sys K).encode &&& 0xffff0000#32 = 0x20000000#32 :=
    (high_eq (high_formI Or1200.Or32.xsync 0 0 K)).trans (by decide)
  have hinsn : Insn.sysTrapSync m.cpu (decode (sys K).encode) = some (WirePatch.sys m.cpu) :=
    if_pos hhigh
  rw [encode, opcode_eq, op_formI]
  exact congrArg (Option.map m.setCpu) hinsn

theorem decodes_trap (K : BitVec 16) : (trap K).Decodes := by
  intro m
  have hhigh : (trap K).encode &&& 0xffff0000#32 = 0x21000000#32 :=
    (high_eq (high_formI Or1200.Or32.xsync 8 0 K)).trans (by decide)
  have hsys : (trap K).encode &&& 0xffff0000#32 ≠ 0x20000000#32 := by
    rw [hhigh]
    decide
  have hinsn : Insn.sysTrapSync m.cpu (decode (trap K).encode) = some (WirePatch.trap m.cpu) :=
    (if_neg hsys).trans (if_pos hhigh)
  rw [encode, opcode_eq, op_formI]
  exact congrArg (Option.map m.setCpu) hinsn

theorem decodes_rfe : rfe.Decodes := fun _ => rfl

theorem decodes (i : Instruction) : i.Decodes := by
  cases i with
  | branch op N => exact decodes_branch op N
  | jump op rB => exact decodes_jump op rB
  | immediate op rD rA I => exact decodes_immediate op rD rA I
  | register op rD rA rB => exact decodes_register op rD rA rB
  | shift op rD rA L => exact decodes_shift op rD rA L
  | compare op rA rB => exact decodes_compare op rA rB
  | compareI op rA I => exact decodes_compareI op rA I
  | access op reg rA I => exact decodes_access op reg rA I
  | mtspr rA rB K => exact decodes_mtspr rA rB K
  | mfspr rD rA K => exact decodes_mfspr rD rA K
  | mac op rA rB => exact decodes_mac op rA rB
  | maci rA I => exact decodes_maci rA I
  | movhi rD K => exact decodes_movhi rD K
  | macrc rD => exact decodes_macrc rD
  | nop K => exact decodes_nop K
  | sys K => exact decodes_sys K
  | trap K => exact decodes_trap K
  | rfe => exact decodes_rfe

end Instruction

/-! ### Immediates of the processor -/

section Immediate

variable {inst : U32} {op : BitVec 6} {imm : BitVec 16}

theorem idSimm_signed (hop : inst.extractLsb' 26 6 = op) (himm : inst.extractLsb' 0 16 = imm)
    (h : op ∈ Or1200.signedOps) : Or1200.idSimm inst = imm.signExtend 32 := by
  rw [Or1200.idSimm_of_signed (hop ▸ h), himm]

theorem idSimm_unsigned (hop : inst.extractLsb' 26 6 = op) (himm : inst.extractLsb' 0 16 = imm)
    (hsigned : op ∉ Or1200.signedOps) (hmtspr : op ≠ Or1200.Or32.mtspr)
    (hstore : op ∉ Or1200.storeOps) : Or1200.idSimm inst = imm.setWidth 32 := by
  rw [Or1200.idSimm_of_unsigned (hop ▸ hsigned) (hop ▸ hmtspr) (hop ▸ hstore), himm]

/-- A displacement in words moves the address of a word. -/
theorem extractLsb'_add_shiftLeft (pc x : U32) :
    (pc + x <<< 2).extractLsb' 2 30 = x.setWidth 30 + pc.extractLsb' 2 30 := by
  refine BitVec.eq_of_toNat_eq ?_
  rw [BitVec.toNat_add, BitVec.extractLsb'_toNat, BitVec.extractLsb'_toNat, BitVec.toNat_add,
    BitVec.toNat_shiftLeft, BitVec.toNat_setWidth, Nat.shiftLeft_eq, Nat.shiftRight_eq_div_pow,
    Nat.shiftRight_eq_div_pow]
  omega

end Immediate

namespace Instruction

theorem immediateAgrees_branch (op : BranchOp) (N : BitVec 26) :
    (branch op N).ImmediateAgrees := by
  intro pc
  have hwidth : (N.signExtend 32).setWidth 30 = N.signExtend 30 := by
    refine BitVec.eq_of_getLsbD_eq fun i hi => ?_
    rw [BitVec.getLsbD_setWidth, BitVec.getLsbD_signExtend, BitVec.getLsbD_signExtend]
    simp [hi, show i < 32 by omega]
  rw [imm, extractLsb'_add_shiftLeft, hwidth, encode, Or1200.idBranchAddrtarget_eq, n_formN]

theorem immediateAgrees_access (op : MemOp) (reg rA : Reg) (I : BitVec 16) :
    (access op reg rA I).ImmediateAgrees := by
  rw [ImmediateAgrees, encode]
  cases h : op.isStore with
  | true =>
    have hstore := op.or32_mem_storeOps_iff.mpr h
    rw [if_pos rfl, Or1200.idSimm_of_store (op_formS .. ▸ hstore), split_formS]
    rfl
  | false =>
    have hsigned : op.or32 ∈ Or1200.signedOps := by
      revert h
      cases op <;> decide
    rw [if_neg Bool.false_ne_true, idSimm_signed (op_formI ..) (imm_formI ..) hsigned]
    rfl

theorem immediateAgrees (i : Instruction) : i.ImmediateAgrees := by
  -- an instruction of a format whose immediate is extended by zeros
  have unsigned {op : BitVec 6} {d a : BitVec 5} {K : BitVec 16} (hsigned : op ∉ Or1200.signedOps)
      (hmtspr : op ≠ Or1200.Or32.mtspr) (hstore : op ∉ Or1200.storeOps) :
      K.setWidth 32 = Or1200.idSimm (formI op d a K) :=
    (idSimm_unsigned (op_formI ..) (imm_formI ..) hsigned hmtspr hstore).symm
  have signed {op : BitVec 6} {d a : BitVec 5} {I : BitVec 16} (h : op ∈ Or1200.signedOps) :
      I.signExtend 32 = Or1200.idSimm (formI op d a I) :=
    (idSimm_signed (op_formI ..) (imm_formI ..) h).symm
  cases i with
  | branch op N => exact immediateAgrees_branch op N
  | immediate op rD rA I =>
    cases op with
    | addi | addic | muli | xori => exact signed (by decide)
    | andi | ori => exact unsigned (by decide) (by decide) (by decide)
  | shift op rD rA L =>
    have hL : (0#8 ++ op.code ++ L).extractLsb' 0 5 = L.extractLsb' 0 5 :=
      BitVec.extractLsb'_append_eq_of_add_le (by decide)
    rw [ImmediateAgrees, encode, ← unsigned (by decide) (by decide) (by decide),
      BitVec.extractLsb'_setWidth_of_le (by decide), hL]
    rfl
  | compareI op rA I => exact signed (by decide)
  | access op reg rA I => exact immediateAgrees_access op reg rA I
  | mtspr rA rB K =>
    rw [ImmediateAgrees, encode, Or1200.idSimm_of_mtspr (op_formS ..), split_formS]
    rfl
  | mfspr rD rA K => exact unsigned (by decide) (by decide) (by decide)
  | maci rA I => exact signed (by decide)
  | movhi rD K =>
    exact (idSimm_unsigned (op_formM ..) (imm_formM ..) (by decide) (by decide) (by decide)).symm
  | nop K => exact unsigned (by decide) (by decide) (by decide)
  | sys K => exact unsigned (by decide) (by decide) (by decide)
  | trap K => exact unsigned (by decide) (by decide) (by decide)
  | jump op rB => trivial
  | register op rD rA rB => trivial
  | compare op rA rB => trivial
  | mac op rA rB => trivial
  | macrc rD => trivial
  | rfe => trivial

theorem execute_eq (i : Instruction) (m : Machine) :
    execute (opcode i.encode) m (decode i.encode) = some (i.perform m).advance :=
  congrArg (Option.map Machine.advance) (i.decodes m)

end Instruction

/-- The word of an instruction is executed as the instruction, whose immediate is the one the
decoder of the processor forms. -/
theorem execute_encode (i : Instruction) (m : Machine) :
    execute (opcode i.encode) m (decode i.encode) = some (i.perform m).advance ∧
      i.ImmediateAgrees :=
  ⟨i.execute_eq m, i.immediateAgrees⟩

/-- `l.sw -4(r1), r2` and `l.bf -1`, as an assembler writes them. -/
example : Instruction.encode (.access .sw 2 1 (-4)) = 0xd7e117fc ∧
    Instruction.encode (.branch .bf (-1)) = 0x13ffffff := by decide

end WirePatch
