import WirePatch.Conformance.Arithmetic
import WirePatch.Conformance.BitSearch
import WirePatch.Conformance.Shifts
import WirePatch.Hardware.Result
import WirePatch.Simulator.Encoding

/-!
# Computing instructions: the simulator and the processor

The additions, the logic instructions, the extensions, the shifts and the bit searches: what the
simulator leaves in the registers is what the processor does, for one instruction and, through the
stages of the processor and their forwarding paths, for a whole program of them.

## Main definitions

* `Instruction.IsPlain`: the instructions whose result depends on their operands only.
* `CPU.file`: the registers of the simulator, by the numbers in an instruction word.

## Main results

* `CompareOp.flagcomp_eq`: the comparisons.
* `Instruction.perform_eq_unit`: one instruction.
* `Or1200.Pipe.gpr_eq_simulated`: a program.
-/

namespace WirePatch

open Or1200 (UnitIn resultOf retire)

/-! ### Words -/

/-- The registers, by the numbers in an instruction word. -/
def CPU.file (cpu : CPU) (addr : BitVec 5) : U32 := cpu.gpr addr.toFin

theorem CPU.file_cpuSetGpr (cpu : CPU) (rD : Reg) (value : U32) :
    (cpuSetGpr cpu rD value).file = Function.update cpu.file (.ofFin rD)
      (if (BitVec.ofFin rD : BitVec 5) = 0 then 0 else value) := by
  have hzero : (BitVec.ofFin rD : BitVec 5) = 0 ↔ rD = 0 :=
    ⟨fun h => congrArg BitVec.toFin h, fun h => h ▸ rfl⟩
  have hgpr (addr : BitVec 5) :
      (cpuSetGpr cpu rD value).file addr = setReg cpu.gpr rD value addr.toFin := rfl
  funext addr
  rw [hgpr]
  by_cases haddr : addr = .ofFin rD
  · rw [haddr, Function.update_self, setReg_self]
    simp only [hzero]
  · rw [Function.update_of_ne haddr]
    exact setReg_of_ne (fun h => haddr (BitVec.toFin_inj.mp h)) value

/-- The register instructions whose result depends on their operands only, and which the two
execute alike: not those that read a flag, those of the multiplier and the divider, `l.srl`, whose
operand the simulator does not mask, and `l.ror`, which the processor does not have. -/
def RegisterOp.plainOps : List RegisterOp :=
  [.add, .sub, .and, .or, .xor, .sll, .sra, .exths, .extbs, .exthz, .extbz, .extws, .extwz, .ff1,
   .fl1]

namespace Instruction

/-- The instructions whose result depends on their operands only, and which the two execute
alike. -/
def IsPlain : Instruction → Bool
  | immediate op _ _ _ => op ∈ [.addi, .xori, .andi, .ori]
  | register op _ _ _ => op ∈ RegisterOp.plainOps
  | shift op _ _ _ => op ∈ [.slli, .srli, .srai]
  | compare .. | compareI .. | movhi .. | nop _ => true
  | _ => false

end Instruction

/-! ### Results -/

/-- An instruction that writes a register leaves its result there. -/
theorem retire_eq {insn value : U32} {rD : Reg} (hwe : (Or1200.rfwbOpOf insn).getLsbD 0 = true)
    (hrD : Or1200.rfAddrwOf insn = .ofFin rD) (cpu : CPU) :
    retire insn value cpu.file = (cpuSetGpr cpu rD value).file := by
  rw [retire, if_pos hwe, hrD, CPU.file_cpuSetGpr]

/-- The registers after an addition of the simulator. -/
theorem file_checkRange_addBase (cpu : CPU) (rD : Reg) (a b : U32) :
    (Insn.checkRange (Insn.addBase cpu false rD a b)).file = (cpuSetGpr cpu rD (a + b)).file := by
  have hgpr : (Insn.checkRange (Insn.addBase cpu false rD a b)).gpr =
      setReg cpu.gpr rD (a + b) := by
    have houtcome := outcome_checkRange (Insn.addBase cpu false rD a b)
    rw [outcome_addBase, calcAdd_res] at houtcome
    refine (congrArg Outcome.gpr houtcome).trans ?_
    exact congrArg (setReg cpu.gpr rD) (BitVec.add_zero _)
  funext addr
  exact congrFun hgpr addr.toFin

theorem file_sub (cpu : CPU) (cont : Control) : (Insn.sub cpu cont).file =
    (cpuSetGpr cpu cont.rD (cpu.gpr cont.rA - cpu.gpr cont.rB)).file := by
  funext addr
  exact congrFun (congrArg Outcome.gpr (outcome_sub cpu cont)) addr.toFin

namespace Or1200

theorem resultSum_add (i : AluIn) : resultSum .add i = i.a + i.b := by
  rw [resultSum_eq]
  exact BitVec.add_zero _

/-- The extension of a half word or a byte by its sign. -/
theorem extended_eq (a : U32) :
    extended 0 a = (a.extractLsb' 0 16).signExtend 32 ∧
      extended 1 a = (a.extractLsb' 0 8).signExtend 32 ∧
      extended 2 a = (a.extractLsb' 0 16).setWidth 32 ∧
      extended 3 a = (a.extractLsb' 0 8).setWidth 32 := by
  refine ⟨?_, ?_, ?_, ?_⟩
  · have hmsb : a.getLsbD 15 = (a.extractLsb' 0 16).msb := (msb_extractLsb' a 0 15).symm
    rw [← replicate_msb_append 16, ← hmsb]
    rfl
  · have hmsb : a.getLsbD 7 = (a.extractLsb' 0 8).msb := (msb_extractLsb' a 0 7).symm
    rw [← replicate_msb_append 24, ← hmsb]
    rfl
  · exact (BitVec.setWidth_eq_append (w := 32) (by decide)).symm
  · exact (BitVec.setWidth_eq_append (w := 32) (by decide)).symm

end Or1200

/-! ### Register instructions -/

section Register

variable {op : RegisterOp} {d a b : BitVec 5}

/-- A shift by the low five bits of a word. -/
theorem value_eq_shiftedRotated {op : ShiftOp} (hop : op = .slli ∨ op = .srli ∨ op = .srai)
    {undef a b amount : U32} (hlt : amount < 32) (hamount : amount.toNat = b.toNat % 32) :
    op.value undef a amount = Or1200.shiftedRotated false op.shrotop a b := by
  have hrange : op.InRange amount := by
    rcases hop with rfl | rfl | rfl
    · exact hlt
    · exact hlt
    · exact hlt
  have hrori : op = .rori → false = true := by
    rintro rfl
    simp at hop
  rw [ShiftOp.value_eq hrange, hamount, Or1200.shiftedRotated_eq_shifted hrori]

/-- The low bits of a word, extended by their sign. -/
theorem signExtend_low {k : ℕ} (hk : k < 31) (a : U32) :
    signExtend (a &&& (1#32 <<< (k + 1) - 1)) k = (a.extractLsb' 0 (k + 1)).signExtend 32 := by
  have hlow : a &&& (1#32 <<< (k + 1) - 1) = (a.extractLsb' 0 (k + 1)).setWidth 32 :=
    low_eq (by omega) rfl
  have hlt : (a.extractLsb' 0 (k + 1)).toNat < 2 ^ (k + 1) := (a.extractLsb' 0 (k + 1)).isLt
  have hpow : 2 ^ (k + 1) < 2 ^ 32 := Nat.pow_lt_pow_right (by decide) (by omega)
  rw [hlow, signExtend_eq hk, BitVec.setWidth_setWidth_of_le _ (by omega), BitVec.setWidth_eq]
  rw [BitVec.toNat_setWidth, Nat.mod_eq_of_lt (hlt.trans hpow)]
  exact hlt

/-- The operation in the word of a register instruction. -/
theorem aluOpOf_formR (op : RegisterOp) (d a b : BitVec 5) :
    Or1200.aluOpOf (formR Or1200.Or32.alu d a b (0#1 ++ op.code)) =
      0#1 ++ op.code.extractLsb' 0 4 := by
  have hlow : (formR Or1200.Or32.alu d a b (0#1 ++ op.code)).extractLsb' 0 4 =
      op.code.extractLsb' 0 4 :=
    (code_formR _ _ _ _ _ (by decide)).trans (BitVec.extractLsb'_append_eq_of_add_le (by decide))
  rw [Or1200.aluOpOf, op_formR, if_pos rfl, hlow]

theorem resultOf_formR (op : RegisterOp) (d a b : BitVec 5) (u : UnitIn) :
    resultOf (formR Or1200.Or32.alu d a b (0#1 ++ op.code)) u =
      Or1200.result (0#1 ++ op.code.extractLsb' 0 4) (op.code.extractLsb' 6 4)
        (Or1200.compOpOf (formR Or1200.Or32.alu d a b (0#1 ++ op.code))) u := by
  have hhigh : (formR Or1200.Or32.alu d a b (0#1 ++ op.code)).extractLsb' 6 4 =
      op.code.extractLsb' 6 4 := by
    rw [formR, BitVec.extractLsb'_append_eq_of_add_le (by decide),
      BitVec.extractLsb'_append_eq_of_add_le (by decide)]
  rw [resultOf, aluOpOf_formR, Or1200.aluOp2Of, hhigh]

/-- The registers after a register instruction. -/
theorem RegisterOp.file_insn {rD rA rB : Reg} {u : UnitIn} {cpu : CPU} (undef : ℕ → U32)
    (hplain : op ∈ plainOps) (ha : u.a = cpu.gpr rA) (hb : u.b = cpu.gpr rB) :
    (op.insn undef cpu (.ofOperands rD rA rB 0)).file =
      (cpuSetGpr cpu rD (resultOf (Instruction.register op rD rA rB).encode u)).file := by
  have key {v : U32} (hv : v = resultOf (Instruction.register op rD rA rB).encode u) :
      (cpuSetGpr cpu rD v).file =
        (cpuSetGpr cpu rD (resultOf (Instruction.register op rD rA rB).encode u)).file := by
    rw [hv]
  rw [Instruction.encode, resultOf_formR] at key ⊢
  cases op with
  | add =>
    refine (file_checkRange_addBase ..).trans (key ?_)
    exact (congrArg₂ (· + ·) ha hb).symm.trans (Or1200.resultSum_add (u.adder _)).symm
  | sub =>
    refine (file_sub ..).trans (key ?_)
    exact (congrArg₂ (· - ·) ha hb).symm.trans (resultSum_sub (u.adder _)).symm
  | and => exact key (congrArg₂ (· &&& ·) ha hb).symm
  | or => exact key (congrArg₂ (· ||| ·) ha hb).symm
  | xor => exact key (congrArg₂ (· ^^^ ·) ha hb).symm
  | sll =>
    refine key ((value_eq_shiftedRotated (.inl rfl) (and_1f_lt _) (toNat_and_1f _)).trans ?_)
    exact (congrArg₂ (Or1200.shiftedRotated false Or1200.shrotopSll) ha hb).symm
  | sra =>
    refine key ((value_eq_shiftedRotated (.inr (.inr rfl)) (and_1f_lt _) (toNat_and_1f _)).trans ?_)
    exact (congrArg₂ (Or1200.shiftedRotated false Or1200.shrotopSra) ha hb).symm
  | exths =>
    refine key ((signExtend_low (k := 15) (by decide) _).trans ?_)
    exact (Or1200.extended_eq (cpu.gpr rA)).1.symm.trans (congrArg (Or1200.extended 0) ha).symm
  | extbs =>
    refine key ((signExtend_low (k := 7) (by decide) _).trans ?_)
    exact (Or1200.extended_eq (cpu.gpr rA)).2.1.symm.trans (congrArg (Or1200.extended 1) ha).symm
  | exthz =>
    refine key ((low_eq (k := 16) (by decide) rfl).trans ?_)
    exact (Or1200.extended_eq (cpu.gpr rA)).2.2.1.symm.trans (congrArg (Or1200.extended 2) ha).symm
  | extbz =>
    refine key ((low_eq (k := 8) (by decide) rfl).trans ?_)
    exact (Or1200.extended_eq (cpu.gpr rA)).2.2.2.symm.trans (congrArg (Or1200.extended 3) ha).symm
  | extws => exact key ha.symm
  | extwz => exact key ha.symm
  | ff1 =>
    rw [show RegisterOp.ff1.insn undef = Insn.ff1 from rfl, Insn.ff1_eq]
    exact key (congrArg Or1200.ff1 ha).symm
  | fl1 =>
    rw [show RegisterOp.fl1.insn undef = Insn.fl1 from rfl, Insn.fl1_eq]
    exact key (congrArg Or1200.fl1 ha).symm
  | _ => exact absurd hplain (by decide)

end Register

/-! ### The other instructions -/

/-- The registers after an instruction with an immediate. -/
theorem ImmediateOp.file_perform {op : ImmediateOp} {rD rA : Reg} {I : BitVec 16} {u : UnitIn}
    {cpu : CPU} (hplain : op ∈ [addi, xori, andi, ori]) (ha : u.a = cpu.gpr rA)
    (hb : u.b = op.extend I) : (op.perform cpu rD (cpu.gpr rA) (op.extend I)).file =
      (cpuSetGpr cpu rD (resultOf (Instruction.immediate op rD rA I).encode u)).file := by
  have key {v : U32} (hv : v = resultOf (Instruction.immediate op rD rA I).encode u) :
      (cpuSetGpr cpu rD v).file =
        (cpuSetGpr cpu rD (resultOf (Instruction.immediate op rD rA I).encode u)).file := by
    rw [hv]
  have haluOp : Or1200.aluOpOf (formI op.opcode (.ofFin rD) (.ofFin rA) I) =
      (Or1200.aluOpCases.lookup op.opcode).getD Or1200.AluCode.or := by
    rw [Or1200.aluOpOf, op_formI]
    cases op <;> rfl
  rw [Instruction.encode, resultOf, haluOp] at key ⊢
  cases op with
  | addi =>
    refine (file_checkRange_addBase ..).trans (key ?_)
    exact (congrArg₂ (· + ·) ha hb).symm.trans (Or1200.resultSum_add (u.adder _)).symm
  | xori => exact key (congrArg₂ (· ^^^ ·) ha hb).symm
  | andi => exact key (congrArg₂ (· &&& ·) ha hb).symm
  | ori => exact key (congrArg₂ (· ||| ·) ha hb).symm
  | _ => exact absurd hplain (by decide)

/-- The operation in the word of a shift by an immediate. -/
theorem resultOf_shift (op : ShiftOp) (rD rA : Reg) (L : BitVec 6) (u : UnitIn) :
    resultOf (Instruction.shift op rD rA L).encode u =
      Or1200.shiftedRotated false op.shrotop u.a u.b := by
  have haluOp : Or1200.aluOpOf (formI Or1200.Or32.shRoti (.ofFin rD) (.ofFin rA)
      (0#8 ++ op.code ++ L)) = Or1200.AluCode.shrot := by
    rw [Or1200.aluOpOf, op_formI]
    rfl
  have haluOp2 : Or1200.aluOp2Of (formI Or1200.Or32.shRoti (.ofFin rD) (.ofFin rA)
      (0#8 ++ op.code ++ L)) = op.shrotop := by
    rw [Or1200.aluOp2Of, part_formI _ _ _ _ (by decide),
      BitVec.extractLsb'_append_eq_of_le (by decide)]
    cases op <;> rfl
  rw [Instruction.encode, resultOf, haluOp, haluOp2]
  rfl

theorem resultOf_movhi (rD : Reg) (K : BitVec 16) {u : UnitIn}
    (hu : u.macrcOp = Or1200.macrcOpOf (Instruction.movhi rD K).encode) :
    resultOf (Instruction.movhi rD K).encode u = u.b <<< 16 := by
  have hmacrc : u.macrcOp = false := by
    have hbit : (formM Or1200.Or32.movhi (.ofFin rD) 0 K).getLsbD 16 = false := by
      rw [formM, BitVec.getLsbD_append, BitVec.getLsbD_append]
      simp
    rw [hu, Or1200.macrcOpOf, Instruction.encode, hbit, Bool.and_false]
  have haluOp : Or1200.aluOpOf (formM Or1200.Or32.movhi (.ofFin rD) 0 K) =
      Or1200.AluCode.movhi := by
    rw [Or1200.aluOpOf, op_formM]
    rfl
  have hresult : resultOf (formM Or1200.Or32.movhi (.ofFin rD) 0 K) u =
      if u.macrcOp then u.multMacResult else u.b <<< 16 := by
    rw [resultOf, haluOp]
    rfl
  rw [Instruction.encode, hresult, hmacrc, if_neg Bool.false_ne_true]

namespace Instruction

open Or1200 (readsA readsB addrAOf addrBOf selImmOf rfAddrwOf rfwbOpOf)

/-- An instruction whose opcode has no result leaves the registers. -/
theorem retire_of_not_writes {insn : U32} (h : rfwbOpOf insn = Or1200.RfwbOp.nop) (value : U32)
    (g : BitVec 5 → U32) : retire insn value g = g := by
  rw [retire, h]
  rfl

theorem rfwbOpOf_eq {insn : U32} {op : BitVec 6} (h : insn.extractLsb' 26 6 = op) :
    rfwbOpOf insn = rfwbOpOf (op ++ 0#26) := by
  rw [rfwbOpOf, rfwbOpOf, h, BitVec.extractLsb'_append_eq_left]

theorem rfwbOpOf_of_mem_aluOps {op : BitVec 6} (h : op ∈ Or1200.aluOps) :
    rfwbOpOf (op ++ 0#26) = Or1200.RfwbOp.alu ∧
      ¬ (op = Or1200.Or32.jal ∨ op = Or1200.Or32.jalr) := by
  revert op
  decide

section Fed

variable {insn : U32} {op : BitVec 6} {rA rB : Reg} {u : UnitIn} {cpu : CPU}

theorem readsA_eq (h : insn.extractLsb' 26 6 = op) :
    readsA insn = (op.getLsbD 5 || op == Or1200.Or32.maci) := by
  rw [readsA, ← h, BitVec.getLsbD_extractLsb']
  rfl

theorem readsB_eq (h : insn.extractLsb' 26 6 = op) : readsB insn = op.getLsbD 4 := by
  rw [readsB, ← h, BitVec.getLsbD_extractLsb']
  rfl

/-- The first operand is the register the word names. -/
theorem fed_a (hu : u.Fed insn cpu.file) (hop : insn.extractLsb' 26 6 = op)
    (hreads : op.getLsbD 5 = true) (hrA : addrAOf insn = .ofFin rA) : u.a = cpu.gpr rA := by
  have hread : readsA insn = true := by
    rw [readsA_eq hop, hreads, Bool.true_or]
  rw [hu.a hread, hrA]
  rfl

/-- The second operand is the register the word names, for an opcode that has none. -/
theorem fed_b (hu : u.Fed insn cpu.file) (hop : insn.extractLsb' 26 6 = op)
    (hmem : op ∈ Or1200.registerOps) (hreads : op.getLsbD 4 = true)
    (hrB : addrBOf insn = .ofFin rB) : u.b = cpu.gpr rB := by
  have hsel : selImmOf insn = false := by
    rw [selImmOf, hop, List.contains_iff_mem.mpr hmem]
    rfl
  rw [hu.b (.inr ((readsB_eq hop).trans hreads)), Or1200.Pipe.secondOperand, hsel,
    if_neg Bool.false_ne_true, hrB]
  rfl

/-- The second operand is the immediate, for an opcode that has one. -/
theorem fed_imm (hu : u.Fed insn cpu.file) (hop : insn.extractLsb' 26 6 = op)
    (hmem : op ∉ Or1200.registerOps) : u.b = Or1200.idSimm insn := by
  have hsel : selImmOf insn = true := by
    rw [selImmOf, hop, Bool.not_eq_true', ← Bool.not_eq_true]
    exact mt List.contains_iff_mem.mp hmem
  rw [hu.b (.inl hsel), Or1200.Pipe.secondOperand, if_pos hsel]

end Fed

section Perform

variable {u : UnitIn} {m : Machine} {rD rA rB : Reg}

/-- The registers after a word whose opcode has a result of the unit. -/
theorem retire_of_aluOps {insn : U32} {op : BitVec 6} (hop : insn.extractLsb' 26 6 = op)
    (hmem : op ∈ Or1200.aluOps) (hrD : insn.extractLsb' 21 5 = .ofFin rD) (value : U32)
    (cpu : CPU) : retire insn value cpu.file = (cpuSetGpr cpu rD value).file := by
  obtain ⟨hwb, hjal⟩ := rfwbOpOf_of_mem_aluOps hmem
  refine retire_eq ?_ ?_ cpu
  · rw [rfwbOpOf_eq hop, hwb]
    rfl
  · rw [rfAddrwOf, hop, if_neg hjal, hrD]

theorem file_perform_immediate {op : ImmediateOp} {I : BitVec 16}
    (h : (immediate op rD rA I).IsPlain = true)
    (hu : u.Fed (immediate op rD rA I).encode m.cpu.file) :
    ((immediate op rD rA I).perform m).cpu.file =
      retire (immediate op rD rA I).encode (resultOf (immediate op rD rA I).encode u)
        m.cpu.file := by
  have hop : (immediate op rD rA I).encode.extractLsb' 26 6 = op.opcode := op_formI ..
  have ha : u.a = m.cpu.gpr rA := fed_a hu hop (by cases op <;> decide) (a_formI ..)
  have hb : u.b = op.extend I := by
    rw [fed_imm hu hop (by cases op <;> decide)]
    exact (immediateAgrees (immediate op rD rA I)).symm
  rw [retire_of_aluOps hop (by cases op <;> decide) (d_formI ..)]
  exact ImmediateOp.file_perform (of_decide_eq_true h) ha hb

theorem file_perform_register {op : RegisterOp} (h : (register op rD rA rB).IsPlain = true)
    (hu : u.Fed (register op rD rA rB).encode m.cpu.file) :
    ((register op rD rA rB).perform m).cpu.file =
      retire (register op rD rA rB).encode (resultOf (register op rD rA rB).encode u)
        m.cpu.file := by
  have hop : (register op rD rA rB).encode.extractLsb' 26 6 = Or1200.Or32.alu := op_formR ..
  have ha : u.a = m.cpu.gpr rA := fed_a hu hop (by decide) (a_formR ..)
  have hb : u.b = m.cpu.gpr rB := fed_b hu hop (by decide) (by decide) (b_formR ..)
  rw [retire_of_aluOps hop (by decide) (d_formR ..)]
  exact RegisterOp.file_insn m.junk (of_decide_eq_true h) ha hb

theorem file_perform_shift {op : ShiftOp} {L : BitVec 6} (h : (shift op rD rA L).IsPlain = true)
    (hu : u.Fed (shift op rD rA L).encode m.cpu.file) :
    ((shift op rD rA L).perform m).cpu.file =
      retire (shift op rD rA L).encode (resultOf (shift op rD rA L).encode u) m.cpu.file := by
  have hop : (shift op rD rA L).encode.extractLsb' 26 6 = Or1200.Or32.shRoti := op_formI ..
  have ha : u.a = m.cpu.gpr rA := fed_a hu hop (by decide) (a_formI ..)
  have hamount : (shift op rD rA L).imm = (u.b.extractLsb' 0 5).setWidth 32 := by
    rw [fed_imm hu hop (by decide)]
    exact immediateAgrees (shift op rD rA L)
  have hlt : ((shift op rD rA L).imm).toNat < 32 := by
    rw [hamount, BitVec.toNat_setWidth]
    exact (Nat.mod_le _ _).trans_lt (u.b.extractLsb' 0 5).isLt
  have hmod : ((shift op rD rA L).imm).toNat = u.b.toNat % 32 := by
    rw [← Or1200.toNat_amount, hamount, BitVec.toNat_setWidth]
    exact Nat.mod_eq_of_lt ((u.b.extractLsb' 0 5).isLt.trans (by decide))
  have hcases : op = .slli ∨ op = .srli ∨ op = .srai := by
    simpa [IsPlain] using h
  have hvalue : op.value (m.junk 0) u.a (shift op rD rA L).imm =
      Or1200.shiftedRotated false op.shrotop u.a u.b := value_eq_shiftedRotated hcases hlt hmod
  rw [retire_of_aluOps hop (by decide) (d_formI ..), resultOf_shift, ← hvalue, ha]
  rfl

theorem file_perform_movhi {K : BitVec 16} (hu : u.Fed (movhi rD K).encode m.cpu.file) :
    ((movhi rD K).perform m).cpu.file =
      retire (movhi rD K).encode (resultOf (movhi rD K).encode u) m.cpu.file := by
  have hop : (movhi rD K).encode.extractLsb' 26 6 = Or1200.Or32.movhi := op_formM ..
  have hb : u.b = (movhi rD K).imm := by
    rw [fed_imm hu hop (by decide)]
    exact (immediateAgrees (movhi rD K)).symm
  rw [retire_of_aluOps hop (by decide) (d_formM ..), resultOf_movhi rD K hu.macrcOp, hb]
  rfl

/-- The simulator leaves the registers that the processor leaves when its unit reads the operands of
the instruction. -/
theorem file_perform {i : Instruction} (h : i.IsPlain = true) (hu : u.Fed i.encode m.cpu.file) :
    (i.perform m).cpu.file = retire i.encode (resultOf i.encode u) m.cpu.file := by
  have nowrite {insn : U32} {op : BitVec 6} (hop : insn.extractLsb' 26 6 = op)
      (hnop : rfwbOpOf (op ++ 0#26) = Or1200.RfwbOp.nop) :
      m.cpu.file = retire insn (resultOf insn u) m.cpu.file := by
    exact (retire_of_not_writes ((rfwbOpOf_eq hop).trans hnop) _ _).symm
  cases i with
  | immediate op rD rA I => exact file_perform_immediate h hu
  | register op rD rA rB => exact file_perform_register h hu
  | shift op rD rA L => exact file_perform_shift h hu
  | compare op rA rB => exact nowrite (op_formR ..) (by decide)
  | compareI op rA I => exact nowrite (op_formI ..) (by decide)
  | movhi rD K => exact file_perform_movhi hu
  | nop K => exact nowrite (op_formI ..) (by decide)
  | branch | jump | access | mtspr | mfspr | mac | maci | macrc | sys | trap | rfe => cases h

end Perform

end Instruction

/-! ### Comparisons -/

namespace Or1200

/-- The operands of a comparison are compared as signed words when `comp_op[3]` is set. -/
theorem ult_compOperand (compOp : BitVec 4) (a b : U32) :
    (compOperand compOp a).ult (compOperand compOp b) =
      if compOp.getLsbD 3 then a.slt b else a.ult b := by
  have ha := a.isLt
  have hb := b.isLt
  rw [Bool.eq_iff_iff, BitVec.ult_eq_decide, toNat_compOperand, toNat_compOperand]
  cases compOp.getLsbD 3 with
  | false => simp [BitVec.ult_eq_decide]
  | true =>
    simp only [if_true, decide_eq_true_eq, BitVec.slt_eq_decide, BitVec.toInt_eq_toNat_cond]
    omega

theorem compOperand_inj {compOp : BitVec 4} {a b : U32} :
    compOperand compOp a = compOperand compOp b ↔ a = b := by
  have ha := a.isLt
  have hb := b.isLt
  rw [← BitVec.toNat_inj, ← BitVec.toNat_inj, toNat_compOperand, toNat_compOperand]
  cases compOp.getLsbD 3 with
  | false => simp
  | true =>
    simp only [if_true]
    omega

end Or1200

/-- The comparison of the processor is the one of the simulator. -/
theorem CompareOp.flagcomp_eq (op : CompareOp) (a b : U32) :
    Or1200.flagcomp (op.code.extractLsb' 0 4) a b = op.rel a b := by
  have heq (compOp : BitVec 4) :
      (Or1200.compOperand compOp a == Or1200.compOperand compOp b) = (a == b) := by
    rw [Bool.eq_iff_iff, beq_iff_eq, beq_iff_eq, Or1200.compOperand_inj]
  have hne (compOp : BitVec 4) :
      (Or1200.compOperand compOp a != Or1200.compOperand compOp b) = (a != b) :=
    congrArg Bool.not (heq compOp)
  cases op with
  | eq => exact heq _
  | ne => exact hne _
  | gtu => exact Or1200.ult_compOperand 0x2 b a
  | ltu => exact Or1200.ult_compOperand 0x4 a b
  | gts => exact Or1200.ult_compOperand 0xa b a
  | lts => exact Or1200.ult_compOperand 0xc a b
  | geu =>
    refine (BitVec.ule_eq_not_ult ..).trans ((congrArg Bool.not ?_).trans
      (BitVec.ule_eq_not_ult ..).symm)
    exact Or1200.ult_compOperand 0x3 a b
  | leu =>
    refine (BitVec.ule_eq_not_ult ..).trans ((congrArg Bool.not ?_).trans
      (BitVec.ule_eq_not_ult ..).symm)
    exact Or1200.ult_compOperand 0x5 b a
  | ges =>
    refine (BitVec.ule_eq_not_ult ..).trans ((congrArg Bool.not ?_).trans
      (BitVec.sle_eq_not_slt ..).symm)
    exact Or1200.ult_compOperand 0xb a b
  | les =>
    refine (BitVec.ule_eq_not_ult ..).trans ((congrArg Bool.not ?_).trans
      (BitVec.sle_eq_not_slt ..).symm)
    exact Or1200.ult_compOperand 0xd b a

/-! ### The flag -/

/-- The flag of the comparisons. -/
def CPU.flag (cpu : CPU) : Bool := cpuIsSetSrFlag cpu sprSrF

theorem CPU.flag_checkRange (cpu : CPU) : (Insn.checkRange cpu).flag = cpu.flag := by
  rw [Insn.checkRange]
  split_ifs
  · have henter : rangeException cpu = Exc.range.enter cpu := rfl
    refine cpuIsSetSrFlag_congr ?_
    rw [henter, Exc.enter_eq, entrySr_and (by decide) (by decide)]
  · rfl

theorem CPU.flag_addBase (cpu : CPU) (carryIn : Bool) (rD : Reg) (a b : U32) :
    (Insn.addBase cpu carryIn rD a b).flag = cpu.flag := by
  rw [Insn.addBase, flag, cpuIsSetSrFlag_cpuSetSrFlag_of_disjoint (by decide),
    cpuIsSetSrFlag_cpuSetSrFlag_of_disjoint (by decide)]
  rfl

theorem CPU.flag_sub (cpu : CPU) (cont : Control) : (Insn.sub cpu cont).flag = cpu.flag := by
  rw [Insn.sub, flag_checkRange, flag, cpuIsSetSrFlag_cpuSetSrFlag_of_disjoint (by decide),
    cpuIsSetSrFlag_cpuSetSrFlag_of_disjoint (by decide)]
  exact flag_addBase ..

theorem RegisterOp.flag_insn {op : RegisterOp} (hplain : op ∈ plainOps) (undef : ℕ → U32) (cpu : CPU)
    (cont : Control) : (op.insn undef cpu cont).flag = cpu.flag := by
  cases op with
  | add => exact (CPU.flag_checkRange _).trans (CPU.flag_addBase ..)
  | sub => exact CPU.flag_sub ..
  | and | or | xor | sll | sra | exths | extbs | exthz | extbz | extws | extwz | ff1 | fl1 => rfl
  | _ => exact absurd hplain (by decide)

theorem ImmediateOp.flag_perform {op : ImmediateOp} (hplain : op ∈ [addi, xori, andi, ori])
    (cpu : CPU) (rD : Reg) (a b : U32) : (op.perform cpu rD a b).flag = cpu.flag := by
  cases op with
  | addi => exact (CPU.flag_checkRange _).trans (CPU.flag_addBase ..)
  | xori | andi | ori => rfl
  | _ => exact absurd hplain (by decide)

namespace Instruction

open Or1200 (aluFlag aluOpOf compOpOf)

theorem aluOpOf_eq {insn : U32} {op : BitVec 6} (h : insn.extractLsb' 26 6 = op)
    (hne : op ≠ Or1200.Or32.alu) :
    aluOpOf insn = (Or1200.aluOpCases.lookup op).getD Or1200.AluCode.or := by
  rw [aluOpOf, h, if_neg hne]

/-- An operation that does not compare keeps the flag. -/
theorem next_of_ne_comp {aluOp : BitVec 5} (h : aluOp ≠ Or1200.AluCode.comp) (compOp : BitVec 4)
    (u : UnitIn) (old : Bool) : (aluFlag aluOp compOp u).next old = old := by
  rw [aluFlag, Or1200.Forward.next, beq_eq_false_iff_ne.mpr h, if_neg Bool.false_ne_true]

/-- A comparison of two operands. -/
theorem next_of_compare {insn : U32} {op : CompareOp} {u : UnitIn}
    (halu : aluOpOf insn = Or1200.AluCode.comp) (hcode : insn.extractLsb' 21 5 = op.code)
    (old : Bool) : (aluFlag (aluOpOf insn) (compOpOf insn) u).next old = op.rel u.a u.b := by
  have hcomp : compOpOf insn = op.code.extractLsb' 0 4 := by
    have hbits : insn.extractLsb' 21 4 = (insn.extractLsb' 21 5).extractLsb' 0 4 := by
      refine BitVec.eq_of_getLsbD_eq fun i hi => ?_
      simp [hi, show i < 5 by omega]
    rw [compOpOf, hbits, hcode]
  rw [halu, hcomp, aluFlag, Or1200.Forward.next, op.flagcomp_eq]
  rfl

/-- The simulator leaves the flag that the processor leaves. -/
theorem flag_perform {i : Instruction} {m : Machine} {u : UnitIn} (h : i.IsPlain = true)
    (hu : u.Fed i.encode m.cpu.file) : (i.perform m).cpu.flag =
      (aluFlag (aluOpOf i.encode) (compOpOf i.encode) u).next m.cpu.flag := by
  cases i with
  | immediate op rD rA I =>
    have halu := aluOpOf_eq (op_formI op.opcode (.ofFin rD) (.ofFin rA) I)
      (by cases op <;> decide)
    rw [next_of_ne_comp (by rw [encode, halu]; cases op <;> decide)]
    exact ImmediateOp.flag_perform (of_decide_eq_true h) ..
  | register op rD rA rB =>
    have halu : aluOpOf (register op rD rA rB).encode ≠ Or1200.AluCode.comp := by
      rw [encode, aluOpOf_formR]
      cases op <;> decide
    rw [next_of_ne_comp halu]
    exact RegisterOp.flag_insn (of_decide_eq_true h) ..
  | shift op rD rA L =>
    have halu := aluOpOf_eq (op_formI Or1200.Or32.shRoti (.ofFin rD) (.ofFin rA)
      (0#8 ++ op.code ++ L)) (by decide)
    rw [next_of_ne_comp (by rw [encode, halu]; decide)]
    rfl
  | compare op rA rB =>
    have hop : (compare op rA rB).encode.extractLsb' 26 6 = Or1200.Or32.sfxx := op_formR ..
    rw [next_of_compare (aluOpOf_eq hop (by decide)) (d_formR ..),
      fed_a hu hop (by decide) (a_formR ..), fed_b hu hop (by decide) (by decide) (b_formR ..)]
    exact cpuIsSetSrFlag_cpuSetSrFlag_self (by decide) ..
  | compareI op rA I =>
    have hop : (compareI op rA I).encode.extractLsb' 26 6 = Or1200.Or32.sfxxi := op_formI ..
    have himm : (compareI op rA I).imm = Or1200.idSimm (compareI op rA I).encode :=
      immediateAgrees (compareI op rA I)
    rw [next_of_compare (aluOpOf_eq hop (by decide)) (d_formI ..),
      fed_a hu hop (by decide) (a_formI ..), fed_imm hu hop (by decide), ← himm]
    exact cpuIsSetSrFlag_cpuSetSrFlag_self (by decide) ..
  | movhi rD K =>
    have halu := aluOpOf_eq (op_formM Or1200.Or32.movhi (.ofFin rD) 0 K) (by decide)
    rw [next_of_ne_comp (by rw [encode, halu]; decide)]
    rfl
  | nop K =>
    have halu := aluOpOf_eq (op_formI Or1200.Or32.nop 8 0 K) (by decide)
    rw [next_of_ne_comp (by rw [encode, halu]; decide)]
    rfl
  | branch | jump | access | mtspr | mfspr | mac | maci | macrc | sys | trap | rfe => cases h

/-- The simulator leaves the registers and the flag that the processor leaves, when the arithmetic
unit reads the operands of the instruction. -/
theorem perform_eq_unit {i : Instruction} {m : Machine} {u : UnitIn} (h : i.IsPlain = true)
    (hu : u.Fed i.encode m.cpu.file) :
    (i.perform m).cpu.file = retire i.encode (resultOf i.encode u) m.cpu.file ∧
      (i.perform m).cpu.flag =
        (aluFlag (aluOpOf i.encode) (compOpOf i.encode) u).next m.cpu.flag :=
  ⟨file_perform h hu, flag_perform h hu⟩

/-- `l.sfltsi r3,-1` finds 4 in the register. -/
theorem perform_eq_unit_sfltsi :
    let i := compareI .lts 3 0xffff
    let m := (nopMachine 0x2000).setCpu (cpuSetGpr (CPU.startAt 0x2000) 3 4)
    let u : UnitIn :=
      { a := 4, b := 0xffffffff, multMacResult := 0, macrcOp := false, carry := false,
        flag := false }
    (i.perform m).cpu.file = retire i.encode (resultOf i.encode u) m.cpu.file ∧
      (i.perform m).cpu.flag =
        (aluFlag (aluOpOf i.encode) (compOpOf i.encode) u).next m.cpu.flag :=
  perform_eq_unit rfl ⟨fun _ => by decide, fun _ => by decide, by decide⟩

end Instruction

/-! ### Programs -/

namespace Or1200.Pipe

open Clocked

/-- A plain instruction has the result of the unit, or none. -/
theorem muxout_of_isPlain {s : Pipe} {i : PipeIn} {insn : Instruction} (h : insn.IsPlain = true)
    (hrfwb : s.rfwbOp = rfwbOpOf insn.encode) : s.muxout i = i.aluDataout := by
  have hmux {op : BitVec 6} (hop : insn.encode.extractLsb' 26 6 = op)
      (hselect : (rfwbOpOf (op ++ 0#26)).extractLsb' 1 3 = 0) : s.muxout i = i.aluDataout := by
    rw [muxout, hrfwb, Instruction.rfwbOpOf_eq hop, hselect]
    rfl
  cases insn with
  | immediate op rD rA I => exact hmux (op_formI ..) (by cases op <;> decide)
  | register op rD rA rB => exact hmux (op_formR ..) (by decide)
  | shift op rD rA L => exact hmux (op_formI ..) (by decide)
  | compare op rA rB => exact hmux (op_formR ..) (by decide)
  | compareI op rA I => exact hmux (op_formI ..) (by decide)
  | movhi rD K => exact hmux (op_formM ..) (by decide)
  | nop K => exact hmux (op_formI ..) (by decide)
  | branch | jump | access | mtspr | mfspr | mac | maci | macrc | sys | trap | rfe => cases h

/-- The stages execute a program of plain instructions as the simulator does, one after the other:
however long they are frozen, and whatever is flushed between them, no operand is stale and no
result is lost. -/
theorem gpr_eq_simulated {x : ℕ → PipeIn} {u : ℕ → UnitIn} {t : ℕ} {l : List Instruction}
    {m : Machine} (hrst : ∀ r < t, (x r).rst = false) (hplain : ∀ r < t, (x r).Plain)
    (hkept : ∀ r < t, (x r).advance.IsActive → (regs x r).Kept (x r))
    (hunit : ∀ r < t, (x r).aluDataout = resultOf (regs x r).exInsn ((regs x r).unitIn (u r)))
    (hl : l.map Instruction.encode = retired x t) (hisPlain : ∀ i ∈ l, i.IsPlain = true)
    (hm : ∀ r, m.cpu.gpr r = 0) :
    (regs x t).gpr = (l.foldl (fun m i => i.perform m) m).cpu.file := by
  induction t generalizing l with
  | zero =>
    obtain rfl := List.map_eq_nil_iff.mp hl
    funext addr
    exact (hm addr.toFin).symm
  | succ t ih =>
    have hbefore {l' : List Instruction} (hl' : l'.map Instruction.encode = retired x t)
        (hisPlain' : ∀ i ∈ l', i.IsPlain = true) :=
      ih (fun r hr => hrst r (hr.trans t.lt_succ_self))
        (fun r hr => hplain r (hr.trans t.lt_succ_self))
        (fun r hr => hkept r (hr.trans t.lt_succ_self))
        (fun r hr => hunit r (hr.trans t.lt_succ_self)) hl' hisPlain'
    have hplain' (r : ℕ) (hr : r ≤ t) : (x r).Plain := hplain r (Nat.lt_succ_of_le hr)
    rw [retired] at hl
    split_ifs at hl with hleaves
    · -- an instruction leaves the execute stage
      obtain ⟨hact, hne⟩ := hleaves
      obtain ⟨l', last, rfl, hl', hlast⟩ := List.map_eq_append_iff.mp hl
      obtain ⟨i, rfl, hi⟩ := List.map_eq_singleton_iff.mp hlast
      have hiPlain : i.IsPlain = true := hisPlain i (by simp)
      have hgpr := hbefore hl' fun j hj => hisPlain j (List.mem_append_left _ hj)
      have hwf : (regs x t).Wf := wf_run fun r hr => hplain' r hr.le
      have hfed := fed_run (fun r hr => hplain' r hr.le)
        (fun r hr => hkept r (hr.trans t.lt_succ_self)) hne (u t)
      have hmux : (regs x t).muxout (x t) = (x t).aluDataout :=
        muxout_of_isPlain hiPlain (hi ▸ hwf.rfwbOp)
      rw [gpr_succ_eq_retire hplain' hact (hkept t t.lt_succ_self hact) hne, hmux,
        hunit t t.lt_succ_self, ← hi, List.foldl_append]
      rw [← hi, hgpr] at hfed
      rw [hgpr]
      exact (Instruction.file_perform hiPlain hfed).symm
    · rw [← hbefore hl hisPlain]
      by_cases hact : (x t).advance.IsActive
      · have hnop : (regs x t).exInsn = flushNop := not_not.mp fun hne => hleaves ⟨hact, hne⟩
        exact gpr_succ_of_flushNop hplain' hnop
      · have hidle : (x t).exFreeze = true := by
          refine Bool.eq_true_of_not_eq_false fun hfreeze => hact ⟨hrst t t.lt_succ_self, ?_⟩
          exact Bool.not_eq_true' .. ▸ hfreeze
        exact gpr_step_of_exFreeze (s := regs x t) (hplain' t le_rfl) hidle

theorem gpr_eq_simulated_dependentIn :
    (regs dependentIn 4).gpr =
      ([Instruction.immediate .addi 3 0 5, .register .add 4 3 3].foldl (fun m i => i.perform m)
        (nopMachine 0x2000)).cpu.file := by
  let u : UnitIn :=
    { a := 0, b := 0, multMacResult := 0, macrcOp := false, carry := false, flag := false }
  refine gpr_eq_simulated (x := dependentIn) (u := fun _ => u) (fun _ _ => rfl)
    (fun r _ => plain_dependentIn r) (fun r hr => ?_) (fun r hr => ?_) (by decide) (by decide)
    fun _ => rfl
  · interval_cases r <;> decide
  · interval_cases r <;> decide

end Or1200.Pipe

end WirePatch
