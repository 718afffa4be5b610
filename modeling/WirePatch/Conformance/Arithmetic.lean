import WirePatch.Hardware.Divider
import WirePatch.Simulator.BitSerial

/-!
# Arithmetic: the simulator and the processor

The destination register and the flags OV and CY after an arithmetic instruction of the simulator,
compared with those of the processor. The additions agree for all operands. The other instructions
agree under exact conditions on their operands and on the old carry flag: the simulator writes CY
after a multiplication or a division, which the processor leaves alone, and clears OV after
`l.mulu`, `l.div` and `l.divu`, where the processor sets it on overflow. The simulator's signed
division negates its operands as C integers, which has no defined result for `INT_MIN`.

## Main definitions

* `Outcome`, `CPU.outcome`: what an arithmetic instruction leaves.
* `ArithInsn`, `ArithInsn.simulate`, `ArithInsn.process`: the instructions and the two ways to
  execute them.
* `ArithInsn.Agrees`: an instruction leaves the same in both, by defined operations.
* `ArithInsn.Conforms`: the condition on the operands.

## Main results

* `ArithInsn.agrees_iff`: the simulator agrees with the processor exactly under it.
-/

namespace WirePatch

/-- What an arithmetic instruction leaves: the registers and the flags OV and CY. -/
@[ext] structure Outcome where
  gpr : Reg → U32
  ov : Bool
  cy : Bool

/-- The registers and the flags OV and CY of a state. -/
def CPU.outcome (cpu : CPU) : Outcome :=
  { gpr := cpu.gpr, ov := cpuIsSetSrFlag cpu sprSrOv, cy := cpuIsSetSrFlag cpu sprSrCy }

/-- The arithmetic instructions with overflow and carry. -/
inductive ArithInsn
  | add
  | addc
  | addi
  | addic
  | sub
  | mul
  | muli
  | mulu
  | div
  | divu
  deriving DecidableEq, Repr

namespace ArithInsn

/-- The instruction in the simulator; `undef` are the words of an undefined negation. -/
def simulate (undef : ℕ → U32) : ArithInsn → CPU → Control → CPU
  | add => Insn.add
  | addc => Insn.addc
  | addi => Insn.addi
  | addic => Insn.addic
  | sub => Insn.sub
  | mul => Insn.mul
  | muli => Insn.muli
  | mulu => Insn.mulu
  | div => Insn.or32Div undef
  | divu => Insn.divu

/-- The operation of the processor. -/
def aluOp : ArithInsn → Or1200.AluOp
  | add | addi => .add
  | addc | addic => .addc
  | sub => .sub
  | mul | muli => .mul
  | mulu => .mulu
  | div => .div
  | divu => .divu

/-- The second operand: a register, or the sign-extended immediate. -/
def operandB : ArithInsn → CPU → Control → U32
  | addi, _, cont | addic, _, cont | muli, _, cont => exts cont.I
  | _, cpu, cont => cpu.gpr cont.rB

/-- The inputs of the arithmetic unit for the instruction word `inst`. -/
def aluIn (insn : ArithInsn) (cpu : CPU) (inst : U32) : Or1200.AluIn :=
  { a := cpu.gpr (decode inst).rA
    b := insn.operandB cpu (decode inst)
    carry := cpuIsSetSrFlag cpu sprSrCy
    compOp := inst.extractLsb' 21 4 }

/-- What the processor leaves; the register of its divider held `before`. -/
def process (insn : ArithInsn) (cpu : CPU) (inst : U32) (before : U64) : Outcome :=
  { gpr := setReg cpu.gpr (decode inst).rD
      (Or1200.aluResult insn.aluOp (insn.aluIn cpu inst) before)
    ov := (Or1200.ovForward insn.aluOp (insn.aluIn cpu inst)).next (cpuIsSetSrFlag cpu sprSrOv)
    cy := (Or1200.aluCy insn.aluOp (insn.aluIn cpu inst)).next (cpuIsSetSrFlag cpu sprSrCy) }

/-- The simulator computes with defined operations only. -/
def Defined : ArithInsn → U32 → U32 → Prop
  | div, a, b => (divQuotientDefined b a).isSome = true
  | _, _, _ => True

/-- The simulator leaves what the processor does, whose divider held `before`. -/
structure Agrees (insn : ArithInsn) (undef : ℕ → U32) (cpu : CPU) (inst : U32) (before : U64) :
    Prop where
  outcome : (insn.simulate undef cpu (decode inst)).outcome = insn.process cpu inst before
  defined : insn.Defined (insn.aluIn cpu inst).a (insn.aluIn cpu inst).b

end ArithInsn

/-- The two subtractions agree: the borrow is compared with the signs that bit 3 of the
destination selects, and the overflow is the processor's, where the simulator reads the result 0
back from register 0. -/
def SubConforms (rD : Reg) (a b : U32) : Prop :=
  (rD.val.testBit 3 = true → (a.toInt < 0 ↔ b.toInt < 0)) ∧
    if rD = 0 then
      (0 ≤ a.toInt ∧ 0 ≤ a.toInt - b.toInt ∧ a.toInt - b.toInt < 2 ^ 31) ∨
      (a.toInt < 0 ∧ 0 < b.toInt ∧ a.toInt - b.toInt < -2 ^ 31) ∨
      (a.toInt < 0 ∧ b.toInt < 0 ∧ b.toInt ≠ -2 ^ 31)
    else
      ¬ (0 ≤ a.toInt ∧ a.toInt < b.toInt) ∧ ¬ (a.toInt < 0 ∧ b.toInt = -2 ^ 31)

/-- The two signed multiplications agree: the old carry is the one of the unsigned product, which
the simulator stores, and the operands are not the least integer and one. -/
def MulConforms (a b : U32) (cy : Bool) : Prop :=
  (cy = true ↔ 2 ^ 32 ≤ a.toNat * b.toNat) ∧
    ¬ (a.toInt = -2 ^ 31 ∧ b.toInt = 1) ∧ ¬ (a.toInt = 1 ∧ b.toInt = -2 ^ 31)

/-- The two unsigned multiplications agree: the old carry is the one of the product, and the
product of the operands as signed integers is an unsigned word. -/
def MuluConforms (a b : U32) (cy : Bool) : Prop :=
  (cy = true ↔ 2 ^ 32 ≤ a.toNat * b.toNat) ∧
    0 ≤ a.toInt * b.toInt ∧ a.toInt * b.toInt < 2 ^ 32

/-- The two signed divisions agree: the divisor is not zero, both operands have a magnitude, and the
carry was clear. -/
def DivConforms (a b : U32) (cy : Bool) : Prop :=
  b ≠ 0 ∧ a.toInt ≠ -2 ^ 31 ∧ b.toInt ≠ -2 ^ 31 ∧ cy = false

/-- The two unsigned divisions agree: the divisor is not zero, the carry was clear, the operands
are not the pair for which the processor sets the overflow of a signed division, and the serial
divider can handle the divisor or the quotient is dropped. -/
def DivuConforms (rD : Reg) (a b : U32) (cy : Bool) : Prop :=
  b ≠ 0 ∧ cy = false ∧ ¬ (a.toInt = -2 ^ 31 ∧ b.toInt = -1) ∧
    (rD = 0 ∨ b.toNat ≤ 2 ^ 31 ∨ b.toNat = 2 ^ 31 + 1 ∧ 2 ^ 31 ≤ a.toNat)

/-- The condition under which the simulator agrees with the processor, on the number of the
destination, the operands and the old carry. -/
def ArithInsn.Conforms : ArithInsn → Reg → U32 → U32 → Bool → Prop
  | add, _, _, _, _ | addc, _, _, _, _ | addi, _, _, _, _ | addic, _, _, _, _ => True
  | sub, rD, a, b, _ => SubConforms rD a b
  | mul, _, a, b, cy | muli, _, a, b, cy => MulConforms a b cy
  | mulu, _, a, b, cy => MuluConforms a b cy
  | div, _, a, b, cy => DivConforms a b cy
  | divu, rD, a, b, cy => DivuConforms rD a b cy

/-! ### The simulator -/

theorem Outcome.mk_eq_mk_iff {g g' : Reg → U32} {o o' c c' : Bool} :
    ({ gpr := g, ov := o, cy := c } : Outcome) = { gpr := g', ov := o', cy := c' } ↔
      g = g' ∧ o = o' ∧ c = c' :=
  Outcome.mk.injEq .. |>.to_iff

section Outcome

variable (cpu : CPU)

theorem outcome_setGpr (rD : Reg) (value : U32) :
    (cpuSetGpr cpu rD value).outcome = { cpu.outcome with gpr := setReg cpu.gpr rD value } := rfl

theorem outcome_setOv (set : Bool) :
    (cpuSetSrFlag cpu sprSrOv set).outcome = { cpu.outcome with ov := set } := by
  rw [CPU.outcome, cpuIsSetSrFlag_cpuSetSrFlag_self (by decide),
    cpuIsSetSrFlag_cpuSetSrFlag_of_disjoint (by decide)]
  rfl

theorem outcome_setCy (set : Bool) :
    (cpuSetSrFlag cpu sprSrCy set).outcome = { cpu.outcome with cy := set } := by
  rw [CPU.outcome, cpuIsSetSrFlag_cpuSetSrFlag_self (by decide),
    cpuIsSetSrFlag_cpuSetSrFlag_of_disjoint (by decide)]
  rfl

variable {cpu}

/-- Without the overflow exception enabled an arithmetic instruction ends with its updates. -/
theorem checkRange_of_computes {c : CPU} (hove : cpuIsSetSrFlag cpu sprSrOve = false)
    (h : Computes cpu c) : Insn.checkRange c = c := by
  rw [Insn.checkRange, h.flag_eq (by decide), hove, Bool.false_and, if_neg Bool.false_ne_true]

/-- The range exception keeps the registers and the two flags. -/
theorem outcome_checkRange (cpu : CPU) : (Insn.checkRange cpu).outcome = cpu.outcome := by
  rw [Insn.checkRange]
  split_ifs
  · have henter : rangeException cpu = Exc.range.enter cpu := rfl
    have hflag {flag : U32} (hkeep : 0xffffdf98 &&& flag = flag) (hset : 0x2001 &&& flag = 0) :
        cpuIsSetSrFlag (Exc.range.enter cpu) flag = cpuIsSetSrFlag cpu flag := by
      refine cpuIsSetSrFlag_congr ?_
      rw [Exc.enter_eq, entrySr_and hkeep hset]
    rw [henter, CPU.outcome, hflag (by decide) (by decide), hflag (by decide) (by decide),
      Exc.enter_eq, CPU.outcome]
  · rfl

theorem outcome_addBase (carryIn : Bool) (rD : Reg) (a b : U32) :
    (Insn.addBase cpu carryIn rD a b).outcome =
      { gpr := setReg cpu.gpr rD (calcAdd carryIn a b).res
        ov := (calcAdd carryIn a b).overflow
        cy := (calcAdd carryIn a b).carry } := by
  rw [Insn.addBase, outcome_setCy, outcome_setOv, outcome_setGpr]

theorem outcome_mulu (cont : Control) :
    (Insn.mulu cpu cont).outcome =
      { gpr := setReg cpu.gpr cont.rD
          ((calcMulu (cpu.gpr cont.rA) (cpu.gpr cont.rB)).setWidth 32)
        ov := false
        cy := decide (calcMulu (cpu.gpr cont.rA) (cpu.gpr cont.rB) > 0xffffffff) } := by
  rw [Insn.mulu, outcome_checkRange, outcome_setCy, outcome_setOv, outcome_setGpr]

theorem outcome_mulShared (a b : U32) (rD : Reg) :
    (Insn.mulShared cpu a b rD).outcome =
      { gpr := setReg cpu.gpr rD ((calcMul a b).setWidth 32)
        ov := (calcMul a b).slt 0xffffffff80000000 || BitVec.slt 0x7fffffff (calcMul a b)
        cy := decide (calcMulu a b > 0xffffffff) } := by
  rw [Insn.mulShared, outcome_setCy, outcome_setOv, outcome_setGpr]

end Outcome

/-! ### Addition -/

/-- `calc_add` is the adder of the processor. -/
theorem calcAdd_eq {op : Or1200.AluOp} {i : Or1200.AluIn} {c : Bool}
    (hc : Or1200.carryIn op i = (BitVec.ofBool c).setWidth 32) :
    calcAdd c i.a (Or1200.bMux op i) =
      { res := Or1200.resultSum op i
        overflow := isOverflow i.a (Or1200.bMux op i) (Or1200.resultSum op i)
        carry := Or1200.cySum op i } := by
  have hres : (calcAdd c i.a (Or1200.bMux op i)).res = Or1200.resultSum op i := by
    rw [calcAdd_res, Or1200.resultSum_eq, hc]
  have hcarry : (calcAdd c i.a (Or1200.bMux op i)).carry = Or1200.cySum op i := by
    rw [calcAdd_carry, Or1200.cySum_eq hc]
  rw [← hres, ← hcarry]
  rfl

/-- The overflow of an addition. -/
theorem ovSum_of_ne_sub {op : Or1200.AluOp} (hop : op ≠ .sub) (i : Or1200.AluIn) :
    Or1200.ovSum op i = isOverflow i.a (Or1200.bMux op i) (Or1200.resultSum op i) := by
  simp only [Or1200.ovSum, isOverflow, isNeg_eq, beq_eq_false_iff_ne.mpr hop, Bool.and_false,
    Bool.or_false]
  exact Bool.or_comm ..

/-- An addition of the simulator leaves what the processor does. -/
theorem outcome_addBase_eq {op : Or1200.AluOp} (hop : op = .add ∨ op = .addc) (cpu : CPU)
    (rD : Reg) (i : Or1200.AluIn) {c : Bool}
    (hc : Or1200.carryIn op i = (BitVec.ofBool c).setWidth 32) (before : U64) (ov cy : Bool) :
    (Insn.addBase cpu c rD i.a i.b).outcome =
      { gpr := setReg cpu.gpr rD (Or1200.aluResult op i before)
        ov := (Or1200.ovForward op i).next ov
        cy := (Or1200.aluCy op i).next cy } := by
  have hne : op ≠ .sub := by rintro rfl; simp at hop
  have hmux : Or1200.bMux op i = i.b := if_neg hne
  have hov := ovSum_of_ne_sub hne i
  rw [outcome_addBase, ← hmux, calcAdd_eq hc]
  rcases hop with rfl | rfl
  · simp [Or1200.aluResult, Or1200.ovForward, Or1200.aluOv, Or1200.multMacOv, Or1200.Forward.merge,
      Or1200.Forward.next, Or1200.aluCy, hov]
  · simp [Or1200.aluResult, Or1200.ovForward, Or1200.aluOv, Or1200.multMacOv, Or1200.Forward.merge,
      Or1200.Forward.next, Or1200.aluCy, hov]

/-! ### Subtraction -/

theorem resultSum_sub (i : Or1200.AluIn) : Or1200.resultSum .sub i = i.a - i.b := by
  rw [Or1200.resultSum_eq, Or1200.bMux_sub]
  change i.a + -i.b + 0#32 = _
  rw [BitVec.add_zero, BitVec.sub_eq_add_neg]

theorem toInt_neg_eq (b : U32) :
    (-b).toInt = if b.toInt = -2 ^ 31 then -2 ^ 31 else -b.toInt := by
  have hb := b.isLt
  rw [BitVec.toInt_eq_toNat_cond, BitVec.toInt_eq_toNat_cond, BitVec.toNat_neg]
  omega

/-- The sign of a difference of words, by the difference of their values. -/
theorem toInt_sub_neg_iff (a b : U32) : (a - b).toInt < 0 ↔
    -2 ^ 31 ≤ a.toInt - b.toInt ∧ a.toInt - b.toInt < 0 ∨ 2 ^ 31 ≤ a.toInt - b.toInt := by
  have ha := a.isLt
  have hb := b.isLt
  rw [BitVec.toInt_eq_toNat_cond, BitVec.toInt_eq_toNat_cond, BitVec.toInt_eq_toNat_cond,
    BitVec.toNat_sub]
  omega

/-- The overflow of a subtraction: the processor's, and the simulator's on the result it reads
back. -/
theorem subOverflow_eq_iff (rD : Reg) (i : Or1200.AluIn) (gpr : Reg → U32) :
    Insn.subOverflow i.a i.b (setReg gpr rD (i.a - i.b) rD) = Or1200.ovSum .sub i ↔
      if rD = 0 then
        (0 ≤ i.a.toInt ∧ 0 ≤ i.a.toInt - i.b.toInt ∧ i.a.toInt - i.b.toInt < 2 ^ 31) ∨
        (i.a.toInt < 0 ∧ 0 < i.b.toInt ∧ i.a.toInt - i.b.toInt < -2 ^ 31) ∨
        (i.a.toInt < 0 ∧ i.b.toInt < 0 ∧ i.b.toInt ≠ -2 ^ 31)
      else
        ¬ (0 ≤ i.a.toInt ∧ i.a.toInt < i.b.toInt) ∧ ¬ (i.a.toInt < 0 ∧ i.b.toInt = -2 ^ 31) := by
  have hsign (x : U32) : x.getLsbD 31 = x.slt 0 := (BitVec.slt_zero_eq_msb (x := x)).symm
  have hslt (x : U32) : x.slt 0 = true ↔ x.toInt < 0 := by
    rw [BitVec.slt_eq_decide, decide_eq_true_iff]
    rfl
  have hneg := toInt_neg_eq i.b
  have hsub := toInt_sub_neg_iff i.a i.b
  have halo := i.a.le_two_mul_toInt
  have hahi := i.a.two_mul_toInt_lt
  have hblo := i.b.le_two_mul_toInt
  have hbhi := i.b.two_mul_toInt_lt
  rw [Bool.eq_iff_iff, Insn.subOverflow, Or1200.ovSum, resultSum_sub, Or1200.bMux_sub, setReg_self]
  simp only [hsign, Bool.or_eq_true, Bool.and_eq_true, Bool.not_eq_true', ← Bool.not_eq_true,
    hslt, beq_self_eq_true, and_true, hneg]
  -- the sign of the first operand decides which way the result can leave the range
  by_cases h0 : rD = 0
  · have hzero : (0 : U32).toInt = 0 := rfl
    simp only [if_pos h0, hzero, hsub]
    clear hneg hsub
    rcases lt_or_ge i.a.toInt 0 with ha | ha
    · have ha' : ¬ 0 ≤ i.a.toInt := not_le.mpr ha
      simp only [ha, ha', true_and, false_and, not_true, or_false, false_or]
      omega
    · have ha' : ¬ i.a.toInt < 0 := not_lt.mpr ha
      simp only [ha, ha', true_and, false_and, not_false_iff, or_false, false_or]
      omega
  · simp only [if_neg h0, hsub]
    clear hneg hsub
    rcases lt_or_ge i.a.toInt 0 with ha | ha
    · have ha' : ¬ 0 ≤ i.a.toInt := not_le.mpr ha
      simp only [ha, ha', true_and, false_and, not_true, not_false_iff, or_false, false_or]
      omega
    · have ha' : ¬ i.a.toInt < 0 := not_lt.mpr ha
      simp only [ha, ha', true_and, and_true, false_and, not_false_iff, or_false, false_or]
      omega

theorem outcome_sub (cpu : CPU) (cont : Control) :
    (Insn.sub cpu cont).outcome =
      { gpr := setReg cpu.gpr cont.rD (cpu.gpr cont.rA - cpu.gpr cont.rB)
        ov := Insn.subOverflow (cpu.gpr cont.rA) (cpu.gpr cont.rB)
          (setReg cpu.gpr cont.rD (cpu.gpr cont.rA - cpu.gpr cont.rB) cont.rD)
        cy := decide (cpu.gpr cont.rB > cpu.gpr cont.rA) } := by
  have hres : (calcAdd false (cpu.gpr cont.rA) (-cpu.gpr cont.rB)).res =
      cpu.gpr cont.rA - cpu.gpr cont.rB := by
    rw [calcAdd_res, BitVec.sub_eq_add_neg]
    exact BitVec.add_zero ..
  rw [Insn.sub, outcome_checkRange, outcome_setOv, outcome_setCy, outcome_addBase, hres]
  rw [Insn.addBase, hres]
  rfl

/-- A subtraction of the simulator leaves what the processor does under the condition on the
operands. -/
theorem outcome_sub_eq_iff (gpr : Reg → U32) {rD : Reg} {i : Or1200.AluIn}
    (hop : i.compOp.getLsbD 3 = rD.val.testBit 3) (before : U64) (ov cy : Bool) :
    ({ gpr := setReg gpr rD (i.a - i.b)
       ov := Insn.subOverflow i.a i.b (setReg gpr rD (i.a - i.b) rD)
       cy := decide (i.b > i.a) } : Outcome) =
      { gpr := setReg gpr rD (Or1200.aluResult .sub i before)
        ov := (Or1200.ovForward .sub i).next ov
        cy := (Or1200.aluCy .sub i).next cy } ↔ SubConforms rD i.a i.b := by
  have hresult : Or1200.aluResult .sub i before = i.a - i.b := resultSum_sub i
  have hforw : (Or1200.ovForward .sub i).next ov = Or1200.ovSum .sub i := by
    simp [Or1200.ovForward, Or1200.aluOv, Or1200.multMacOv, Or1200.Forward.merge,
      Or1200.Forward.next]
  have hcarry : (Or1200.aluCy .sub i).next cy = Or1200.cySub i := rfl
  rw [Outcome.mk_eq_mk_iff, hresult, hforw, hcarry, subOverflow_eq_iff, Or1200.cySub_eq_iff, hop,
    SubConforms]
  exact ⟨fun h => ⟨h.2.2, h.2.1⟩, fun h => ⟨rfl, h.2, h.1⟩⟩

/-! ### Multiplication -/

theorem calcMul_setWidth (a b : U32) : (calcMul a b).setWidth 32 = a * b := by
  refine BitVec.eq_of_toInt_eq ?_
  rw [BitVec.toInt_setWidth, BitVec.toInt_mul, ← calcMul_toInt, BitVec.toInt_eq_toNat_bmod,
    Int.bmod_bmod_of_dvd (by decide)]

theorem calcMulu_setWidth (a b : U32) : (calcMulu a b).setWidth 32 = a * b := by
  refine BitVec.eq_of_toNat_eq ?_
  rw [BitVec.toNat_setWidth, calcMulu_toNat, BitVec.toNat_mul]

theorem calcMulu_gt_iff (a b : U32) :
    calcMulu a b > 0xffffffff ↔ 2 ^ 32 ≤ a.toNat * b.toNat := by
  rw [gt_iff_lt, BitVec.lt_def, calcMulu_toNat]
  exact Nat.succ_le_iff.symm

/-- The overflow of a signed product in the simulator. -/
theorem calcMul_overflow_iff (a b : U32) :
    ((calcMul a b).slt 0xffffffff80000000 || BitVec.slt 0x7fffffff (calcMul a b)) = true ↔
      a.toInt * b.toInt < -2 ^ 31 ∨ 2 ^ 31 ≤ a.toInt * b.toInt := by
  rw [Bool.or_eq_true, BitVec.slt_eq_decide, BitVec.slt_eq_decide, decide_eq_true_iff,
    decide_eq_true_iff, calcMul_toInt]
  exact or_congr Iff.rfl Int.add_one_le_iff.symm

/-- The upper half of the processor's product is zero when the product of the operands as signed
integers is an unsigned word. -/
theorem mulProd_high_iff (op : Or1200.AluOp) (a b : U32) :
    (Or1200.mulProd op a b).extractLsb' 32 32 != 0 ↔
      ¬ (0 ≤ (Or1200.mulX op a).toInt * (Or1200.mulX op b).toInt ∧
        (Or1200.mulX op a).toInt * (Or1200.mulX op b).toInt < 2 ^ 32) := by
  have hlt := (Or1200.mulProd op a b).isLt
  rw [← Or1200.toInt_mulProd, bne_iff_ne, ne_eq, ← BitVec.toNat_inj, Or1200.toNat_extractLsb',
    BitVec.toInt_eq_toNat_cond]
  change ¬ (_ = 0) ↔ _
  omega

/-- The overflow of a signed product in the processor, on the product it computes. -/
theorem mul_ovforw_toNat (a b : U32) :
    (Or1200.multMacOv .mul a b).forw = true ↔
      2 ^ 31 ≤ (Or1200.mulProd .mul a b).toNat ∧
        ¬ ((a.msb ^^ b.msb) = true ∧ (Or1200.mulProd .mul a b).toNat = 2 ^ 31) := by
  have hlt := (Or1200.mulProd .mul a b).isLt
  have hbit : (Or1200.mulProd .mul a b).getLsbD 31 = true ↔
      (Or1200.mulProd .mul a b).toNat / 2 ^ 31 % 2 = 1 := by
    rw [BitVec.getLsbD, Nat.testBit_eq_decide_div_mod_eq, decide_eq_true_iff]
  have hzero (start len : ℕ) : (Or1200.mulProd .mul a b).extractLsb' start len = 0 ↔
      (Or1200.mulProd .mul a b).toNat / 2 ^ start % 2 ^ len = 0 := by
    rw [← Or1200.toNat_extractLsb', ← BitVec.toNat_inj]
    exact Iff.rfl
  have hmsb (x : U32) : x.getLsbD 31 = x.msb := rfl
  simp only [Or1200.multMacOv, hmsb]
  generalize (a.msb ^^ b.msb) = neg
  simp only [Bool.or_eq_true, Bool.and_eq_true, Bool.not_eq_true', ← Bool.not_eq_true, hbit,
    beq_iff_eq, bne_iff_ne, ne_eq, hzero]
  cases neg
  · simp only [Bool.false_eq_true, false_and, not_false_iff, and_true]
    omega
  · simp only [true_and]
    omega

/-- A magnitude read as a signed word. -/
theorem toInt_abs (a : U32) :
    a.abs.toInt = if a.toInt = -2 ^ 31 then -2 ^ 31 else (a.toInt.natAbs : ℤ) := by
  have hlo := a.le_two_mul_toInt
  have hhi := a.two_mul_toInt_lt
  rw [BitVec.toInt_eq_toNat_cond (x := a.abs), SignMagnitude.toNat_abs]
  omega

theorem toInt_mulProd_mul (a b : U32) :
    (Or1200.mulProd .mul a b).toInt = a.abs.toInt * b.abs.toInt := by
  rw [Or1200.toInt_mulProd, Or1200.mulX_of_signed (.inr rfl), Or1200.mulX_of_signed (.inr rfl)]

/-- The overflow test of a signed product, on the operands. -/
def MulOverflows (a b : U32) : Prop :=
  (a.toInt * b.toInt < -2 ^ 31 ∨ 2 ^ 31 ≤ a.toInt * b.toInt) ∨
    (a.toInt = -2 ^ 31 ∧ b.toInt = 1) ∨ (a.toInt = 1 ∧ b.toInt = -2 ^ 31)

theorem mulOverflows_comm (a b : U32) : MulOverflows a b ↔ MulOverflows b a := by
  rw [MulOverflows, MulOverflows, mul_comm]
  tauto

theorem mul_ovforw_comm (a b : U32) :
    (Or1200.multMacOv .mul a b).forw = (Or1200.multMacOv .mul b a).forw := by
  simp only [Or1200.multMacOv, Or1200.mulProd, BitVec.mul_comm, Bool.xor_comm]

/-- The least integer is its own magnitude: the product of the magnitudes is not positive. -/
theorem mul_ovforw_of_intMin {a : U32} (ha : a.toInt = -2 ^ 31) (b : U32) :
    (Or1200.multMacOv .mul a b).forw = true ↔ MulOverflows a b := by
  have hprod := toInt_mulProd_mul a b
  have hn := (Or1200.mulProd .mul a b).isLt
  have hblo := b.le_two_mul_toInt
  have hbhi := b.two_mul_toInt_lt
  rw [mul_ovforw_toNat, MulOverflows, BitVec.msb_eq_toInt, BitVec.msb_eq_toInt]
  rw [toInt_abs, toInt_abs, if_pos ha, BitVec.toInt_eq_toNat_cond] at hprod
  rw [ha]
  generalize (Or1200.mulProd .mul a b).toNat = n at *
  by_cases hneg : b.toInt < 0
  · simp [hneg]
    omega
  · simp [hneg]
    omega

/-- A product of other operands has the product of their magnitudes. -/
theorem mul_ovforw_of_ne {a b : U32} (ha : a.toInt ≠ -2 ^ 31) (hb : b.toInt ≠ -2 ^ 31) :
    (Or1200.multMacOv .mul a b).forw = true ↔ MulOverflows a b := by
  have hprod := toInt_mulProd_mul a b
  have hn := (Or1200.mulProd .mul a b).isLt
  have hm := SignMagnitude.two_mul_toNat_abs_le a
  have hk := SignMagnitude.two_mul_toNat_abs_le b
  rw [SignMagnitude.toNat_abs] at hm hk
  have hle : 4 * (a.toInt * b.toInt).natAbs ≤ 2 ^ 64 := by
    rw [Int.natAbs_mul]
    linarith [Nat.mul_le_mul hm hk]
  have hsign : (a.msb ^^ b.msb) = true ∧ a.toInt * b.toInt ≤ 0 ∨
      (a.msb ^^ b.msb) = false ∧ 0 ≤ a.toInt * b.toInt := by
    rw [BitVec.msb_eq_toInt, BitVec.msb_eq_toInt]
    rcases lt_or_ge a.toInt 0 with hx | hx <;> rcases lt_or_ge b.toInt 0 with hy | hy
    · exact .inr ⟨by simp [hx, hy], (mul_pos_of_neg_of_neg hx hy).le⟩
    · exact .inl ⟨by simp [hx, hy], mul_nonpos_of_nonpos_of_nonneg hx.le hy⟩
    · exact .inl ⟨by simp [hx, hy], mul_nonpos_of_nonneg_of_nonpos hx hy.le⟩
    · exact .inr ⟨by simp [hx.not_gt, hy.not_gt], mul_nonneg hx hy⟩
  rw [mul_ovforw_toNat, MulOverflows]
  rw [toInt_abs, toInt_abs, if_neg ha, if_neg hb, ← Nat.cast_mul, ← Int.natAbs_mul,
    BitVec.toInt_eq_toNat_cond] at hprod
  generalize (Or1200.mulProd .mul a b).toNat = n at *
  generalize a.toInt * b.toInt = p at *
  rcases hsign with ⟨hs, hp⟩ | ⟨hs, hp⟩
  · simp only [hs, true_and]
    omega
  · simp only [hs, Bool.false_eq_true, false_and, not_false_iff, and_true]
    omega

/-- The overflow of a signed product in the processor. -/
theorem mul_ovforw_iff (a b : U32) :
    (Or1200.multMacOv .mul a b).forw = true ↔ MulOverflows a b := by
  by_cases ha : a.toInt = -2 ^ 31
  · exact mul_ovforw_of_intMin ha b
  · by_cases hb : b.toInt = -2 ^ 31
    · rw [mul_ovforw_comm, mulOverflows_comm]
      exact mul_ovforw_of_intMin hb a
    · exact mul_ovforw_of_ne ha hb

/-- A multiplication of the simulator leaves what the processor does under the condition on the
operands. -/
theorem outcome_mulShared_eq_iff (cpu : CPU) (rD : Reg) (i : Or1200.AluIn) (before : U64)
    (ov cy : Bool) :
    (Insn.mulShared cpu i.a i.b rD).outcome =
      { gpr := setReg cpu.gpr rD (Or1200.aluResult .mul i before)
        ov := (Or1200.ovForward .mul i).next ov
        cy := (Or1200.aluCy .mul i).next cy } ↔ MulConforms i.a i.b cy := by
  have hresult : (calcMul i.a i.b).setWidth 32 = Or1200.aluResult .mul i before := by
    rw [calcMul_setWidth, Or1200.aluResult, Or1200.signedResult_mul]
  have hforw : (Or1200.ovForward .mul i).next ov = (Or1200.multMacOv .mul i.a i.b).forw := by
    simp [Or1200.ovForward, Or1200.aluOv, Or1200.Forward.merge, Or1200.Forward.next,
      Or1200.multMacOv]
  have hcarry : (Or1200.aluCy .mul i).next cy = cy := rfl
  have hexact : (i.a.toInt = -2 ^ 31 ∧ i.b.toInt = 1) ∨ (i.a.toInt = 1 ∧ i.b.toInt = -2 ^ 31) →
      ¬ (i.a.toInt * i.b.toInt < -2 ^ 31 ∨ 2 ^ 31 ≤ i.a.toInt * i.b.toInt) := by
    rintro (⟨ha, hb⟩ | ⟨ha, hb⟩)
    · rw [ha, hb]
      decide
    · rw [ha, hb]
      decide
  have hov : ((calcMul i.a i.b).slt 0xffffffff80000000 ||
        BitVec.slt 0x7fffffff (calcMul i.a i.b)) = (Or1200.multMacOv .mul i.a i.b).forw ↔
      ¬ (i.a.toInt = -2 ^ 31 ∧ i.b.toInt = 1) ∧ ¬ (i.a.toInt = 1 ∧ i.b.toInt = -2 ^ 31) := by
    rw [Bool.eq_iff_iff, calcMul_overflow_iff, mul_ovforw_iff, MulOverflows, ← not_or]
    exact ⟨fun h hcase => hexact hcase (h.mpr (.inr hcase)),
      fun h => ⟨.inl, fun h' => h'.resolve_right h⟩⟩
  have hcy : decide (calcMulu i.a i.b > 0xffffffff) = cy ↔
      (cy = true ↔ 2 ^ 32 ≤ i.a.toNat * i.b.toNat) := by
    rw [Bool.eq_iff_iff, decide_eq_true_iff, calcMulu_gt_iff]
    exact Iff.comm
  rw [outcome_mulShared, Outcome.mk_eq_mk_iff, hresult, hforw, hcarry, hov, hcy, MulConforms]
  exact ⟨fun h => ⟨h.2.2, h.2.1⟩, fun h => ⟨rfl, h.2, h.1⟩⟩

/-- An unsigned multiplication. -/
theorem outcome_mulu_eq_iff (gpr : Reg → U32) (rD : Reg) (i : Or1200.AluIn) (before : U64)
    (ov cy : Bool) :
    ({ gpr := setReg gpr rD ((calcMulu i.a i.b).setWidth 32)
       ov := false
       cy := decide (calcMulu i.a i.b > 0xffffffff) } : Outcome) =
      { gpr := setReg gpr rD (Or1200.aluResult .mulu i before)
        ov := (Or1200.ovForward .mulu i).next ov
        cy := (Or1200.aluCy .mulu i).next cy } ↔ MuluConforms i.a i.b cy := by
  have hx (x : U32) : Or1200.mulX .mulu x = x := Or1200.mulX_of_unsigned (by decide) x
  have hresult : (calcMulu i.a i.b).setWidth 32 = Or1200.aluResult .mulu i before := by
    rw [calcMulu_setWidth, Or1200.aluResult, Or1200.mulProd_low, hx, hx]
  have hforw : (Or1200.ovForward .mulu i).next ov =
      ((Or1200.mulProd .mulu i.a i.b).extractLsb' 32 32 != 0) := rfl
  have hov : false = ((Or1200.mulProd .mulu i.a i.b).extractLsb' 32 32 != 0) ↔
      0 ≤ i.a.toInt * i.b.toInt ∧ i.a.toInt * i.b.toInt < 2 ^ 32 := by
    rw [eq_comm, ← Bool.not_eq_true, mulProd_high_iff, not_not, hx, hx]
  have hcy : decide (calcMulu i.a i.b > 0xffffffff) = (Or1200.aluCy .mulu i).next cy ↔
      (cy = true ↔ 2 ^ 32 ≤ i.a.toNat * i.b.toNat) := by
    rw [Bool.eq_iff_iff, decide_eq_true_iff, calcMulu_gt_iff]
    exact Iff.comm
  rw [Outcome.mk_eq_mk_iff, hresult, hforw, hov, hcy, MuluConforms]
  exact ⟨fun h => ⟨h.2.2, h.2.1⟩, fun h => ⟨rfl, h.2, h.1⟩⟩

/-! ### Division -/

theorem eq_intMin_iff (a : U32) : a = BitVec.intMin 32 ↔ a.toInt = -2 ^ 31 :=
  BitVec.toInt_inj.symm

theorem eq_negOne_iff (b : U32) : b = 0xffffffff ↔ b.toInt = -1 :=
  BitVec.toInt_inj.symm

/-- The overflow flag of a division in the processor. -/
theorem div_ovforw_iff {op : Or1200.AluOp} (hop : op = .div ∨ op = .divu) (i : Or1200.AluIn)
    (ov : Bool) :
    false = (Or1200.ovForward op i).next ov ↔
      i.b ≠ 0 ∧ ¬ (i.a.toInt = -2 ^ 31 ∧ i.b.toInt = -1) := by
  have hforw : (Or1200.ovForward op i).next ov =
      (i.b == 0 || (i.a == 0x80000000 && i.b == 0xffffffff)) := by
    rcases hop with rfl | rfl
    · simp [Or1200.ovForward, Or1200.aluOv, Or1200.Forward.merge, Or1200.Forward.next,
        Or1200.multMacOv, Or1200.divByZero]
    · simp [Or1200.ovForward, Or1200.aluOv, Or1200.Forward.merge, Or1200.Forward.next,
        Or1200.multMacOv, Or1200.divByZero]
  have hmin : BitVec.intMin 32 = 0x80000000 := rfl
  rw [hforw, ← eq_intMin_iff, ← eq_negOne_iff, hmin, eq_comm, ← Bool.not_eq_true, Bool.or_eq_true,
    Bool.and_eq_true, beq_iff_eq, beq_iff_eq, beq_iff_eq, not_or]

theorem toNat_pos {x : U32} (hx : x ≠ 0) : 0 < x.toNat :=
  Nat.pos_of_ne_zero fun h => hx (BitVec.eq_of_toNat_eq h)

/-- The quotient of a signed division in the processor. -/
theorem aluResult_div {i : Or1200.AluIn} (hb : i.b ≠ 0) (before : U64) :
    Or1200.aluResult .div i before = i.a.sdiv i.b := by
  have hzero : ¬ (Or1200.divByZero .div i.b = true) := by
    simp [Or1200.divByZero]
    exact hb
  have hle := SignMagnitude.two_mul_toNat_abs_le i.b
  have hquot := (Or1200.divShifts_eq_udiv_iff (x := i.a.abs)
    (toNat_pos (SignMagnitude.abs_ne_zero hb))).mpr (.inl (by omega))
  rw [Or1200.aluResult, Or1200.divQuotR_eq, if_neg hzero, Or1200.mulX_of_signed (.inl rfl),
    Or1200.mulX_of_signed (.inl rfl), hquot, Or1200.signedResult_eq,
    SignMagnitude.sdiv_eq_withSign]

/-- The quotient of an unsigned division in the processor. -/
theorem aluResult_divu_iff {i : Or1200.AluIn} (hb : i.b ≠ 0) (before : U64) :
    Or1200.aluResult .divu i before = i.a / i.b ↔
      i.b.toNat ≤ 2 ^ 31 ∨ i.b.toNat = 2 ^ 31 + 1 ∧ 2 ^ 31 ≤ i.a.toNat := by
  have hzero : ¬ (Or1200.divByZero .divu i.b = true) := by
    simp [Or1200.divByZero]
    exact hb
  rw [Or1200.aluResult, Or1200.divQuotR_eq, if_neg hzero, Or1200.mulX_of_unsigned (by decide),
    Or1200.mulX_of_unsigned (by decide), Or1200.divShifts_eq_udiv_iff (toNat_pos hb)]

/-- The updates of a division: the quotient `quot` of a non-zero divisor, OV and CY. -/
theorem outcome_division (cpu : CPU) (rD : Reg) (quot : U32) (p : Prop) [Decidable p] (cy : Bool) :
    (Insn.checkRange (cpuSetSrFlag (cpuSetSrFlag (if p then cpuSetGpr cpu rD quot else cpu)
      sprSrOv false) sprSrCy cy)).outcome =
      { gpr := if p then setReg cpu.gpr rD quot else cpu.gpr, ov := false, cy := cy } := by
  rw [outcome_checkRange, outcome_setCy, outcome_setOv]
  split_ifs <;> rfl

theorem outcome_or32Div {cpu : CPU} {cont : Control} (ha : cpu.gpr cont.rA ≠ BitVec.intMin 32)
    (hb : cpu.gpr cont.rB ≠ BitVec.intMin 32) (undef : ℕ → U32) :
    (Insn.or32Div undef cpu cont).outcome =
      { gpr := if cpu.gpr cont.rB ≠ 0 then
          setReg cpu.gpr cont.rD ((cpu.gpr cont.rA).sdiv (cpu.gpr cont.rB)) else cpu.gpr
        ov := false
        cy := cpu.gpr cont.rB == 0 } := by
  simp only [Insn.or32Div, ite_cNeg_eq_abs hb]
  rw [outcome_division]
  by_cases h0 : cpu.gpr cont.rB = 0
  · rw [h0]
    rfl
  · rw [if_pos (SignMagnitude.abs_ne_zero h0), if_pos h0, divQuotient_eq_sdiv h0 hb ha,
      beq_eq_false_iff_ne.mpr h0, beq_eq_false_iff_ne.mpr (SignMagnitude.abs_ne_zero h0)]

theorem outcome_divu (cpu : CPU) (cont : Control) :
    (Insn.divu cpu cont).outcome =
      { gpr := if cpu.gpr cont.rB ≠ 0 then
          setReg cpu.gpr cont.rD (cpu.gpr cont.rA / cpu.gpr cont.rB) else cpu.gpr
        ov := false
        cy := cpu.gpr cont.rB == 0 } := by
  rw [Insn.divu, outcome_division]
  by_cases hb : cpu.gpr cont.rB = 0
  · rw [if_neg (not_not.mpr hb), if_neg (not_not.mpr hb)]
  · have hquot : (calcDivu (cpu.gpr cont.rB) (cpu.gpr cont.rA)).1 =
        cpu.gpr cont.rA / cpu.gpr cont.rB :=
      BitVec.eq_of_toNat_eq (by rw [calcDivu_toNat hb, BitVec.toNat_udiv])
    rw [hquot]

/-- A division of the simulator and of the processor, where the quotients agree under `q`. -/
theorem outcome_division_eq_iff {op : Or1200.AluOp} (hop : op = .div ∨ op = .divu)
    {gpr : Reg → U32} {rD : Reg} {i : Or1200.AluIn} {before : U64} {quot : U32} {q : Prop}
    (hquot : i.b ≠ 0 → (quot = Or1200.aluResult op i before ↔ q)) (ov cy : Bool) :
    ({ gpr := if i.b ≠ 0 then setReg gpr rD quot else gpr
       ov := false
       cy := i.b == 0 } : Outcome) =
      { gpr := setReg gpr rD (Or1200.aluResult op i before)
        ov := (Or1200.ovForward op i).next ov
        cy := (Or1200.aluCy op i).next cy } ↔
      i.b ≠ 0 ∧ cy = false ∧ ¬ (i.a.toInt = -2 ^ 31 ∧ i.b.toInt = -1) ∧ (rD = 0 ∨ q) := by
  have hcy : (Or1200.aluCy op i).next cy = cy := by
    rcases hop with rfl | rfl <;> rfl
  rw [Outcome.mk_eq_mk_iff, div_ovforw_iff hop, hcy]
  by_cases hb : i.b = 0
  · simp [hb]
  · rw [if_pos hb, setReg_inj, hquot hb, beq_eq_false_iff_ne.mpr hb]
    constructor
    · rintro ⟨hreg, hov, hold⟩
      exact ⟨hb, hold.symm, hov.2, hreg⟩
    · rintro ⟨-, hold, hov, hreg⟩
      exact ⟨hreg, ⟨hb, hov⟩, hold.symm⟩

/-! ### All instructions -/

/-- Bit 3 of the comparison operation is bit 3 of the destination. -/
theorem compOp_bit (inst : U32) :
    (inst.extractLsb' 21 4).getLsbD 3 = (decode inst).rD.val.testBit 3 := by
  have hval : (decode inst).rD.val = (inst >>> 21 &&& 0x1f).toNat % 2 ^ 5 := rfl
  rw [hval, Nat.testBit_mod_two_pow]
  change _ = (decide (3 < 5) && (inst >>> 21 &&& 0x1f).getLsbD 3)
  rw [BitVec.getLsbD_extractLsb', BitVec.getLsbD_and, BitVec.getLsbD_ushiftRight]
  simp

/-- A signed division of operands with a magnitude. -/
theorem outcome_div_eq_iff {cpu : CPU} {inst : U32} (undef : ℕ → U32) (before : U64)
    (ha : cpu.gpr (decode inst).rA ≠ BitVec.intMin 32)
    (hb : cpu.gpr (decode inst).rB ≠ BitVec.intMin 32) :
    (Insn.or32Div undef cpu (decode inst)).outcome = ArithInsn.div.process cpu inst before ↔
      cpu.gpr (decode inst).rB ≠ 0 ∧ cpuIsSetSrFlag cpu sprSrCy = false := by
  rw [outcome_or32Div ha hb]
  refine (outcome_division_eq_iff (.inl rfl) (i := ArithInsn.div.aluIn cpu inst) (q := True)
    (fun h0 => iff_of_true (aluResult_div h0 before).symm trivial) ..).trans ?_
  refine ⟨fun h => ⟨h.1, h.2.1⟩, fun h => ⟨h.1, h.2, fun hmin => ?_, .inr trivial⟩⟩
  exact ha ((eq_intMin_iff _).mpr hmin.1)

/-- With the overflow exception disabled the simulator agrees with the processor exactly when the
operands, the destination and the old carry meet the condition of the instruction. -/
theorem ArithInsn.agrees_iff (insn : ArithInsn) (undef : ℕ → U32) {cpu : CPU}
    (hove : cpuIsSetSrFlag cpu sprSrOve = false) (inst : U32) (before : U64) :
    insn.Agrees undef cpu inst before ↔
      insn.Conforms (decode inst).rD (insn.aluIn cpu inst).a (insn.aluIn cpu inst).b
        (cpuIsSetSrFlag cpu sprSrCy) := by
  have hadd (carryIn : Bool) (a b : U32) := checkRange_of_computes hove
    ((Computes.refl cpu).addBase carryIn (decode inst).rD a b)
  have hmul (a b : U32) := checkRange_of_computes hove
    ((Computes.refl cpu).mulShared a b (decode inst).rD)
  -- only a division computes with operations that may be undefined
  have htotal (insn : ArithInsn) (h : ∀ a b, insn.Defined a b) :
      insn.Agrees undef cpu inst before ↔
        (insn.simulate undef cpu (decode inst)).outcome = insn.process cpu inst before :=
    ⟨fun hagrees => hagrees.outcome, fun houtcome => ⟨houtcome, h ..⟩⟩
  cases insn with
  | add =>
    refine (htotal add fun _ _ => trivial).trans (iff_of_true ?_ trivial)
    rw [simulate, Insn.add, hadd]
    exact outcome_addBase_eq (.inl rfl) cpu _ (aluIn add cpu inst) rfl ..
  | addi =>
    refine (htotal addi fun _ _ => trivial).trans (iff_of_true ?_ trivial)
    rw [simulate, Insn.addi, hadd]
    exact outcome_addBase_eq (.inl rfl) cpu _ (aluIn addi cpu inst) rfl ..
  | addc =>
    refine (htotal addc fun _ _ => trivial).trans (iff_of_true ?_ trivial)
    rw [simulate, Insn.addc, hadd]
    exact outcome_addBase_eq (.inr rfl) cpu _ (aluIn addc cpu inst) rfl ..
  | addic =>
    refine (htotal addic fun _ _ => trivial).trans (iff_of_true ?_ trivial)
    rw [simulate, Insn.addic, hadd]
    exact outcome_addBase_eq (.inr rfl) cpu _ (aluIn addic cpu inst) rfl ..
  | sub =>
    rw [htotal sub fun _ _ => trivial, simulate, outcome_sub]
    exact outcome_sub_eq_iff _ (i := aluIn sub cpu inst) (compOp_bit inst) ..
  | mul =>
    rw [htotal mul fun _ _ => trivial, simulate, Insn.mul, hmul]
    exact outcome_mulShared_eq_iff cpu _ (aluIn mul cpu inst) ..
  | muli =>
    rw [htotal muli fun _ _ => trivial, simulate, Insn.muli, hmul]
    exact outcome_mulShared_eq_iff cpu _ (aluIn muli cpu inst) ..
  | mulu =>
    rw [htotal mulu fun _ _ => trivial, simulate, outcome_mulu]
    exact outcome_mulu_eq_iff _ _ (aluIn mulu cpu inst) ..
  | div =>
    have hdefined := isSome_divQuotientDefined_iff (cpu.gpr (decode inst).rB)
      (cpu.gpr (decode inst).rA)
    change _ ↔ DivConforms (cpu.gpr (decode inst).rA) (cpu.gpr (decode inst).rB) _
    rw [DivConforms, ne_eq (BitVec.toInt _), ne_eq (BitVec.toInt _), ← eq_intMin_iff,
      ← eq_intMin_iff]
    constructor
    · intro h
      obtain ⟨hb, ha⟩ := hdefined.mp h.defined
      obtain ⟨h0, hcy⟩ := (outcome_div_eq_iff undef before ha hb).mp h.outcome
      exact ⟨h0, ha, hb, hcy⟩
    · rintro ⟨h0, ha, hb, hcy⟩
      exact ⟨(outcome_div_eq_iff undef before ha hb).mpr ⟨h0, hcy⟩, hdefined.mpr ⟨hb, ha⟩⟩
  | divu =>
    rw [htotal divu fun _ _ => trivial, simulate, outcome_divu]
    exact outcome_division_eq_iff (.inr rfl) (i := aluIn divu cpu inst)
      (fun hb => eq_comm.trans (aluResult_divu_iff hb before)) ..

/-- A state with `a` in register 3 and `b` in register 4. -/
def operandsAt (a b : U32) : CPU :=
  { (default : CPU) with gpr := fun r => if r = 3 then a else if r = 4 then b else 0 }

/-- `l.divu r5,r3,r4`. -/
def divuWord : U32 := 0xe0a3230a

theorem ArithInsn.agrees_iff_divu :
    divu.Agrees (fun _ => 0) (operandsAt 7 2) divuWord 0 ↔ DivuConforms 5 7 2 false :=
  ArithInsn.agrees_iff divu (fun _ => 0)
    (show cpuIsSetSrFlag (operandsAt 7 2) sprSrOve = false by decide) divuWord 0

/-- A division by zero sets CY in the simulator and OV in the processor. -/
theorem ArithInsn.not_agrees_divu : ¬ ∃ undef, divu.Agrees undef (operandsAt 1 0) divuWord 0 :=
  fun ⟨_, h⟩ => absurd (congrArg Outcome.ov h.outcome)
    (show ¬ (Insn.divu (operandsAt 1 0) (decode divuWord)).outcome.ov =
      (divu.process (operandsAt 1 0) divuWord 0).ov by decide)

end WirePatch
