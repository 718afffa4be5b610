import WirePatch.Foundations.ByteMemory
import WirePatch.Hardware.Operands

/-!
# Load and store unit of the processor

The access the OR1200 core makes for a load or a store in its EX stage: the decoder of the
operation (`or1200_ctrl.v`, lines 1103–1146), the registers of the unit and of its operands
(`or1200_lsu.v`, lines 128–174; `or1200_operandmuxes.v`, lines 97–127; `or1200_ctrl.v`,
lines 257–266), the freeze signals of the two stages (`or1200_freeze.v`, lines 132–137), the
aligners of the data (`or1200_mem2reg.v`, lines 387–437; `or1200_reg2mem.v`, lines 99–139), and the
byte lanes of the memory that serves the request (`ram_wb_b3.v`, lines 144–147). The low bits of
the address are added a cycle early, in the ID stage, and the unit refuses a misaligned access
before it reaches the bus.

## Main definitions

* `Or1200.idLsuOp`, `Or1200.alignFault`, `Or1200.dcpuSel`, `Or1200.mem2reg`, `Or1200.reg2mem`.
* `Or1200.LsuRegs`, `Or1200.LsuIn`, `Or1200.LsuRegs.step`: the registers of the EX stage.
* `Or1200.LsuRegs.issued`: the registers after an instruction entered the stage.

## Main results

* `Or1200.dcpuAdr_eq`: the early sum and the late one make the address.
* `Or1200.LsuRegs.run_of_lastActive`, `Or1200.LsuRegs.exists_lastActive_of_busy`: whatever the unit
  works on entered the stage in one cycle, with its operands.
-/

namespace WirePatch.Or1200

/-! ### Operations -/

namespace Lsuop

def nop : BitVec 4 := 0b0000
def lbz : BitVec 4 := 0b0010
def lbs : BitVec 4 := 0b0011
def lhz : BitVec 4 := 0b0100
def lhs : BitVec 4 := 0b0101
def lwz : BitVec 4 := 0b0110
def lws : BitVec 4 := 0b0111
def sb : BitVec 4 := 0b1010
def sh : BitVec 4 := 0b1100
def sw : BitVec 4 := 0b1110

end Lsuop

/-- `id_lsu_op`, by the opcode. -/
def lsuOpOf (op : BitVec 6) : BitVec 4 :=
  if op = Or32.lwz then Lsuop.lwz
  else if op = Or32.lws then Lsuop.lws
  else if op = Or32.lbz then Lsuop.lbz
  else if op = Or32.lbs then Lsuop.lbs
  else if op = Or32.lhz then Lsuop.lhz
  else if op = Or32.lhs then Lsuop.lhs
  else if op = Or32.sw then Lsuop.sw
  else if op = Or32.sb then Lsuop.sb
  else if op = Or32.sh then Lsuop.sh
  else Lsuop.nop

/-- `id_lsu_op`. -/
def idLsuOp (idInsn : BitVec 32) : BitVec 4 :=
  lsuOpOf (idInsn.extractLsb' 26 6)

/-! ### Addresses -/

/-- `id_precalc_sum`: the low two bits of the address and the carry out of them. -/
def idPrecalcSum (idAddrbase idAddrofs : BitVec 32) : BitVec 3 :=
  (idAddrbase.extractLsb' 0 2).setWidth 3 + (idAddrofs.extractLsb' 0 2).setWidth 3

/-- `except_align`, for an operation and the early sum of its address. -/
def alignFault (op : BitVec 4) (sum : BitVec 3) : Bool :=
  (op == Lsuop.sh || op == Lsuop.lhz || op == Lsuop.lhs) && sum.getLsbD 0 ||
    (op == Lsuop.sw || op == Lsuop.lwz || op == Lsuop.lws) && sum.extractLsb' 0 2 != 0

/-- `dcpu_adr_o`: the high bits are added in the EX stage, with the carry out of the early sum. -/
def dcpuAdr (exAddrbase exAddrofs : BitVec 32) (dcpuAdrR : BitVec 3) : BitVec 32 :=
  (exAddrbase.extractLsb' 2 30 +
      (exAddrofs.extractLsb' 2 30 + (BitVec.ofBool (dcpuAdrR.getLsbD 2)).setWidth 30)) ++
    dcpuAdrR.extractLsb' 0 2

/-- `dcpu_sel_o`, the byte lanes of an access, the lane of the lowest address at the top. -/
def dcpuSel (op : BitVec 4) (adr : BitVec 2) : BitVec 4 :=
  if op = Lsuop.sb ∨ op = Lsuop.lbz ∨ op = Lsuop.lbs then
    if adr = 0 then 0b1000 else if adr = 1 then 0b0100 else if adr = 2 then 0b0010 else 0b0001
  else if op = Lsuop.sh ∨ op = Lsuop.lhz ∨ op = Lsuop.lhs then
    if adr = 0 then 0b1100 else if adr = 2 then 0b0011 else 0b0000
  else if op = Lsuop.sw ∨ op = Lsuop.lwz ∨ op = Lsuop.lws then
    if adr = 0 then 0b1111 else 0b0000
  else
    0b0000

/-! ### Data -/

/-- `aligned` of `or1200_mem2reg`: the bytes from the address on, moved to the top. -/
def aligned (adr : BitVec 2) (memdata : BitVec 32) : BitVec 32 :=
  if adr = 0 then memdata
  else if adr = 1 then memdata.extractLsb' 0 24 ++ 0#8
  else if adr = 2 then memdata.extractLsb' 0 16 ++ 0#16
  else memdata.extractLsb' 0 8 ++ 0#24

/-- `or1200_mem2reg`: the value a load puts in its register. -/
def mem2reg (op : BitVec 4) (adr : BitVec 2) (memdata : BitVec 32) : BitVec 32 :=
  let v := aligned adr memdata
  if op = Lsuop.lbz then (v.extractLsb' 24 8).zeroExtend 32
  else if op = Lsuop.lbs then (v.extractLsb' 24 8).signExtend 32
  else if op = Lsuop.lhz then (v.extractLsb' 16 16).zeroExtend 32
  else if op = Lsuop.lhs then (v.extractLsb' 16 16).signExtend 32
  else v

/-- `or1200_reg2mem`: the word a store puts on the bus. -/
def reg2mem (op : BitVec 4) (adr : BitVec 2) (regdata : BitVec 32) : BitVec 32 :=
  let hh : BitVec 8 :=
    if op = Lsuop.sb ∧ adr = 0 then regdata.extractLsb' 0 8
    else if op = Lsuop.sh ∧ adr = 0 then regdata.extractLsb' 8 8
    else regdata.extractLsb' 24 8
  let hl : BitVec 8 :=
    if op = Lsuop.sw ∧ adr = 0 then regdata.extractLsb' 16 8 else regdata.extractLsb' 0 8
  let lh : BitVec 8 :=
    if op = Lsuop.sb ∧ adr = 2 then regdata.extractLsb' 0 8 else regdata.extractLsb' 8 8
  let ll : BitVec 8 := regdata.extractLsb' 0 8
  hh ++ hl ++ lh ++ ll

/-- `wr_data` of `ram_wb_b3`: the lanes that are not selected keep the old word. -/
def wrData (sel : BitVec 4) (dat old : BitVec 32) : BitVec 32 :=
  let lane (k : ℕ) : BitVec 8 := (if sel.getLsbD k then dat else old).extractLsb' (8 * k) 8
  lane 3 ++ lane 2 ++ lane 1 ++ lane 0

/-! ### Registers of the EX stage -/

/-- The registers of the EX stage that make an access. -/
@[ext] structure LsuRegs where
  exLsuOp : BitVec 4
  dcpuAdrR : BitVec 3
  exceptAlign : Bool
  exSimm : BitVec 32
  operandA : Operand
  operandB : Operand

/-- The inputs of these registers: the instruction in the ID stage with its operands, the signals
that stall or flush the stages, and the answer of the bus. -/
structure LsuIn where
  rst : Bool
  idInsn : BitVec 32
  muxedA : BitVec 32
  muxedB : BitVec 32
  ifStall : Bool
  multicycleFreeze : Bool
  waitingOn : Bool
  duStall : Bool
  abortEx : Bool
  flushpipe : Bool
  dcpuAckI : Bool
  dcpuRtyI : Bool

namespace LsuRegs

/-- The registers in reset. -/
def reset : LsuRegs :=
  { exLsuOp := Lsuop.nop
    dcpuAdrR := 0
    exceptAlign := false
    exSimm := 0
    operandA := { val := 0, saved := false }
    operandB := { val := 0, saved := false } }

section Signals

variable (s : LsuRegs) (i : LsuIn)

/-- `dcpu_cycstb_o`; `lsu_unstall` is the acknowledgement. -/
def cycstb : Bool :=
  if i.duStall || i.dcpuAckI || s.exceptAlign then false else s.exLsuOp != 0

/-- `dcpu_we_o`. -/
def we : Bool := s.exLsuOp.getLsbD 3

/-- `dcpu_adr_o`. -/
def adr : BitVec 32 := dcpuAdr s.operandA.val s.exSimm s.dcpuAdrR

/-- `dcpu_sel_o`. -/
def sel : BitVec 4 := dcpuSel s.exLsuOp (s.adr.extractLsb' 0 2)

/-- `dcpu_dat_o`. -/
def dat : BitVec 32 := reg2mem s.exLsuOp (s.adr.extractLsb' 0 2) s.operandB.val

/-- `lsu_dataout`. -/
def dataout (dcpuDatI : BitVec 32) : BitVec 32 :=
  mem2reg s.exLsuOp (s.adr.extractLsb' 0 2) dcpuDatI

/-- `lsu_stall`. -/
def stall : Bool := i.dcpuRtyI && s.cycstb i

/-- What freezes both stages. -/
def pipeFreeze : Bool :=
  s.stall i || !i.dcpuAckI && i.ifStall || i.multicycleFreeze || i.waitingOn

/-- `id_freeze`; `force_dslot_fetch` is tied low. -/
def idFreeze : Bool := s.pipeFreeze i || i.duStall

/-- `ex_freeze`. -/
def exFreeze : Bool := s.pipeFreeze i || i.duStall || i.abortEx

/-- The control of the registers: a flush, or a bubble from the ID stage, clears the operation. -/
def control : Clocked.Control :=
  { rst := i.rst || (!s.exFreeze i && s.idFreeze i || i.flushpipe), enable := !s.exFreeze i }

/-- One step of the registers. -/
def step : LsuRegs :=
  let sum := idPrecalcSum i.muxedA (idSimm i.idInsn)
  let data : Clocked.Control := { rst := i.rst, enable := !s.exFreeze i }
  { exLsuOp := (s.control i).latch Lsuop.nop (idLsuOp i.idInsn) s.exLsuOp
    dcpuAdrR := data.latch 0 sum s.dcpuAdrR
    exceptAlign := (s.control i).latch false (alignFault (idLsuOp i.idInsn) sum) s.exceptAlign
    exSimm := data.latch 0 (idSimm i.idInsn) s.exSimm
    operandA := s.operandA.step i.rst (s.idFreeze i) (s.exFreeze i) i.muxedA
    operandB := s.operandB.step i.rst (s.idFreeze i) (s.exFreeze i) i.muxedB }

end Signals

/-- The registers once the instruction in the ID stage has entered the EX stage. -/
def issued (i : LsuIn) : LsuRegs :=
  { exLsuOp := idLsuOp i.idInsn
    dcpuAdrR := idPrecalcSum i.muxedA (idSimm i.idInsn)
    exceptAlign := alignFault (idLsuOp i.idInsn) (idPrecalcSum i.muxedA (idSimm i.idInsn))
    exSimm := idSimm i.idInsn
    operandA := { val := i.muxedA, saved := false }
    operandB := { val := i.muxedB, saved := false } }

/-- The registers in every cycle. -/
def run (x : ℕ → LsuIn) : ℕ → LsuRegs :=
  Clocked.run step reset x

end LsuRegs

/-! ### The address -/

theorem toNat_idPrecalcSum (base ofs : BitVec 32) :
    (idPrecalcSum base ofs).toNat = base.toNat % 4 + ofs.toNat % 4 := by
  simp only [idPrecalcSum, BitVec.toNat_add, BitVec.toNat_setWidth, BitVec.extractLsb'_toNat,
    Nat.shiftRight_zero]
  omega

/-- The early sum and the late one make the address. -/
theorem dcpuAdr_eq (base ofs : BitVec 32) :
    dcpuAdr base ofs (idPrecalcSum base ofs) = base + ofs := by
  have hsum := toNat_idPrecalcSum base ofs
  have hcarry : ((BitVec.ofBool ((idPrecalcSum base ofs).getLsbD 2)).setWidth 30).toNat =
      (base.toNat % 4 + ofs.toNat % 4) / 4 := by
    rw [show (idPrecalcSum base ofs).getLsbD 2 = (idPrecalcSum base ofs).msb from rfl,
      BitVec.msb_eq_decide, hsum]
    by_cases hle : 4 ≤ base.toNat % 4 + ofs.toNat % 4
    · rw [decide_eq_true hle]
      change 1 = _
      omega
    · rw [decide_eq_false hle]
      change 0 = _
      omega
  have hbase := base.isLt
  have hofs := ofs.isLt
  refine BitVec.eq_of_toNat_eq ?_
  rw [dcpuAdr, BitVec.toNat_append, ← Nat.shiftLeft_add_eq_or_of_lt (BitVec.isLt _),
    Nat.shiftLeft_eq, BitVec.toNat_add, BitVec.toNat_add, hcarry]
  simp only [BitVec.extractLsb'_toNat, Nat.shiftRight_eq_div_pow, hsum, BitVec.toNat_add]
  omega

/-- The early sum has the low bits of the address. -/
theorem toNat_idPrecalcSum_mod (base ofs : BitVec 32) :
    (idPrecalcSum base ofs).toNat % 4 = (base + ofs).toNat % 4 := by
  rw [toNat_idPrecalcSum, BitVec.toNat_add]
  omega

/-! ### Runs -/

namespace LsuRegs

variable {s : LsuRegs} {i : LsuIn}

/-- The ID stage never holds an instruction back while the EX stage moves on. -/
theorem exFreeze_of_idFreeze (h : s.idFreeze i = true) : s.exFreeze i = true := by
  rw [exFreeze, ← idFreeze, h, Bool.true_or]

theorem rst_control : (s.control i).rst = (i.rst || i.flushpipe) := by
  have hbubble : (!s.exFreeze i && s.idFreeze i) = false := by
    cases h : s.idFreeze i with
    | false => rw [Bool.and_false]
    | true => rw [exFreeze_of_idFreeze h, Bool.not_true, Bool.false_and]
  rw [control, hbubble, Bool.false_or]

/-- The stage holds its instruction: the registers keep their values. -/
theorem step_of_isIdle (h : (s.control i).IsIdle) : s.step i = s := by
  have hrst : i.rst = false ∧ i.flushpipe = false := by
    simpa [rst_control] using h.1
  have hfreeze : s.exFreeze i = true := by
    simpa [control] using h.2
  have hdata : ({ rst := i.rst, enable := !s.exFreeze i } : Clocked.Control).IsIdle :=
    ⟨hrst.1, h.2⟩
  refine LsuRegs.ext ?_ ?_ ?_ ?_ ?_ ?_
  · exact Clocked.Control.latch_of_isIdle h
  · exact Clocked.Control.latch_of_isIdle hdata
  · exact Clocked.Control.latch_of_isIdle h
  · exact Clocked.Control.latch_of_isIdle hdata
  · simp [step, Operand.step, hrst, hfreeze]
  · simp [step, Operand.step, hrst, hfreeze]

/-- Neither operand was saved ahead of its instruction. -/
def Unsaved (s : LsuRegs) : Prop :=
  s.operandA.saved = false ∧ s.operandB.saved = false

/-- The instruction in the ID stage enters the EX stage. -/
theorem step_of_isActive (h : (s.control i).IsActive) (hs : s.Unsaved) : s.step i = issued i := by
  have hrst : i.rst = false ∧ i.flushpipe = false := by
    simpa [rst_control] using h.1
  have hfreeze : s.exFreeze i = false := by
    simpa [control] using h.2
  have hidFreeze : s.idFreeze i = false := by
    cases hid : s.idFreeze i with
    | false => rfl
    | true => exact (exFreeze_of_idFreeze hid).symm.trans hfreeze
  have hdata : ({ rst := i.rst, enable := !s.exFreeze i } : Clocked.Control).IsActive :=
    ⟨hrst.1, h.2⟩
  refine LsuRegs.ext ?_ ?_ ?_ ?_ ?_ ?_
  · exact Clocked.Control.latch_of_isActive h
  · exact Clocked.Control.latch_of_isActive hdata
  · exact Clocked.Control.latch_of_isActive h
  · exact Clocked.Control.latch_of_isActive hdata
  · simp [step, Operand.step, hrst, hfreeze, hidFreeze, hs.1, issued]
  · simp [step, Operand.step, hrst, hfreeze, hidFreeze, hs.2, issued]

theorem saved_step {o : Operand} (ho : o.saved = false) (rst : Bool) (muxed : BitVec 32)
    {idF exF : Bool} (hfreeze : idF = true → exF = true) :
    (o.step rst idF exF muxed).saved = false := by
  cases rst <;> cases idF <;> cases exF <;> simp_all [Operand.step]

theorem Unsaved.step (hs : s.Unsaved) (i : LsuIn) : (s.step i).Unsaved :=
  ⟨saved_step hs.1 _ _ exFreeze_of_idFreeze, saved_step hs.2 _ _ exFreeze_of_idFreeze⟩

variable {x : ℕ → LsuIn} {t : ℕ}

theorem unsaved_run (x : ℕ → LsuIn) (t : ℕ) : (run x t).Unsaved := by
  induction t with
  | zero => exact ⟨rfl, rfl⟩
  | succ t ih => exact ih.step (x t)

/-- The control of the registers in every cycle of a run. -/
def controlAt (x : ℕ → LsuIn) (t : ℕ) : Clocked.Control :=
  (run x t).control (x t)

/-- While the instruction that entered the stage last is in it, so are its operands. -/
theorem run_of_lastActive {p : ℕ} (h : Clocked.LastActive (controlAt x) p t) :
    run x t = issued (x p) := by
  induction t with
  | zero => exact absurd h Clocked.not_lastActive_zero
  | succ t ih =>
    have hstep : run x (t + 1) = (run x t).step (x t) := rfl
    rcases (controlAt x t).rst_or_isActive_or_isIdle with hr | ha | hi
    · exact absurd h (Clocked.not_lastActive_succ_of_rst hr)
    · rw [hstep, step_of_isActive ha (unsaved_run x t),
        (Clocked.lastActive_succ_of_isActive ha).mp h]
    · rw [hstep, step_of_isIdle hi, ih ((Clocked.lastActive_succ_of_isIdle hi).mp h)]

/-- Whatever the unit works on entered the stage in one cycle: no reset, no flush and no other
instruction came since. -/
theorem exists_lastActive_of_busy
    (h : (run x t).exLsuOp ≠ Lsuop.nop ∨ (run x t).exceptAlign = true) :
    ∃ p, Clocked.LastActive (controlAt x) p t := by
  induction t with
  | zero =>
    rcases h with h | h
    · exact absurd rfl h
    · cases h
  | succ t ih =>
    have hstep : run x (t + 1) = (run x t).step (x t) := rfl
    rcases (controlAt x t).rst_or_isActive_or_isIdle with hr | ha | hi
    · have hop : (run x (t + 1)).exLsuOp = Lsuop.nop := Clocked.Control.latch_of_rst hr
      have halign : (run x (t + 1)).exceptAlign = false := Clocked.Control.latch_of_rst hr
      rw [hop, halign] at h
      rcases h with h | h
      · exact absurd rfl h
      · cases h
    · exact ⟨t, (Clocked.lastActive_succ_of_isActive ha).mpr rfl⟩
    · rw [hstep, step_of_isIdle hi] at h
      obtain ⟨p, hp⟩ := ih h
      exact ⟨p, (Clocked.lastActive_succ_of_isIdle hi).mpr hp⟩

@[simp] theorem adr_issued (i : LsuIn) : (issued i).adr = i.muxedA + idSimm i.idInsn :=
  dcpuAdr_eq ..

/-- A request is for an operation that is aligned. -/
theorem of_cycstb (h : s.cycstb i = true) : s.exceptAlign = false ∧ s.exLsuOp ≠ Lsuop.nop := by
  rw [cycstb] at h
  split_ifs at h with hoff
  refine ⟨?_, bne_iff_ne.mp h⟩
  simp only [Bool.or_eq_true, not_or, Bool.not_eq_true] at hoff
  exact hoff.2

end LsuRegs

end WirePatch.Or1200
