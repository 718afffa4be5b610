import WirePatch.Foundations.SyncRam
import WirePatch.Hardware.Ctrl
import Mathlib.Tactic.IntervalCases

/-!
# Operands of the processor

The stages of the OR1200 core between the fetch of an instruction and the write-back of its result:
the latches of the control unit (`or1200_ctrl.v`, lines 195–198, 417–440, 508–666 and 938–1040), the
register file of two memories of two ports (`or1200_rf.v`, `or1200_dpram.v`), the operand registers
with their forwarding (`or1200_operandmuxes.v`), the write-back multiplexer (`or1200_wbmux.v`) and
the signals that freeze the stages (`or1200_freeze.v`, lines 132–137). An instruction reads its
registers while the two before it are in flight, and takes the results of these from the two
forwarding paths.

`OR1200_RFRAM_DUALPORT`, `OR1200_MULT_IMPLEMENTED` and `OR1200_MAC_IMPLEMENTED` are defined in
`or1200_defines.v`, and `OR1200_FPU_IMPLEMENTED` is not.

## Main definitions

* `Or1200.readsA`, `Or1200.readsB`, `Or1200.selImmOf`, `Or1200.rfAddrwOf`, `Or1200.rfwbOpOf`: the
  decoder.
* `Or1200.Pipe`, `Or1200.PipeIn`, `Or1200.Pipe.step`: the stages.
* `Or1200.Pipe.gpr`: the registers of the program.

## Main results

* `Or1200.Pipe.wf_run`: what holds in every cycle.
* `Or1200.Pipe.operands_of_lastActive`: an instruction is executed with the registers that the
  instructions before it left.
-/

namespace WirePatch.Or1200

open Clocked SyncRam

/-! ### Decoder -/

/-- The instruction in a stage that was flushed. -/
def flushNop : BitVec 32 := 0x14410000

/-- `rf_rda`. -/
def readsA (insn : BitVec 32) : Bool := insn.getLsbD 31 || insn.extractLsb' 26 6 == Or32.maci

/-- `rf_rdb`. -/
def readsB (insn : BitVec 32) : Bool := insn.getLsbD 30

/-- `rf_addra`. -/
def addrAOf (insn : BitVec 32) : BitVec 5 := insn.extractLsb' 16 5

/-- `rf_addrb`. -/
def addrBOf (insn : BitVec 32) : BitVec 5 := insn.extractLsb' 11 5

/-- The opcodes with a register for a second operand. -/
def registerOps : List (BitVec 6) :=
  [Or32.jalr, Or32.jr, Or32.rfe, Or32.mfspr, Or32.mtspr, Or32.xsync, Or32.macmsb, Or32.sw, Or32.sb,
   Or32.sh, Or32.alu, Or32.sfxx, Or32.nop]

/-- `sel_imm`. -/
def selImmOf (insn : BitVec 32) : Bool := !registerOps.contains (insn.extractLsb' 26 6)

/-- `rf_addrw`. -/
def rfAddrwOf (insn : BitVec 32) : BitVec 5 :=
  let op := insn.extractLsb' 26 6
  if op = Or32.jal ∨ op = Or32.jalr then 9 else insn.extractLsb' 21 5

namespace RfwbOp

def nop : BitVec 4 := 0b0000
def alu : BitVec 4 := 0b0001
def lsu : BitVec 4 := 0b0011
def sprs : BitVec 4 := 0b0101
def lr : BitVec 4 := 0b0111

end RfwbOp

/-- The opcodes of the loads. -/
def loadOps : List (BitVec 6) := [Or32.lwz, Or32.lws, Or32.lbz, Or32.lbs, Or32.lhz, Or32.lhs]

/-- The opcodes with a result of the arithmetic unit. -/
def aluOps : List (BitVec 6) :=
  [Or32.movhi, Or32.addi, Or32.addic, Or32.andi, Or32.ori, Or32.xori, Or32.muli, Or32.shRoti,
   Or32.alu]

/-- `rfwb_op`. -/
def rfwbOpOf (insn : BitVec 32) : BitVec 4 :=
  let op := insn.extractLsb' 26 6
  if op = Or32.jal ∨ op = Or32.jalr then RfwbOp.lr
  else if op = Or32.mfspr then RfwbOp.sprs
  else if loadOps.contains op then RfwbOp.lsu
  else if aluOps.contains op then RfwbOp.alu
  else RfwbOp.nop

/-! ### Stages -/

/-- `operand_a` or `operand_b` of `or1200_operandmuxes`, with the flag `saved_a` or `saved_b`. -/
structure Operand where
  val : BitVec 32
  saved : Bool

/-- One step of an operand. -/
def Operand.step (o : Operand) (rst idFreeze exFreeze : Bool) (muxed : BitVec 32) : Operand :=
  if rst then { val := 0, saved := false }
  else if !exFreeze && idFreeze && !o.saved then { val := muxed, saved := true }
  else if !exFreeze && !o.saved then { o with val := muxed }
  else if !exFreeze && !idFreeze then { o with saved := false }
  else o

/-- The registers of the stages. -/
structure Pipe where
  idInsn : BitVec 32
  exInsn : BitVec 32
  selImm : Bool
  rfAddrw : BitVec 5
  rfwbOp : BitVec 4
  wbRfaddrw : BitVec 5
  muxreg : BitVec 32
  muxregValid : Bool
  rfA : Ram (BitVec 5) (BitVec 32)
  rfB : Ram (BitVec 5) (BitVec 32)
  addraLast : BitVec 5
  sprDuCs : Bool
  rfWeAllow : Bool
  operandA : BitVec 32
  operandB : BitVec 32
  savedA : Bool
  savedB : Bool

/-- The signals from outside the stages. Both `id_freeze` and `wb_freeze` are `stall`, the latter
with `abort_ex`; the four signals that flush a stage are one. -/
structure PipeIn where
  rst : Bool
  ifInsn : BitVec 32
  stall : Bool
  abortEx : Bool
  flushpipe : Bool
  aluDataout : BitVec 32
  lsuDataout : BitVec 32
  sprsDataout : BitVec 32
  exPc : BitVec 32
  spExceptionComb : Bool
  sprCs : Bool
  sprWrite : Bool
  sprAddr : BitVec 32
  sprDatI : BitVec 32
  duRead : Bool

namespace PipeIn

variable (i : PipeIn)

/-- `id_freeze`. -/
def idFreeze : Bool := i.stall

/-- `wb_freeze`. -/
def wbFreeze : Bool := i.stall || i.abortEx

/-- `ex_freeze`. -/
def exFreeze : Bool := i.wbFreeze

/-- `spr_valid`: the register file is accessed as special purpose registers. -/
def sprValid : Bool := i.sprCs && i.sprAddr.extractLsb' 5 6 == 32

/-- A register of the execute stage: a flushed stage gets `nop`. -/
def exStage {α : Type*} (nop data old : α) : α :=
  if i.rst then nop
  else if !i.exFreeze && i.idFreeze || i.flushpipe then nop
  else if !i.exFreeze then data
  else old

/-- The register file is not accessed as special purpose registers, and the debug unit does not
read. -/
structure Plain : Prop where
  sprValid : i.sprValid = false
  duRead : i.duRead = false

/-- The cycles in which the instruction in the execute stage leaves it. -/
def advance : Clocked.Control := { rst := i.rst, enable := !i.exFreeze }

end PipeIn

/-- `sel_a` and `sel_b`. -/
inductive Sel
  | rf
  | imm
  | exForw
  | wbForw
  deriving DecidableEq, Repr

namespace Pipe

section Signals

variable (s : Pipe) (i : PipeIn)

/-- `muxout`. -/
def muxout : BitVec 32 :=
  match (s.rfwbOp.extractLsb' 1 3).toNat with
  | 0 => i.aluDataout
  | 1 => i.lsuDataout
  | 2 => i.sprsDataout
  | 3 => i.exPc + 8
  | _ => 0

/-- `sel_a`. -/
def selA : Sel :=
  if addrAOf s.idInsn == s.rfAddrw && s.rfwbOp.getLsbD 0 then .exForw
  else if addrAOf s.idInsn == s.wbRfaddrw && s.muxregValid then .wbForw
  else .rf

/-- `sel_b`. -/
def selB : Sel :=
  if s.selImm then .imm
  else if addrBOf s.idInsn == s.rfAddrw && s.rfwbOp.getLsbD 0 then .exForw
  else if addrBOf s.idInsn == s.wbRfaddrw && s.muxregValid then .wbForw
  else .rf

/-- `muxed_a`. -/
def muxedA : BitVec 32 :=
  match s.selA with
  | .exForw => s.muxout i
  | .wbForw => s.muxreg
  | .rf | .imm => s.rfA.doq

/-- `muxed_b`. -/
def muxedB : BitVec 32 :=
  match s.selB with
  | .imm => idSimm s.idInsn
  | .exForw => s.muxout i
  | .wbForw => s.muxreg
  | .rf => s.rfB.doq

/-- `spr_cs_fe`. -/
def sprCsFe : Bool := s.sprDuCs && !(i.sprCs && i.duRead)

/-- `rf_ena`. -/
def rfEna : Bool :=
  readsA i.ifInsn && !i.idFreeze || i.sprValid && !i.sprWrite || s.sprCsFe i

/-- `rf_enb`. -/
def rfEnb : Bool := readsB i.ifInsn && !i.idFreeze

/-- `rf_addra`. -/
def rfAddra : BitVec 5 :=
  if i.sprValid && !i.sprWrite then i.sprAddr.extractLsb' 0 5
  else if s.sprCsFe i then s.addraLast
  else addrAOf i.ifInsn

/-- `rf_addrw` of the register file. -/
def fileAddrw : BitVec 5 :=
  if i.sprValid && i.sprWrite then i.sprAddr.extractLsb' 0 5 else s.rfAddrw

/-- `rf_dataw` of the register file. -/
def fileDataw : BitVec 32 :=
  if s.fileAddrw i = 0 then 0
  else if i.sprValid && i.sprWrite then i.sprDatI
  else s.muxout i

/-- `rf_we`. -/
def rfWe : Bool :=
  (i.sprValid && i.sprWrite || s.rfwbOp.getLsbD 0 && !i.wbFreeze) && s.rfWeAllow

/-- The ports of the first memory. -/
def portA : DualPort (BitVec 5) (BitVec 32) :=
  { ceA := s.rfEna i
    addrA := s.rfAddra i
    weB := s.rfWe i && !i.spExceptionComb
    addrB := s.fileAddrw i
    diB := s.fileDataw i }

/-- The ports of the second memory. -/
def portB : DualPort (BitVec 5) (BitVec 32) :=
  { s.portA i with ceA := rfEnb i, addrA := addrBOf i.ifInsn }

/-- An operand at the next clock edge. -/
def nextOperand (muxed operand : BitVec 32) (saved : Bool) : Operand :=
  Operand.step { val := operand, saved := saved } i.rst i.idFreeze i.exFreeze muxed

/-- One step of the stages. -/
def step : Pipe :=
  { idInsn :=
      if i.rst then flushNop
      else if i.flushpipe then flushNop
      else if !i.idFreeze then i.ifInsn
      else s.idInsn
    exInsn := i.exStage flushNop s.idInsn s.exInsn
    selImm := if i.rst then false else if !i.idFreeze then selImmOf i.ifInsn else s.selImm
    rfAddrw :=
      if i.rst then 0
      else if !i.exFreeze && i.idFreeze then 0
      else if !i.exFreeze then rfAddrwOf s.idInsn
      else s.rfAddrw
    rfwbOp := i.exStage RfwbOp.nop (rfwbOpOf s.idInsn) s.rfwbOp
    wbRfaddrw := i.advance.latch 0 s.rfAddrw s.wbRfaddrw
    muxreg := i.advance.latch 0 (s.muxout i) s.muxreg
    muxregValid := i.advance.latch false (s.rfwbOp.getLsbD 0) s.muxregValid
    rfA := s.rfA.dualStep (s.portA i)
    rfB := s.rfB.dualStep (s.portB i)
    addraLast :=
      if s.rfEna i && !(s.sprCsFe i || i.duRead && i.sprCs) then addrAOf i.ifInsn else s.addraLast
    sprDuCs := i.sprCs && i.duRead
    rfWeAllow := if i.rst then true else if !i.wbFreeze then !i.flushpipe else s.rfWeAllow
    operandA := (nextOperand i (s.muxedA i) s.operandA s.savedA).val
    operandB := (nextOperand i (s.muxedB i) s.operandB s.savedB).val
    savedA := (nextOperand i (s.muxedA i) s.operandA s.savedA).saved
    savedB := (nextOperand i (s.muxedB i) s.operandB s.savedB).saved }

end Signals

/-- The stages after a reset. -/
def reset : Pipe :=
  { idInsn := flushNop
    exInsn := flushNop
    selImm := false
    rfAddrw := 0
    rfwbOp := RfwbOp.nop
    wbRfaddrw := 0
    muxreg := 0
    muxregValid := false
    rfA := { mem := fun _ => 0, addrReg := 0 }
    rfB := { mem := fun _ => 0, addrReg := 0 }
    addraLast := 0
    sprDuCs := false
    rfWeAllow := true
    operandA := 0
    operandB := 0
    savedA := false
    savedB := false }

/-- The stages in every cycle. -/
def regs (x : ℕ → PipeIn) (t : ℕ) : Pipe := run step reset x t

/-- The registers of the program. -/
def gpr (s : Pipe) : BitVec 5 → BitVec 32 := s.rfA.mem

/-! ### One step -/

section Step

variable {s : Pipe} {i : PipeIn}

/-- What holds in every cycle. -/
structure Wf (s : Pipe) : Prop where
  savedA : s.savedA = false
  savedB : s.savedB = false
  sprDuCs : s.sprDuCs = false
  rfwbOp : s.rfwbOp = rfwbOpOf s.exInsn
  rfAddrw : s.exInsn = flushNop ∨ s.rfAddrw = rfAddrwOf s.exInsn
  rfWeAllow : s.rfWeAllow = false → s.rfwbOp = RfwbOp.nop
  copies : s.rfB.mem = s.rfA.mem
  zero : s.gpr 0 = 0
  selImm : s.idInsn = flushNop ∨ s.selImm = selImmOf s.idInsn
  addrA : readsA s.idInsn = true → s.rfA.addrReg = addrAOf s.idInsn
  addrB : readsB s.idInsn = true → s.rfB.addrReg = addrBOf s.idInsn

theorem wf_reset : reset.Wf where
  savedA := rfl
  savedB := rfl
  sprDuCs := rfl
  rfwbOp := by decide
  rfAddrw := .inl rfl
  rfWeAllow := fun h => absurd h (by decide)
  copies := rfl
  zero := rfl
  selImm := .inl rfl
  addrA := fun h => absurd h (by decide)
  addrB := fun h => absurd h (by decide)

/-- The execute stage is frozen whenever the decode stage is. -/
theorem idFreeze_of_exFreeze (h : i.exFreeze = false) : i.idFreeze = false :=
  (Bool.or_eq_false_iff.mp h).1

/-- The execute stage takes no operand while the decode stage is frozen, and so saves none. -/
theorem nextOperand_eq (muxed operand : BitVec 32) {saved : Bool} (h : saved = false) :
    nextOperand i muxed operand saved =
      { val := i.advance.latch 0 muxed operand, saved := false } := by
  rw [nextOperand, Operand.step, PipeIn.advance, PipeIn.exFreeze, PipeIn.wbFreeze, PipeIn.idFreeze,
    h, Clocked.Control.latch]
  cases i.rst <;> cases i.stall <;> cases i.abortEx <;> rfl

/-- A stage is flushed, takes the instruction before it or keeps its own. -/
theorem exStage_cases (i : PipeIn) {α : Type*} (nop data old : α) :
    i.exStage nop data old = nop ∨
      i.advance.IsActive ∧ i.exStage nop data old = data ∨
      i.advance.IsIdle ∧ i.exStage nop data old = old := by
  rw [PipeIn.exStage, PipeIn.advance, Clocked.Control.IsActive, Clocked.Control.IsIdle]
  cases i.rst
  · cases hflush : !i.exFreeze && i.idFreeze || i.flushpipe
    · cases i.exFreeze <;> simp
    · simp
  · simp

/-- The signals of a stage follow its instruction. -/
theorem exStage_map (i : PipeIn) {α β : Type*} (f : α → β) (nop data old : α) :
    i.exStage (f nop) (f data) (f old) = f (i.exStage nop data old) := by
  simp only [PipeIn.exStage, apply_ite f]

/-- The decode stage is flushed, takes the fetched instruction or keeps its own. -/
theorem idInsn_cases (s : Pipe) (i : PipeIn) :
    (s.step i).idInsn = flushNop ∨
      (i.rst = false ∧ i.idFreeze = false ∧ (s.step i).idInsn = i.ifInsn) ∨
      (i.rst = false ∧ i.idFreeze = true ∧ (s.step i).idInsn = s.idInsn) := by
  rw [step]
  cases i.rst
  · cases i.flushpipe
    · cases i.idFreeze <;> simp
    · simp
  · simp

/-- An address that is registered with the instruction in the decode stage stays with it. -/
theorem addr_step {reads : BitVec 32 → Bool} {addrOf : BitVec 32 → BitVec 5} {addr : BitVec 5}
    (hnop : reads flushNop = false) (h : reads s.idInsn = true → addr = addrOf s.idInsn)
    (hreads : reads (s.step i).idInsn = true) :
    (if reads i.ifInsn && !i.idFreeze then addrOf i.ifInsn else addr) =
      addrOf (s.step i).idInsn := by
  rcases idInsn_cases s i with hid | ⟨-, hfreeze, hid⟩ | ⟨-, hfreeze, hid⟩
  · rw [hid, hnop] at hreads
    cases hreads
  · rw [hid] at hreads ⊢
    rw [hreads, hfreeze]
    rfl
  · rw [hid] at hreads ⊢
    rw [hfreeze, Bool.not_true, Bool.and_false]
    exact h hreads

theorem sprCsFe_eq (h : s.Wf) : s.sprCsFe i = false := by
  rw [sprCsFe, h.sprDuCs, Bool.false_and]

/-- The address of the first operand is registered with the instruction. -/
theorem portA_eq (h : s.Wf) (hi : i.Plain) :
    (s.portA i).ceA = (readsA i.ifInsn && !i.idFreeze) ∧ (s.portA i).addrA = addrAOf i.ifInsn := by
  constructor
  · simp [portA, rfEna, sprCsFe_eq h, hi.sprValid]
  · simp [portA, rfAddra, sprCsFe_eq h, hi.sprValid]

/-- The write that a cycle makes to the register file. -/
theorem gpr_step (hi : i.Plain) : (s.step i).gpr =
    if s.rfwbOp.getLsbD 0 && !i.wbFreeze && s.rfWeAllow && !i.spExceptionComb then
      Function.update s.gpr s.rfAddrw (if s.rfAddrw = 0 then 0 else s.muxout i)
    else s.gpr := by
  change (if s.rfWe i && !i.spExceptionComb then
    Function.update s.rfA.mem (s.fileAddrw i) (s.fileDataw i) else s.rfA.mem) = _
  rw [rfWe, fileDataw, fileAddrw, hi.sprValid]
  rfl

theorem wf_step (h : s.Wf) (hi : i.Plain) : (s.step i).Wf where
  savedA := congrArg Operand.saved (nextOperand_eq _ _ h.savedA)
  savedB := congrArg Operand.saved (nextOperand_eq _ _ h.savedB)
  sprDuCs := by
    change (i.sprCs && i.duRead) = false
    rw [hi.duRead, Bool.and_false]
  rfwbOp := by
    change i.exStage (rfwbOpOf flushNop) (rfwbOpOf s.idInsn) s.rfwbOp = _
    rw [h.rfwbOp, exStage_map]
    rfl
  rfAddrw := by
    change i.exStage flushNop s.idInsn s.exInsn = flushNop ∨
      (s.step i).rfAddrw = rfAddrwOf (i.exStage flushNop s.idInsn s.exInsn)
    rcases exStage_cases i flushNop s.idInsn s.exInsn with hnop | ⟨hact, hdata⟩ | ⟨hidle, hold⟩
    · exact .inl hnop
    · have hfreeze : i.exFreeze = false := Bool.not_eq_true' .. ▸ hact.2
      have hrst : i.rst = false := hact.1
      right
      rw [hdata, step, hrst, hfreeze, idFreeze_of_exFreeze hfreeze]
      rfl
    · have hfreeze : i.exFreeze = true := Bool.not_eq_false' .. ▸ hidle.2
      have hrst : i.rst = false := hidle.1
      rw [hold, step, hrst, hfreeze]
      exact h.rfAddrw
  rfWeAllow := by
    change (if i.rst then true else if !i.wbFreeze then !i.flushpipe else s.rfWeAllow) = false →
      i.exStage RfwbOp.nop (rfwbOpOf s.idInsn) s.rfwbOp = RfwbOp.nop
    intro hallow
    cases hflush : i.flushpipe with
    | true => simp [PipeIn.exStage, hflush]
    | false =>
      cases hfreeze : i.wbFreeze with
      | true =>
        -- the register keeps its value, and so does the stage
        rw [hfreeze] at hallow
        cases hrst : i.rst with
        | true => simp [PipeIn.exStage, hrst]
        | false =>
          rw [hrst] at hallow
          simp [PipeIn.exStage, PipeIn.exFreeze, hrst, hflush, hfreeze, h.rfWeAllow hallow]
      | false => simp [hflush, hfreeze] at hallow
  copies := by
    change (if s.rfWe i && !i.spExceptionComb then
        Function.update s.rfB.mem (s.fileAddrw i) (s.fileDataw i) else s.rfB.mem) =
      if s.rfWe i && !i.spExceptionComb then
        Function.update s.rfA.mem (s.fileAddrw i) (s.fileDataw i) else s.rfA.mem
    rw [h.copies]
  zero := by
    rw [gpr_step hi]
    split_ifs with hwe hzero
    · rw [hzero, Function.update_self]
    · rw [Function.update_of_ne (Ne.symm hzero), h.zero]
    · exact h.zero
  selImm := by
    rcases idInsn_cases s i with hid | ⟨hrst, hfreeze, hid⟩ | ⟨hrst, hfreeze, hid⟩
    · exact .inl hid
    · right
      rw [hid, step, hrst, hfreeze]
      rfl
    · rw [hid, step, hrst, hfreeze]
      exact h.selImm
  addrA := by
    change _ → (if (s.portA i).ceA then (s.portA i).addrA else s.rfA.addrReg) = _
    rw [(portA_eq h hi).1, (portA_eq h hi).2]
    exact addr_step (by decide) h.addrA
  addrB := addr_step (by decide) h.addrB

/-! ### Forwarding -/

/-- The result of the instruction in the execute stage, if it has one, is not lost: its write is not
cancelled, and is not to register 0, which the forwarding paths take for any other register. -/
def Kept (s : Pipe) (i : PipeIn) : Prop :=
  s.rfwbOp.getLsbD 0 = true → i.spExceptionComb = false ∧ s.rfAddrw ≠ 0

instance (s : Pipe) (i : PipeIn) : Decidable (s.Kept i) := inferInstanceAs (Decidable (_ → _))

/-- The write-back stage shows what the register file holds. -/
def Coherent (s : Pipe) : Prop := s.muxregValid = true → s.muxreg = s.gpr s.wbRfaddrw

theorem gpr_step_of_exFreeze (hi : i.Plain) (hfreeze : i.exFreeze = true) :
    (s.step i).gpr = s.gpr := by
  have hwb : i.wbFreeze = true := hfreeze
  rw [gpr_step hi, hwb]
  simp

/-- The registers after an instruction that leaves the execute stage. -/
theorem gpr_step_of_kept (h : s.Wf) (hi : i.Plain) (hfreeze : i.exFreeze = false)
    (hkept : s.Kept i) : (s.step i).gpr =
      if s.rfwbOp.getLsbD 0 then Function.update s.gpr s.rfAddrw (s.muxout i) else s.gpr := by
  have hwb : i.wbFreeze = false := hfreeze
  rw [gpr_step hi, hwb]
  cases hwe : s.rfwbOp.getLsbD 0 with
  | false => rfl
  | true =>
    have hallow : s.rfWeAllow = true := by
      refine Bool.eq_true_of_not_eq_false fun hno => ?_
      rw [h.rfWeAllow hno] at hwe
      exact absurd hwe (by decide)
    rw [hallow, (hkept hwe).1, if_neg (hkept hwe).2]
    rfl

/-- An instruction that leaves the execute stage leaves the write-back stage coherent. -/
theorem coherent_step (h : s.Wf) (hi : i.Plain) (hact : i.advance.IsActive) (hkept : s.Kept i) :
    (s.step i).Coherent := by
  have hfreeze : i.exFreeze = false := Bool.not_eq_true' .. ▸ hact.2
  change i.advance.latch false (s.rfwbOp.getLsbD 0) s.muxregValid = true →
    i.advance.latch 0 (s.muxout i) s.muxreg =
      (s.step i).gpr (i.advance.latch 0 s.rfAddrw s.wbRfaddrw)
  rw [Clocked.Control.latch_of_isActive hact, Clocked.Control.latch_of_isActive hact,
    Clocked.Control.latch_of_isActive hact, gpr_step_of_kept h hi hfreeze hkept]
  intro hwe
  rw [if_pos hwe, Function.update_self]

/-- The forwarding paths hold what the register file will hold in the next cycle. -/
theorem forwarded_eq (h : s.Wf) (hco : s.Coherent) (hi : i.Plain) (hfreeze : i.exFreeze = false)
    (hkept : s.Kept i) (addr : BitVec 5) :
    (if addr == s.rfAddrw && s.rfwbOp.getLsbD 0 then s.muxout i
      else if addr == s.wbRfaddrw && s.muxregValid then s.muxreg
      else s.gpr addr) = (s.step i).gpr addr := by
  rw [gpr_step_of_kept h hi hfreeze hkept]
  have hwb (hvalid : (addr == s.wbRfaddrw && s.muxregValid) = true) : s.muxreg = s.gpr addr := by
    rw [Bool.and_eq_true, beq_iff_eq] at hvalid
    rw [hvalid.1]
    exact hco hvalid.2
  cases hwe : s.rfwbOp.getLsbD 0 with
  | false =>
    rw [Bool.and_false, if_neg Bool.false_ne_true, if_neg Bool.false_ne_true]
    split_ifs with hvalid
    · exact hwb hvalid
    · rfl
  | true =>
    rw [Bool.and_true, if_pos rfl]
    by_cases haddr : addr = s.rfAddrw
    · rw [haddr, beq_self_eq_true, if_pos rfl, Function.update_self]
    · rw [beq_eq_false_iff_ne.mpr haddr, if_neg Bool.false_ne_true, Function.update_of_ne haddr]
      split_ifs with hvalid
      · exact hwb hvalid
      · rfl

/-- The second operand of an instruction. -/
def secondOperand (insn : BitVec 32) (gpr : BitVec 5 → BitVec 32) : BitVec 32 :=
  if selImmOf insn then idSimm insn else gpr (addrBOf insn)

/-- The instruction that enters the execute stage finds the registers of the next cycle. -/
theorem muxedA_eq (h : s.Wf) (hco : s.Coherent) (hi : i.Plain) (hfreeze : i.exFreeze = false)
    (hkept : s.Kept i) (hreads : readsA s.idInsn = true) :
    s.muxedA i = (s.step i).gpr (addrAOf s.idInsn) := by
  have hdoq : s.rfA.doq = s.gpr (addrAOf s.idInsn) := congrArg s.gpr (h.addrA hreads)
  rw [← forwarded_eq h hco hi hfreeze hkept, muxedA, selA, ← hdoq]
  split_ifs <;> rfl

theorem muxedB_eq (h : s.Wf) (hco : s.Coherent) (hi : i.Plain) (hfreeze : i.exFreeze = false)
    (hkept : s.Kept i) (hne : s.idInsn ≠ flushNop)
    (hreads : selImmOf s.idInsn = true ∨ readsB s.idInsn = true) :
    s.muxedB i = secondOperand s.idInsn (s.step i).gpr := by
  have himm : s.selImm = selImmOf s.idInsn := h.selImm.resolve_left hne
  rw [secondOperand, muxedB, selB, himm]
  cases hsel : selImmOf s.idInsn with
  | true => rfl
  | false =>
    have hread : readsB s.idInsn = true := hreads.resolve_left (by rw [hsel]; exact nofun)
    have hdoq : s.rfB.doq = s.gpr (addrBOf s.idInsn) := by
      rw [Ram.doq, h.addrB hread, h.copies]
      rfl
    rw [if_neg Bool.false_ne_true, if_neg Bool.false_ne_true,
      ← forwarded_eq h hco hi hfreeze hkept, ← hdoq]
    split_ifs <;> rfl

end Step

/-! ### Runs -/

section Runs

variable {x : ℕ → PipeIn} {p t : ℕ}

/-- The registers of the stages keep their invariant. -/
theorem wf_run (hplain : ∀ r < t, (x r).Plain) : (regs x t).Wf := by
  induction t with
  | zero => exact wf_reset
  | succ t ih =>
    exact wf_step (ih fun r hr => hplain r (hr.trans t.lt_succ_self)) (hplain t t.lt_succ_self)

theorem exFreeze_of_isIdle {i : PipeIn} (h : i.advance.IsIdle) : i.exFreeze = true :=
  Bool.not_eq_false' .. ▸ h.2

theorem exFreeze_of_isActive {i : PipeIn} (h : i.advance.IsActive) : i.exFreeze = false :=
  Bool.not_eq_true' .. ▸ h.2

/-- While the execute stage is frozen, the registers do not change. -/
theorem gpr_of_lastActive (hplain : ∀ r < t, (x r).Plain)
    (h : LastActive (fun r => (x r).advance) p t) : (regs x t).gpr = (regs x (p + 1)).gpr := by
  refine h.induction (P := fun r => (regs x r).gpr = (regs x (p + 1)).gpr) rfl
    fun r hpr hrt hidle hr => ?_
  exact (gpr_step_of_exFreeze (hplain r hrt) (exFreeze_of_isIdle hidle)).trans hr

/-- An instruction in the execute stage entered it when the one before it left. -/
theorem exInsn_of_lastActive (h : LastActive (fun r => (x r).advance) p t) :
    (regs x t).exInsn = flushNop ∨ (regs x t).exInsn = (regs x p).idInsn := by
  have hstage (r : ℕ) : (regs x (r + 1)).exInsn =
      (x r).exStage flushNop (regs x r).idInsn (regs x r).exInsn := rfl
  refine h.induction (P := fun r => (regs x r).exInsn = flushNop ∨
    (regs x r).exInsn = (regs x p).idInsn) ?_ fun r hpr hrt hidle hr => ?_
  · rw [hstage]
    rcases exStage_cases (x p) flushNop (regs x p).idInsn (regs x p).exInsn with
      hnop | ⟨-, hdata⟩ | ⟨hno, -⟩
    · exact .inl hnop
    · exact .inr hdata
    · exact absurd hno (Clocked.Control.not_isIdle_of_isActive h.isActive)
  · rw [hstage]
    rcases exStage_cases (x r) flushNop (regs x r).idInsn (regs x r).exInsn with
      hnop | ⟨hact, -⟩ | ⟨-, hold⟩
    · exact .inl hnop
    · exact absurd hidle (Clocked.Control.not_isIdle_of_isActive hact)
    · rw [hold]
      exact hr

/-- The write-back stage is coherent if the last instruction there kept its result. -/
theorem coherent_run (hplain : ∀ r < t, (x r).Plain)
    (hkept : ∀ q, LastActive (fun r => (x r).advance) q t → (regs x q).Kept (x q)) :
    (regs x t).Coherent := by
  by_cases hq : ∃ q, LastActive (fun r => (x r).advance) q t
  · obtain ⟨q, hq⟩ := hq
    refine hq.induction (P := fun r => (regs x r).Coherent) ?_ fun r hqr hrt hidle hr => ?_
    · exact coherent_step (wf_run fun r hr => hplain r (hr.trans hq.lt)) (hplain q hq.lt)
        hq.isActive (hkept q hq)
    · have hgpr := gpr_step_of_exFreeze (s := regs x r) (hplain r hrt) (exFreeze_of_isIdle hidle)
      change (x r).advance.latch false _ (regs x r).muxregValid = true →
        (x r).advance.latch 0 _ (regs x r).muxreg =
          ((regs x r).step (x r)).gpr ((x r).advance.latch 0 _ (regs x r).wbRfaddrw)
      rw [Clocked.Control.latch_of_isIdle hidle, Clocked.Control.latch_of_isIdle hidle,
        Clocked.Control.latch_of_isIdle hidle, hgpr]
      exact hr
  · have hlatch := holdsLast_latch (q := fun r => (regs x r).muxregValid) (z := false)
      (c := fun r => (x r).advance) (fun _ => rfl) rfl t
    have hvalid : (regs x t).muxregValid = false := hlatch.2 (not_exists.mp hq)
    intro hno
    rw [hvalid] at hno
    cases hno

/-- An operand register holds what it took when the instruction entered the execute stage. -/
theorem operand_of_lastActive (hplain : ∀ r < t, (x r).Plain)
    (h : LastActive (fun r => (x r).advance) p t) :
    (regs x t).operandA = (regs x p).muxedA (x p) ∧
      (regs x t).operandB = (regs x p).muxedB (x p) := by
  have hstep (r : ℕ) (hrt : r < t) :
      (regs x (r + 1)).operandA =
          (x r).advance.latch 0 ((regs x r).muxedA (x r)) (regs x r).operandA ∧
        (regs x (r + 1)).operandB =
          (x r).advance.latch 0 ((regs x r).muxedB (x r)) (regs x r).operandB := by
    have hwf : (regs x r).Wf := wf_run fun k hk => hplain k (hk.trans hrt)
    exact ⟨congrArg Operand.val (nextOperand_eq _ _ hwf.savedA),
      congrArg Operand.val (nextOperand_eq _ _ hwf.savedB)⟩
  refine h.induction (P := fun r => (regs x r).operandA = (regs x p).muxedA (x p) ∧
    (regs x r).operandB = (regs x p).muxedB (x p)) ?_ fun r hpr hrt hidle hr => ?_
  · rw [(hstep p h.lt).1, (hstep p h.lt).2, Clocked.Control.latch_of_isActive h.isActive,
      Clocked.Control.latch_of_isActive h.isActive]
    exact ⟨rfl, rfl⟩
  · rw [(hstep r hrt).1, (hstep r hrt).2, Clocked.Control.latch_of_isIdle hidle,
      Clocked.Control.latch_of_isIdle hidle]
    exact hr

theorem operandA_of_lastActive (hplain : ∀ r < t, (x r).Plain)
    (h : LastActive (fun r => (x r).advance) p t) (hkept : (regs x p).Kept (x p))
    (hkept' : ∀ q, LastActive (fun r => (x r).advance) q p → (regs x q).Kept (x q))
    (hne : (regs x t).exInsn ≠ flushNop) (hreads : readsA (regs x t).exInsn = true) :
    (regs x t).operandA = (regs x t).gpr (addrAOf (regs x t).exInsn) := by
  have hbefore (r : ℕ) (hr : r < p) : (x r).Plain := hplain r (hr.trans h.lt)
  have hinsn := (exInsn_of_lastActive h).resolve_left hne
  rw [hinsn] at hreads ⊢
  rw [(operand_of_lastActive hplain h).1, gpr_of_lastActive hplain h]
  exact muxedA_eq (wf_run hbefore) (coherent_run hbefore hkept') (hplain p h.lt)
    (exFreeze_of_isActive h.isActive) hkept hreads

theorem operandB_of_lastActive (hplain : ∀ r < t, (x r).Plain)
    (h : LastActive (fun r => (x r).advance) p t) (hkept : (regs x p).Kept (x p))
    (hkept' : ∀ q, LastActive (fun r => (x r).advance) q p → (regs x q).Kept (x q))
    (hne : (regs x t).exInsn ≠ flushNop)
    (hreads : selImmOf (regs x t).exInsn = true ∨ readsB (regs x t).exInsn = true) :
    (regs x t).operandB = secondOperand (regs x t).exInsn (regs x t).gpr := by
  have hbefore (r : ℕ) (hr : r < p) : (x r).Plain := hplain r (hr.trans h.lt)
  have hinsn := (exInsn_of_lastActive h).resolve_left hne
  rw [hinsn] at hne hreads ⊢
  rw [(operand_of_lastActive hplain h).2, gpr_of_lastActive hplain h]
  exact muxedB_eq (wf_run hbefore) (coherent_run hbefore hkept') (hplain p h.lt)
    (exFreeze_of_isActive h.isActive) hkept hne hreads

/-- An instruction is executed with the registers that the instructions before it left, however long
the stages are frozen: the two of these that were in flight when it was decoded may not lose their
results. -/
theorem operands_of_lastActive (hplain : ∀ r < t, (x r).Plain)
    (h : LastActive (fun r => (x r).advance) p t) (hkept : (regs x p).Kept (x p))
    (hkept' : ∀ q, LastActive (fun r => (x r).advance) q p → (regs x q).Kept (x q))
    (hne : (regs x t).exInsn ≠ flushNop) :
    (readsA (regs x t).exInsn = true →
        (regs x t).operandA = (regs x t).gpr (addrAOf (regs x t).exInsn)) ∧
      (selImmOf (regs x t).exInsn = true ∨ readsB (regs x t).exInsn = true →
        (regs x t).operandB = secondOperand (regs x t).exInsn (regs x t).gpr) :=
  ⟨operandA_of_lastActive hplain h hkept hkept' hne,
    operandB_of_lastActive hplain h hkept hkept' hne⟩

/-- `l.addi r3,r0,5` and `l.add r4,r3,r3`, fetched one after the other. -/
def dependentIn (t : ℕ) : PipeIn :=
  { rst := false
    ifInsn := if t = 0 then 0x9c600005 else if t = 1 then 0xe0831800 else 0x15000000
    stall := false
    abortEx := false
    flushpipe := false
    aluDataout := if t = 2 then 5 else if t = 3 then 10 else 0
    lsuDataout := 0
    sprsDataout := 0
    exPc := 0x2000
    spExceptionComb := false
    sprCs := false
    sprWrite := false
    sprAddr := 0
    sprDatI := 0
    duRead := false }

theorem plain_dependentIn (r : ℕ) : (dependentIn r).Plain := ⟨rfl, rfl⟩

theorem operands_of_lastActive_dependentIn :
    (readsA (regs dependentIn 3).exInsn = true →
        (regs dependentIn 3).operandA =
          (regs dependentIn 3).gpr (addrAOf (regs dependentIn 3).exInsn)) ∧
      (selImmOf (regs dependentIn 3).exInsn = true ∨ readsB (regs dependentIn 3).exInsn = true →
        (regs dependentIn 3).operandB =
          secondOperand (regs dependentIn 3).exInsn (regs dependentIn 3).gpr) := by
  have hkept (q : ℕ) (h : LastActive (fun r => (dependentIn r).advance) q 2) :
      (regs dependentIn q).Kept (dependentIn q) := by
    have hq := h.lt
    interval_cases q <;> decide
  exact operands_of_lastActive (p := 2) (fun r _ => plain_dependentIn r) (by decide) (by decide)
    hkept (by decide)

end Runs

end Pipe

end WirePatch.Or1200
