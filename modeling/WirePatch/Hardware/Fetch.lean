import WirePatch.Hardware.Genpc
import WirePatch.Hardware.Operands

/-!
# Fetch stage of the processor

The way of an instruction from the program counter to the decode stage of the OR1200 core: the
register of the fetch address (`or1200_immu_top.v`, lines 183–215), the answers to a fetch
(`or1200_immu_top.v`, lines 298–310, `or1200_qmem_top.v`, lines 450–454, `or1200_ic_top.v`, lines
198–199), the fetch stage (`or1200_if.v`), the decode and execute stages of the branches
(`or1200_ctrl.v`, lines 205–209, 323–337, 384–385, 535–569 and 1042–1098) and the program counter,
with the exception unit. Bit 0 of an address is the mark of a target: after a flush the fetch stage
issues no instruction before the first one at a marked address.

## Main definitions

* `Or1200.Fetch`, `Or1200.Front`: the fetch stage, and the fetch stage with the exception unit.
* `Or1200.FrontPorts`, `Or1200.Front.step`: one step.
* `Or1200.Front.Waits`: the fetch stage waits for the instruction at an address.

## Main results

* `Or1200.Front.waits_step`, `Or1200.Front.idPc_step`: the stage waits until it issues the
  instruction it waits for.
* `Or1200.Front.target_issued`, `Or1200.Front.return_issued`: after the delay slot of a branch, and
  after a return, the first instruction that is issued is the target.
* `Or1200.Front.handler_issued`: after an exception the first instruction that is issued is the
  first one of the handler.
-/

namespace WirePatch.Or1200

open Clocked

/-! ### Signals -/

namespace Itag

def te : BitVec 4 := 0xd
def pe : BitVec 4 := 0xc
def be : BitVec 4 := 0xb

end Itag

/-- `id_void` and `ex_void`. -/
def isVoid (insn : U32) : Bool := insn.extractLsb' 26 6 == Or32.nop && insn.getLsbD 16

/-- The instruction that is issued when nothing was fetched. -/
def stallNop : U32 := 0x14610000

/-- The registers between the program counter and the execute stage. -/
structure Fetch where
  genpc : Genpc
  icpuAdrDefault : U32
  icpuAdrSelect : Bool
  ifBypassReg : Bool
  saved : Bool
  insnSaved : U32
  addrSaved : U32
  /-- `err_saved`. -/
  errSaved : BitVec 3
  idInsn : U32
  exInsn : U32
  idBranchOp : BitVec 3
  exBranchOp : BitVec 3
  exBranchAddrtarget : BitVec 30

/-- The registers of the fetch stage and of the exception unit. -/
structure Front where
  unit : ExceptRegs
  fetch : Fetch

/-- The signals from outside. Those of `unit` that the fetch stage drives are not read. -/
structure FrontPorts where
  unit : ExceptIn
  qmemAck : Bool
  qmemErr : Bool
  qmemTag : BitVec 4
  miss : Bool
  fault : Bool
  icpuDatI : U32
  flag : Bool
  operandB : U32

namespace FrontPorts

variable (x : FrontPorts)

/-- `icpu_err_i`. -/
def icpuErr : Bool := x.miss || x.fault || x.qmemErr

/-- `icpu_rty_i`: the memory has no answer. -/
def icpuRty : Bool := !x.qmemAck && !x.qmemErr

/-- `icpu_tag_i`. -/
def icpuTag : BitVec 4 :=
  if x.miss then Itag.te
  else if x.fault then Itag.pe
  else if x.qmemErr then Itag.be
  else x.qmemTag

/-- The fetch is answered. -/
def answered : Bool := x.qmemAck || x.icpuErr

/-- `{sig_ibuserr, sig_immufault, sig_itlbmiss}` of an answer. -/
def errors : BitVec 3 :=
  BitVec.ofBool (x.icpuErr && x.icpuTag == Itag.be) ++
    BitVec.ofBool (x.icpuErr && x.icpuTag == Itag.pe) ++
    BitVec.ofBool (x.icpuErr && x.icpuTag == Itag.te)

end FrontPorts

namespace Front

section Signals

variable (s : Front) (x : FrontPorts)

/-- `icpu_adr_i`. -/
def icpuAdr : U32 := if s.fetch.icpuAdrSelect then bootAdr else s.fetch.icpuAdrDefault

/-- What selects the next address. -/
def branchIn : BranchIn :=
  { branchOp := s.fetch.exBranchOp
    exceptType := s.unit.fsm.exceptType
    exceptPrefix := x.unit.sr.getLsbD 14
    exBranchAddrtarget := s.fetch.exBranchAddrtarget
    operandB := x.operandB
    flag := x.flag
    exceptStart := s.unit.exceptStart
    epcr := s.unit.fsm.saved.epcr
    sprDatI := x.unit.datain
    sprPcWe := x.unit.pcWe
    exPc := s.unit.pipe.exPc
    spEpcrGhost := s.unit.fsm.saved.spEpcrGhost }

/-- `ex_branch_taken`. -/
def exBranchTaken : Bool := (s.fetch.genpc.next (s.branchIn x)).2

/-- `no_more_dslot`. -/
def noMoreDslot : Bool :=
  s.fetch.exBranchOp != BranchCode.nop && !isVoid s.fetch.idInsn && s.exBranchTaken x ||
    s.fetch.exBranchOp == BranchCode.rfe

/-- `rfe`. -/
def rfe : Bool := s.fetch.idBranchOp == BranchCode.rfe || s.fetch.exBranchOp == BranchCode.rfe

/-- What the program counter reads. -/
def genpcIn : GenpcIn :=
  { s.branchIn x with
    rst := x.unit.rst
    icpuRtyI := x.icpuRty
    icpuAdrI := s.icpuAdr
    genpcRefetch := s.fetch.saved && x.qmemAck
    genpcFreeze := x.unit.genpcFreeze
    noMoreDslot := s.noMoreDslot x }

/-- `if_pc`. -/
def ifPc : U32 :=
  if s.fetch.saved then s.fetch.addrSaved else s.icpuAdr.extractLsb' 2 30 ++ 0#2

/-- `if_stall`. -/
def ifStall : Bool := !x.icpuErr && !x.qmemAck && !s.fetch.saved

/-- `except_ibuserr`, `except_immufault` and `except_itlbmiss`. -/
def ifErrors : BitVec 3 :=
  if s.noMoreDslot x then 0 else if s.fetch.saved then s.fetch.errSaved else x.errors

/-- What the exception unit reads. -/
def unitPorts : ExceptIn :=
  { x.unit with
    sigIbuserr := (s.ifErrors x).getLsbD 2
    sigImmufault := (s.ifErrors x).getLsbD 1
    sigItlbmiss := (s.ifErrors x).getLsbD 0
    exBranchTaken := s.exBranchTaken x
    exVoid := isVoid s.fetch.exInsn
    ifStall := s.ifStall x
    icpuAckI := x.qmemAck
    icpuErrI := x.icpuErr
    ifPc := s.ifPc }

/-- `if_flushpipe`, `id_flushpipe` and `ex_flushpipe`. -/
def flushpipe : Bool := s.unit.flushpipe (s.unitPorts x)

/-- `if_freeze`. -/
def ifFreeze : Bool := x.unit.idFreeze || s.unit.fsm.extendFlush

/-- `if_bypass`. -/
def ifBypass : Bool :=
  if s.icpuAdr.getLsbD 0 then false else s.fetch.ifBypassReg || s.flushpipe x

/-- `if_insn`. -/
def ifInsn : U32 :=
  if s.noMoreDslot x || s.rfe || s.ifBypass x then flushNop
  else if s.fetch.saved then s.fetch.insnSaved
  else if x.qmemAck then x.icpuDatI
  else stallNop

/-- `save_insn`. -/
def saveInsn : Bool := x.answered && s.ifFreeze x && !s.fetch.saved

/-- A register of the fetch stage that holds an answer. -/
def savedReg {α : Type*} (empty data old : α) : α :=
  if x.unit.rst then empty
  else if s.flushpipe x then empty
  else if s.saveInsn x then data
  else if !s.ifFreeze x then empty
  else old

/-- A register of the decode stage. -/
def idReg {α : Type*} (nop data old : α) : α :=
  if x.unit.rst then nop
  else if s.flushpipe x then nop
  else if !x.unit.idFreeze then data
  else old

/-- A register of the execute stage. -/
def exReg {α : Type*} (nop data old : α) : α :=
  if x.unit.rst then nop
  else if !x.unit.exFreeze && x.unit.idFreeze || s.flushpipe x then nop
  else if !x.unit.exFreeze then data
  else old

/-- `addr_saved` takes the address also when it is not saved. -/
def nextAddrSaved : U32 :=
  if x.unit.rst then 0
  else if s.flushpipe x then 0
  else if s.saveInsn x || !s.ifFreeze x then s.icpuAdr.extractLsb' 2 30 ++ 0#2
  else s.fetch.addrSaved

/-- One step. -/
def step : Front :=
  { unit := s.unit.step (s.unitPorts x)
    fetch :=
      { genpc := s.fetch.genpc.step (s.genpcIn x)
        icpuAdrDefault :=
          if x.unit.rst then 0x00000100
          else if s.fetch.icpuAdrSelect then bootAdr
          else s.fetch.genpc.icpuAdrO (s.genpcIn x)
        icpuAdrSelect :=
          if x.unit.rst then true
          else if s.fetch.icpuAdrSelect then false
          else s.fetch.icpuAdrSelect
        ifBypassReg := if x.unit.rst then false else s.ifBypass x
        saved := s.savedReg x false true s.fetch.saved
        insnSaved := s.savedReg x flushNop (if x.icpuErr then flushNop else x.icpuDatI)
          s.fetch.insnSaved
        addrSaved := s.nextAddrSaved x
        errSaved := s.savedReg x 0 x.errors s.fetch.errSaved
        idInsn := s.idReg x flushNop (s.ifInsn x) s.fetch.idInsn
        exInsn := s.exReg x flushNop s.fetch.idInsn s.fetch.exInsn
        idBranchOp := s.idReg x BranchCode.nop (branchOpOf (s.ifInsn x)) s.fetch.idBranchOp
        exBranchOp := s.exReg x BranchCode.nop s.fetch.idBranchOp s.fetch.exBranchOp
        exBranchAddrtarget :=
          if x.unit.rst then 0
          else if !x.unit.exFreeze then
            idBranchAddrtarget s.fetch.idInsn (s.unit.pipe.idPc.extractLsb' 2 30)
          else s.fetch.exBranchAddrtarget } }

end Signals

/-- The registers in reset. -/
def reset : Front :=
  { unit := .reset
    fetch :=
      { genpc := .reset
        icpuAdrDefault := 0x00000100
        icpuAdrSelect := true
        ifBypassReg := false
        saved := false
        insnSaved := flushNop
        addrSaved := 0
        errSaved := 0
        idInsn := flushNop
        exInsn := flushNop
        idBranchOp := BranchCode.nop
        exBranchOp := BranchCode.nop
        exBranchAddrtarget := 0 } }

/-- The registers in every cycle. -/
def regs (x : ℕ → FrontPorts) (t : ℕ) : Front := run step reset x t

/-- The exception unit runs on the signals of the fetch stage. -/
theorem unit_regs (x : ℕ → FrontPorts) (t : ℕ) : (regs x t).unit =
    ExceptRegs.run (fun r => (regs x r).unitPorts (x r)) t :=
  run_component unit unitPorts (fun _ _ => rfl) t

section Steps

variable {s : Front} {x : FrontPorts}

/-! ### Stages -/

/-- What holds of the values a register of the decode stage can take holds of its next value. -/
theorem idReg_induction {α : Type*} {P : α → Prop} {nop data old : α} (hnop : P nop)
    (hdata : x.unit.idFreeze = false → P data) (hold : P old) : P (s.idReg x nop data old) := by
  rw [idReg]
  split_ifs with _ _ hfreeze
  · exact hnop
  · exact hnop
  · exact hdata (Bool.not_eq_true' .. ▸ hfreeze)
  · exact hold

theorem exReg_induction {α : Type*} {P : α → Prop} {nop data old : α} (hnop : P nop)
    (hdata : P data) (hold : P old) : P (s.exReg x nop data old) := by
  rw [exReg]
  split_ifs
  · exact hnop
  · exact hnop
  · exact hdata
  · exact hold

/-! ### Flushes -/

/-- No instruction is in the decode stage, and no branch in the execute stage. -/
structure Clear (f : Fetch) : Prop where
  idInsn : isVoid f.idInsn = true
  idBranchOp : f.idBranchOp = BranchCode.nop
  exBranchOp : f.exBranchOp = BranchCode.nop

/-- No instruction is in the decode stage and in the execute stage. -/
structure Empty (f : Fetch) : Prop extends Clear f where
  exInsn : isVoid f.exInsn = true

/-- A flush empties the stages, the fetch stage among them. -/
theorem empty_step_of_flushpipe (hrst : x.unit.rst = false) (hflush : s.flushpipe x = true) :
    Empty (s.step x).fetch ∧ (s.step x).fetch.saved = false := by
  refine ⟨⟨⟨?_, ?_, ?_⟩, ?_⟩, ?_⟩ <;> simp [step, savedReg, idReg, exReg, hrst, hflush] <;> decide

/-- After a step out of reset the registers of the addresses are selected. -/
structure Selected (f : Fetch) : Prop where
  icpuAdr : f.icpuAdrSelect = false
  pcreg : f.genpc.pcregSelect = false

theorem selected_step (hrst : x.unit.rst = false) : Selected (s.step x).fetch := by
  refine ⟨?_, Genpc.pcregSelect_step hrst⟩
  cases hselect : s.fetch.icpuAdrSelect <;> simp [step, hrst, hselect]

/-- The address of the next cycle. -/
theorem icpuAdr_step (hrst : x.unit.rst = false) (hselected : Selected s.fetch) :
    (s.step x).icpuAdr = s.fetch.genpc.icpuAdrO (s.genpcIn x) := by
  have hnext := (selected_step (s := s) hrst).icpuAdr
  rw [icpuAdr, hnext]
  simp [step, hrst, hselected.icpuAdr]

/-- An exception that starts addresses its handler. -/
theorem icpuAdr_step_of_exceptStart (hrst : x.unit.rst = false) (hselected : Selected s.fetch)
    (hpc : x.unit.pcWe = false) (hstart : s.unit.exceptStart = true) :
    (s.step x).icpuAdr = fetchAdr ((exceptVector s.unit.fsm.exceptType
      (x.unit.sr.getLsbD 14)).extractLsb' 2 30) true := by
  rw [icpuAdr_step hrst hselected]
  exact Genpc.icpuAdrO_of_exceptStart hpc hstart

/-! ### Waiting -/

/-- Without a flush no exception starts and the program counter is not written. -/
theorem pcWe_of_not_flushpipe (hflush : s.flushpipe x = false) :
    x.unit.pcWe = false ∧ s.unit.fsm.extendFlush = false ∧ s.unit.exceptStart = false := by
  simp only [flushpipe, ExceptRegs.flushpipe, Bool.or_eq_false_iff] at hflush
  have hextend : s.unit.fsm.extendFlush = false := hflush.2
  exact ⟨hflush.1.2, hextend, by rw [ExceptRegs.exceptStart, hextend, Bool.and_false]⟩

/-- The fetch stage waits for the instruction at `a`, or holds it. -/
structure Waits (s : Front) (a : BitVec 30) : Prop where
  selected : Selected s.fetch
  clear : Clear s.fetch
  mark : s.icpuAdr.getLsbD 0 = true ∨ s.fetch.ifBypassReg = false
  adr : s.fetch.saved = false → s.icpuAdr = fetchAdr a true
  addrSaved : s.fetch.saved = true → s.fetch.addrSaved = a ++ 0#2

section Waiting

variable {a : BitVec 30}

theorem Clear.noMoreDslot (h : Clear s.fetch) (x : FrontPorts) : s.noMoreDslot x = false := by
  rw [Front.noMoreDslot, h.exBranchOp]
  rfl

theorem Clear.rfe (h : Clear s.fetch) : s.rfe = false := by
  rw [Front.rfe, h.idBranchOp, h.exBranchOp]
  rfl

theorem Waits.ifBypass (h : Waits s a) (hflush : s.flushpipe x = false) : s.ifBypass x = false := by
  rw [Front.ifBypass]
  split_ifs with hmark
  · rfl
  · rw [h.mark.resolve_left hmark, hflush]
    rfl

/-- What the fetch stage issues. -/
theorem Waits.ifInsn (h : Waits s a) (hflush : s.flushpipe x = false) : s.ifInsn x =
    if s.fetch.saved then s.fetch.insnSaved else if x.qmemAck then x.icpuDatI else stallNop := by
  rw [Front.ifInsn, h.clear.noMoreDslot, h.clear.rfe, h.ifBypass hflush]
  rfl

/-- The address of an instruction that is not fetched yet is kept. -/
theorem Waits.icpuAdr_step (h : Waits s a) (hrst : x.unit.rst = false)
    (hflush : s.flushpipe x = false) (hanswer : x.answered = false) :
    (s.step x).icpuAdr = s.icpuAdr := by
  obtain ⟨hpc, -, hstart⟩ := pcWe_of_not_flushpipe hflush
  simp only [FrontPorts.answered, FrontPorts.icpuErr, Bool.or_eq_false_iff] at hanswer
  have hrty : x.icpuRty = true := by
    rw [FrontPorts.icpuRty, hanswer.1, hanswer.2.2]
    rfl
  rw [Front.icpuAdr_step hrst h.selected]
  exact Genpc.icpuAdrO_of_rty (h.clear.noMoreDslot x) hstart hpc hrty

/-- A decode stage that is not left, or that nothing arrives at, stays empty. -/
theorem Waits.clear_step (h : Waits s a) (hflush : s.flushpipe x = false)
    (hwait : s.ifStall x = true ∨ x.unit.idFreeze = true) : Clear (s.step x).fetch := by
  have hissue (hfreeze : x.unit.idFreeze = false) : s.ifInsn x = stallNop := by
    have hstall : s.ifStall x = true := hwait.resolve_right (by simp [hfreeze])
    simp only [Front.ifStall, Bool.and_eq_true, Bool.not_eq_true'] at hstall
    rw [h.ifInsn hflush, hstall.2, hstall.1.2]
    rfl
  have hvoid (hfreeze : x.unit.idFreeze = false) : isVoid (s.ifInsn x) = true := by
    rw [hissue hfreeze]
    rfl
  have hnop (hfreeze : x.unit.idFreeze = false) : branchOpOf (s.ifInsn x) = BranchCode.nop := by
    rw [hissue hfreeze]
    rfl
  exact
    { idInsn := idReg_induction (P := fun insn => isVoid insn = true) rfl hvoid h.clear.idInsn
      idBranchOp := idReg_induction (P := fun op => op = BranchCode.nop) rfl hnop
        h.clear.idBranchOp
      exBranchOp := exReg_induction (P := fun op => op = BranchCode.nop) rfl h.clear.idBranchOp
        h.clear.exBranchOp }

/-- Without a flush an answer is held until the decode stage moves. -/
theorem savedReg_of_not_flushpipe (hrst : x.unit.rst = false) (hflush : s.flushpipe x = false)
    {α : Type*} (empty data old : α) : s.savedReg x empty data old =
      if s.saveInsn x then data else if !x.unit.idFreeze then empty else old := by
  rw [savedReg, hrst, hflush, ifFreeze, (pcWe_of_not_flushpipe hflush).2.1, Bool.or_false]
  rfl

theorem saved_of_saveInsn (h : s.saveInsn x = true) :
    s.fetch.saved = false ∧ x.answered = true := by
  simp only [saveInsn, Bool.and_eq_true, Bool.not_eq_true'] at h
  exact ⟨h.2, h.1.1⟩

/-- The stage waits on until it issues an instruction. -/
theorem waits_step (h : Waits s a) (hrst : x.unit.rst = false) (hflush : s.flushpipe x = false)
    (hwait : s.ifStall x = true ∨ x.unit.idFreeze = true) : Waits (s.step x) a := by
  obtain ⟨-, hextend, -⟩ := pcWe_of_not_flushpipe hflush
  have hfreeze : s.ifFreeze x = x.unit.idFreeze := by rw [ifFreeze, hextend, Bool.or_false]
  have hsaved : (s.step x).fetch.saved =
      if s.saveInsn x then true else if !x.unit.idFreeze then false else s.fetch.saved :=
    savedReg_of_not_flushpipe hrst hflush ..
  have haddr : (s.step x).fetch.addrSaved =
      if s.saveInsn x || !x.unit.idFreeze then s.icpuAdr.extractLsb' 2 30 ++ 0#2
      else s.fetch.addrSaved := by
    change s.nextAddrSaved x = _
    rw [nextAddrSaved, hrst, hflush, hfreeze]
    rfl
  refine ⟨selected_step hrst, h.clear_step hflush hwait, .inr ?_, fun hno => ?_, fun hyes => ?_⟩
  · change (if x.unit.rst then false else s.ifBypass x) = false
    rw [hrst, h.ifBypass hflush]
    rfl
  · -- nothing was answered, since a stage that is frozen saves the answer
    have hpart : s.fetch.saved = false ∧ x.answered = false := by
      rw [hsaved] at hno
      rcases hwait with hstall | hidle
      · simp only [ifStall, Bool.and_eq_true, Bool.not_eq_true'] at hstall
        refine ⟨hstall.2, ?_⟩
        rw [FrontPorts.answered, hstall.1.1, hstall.1.2]
        rfl
      · rw [hidle] at hno
        split_ifs at hno with hsave hfalse
        · cases hfalse
        · simp only [saveInsn, hfreeze, hidle, hno, Bool.not_false, Bool.and_true] at hsave
          exact ⟨hno, Bool.not_eq_true _ ▸ hsave⟩
    rw [h.icpuAdr_step hrst hflush hpart.2]
    exact h.adr hpart.1
  · rw [haddr]
    cases hsave : s.saveInsn x with
    | true =>
      rw [h.adr (saved_of_saveInsn hsave).1, extractLsb'_fetchAdr]
      rfl
    | false =>
      rw [hsaved, hsave] at hyes
      cases hidle : x.unit.idFreeze with
      | false =>
        rw [hidle] at hyes
        cases hyes
      | true =>
        rw [hidle] at hyes
        exact h.addrSaved hyes

/-- The stage issues the instruction it waits for. -/
theorem issue_step (h : Waits s a) (hrst : x.unit.rst = false) (hflush : s.flushpipe x = false)
    (hfreeze : x.unit.idFreeze = false) :
    (s.step x).fetch.idInsn =
        (if s.fetch.saved then s.fetch.insnSaved else if x.qmemAck then x.icpuDatI else stallNop) ∧
      (s.step x).unit.pipe.idPc = a ++ 0#2 ∧ (s.step x).unit.pipe.idPcVal = true := by
  have hpc : s.ifPc = a ++ 0#2 := by
    rw [ifPc]
    split_ifs with hsaved
    · exact h.addrSaved hsaved
    · rw [h.adr (Bool.not_eq_true _ ▸ hsaved), extractLsb'_fetchAdr]
  obtain ⟨hidPc, hval⟩ :=
    ExceptRegs.idPc_step (s := s.unit) (i := s.unitPorts x) hrst hflush hfreeze
  refine ⟨?_, hidPc.trans hpc, hval⟩
  change s.idReg x flushNop (s.ifInsn x) s.fetch.idInsn = _
  rw [idReg, hrst, hflush, hfreeze, h.ifInsn hflush]
  rfl

end Waiting

/-! ### Targets -/

/-- A branch without a delay slot to come is taken. -/
theorem exBranchTaken_of_noMoreDslot (hflush : s.flushpipe x = false)
    (hslot : s.noMoreDslot x = true) : s.exBranchTaken x = true := by
  obtain ⟨hpc, -, hstart⟩ := pcWe_of_not_flushpipe hflush
  simp only [noMoreDslot, Bool.or_eq_true, Bool.and_eq_true, beq_iff_eq] at hslot
  rcases hslot with ⟨-, htaken⟩ | hrfe
  · exact htaken
  · exact congrArg Prod.snd (Genpc.next_of_rfe (i := s.genpcIn x) hpc hstart hrfe)

/-- When a taken branch leaves the execute stage behind its delay slot, the fetch stage waits for
the target. -/
theorem waits_step_of_noMoreDslot (hrst : x.unit.rst = false) (hselected : Selected s.fetch)
    (hflush : s.flushpipe x = false) (hslot : s.noMoreDslot x = true)
    (hbranch : s.fetch.idBranchOp = BranchCode.nop) (hid : x.unit.idFreeze = false)
    (hex : x.unit.exFreeze = false) :
    Waits (s.step x) (s.fetch.genpc.nextPcreg (s.genpcIn x)) ∧ (s.step x).fetch.saved = false := by
  have hadr : (s.step x).icpuAdr = fetchAdr (s.fetch.genpc.nextPcreg (s.genpcIn x)) true := by
    rw [icpuAdr_step hrst hselected]
    exact Genpc.icpuAdrO_of_noMoreDslot hslot (exBranchTaken_of_noMoreDslot hflush hslot)
  have hsave : s.saveInsn x = false := by
    rw [saveInsn, ifFreeze, hid, (pcWe_of_not_flushpipe hflush).2.1, Bool.or_false, Bool.and_false]
    rfl
  have hsaved : (s.step x).fetch.saved = false := by
    refine (savedReg_of_not_flushpipe hrst hflush ..).trans ?_
    rw [hsave, hid]
    rfl
  have hinsn : s.ifInsn x = flushNop := by
    rw [ifInsn, hslot]
    rfl
  refine ⟨⟨selected_step hrst, ⟨?_, ?_, ?_⟩, .inl ?_, fun _ => hadr, fun hyes => ?_⟩, hsaved⟩
  · have hnext : s.idReg x flushNop (s.ifInsn x) s.fetch.idInsn = flushNop := by
      rw [idReg, hrst, hflush, hid, hinsn]
      rfl
    exact congrArg isVoid hnext
  · change s.idReg x BranchCode.nop (branchOpOf (s.ifInsn x)) s.fetch.idBranchOp = BranchCode.nop
    rw [idReg, hrst, hflush, hid, hinsn]
    rfl
  · change s.exReg x BranchCode.nop s.fetch.idBranchOp s.fetch.exBranchOp = BranchCode.nop
    rw [exReg, hrst, hflush, hid, hex]
    exact hbranch
  · rw [hadr, fetchAdr_mark]
  · exact absurd (hsaved.symm.trans hyes) Bool.false_ne_true

/-- The stage behind a return stays without a branch. -/
theorem idBranchOp_step (h : s.fetch.exBranchOp = BranchCode.rfe →
    s.fetch.idBranchOp = BranchCode.nop)
    (hrfe : (s.step x).fetch.exBranchOp = BranchCode.rfe) :
    (s.step x).fetch.idBranchOp = BranchCode.nop := by
  have hinsn (hreturn : s.rfe = true) : branchOpOf (s.ifInsn x) = BranchCode.nop := by
    have hnop : s.ifInsn x = flushNop := by
      rw [ifInsn, hreturn, Bool.or_true]
      rfl
    exact congrArg branchOpOf hnop
  change s.exReg x BranchCode.nop s.fetch.idBranchOp s.fetch.exBranchOp = BranchCode.rfe at hrfe
  change s.idReg x BranchCode.nop (branchOpOf (s.ifInsn x)) s.fetch.idBranchOp = BranchCode.nop
  rw [exReg] at hrfe
  split_ifs at hrfe with hrst hbubble hmove
  · cases hrfe
  · cases hrfe
  · -- the return moves on to the execute stage
    have hid : x.unit.idFreeze = false := by
      simp only [hmove, Bool.true_and, Bool.or_eq_true, not_or, Bool.not_eq_true] at hbubble
      exact hbubble.1
    have hreturn : s.rfe = true := by
      rw [rfe, hrfe]
      rfl
    rw [idReg, hid, hinsn hreturn]
    split_ifs with _ hno
    · rfl
    · rfl
    · exact absurd rfl hno
  · have hreturn : s.rfe = true := by
      rw [rfe, hrfe, Bool.or_eq_true]
      exact .inr rfl
    exact idReg_induction (P := fun op => op = BranchCode.nop) rfl (fun _ => hinsn hreturn) (h hrfe)

/-! ### Exceptions -/

/-- The handler of an exception of type `τ` is started, and the stages are flushed for it. -/
structure Starts (s : Front) (τ : BitVec 4) : Prop where
  flush : s.unit.fsm.extendFlush = true
  exceptType : s.unit.fsm.exceptType = τ
  empty : Empty s.fetch
  selected : Selected s.fetch

section Starting

variable {τ : BitVec 4}

theorem Starts.flushpipe (h : Starts s τ) (x : FrontPorts) : s.flushpipe x = true := by
  rw [Front.flushpipe, ExceptRegs.flushpipe, h.flush, Bool.or_true]

theorem starts_step (hrst : x.unit.rst = false) (hflush : s.flushpipe x = true)
    (hextend : (s.unit.nextFsm (s.unitPorts x)).extendFlush = true)
    (htype : (s.unit.nextFsm (s.unitPorts x)).exceptType = τ) : Starts (s.step x) τ := by
  have hfsm : (s.step x).unit.fsm = s.unit.nextFsm (s.unitPorts x) := ExceptRegs.fsm_step hrst
  exact ⟨hfsm ▸ hextend, hfsm ▸ htype, (empty_step_of_flushpipe hrst hflush).1, selected_step hrst⟩

/-- After the last cycle of the flush the fetch stage waits for the handler. -/
theorem Starts.waits_step (h : Starts s τ) (hτ : τ ≠ ExceptType.none) (hrst : x.unit.rst = false)
    (hpc : x.unit.pcWe = false) :
    Waits (s.step x) ((exceptVector τ (x.unit.sr.getLsbD 14)).extractLsb' 2 30) := by
  obtain ⟨hempty, hsaved⟩ := empty_step_of_flushpipe hrst (h.flushpipe x)
  have hstart : s.unit.exceptStart = true := by
    rw [ExceptRegs.exceptStart, h.flush, h.exceptType, Bool.and_true]
    exact bne_iff_ne.mpr hτ
  have hadr := icpuAdr_step_of_exceptStart hrst h.selected hpc hstart
  rw [h.exceptType] at hadr
  refine ⟨selected_step hrst, hempty.toClear, .inl ?_, fun _ => hadr, fun hyes => ?_⟩
  · rw [hadr, fetchAdr_mark]
  · rw [hsaved] at hyes
    cases hyes

end Starting

end Steps

/-! ### Runs -/

/-- No reset, the debug unit does not write the program counter while the execute stage is empty,
the memory answers again and again, and again and again the decode stage takes an instruction. -/
structure Fair (x : ℕ → FrontPorts) : Prop where
  rst : ∀ t, (x t).unit.rst = false
  pcWe : ∀ t, (x t).unit.pcWe = true → isVoid (regs x t).fetch.exInsn = false
  fetch : ∀ t, ∃ u, t ≤ u ∧ ((x u).qmemAck || (x u).icpuErr || (x u).unit.genpcFreeze) = true
  issue : ∀ t, ∃ u, t ≤ u ∧ (!(regs x u).ifStall (x u) && !(x u).unit.idFreeze) = true

section Runs

variable {x : ℕ → FrontPorts} {t u w : ℕ} {τ : BitVec 4} {a : BitVec 30}

theorem fsm_succ (hrst : (x t).unit.rst = false) : (regs x (t + 1)).unit.fsm =
    (regs x t).unit.nextFsm ((regs x t).unitPorts (x t)) :=
  ExceptRegs.fsm_step hrst

/-- An empty execute stage does not write the program counter. -/
theorem Fair.pcWe_of_empty (hfair : Fair x) (h : Empty (regs x t).fetch) :
    (x t).unit.pcWe = false := by
  refine Bool.eq_false_of_not_eq_true fun hpc => ?_
  have hvoid := hfair.pcWe t hpc
  rw [h.exInsn] at hvoid
  cases hvoid

/-- A move of the machine that keeps the flush and the type keeps the start of the handler. -/
theorem Starts.succ (hrst : (x t).unit.rst = false) (h : Starts (regs x t) τ) {σ : FsmState}
    (hfsm : (regs x t).unit.nextFsm ((regs x t).unitPorts (x t)) =
      { (regs x t).unit.fsm with state := σ }) :
    (regs x (t + 1)).unit.fsm.state = σ ∧ Starts (regs x (t + 1)) τ := by
  refine ⟨?_, starts_step (s := regs x t) hrst (h.flushpipe _) ?_ ?_⟩
  · rw [fsm_succ hrst, hfsm]
  · rw [hfsm]
    exact h.flush
  · rw [hfsm]
    exact h.exceptType

/-- The flush goes on until the last state before the machine waits. -/
theorem Starts.exists_flu4 (hfair : Fair x) (hstate : (regs x t).unit.fsm.state = .flu1)
    (h : Starts (regs x t) τ) (htrap : τ ≠ ExceptType.trap) :
    ∃ w, t < w ∧ (regs x w).unit.fsm.state = .flu4 ∧ ∀ r, t ≤ r → r ≤ w →
      Starts (regs x r) τ ∧ (regs x r).unit.fsm.state ≠ .idle := by
  have hflu1 (r : ℕ) (hr : (regs x r).unit.fsm.state = .flu1 ∧ Starts (regs x r) τ)
      (σ : FsmState) (hσ : σ = if (x r).qmemAck || (x r).icpuErr || (x r).unit.genpcFreeze then
        .flu2 else .flu1) :
      (regs x (r + 1)).unit.fsm.state = σ ∧ Starts (regs x (r + 1)) τ := by
    refine hr.2.succ (hfair.rst r) ((ExceptRegs.nextFsm_of_flu1 hr.1).trans ?_)
    rw [hσ]
    change (if (x r).qmemAck || (x r).icpuErr || (x r).unit.genpcFreeze then _ else _) = _
    split_ifs
    · rfl
    · rw [← hr.1]
  obtain ⟨u, htu, hflu2, hwaits⟩ := exists_of_stays hfair.fetch
    (Q := fun r => (regs x r).unit.fsm.state = .flu1 ∧ Starts (regs x r) τ)
    (R := fun r => (regs x r).unit.fsm.state = .flu2 ∧ Starts (regs x r) τ)
    (fun r hr hno => hflu1 r hr .flu1 (if_neg hno).symm)
    (fun r hr hyes => hflu1 r hr .flu2 (if_pos hyes).symm) ⟨hstate, h⟩
  have hflu3 := hflu2.2.succ (hfair.rst _)
    (ExceptRegs.nextFsm_of_flu2 hflu2.1 (hflu2.2.exceptType ▸ htrap))
  have hflu4 := hflu3.2.succ (hfair.rst _) (ExceptRegs.nextFsm_of_flu3 hflu3.1)
  refine ⟨u + 3, by omega, hflu4.1, fun r htr hru => ?_⟩
  rcases (by omega : r ≤ u ∨ r = u + 1 ∨ r = u + 2 ∨ r = u + 3) with hle | rfl | rfl | rfl
  · exact ⟨(hwaits r htr hle).2, by rw [(hwaits r htr hle).1]; simp⟩
  · exact ⟨hflu2.2, by rw [hflu2.1]; simp⟩
  · exact ⟨hflu3.2, by rw [hflu3.1]; simp⟩
  · exact ⟨hflu4.2, by rw [hflu4.1]; simp⟩

/-- The answer to the fetch of `a` in a cycle between `w` and `u` is the word. -/
def Answers (x : ℕ → FrontPorts) (a : BitVec 30) (w u : ℕ) (word : U32) : Prop :=
  ∃ f, w < f ∧ f < u ∧ (regs x f).icpuAdr = fetchAdr a true ∧ (x f).answered = true ∧
    ((x f).qmemAck = true → (x f).icpuErr = false → word = (x f).icpuDatI)

/-- In the cycle before `t` the fetch stage issued the instruction at an address, which it fetched
after `w`. -/
structure Issued (x : ℕ → FrontPorts) (pc : U32) (w t : ℕ) : Prop where
  idPc : (regs x t).unit.pipe.idPc = pc
  idPcVal : (regs x t).unit.pipe.idPcVal = true
  idInsn : Answers x (pc.extractLsb' 2 30) w t (regs x t).fetch.idInsn

/-- The fetch stage waits for the instruction at `a` since the cycle `w`. -/
structure WaitsFor (x : ℕ → FrontPorts) (a : BitVec 30) (w t : ℕ) : Prop where
  waits : Waits (regs x t) a
  lt : w < t
  insnSaved : (regs x t).fetch.saved = true → Answers x a w t (regs x t).fetch.insnSaved

theorem Answers.mono {word : U32} (h : Answers x a w t word) : Answers x a w (t + 1) word := by
  obtain ⟨f, hwf, hft, hanswer⟩ := h
  exact ⟨f, hwf, Nat.lt_succ_of_lt hft, hanswer⟩

/-- The stage waits until it issues an instruction. -/
theorem WaitsFor.succ (h : WaitsFor x a w t) (hrst : (x t).unit.rst = false)
    (hflush : (regs x t).flushpipe (x t) = false)
    (hwait : (regs x t).ifStall (x t) = true ∨ (x t).unit.idFreeze = true) :
    WaitsFor x a w (t + 1) := by
  refine ⟨waits_step h.waits hrst hflush hwait, Nat.lt_succ_of_lt h.lt, fun hyes => ?_⟩
  have hsaved : (regs x (t + 1)).fetch.saved = _ :=
    savedReg_of_not_flushpipe hrst hflush false true (regs x t).fetch.saved
  have hinsn : (regs x (t + 1)).fetch.insnSaved = _ :=
    savedReg_of_not_flushpipe hrst hflush flushNop
      (if (x t).icpuErr then flushNop else (x t).icpuDatI) (regs x t).fetch.insnSaved
  cases hsave : (regs x t).saveInsn (x t) with
  | true =>
    obtain ⟨hempty, hanswered⟩ := saved_of_saveInsn hsave
    refine ⟨t, h.lt, t.lt_succ_self, h.waits.adr hempty, hanswered, fun _ herr => ?_⟩
    rw [hinsn, hsave, herr]
    rfl
  | false =>
    rw [hsave] at hinsn hsaved
    cases hfreeze : (x t).unit.idFreeze with
    | false =>
      rw [hfreeze] at hsaved
      exact absurd (hsaved.symm.trans hyes) Bool.false_ne_true
    | true =>
      rw [hfreeze] at hinsn hsaved
      rw [hinsn]
      exact (h.insnSaved (hsaved.symm.trans hyes)).mono

/-- The stage issues the word that answers the fetch. -/
theorem WaitsFor.issue (h : WaitsFor x a w t) (hrst : (x t).unit.rst = false)
    (hflush : (regs x t).flushpipe (x t) = false)
    (hstall : (regs x t).ifStall (x t) = false) (hfreeze : (x t).unit.idFreeze = false) :
    Issued x (a ++ 0#2) w (t + 1) := by
  obtain ⟨hinsn, hpc, hval⟩ := issue_step h.waits hrst hflush hfreeze
  have hnext : (regs x (t + 1)).fetch.idInsn = _ := hinsn
  refine ⟨hpc, hval, ?_⟩
  rw [hnext, extractLsb'_append_zero]
  cases hsaved : (regs x t).fetch.saved with
  | true => exact (h.insnSaved hsaved).mono
  | false =>
    have hanswered : (x t).answered = true := by
      rw [ifStall, hsaved] at hstall
      rw [FrontPorts.answered]
      cases hack : (x t).qmemAck with
      | true => rfl
      | false => simpa [hack] using hstall
    refine ⟨t, h.lt, t.lt_succ_self, h.waits.adr hsaved, hanswered, fun hack _ => ?_⟩
    rw [hack]
    rfl

/-! ### Targets -/

/-- The cycle `v` is the first after `t` in which the fetch stage issues what it waits for, with
nothing flushed. -/
structure FirstIssue (x : ℕ → FrontPorts) (t v : ℕ) : Prop where
  lt : t < v
  rst : ∀ r ≤ v, (x r).unit.rst = false
  flushpipe : ∀ r, t ≤ r → r ≤ v → (regs x r).flushpipe (x r) = false
  waits : ∀ r, t < r → r < v → (regs x r).ifStall (x r) = true ∨ (x r).unit.idFreeze = true
  ifStall : (regs x v).ifStall (x v) = false
  idFreeze : (x v).unit.idFreeze = false

theorem selected_regs (hrst : ∀ r ≤ t, (x r).unit.rst = false) (ht : t ≠ 0) :
    Selected (regs x t).fetch := by
  obtain ⟨r, rfl⟩ := Nat.exists_eq_succ_of_ne_zero ht
  exact selected_step (hrst r r.le_succ)

/-- What the fetch stage waits for is the next that it issues. -/
theorem issued_of_waits {v : ℕ} (h : FirstIssue x t v) (hwaits : Waits (regs x (t + 1)) a)
    (hsaved : (regs x (t + 1)).fetch.saved = false) :
    (∀ r, t < r → r ≤ v → isVoid (regs x r).fetch.idInsn = true) ∧
      Issued x (a ++ 0#2) t (v + 1) := by
  have hreach (r : ℕ) (htr : t + 1 ≤ r) (hrv : r ≤ v) : WaitsFor x a t r := by
    induction r, htr using Nat.le_induction with
    | base => exact ⟨hwaits, t.lt_succ_self, fun hyes => absurd (hsaved.symm.trans hyes) (by simp)⟩
    | succ r htr ih =>
      exact (ih (Nat.le_of_succ_le hrv)).succ (h.rst r (Nat.le_of_succ_le hrv))
        (h.flushpipe r (Nat.le_of_succ_le htr) (Nat.le_of_succ_le hrv)) (h.waits r htr hrv)
  refine ⟨fun r htr hrv => (hreach r htr hrv).waits.clear.idInsn, ?_⟩
  exact (hreach v h.lt le_rfl).issue (h.rst v le_rfl) (h.flushpipe v h.lt.le le_rfl) h.ifStall
    h.idFreeze

/-- After the delay slot of a taken branch the next instruction that is issued is its target. -/
theorem target_issued {v : ℕ} (h : FirstIssue x t v)
    (hslot : (regs x t).noMoreDslot (x t) = true)
    (hbranch : (regs x t).fetch.idBranchOp = BranchCode.nop) (hid : (x t).unit.idFreeze = false)
    (hex : (x t).unit.exFreeze = false) :
    (∀ r, t < r → r ≤ v → isVoid (regs x r).fetch.idInsn = true) ∧
      Issued x ((regs x t).fetch.genpc.nextPcreg ((regs x t).genpcIn (x t)) ++ 0#2) t (v + 1) := by
  have hselected : Selected (regs x t).fetch := by
    refine selected_regs (fun r hr => h.rst r (hr.trans h.lt.le)) ?_
    rintro rfl
    have hclear : Clear reset.fetch := ⟨rfl, rfl, rfl⟩
    exact absurd ((hclear.noMoreDslot (x 0)).symm.trans hslot) Bool.false_ne_true
  obtain ⟨hwaits, hsaved⟩ := waits_step_of_noMoreDslot (h.rst t h.lt.le) hselected
    (h.flushpipe t le_rfl h.lt.le) hslot hbranch hid hex
  exact issued_of_waits h hwaits hsaved

/-- A return is never followed by another branch. -/
theorem idBranchOp_of_rfe
    (hrfe : (regs x t).fetch.exBranchOp = BranchCode.rfe) :
    (regs x t).fetch.idBranchOp = BranchCode.nop := by
  induction t with
  | zero => rfl
  | succ t ih => exact idBranchOp_step ih hrfe

/-- After a return the next instruction that is issued is the one it returns to: from the handler of
the monitor the one at the shadow register of EPCR. -/
theorem return_issued {v : ℕ} (h : FirstIssue x t v)
    (hrfe : (regs x t).fetch.exBranchOp = BranchCode.rfe) (hid : (x t).unit.idFreeze = false)
    (hex : (x t).unit.exFreeze = false) :
    (∀ r, t < r → r ≤ v → isVoid (regs x r).fetch.idInsn = true) ∧
      Issued x ((if inHandler (regs x t).unit.pipe.exPc then
          (regs x t).unit.fsm.saved.spEpcrGhost
        else (regs x t).unit.fsm.saved.epcr).extractLsb' 2 30 ++ 0#2) t (v + 1) := by
  have hflush := h.flushpipe t le_rfl h.lt.le
  obtain ⟨hpc, -, hstart⟩ := pcWe_of_not_flushpipe hflush
  have hslot : (regs x t).noMoreDslot (x t) = true := by
    rw [noMoreDslot, hrfe, Bool.or_eq_true]
    exact .inr rfl
  have hselected : Selected (regs x t).fetch := by
    refine selected_regs (fun r hr => h.rst r (hr.trans h.lt.le)) ?_
    rintro rfl
    cases hrfe
  obtain ⟨hwaits, hsaved⟩ := waits_step_of_noMoreDslot (h.rst t h.lt.le) hselected hflush hslot
    (idBranchOp_of_rfe hrfe) hid hex
  have htarget : (regs x t).fetch.genpc.nextPcreg ((regs x t).genpcIn (x t)) =
      (if inHandler (regs x t).unit.pipe.exPc then (regs x t).unit.fsm.saved.spEpcrGhost
        else (regs x t).unit.fsm.saved.epcr).extractLsb' 2 30 := by
    rw [Genpc.nextPcreg, Genpc.next_of_rfe hpc hstart hrfe]
    rfl
  rw [← htarget]
  exact issued_of_waits h hwaits hsaved

/-! ### Handlers -/

/-- The machine waits with the fetch stage for the handler of an exception. -/
structure Handles (x : ℕ → FrontPorts) (a : BitVec 30) (w t : ℕ) : Prop where
  waitsFor : WaitsFor x a w t
  exInsn : isVoid (regs x t).fetch.exInsn = true
  state : (regs x t).unit.fsm.state = .flu5

theorem Handles.empty (h : Handles x a w t) : Empty (regs x t).fetch :=
  ⟨h.waitsFor.waits.clear, h.exInsn⟩

/-- While the machine waits nothing is flushed. -/
theorem Handles.flushpipe (hfair : Fair x) (h : Handles x a w t) :
    (regs x t).flushpipe (x t) = false := by
  have hwf := ExceptRegs.wf_run (fun r => (regs x r).unitPorts (x r)) t
  rw [← unit_regs] at hwf
  have hextend : (regs x t).unit.fsm.extendFlush = false := by
    refine Bool.eq_false_of_not_eq_true fun hflush => ?_
    exact (hwf.flush.mp hflush).2 h.state
  have hpc : ((regs x t).unitPorts (x t)).pcWe = false := hfair.pcWe_of_empty h.empty
  rw [Front.flushpipe, ExceptRegs.flushpipe, ExceptRegs.exceptFlushpipe, h.state, hextend, hpc]
  simp

/-- The machine waits as long as no instruction reaches the execute stage. -/
theorem Handles.succ (hfair : Fair x) (h : Handles x a w t)
    (hwait : (regs x t).ifStall (x t) = true ∨ (x t).unit.idFreeze = true) :
    Handles x a w (t + 1) := by
  have hvoid : ((regs x t).unitPorts (x t)).exVoid = true := h.exInsn
  refine ⟨h.waitsFor.succ (hfair.rst t) (h.flushpipe hfair) hwait, ?_, ?_⟩
  · exact exReg_induction (P := fun insn => isVoid insn = true) rfl h.empty.idInsn h.exInsn
  · rw [fsm_succ (hfair.rst t), ExceptRegs.nextFsm_of_flu5 h.state, hvoid]
    simpa using h.state

/-- The flush for a handler ends, and the first instruction that is issued after it is the first one
of the handler. -/
theorem Starts.exists_issued (hfair : Fair x) (hstate : (regs x t).unit.fsm.state = .flu1)
    (h : Starts (regs x t) τ) (hτ : τ ≠ ExceptType.none) (htrap : τ ≠ ExceptType.trap) :
    ∃ w v, t < w ∧ w < v ∧
      (∀ r, t ≤ r → r ≤ v → Empty (regs x r).fetch ∧ (regs x r).unit.fsm.state ≠ .idle) ∧
      Issued x (exceptVector τ ((x w).unit.sr.getLsbD 14)) w (v + 1) := by
  obtain ⟨w, htw, hflu4, hflushed⟩ := h.exists_flu4 hfair hstate htrap
  -- the last cycle of the flush
  have hstart := (hflushed w htw.le le_rfl).1
  obtain ⟨hempty, hsaved⟩ := empty_step_of_flushpipe (hfair.rst w) (hstart.flushpipe (x w))
  have hwaits := hstart.waits_step hτ (hfair.rst w) (hfair.pcWe_of_empty hstart.empty)
  set pc := exceptVector τ ((x w).unit.sr.getLsbD 14) with hpc
  have hbase : Handles x (pc.extractLsb' 2 30) w (w + 1) := by
    refine ⟨⟨hwaits, w.lt_succ_self, fun hyes => ?_⟩, hempty.exInsn, ?_⟩
    · exact absurd (hsaved.symm.trans hyes) Bool.false_ne_true
    · rw [fsm_succ (hfair.rst w), ExceptRegs.nextFsm_of_flu4 hflu4]
  obtain ⟨v, hwv, hissued, hall⟩ := exists_of_stays hfair.issue
    (R := fun r => Issued x (pc.extractLsb' 2 30 ++ 0#2) w r)
    (fun r hr hno => hr.succ hfair (by simpa [Classical.or_iff_not_imp_left] using hno))
    (fun r hr hyes => by
      rw [Bool.and_eq_true, Bool.not_eq_true', Bool.not_eq_true'] at hyes
      exact hr.waitsFor.issue (hfair.rst r) (hr.flushpipe hfair) hyes.1 hyes.2) hbase
  rw [hpc, exceptVector_aligned, ← hpc] at hissued
  refine ⟨w, v, htw, hwv, fun r htr hrv => ?_, hissued⟩
  rcases Nat.lt_or_ge w r with hwr | hrw
  · have hr := hall r hwr hrv
    exact ⟨hr.empty, by rw [hr.state]; simp⟩
  · obtain ⟨hr, hbusy⟩ := hflushed r htr hrw
    exact ⟨hr.empty, hbusy⟩

/-- An exception that is taken starts its handler. -/
theorem starts_of_taken (hrst : (x t).unit.rst = false) {e : ExceptRegs.Trigger}
    (hidle : (regs x t).unit.fsm.state = .idle)
    (he : (regs x t).unit.taken ((regs x t).unitPorts (x t)) = some e) :
    (regs x (t + 1)).unit.fsm.state = .flu1 ∧
      (regs x (t + 1)).unit.fsm.saved = (regs x t).unit.enter ((regs x t).unitPorts (x t)) e ∧
      Starts (regs x (t + 1)) e.exceptType := by
  have hfsm := ExceptRegs.nextFsm_of_taken hidle he
  have hflush : (regs x t).flushpipe (x t) = true := by
    rw [Front.flushpipe, ExceptRegs.flushpipe, ExceptRegs.exceptFlushpipe, he, hidle]
    rfl
  refine ⟨?_, ?_, starts_step (s := regs x t) hrst hflush (by rw [hfsm]) (by rw [hfsm])⟩
  · rw [fsm_succ hrst, hfsm]
  · rw [fsm_succ hrst, hfsm]

/-- What an exception saved stays while its handler is started. -/
theorem saved_regs (hfair : Fair x) (htu : t ≤ u)
    (hbusy : ∀ r, t ≤ r → r < u → (regs x r).unit.fsm.state ≠ .idle) :
    (regs x u).unit.fsm.saved = (regs x t).unit.fsm.saved := by
  rw [unit_regs, unit_regs]
  refine ExceptRegs.saved_run htu fun r htr hru => ⟨hfair.rst r, ?_⟩
  rw [← unit_regs]
  exact hbusy r htr hru

/-- After an exception no instruction is issued before the first one of its handler. -/
theorem handler_issued (hfair : Fair x) {e : ExceptRegs.Trigger}
    (hidle : (regs x t).unit.fsm.state = .idle)
    (he : (regs x t).unit.taken ((regs x t).unitPorts (x t)) = some e)
    (htrap : e.exceptType ≠ ExceptType.trap) :
    ∃ w v, t < w ∧ w < v ∧
      (∀ r, t < r → r ≤ v → Empty (regs x r).fetch ∧ (regs x r).unit.fsm.state ≠ .idle) ∧
      Issued x (exceptVector e.exceptType ((x w).unit.sr.getLsbD 14)) w (v + 1) := by
  obtain ⟨hflu1, -, hstarts⟩ := starts_of_taken (hfair.rst t) hidle he
  obtain ⟨w, v, htw, hwv, hempty, hissued⟩ := hstarts.exists_issued hfair hflu1
    (ExceptRegs.exceptType_ne_none_of_taken he) htrap
  exact ⟨w, v, Nat.lt_of_succ_lt htw, hwv, hempty, hissued⟩

end Runs

/-! ### A run -/

/-- The word `insn` is fetched in cycle 2, an illegal instruction is found in the cycle `illegal`,
and cycle 5 has no answer. -/
def fetching (insn : U32) (illegal t : ℕ) : FrontPorts where
  unit := { ExceptRegs.quiet with sigIllegal := t = illegal }
  qmemAck := t ≠ 5
  qmemErr := false
  qmemTag := 1
  miss := false
  fault := false
  icpuDatI := if t = 2 then insn else 0x9c630001
  flag := false
  operandB := 0

theorem fair_fetching (insn : U32) (illegal : ℕ) : Fair (fetching insn illegal) where
  rst := fun _ => rfl
  pcWe := fun _ h => nomatch h
  fetch := fun t => ⟨t + 6, by omega, by simp [fetching]⟩
  issue := fun t => ⟨t + 6, by omega, by simp [fetching, ifStall, ExceptRegs.quiet]⟩

/-- The illegal instruction is at address 0x104. -/
theorem handler_issued_fetching : ∃ w v, 4 < w ∧ w < v ∧
    (∀ r, 4 < r → r ≤ v → Empty (regs (fetching 0x9c630001 4) r).fetch ∧
      (regs (fetching 0x9c630001 4) r).unit.fsm.state ≠ .idle) ∧
    Issued (fetching 0x9c630001 4) (exceptVector ExceptType.illegal
      ((fetching 0x9c630001 4 w).unit.sr.getLsbD 14)) w (v + 1) :=
  handler_issued (e := ⟨true, ExceptType.illegal, some 0x104, 0x104⟩)
    (fair_fetching 0x9c630001 4) (by decide +kernel) (by decide +kernel) (by decide)

/-- A jump and a return leave the execute stage in cycle 4, and cycle 6 issues their target. -/
theorem firstIssue_fetching {insn : U32} (h : insn = 0x00000010 ∨ insn = 0x24000000) :
    FirstIssue (fetching insn 40) 4 6 := by
  refine ⟨by decide, fun _ _ => rfl, fun r htr hru => ?_, fun r htr hru => .inl ?_, ?_, rfl⟩
  · rcases (by omega : r = 4 ∨ r = 5 ∨ r = 6) with rfl | rfl | rfl <;>
      rcases h with rfl | rfl <;> decide +kernel
  · obtain rfl : r = 5 := by omega
    rcases h with rfl | rfl <;> decide +kernel
  · rcases h with rfl | rfl <;> decide +kernel

/-- `l.j 64` at address 0x104. -/
theorem target_issued_fetching :
    (∀ r, 4 < r → r ≤ 6 → isVoid (regs (fetching 0x00000010 40) r).fetch.idInsn = true) ∧
      Issued (fetching 0x00000010 40)
        ((regs (fetching 0x00000010 40) 4).fetch.genpc.nextPcreg
          ((regs (fetching 0x00000010 40) 4).genpcIn (fetching 0x00000010 40 4)) ++ 0#2) 4 7 :=
  target_issued (firstIssue_fetching (.inl rfl)) (by decide +kernel) (by decide +kernel) rfl rfl

/-- `l.rfe` at address 0x104. -/
theorem return_issued_fetching :
    (∀ r, 4 < r → r ≤ 6 → isVoid (regs (fetching 0x24000000 40) r).fetch.idInsn = true) ∧
      Issued (fetching 0x24000000 40)
        ((if inHandler (regs (fetching 0x24000000 40) 4).unit.pipe.exPc then
            (regs (fetching 0x24000000 40) 4).unit.fsm.saved.spEpcrGhost
          else (regs (fetching 0x24000000 40) 4).unit.fsm.saved.epcr).extractLsb' 2 30 ++ 0#2)
        4 7 :=
  return_issued (firstIssue_fetching (.inr rfl)) (by decide +kernel) rfl rfl

end Front

end WirePatch.Or1200
