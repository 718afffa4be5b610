import WirePatch.Foundations.Clocked
import WirePatch.Hardware.Processor

/-!
# Exception unit of the processor

The exception unit of the OR1200 core (`or1200_except.v`): the priorities of the triggers, the
pipeline of the program counters, the state machine that flushes the instruction pipeline and
starts the handler, and the registers EPCR, EEAR and ESR with their shadow registers. The freeze
signal of the write-back stage is the one of the execute stage (`or1200_freeze.v`, line 134). The
registers that only the debug unit reads are left out.

## Main definitions

* `Or1200.FsmState`, `Or1200.Saved`, `Or1200.PcPipe`, `Or1200.ExceptRegs`, `Or1200.ExceptIn`.
* `Or1200.ExceptRegs.triggers`: the triggers, by priority.
* `Or1200.ExceptRegs.step`: one step of the unit.

## Main results

* `Or1200.ExceptRegs.wf_run`: the flush signal and the type of the exception follow the state.
* `Or1200.ExceptRegs.exists_idle_of_taken`: the machine gets back to its idle state with what it
  saved.
* `Or1200.ExceptRegs.interrupt_of_run`: an interrupt comes three cycles after it is enabled.
* `Or1200.ExceptRegs.taken_of_accepts`: when an illegal instruction is taken.
-/

namespace WirePatch.Or1200

/-! ### Registers -/

namespace ExceptType

def unused : BitVec 4 := 0xf
def trap : BitVec 4 := 0xe
def float : BitVec 4 := 0xd
def syscall : BitVec 4 := 0xc
def range : BitVec 4 := 0xb
def itlbmiss : BitVec 4 := 0xa
def dtlbmiss : BitVec 4 := 0x9
def int : BitVec 4 := 0x8
def illegal : BitVec 4 := 0x7
def align : BitVec 4 := 0x6
def tick : BitVec 4 := 0x5
def ipf : BitVec 4 := 0x4
def dpf : BitVec 4 := 0x3
def buserr : BitVec 4 := 0x2
def none : BitVec 4 := 0x0

end ExceptType

/-- The states `OR1200_EXCEPTFSM_*`; the default branch of the machine is `flu5`. -/
inductive FsmState
  | idle
  | flu1
  | flu2
  | flu3
  | flu4
  | flu5
  deriving DecidableEq, Repr

/-- What an exception saves, and the values from before it. -/
@[ext] structure Saved where
  epcr : U32
  eear : U32
  esr : SrWord
  spEpcrGhost : U32
  spEearGhost : U32
  spEsrGhost : SrWord
  dsx : Bool
  deriving DecidableEq, Repr

/-- The state machine with the registers it loads. -/
structure Fsm where
  state : FsmState
  exceptType : BitVec 4
  extendFlush : Bool
  saved : Saved

/-- The program counters of the stages, and what is known of their instructions. -/
structure PcPipe where
  idPc : U32
  idPcVal : Bool
  /-- `{sig_ibuserr, sig_itlbmiss, sig_immufault}` of the fetch. -/
  idExceptflags : BitVec 3
  exPc : U32
  exPcVal : Bool
  exExceptflags : BitVec 3
  exDslot : Bool
  delayed1ExDslot : Bool
  delayed2ExDslot : Bool
  wbPc : U32
  dlPc : U32

/-- The registers of the unit. -/
structure ExceptRegs where
  fsm : Fsm
  pipe : PcPipe
  delayedIee : BitVec 3
  delayedTee : BitVec 3

/-- The inputs of the unit. -/
structure ExceptIn where
  rst : Bool
  sigIbuserr : Bool
  sigDbuserr : Bool
  sigIllegal : Bool
  sigAlign : Bool
  sigRange : Bool
  sigDtlbmiss : Bool
  sigDmmufault : Bool
  sigInt : Bool
  sigSyscall : Bool
  sigTrap : Bool
  sigItlbmiss : Bool
  sigImmufault : Bool
  sigTick : Bool
  sigFp : Bool
  fpcsrFpee : Bool
  exBranchTaken : Bool
  exVoid : Bool
  genpcFreeze : Bool
  idFreeze : Bool
  exFreeze : Bool
  ifStall : Bool
  icpuAckI : Bool
  icpuErrI : Bool
  ifPc : U32
  lsuAddr : U32
  dsr : Dsr
  sr : SrWord
  srWe : Bool
  toSr : SrWord
  datain : U32
  pcWe : Bool
  epcrWe : Bool
  eearWe : Bool
  esrWe : Bool
  spEpcrGhostWe : Bool
  spEearGhostWe : Bool
  spEsrGhostWe : Bool

namespace ExceptRegs

/-- The registers in reset. -/
def reset : ExceptRegs :=
  { fsm :=
      { state := .idle
        exceptType := ExceptType.none
        extendFlush := false
        saved :=
          { epcr := 0
            eear := 0
            esr := 1#2 ++ 0#14 ++ 1#1
            spEpcrGhost := 0
            spEearGhost := 0
            spEsrGhost := 0
            dsx := false } }
    pipe :=
      { idPc := 0
        idPcVal := false
        idExceptflags := 0
        exPc := 0
        exPcVal := false
        exExceptflags := 0
        exDslot := false
        delayed1ExDslot := false
        delayed2ExDslot := false
        wbPc := 0
        dlPc := 0 }
    delayedIee := 0
    delayedTee := 0 }

/-! ### Triggers -/

/-- A place of `except_trig`, with what the machine loads when it is the first that is raised: the
type, the effective address if there is one, and the address to return to. -/
structure Trigger where
  raised : Bool
  exceptType : BitVec 4
  eear : Option U32
  epcr : U32
  deriving DecidableEq

section Signals

variable (s : ExceptRegs) (i : ExceptIn)

/-- A condition that only counts for an instruction that leaves the execute stage, outside delay
slots. -/
def clear : Bool :=
  !i.exFreeze && !i.exBranchTaken && !s.pipe.exDslot

/-- `int_pending` and `tick_pending`: the signal, its enable in the supervision register, and the
delayed copies of the enable. -/
def pending (sig : Bool) (bit : ℕ) (delayed : BitVec 3) : Bool :=
  sig && (i.sr.getLsbD bit || i.srWe && i.toSr.getLsbD bit) && s.pipe.idPcVal &&
    delayed.getLsbD 2 && s.clear i && !(i.srWe && !i.toSr.getLsbD bit)

/-- `int_pending`. -/
def intPending : Bool := s.pending i i.sigInt 2 s.delayedIee

/-- `tick_pending`. -/
def tickPending : Bool := s.pending i i.sigTick 1 s.delayedTee

/-- `fp_pending`. -/
def fpPending : Bool := i.sigFp && i.fpcsrFpee && s.clear i

/-- `range_pending`. -/
def rangePending : Bool := i.sigRange && i.sr.getLsbD 12 && s.clear i

/-- The address to return to: the branch of a delay slot, `after` in the instruction after a delay
slot, and `other` else. -/
def returnTo (after other : U32) : U32 :=
  if s.pipe.exDslot then s.pipe.wbPc else if s.pipe.delayed1ExDslot then after else other

/-- `except_trig`, from the highest priority on, with the branches of the machine. -/
def triggers : List Trigger :=
  let p := s.pipe
  let on (bit : ℕ) : Bool := !i.dsr.bits.getLsbD bit
  [⟨p.exExceptflags.getLsbD 1 && on 9, ExceptType.itlbmiss, some p.exPc, s.returnTo p.exPc p.exPc⟩,
   ⟨p.exExceptflags.getLsbD 0 && on 3, ExceptType.ipf, some (if p.exDslot then p.exPc else p.idPc),
     s.returnTo p.idPc p.idPc⟩,
   ⟨p.exExceptflags.getLsbD 2 && on 1, ExceptType.buserr,
     some (if p.exDslot then p.wbPc else p.exPc), s.returnTo p.exPc p.exPc⟩,
   ⟨i.sigIllegal && !i.exVoid && on 6, ExceptType.illegal, some p.exPc, s.returnTo p.dlPc p.exPc⟩,
   ⟨i.sigAlign && on 5, ExceptType.align, some i.lsuAddr, s.returnTo p.exPc p.exPc⟩,
   ⟨i.sigDtlbmiss && on 8, ExceptType.dtlbmiss, some i.lsuAddr, s.returnTo p.dlPc p.exPc⟩,
   ⟨i.sigTrap && on 13, ExceptType.trap, none, s.returnTo p.idPc p.exPc⟩,
   ⟨i.sigSyscall && on 11 && !i.exFreeze, ExceptType.syscall, none, s.returnTo p.idPc p.idPc⟩,
   ⟨i.sigDmmufault && on 2, ExceptType.dpf, some i.lsuAddr, s.returnTo p.dlPc p.exPc⟩,
   ⟨i.sigDbuserr && on 1, ExceptType.buserr, some i.lsuAddr, s.returnTo p.dlPc p.exPc⟩,
   ⟨s.rangePending i && on 10, ExceptType.range, none,
     s.returnTo p.dlPc (if p.delayed2ExDslot then p.idPc else p.exPc)⟩,
   ⟨s.fpPending i && on 12, ExceptType.float, none, p.idPc⟩,
   ⟨s.intPending i && on 7, ExceptType.int, none, p.idPc⟩,
   ⟨s.tickPending i && on 4, ExceptType.tick, none, p.idPc⟩]

/-- The trigger that is taken. -/
def taken : Option Trigger := (s.triggers i).find? (·.raised)

/-- `except_flushpipe`. -/
def exceptFlushpipe : Bool := (s.taken i).isSome && s.fsm.state == .idle

/-- `id_flushpipe` and `ex_flushpipe`. -/
def flushpipe : Bool := s.exceptFlushpipe i || i.pcWe || s.fsm.extendFlush

/-- `except_start`. -/
def exceptStart : Bool := s.fsm.exceptType != ExceptType.none && s.fsm.extendFlush

/-! ### Steps -/

/-- The registers an exception saves. -/
def enter (e : Trigger) : Saved :=
  let old := s.fsm.saved
  { epcr := e.epcr
    eear := e.eear.getD old.eear
    esr := nextEsr i.srWe i.toSr i.sr
    spEpcrGhost := old.epcr
    spEearGhost := old.eear
    spEsrGhost := old.esr
    dsx := s.pipe.exDslot }

/-- The registers written by `l.mtspr`. -/
def write : Saved :=
  let old := s.fsm.saved
  { epcr := if i.epcrWe then i.datain else old.epcr
    eear := if i.eearWe then i.datain else old.eear
    esr := if i.esrWe then SprFile.fixFo i.datain else old.esr
    spEpcrGhost := if i.spEpcrGhostWe then i.datain else old.spEpcrGhost
    spEearGhost := if i.spEearGhostWe then i.datain else old.spEearGhost
    spEsrGhost := if i.spEsrGhostWe then i.datain.setWidth 17 else old.spEsrGhost
    dsx := old.dsx }

/-- One step of the state machine, out of reset. -/
def nextFsm : Fsm :=
  match s.fsm.state with
  | .idle =>
    match s.taken i with
    | some e =>
      { state := .flu1, exceptType := e.exceptType, extendFlush := true, saved := s.enter i e }
    | none =>
      if i.pcWe then { s.fsm with state := .flu1, extendFlush := true }
      else { s.fsm with saved := s.write i }
  | .flu1 =>
    if i.icpuAckI || i.icpuErrI || i.genpcFreeze then { s.fsm with state := .flu2 } else s.fsm
  | .flu2 =>
    if s.fsm.exceptType = ExceptType.trap then
      { s.fsm with state := .idle, extendFlush := false, exceptType := ExceptType.none }
    else
      { s.fsm with state := .flu3 }
  | .flu3 => { s.fsm with state := .flu4 }
  | .flu4 => { s.fsm with state := .flu5, extendFlush := false }
  | .flu5 =>
    if !i.ifStall && !i.idFreeze && !i.exVoid then
      { s.fsm with state := .idle, exceptType := ExceptType.none }
    else
      s.fsm

/-- One step of the program counters, out of reset. -/
def nextPipe : PcPipe :=
  let p := s.pipe
  let p₁ : PcPipe :=
    if s.flushpipe i then { p with idPcVal := false, idExceptflags := 0 }
    else if !i.idFreeze then
      { p with
        idPc := i.ifPc
        idPcVal := true
        idExceptflags :=
          BitVec.ofBool i.sigIbuserr ++ BitVec.ofBool i.sigItlbmiss ++
            BitVec.ofBool i.sigImmufault }
    else p
  let p₂ : PcPipe :=
    if s.flushpipe i then
      { p₁ with
        exDslot := false
        exPcVal := false
        exExceptflags := 0
        delayed1ExDslot := false
        delayed2ExDslot := false }
    else if !i.exFreeze then
      { p₁ with
        exDslot := if i.idFreeze then false else i.exBranchTaken
        exPc := p.idPc
        exPcVal := p.idPcVal
        exExceptflags := if i.idFreeze then 0 else p.idExceptflags
        delayed1ExDslot := p.exDslot
        delayed2ExDslot := p.delayed1ExDslot }
    else p₁
  if !i.exFreeze then { p₂ with wbPc := p.exPc, dlPc := p.wbPc } else p₂

/-- `delayed_iee` and `delayed_tee`: the enables of the last three cycles. -/
def nextDelayed (bit : ℕ) (delayed : BitVec 3) : BitVec 3 :=
  if !i.sr.getLsbD bit then 0 else delayed.extractLsb' 0 2 ++ 1#1

/-- One step of the unit. -/
def step : ExceptRegs :=
  if i.rst then reset
  else
    { fsm := s.nextFsm i
      pipe := s.nextPipe i
      delayedIee := nextDelayed i 2 s.delayedIee
      delayedTee := nextDelayed i 1 s.delayedTee }

end Signals

/-- The registers in every cycle. -/
def run (x : ℕ → ExceptIn) : ℕ → ExceptRegs :=
  Clocked.run step reset x

/-- Signals with nothing to report: the pipeline moves on through an instruction at 0x2000. -/
def quiet : ExceptIn :=
  { rst := false
    sigIbuserr := false
    sigDbuserr := false
    sigIllegal := false
    sigAlign := false
    sigRange := false
    sigDtlbmiss := false
    sigDmmufault := false
    sigInt := false
    sigSyscall := false
    sigTrap := false
    sigItlbmiss := false
    sigImmufault := false
    sigTick := false
    sigFp := false
    fpcsrFpee := false
    exBranchTaken := false
    exVoid := false
    genpcFreeze := false
    idFreeze := false
    exFreeze := false
    ifStall := false
    icpuAckI := true
    icpuErrI := false
    ifPc := 0x2000
    lsuAddr := 0
    dsr := .write 0
    sr := 0x8001
    srWe := false
    toSr := 0
    datain := 0
    pcWe := false
    epcrWe := false
    eearWe := false
    esrWe := false
    spEpcrGhostWe := false
    spEearGhostWe := false
    spEsrGhostWe := false }

section Steps

variable {s : ExceptRegs} {i : ExceptIn}

theorem step_of_rst (h : i.rst = true) : s.step i = reset := if_pos h

theorem fsm_step (h : i.rst = false) : (s.step i).fsm = s.nextFsm i := by
  rw [step, h]
  rfl

/-- Without a flush and a freeze the decode stage takes the address of the fetch stage. -/
theorem idPc_step (hrst : i.rst = false) (hflush : s.flushpipe i = false)
    (hfreeze : i.idFreeze = false) :
    (s.step i).pipe.idPc = i.ifPc ∧ (s.step i).pipe.idPcVal = true := by
  have hpipe : (s.step i).pipe = s.nextPipe i := by
    rw [step, hrst]
    rfl
  rw [hpipe, nextPipe, hflush, hfreeze]
  cases i.exFreeze <;> exact ⟨rfl, rfl⟩

/-- The trigger that is taken starts its handler. -/
theorem nextFsm_of_taken {e : Trigger} (hidle : s.fsm.state = .idle) (he : s.taken i = some e) :
    s.nextFsm i =
      { state := .flu1
        exceptType := e.exceptType
        extendFlush := true
        saved := s.enter i e } := by
  rw [nextFsm, hidle, he]

theorem nextFsm_of_flu1 (h : s.fsm.state = .flu1) : s.nextFsm i =
    if i.icpuAckI || i.icpuErrI || i.genpcFreeze then { s.fsm with state := .flu2 } else s.fsm := by
  rw [nextFsm, h]

theorem nextFsm_of_flu2 (h : s.fsm.state = .flu2) (htrap : s.fsm.exceptType ≠ ExceptType.trap) :
    s.nextFsm i = { s.fsm with state := .flu3 } := by
  rw [nextFsm, h]
  exact if_neg htrap

theorem nextFsm_of_flu3 (h : s.fsm.state = .flu3) :
    s.nextFsm i = { s.fsm with state := .flu4 } := by
  rw [nextFsm, h]

theorem nextFsm_of_flu4 (h : s.fsm.state = .flu4) :
    s.nextFsm i = { s.fsm with state := .flu5, extendFlush := false } := by
  rw [nextFsm, h]

theorem nextFsm_of_flu5 (h : s.fsm.state = .flu5) : s.nextFsm i =
    if !i.ifStall && !i.idFreeze && !i.exVoid then
      { s.fsm with state := .idle, exceptType := ExceptType.none }
    else s.fsm := by
  rw [nextFsm, h]

/-- Outside the idle state, what an exception saved stays, and writes are lost. -/
theorem saved_nextFsm (h : s.fsm.state ≠ .idle) : (s.nextFsm i).saved = s.fsm.saved := by
  rw [nextFsm]
  cases hstate : s.fsm.state with
  | idle => exact absurd hstate h
  | flu1 | flu2 | flu5 =>
    dsimp only
    split_ifs <;> rfl
  | flu3 | flu4 => rfl

end Steps

/-! ### The state of the machine -/

/-- The flush signal and the type of the exception follow the state. -/
structure Wf (f : Fsm) : Prop where
  flush : f.extendFlush = true ↔ f.state ≠ .idle ∧ f.state ≠ .flu5
  idle : f.state = .idle → f.exceptType = ExceptType.none

section Runs

variable {s : ExceptRegs} {x : ℕ → ExceptIn} {t u : ℕ}

theorem wf_nextFsm (h : Wf s.fsm) (i : ExceptIn) : Wf (s.nextFsm i) := by
  have hflush := h.flush
  have hidle := h.idle
  rw [nextFsm]
  cases hstate : s.fsm.state with
  | idle =>
    rw [hstate] at hflush hidle
    cases s.taken i with
    | some e => exact ⟨by simp, by simp⟩
    | none =>
      dsimp only
      split_ifs
      · exact ⟨by simp, by simp⟩
      · exact ⟨by simpa [hstate] using hflush, fun _ => hidle rfl⟩
  | flu1 =>
    dsimp only
    split_ifs
    · exact ⟨by simpa [hstate] using hflush, by simp⟩
    · exact h
  | flu2 =>
    dsimp only
    split_ifs
    · exact ⟨by simp, by simp⟩
    · exact ⟨by simpa [hstate] using hflush, by simp⟩
  | flu3 => exact ⟨by simpa [hstate] using hflush, by simp⟩
  | flu4 => exact ⟨by simp, by simp⟩
  | flu5 =>
    dsimp only
    split_ifs
    · exact ⟨by simpa [hstate] using hflush, by simp⟩
    · exact h

theorem run_succ_of_not_rst (h : (x t).rst = false) :
    (run x (t + 1)).fsm = (run x t).nextFsm (x t) :=
  fsm_step h

theorem wf_run (x : ℕ → ExceptIn) (t : ℕ) : Wf (run x t).fsm := by
  have hreset : Wf reset.fsm := ⟨by simp [reset], fun _ => rfl⟩
  induction t with
  | zero => exact hreset
  | succ t ih =>
    cases hrst : (x t).rst with
    | true =>
      have hstep : run x (t + 1) = reset := step_of_rst hrst
      rw [hstep]
      exact hreset
    | false =>
      rw [run_succ_of_not_rst hrst]
      exact wf_nextFsm ih (x t)

/-- What an exception saved stays as long as its handler is started. -/
theorem saved_run (htu : t ≤ u)
    (h : ∀ r, t ≤ r → r < u → (x r).rst = false ∧ (run x r).fsm.state ≠ .idle) :
    (run x u).fsm.saved = (run x t).fsm.saved := by
  induction u, htu using Nat.le_induction with
  | base => rfl
  | succ u htu ih =>
    have hu := h u htu u.lt_succ_self
    rw [run_succ_of_not_rst hu.1, saved_nextFsm hu.2,
      ih fun r htr hru => h r htr (Nat.lt_succ_of_lt hru)]

/-! ### The return to the idle state -/

/-- The inputs let the machine go on: no reset, again and again an answer of the fetch unit or a
freeze of it, and again and again an instruction that leaves the decode stage. -/
structure Fair (x : ℕ → ExceptIn) : Prop where
  rst : ∀ t, (x t).rst = false
  fetch : ∀ t, ∃ u, t ≤ u ∧ ((x u).icpuAckI || (x u).icpuErrI || (x u).genpcFreeze) = true
  issue : ∀ t, ∃ u, t ≤ u ∧ (!(x u).ifStall && !(x u).idFreeze && !(x u).exVoid) = true

theorem exists_idle_of_flu5 (hfair : Fair x) (h : (run x t).fsm.state = .flu5) :
    ∃ u, t < u ∧ (run x u).fsm.state = .idle := by
  have hstep (r : ℕ) (hr : (run x r).fsm.state = .flu5) : (run x (r + 1)).fsm.state =
      if !(x r).ifStall && !(x r).idFreeze && !(x r).exVoid then .idle else .flu5 := by
    rw [run_succ_of_not_rst (hfair.rst r), nextFsm_of_flu5 hr]
    split_ifs
    · rfl
    · exact hr
  obtain ⟨u, htu, hu, -⟩ := Clocked.exists_of_stays hfair.issue
    (Q := fun r => (run x r).fsm.state = .flu5) (R := fun r => (run x r).fsm.state = .idle)
    (fun r hr hno => (hstep r hr).trans (if_neg hno))
    (fun r hr hyes => (hstep r hr).trans (if_pos hyes)) h
  exact ⟨u + 1, Nat.lt_succ_of_le htu, hu⟩

theorem exists_idle_of_flu4 (hfair : Fair x) (h : (run x t).fsm.state = .flu4) :
    ∃ u, t < u ∧ (run x u).fsm.state = .idle := by
  have hnext : (run x (t + 1)).fsm.state = .flu5 := by
    rw [run_succ_of_not_rst (hfair.rst t), nextFsm_of_flu4 h]
  obtain ⟨u, htu, hu⟩ := exists_idle_of_flu5 hfair hnext
  exact ⟨u, t.lt_succ_self.trans htu, hu⟩

theorem exists_idle_of_flu3 (hfair : Fair x) (h : (run x t).fsm.state = .flu3) :
    ∃ u, t < u ∧ (run x u).fsm.state = .idle := by
  have hnext : (run x (t + 1)).fsm.state = .flu4 := by
    rw [run_succ_of_not_rst (hfair.rst t), nextFsm_of_flu3 h]
  obtain ⟨u, htu, hu⟩ := exists_idle_of_flu4 hfair hnext
  exact ⟨u, t.lt_succ_self.trans htu, hu⟩

theorem exists_idle_of_flu2 (hfair : Fair x) (h : (run x t).fsm.state = .flu2) :
    ∃ u, t < u ∧ (run x u).fsm.state = .idle := by
  by_cases htrap : (run x t).fsm.exceptType = ExceptType.trap
  · refine ⟨t + 1, t.lt_succ_self, ?_⟩
    rw [run_succ_of_not_rst (hfair.rst t), nextFsm, h]
    dsimp only
    rw [if_pos htrap]
  · have hnext : (run x (t + 1)).fsm.state = .flu3 := by
      rw [run_succ_of_not_rst (hfair.rst t), nextFsm_of_flu2 h htrap]
    obtain ⟨u, htu, hu⟩ := exists_idle_of_flu3 hfair hnext
    exact ⟨u, t.lt_succ_self.trans htu, hu⟩

theorem exists_idle_of_flu1 (hfair : Fair x) (h : (run x t).fsm.state = .flu1) :
    ∃ u, t < u ∧ (run x u).fsm.state = .idle := by
  have hstep (r : ℕ) (hr : (run x r).fsm.state = .flu1) : (run x (r + 1)).fsm.state =
      if (x r).icpuAckI || (x r).icpuErrI || (x r).genpcFreeze then .flu2 else .flu1 := by
    rw [run_succ_of_not_rst (hfair.rst r), nextFsm_of_flu1 hr]
    split_ifs
    · rfl
    · exact hr
  obtain ⟨r, htr, hr, -⟩ := Clocked.exists_of_stays hfair.fetch
    (Q := fun r => (run x r).fsm.state = .flu1) (R := fun r => (run x r).fsm.state = .flu2)
    (fun r hr hno => (hstep r hr).trans (if_neg hno))
    (fun r hr hyes => (hstep r hr).trans (if_pos hyes)) h
  obtain ⟨u, hru, hu⟩ := exists_idle_of_flu2 hfair hr
  exact ⟨u, (Nat.lt_succ_of_le htr).trans hru, hu⟩

/-- From every cycle on the machine gets back to its idle state. -/
theorem exists_idle (hfair : Fair x) (t : ℕ) : ∃ u, t ≤ u ∧ (run x u).fsm.state = .idle := by
  have hle (h : ∃ u, t < u ∧ (run x u).fsm.state = .idle) :
      ∃ u, t ≤ u ∧ (run x u).fsm.state = .idle := h.imp fun _ hu => ⟨hu.1.le, hu.2⟩
  cases hstate : (run x t).fsm.state with
  | idle => exact ⟨t, le_rfl, hstate⟩
  | flu1 => exact hle (exists_idle_of_flu1 hfair hstate)
  | flu2 => exact hle (exists_idle_of_flu2 hfair hstate)
  | flu3 => exact hle (exists_idle_of_flu3 hfair hstate)
  | flu4 => exact hle (exists_idle_of_flu4 hfair hstate)
  | flu5 => exact hle (exists_idle_of_flu5 hfair hstate)

/-- An exception is followed to the end: the machine gets back to its idle state, and until then
the registers keep what the exception saved, whatever is written to them. -/
theorem exists_idle_of_taken (hfair : Fair x) {e : Trigger} (hidle : (run x t).fsm.state = .idle)
    (he : (run x t).taken (x t) = some e) :
    ∃ u, t + 1 < u ∧ (run x u).fsm.state = .idle ∧
      ∀ r, t < r → r ≤ u →
        (r < u → (run x r).fsm.state ≠ .idle) ∧
          (run x r).fsm.saved = (run x t).enter (x t) e := by
  have hfsm := run_succ_of_not_rst (hfair.rst t)
  rw [nextFsm_of_taken hidle he] at hfsm
  have hexists : ∃ u, t < u ∧ (run x u).fsm.state = .idle := by
    obtain ⟨u, htu, hu⟩ := exists_idle hfair (t + 1)
    exact ⟨u, htu, hu⟩
  classical
  -- the first idle cycle after the entry
  have hfirst := Nat.find_spec hexists
  have hbusy (r : ℕ) (htr : t < r) (hru : r < Nat.find hexists) :
      (run x r).fsm.state ≠ .idle := fun hr => Nat.find_min hexists hru ⟨htr, hr⟩
  refine ⟨Nat.find hexists, ?_, hfirst.2, fun r htr hru => ⟨fun hlt => hbusy r htr hlt, ?_⟩⟩
  · refine Nat.lt_of_le_of_ne hfirst.1 fun heq => ?_
    rw [← heq, hfsm] at hfirst
    cases hfirst.2
  · have hsaved : (run x r).fsm.saved = (run x (t + 1)).fsm.saved :=
      saved_run htr fun k hk hkr => ⟨hfair.rst k, hbusy k hk (hkr.trans_le hru)⟩
    rw [hsaved, hfsm]

/-- An interrupt comes in cycle 3, with interrupts enabled from the start. -/
def interrupting (t : ℕ) : ExceptIn :=
  { quiet with sr := 0x8005, sigInt := t = 3 }

theorem fair_interrupting : Fair interrupting where
  rst := fun _ => rfl
  fetch := fun t => ⟨t, le_rfl, rfl⟩
  issue := fun t => ⟨t, le_rfl, rfl⟩

theorem exists_idle_of_taken_interrupting : ∃ u, 3 + 1 < u ∧
    (run interrupting u).fsm.state = .idle ∧
    ∀ r, 3 < r → r ≤ u →
      (r < u → (run interrupting r).fsm.state ≠ .idle) ∧
        (run interrupting r).fsm.saved =
          (run interrupting 3).enter (interrupting 3) ⟨true, ExceptType.int, none, 0x2000⟩ :=
  exists_idle_of_taken fair_interrupting rfl (by decide)

/-- A new type is loaded by the trigger that is taken. -/
theorem taken_of_exceptType {i : ExceptIn} {τ : BitVec 4} (hτ : ExceptType.none ≠ τ)
    (htype : s.fsm.exceptType ≠ τ) (h : (s.nextFsm i).exceptType = τ) :
    s.fsm.state = .idle ∧ ∃ e, s.taken i = some e ∧ e.exceptType = τ := by
  rw [nextFsm] at h
  cases hstate : s.fsm.state with
  | idle =>
    rw [hstate] at h
    cases htaken : s.taken i with
    | some e =>
      rw [htaken] at h
      exact ⟨rfl, e, rfl, h⟩
    | none =>
      rw [htaken] at h
      dsimp only at h
      split_ifs at h <;> exact absurd h htype
  | flu1 | flu2 | flu5 =>
    rw [hstate] at h
    dsimp only at h
    split_ifs at h
    all_goals first | exact absurd h htype | exact absurd h hτ
  | flu3 | flu4 =>
    rw [hstate] at h
    exact absurd h htype

/-! ### Interrupts -/

/-- A delayed enable shows that the bit was set in the cycles before. -/
theorem getLsbD_delayed {bit : ℕ} {d : ℕ → BitVec 3} (h₀ : d 0 = 0)
    (hd : ∀ t, d (t + 1) = if (x t).rst then 0 else nextDelayed (x t) bit (d t)) {j : ℕ}
    (h : (d t).getLsbD j = true) :
    ∃ r, t = r + j + 1 ∧ ∀ k, r ≤ k → k < t → (x k).rst = false ∧ (x k).sr.getLsbD bit = true := by
  induction j generalizing t with
  | zero =>
    cases t with
    | zero => simp [h₀] at h
    | succ t =>
      rw [hd, nextDelayed] at h
      split_ifs at h with hrst hbit
      · simp at h
      · simp at h
      · refine ⟨t, rfl, fun k hk hkt => ?_⟩
        obtain rfl : k = t := by omega
        exact ⟨Bool.not_eq_true _ ▸ hrst, by simpa using hbit⟩
  | succ j ih =>
    cases t with
    | zero => simp [h₀] at h
    | succ t =>
      rw [hd, nextDelayed] at h
      split_ifs at h with hrst hbit
      · simp at h
      · simp at h
      · have hprev : (d t).getLsbD j = true := by
          rw [BitVec.getLsbD_append, BitVec.getLsbD_extractLsb'] at h
          simp at h
          exact h.2
        obtain ⟨r, hr, hall⟩ := ih hprev
        refine ⟨r, by omega, fun k hk hkt => ?_⟩
        rcases Nat.lt_succ_iff_lt_or_eq.mp hkt with hlt | rfl
        · exact hall k hk hlt
        · exact ⟨Bool.not_eq_true _ ▸ hrst, by simpa using hbit⟩

/-- An interrupt is pending only if it was enabled in the last three cycles, with no reset, and is
still enabled or being enabled. -/
theorem sr_of_intPending (h : (run x t).intPending (x t) = true) :
    (∃ r, t = r + 3 ∧ ∀ k, r ≤ k → k < t → (x k).rst = false ∧ (x k).sr.getLsbD 2 = true) ∧
      ((x t).srWe = true → (x t).toSr.getLsbD 2 = true) ∧ (run x t).pipe.exDslot = false := by
  have hd (r : ℕ) : (run x (r + 1)).delayedIee =
      if (x r).rst then 0 else nextDelayed (x r) 2 (run x r).delayedIee := by
    change (step _ _).delayedIee = _
    rw [step]
    split_ifs <;> rfl
  simp only [intPending, pending, clear, Bool.and_eq_true, Bool.not_eq_true'] at h
  obtain ⟨⟨⟨-, hdelayed⟩, ⟨-, hslot⟩⟩, hclears⟩ := h
  refine ⟨getLsbD_delayed (d := fun r => (run x r).delayedIee) rfl hd hdelayed, ?_, hslot⟩
  intro hwe
  simpa [hwe] using hclears

/-- The trigger that is taken is raised. -/
theorem raised_of_taken {i : ExceptIn} {e : Trigger} (h : s.taken i = some e) :
    e ∈ s.triggers i ∧ e.raised = true :=
  ⟨List.mem_of_find?_eq_some h, List.find?_some h⟩

/-- The codes of the triggers. -/
theorem exceptType_ne_none_of_taken {i : ExceptIn} {e : Trigger} (h : s.taken i = some e) :
    e.exceptType ≠ ExceptType.none := by
  have hcodes : (s.triggers i).map Trigger.exceptType =
      [ExceptType.itlbmiss, ExceptType.ipf, ExceptType.buserr, ExceptType.illegal, ExceptType.align,
        ExceptType.dtlbmiss, ExceptType.trap, ExceptType.syscall, ExceptType.dpf, ExceptType.buserr,
        ExceptType.range, ExceptType.float, ExceptType.int, ExceptType.tick] := rfl
  have hmem := List.mem_map_of_mem (f := Trigger.exceptType) (raised_of_taken h).1
  rw [hcodes] at hmem
  exact ne_of_mem_of_not_mem hmem (by decide)

/-- An interrupt is taken only when it is pending. -/
theorem intPending_of_taken {i : ExceptIn} {e : Trigger} (h : s.taken i = some e)
    (htype : e.exceptType = ExceptType.int) : s.intPending i = true ∧ e.epcr = s.pipe.idPc := by
  obtain ⟨hmem, hraised⟩ := raised_of_taken h
  have hfilter : (s.triggers i).filter (·.exceptType == ExceptType.int) =
      [⟨s.intPending i && !i.dsr.bits.getLsbD 7, ExceptType.int, none, s.pipe.idPc⟩] := rfl
  have hone : e ∈ (s.triggers i).filter (·.exceptType == ExceptType.int) :=
    List.mem_filter.mpr ⟨hmem, beq_iff_eq.mpr htype⟩
  rw [hfilter, List.mem_singleton] at hone
  rw [hone, Bool.and_eq_true] at hraised
  exact ⟨hraised.1, congrArg Trigger.epcr hone⟩

/-- An interrupt is taken outside delay slots, when its enable was set in the last three cycles and
is not being cleared. It returns to the instruction in the decode stage. -/
theorem interrupt_of_run (hrst : (x t).rst = false)
    (hprev : (run x t).fsm.exceptType ≠ ExceptType.int)
    (hnext : (run x (t + 1)).fsm.exceptType = ExceptType.int) :
    (∃ r, t = r + 3 ∧ ∀ k, r ≤ k → k < t → (x k).rst = false ∧ (x k).sr.getLsbD 2 = true) ∧
      ((x t).srWe = true → (x t).toSr.getLsbD 2 = true) ∧ (run x t).pipe.exDslot = false ∧
      (run x (t + 1)).fsm.saved.epcr = (run x t).pipe.idPc := by
  rw [run_succ_of_not_rst hrst] at hnext ⊢
  obtain ⟨hidle, e, he, htype⟩ := taken_of_exceptType (by decide) hprev hnext
  obtain ⟨hpending, hepcr⟩ := intPending_of_taken he htype
  obtain ⟨hbefore, hkept, hslot⟩ := sr_of_intPending hpending
  refine ⟨hbefore, hkept, hslot, ?_⟩
  rw [nextFsm_of_taken hidle he]
  exact hepcr

theorem interrupt_of_run_interrupting :
    (∃ r, 3 = r + 3 ∧ ∀ k, r ≤ k → k < 3 →
      (interrupting k).rst = false ∧ (interrupting k).sr.getLsbD 2 = true) ∧
      ((interrupting 3).srWe = true → (interrupting 3).toSr.getLsbD 2 = true) ∧
      (run interrupting 3).pipe.exDslot = false ∧
      (run interrupting (3 + 1)).fsm.saved.epcr = (run interrupting 3).pipe.idPc :=
  interrupt_of_run rfl (by decide) (by decide)

/-! ### Illegal instructions -/

/-- The trigger of an illegal instruction in the execute stage. -/
def illegalTrigger (s : ExceptRegs) (i : ExceptIn) : Trigger :=
  ⟨i.sigIllegal && !i.exVoid && !i.dsr.bits.getLsbD 6, ExceptType.illegal, some s.pipe.exPc,
    s.returnTo s.pipe.dlPc s.pipe.exPc⟩

theorem eq_illegalTrigger {i : ExceptIn} {e : Trigger} (h : s.taken i = some e)
    (htype : e.exceptType = ExceptType.illegal) : e = s.illegalTrigger i := by
  have hfilter : (s.triggers i).filter (·.exceptType == ExceptType.illegal) =
      [s.illegalTrigger i] := rfl
  have hone : e ∈ (s.triggers i).filter (·.exceptType == ExceptType.illegal) :=
    List.mem_filter.mpr ⟨(raised_of_taken h).1, beq_iff_eq.mpr htype⟩
  rwa [hfilter, List.mem_singleton] at hone

/-- DSR never masks an illegal instruction. -/
theorem getLsbD_dsr (d : Dsr) : d.bits.getLsbD 6 = false := by
  rw [← d.noIie, BitVec.getLsbD_and, show (0x3fbf : BitVec 14).getLsbD 6 = false from rfl,
    Bool.and_false]

/-- The unit takes an illegal instruction when one is signalled: it is idle, the instruction in the
execute stage is valid, and its fetch raised no exception that is taken first. -/
def Accepts (s : ExceptRegs) (i : ExceptIn) : Prop :=
  s.fsm.state = .idle ∧ i.exVoid = false ∧ ∀ e ∈ (s.triggers i).take 3, e.raised = false

instance (s : ExceptRegs) (i : ExceptIn) : Decidable (s.Accepts i) :=
  inferInstanceAs (Decidable (_ ∧ _ ∧ _))

variable {i : ExceptIn}

theorem taken_of_accepts (h : s.Accepts i) (hsig : i.sigIllegal = true) :
    s.taken i = some (s.illegalTrigger i) := by
  have hraised : (s.illegalTrigger i).raised = true := by
    rw [illegalTrigger, hsig, h.2.1, getLsbD_dsr]
    rfl
  have hfetch : ((s.triggers i).take 3).find? (·.raised) = none :=
    List.find?_eq_none.mpr fun e he => Bool.not_eq_true _ ▸ h.2.2 e he
  calc s.taken i = ((s.triggers i).take 3 ++ (s.triggers i).drop 3).find? (·.raised) := by
        rw [List.take_append_drop, taken]
    _ = ((s.triggers i).drop 3).find? (·.raised) := by
        rw [List.find?_append, hfetch, Option.none_or]
    _ = some (s.illegalTrigger i) := List.find?_cons_of_pos hraised

theorem accepts_of_taken {e : Trigger} (hidle : s.fsm.state = .idle) (h : s.taken i = some e)
    (htype : e.exceptType = ExceptType.illegal) : s.Accepts i := by
  have hraised : (s.illegalTrigger i).raised = true :=
    eq_illegalTrigger h htype ▸ (raised_of_taken h).2
  simp only [illegalTrigger, Bool.and_eq_true, Bool.not_eq_true'] at hraised
  refine ⟨hidle, hraised.1.2, fun e' he' => ?_⟩
  by_contra hon
  -- a trigger of the fetch would have been taken instead
  have hfetch : (((s.triggers i).take 3).find? (·.raised)).isSome = true :=
    List.find?_isSome.mpr ⟨e', he', Bool.not_eq_false _ ▸ hon⟩
  obtain ⟨e₁, he₁⟩ := Option.isSome_iff_exists.mp hfetch
  have htaken : s.taken i = some e₁ := by
    rw [taken, ← List.take_append_drop 3 (s.triggers i), List.find?_append, he₁, Option.some_or]
  obtain rfl : e₁ = e := Option.some.inj (htaken.symm.trans h)
  have hmem : e₁ ∈ ((s.triggers i).take 3).filter (·.exceptType == ExceptType.illegal) :=
    List.mem_filter.mpr ⟨List.mem_of_find?_eq_some he₁, beq_iff_eq.mpr htype⟩
  have hnone : ((s.triggers i).take 3).filter (·.exceptType == ExceptType.illegal) = [] := rfl
  rw [hnone] at hmem
  exact List.not_mem_nil hmem

/-- The type of an illegal instruction is loaded only when one is accepted. -/
theorem accepts_of_exceptType (htype : s.fsm.exceptType ≠ ExceptType.illegal)
    (h : (s.nextFsm i).exceptType = ExceptType.illegal) : s.Accepts i := by
  obtain ⟨hidle, e, he, hetype⟩ := taken_of_exceptType (by decide) htype h
  exact accepts_of_taken hidle he hetype

end Runs

end ExceptRegs

end WirePatch.Or1200
