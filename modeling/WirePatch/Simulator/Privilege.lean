import WirePatch.Foundations.PartialRun
import WirePatch.Simulator.Step

/-!
# Privilege of simulated code

What a step that starts in user mode may do to the mode and to the special purpose registers. The
tests for supervisor mode in `cpu_set_spr` and `cpu_get_spr` are `assert`s, which the firmware
build removes, and `rfe` has none, so a run is safe as long as no user-mode step reaches one of
the three instructions with operands that the tests would have stopped.

## Main definitions

* `inSupervisorMode`, `EntersException`, `StepSafe`: the mode, and what a step must not do.
* `AllowedInUserMode`: the user-mode steps that no missing test concerns.

## Main results

* `stepSafe_of_allowed`: a step that meets the condition is safe.
* `privilege_of_run`: every step of a run that meets it is safe, and supervisor mode is reached
  through an exception only.
-/

namespace WirePatch

/-- `SR[SM]` is set. -/
def inSupervisorMode (m : Machine) : Prop :=
  cpuIsSetSrFlag m.cpu sprSrSm = true

instance (m : Machine) : Decidable (inSupervisorMode m) :=
  inferInstanceAs (Decidable (_ = _))

/-- The special purpose registers that user code may access: the accumulator. -/
def userSprs : List U32 := [sprMaclo, sprMachi]

/-- A step that enters an exception: the program counter is at a vector and ESR was written by the
entry routine. -/
def EntersException (m m' : Machine) : Prop :=
  isVector m'.cpu.pc ∧
    ∃ (e : Exc) (m₁ : Machine), Quiet m m₁ ∧ m'.cpu = cpuAdvancePc (e.enter m₁.cpu) ∧
      m'.cpu.esr = e.entryEsr m₁.cpu

/-- A step that proceeds to the next instruction and writes no register an `l.mtspr` of user code
must not write. -/
structure KeepsPrivilegedState (m m' : Machine) : Prop where
  pc : m'.cpu.pc = (cpuAdvancePc m.cpu).pc
  npc : m'.cpu.npc = (cpuAdvancePc m.cpu).npc
  branchPc : m'.cpu.branchPc = (cpuAdvancePc m.cpu).branchPc
  sr : m'.cpu.sr = m.cpu.sr
  esr : m'.cpu.esr = m.cpu.esr
  epcr : m'.cpu.epcr = m.cpu.epcr
  eear : m'.cpu.eear = m.cpu.eear
  dsr : m'.cpu.dsr = m.cpu.dsr
  spr : m'.spr = m.spr

/-- No general purpose register but register 0, which is constant, comes to hold the value of a
special purpose register that user code may not read. -/
def KeepsSprSecret (m m' : Machine) (spr : U32) : Prop :=
  spr ∉ userSprs → ∀ r : Reg, r ≠ 0 →
    m'.cpu.gpr r = cpuGetSpr m spr → m.cpu.gpr r = cpuGetSpr m spr

/-- What a step must satisfy for privilege safety. -/
structure StepSafe (m m' : Machine) : Prop where
  escalation : ¬ inSupervisorMode m → inSupervisorMode m' → EntersException m m'
  mtspr : ¬ inSupervisorMode m → ∀ inst, executedInst m = some inst →
    opcode inst = opMtspr → KeepsPrivilegedState m m'
  mfspr : ¬ inSupervisorMode m → ∀ inst, executedInst m = some inst →
    opcode inst = opMfspr → KeepsSprSecret m m' (sprNumber m.cpu (decode inst))

/-- A word that user code may execute: an `l.mtspr` of the accumulator, or of PPC, which the end of
the step overwrites; an `l.mfspr` of the accumulator, or into register 0; an `l.rfe` that returns
to user mode; any other instruction. -/
def allowedInUserMode (cpu : CPU) (inst : U32) : Prop :=
  (opcode inst = opMtspr →
      sprNumber cpu (decode inst) ∈ [sprMaclo, sprMachi, sprPpc]) ∧
    (opcode inst = opMfspr → sprNumber cpu (decode inst) ∈ userSprs ∨ (decode inst).rD = 0) ∧
    (opcode inst = opRfe → cpu.esr &&& sprSrSm = 0)

/-- The next step starts in supervisor mode or executes a word that user code may execute. -/
def AllowedStep (m : Machine) : Prop :=
  ¬ inSupervisorMode m → ∀ inst, executedInst m = some inst → allowedInUserMode m.cpu inst

/-! ### One step -/

theorem supervisorMode_of_quiet {m m' : Machine} (h : Quiet m m') :
    inSupervisorMode m' ↔ inSupervisorMode m := by
  rw [inSupervisorMode, inSupervisorMode, h.cpu.flag_eq rfl]

theorem supervisorMode_advance (m : Machine) : inSupervisorMode m.advance ↔ inSupervisorMode m := by
  simp [inSupervisorMode, Machine.advance, cpuIsSetSrFlag]

/-- A step that enters an exception leaves the vector in the program counter and what the entry
routine saved in ESR. -/
theorem entersException_of_entry {m m₁ : Machine} (e : Exc) (h : Quiet m m₁) :
    EntersException m (m₁.setCpu (e.enter m₁.cpu)).advance := by
  refine ⟨?_, e, m₁, h, rfl, ?_⟩
  · simpa [Machine.advance] using e.isVector_enter_npc m₁.cpu
  · simp [Machine.advance, Exc.enter_eq]

/-- An instruction that settles reaches supervisor mode through an exception only. -/
theorem entersException_of_settles {m m₁ : Machine} (hs : Settles m m₁)
    (hm : ¬ inSupervisorMode m) (hm' : inSupervisorMode m₁.advance) :
    EntersException m m₁.advance := by
  cases hs with
  | quiet hq =>
    rw [supervisorMode_advance, supervisorMode_of_quiet hq] at hm'
    exact absurd hm' hm
  | entry e hq => exact entersException_of_entry e hq

/-- The registers an `l.mtspr` of user code may write leave the privileged state alone. -/
theorem keepsPrivilegedState_cpuSetSpr (m : Machine) {spr : U32}
    (hspr : spr ∈ [sprMaclo, sprMachi, sprPpc]) (value : U32) :
    KeepsPrivilegedState m (cpuSetSpr m spr value).advance := by
  simp only [List.mem_cons, List.not_mem_nil, or_false] at hspr
  rcases hspr with rfl | rfl | rfl
  · rw [cpuSetSpr_maclo]
    constructor <;> simp [Machine.advance]
  · rw [cpuSetSpr_machi]
    constructor <;> simp [Machine.advance]
  · rw [cpuSetSpr_ppc]
    constructor <;> simp [Machine.advance]

/-- The machine after an `l.mtspr` is executed. -/
theorem step_mtspr {m m' : Machine} {inst : U32} (hinst : executedInst m = some inst)
    (hop : opcode inst = opMtspr) (hstep : cpuExecInst m = some m') :
    m' = (Insn.or32Mtspr m (decode inst)).advance := by
  rw [cpuExecInst_of_executed hinst, hop] at hstep
  exact (Option.some.inj hstep).symm

/-- The machine after an `l.mfspr` is executed. -/
theorem step_mfspr {m m' : Machine} {inst : U32} (hinst : executedInst m = some inst)
    (hop : opcode inst = opMfspr) (hstep : cpuExecInst m = some m') :
    m' = (Insn.or32Mfspr m (decode inst)).advance := by
  rw [cpuExecInst_of_executed hinst, hop] at hstep
  exact (Option.some.inj hstep).symm

/-- An `l.mfspr` writes its destination register only. -/
theorem gpr_of_mfspr (m : Machine) (cont : Control) {r : Reg} (hr : r ≠ cont.rD) :
    (Insn.or32Mfspr m cont).advance.cpu.gpr r = m.cpu.gpr r := by
  simpa [Insn.or32Mfspr, Machine.advance, cpuSetGpr] using setReg_of_ne hr _

/-- A step that executes an allowed word, or none, is safe. -/
theorem stepSafe_of_allowed {m m' : Machine} (hok : AllowedStep m)
    (hstep : cpuExecInst m = some m') : StepSafe m m' where
  escalation hm hm' := by
    obtain ⟨m₁, rfl, heffect⟩ := cpuExecInst_cases hstep
    rcases heffect with ⟨inst, hinst, he⟩ | ⟨-, hs⟩
    · obtain ⟨hmtspr, -, hrfe⟩ := hok hm inst hinst
      cases he with
      | settles hs => exact entersException_of_settles hs hm hm'
      | branch =>
        rw [supervisorMode_advance] at hm'
        exact absurd hm' hm
      | rfe hop =>
        -- the mode returned to is the one in ESR
        rw [supervisorMode_advance] at hm'
        exact absurd (hrfe hop) (cpuIsSetSrFlag_eq_true.mp hm')
      | mtspr hop =>
        have hkeep := keepsPrivilegedState_cpuSetSpr m (hmtspr hop)
          (m.cpu.gpr (decode inst).rB)
        rw [inSupervisorMode, Insn.or32Mtspr, cpuIsSetSrFlag, hkeep.sr] at hm'
        exact absurd hm' hm
    · exact entersException_of_settles hs hm hm'
  mtspr hm inst hinst hop := by
    rw [step_mtspr hinst hop hstep]
    exact keepsPrivilegedState_cpuSetSpr m ((hok hm inst hinst).1 hop) _
  mfspr hm inst hinst hop hspr r hr hvalue := by
    rw [step_mfspr hinst hop hstep] at hvalue
    rcases (hok hm inst hinst).2.1 hop with hn | hrD
    · exact absurd hn hspr
    · rwa [gpr_of_mfspr m _ (hrD.symm ▸ hr)] at hvalue

/-! ### Runs -/

/-- Every step of a run of allowed steps is safe, and a run from user to supervisor mode enters an
exception on the way. -/
theorem privilege_of_run (run : ℕ → Machine) (n : ℕ)
    (hstep : ∀ i < n, cpuExecInst (run i) = some (run (i + 1)))
    (hok : ∀ i < n, AllowedStep (run i)) :
    (∀ i < n, StepSafe (run i) (run (i + 1))) ∧
      (¬ inSupervisorMode (run 0) → inSupervisorMode (run n) →
        ∃ i < n, EntersException (run i) (run (i + 1))) := by
  have hsafe (i : ℕ) (hi : i < n) : StepSafe (run i) (run (i + 1)) :=
    stepSafe_of_allowed (hok i hi) (hstep i hi)
  refine ⟨hsafe, fun h0 hn => ?_⟩
  obtain ⟨i, hi, hbefore, hafter⟩ := PartialRun.exists_step_of_change run h0 hn
  exact ⟨i, hi, (hsafe i hi).escalation hbefore hafter⟩

/-- A machine in user mode that finds `l.mtspr r0,r3,MACLO`, `l.rfe` and `l.sys` at the addresses
from 0x2000 on, and saved the address of the last. -/
def callingMachine : Machine :=
  { (default : Machine) with
    cpu := { CPU.startAt 0x2000 with
      gpr := fun r => if r = 3 then 7 else 0
      sr := 0x8000
      esr := 0x8000
      epcr := 0x2008 }
    mem := fun a => ByteMemory.byteOf 4
      (if a &&& 12 = 0 then 0xc0a01801#32 else if a &&& 12 = 4 then 0x24000000#32
        else 0x20000000#32)
      (a &&& 3).toNat }

/-- The system call enters supervisor mode. -/
theorem privilege_of_run_calling :
    (∀ i < 3, StepSafe (callingMachine.after i) (callingMachine.after (i + 1))) ∧
      (¬ inSupervisorMode (callingMachine.after 0) → inSupervisorMode (callingMachine.after 3) →
        ∃ i < 3, EntersException (callingMachine.after i) (callingMachine.after (i + 1))) := by
  refine privilege_of_run callingMachine.after 3 ?_ ?_
  · intro i hi
    refine cpuExecInst_after ?_
    revert i
    decide +kernel
  · intro i hi _ inst hinst
    have hwords : executedInst (callingMachine.after 0) = some 0xc0a01801 ∧
        executedInst (callingMachine.after 1) = some 0x24000000 ∧
        executedInst (callingMachine.after 2) = some 0x20000000 := by
      decide +kernel
    rcases (by omega : i = 0 ∨ i = 1 ∨ i = 2) with rfl | rfl | rfl
    · obtain rfl := Option.some.inj (hwords.1.symm.trans hinst)
      exact ⟨fun _ => by decide, fun h => absurd h (by decide), fun h => absurd h (by decide)⟩
    · obtain rfl := Option.some.inj (hwords.2.1.symm.trans hinst)
      exact ⟨fun h => absurd h (by decide), fun h => absurd h (by decide), fun _ => by decide⟩
    · obtain rfl := Option.some.inj (hwords.2.2.symm.trans hinst)
      exact ⟨fun h => absurd h (by decide), fun h => absurd h (by decide),
        fun h => absurd h (by decide)⟩

/-- `l.mtspr r0, r3, 17` in user mode, with 1 in register 3. -/
def escalating : Machine :=
  .filled 0xc0001811 { CPU.startAt 0x100 with gpr := fun r => if r = 3 then 1 else 0 }

/-- User code sets SR[SM] with one `l.mtspr` to SR, and enters no exception. -/
theorem not_stepSafe_escalating :
    ∃ m', cpuExecInst escalating = some m' ∧ ¬ inSupervisorMode escalating ∧
      inSupervisorMode m' ∧ ¬ StepSafe escalating m' := by
  refine ⟨_, rfl, by decide, by decide, fun hsafe => ?_⟩
  obtain ⟨⟨e, hpc⟩, -⟩ := hsafe.escalation (by decide) (by decide)
  have hpc : (0x104 : U32) = e.vector ∨ (0x104 : U32) = 0xF0000000 ||| e.vector := hpc
  cases e <;> rw [Exc.vector] at hpc <;> exact absurd hpc (by decide)

end WirePatch
