import WirePatch.Foundations.PartialRun
import WirePatch.Simulator.Step

/-!
# The supervision register along a run

The supervision register has a bit that is fixed to one and bits that are not implemented.
`cpu_set_spr` enforces both when it writes the register (`cpu.c`, line 182), `cpu_reset` starts
with such a word (lines 54–82), and flag updates and exception entries keep it. `rfe` loads ESR as
it is (`simulator.c`, lines 2227–2236), and `cpu_set_spr` stores any word in ESR.

`cpu_reset` is compiled in the builds without `STANDALONE` only.

## Main definitions

* `cpuReset`.
* `SrWellFormed`: the fixed bit is set and no unimplemented bit is.
* `ReturnsWellFormed`, `StoresWellFormed`: what a step must not do with ESR.

## Main results

* `srWellFormed_of_run_iff`: the register is well formed along a run from reset exactly when every
  `l.rfe` of the run finds a well-formed ESR.
* `wellFormed_of_runs`: it is in every run that starts with a well-formed ESR and stores only such
  words in it.
-/

namespace WirePatch

/-- The loop of `cpu_reset` over the registers. -/
def clearGprs (cpu : CPU) : CPU :=
  (List.finRange 32).foldl (fun cpu idx => cpuSetGpr cpu idx 0) cpu

/-- `cpu_reset`. -/
def cpuReset (cpu : CPU) : CPU :=
  let cpu := { clearGprs cpu with sr := 0x00008001, maclo := 0, machi := 0, pc := 0x100 }
  { cpu with npc := cpu.pc + 4 }

/-- After a loop that clears the registers of a list, these are 0 and the others are kept. -/
theorem foldl_clear (regs : List Reg) (cpu : CPU) :
    regs.foldl (fun cpu idx => cpuSetGpr cpu idx 0) cpu =
      { cpu with gpr := fun r => if r ∈ regs then 0 else cpu.gpr r } := by
  induction regs generalizing cpu with
  | nil => rfl
  | cons reg regs ih =>
    rw [List.foldl_cons, ih]
    refine CPU.ext (funext fun r => ?_) rfl rfl rfl rfl rfl rfl rfl rfl rfl rfl
    change (if r ∈ regs then 0 else setReg cpu.gpr reg 0 r) =
      if r ∈ reg :: regs then 0 else cpu.gpr r
    by_cases hr : r = reg
    · subst hr
      rw [setReg_self, ite_self, ite_self, if_pos (List.mem_cons_self ..)]
    · rw [setReg_of_ne hr]
      simp [hr]

theorem clearGprs_eq (cpu : CPU) : clearGprs cpu = { cpu with gpr := fun _ => 0 } := by
  refine (foldl_clear _ cpu).trans ?_
  simp only [List.mem_finRange, if_true]

/-- What `cpu_reset` leaves; it does not touch the pending branch and the exception registers. -/
theorem cpuReset_eq (cpu : CPU) :
    cpuReset cpu =
      { cpu with
        gpr := fun _ => 0, sr := 0x00008001, maclo := 0, machi := 0, pc := 0x100, npc := 0x104 } := by
  rw [cpuReset, clearGprs_eq]
  rfl

/-- The fixed bit is set, and no bit that is not implemented. -/
def SrWellFormed (sr : U32) : Prop :=
  sr &&& sprSrFo ≠ 0 ∧ sr &&& ~~~0xf001ffff = 0

instance (sr : U32) : Decidable (SrWellFormed sr) :=
  inferInstanceAs (Decidable (_ ∧ _))

/-- The bits whose value is prescribed. -/
def srPrescribed : U32 := 0x0ffe8000

theorem srPrescribed_eq (sr : U32) :
    sr &&& srPrescribed = sr &&& sprSrFo ||| sr &&& ~~~0xf001ffff := by
  rw [← BitVec.and_or_distrib_left]
  rfl

theorem and_sprSrFo_eq (sr : U32) : sr &&& sprSrFo = if sr.getLsbD 15 then sprSrFo else 0 :=
  BitVec.and_twoPow sr 15

theorem srWellFormed_iff (sr : U32) : SrWellFormed sr ↔ sr &&& srPrescribed = sprSrFo := by
  constructor
  · rintro ⟨hset, hclear⟩
    rw [srPrescribed_eq, hclear]
    rw [and_sprSrFo_eq] at hset ⊢
    split_ifs at hset ⊢
    · exact BitVec.or_zero
    · exact absurd rfl hset
  · intro h
    have hfo : sr &&& sprSrFo = sprSrFo := BitMask.and_eq_and_of_subset
      (y := sprSrFo) (k := srPrescribed) h rfl
    have hout : sr &&& ~~~0xf001ffff = 0 := BitMask.and_eq_and_of_subset
      (y := sprSrFo) (k := srPrescribed) h rfl
    exact ⟨by rw [hfo]; decide, hout⟩

/-- Words that agree on the prescribed bits are well formed together. -/
theorem srWellFormed_congr {sr sr' : U32} (h : sr' &&& srPrescribed = sr &&& srPrescribed) :
    SrWellFormed sr' ↔ SrWellFormed sr := by
  rw [srWellFormed_iff, srWellFormed_iff, h]

/-! ### What writes the register -/

/-- `cpu_set_spr` stores a well-formed word. -/
theorem srWellFormed_masked (value : U32) :
    SrWellFormed (value &&& 0xf001ffff ||| 0x00008000) := by
  rw [srWellFormed_iff, BitVec.and_or_distrib_right, BitVec.and_assoc]
  change value &&& 0x8000 ||| 0x8000 = 0x8000
  refine BitVec.eq_of_getLsbD_eq fun i _ => ?_
  rw [BitVec.getLsbD_or, BitVec.getLsbD_and]
  cases value.getLsbD i <;> simp

theorem srWellFormed_cpuReset (cpu : CPU) : SrWellFormed (cpuReset cpu).sr := by
  rw [cpuReset_eq]
  exact (by decide : SrWellFormed 0x00008001)

theorem srWellFormed_cpuSetSpr {m : Machine} (h : SrWellFormed m.cpu.sr) (spr value : U32) :
    SrWellFormed (cpuSetSpr m spr value).cpu.sr := by
  have hmasked := srWellFormed_masked value
  unfold cpuSetSpr
  split
  · rename_i set hset
    refine Switch.forall_of_lookup (p := fun _ set => SrWellFormed (set m.cpu value).sr) ?_ hset
    simpa [cpuSetSprCases, h] using hmasked
  · exact h

theorem cpuSetSpr_esrBase (m : Machine) (value : U32) :
    cpuSetSpr m sprEsrBase value = m.setCpu { m.cpu with esr := value } := rfl

/-- A write to a special purpose register other than ESR leaves ESR alone. -/
theorem cpuSetSpr_esr {spr : U32} (hspr : spr ≠ sprEsrBase) (m : Machine) (value : U32) :
    (cpuSetSpr m spr value).cpu.esr = m.cpu.esr := by
  unfold cpuSetSpr
  split
  · rename_i set hset
    revert hspr
    refine Switch.forall_of_lookup
      (p := fun spr set => spr ≠ sprEsrBase → (set m.cpu value).esr = m.cpu.esr) ?_ hset
    simp [cpuSetSprCases]
  · rfl

/-- What an entry saves in ESR has the prescribed bits of the register. -/
theorem srPrescribed_entryEsr (e : Exc) (cpu : CPU) :
    e.entryEsr cpu &&& srPrescribed = cpu.sr &&& srPrescribed := by
  rw [Exc.entryEsr]
  split_ifs
  · rfl
  · exact BitMask.assign_and_of_disjoint (by decide) ..

theorem srPrescribed_of_quiet {m m' : Machine} (h : Quiet m m') :
    m'.cpu.sr &&& srPrescribed = m.cpu.sr &&& srPrescribed :=
  BitMask.and_eq_and_of_subset h.cpu.sr (by decide)

/-- An instruction that settles keeps the prescribed bits of the register. -/
theorem srPrescribed_of_settles {m m' : Machine} (h : Settles m m') :
    m'.cpu.sr &&& srPrescribed = m.cpu.sr &&& srPrescribed := by
  cases h with
  | quiet hq => exact srPrescribed_of_quiet hq
  | entry e hq =>
    rw [Machine.setCpu_cpu, Exc.enter_eq, entrySr_and (by decide) (by decide),
      srPrescribed_of_quiet hq]

/-- An instruction that settles keeps ESR, or saves the register in it. -/
theorem esr_of_settles {m m' : Machine} (h : Settles m m') :
    m'.cpu.esr = m.cpu.esr ∨ m'.cpu.esr &&& srPrescribed = m.cpu.sr &&& srPrescribed := by
  cases h with
  | quiet hq => exact .inl hq.cpu.esr
  | entry e hq =>
    rw [Machine.setCpu_cpu, Exc.enter_eq, srPrescribed_entryEsr, srPrescribed_of_quiet hq]
    exact .inr rfl

/-! ### One step -/

/-- An `l.rfe` that the next step executes finds a well-formed ESR. -/
def ReturnsWellFormed (m : Machine) : Prop :=
  ∀ inst, executedInst m = some inst → opcode inst = opRfe → SrWellFormed m.cpu.esr

/-- An `l.mtspr` to ESR that the next step executes stores a well-formed word. -/
def StoresWellFormed (m : Machine) : Prop :=
  ∀ inst, executedInst m = some inst → opcode inst = opMtspr →
    sprNumber m.cpu (decode inst) = sprEsrBase → SrWellFormed (m.cpu.gpr (decode inst).rB)

theorem advance_sr (m : Machine) : m.advance.cpu.sr = m.cpu.sr := by
  simp [Machine.advance]

theorem advance_esr (m : Machine) : m.advance.cpu.esr = m.cpu.esr := by
  simp [Machine.advance]

/-- A step that executes no `l.rfe` keeps the register well formed. -/
theorem srWellFormed_step {m m' : Machine} (hstep : cpuExecInst m = some m')
    (hrfe : ∀ inst, executedInst m = some inst → opcode inst ≠ opRfe)
    (h : SrWellFormed m.cpu.sr) : SrWellFormed m'.cpu.sr := by
  obtain ⟨m₁, rfl, heffect⟩ := cpuExecInst_cases hstep
  rw [advance_sr]
  rcases heffect with ⟨inst, hinst, he⟩ | ⟨-, hs⟩
  · cases he with
    | settles hs => exact (srWellFormed_congr (srPrescribed_of_settles hs)).mpr h
    | branch => exact h
    | rfe hop => exact absurd hop (hrfe inst hinst)
    | mtspr => exact srWellFormed_cpuSetSpr h ..
  · exact (srWellFormed_congr (srPrescribed_of_settles hs)).mpr h

/-- From a well-formed register a step leads to a well-formed one exactly when an `l.rfe` it
executes finds a well-formed ESR. -/
theorem srWellFormed_step_iff {m m' : Machine} (hstep : cpuExecInst m = some m')
    (h : SrWellFormed m.cpu.sr) : SrWellFormed m'.cpu.sr ↔ ReturnsWellFormed m := by
  by_cases hrfe : ∃ inst, executedInst m = some inst ∧ opcode inst = opRfe
  · obtain ⟨inst, hinst, hop⟩ := hrfe
    rw [step_rfe hinst hop] at hstep
    obtain rfl := Option.some.inj hstep
    rw [advance_sr]
    exact ⟨fun hesr _ _ _ => hesr, fun hok => hok inst hinst hop⟩
  · have hno (inst : U32) (hinst : executedInst m = some inst) : opcode inst ≠ opRfe :=
      fun hop => hrfe ⟨inst, hinst, hop⟩
    exact iff_of_true (srWellFormed_step hstep hno h)
      fun inst hinst hop => absurd hop (hno inst hinst)

/-- A step that stores only well-formed words in ESR keeps ESR well formed, if the register is. -/
theorem esrWellFormed_step {m m' : Machine} (hstep : cpuExecInst m = some m')
    (hstores : StoresWellFormed m) (hsr : SrWellFormed m.cpu.sr) (hesr : SrWellFormed m.cpu.esr) :
    SrWellFormed m'.cpu.esr := by
  obtain ⟨m₁, rfl, heffect⟩ := cpuExecInst_cases hstep
  rw [advance_esr]
  have hsettles (hs : Settles m m₁) : SrWellFormed m₁.cpu.esr := by
    rcases esr_of_settles hs with h | h
    · rwa [h]
    · exact (srWellFormed_congr h).mpr hsr
  rcases heffect with ⟨inst, hinst, he⟩ | ⟨-, hs⟩
  · cases he with
    | settles hs => exact hsettles hs
    | branch => exact hesr
    | rfe => exact hesr
    | mtspr hop =>
      rw [Insn.or32Mtspr]
      by_cases hspr : sprNumber m.cpu (decode inst) = sprEsrBase
      · rw [hspr, cpuSetSpr_esrBase]
        exact hstores inst hinst hop hspr
      · rwa [cpuSetSpr_esr hspr]
  · exact hsettles hs

/-! ### Runs -/

/-- Along a run from reset the register is well formed exactly when every `l.rfe` of the run finds
a well-formed ESR. -/
theorem srWellFormed_of_run_iff (run : ℕ → Machine) (n : ℕ)
    (hreset : ∃ cpu, (run 0).cpu = cpuReset cpu)
    (hstep : ∀ i < n, cpuExecInst (run i) = some (run (i + 1))) :
    (∀ i ≤ n, SrWellFormed (run i).cpu.sr) ↔ ∀ i < n, ReturnsWellFormed (run i) := by
  constructor
  · intro hwell i hi
    exact (srWellFormed_step_iff (hstep i hi) (hwell i hi.le)).mp (hwell (i + 1) hi)
  · intro hok i hi
    induction i with
    | zero =>
      obtain ⟨cpu, hcpu⟩ := hreset
      rw [hcpu]
      exact srWellFormed_cpuReset cpu
    | succ i ih =>
      exact (srWellFormed_step_iff (hstep i hi) (ih (Nat.le_of_succ_le hi))).mpr (hok i hi)

/-- The registers after a reset that found all of them 0 and no branch pending. -/
def afterReset : CPU :=
  { CPU.startAt 0x100 with sr := 0x00008001 }

theorem afterReset_eq : afterReset = cpuReset (.startAt 0) :=
  (cpuReset_eq _).symm

/-- `l.sys` at the reset vector, and `l.rfe` at the vector of the system call. -/
def callAndReturn : Machine :=
  { (default : Machine) with
    cpu := afterReset
    mem := fun a =>
      ByteMemory.byteOf 4 (if a &&& 0x800 = 0 then 0x20000000#32 else 0x24000000#32)
        (a &&& 3).toNat }

theorem srWellFormed_of_run_iff_callAndReturn :
    (∀ i ≤ 4, SrWellFormed (callAndReturn.after i).cpu.sr) ↔
      ∀ i < 4, ReturnsWellFormed (callAndReturn.after i) := by
  refine srWellFormed_of_run_iff callAndReturn.after 4 ⟨_, afterReset_eq⟩ fun i hi => ?_
  refine cpuExecInst_after ?_
  revert i
  decide +kernel

/-- `l.mtspr r0,r0,64` at every other address from 0x100 on, and `l.rfe` between. -/
def clearEsrAndReturn : Machine :=
  { (default : Machine) with
    cpu := afterReset
    mem := fun a =>
      ByteMemory.byteOf 4 (if a &&& 4 = 0 then 0xc0000040#32 else 0x24000000#32) (a &&& 3).toNat }

/-- Two instructions after a reset clear the register altogether. -/
theorem not_srWellFormed_clearEsrAndReturn :
    (∃ cpu, clearEsrAndReturn.cpu = cpuReset cpu) ∧
      ∃ m₁ m₂, cpuExecInst clearEsrAndReturn = some m₁ ∧ cpuExecInst m₁ = some m₂ ∧
        m₂.cpu.sr = 0 ∧ ¬ SrWellFormed m₂.cpu.sr :=
  ⟨⟨_, afterReset_eq⟩, _, _, rfl, rfl, by decide, by decide⟩

/-- A run that starts with both registers well formed, and whose every `l.mtspr` to ESR stores a
well-formed word, ends with both well formed. -/
theorem wellFormed_of_runs {m m' : Machine}
    (hrun : PartialRun.Runs cpuExecInst StoresWellFormed m m')
    (h : SrWellFormed m.cpu.sr ∧ SrWellFormed m.cpu.esr) :
    SrWellFormed m'.cpu.sr ∧ SrWellFormed m'.cpu.esr := by
  refine hrun.invariant (p := fun u => SrWellFormed u.cpu.sr ∧ SrWellFormed u.cpu.esr) h ?_
  rintro u v hstores hstep ⟨hsr, hesr⟩
  exact ⟨(srWellFormed_step_iff hstep hsr).mpr fun _ _ _ => hesr,
    esrWellFormed_step hstep hstores hsr hesr⟩

end WirePatch
