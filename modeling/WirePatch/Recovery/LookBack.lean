import WirePatch.Recovery.RunSim
import WirePatch.Simulator.Sequence

/-!
# The look-back helpers

`recalc_ea` and `calc_jump_target`, `runSim.c`, lines 64–124. Both put the program counter on an
address, fetch and decode the word there and put the program counter back. The fetch is that of
the simulator: for an address that is not mapped it enters an exception, which nothing undoes. The
second helper resolves control transfers by itself, and yields 0 for all other instructions.

## Main definitions

* `IsQuery`: a helper leaves the registers and memory alone.
* `Reaches`: where executing a control transfer leads.
* `Resolvable`: the control transfers that `calc_jump_target` knows.

## Main results

* `isQuery_iff`: the addresses for which the helpers are queries.
* `resolved_iff`: the control transfers whose target `calc_jump_target` finds.
-/

namespace WirePatch

/-! ### What the helpers change -/

/-- The registers and memory are those of another machine. -/
def IsQuery (m m' : Machine) : Prop :=
  m'.cpu = m.cpu ∧ m'.mem = m.mem

/-- The fetch at an address enters an exception. -/
def FetchFaults (m : Machine) (address : U32) : Prop :=
  virtualToPhysicalI m address = 1 ∨ virtualToPhysicalI m address = 2

/-- The registers already are what an exception of the fetch at an address leaves: it was the last
one entered. -/
def AlreadyFaulted (cpu : CPU) (address : U32) : Prop :=
  cpu.epcr = address ∧ cpu.eear = address ∧ cpu.esr = BitMask.assign cpu.sr sprSrDsx false ∧
    cpu.sr = entrySr cpu.sr false

section Query

variable {m : Machine} {address : U32}

/-- The entry of an exception that names the address, out of a delay slot. -/
theorem enter_goto {e : Exc} (he : e ≠ .sys) (hea : e.ea = some address) :
    e.enter (m.goto address).cpu =
      { m.cpu with
        pc := address
        npc := e.handler m.cpu
        epcr := address
        eear := address
        esr := BitMask.assign m.cpu.sr sprSrDsx false
        sr := entrySr m.cpu.sr false } := by
  have hslot : isInDelaySlot (m.goto address).cpu = false := isInDelaySlot_eq_false.mpr rfl
  rw [Exc.enter_eq, Exc.entryEpcr, Exc.entryEsr, hslot, if_neg he, if_neg he, hea]
  rfl

/-- A fetch that enters an exception does so outside of every delay slot. -/
theorem fetchAt_of_faults (h : FetchFaults m address) : ∃ npc, (fetchAt m address).1.cpu =
    { m.cpu with
      pc := address
      npc := npc
      epcr := address
      eear := address
      esr := BitMask.assign m.cpu.sr sprSrDsx false
      sr := entrySr m.cpu.sr false } ∧ (fetchAt m address).1.mem = m.mem := by
  rcases h with h | h
  · have hfetch : (fetchAt m address).1 = (m.goto address).setCpu
        ((Exc.instructionTLBMiss address).enter (m.goto address).cpu) :=
      congrArg Prod.fst (fetch_of_eq_one (m := m.goto address) h)
    rw [hfetch, enter_goto (by simp) rfl]
    exact ⟨_, rfl, rfl⟩
  · have hfetch : (fetchAt m address).1 = (m.goto address).setCpu
        ((Exc.instructionPageFault address).enter (m.goto address).cpu) :=
      congrArg Prod.fst (fetch_of_eq_two (m := m.goto address) h)
    rw [hfetch, enter_goto (by simp) rfl]
    exact ⟨_, rfl, rfl⟩

/-- A fetch that enters no exception moves the program counter only. -/
theorem fetchAt_of_not_faults (h : ¬ FetchFaults m address) :
    (fetchAt m address).1 = m.goto address := by
  change (fetch (m.goto address)).1 = _
  rcases status_cases (virtualToPhysicalI m address) with hp | hp | hp | hp
  · rw [fetch_of_two_lt (m := m.goto address) hp]
  · rw [fetch_of_eq_zero (m := m.goto address) hp]
  · exact absurd (.inl hp) h
  · exact absurd (.inr hp) h

/-- The state both helpers leave is that of before, unless the fetch enters an exception that has
not just been entered. -/
theorem isQuery_restorePc (hnpc : m.cpu.npc = m.cpu.pc + 4) :
    IsQuery m (restorePc (fetchAt m address).1 m.cpu.pc) ↔
      (FetchFaults m address → AlreadyFaulted m.cpu address) := by
  by_cases h : FetchFaults m address
  · obtain ⟨npc, hcpu, hmem⟩ := fetchAt_of_faults h
    rw [IsQuery, restorePc, Machine.setCpu_cpu, Machine.setCpu_mem, hcpu, hmem, ← hnpc,
      and_iff_left rfl, imp_iff_right h, CPU.ext_iff, AlreadyFaulted]
    simp only [true_and, and_true]
    constructor
    · rintro ⟨hsr, hesr, hepcr, heear⟩
      exact ⟨hepcr.symm, heear.symm, hesr.symm, hsr.symm⟩
    · rintro ⟨hepcr, heear, hesr, hsr⟩
      exact ⟨hsr.symm, hesr.symm, hepcr.symm, heear.symm⟩
  · rw [fetchAt_of_not_faults h]
    refine iff_of_true ⟨?_, rfl⟩ (fun h' => absurd h' h)
    rw [restorePc, ← hnpc]
    rfl

end Query

/-- The helpers are queries for the addresses whose fetch enters no exception; for any other one,
only when its exception is the one the registers already show. -/
theorem isQuery_iff (m : Machine) (address : U32) (hnpc : m.cpu.npc = m.cpu.pc + 4) :
    (IsQuery m (recalcEa m address).1 ∧ IsQuery m (calcJumpTarget m address).1) ↔
      (FetchFaults m address → AlreadyFaulted m.cpu address) := by
  have h : IsQuery m (restorePc (fetchAt m address).1 m.cpu.pc) ↔
      (FetchFaults m address → AlreadyFaulted m.cpu address) := isQuery_restorePc hnpc
  exact ⟨fun hq => h.mp hq.1, fun hf => ⟨h.mpr hf, h.mpr hf⟩⟩

theorem isQuery_iff_nop :
    (IsQuery (nopMachine 0x100) (recalcEa (nopMachine 0x100) 0x200).1 ∧
        IsQuery (nopMachine 0x100) (calcJumpTarget (nopMachine 0x100) 0x200).1) ↔
      (FetchFaults (nopMachine 0x100) 0x200 → AlreadyFaulted (nopMachine 0x100).cpu 0x200) :=
  isQuery_iff (nopMachine 0x100) 0x200 rfl

/-- A machine whose instruction memory management unit is enabled, with no translation. -/
def unmapped : Machine :=
  .filled 0x15000000 { CPU.startAt 0x100 with sr := sprSrIme }

/-- A look at an address that is not mapped leaves it in EPCR. -/
theorem not_isQuery_unmapped : unmapped.cpu.npc = unmapped.cpu.pc + 4 ∧
    (calcJumpTarget unmapped 0x2000).1.cpu.epcr = 0x2000 ∧ unmapped.cpu.epcr = 0 ∧
    ¬ (IsQuery unmapped (recalcEa unmapped 0x2000).1 ∧
      IsQuery unmapped (calcJumpTarget unmapped 0x2000).1) := by
  have hbefore : unmapped.cpu.epcr = 0 := rfl
  have hafter : (calcJumpTarget unmapped 0x2000).1.cpu.epcr = 0x2000 := rfl
  refine ⟨rfl, hafter, hbefore, fun h => ?_⟩
  rw [h.2.1, hbefore] at hafter
  cases hafter

/-! ### The target of a control transfer -/

/-- The instruction about to be executed leaves the next address and the pending branch alone. -/
def Harmless (m : Machine) : Prop :=
  ∃ m₁, acted m = some m₁ ∧ m₁.cpu.npc = m.cpu.npc ∧ m₁.cpu.branchPc = m.cpu.branchPc

/-- Executing a control transfer, and a harmless delay slot when it has one, leads to an address. -/
inductive Reaches (m : Machine) (inst : U32) : U32 → Prop
  | direct {m' : Machine} : opcode inst ∉ delayedOps → cpuExecInst m = some m' →
      Reaches m inst m'.cpu.pc
  | delayed {m' m'' : Machine} : opcode inst ∈ delayedOps → cpuExecInst m = some m' →
      Harmless m' → cpuExecInst m' = some m'' → Reaches m inst m''.cpu.pc

/-- A branch or jump whose condition holds and whose target is aligned, or a control transfer of
another kind. -/
def IsTakenTransfer (cpu : CPU) (inst : U32) : Prop :=
  opcode inst ∈ delayedOps → isTaken (opcode inst) cpu (decode inst) = true

/-- `calc_jump_target` agrees with the execution of the control transfer at an address, and is not
0. -/
def Resolved (m : Machine) (address inst : U32) : Prop :=
  (IsTakenTransfer (m.goto address).cpu inst →
      ∀ p, Reaches (m.goto address) inst p → (calcJumpTarget m address).2 = p) ∧
    (calcJumpTarget m address).2 ≠ 0

/-- A branch or jump to neither 0 nor the sentinel, an `l.rfe` to an address other than 0, or an
`l.sys` under the low exception prefix. -/
def Resolvable (cpu : CPU) (inst : U32) : Prop :=
  if opcode inst ∈ delayedOps then
    branchOrJumpTarget cpu inst ≠ 0 ∧
      (isTaken (opcode inst) cpu (decode inst) = true →
        branchOrJumpTarget cpu inst = noBranch → cpu.pc + 8 = noBranch)
  else if opcode inst = opRfe then cpu.epcr ≠ 0
  else inst &&& 0xffff0000 = 0x20000000 ∧ cpuIsSetSrFlag cpu sprSrEph = false

section Resolve

variable {m : Machine} {address inst : U32}

theorem jumpTarget_of_delayed {cpu : CPU} (h : opcode inst ∈ delayedOps) :
    jumpTarget cpu (decode inst) = branchOrJumpTarget cpu inst := by
  have hop : (decode inst).opcode = opcode inst := rfl
  rw [jumpTarget, branchOrJumpTarget, hop]
  simp only [delayedOps, List.mem_cons, List.not_mem_nil, or_false] at h
  rcases h with h | h | h | h | h | h <;> rw [h] <;> rfl

/-- The fetch of the helper at a mapped address. -/
theorem fetch_goto (hmapped : 2 < virtualToPhysicalI m address)
    (hinst : m.word (virtualToPhysicalI m address) = inst) :
    fetch (m.goto address) = (m.goto address, inst) :=
  (fetch_of_two_lt (m := m.goto address) hmapped).trans (congrArg (Prod.mk _) hinst)

theorem calcJumpTarget_snd (hfetch : fetch (m.goto address) = (m.goto address, inst)) :
    (calcJumpTarget m address).2 = jumpTarget (m.goto address).cpu (decode inst) := by
  change jumpTarget (fetch (m.goto address)).1.cpu (decode (fetch (m.goto address)).2) = _
  rw [hfetch]

/-- The marker of a failed fetch is no control transfer. -/
theorem executedInst_of_transfer (hfetch : fetch (m.goto address) = (m.goto address, inst))
    (htransfer : isControlTransfer inst = true) : executedInst (m.goto address) = some inst := by
  have hne : inst ≠ fetchMarker := by
    rintro rfl
    exact absurd htransfer (by decide)
  rw [executedInst, hfetch, if_neg hne]

theorem reaches_direct_iff {m' : Machine} (hop : opcode inst ∉ delayedOps)
    (hstep : cpuExecInst m = some m') (p : U32) : Reaches m inst p ↔ m'.cpu.pc = p := by
  constructor
  · intro h
    cases h with
    | direct _ hstep' =>
      rw [hstep] at hstep'
      rw [Option.some.inj hstep']
    | delayed hop' => exact absurd hop' hop
  · rintro rfl
    exact .direct hop hstep

/-- A branch that is taken leaves its target behind its delay slot, unless it is the sentinel. -/
theorem step_of_taken {target : U32} (htaken : takenTarget m = some target)
    (hnpc : m.cpu.npc = m.cpu.pc + 4) : ∃ m', cpuExecInst m = some m' ∧
      m'.cpu.npc = if target = noBranch then m.cpu.pc + 8 else target := by
  obtain ⟨gpr, hgpr⟩ := acted_of_taken htaken
  refine ⟨_, by rw [cpuExecInst_eq_acted, hgpr, Option.map_some], ?_⟩
  have hbehind : m.cpu.pc + 4 + 4 = m.cpu.pc + 8 := BitVec.add_assoc ..
  simp only [Machine.advance, cpuAdvancePc_eq, Machine.setCpu_cpu, hnpc, hbehind]

/-- A harmless instruction is followed by the next one. -/
theorem step_of_harmless (h : Harmless m) :
    ∃ m', cpuExecInst m = some m' ∧ m'.cpu.pc = m.cpu.npc := by
  obtain ⟨m₁, hacted, hnpc, -⟩ := h
  refine ⟨m₁.advance, by rw [cpuExecInst_eq_acted, hacted, Option.map_some], ?_⟩
  simp [Machine.advance, hnpc]

/-- A branch that is taken leads to its target, and to the address behind its delay slot when the
target is the sentinel. -/
theorem reaches_delayed_iff {target : U32} (hop : opcode inst ∈ delayedOps)
    (htaken : takenTarget m = some target) (hnpc : m.cpu.npc = m.cpu.pc + 4)
    (hslot : ∀ m', cpuExecInst m = some m' → Harmless m') (p : U32) :
    Reaches m inst p ↔ (if target = noBranch then m.cpu.pc + 8 else target) = p := by
  obtain ⟨m', hfirst, hnext⟩ := step_of_taken htaken hnpc
  obtain ⟨m'', hsecond, hpc⟩ := step_of_harmless (hslot m' hfirst)
  rw [← hnext, ← hpc]
  constructor
  · intro h
    cases h with
    | direct hop' => exact absurd hop hop'
    | delayed _ hfirst' _ hsecond' =>
      obtain rfl := Option.some.inj (hfirst.symm.trans hfirst')
      obtain rfl := Option.some.inj (hsecond.symm.trans hsecond')
      rfl
  · rintro rfl
    exact .delayed hop hfirst (hslot m' hfirst) hsecond

/-- The switch of `calc_jump_target` outside of the branches and jumps. -/
theorem jumpTarget_of_rfe {cpu : CPU} (h : opcode inst = opRfe) :
    jumpTarget cpu (decode inst) = cpu.epcr :=
  if_pos h

theorem jumpTarget_of_sysTrapSync {cpu : CPU} (h : opcode inst = opSysTrapSync) :
    jumpTarget cpu (decode inst) = 0xC00 := by
  have hop : (decode inst).opcode = opcode inst := rfl
  rw [jumpTarget, hop, h]
  rfl

theorem pc_of_rfe (cont : Control) :
    (m.setCpu (Insn.rfe m.cpu cont)).advance.cpu.pc = m.cpu.epcr := by
  simp [Machine.advance, Insn.rfe]

/-- A system call or a trap leads to its handler. -/
theorem step_sysTrapSync (hinst : executedInst m = some inst) (h : opcode inst = opSysTrapSync)
    {e : Exc} (he : Insn.sysTrapSync m.cpu (decode inst) = some (e.enter m.cpu)) :
    cpuExecInst m = some (m.setCpu (e.enter m.cpu)).advance := by
  have hdispatch : dispatch (opcode inst) m (decode inst) =
      (Insn.sysTrapSync m.cpu (decode inst)).map m.setCpu := by
    rw [h]
    rfl
  rw [cpuExecInst_of_executed hinst, execute, hdispatch, he]
  rfl

theorem pc_of_enter (e : Exc) : (m.setCpu (e.enter m.cpu)).advance.cpu.pc = e.handler m.cpu := by
  simp [Machine.advance, Exc.enter_eq, Exc.handler]

theorem handler_sys_iff (cpu : CPU) :
    0xC00 = Exc.handler .sys cpu ↔ cpuIsSetSrFlag cpu sprSrEph = false := by
  rw [Exc.handler]
  cases cpuIsSetSrFlag cpu sprSrEph <;> decide

theorem handler_trap_ne (cpu : CPU) : 0xC00 ≠ Exc.handler .trap cpu := by
  rw [Exc.handler]
  cases cpuIsSetSrFlag cpu sprSrEph <;> decide

/-- A branch or jump is resolved when it is to neither 0 nor the sentinel. -/
theorem resolved_iff_of_delayed (hexec : executedInst (m.goto address) = some inst)
    (hvalue : (calcJumpTarget m address).2 = jumpTarget (m.goto address).cpu (decode inst))
    (hop : opcode inst ∈ delayedOps)
    (hslot : takesBranch (m.goto address) → ∀ m', cpuExecInst (m.goto address) = some m' →
      Harmless m') : Resolved m address inst ↔ Resolvable (m.goto address).cpu inst := by
  rw [Resolved, Resolvable, hvalue, if_pos hop, jumpTarget_of_delayed hop, and_comm,
    IsTakenTransfer, imp_iff_right hop]
  refine and_congr_right fun _ => imp_congr_right fun ht => ?_
  have htaken : takenTarget (m.goto address) =
      some (branchOrJumpTarget (m.goto address).cpu inst) := by
    rw [takenTarget, hexec]
    exact if_pos ht
  have hreach := reaches_delayed_iff (m := m.goto address) hop htaken rfl
    (hslot (takesBranch_iff.mpr ⟨_, htaken⟩))
  simp only [hreach, forall_eq']
  split_ifs with hsentinel
  · rw [imp_iff_right hsentinel, hsentinel, eq_comm]
  · exact iff_of_true rfl fun h => absurd h hsentinel

/-- A control transfer of another kind is resolved when the helper yields the address it leads to,
and that is not 0. -/
theorem resolved_iff_of_direct {m' : Machine} (hop : opcode inst ∉ delayedOps)
    (hstep : cpuExecInst (m.goto address) = some m') : Resolved m address inst ↔
      (calcJumpTarget m address).2 = m'.cpu.pc ∧ (calcJumpTarget m address).2 ≠ 0 := by
  have hall : IsTakenTransfer (m.goto address).cpu inst := fun h => absurd h hop
  rw [Resolved, imp_iff_right hall]
  simp only [reaches_direct_iff hop hstep, forall_eq']

end Resolve

/-- `calc_jump_target` resolves a mapped control transfer exactly when it is a branch or jump to
neither 0 nor the sentinel, an `l.rfe` to an address other than 0, or an `l.sys` under the low
exception prefix. -/
theorem resolved_iff (m : Machine) (address inst : U32)
    (hmapped : 2 < virtualToPhysicalI m address)
    (hinst : m.word (virtualToPhysicalI m address) = inst)
    (htransfer : isControlTransfer inst = true)
    (hslot : takesBranch (m.goto address) → ∀ m', cpuExecInst (m.goto address) = some m' →
      Harmless m') : Resolved m address inst ↔ Resolvable (m.goto address).cpu inst := by
  have hfetch := fetch_goto hmapped hinst
  have hexec := executedInst_of_transfer hfetch htransfer
  have hvalue := calcJumpTarget_snd hfetch
  by_cases hop : opcode inst ∈ delayedOps
  · exact resolved_iff_of_delayed hexec hvalue hop hslot
  · simp only [isControlTransfer, List.contains_iff_mem, hop, false_or, Bool.or_eq_true,
      Bool.and_eq_true, beq_iff_eq] at htransfer
    rw [Resolvable, if_neg hop]
    rcases htransfer with hrfe | ⟨hsys, hword⟩
    · rw [resolved_iff_of_direct hop (step_rfe hexec hrfe), hvalue, jumpTarget_of_rfe hrfe,
        pc_of_rfe, if_pos hrfe, and_iff_right rfl]
    · have hnot : opcode inst ≠ opRfe := by
        rw [hsys]
        decide
      rw [if_neg hnot]
      rcases hword with hword | hword
      · have he : Insn.sysTrapSync (m.goto address).cpu (decode inst) =
            some (Exc.enter .sys (m.goto address).cpu) := if_pos hword
        rw [resolved_iff_of_direct hop (step_sysTrapSync hexec hsys he), hvalue,
          jumpTarget_of_sysTrapSync hsys, pc_of_enter, handler_sys_iff, and_iff_right hword]
        exact and_iff_left (by decide)
      · have hne : inst &&& 0xffff0000 ≠ 0x20000000 := by
          rw [hword]
          decide
        have he : Insn.sysTrapSync (m.goto address).cpu (decode inst) =
            some (Exc.enter .trap (m.goto address).cpu) := (if_neg hne).trans (if_pos hword)
        rw [resolved_iff_of_direct hop (step_sysTrapSync hexec hsys he), hvalue,
          jumpTarget_of_sysTrapSync hsys, pc_of_enter]
        exact iff_of_false (fun h => handler_trap_ne _ h.1) fun h => hne h.1

theorem resolved_iff_jumping : Resolved (jumping 0) 0x100 0x00000004 ↔
    Resolvable ((jumping 0).goto 0x100).cpu 0x00000004 := by
  refine resolved_iff (jumping 0) 0x100 0x00000004 (by decide) rfl rfl fun _ m' hstep => ?_
  obtain rfl : jumping 1 = m' := Option.some.inj hstep
  exact ⟨_, rfl, rfl, rfl⟩

/-- `l.trap` everywhere. -/
def trapping : Machine :=
  .filled 0x21000000 (.startAt 0x100)

/-- A trap goes to 0xE00, and is resolved to the vector of a system call. -/
theorem not_resolved_trapping : trapping.cpu.npc = trapping.cpu.pc + 4 ∧
    IsTakenTransfer (trapping.goto 0x100).cpu 0x21000000 ∧
    Reaches (trapping.goto 0x100) 0x21000000 0xE00 ∧ (calcJumpTarget trapping 0x100).2 = 0xC00 ∧
    ¬ Resolved trapping 0x100 0x21000000 := by
  have htaken : IsTakenTransfer (trapping.goto 0x100).cpu 0x21000000 :=
    fun h => absurd h (by decide)
  have hstep : cpuExecInst (trapping.goto 0x100) =
      some ((trapping.goto 0x100).setCpu (trap (trapping.goto 0x100).cpu)).advance := rfl
  have hreach : Reaches (trapping.goto 0x100) 0x21000000 0xE00 :=
    (reaches_direct_iff (by decide) hstep _).mpr rfl
  have hvalue : (calcJumpTarget trapping 0x100).2 = 0xC00 := rfl
  refine ⟨rfl, htaken, hreach, hvalue, fun h => ?_⟩
  have heq := hvalue.symm.trans (h.1 htaken 0xE00 hreach)
  exact absurd heq (by decide)

end WirePatch
