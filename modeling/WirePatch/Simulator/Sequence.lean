import WirePatch.Foundations.Clocked
import WirePatch.Simulator.Step

/-!
# The order of execution

A branch or jump that is taken is followed by the instruction behind it, its delay slot, and then
by its target. An exception is followed by its vector, a return from one by EPCR, and any other
instruction by the next one. The simulator keeps this order in three registers: `branch_pc` holds
the target while the branch is executed, `npc` while its delay slot is. The delay slot is not
recorded; it is recognised by an `npc` that is not the next address.

## Main definitions

* `Sequencer`, `Flow`: the order an OR1K processor executes instructions in.
* `flow`: what the next step does to the order.
* `Follows`: the registers of the simulator agree with the sequencer.

## Main results

* `pcs_of_run`: the simulator executes the instructions of a run in the order of the processor.
* `slotDetected_iff`: the branches whose delay slot is recognised.
-/

namespace WirePatch

/-! ### The sequencer of the processor -/

/-- What an instruction does to the order of execution. -/
inductive Flow
  | next
  | taken (target : U32)
  | enter (pc : U32)
  deriving DecidableEq, Repr

/-- The address to execute, and the target of the branch before it if it is a delay slot. -/
structure Sequencer where
  pc : U32
  target : Option U32
  deriving DecidableEq, Repr

/-- The delay slot of a branch is executed before its target; nothing is executed before a vector
or an address that is returned to. -/
def Sequencer.step (s : Sequencer) : Flow → Sequencer
  | .next => ⟨s.target.getD (s.pc + 4), none⟩
  | .taken target => ⟨s.pc + 4, some target⟩
  | .enter pc => ⟨pc, none⟩

/-! ### What a step does to the order -/

/-- The target of a branch or jump: a register, or an address relative to its own. -/
def branchOrJumpTarget (cpu : CPU) (inst : U32) : U32 :=
  if opcode inst = opJalr ∨ opcode inst = opJr then cpu.gpr (decode inst).rB
  else branchTarget cpu (decode inst)

/-- The target of the branch or jump that the next step takes, if it takes one. -/
def takenTarget (m : Machine) : Option U32 :=
  (executedInst m).bind fun inst =>
    if isTaken (opcode inst) m.cpu (decode inst) then some (branchOrJumpTarget m.cpu inst) else none

/-- The next step executes `l.rfe`. -/
def executesRfe (m : Machine) : Prop :=
  ∃ inst, executedInst m = some inst ∧ opcode inst = opRfe

/-- The machine before the program counter advances at the end of the next step. -/
def acted (m : Machine) : Option Machine :=
  match executedInst m with
  | some inst => dispatch (opcode inst) m (decode inst)
  | none => some (fetch m).1

/-- The next step computes and then runs the entry routine of an exception. -/
def Raises (m : Machine) (e : Exc) : Prop :=
  ∃ m₁, Quiet m m₁ ∧ acted m = some (m₁.setCpu (e.enter m₁.cpu))

/-- The address of the handler of an exception. -/
def Exc.handler (e : Exc) (cpu : CPU) : U32 :=
  if cpuIsSetSrFlag cpu sprSrEph then 0xF0000000 ||| e.vector else e.vector

open Classical in
/-- What the next step does to the order of execution. -/
noncomputable def flow (m : Machine) : Flow :=
  match takenTarget m with
  | some target => .taken target
  | none =>
    if executesRfe m then .enter m.cpu.epcr
    else if h : ∃ e, Raises m e then .enter (h.choose.handler m.cpu)
    else .next

section Step

variable {m m' m₁ : Machine} {target : U32}

theorem takesBranch_iff : takesBranch m ↔ ∃ target, takenTarget m = some target := by
  simp only [takesBranch, takenTarget, Option.bind_eq_some_iff]
  constructor
  · rintro ⟨inst, hinst, htaken⟩
    exact ⟨_, inst, hinst, if_pos htaken⟩
  · rintro ⟨target, inst, hinst, htarget⟩
    refine ⟨inst, hinst, ?_⟩
    by_contra htaken
    rw [if_neg htaken] at htarget
    cases htarget

theorem acted_of_executed {inst : U32} (h : executedInst m = some inst) :
    acted m = dispatch (opcode inst) m (decode inst) := by
  delta acted
  rw [h]

theorem acted_of_not_executed (h : executedInst m = none) : acted m = some (fetch m).1 := by
  delta acted
  rw [h]

theorem cpuExecInst_eq_acted (m : Machine) : cpuExecInst m = (acted m).map Machine.advance := by
  rw [cpuExecInst_eq]
  cases hinst : executedInst m with
  | some inst =>
    rw [acted_of_executed hinst]
    rfl
  | none =>
    rw [acted_of_not_executed hinst]
    rfl

theorem acted_of_taken (h : takenTarget m = some target) :
    ∃ gpr, acted m = some (m.setCpu { m.cpu with gpr := gpr, branchPc := target }) := by
  obtain ⟨inst, hinst, htarget⟩ := Option.bind_eq_some_iff.mp h
  by_cases htaken : isTaken (opcode inst) m.cpu (decode inst) = true
  · rw [if_pos htaken] at htarget
    refine ⟨linkedGpr (opcode inst) m.cpu, ?_⟩
    rw [acted_of_executed hinst, ← Option.some.inj htarget]
    exact dispatch_of_isTaken htaken
  · rw [if_neg htaken] at htarget
    cases htarget

/-- What a step that takes no branch and executes no `l.rfe` may do. -/
theorem acted_cases (h : acted m = some m₁) (htaken : takenTarget m = none)
    (hrfe : ¬ executesRfe m) : (∃ e, Raises m e) ∨ Quiet m m₁ ∨
      ∃ inst, executedInst m = some inst ∧ opcode inst = opMtspr ∧
        m₁ = Insn.or32Mtspr m (decode inst) := by
  have hsettles (hs : Settles m m₁) : (∃ e, Raises m e) ∨ Quiet m m₁ := by
    cases hs with
    | quiet hq => exact .inr hq
    | entry e hq => exact .inl ⟨e, _, hq, h⟩
  cases hinst : executedInst m with
  | none =>
    rw [acted_of_not_executed hinst] at h
    obtain rfl := Option.some.inj h
    exact (hsettles (settles_fetch m)).imp_right .inl
  | some inst =>
    have hdispatch := h
    rw [acted_of_executed hinst] at hdispatch
    cases effect_of_dispatch hdispatch with
    | settles hs => exact (hsettles hs).imp_right .inl
    | branch _ _ ht =>
      obtain ⟨target, htarget⟩ := takesBranch_iff.mp ⟨inst, hinst, ht⟩
      rw [htaken] at htarget
      cases htarget
    | rfe hop => exact absurd ⟨inst, hinst, hop⟩ hrfe
    | mtspr hop => exact .inr (.inr ⟨inst, rfl, hop, rfl⟩)

/-- The entry routine leaves the address of the handler in `npc`. -/
theorem npc_of_raises {e : Exc} (hraises : Raises m e) (h : acted m = some m₁) :
    m₁.cpu.npc = e.handler m.cpu ∧ m₁.cpu.branchPc = m.cpu.branchPc := by
  obtain ⟨m₂, hq, hacted⟩ := hraises
  obtain rfl := Option.some.inj (hacted.symm.trans h)
  rw [Machine.setCpu_cpu, Exc.enter_eq]
  exact ⟨by rw [Exc.handler, hq.cpu.flag_eq rfl], hq.cpu.branchPc⟩

/-! ### What each step does to the order -/

theorem flow_of_taken (h : takenTarget m = some target) : flow m = .taken target := by
  delta flow
  rw [h]

theorem flow_of_rfe (htaken : takenTarget m = none) (h : executesRfe m) :
    flow m = .enter m.cpu.epcr := by
  delta flow
  rw [htaken]
  exact if_pos h

theorem flow_of_raises (htaken : takenTarget m = none) (hrfe : ¬ executesRfe m)
    (h : ∃ e, Raises m e) : ∃ e, Raises m e ∧ flow m = .enter (e.handler m.cpu) := by
  refine ⟨h.choose, h.choose_spec, ?_⟩
  delta flow
  rw [htaken]
  exact (if_neg hrfe).trans (dif_pos h)

theorem flow_of_next (htaken : takenTarget m = none) (hrfe : ¬ executesRfe m)
    (h : ¬ ∃ e, Raises m e) : flow m = .next := by
  delta flow
  rw [htaken]
  exact (if_neg hrfe).trans (dif_neg h)

theorem takesBranch_of_flow (h : flow m = .taken target) : takesBranch m := by
  refine takesBranch_iff.mpr ⟨target, ?_⟩
  cases htaken : takenTarget m with
  | some target' =>
    rw [flow_of_taken htaken] at h
    rw [Flow.taken.inj h]
  | none =>
    by_cases hrfe : executesRfe m
    · rw [flow_of_rfe htaken hrfe] at h
      cases h
    · by_cases hraises : ∃ e, Raises m e
      · obtain ⟨e, -, he⟩ := flow_of_raises htaken hrfe hraises
        rw [he] at h
        cases h
      · rw [flow_of_next htaken hrfe hraises] at h
        cases h

end Step

/-! ### Aligned addresses -/

/-- The address of an instruction. -/
def IsAligned (pc : U32) : Prop := pc.toNat % 4 = 0

instance isAlignedDecidable (pc : U32) : Decidable (IsAligned pc) :=
  inferInstanceAs (Decidable (_ = _))

theorem IsAligned.add {a b : U32} (ha : IsAligned a) (hb : IsAligned b) : IsAligned (a + b) := by
  simp only [IsAligned, BitVec.toNat_add] at *
  omega

theorem IsAligned.next {pc : U32} (h : IsAligned pc) : IsAligned (pc + 4) :=
  h.add rfl

theorem isAligned_iff {pc : U32} : IsAligned pc ↔ pc &&& 0x3 = 0 :=
  (BitMask.low_eq_zero_iff 2 rfl).symm

/-- The sentinel is no address of an instruction. -/
theorem IsAligned.ne_noBranch {pc : U32} (h : IsAligned pc) : pc ≠ noBranch := by
  rintro rfl
  exact absurd h (by decide)

theorem isAligned_displacement (N : U32) : IsAligned (signExtend (N <<< 2) 27) := by
  have hlow : (N <<< 2) &&& 0x3 = 0 := by
    refine (BitMask.low_eq_zero_iff 2 rfl).mpr ?_
    rw [BitVec.toNat_shiftLeft, Nat.shiftLeft_eq]
    omega
  rw [isAligned_iff, signExtend]
  split_ifs
  · rw [BitVec.and_or_distrib_right, hlow]
    rfl
  · exact hlow

theorem Exc.isAligned_handler (e : Exc) (cpu : CPU) : IsAligned (e.handler cpu) := by
  have halign : IsAligned (0xF0000000 ||| e.vector) ∧ IsAligned e.vector := by
    cases e <;> rw [vector] <;> decide
  rw [Exc.handler]
  split_ifs
  · exact halign.1
  · exact halign.2

theorem isAligned_takenTarget {m : Machine} {target : U32} (hpc : IsAligned m.cpu.pc)
    (h : takenTarget m = some target) : IsAligned target := by
  obtain ⟨inst, -, htarget⟩ := Option.bind_eq_some_iff.mp h
  by_cases htaken : isTaken (opcode inst) m.cpu (decode inst) = true
  · rw [if_pos htaken] at htarget
    obtain rfl := Option.some.inj htarget
    rw [branchOrJumpTarget]
    split_ifs with hreg
    · rw [isTaken, if_neg (by rcases hreg with h | h <;> rw [h] <;> decide),
        if_neg (by rcases hreg with h | h <;> rw [h] <;> decide), if_pos hreg] at htaken
      exact isAligned_iff.mpr (eq_of_beq htaken)
    · exact hpc.add (isAligned_displacement _)
  · rw [if_neg htaken] at htarget
    cases htarget

/-! ### The registers follow the sequencer -/

/-- The simulator is about to execute the instruction the sequencer is at: `npc` is the target
behind a delay slot and the next address otherwise, and no branch is pending. -/
structure Follows (s : Sequencer) (m : Machine) : Prop where
  pc : m.cpu.pc = s.pc
  npc : m.cpu.npc = s.target.getD (s.pc + 4)
  branchPc : m.cpu.branchPc = noBranch
  isAligned_pc : IsAligned m.cpu.pc
  isAligned_npc : IsAligned m.cpu.npc

/-- The next step writes NPC with an `l.mtspr`. -/
def writesNpc (m : Machine) : Prop :=
  ∃ inst, executedInst m = some inst ∧ opcode inst = opMtspr ∧
    sprNumber m.cpu (decode inst) = sprNpc

namespace Follows

variable {s : Sequencer} {m m' m₁ : Machine}

/-- A step that leaves the next address in `npc` and no branch pending proceeds to it. -/
theorem of_enter {pc : U32} (hnpc : m₁.cpu.npc = pc) (hb : m₁.cpu.branchPc = noBranch)
    (halign : IsAligned pc) : Follows ⟨pc, none⟩ m₁.advance where
  pc := by simp [Machine.advance, hnpc]
  npc := by simp [Machine.advance, hnpc, hb]
  branchPc := by simp [Machine.advance]
  isAligned_pc := by simpa [Machine.advance, hnpc] using halign
  isAligned_npc := by simpa [Machine.advance, hnpc, hb] using halign.next

/-- A taken branch leaves the address of its delay slot and its target. -/
theorem of_taken {gpr : Reg → U32} {target : U32} (hnpc : m.cpu.npc = s.pc + 4)
    (hpc : IsAligned s.pc) (htarget : IsAligned target) :
    Follows ⟨s.pc + 4, some target⟩
      (m.setCpu { m.cpu with gpr := gpr, branchPc := target }).advance where
  pc := by simp [Machine.advance, hnpc]
  npc := by simp [Machine.advance, htarget.ne_noBranch]
  branchPc := by simp [Machine.advance]
  isAligned_pc := by simpa [Machine.advance, hnpc] using hpc.next
  isAligned_npc := by simpa [Machine.advance, htarget.ne_noBranch] using htarget

/-- One step of the simulator is one step of the sequencer. -/
theorem step (h : Follows s m) (hstep : cpuExecInst m = some m')
    (hslot : takesBranch m → s.target = none) (hspr : ¬ writesNpc m)
    (hepcr : IsAligned m.cpu.epcr) : Follows (s.step (flow m)) m' := by
  rw [cpuExecInst_eq_acted] at hstep
  obtain ⟨m₁, hacted, rfl⟩ := Option.map_eq_some_iff.mp hstep
  cases htaken : takenTarget m with
  | some target =>
    obtain ⟨gpr, hgpr⟩ := acted_of_taken htaken
    obtain rfl := Option.some.inj (hgpr.symm.trans hacted)
    have hnpc : m.cpu.npc = s.pc + 4 := by
      rw [h.npc, hslot (takesBranch_iff.mpr ⟨target, htaken⟩), Option.getD_none]
    rw [flow_of_taken htaken]
    exact of_taken hnpc (h.pc ▸ h.isAligned_pc) (isAligned_takenTarget h.isAligned_pc htaken)
  | none =>
    by_cases hrfe : executesRfe m
    · obtain ⟨inst, hinst, hop⟩ := hrfe
      have hacted' : acted m = some (m.setCpu (Insn.rfe m.cpu (decode inst))) := by
        rw [acted_of_executed hinst, hop]
        rfl
      obtain rfl := Option.some.inj (hacted'.symm.trans hacted)
      rw [flow_of_rfe htaken ⟨inst, hinst, hop⟩]
      exact of_enter rfl h.branchPc hepcr
    · by_cases hraises : ∃ e, Raises m e
      · obtain ⟨e, he, hflow⟩ := flow_of_raises htaken hrfe hraises
        obtain ⟨hnpc, hb⟩ := npc_of_raises he hacted
        rw [hflow]
        exact of_enter hnpc (hb.trans h.branchPc) (e.isAligned_handler _)
      · -- neither a computation nor an `l.mtspr` changes the next address
        have hkeep : m₁.cpu.npc = m.cpu.npc ∧ m₁.cpu.branchPc = m.cpu.branchPc := by
          rcases acted_cases hacted htaken hrfe with h' | hq | ⟨inst, hinst, hop, rfl⟩
          · exact absurd h' hraises
          · exact ⟨hq.cpu.npc, hq.cpu.branchPc⟩
          · exact ⟨cpuSetSpr_npc (fun hn => hspr ⟨inst, hinst, hop, hn⟩) .., cpuSetSpr_branchPc ..⟩
        rw [flow_of_next htaken hrfe hraises]
        exact of_enter (hkeep.1.trans h.npc) (hkeep.2.trans h.branchPc) (h.npc ▸ h.isAligned_npc)

end Follows

/-! ### Runs -/

/-- The addresses an OR1K processor executes, from the instruction a run starts at on. -/
noncomputable def sequence (run : ℕ → Machine) : ℕ → Sequencer :=
  Clocked.run Sequencer.step ⟨(run 0).cpu.pc, none⟩ fun i => flow (run i)

section Run

variable {run : ℕ → Machine}

/-- A delay slot comes right after the branch or jump. -/
theorem takesBranch_of_target {i : ℕ} (h : (sequence run (i + 1)).target ≠ none) :
    takesBranch (run i) := by
  rw [sequence, Clocked.run_succ] at h
  cases hflow : flow (run i) with
  | taken target => exact takesBranch_of_flow hflow
  | next => rw [hflow] at h; exact absurd rfl h
  | enter pc => rw [hflow] at h; exact absurd rfl h

theorem follows_of_run (run : ℕ → Machine) (n : ℕ) (halign : IsAligned (run 0).cpu.pc)
    (hnpc : (run 0).cpu.npc = (run 0).cpu.pc + 4) (hbranch : (run 0).cpu.branchPc = noBranch)
    (hstep : ∀ i < n, cpuExecInst (run i) = some (run (i + 1)))
    (hslot : ∀ i, i + 1 < n → takesBranch (run i) → ¬ executesTransfer (run (i + 1)))
    (hspr : ∀ i < n, ¬ writesNpc (run i)) (hepcr : ∀ i < n, IsAligned (run i).cpu.epcr) :
    ∀ i ≤ n, Follows (sequence run i) (run i) := by
  intro i
  induction i with
  | zero => exact fun _ => ⟨rfl, hnpc, hbranch, halign, hnpc ▸ halign.next⟩
  | succ i ih =>
    intro hi
    rw [sequence, Clocked.run_succ]
    refine (ih (Nat.le_of_succ_le hi)).step (hstep i hi) ?_ (hspr i hi) (hepcr i hi)
    intro htaken
    by_contra htarget
    cases i with
    | zero => exact htarget rfl
    | succ j =>
      exact hslot j hi (takesBranch_of_target htarget) (executesTransfer_of_takesBranch htaken)

/-- The simulator executes the instructions of a run in the order of the processor, whatever
faults they raise, and leaves no branch pending. -/
theorem pcs_of_run (run : ℕ → Machine) (n : ℕ) (halign : IsAligned (run 0).cpu.pc)
    (hnpc : (run 0).cpu.npc = (run 0).cpu.pc + 4) (hbranch : (run 0).cpu.branchPc = noBranch)
    (hstep : ∀ i < n, cpuExecInst (run i) = some (run (i + 1)))
    (hslot : ∀ i, i + 1 < n → takesBranch (run i) → ¬ executesTransfer (run (i + 1)))
    (hspr : ∀ i < n, ¬ writesNpc (run i)) (hepcr : ∀ i < n, IsAligned (run i).cpu.epcr) :
    ∀ i ≤ n, (run i).cpu.pc = (sequence run i).pc ∧ (run i).cpu.branchPc = noBranch := by
  intro i hi
  have h := follows_of_run run n halign hnpc hbranch hstep hslot hspr hepcr i hi
  exact ⟨h.pc, h.branchPc⟩

/-- Memory that holds one word at the even and another at the odd word addresses. -/
def Machine.alternating (even odd : U32) (cpu : CPU) : Machine :=
  { (default : Machine) with
    cpu := cpu
    mem := fun a => ByteMemory.byteOf 4 (if a &&& 4 = 0 then even else odd) (a &&& 3).toNat }

/-- `l.j` to the address 16 bytes away, with an `l.nop` in its delay slot. -/
def jumping : ℕ → Machine
  | 0 => .alternating 0x00000004 0x15000000 (.startAt 0x100)
  | 1 => .alternating 0x00000004 0x15000000 { CPU.startAt 0x104 with npc := 0x110 }
  | _ + 2 => .alternating 0x00000004 0x15000000 (.startAt 0x110)

theorem not_executesTransfer_jumping : ¬ executesTransfer (jumping 1) := by
  rintro ⟨inst, hinst, htransfer⟩
  obtain rfl : 0x15000000 = inst := Option.some.inj hinst
  exact absurd htransfer (by decide)

theorem not_writesNpc_jumping {i : ℕ} (hi : i < 2) : ¬ writesNpc (jumping i) := by
  rintro ⟨inst, hinst, hop, -⟩
  have hcases : i = 0 ∨ i = 1 := by omega
  rcases hcases with rfl | rfl
  · obtain rfl : 0x00000004 = inst := Option.some.inj hinst
    exact absurd hop (by decide)
  · obtain rfl : 0x15000000 = inst := Option.some.inj hinst
    exact absurd hop (by decide)

theorem step_jumping {i : ℕ} (hi : i < 2) :
    cpuExecInst (jumping i) = some (jumping (i + 1)) := by
  match i, hi with
  | 0, _ => rfl
  | 1, _ => rfl

theorem pcs_of_run_jumping : (jumping 2).cpu.pc = (sequence jumping 2).pc ∧
    (jumping 2).cpu.branchPc = noBranch := by
  refine pcs_of_run jumping 2 rfl rfl rfl (fun i => step_jumping) ?_
    (fun i => not_writesNpc_jumping) ?_ 2 (Nat.le_refl 2)
  · intro i hi _
    obtain rfl : i = 0 := by omega
    exact not_executesTransfer_jumping
  · intro i hi
    match i, hi with
    | 0, _ => rfl
    | 1, _ => rfl

end Run

/-! ### Recognising a delay slot -/

/-- The state after a step is recognised as a delay slot if it is one, and an exception in the
delay slot records it and the address of the branch. -/
structure SlotDetected (m m' : Machine) : Prop where
  isInDelaySlot : isInDelaySlot m'.cpu = true ↔ takesBranch m
  exception : takesBranch m → ∀ e m'', Raises m' e → cpuExecInst m' = some m'' →
    m''.cpu.epcr = m.cpu.pc ∧ cpuIsSetSrFlag m''.cpu sprSrDsx = true

/-- The next step takes no branch, or one to an address that is neither the one behind its delay
slot nor the sentinel. -/
def TargetDistinct (m : Machine) : Prop :=
  ∀ target, takenTarget m = some target → target ≠ m.cpu.pc + 8 ∧ target ≠ noBranch

section Detection

variable {m m' m'' : Machine} {target : U32}

/-- An exception in a recognised delay slot records it. -/
theorem entry_of_slot {e : Exc} (hslot : isInDelaySlot m'.cpu = true) (hraises : Raises m' e)
    (hstep : cpuExecInst m' = some m'') :
    m''.cpu.epcr = m'.cpu.pc - 4 ∧ cpuIsSetSrFlag m''.cpu sprSrDsx = true := by
  obtain ⟨m₁, hq, hacted⟩ := hraises
  rw [cpuExecInst_eq_acted, hacted] at hstep
  obtain rfl := Option.some.inj hstep
  have hslot₁ : isInDelaySlot m₁.cpu = true := by
    rw [isInDelaySlot, hq.cpu.npc, hq.cpu.pc]
    exact hslot
  have hdsx : entrySr m₁.cpu.sr true &&& sprSrDsx = sprSrDsx := BitMask.merge_and_of_drop rfl ..
  simp only [Machine.advance, cpuAdvancePc_eq, Machine.setCpu_cpu, Exc.enter_eq, Exc.entryEpcr,
    hslot₁, hq.cpu.pc, cpuIsSetSrFlag, hdsx]
  exact ⟨rfl, rfl⟩

/-- After a taken branch outside of a delay slot, the delay slot is recognised unless the target
is the address behind it or the sentinel. -/
theorem isInDelaySlot_of_taken (htaken : takenTarget m = some target)
    (hnpc : m.cpu.npc = m.cpu.pc + 4) (hstep : cpuExecInst m = some m') :
    m'.cpu.pc = m.cpu.pc + 4 ∧
      (isInDelaySlot m'.cpu = true ↔ target ≠ m.cpu.pc + 8 ∧ target ≠ noBranch) := by
  obtain ⟨gpr, hgpr⟩ := acted_of_taken htaken
  rw [cpuExecInst_eq_acted, hgpr] at hstep
  obtain rfl := Option.some.inj hstep
  have hbehind : m.cpu.pc + 4 + 4 = m.cpu.pc + 8 := BitVec.add_assoc ..
  rw [isInDelaySlot_eq_true]
  simp only [Machine.advance, cpuAdvancePc_eq, Machine.setCpu_cpu, hnpc, hbehind, true_and]
  by_cases hsentinel : target = noBranch
  · simp [hsentinel]
  · simp [hsentinel]

theorem slotDetected_iff_of_step (hb : m.cpu.branchPc = noBranch)
    (hnpc : takesBranch m → m.cpu.npc = m.cpu.pc + 4) (hstep : cpuExecInst m = some m') :
    SlotDetected m m' ↔ TargetDistinct m := by
  constructor
  · rintro ⟨hslot, -⟩ target htaken
    have htakes := takesBranch_iff.mpr ⟨target, htaken⟩
    exact (isInDelaySlot_of_taken htaken (hnpc htakes) hstep).2.mp (hslot.mpr htakes)
  · intro hdistinct
    have hdetected (htakes : takesBranch m) :
        m'.cpu.pc = m.cpu.pc + 4 ∧ isInDelaySlot m'.cpu = true := by
      obtain ⟨target, htaken⟩ := takesBranch_iff.mp htakes
      obtain ⟨hpc, hslot⟩ := isInDelaySlot_of_taken htaken (hnpc htakes) hstep
      exact ⟨hpc, hslot.mpr (hdistinct target htaken)⟩
    refine ⟨⟨fun hslot => ?_, fun htakes => (hdetected htakes).2⟩, fun htakes e m'' he hstep' => ?_⟩
    · by_contra htakes
      rw [isInDelaySlot_of_step hb hstep htakes] at hslot
      cases hslot
    · obtain ⟨hpc, hslot⟩ := hdetected htakes
      obtain ⟨hepcr, hdsx⟩ := entry_of_slot hslot he hstep'
      exact ⟨by rw [hepcr, hpc, BitVec.add_sub_cancel], hdsx⟩

end Detection

/-- The delay slots of a run are recognised, and recorded by the exceptions in them, exactly when
no branch or jump of the run goes to the address behind its delay slot or to the sentinel. -/
theorem slotDetected_iff (run : ℕ → Machine) (n : ℕ)
    (hnpc : (run 0).cpu.npc = (run 0).cpu.pc + 4) (hbranch : (run 0).cpu.branchPc = noBranch)
    (hstep : ∀ i < n, cpuExecInst (run i) = some (run (i + 1)))
    (hslot : ∀ i, i + 1 < n → takesBranch (run i) → ¬ executesTransfer (run (i + 1))) :
    (∀ i < n, SlotDetected (run i) (run (i + 1))) ↔ ∀ i < n, TargetDistinct (run i) := by
  refine forall₂_congr fun i hi => ?_
  cases i with
  | zero => exact slotDetected_iff_of_step hbranch (fun _ => hnpc) (hstep 0 hi)
  | succ i =>
    have hi' : i < n := Nat.lt_of_succ_lt hi
    have hpending : (run (i + 1)).cpu.branchPc = noBranch := branchPc_of_step (hstep i hi')
    refine slotDetected_iff_of_step hpending (fun htakes => ?_) (hstep _ hi)
    -- a branch is not in the delay slot of another one
    have hbefore : (run i).cpu.branchPc = noBranch := by
      cases i with
      | zero => exact hbranch
      | succ j => exact branchPc_of_step (hstep j (Nat.lt_of_succ_lt hi'))
    have hnot : ¬ takesBranch (run i) := fun h =>
      hslot i hi h (executesTransfer_of_takesBranch htakes)
    exact isInDelaySlot_eq_false.mp (isInDelaySlot_of_step hbefore (hstep i hi') hnot)

theorem slotDetected_iff_jumping : (∀ i < 2, SlotDetected (jumping i) (jumping (i + 1))) ↔
    ∀ i < 2, TargetDistinct (jumping i) := by
  refine slotDetected_iff jumping 2 rfl rfl (fun i => step_jumping) ?_
  intro i hi _
  obtain rfl : i = 0 := by omega
  exact not_executesTransfer_jumping

/-- `l.j` to the address behind its delay slot, which holds a load from address 1. -/
def jumpingBehind (cpu : CPU) : Machine :=
  .alternating 0x00000002 0x84000001 cpu

/-- The alignment exception in the delay slot records the delay slot's own address. -/
theorem not_slotDetected_jumpingBehind : ∃ m' m'',
    cpuExecInst (jumpingBehind (.startAt 0x100)) = some m' ∧
      takesBranch (jumpingBehind (.startAt 0x100)) ∧ ¬ executesTransfer m' ∧
      Raises m' (.alignment 1) ∧ cpuExecInst m' = some m'' ∧
      m''.cpu.epcr = 0x104 ∧ cpuIsSetSrFlag m''.cpu sprSrDsx = false ∧
      ¬ SlotDetected (jumpingBehind (.startAt 0x100)) m' := by
  have htakes : takesBranch (jumpingBehind (.startAt 0x100)) := ⟨0x00000002, rfl, rfl⟩
  refine ⟨jumpingBehind (.startAt 0x104), _, rfl, htakes, ?_, ⟨_, .refl _, rfl⟩, rfl, rfl, rfl,
    fun h => ?_⟩
  · rintro ⟨inst, hinst, htransfer⟩
    obtain rfl : 0x84000001 = inst := Option.some.inj hinst
    exact absurd htransfer (by decide)
  · exact absurd (h.isInDelaySlot.mpr htakes) (by decide)

end WirePatch
