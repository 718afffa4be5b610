import WirePatch.Simulator.Execute

/-!
# What one step can do

The inversion of the step function: whatever instruction is executed, the machine settles (it
computes, and may then enter an exception), takes a delayed branch, returns from an exception, or
writes a special purpose register. Every result about runs is derived from this and from what
`cpu_advance_pc` does at the end of the step.

## Main definitions

* `Quiet`, `Settles`, `Effect`: the possible effects of an instruction.
* `executedInst`: the word a step executes, if it executes one.
* `takesBranch`, `executesTransfer`: what the next step does.

## Main results

* `effect_of_dispatch`: every instruction has one of the effects.
* `cpuExecInst_cases`: every step executes an instruction, skips one, or fails to fetch one.
* `branchPc_of_step`, `isInDelaySlot_of_step`: what a step leaves behind.
-/

namespace WirePatch

/-! ### Effects -/

/-- A change that enters no exception, transfers no control and writes no special purpose register
but the two that flush the caches. -/
structure Quiet (m m' : Machine) : Prop where
  cpu : Computes m.cpu m'.cpu
  spr : ∀ n, n ≠ sprDcbfr → n ≠ sprIcbir → m'.spr n = m.spr n
  junk : m'.junk = m.junk

/-- A quiet change, after which an exception may be entered. -/
inductive Settles (m : Machine) : Machine → Prop
  | quiet {m' : Machine} : Quiet m m' → Settles m m'
  | entry {m' : Machine} (e : Exc) : Quiet m m' → Settles m (m'.setCpu (e.enter m'.cpu))

/-- What `dispatch` can do. -/
inductive Effect (op : U32) (m : Machine) (cont : Control) : Machine → Prop
  | settles {m' : Machine} : Settles m m' → Effect op m cont m'
  | branch (gpr : Reg → U32) (target : U32) : isTaken op m.cpu cont = true →
      Effect op m cont (m.setCpu { m.cpu with gpr := gpr, branchPc := target })
  | rfe : op = opRfe → Effect op m cont (m.setCpu (Insn.rfe m.cpu cont))
  | mtspr : op = opMtspr → Effect op m cont (Insn.or32Mtspr m cont)

namespace Quiet

theorem refl (m : Machine) : Quiet m m :=
  ⟨.refl _, fun _ _ _ => rfl, rfl⟩

variable {m m₁ m₂ : Machine}

theorem trans (h₁ : Quiet m m₁) (h₂ : Quiet m₁ m₂) : Quiet m m₂ where
  cpu := h₁.cpu.trans h₂.cpu
  spr n hd hi := (h₂.spr n hd hi).trans (h₁.spr n hd hi)
  junk := h₂.junk.trans h₁.junk

theorem setCpu (h : Quiet m m₁) {cpu : CPU} (hcpu : Computes m₁.cpu cpu) :
    Quiet m (m₁.setCpu cpu) :=
  { h with cpu := h.cpu.trans hcpu }

theorem record (h : Quiet m m₁) (access : Access) : Quiet m (m₁.record access) :=
  { h with }

theorem storeFlushed (h : Quiet m m₁) (phyAddr value : U32) :
    Quiet m (storeFlushed m₁ phyAddr value) := by
  rw [storeFlushed_eq]
  refine ⟨h.cpu, fun n hd hi => ?_, h.junk⟩
  exact (Function.update_of_ne hi ..).trans ((Function.update_of_ne hd ..).trans (h.spr n hd hi))

theorem settles (h : Quiet m m₁) (hs : Settles m₁ m₂) : Settles m m₂ := by
  cases hs with
  | quiet h' => exact .quiet (h.trans h')
  | entry e h' => exact .entry e (h.trans h')

end Quiet

theorem Settles.of_ranges {m : Machine} {cpu : CPU} (h : Ranges m.cpu cpu) :
    Settles m (m.setCpu cpu) := by
  cases h with
  | computes h' => exact .quiet ((Quiet.refl m).setCpu h')
  | @range c' h' =>
    have hentry := Settles.entry .range ((Quiet.refl m).setCpu h')
    rw [Machine.setCpu_cpu] at hentry
    exact hentry

/-! ### Loads and stores settle -/

theorem settles_simLoadData (m : Machine) (address : U32) :
    Settles m (simLoadData m address).machine := by
  rcases status_cases (virtualToPhysicalD m address) with h | h | h | h
  · rw [simLoadData_of_two_lt h]
    exact .quiet ((Quiet.refl m).record _)
  · rw [simLoadData_of_eq_zero h]
    exact .quiet (.refl m)
  · rw [simLoadData_of_eq_one h]
    exact .entry (.dataTLBMiss address) (.refl m)
  · rw [simLoadData_of_eq_two h]
    exact .quiet (.refl m)

/-- A load that reports success enters no exception. -/
theorem quiet_simLoadData {m : Machine} {address : U32} (hret : (simLoadData m address).ret = 0) :
    Quiet m (simLoadData m address).machine := by
  rcases status_cases (virtualToPhysicalD m address) with h | h | h | h
  · rw [simLoadData_of_two_lt h]
    exact (Quiet.refl m).record _
  · rw [simLoadData_of_eq_zero h]
    exact .refl m
  · rw [simLoadData_of_eq_one h] at hret
    cases hret
  · rw [simLoadData_of_eq_two h]
    exact .refl m

theorem settles_simStoreData (m : Machine) (address value : U32) :
    Settles m (simStoreData m address value).1 := by
  by_cases h : 2 < virtualToPhysicalD m address
  · rw [simStoreData_of_two_lt value h]
    exact .quiet ((Quiet.refl m).storeFlushed ..)
  · by_cases h1 : virtualToPhysicalD m address = 1
    · rw [simStoreData_of_eq_one value h1]
      exact .entry (.dataTLBMiss address) (.refl m)
    · rw [simStoreData_of_status value h h1]
      exact .quiet (.refl m)

theorem settles_loadWord (m : Machine) (address : U32) (rD : Reg) (value : U32 → U32) :
    Settles m (Insn.loadWord m address rD value) := by
  simp only [Insn.loadWord]
  split_ifs with hret
  · exact .quiet ((quiet_simLoadData hret).setCpu ((Computes.refl _).setGpr ..))
  · exact settles_simLoadData ..

theorem settles_updateWord (m : Machine) (address : U32) (rB : Reg) (insert : U32 → U32 → U32) :
    Settles m (Insn.updateWord m address rB insert) := by
  simp only [Insn.updateWord]
  split_ifs with hret
  · exact (quiet_simLoadData hret).settles (settles_simStoreData ..)
  · exact settles_simLoadData ..

section Insn

variable (m : Machine) (cont : Control)

theorem settles_lwz : Settles m (Insn.lwz m cont) := by
  simp only [Insn.lwz]
  split_ifs with halign
  · exact .entry (.alignment _) (.refl m)
  · exact settles_loadWord ..

theorem settles_loadByteOf (ext : BitVec 8 → U32) (value : U32 → U32 → U32) :
    Settles m (Insn.loadByteOf ext value m cont) := by
  simp only [Insn.loadByteOf]
  split_ifs with hmiss hdirect
  · exact .entry (.dataTLBMiss _) (.refl m)
  · exact .quiet (((Quiet.refl m).record _).setCpu ((Computes.refl _).setGpr ..))
  · exact settles_loadWord ..

theorem settles_loadHalfOf (value : U32 → U32 → U32) :
    Settles m (Insn.loadHalfOf value m cont) := by
  simp only [Insn.loadHalfOf]
  split_ifs with halign
  · exact .entry (.alignment _) (.refl m)
  · exact settles_loadWord ..

theorem settles_sw : Settles m (Insn.sw m cont) := by
  simp only [Insn.sw]
  split_ifs with halign
  · exact .entry (.alignment _) (.refl m)
  · exact settles_simStoreData ..

theorem settles_sb : Settles m (Insn.sb m cont) := by
  simp only [Insn.sb]
  split_ifs with hmiss hdirect
  · exact .entry (.dataTLBMiss _) (.refl m)
  · exact .quiet { Quiet.refl m with }
  · exact settles_updateWord ..

theorem settles_sh : Settles m (Insn.sh m cont) := by
  simp only [Insn.sh]
  split_ifs with halign
  · exact .entry (.alignment _) (.refl m)
  · exact settles_updateWord ..

end Insn

/-! ### Register instructions settle -/

section Registers

variable {undef : ℕ → U32} {cpu cpu' : CPU} {cont : Control}

theorem computes_setGpr (reg : Reg) (value : U32) : Computes cpu (cpuSetGpr cpu reg value) :=
  (Computes.refl cpu).setGpr ..

theorem computes_setF (set : Bool) : Computes cpu (cpuSetSrFlag cpu sprSrF set) :=
  (Computes.refl cpu).setFlag rfl _

theorem computes_of_sfi (h : sfi cpu cont = some cpu') : Computes cpu cpu' := by
  obtain ⟨insn, hinsn, rfl⟩ := Option.map_eq_some_iff.mp h
  refine Switch.forall_of_lookup (p := fun _ f => Computes cpu (f cpu cont)) ?_ hinsn
  simp only [sfiCases, List.forall_mem_cons]
  exact ⟨computes_setF _, computes_setF _, computes_setF _, computes_setF _, computes_setF _,
    computes_setF _, computes_setF _, computes_setF _, computes_setF _, computes_setF _, nofun⟩

theorem computes_of_sf (h : sf cpu cont = some cpu') : Computes cpu cpu' := by
  obtain ⟨insn, hinsn, rfl⟩ := Option.map_eq_some_iff.mp h
  refine Switch.forall_of_lookup (p := fun _ f => Computes cpu (f cpu cont)) ?_ hinsn
  simp only [sfCases, List.forall_mem_cons]
  exact ⟨computes_setF _, computes_setF _, computes_setF _, computes_setF _, computes_setF _,
    computes_setF _, computes_setF _, computes_setF _, computes_setF _, computes_setF _, nofun⟩

theorem computes_of_macMsb (h : macMsb cpu cont = some cpu') : Computes cpu cpu' := by
  unfold macMsb at h
  split_ifs at h <;> obtain rfl := Option.some.inj h <;> exact (Computes.refl cpu).setMac _

theorem computes_of_roShiftI (h : roShiftI undef cpu cont = some cpu') : Computes cpu cpu' := by
  obtain ⟨insn, hinsn, rfl⟩ := Option.map_eq_some_iff.mp h
  refine Switch.forall_of_lookup (p := fun _ f => Computes cpu (f cpu cont)) ?_ hinsn
  simp only [roShiftICases, List.forall_mem_cons]
  exact ⟨computes_setGpr .., computes_setGpr .., computes_setGpr .., computes_setGpr .., nofun⟩

theorem computes_macrcMovhi : Computes cpu (Insn.macrcMovhi cpu cont) := by
  rw [Insn.macrcMovhi]
  split_ifs
  · exact (computes_setGpr ..).setMac _
  · exact computes_setGpr ..

theorem ranges_mulu : Ranges cpu (Insn.mulu cpu cont) :=
  (((computes_setGpr ..).setFlag rfl _).setFlag rfl _).checkRange

/-- The flags of a division, after a quotient that is written for a non-zero divisor only. -/
theorem ranges_div {c : Prop} [Decidable c] (q : U32) (cy : Bool) :
    Ranges cpu
      (Insn.checkRange
        (cpuSetSrFlag
          (cpuSetSrFlag (if c then cpuSetGpr cpu cont.rD q else cpu) sprSrOv false)
          sprSrCy cy)) := by
  have h : Computes cpu (if c then cpuSetGpr cpu cont.rD q else cpu) := by
    split_ifs
    · exact computes_setGpr ..
    · exact .refl cpu
  exact ((h.setFlag rfl _).setFlag rfl _).checkRange

theorem ranges_sub : Ranges cpu (Insn.sub cpu cont) :=
  ((((Computes.refl cpu).addBase ..).setFlag rfl _).setFlag rfl _).checkRange

theorem ranges_of_alu (h : alu undef cpu cont = some cpu') : Ranges cpu cpu' := by
  have hadd {carryIn : Bool} {a b : U32} :
      Ranges cpu (Insn.checkRange (Insn.addBase cpu carryIn cont.rD a b)) :=
    ((Computes.refl cpu).addBase ..).checkRange
  have hmul {a b : U32} : Ranges cpu (Insn.checkRange (Insn.mulShared cpu a b cont.rD)) :=
    ((Computes.refl cpu).mulShared ..).checkRange
  have hset {value : U32} : Ranges cpu (cpuSetGpr cpu cont.rD value) :=
    .computes (computes_setGpr ..)
  obtain ⟨insn, hinsn, rfl⟩ := Option.map_eq_some_iff.mp h
  refine Switch.forall_of_lookup (p := fun _ f => Ranges cpu (f cpu cont)) ?_ hinsn
  simp only [aluCases, List.forall_mem_cons]
  exact ⟨hadd, hadd, hset, hset, hset, hset, hset, hset, ranges_div .., ranges_div .., hset, hset,
    hmul, ranges_mulu, ranges_sub, hset, hset, hset, hset, hset, hset, hset, hset, nofun⟩

end Registers

/-! ### Every instruction -/

theorem settles_onSwitch {switch : (ℕ → U32) → CPU → Control → Option CPU} {m m' : Machine}
    {cont : Control} (h : onSwitch switch m cont = some m')
    (hr : ∀ {cpu}, switch m.junk m.cpu cont = some cpu → Ranges m.cpu cpu) : Settles m m' := by
  obtain ⟨cpu, hcpu, rfl⟩ := Option.map_eq_some_iff.mp h
  exact .of_ranges (hr hcpu)

theorem settles_sysTrapSync {m m' : Machine} {cont : Control}
    (h : onSwitch (fun _ => Insn.sysTrapSync) m cont = some m') : Settles m m' := by
  obtain ⟨cpu, hcpu : Insn.sysTrapSync m.cpu cont = some cpu, rfl⟩ := Option.map_eq_some_iff.mp h
  unfold Insn.sysTrapSync at hcpu
  split_ifs at hcpu <;> obtain rfl := Option.some.inj hcpu
  · exact .entry .sys (.refl m)
  · exact .entry .trap (.refl m)

section Delayed

variable (m : Machine) (cont : Control)

theorem effect_jalr : Effect opJalr m cont (m.setCpu (Insn.jalr m.cpu cont)) := by
  rw [Insn.jalr]
  split_ifs with halign
  · exact .settles (.entry (.alignment _) (.refl m))
  · exact .branch _ _ (beq_iff_eq.mpr (not_not.mp halign))

theorem effect_jr : Effect opJr m cont (m.setCpu (Insn.jr m.cpu cont)) := by
  rw [Insn.jr]
  split_ifs with halign
  · exact .settles (.entry (.alignment _) (.refl m))
  · exact .branch _ _ (beq_iff_eq.mpr (not_not.mp halign))

theorem effect_bf : Effect opBf m cont (m.setCpu (Insn.bf m.cpu cont)) := by
  rw [Insn.bf]
  split_ifs with hf
  · exact .branch _ _ hf
  · exact .settles (.quiet (.refl m))

theorem effect_bnf : Effect opBnf m cont (m.setCpu (Insn.bnf m.cpu cont)) := by
  rw [Insn.bnf]
  split_ifs with hf
  · exact .branch _ _ hf
  · exact .settles (.quiet (.refl m))

end Delayed

/-- Every instruction has one of the effects. -/
theorem effect_of_dispatch {op : U32} {m m' : Machine} {cont : Control}
    (h : dispatch op m cont = some m') : Effect op m cont m' := by
  obtain ⟨handler, hlookup, hm'⟩ := Option.bind_eq_some_iff.mp h
  -- the shapes of handlers: a total instruction, or a group with a sub-opcode
  have total {op : U32} {m₁ : Machine} (he : Effect op m cont m₁) (m₂ : Machine)
      (h₂ : some m₁ = some m₂) : Effect op m cont m₂ := Option.some.inj h₂ ▸ he
  have compute {op : U32} {f : CPU → Control → CPU} (hf : Ranges m.cpu (f m.cpu cont))
      (m₂ : Machine) : onCpu f m cont = some m₂ → Effect op m cont m₂ :=
    total (.settles (.of_ranges hf)) m₂
  have hset {op : U32} {value : U32} (m₂ : Machine) :
      some (m.setCpu (cpuSetGpr m.cpu cont.rD value)) = some m₂ → Effect op m cont m₂ :=
    total (.settles (.of_ranges (.computes (computes_setGpr ..)))) m₂
  have hadd {carryIn : Bool} {a b : U32} :
      Ranges m.cpu (Insn.checkRange (Insn.addBase m.cpu carryIn cont.rD a b)) :=
    ((Computes.refl _).addBase ..).checkRange
  refine Switch.forall_of_lookup
    (p := fun op handler => ∀ m₂, handler m cont = some m₂ → Effect op m cont m₂) ?_ hlookup m' hm'
  simp only [executeCases, List.forall_mem_cons]
  refine ⟨?_, ?_, ?_, ?_, ?_, ?_, ?_, ?_, ?_, ?_, ?_, ?_, ?_, ?_, ?_, ?_, ?_, ?_, ?_, ?_, ?_, ?_,
    ?_, ?_, ?_, ?_, ?_, ?_, ?_, ?_, ?_, ?_, ?_, nofun⟩
  · exact total (.branch _ _ rfl)
  · exact total (.branch _ _ rfl)
  · exact total (effect_jalr m cont)
  · exact total (effect_bf m cont)
  · exact total (effect_bnf m cont)
  · exact total (effect_jr m cont)
  · exact total (.settles (.quiet (.refl m)))
  · exact total (.settles (settles_loadByteOf ..))
  · exact total (.settles (settles_loadHalfOf ..))
  · exact total (.settles (settles_loadByteOf ..))
  · exact total (.settles (settles_loadHalfOf ..))
  · exact total (.settles (settles_lwz ..))
  · exact total (.settles (settles_lwz ..))
  · exact compute hadd
  · exact compute hadd
  · exact hset
  · exact fun _ hs => .settles (settles_onSwitch hs fun hc => .computes (computes_of_sfi hc))
  · exact total (.settles (settles_sw ..))
  · exact total (.settles (settles_sb ..))
  · exact total (.settles (settles_sh ..))
  · exact fun _ hs => .settles (settles_onSwitch hs ranges_of_alu)
  · exact fun _ hs => .settles (settles_onSwitch hs fun hc => .computes (computes_of_macMsb hc))
  · exact compute (.computes ((Computes.refl _).setMac _))
  · exact compute (.computes computes_macrcMovhi)
  · exact compute ((Computes.refl _).mulShared ..).checkRange
  · exact hset
  · exact hset
  · exact fun _ hs => .settles (settles_onSwitch hs fun hc => .computes (computes_of_sf hc))
  · exact fun _ hs => .settles (settles_onSwitch hs fun hc => .computes (computes_of_roShiftI hc))
  · exact total (.mtspr rfl)
  · exact hset
  · exact fun _ hs => .settles (settles_sysTrapSync hs)
  · exact total (.rfe rfl)

/-! ### Steps -/

/-- The word the next step executes; none when the fetch fails or the word is the marker of a
failed fetch. -/
def executedInst (m : Machine) : Option U32 :=
  if (fetch m).2 = fetchMarker then none else some (fetch m).2

/-- A fetch leaves the machine alone or enters an exception. -/
theorem settles_fetch (m : Machine) : Settles m (fetch m).1 := by
  rcases status_cases (virtualToPhysicalI m m.cpu.pc) with h | h | h | h
  · rw [fetch_of_two_lt h]
    exact .quiet (.refl m)
  · rw [fetch_of_eq_zero h]
    exact .quiet (.refl m)
  · rw [fetch_of_eq_one h]
    exact .entry (.instructionTLBMiss _) (.refl m)
  · rw [fetch_of_eq_two h]
    exact .entry (.instructionPageFault _) (.refl m)

/-- A fetch that yields a word other than the marker leaves the machine alone. -/
theorem fetch_fst {m : Machine} (hinst : (fetch m).2 ≠ fetchMarker) : (fetch m).1 = m := by
  rcases status_cases (virtualToPhysicalI m m.cpu.pc) with h | h | h | h
  · rw [fetch_of_two_lt h]
  · rw [fetch_of_eq_zero h]
  · rw [fetch_of_eq_one h] at hinst
    exact absurd rfl hinst
  · rw [fetch_of_eq_two h] at hinst
    exact absurd rfl hinst

/-- A step executes the word it fetched, or advances over a failed fetch. -/
theorem cpuExecInst_eq (m : Machine) :
    cpuExecInst m =
      match executedInst m with
      | some inst => execute (opcode inst) m (decode inst)
      | none => some (fetch m).1.advance := by
  by_cases h : (fetch m).2 = fetchMarker
  · simp only [cpuExecInst, executedInst, if_pos h]
  · simp only [cpuExecInst, executedInst, if_neg h, fetch_fst h]

theorem cpuExecInst_of_executed {m : Machine} {inst : U32} (h : executedInst m = some inst) :
    cpuExecInst m = execute (opcode inst) m (decode inst) := by
  rw [cpuExecInst_eq, h]

/-- A step executes the word it fetched, skips it, or enters the exception of a failed fetch; then
the program counter advances. -/
theorem cpuExecInst_cases {m m' : Machine} (h : cpuExecInst m = some m') :
    ∃ m₁, m' = m₁.advance ∧
      ((∃ inst, executedInst m = some inst ∧
          Effect (opcode inst) m (decode inst) m₁) ∨
        (executedInst m = none ∧ Settles m m₁)) := by
  rw [cpuExecInst_eq] at h
  cases hinst : executedInst m with
  | some inst =>
    rw [hinst] at h
    obtain ⟨m₁, hdispatch, rfl⟩ := Option.map_eq_some_iff.mp h
    exact ⟨m₁, rfl, .inl ⟨inst, rfl, effect_of_dispatch hdispatch⟩⟩
  | none =>
    rw [hinst] at h
    exact ⟨(fetch m).1, (Option.some.inj h).symm, .inr ⟨rfl, settles_fetch m⟩⟩

/-- The machine after an `l.rfe` is executed. -/
theorem step_rfe {m : Machine} {inst : U32} (hinst : executedInst m = some inst)
    (h : opcode inst = opRfe) :
    cpuExecInst m = some (m.setCpu (Insn.rfe m.cpu (decode inst))).advance := by
  rw [cpuExecInst_of_executed hinst, h]
  rfl

/-! ### Taken branches -/

/-- The general purpose registers after a taken branch or jump: two of them leave the address behind
the delay slot in the link register. -/
def linkedGpr (op : U32) (cpu : CPU) : Reg → U32 :=
  if op = opJal ∨ op = opJalr then Function.update cpu.gpr ptLr (cpu.pc + 8) else cpu.gpr

/-- A branch or jump that is taken leaves its target in `branch_pc`. -/
theorem dispatch_of_isTaken {op : U32} {m : Machine} {cont : Control}
    (h : isTaken op m.cpu cont = true) :
    dispatch op m cont = some (m.setCpu { m.cpu with
      gpr := linkedGpr op m.cpu
      branchPc := if op = opJalr ∨ op = opJr then m.cpu.gpr cont.rB
        else branchTarget m.cpu cont }) := by
  have hmem := mem_delayedOps_of_isTaken h
  simp only [delayedOps, List.mem_cons, List.not_mem_nil, or_false] at hmem
  rcases hmem with rfl | rfl | rfl | rfl | rfl | rfl
  · rfl
  · rfl
  · have halign : m.cpu.gpr cont.rB &&& 0x3 = 0 := eq_of_beq h
    have hjalr : Insn.jalr m.cpu cont =
        cpuSetLr (cpuSetBranchPc m.cpu (m.cpu.gpr cont.rB)) (m.cpu.pc + 8) :=
      if_neg (not_not.mpr halign)
    exact congrArg (fun c => some (m.setCpu c)) hjalr
  · have hbf : Insn.bf m.cpu cont = cpuSetBranchPc m.cpu (branchTarget m.cpu cont) := if_pos h
    exact congrArg (fun c => some (m.setCpu c)) hbf
  · have hbnf : Insn.bnf m.cpu cont = cpuSetBranchPc m.cpu (branchTarget m.cpu cont) := if_pos h
    exact congrArg (fun c => some (m.setCpu c)) hbnf
  · have halign : m.cpu.gpr cont.rB &&& 0x3 = 0 := eq_of_beq h
    have hjr : Insn.jr m.cpu cont = cpuSetBranchPc m.cpu (m.cpu.gpr cont.rB) :=
      if_neg (not_not.mpr halign)
    exact congrArg (fun c => some (m.setCpu c)) hjr

/-- Whether a branch or jump is taken depends on the flag and on the register it jumps to. -/
theorem isTaken_congr {op : U32} {c c' : CPU} {cont : Control}
    (hflag : cpuIsSetSrFlag c' sprSrF = cpuIsSetSrFlag c sprSrF)
    (hsource : op = opJalr ∨ op = opJr → c'.gpr cont.rB = c.gpr cont.rB) :
    isTaken op c' cont = isTaken op c cont := by
  simp only [isTaken, hflag]
  by_cases hreg : op = opJalr ∨ op = opJr
  · rw [hsource hreg]
  · simp only [if_neg hreg]

/-! ### What a step leaves behind -/

/-- The next step executes a branch or jump that is taken. -/
def takesBranch (m : Machine) : Prop :=
  ∃ inst, executedInst m = some inst ∧ isTaken (opcode inst) m.cpu (decode inst) = true

/-- The next step executes a control transfer. -/
def executesTransfer (m : Machine) : Prop :=
  ∃ inst, executedInst m = some inst ∧ isControlTransfer inst = true

theorem executesTransfer_of_takesBranch {m : Machine} (h : takesBranch m) :
    executesTransfer m := by
  obtain ⟨inst, hinst, htaken⟩ := h
  refine ⟨inst, hinst, ?_⟩
  simp [isControlTransfer, mem_delayedOps_of_isTaken htaken]

/-- No branch is pending after a step. -/
theorem branchPc_of_step {m m' : Machine} (h : cpuExecInst m = some m') :
    m'.cpu.branchPc = noBranch := by
  obtain ⟨m₁, rfl, -⟩ := cpuExecInst_cases h
  simp [Machine.advance]

/-- An instruction that settles leaves no branch pending if there was none. -/
theorem branchPc_of_settles {m m' : Machine} (h : Settles m m') :
    m'.cpu.branchPc = m.cpu.branchPc := by
  cases h with
  | quiet hq => exact hq.cpu.branchPc
  | entry e hq => rw [Machine.setCpu_cpu, Exc.enter_eq, hq.cpu.branchPc]

/-- A step that takes no branch is not followed by a delay slot. -/
theorem isInDelaySlot_of_step {m m' : Machine} (hb : m.cpu.branchPc = noBranch)
    (hstep : cpuExecInst m = some m') (ht : ¬ takesBranch m) : isInDelaySlot m'.cpu = false := by
  obtain ⟨m₁, rfl, heffect⟩ := cpuExecInst_cases hstep
  have hb₁ : m₁.cpu.branchPc = noBranch := by
    rcases heffect with ⟨inst, hinst, he⟩ | ⟨-, hs⟩
    · cases he with
      | settles hs => exact (branchPc_of_settles hs).trans hb
      | branch _ _ htaken => exact absurd ⟨inst, hinst, htaken⟩ ht
      | rfe => exact hb
      | mtspr => exact (cpuSetSpr_branchPc ..).trans hb
    · exact (branchPc_of_settles hs).trans hb
  simp [Machine.advance, isInDelaySlot, hb₁]

end WirePatch
