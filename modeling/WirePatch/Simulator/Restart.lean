import WirePatch.Simulator.Status
import WirePatch.Simulator.Unassigned

/-!
# Restarting after a fault

A data TLB miss, followed by the supply of the translation and by `l.rfe`, leads to where the
faulting instruction would have led with the translation present, unless the instruction is a load
that reads nothing. The two runs differ in the registers of exceptions, in the delay-slot bit and
in their undefined words only; loads and stores read none of the registers, and only a load that
reads nothing uses an undefined word. When the fault is in a delay slot, the branch before it is
executed twice; it leaves the same state the second time.

## Main definitions

* `ExcRegs`, `Machine.withExc`: a machine with other registers of exceptions and undefined words.
* `AtInstruction`: the states an instruction is executed in.
* `Supplies`: the special purpose registers after the handler.
* `Restarts`: the run through the handler leads to where the instruction leads.

## Main results

* `exec_withExc`: loads and stores that read something commute with a change of the registers of
  exceptions.
* `dispatch_taken`: a taken branch leaves the same state when it is executed again.
* `faults_restart_iff`: faults are precise, and a data TLB miss is restartable unless the
  instruction reads nothing.
-/

namespace WirePatch

/-! ### Registers of exceptions -/

/-- The delay-slot bit and the registers an exception entry writes. -/
structure ExcRegs where
  dsx : Bool
  esr : U32
  epcr : U32
  eear : U32

/-- The registers with other registers of exceptions. -/
def CPU.withExc (cpu : CPU) (r : ExcRegs) : CPU :=
  { cpu with
    sr := BitMask.assign cpu.sr sprSrDsx r.dsx
    esr := r.esr
    epcr := r.epcr
    eear := r.eear }

/-- The machine with other registers of exceptions and other undefined words. -/
def Machine.withExc (m : Machine) (r : ExcRegs) (words : ℕ → U32) : Machine :=
  { m.setCpu (m.cpu.withExc r) with junk := words }

/-- Two machines differ in the registers of exceptions and in the undefined words only. -/
def UpToExc (m m' : Machine) : Prop :=
  ∃ r words, m' = m.withExc r words

theorem UpToExc.of_junk (m : Machine) (words : ℕ → U32) : UpToExc m { m with junk := words } := by
  refine ⟨⟨m.cpu.sr.getLsbD 13, m.cpu.esr, m.cpu.epcr, m.cpu.eear⟩, words, ?_⟩
  have hsr : BitMask.assign m.cpu.sr sprSrDsx (m.cpu.sr.getLsbD 13) = m.cpu.sr :=
    (BitMask.assign_twoPow_eq_self_iff (i := 13) (by decide) _ _).mpr rfl
  rw [Machine.withExc, CPU.withExc, hsr]
  rfl

section WithExc

variable (m : Machine) (r : ExcRegs) (words : ℕ → U32)

theorem cpuIsSetSrFlag_withExc {flag : U32} (h : sprSrDsx &&& flag = 0) (cpu : CPU) :
    cpuIsSetSrFlag (cpu.withExc r) flag = cpuIsSetSrFlag cpu flag :=
  cpuIsSetSrFlag_congr (BitMask.assign_and_of_disjoint h ..)

theorem virtualToPhysicalD_withExc (ea : U32) :
    virtualToPhysicalD (m.withExc r words) ea = virtualToPhysicalD m ea :=
  congrArg (virtualToPhysical dtlb · m.spr ea) (cpuIsSetSrFlag_withExc r rfl m.cpu)

theorem translateI_withExc : (m.withExc r words).translateI = m.translateI :=
  congrArg (fun on => translate itlb on m.spr) (cpuIsSetSrFlag_withExc r rfl m.cpu)

theorem translateD_withExc : (m.withExc r words).translateD = m.translateD :=
  congrArg (fun on => translate dtlb on m.spr) (cpuIsSetSrFlag_withExc r rfl m.cpu)

theorem advance_withExc :
    (m.withExc r words).advance = m.advance.withExc r fun n => words (n + 2) := by
  rw [Machine.advance, Machine.advance, cpuAdvancePc_eq, cpuAdvancePc_eq]
  rfl

/-- An entry that reports an effective address writes all registers of exceptions. -/
theorem Exc.enter_withExc {e : Exc} (he : e.ea ≠ none) (cpu : CPU) :
    e.enter (cpu.withExc r) = e.enter cpu := by
  obtain ⟨ea, hea⟩ := Option.ne_none_iff_exists'.mp he
  have hsys : e ≠ .sys := by
    rintro rfl
    exact he rfl
  have hslot : isInDelaySlot (cpu.withExc r) = isInDelaySlot cpu := rfl
  have hassign (on : Bool) : BitMask.assign (cpu.withExc r).sr sprSrDsx on =
      BitMask.assign cpu.sr sprSrDsx on := BitMask.assign_assign ..
  have hsr : entrySr (cpu.withExc r).sr (isInDelaySlot cpu) =
      entrySr cpu.sr (isInDelaySlot cpu) := by
    rw [← merge_assign_dsx, hassign, merge_assign_dsx]
  rw [enter_eq, enter_eq, hslot, hsr, cpuIsSetSrFlag_withExc r rfl, entryEpcr, entryEpcr, entryEsr,
    entryEsr, if_neg hsys, if_neg hsys, if_neg hsys, if_neg hsys, hslot, hassign, hea]
  rfl

/-- Entering an exception leads to the same machine whatever the registers of exceptions are. -/
theorem setCpu_enter_withExc {e : Exc} (he : e.ea ≠ none) :
    UpToExc (m.setCpu (e.enter m.cpu))
      ((m.withExc r words).setCpu (e.enter (m.withExc r words).cpu)) := by
  have henter : (m.withExc r words).setCpu (e.enter (m.withExc r words).cpu) =
      { m.setCpu (e.enter m.cpu) with junk := words } :=
    congrArg (fun cpu => { m.setCpu cpu with junk := words }) (Exc.enter_withExc r he m.cpu)
  exact henter ▸ UpToExc.of_junk _ words

end WithExc

/-! ### Loads and stores -/

section Access

variable {m : Machine} (r : ExcRegs) (words : ℕ → U32) {address : U32}

theorem simLoadData_withExc (h : virtualToPhysicalD m address ≠ 1) :
    simLoadData (m.withExc r words) address =
      { simLoadData m address with
        machine := (simLoadData m address).machine.withExc r words } := by
  have hwalk := virtualToPhysicalD_withExc m r words address
  rcases status_cases (virtualToPhysicalD m address) with hp | hp | hp | hp
  · rw [simLoadData_of_two_lt hp, simLoadData_of_two_lt (hwalk ▸ hp), hwalk]
    rfl
  · rw [simLoadData_of_eq_zero hp, simLoadData_of_eq_zero (hwalk.trans hp)]
  · exact absurd hp h
  · rw [simLoadData_of_eq_two hp, simLoadData_of_eq_two (hwalk.trans hp)]

theorem simStoreData_withExc (value : U32) :
    UpToExc (simStoreData m address value).1
      (simStoreData (m.withExc r words) address value).1 := by
  have hwalk := virtualToPhysicalD_withExc m r words address
  by_cases hp : 2 < virtualToPhysicalD m address
  · refine ⟨r, words, ?_⟩
    rw [simStoreData_of_two_lt value hp, simStoreData_of_two_lt value (hwalk ▸ hp), hwalk,
      storeFlushed_eq, storeFlushed_eq]
    rfl
  · by_cases hone : virtualToPhysicalD m address = 1
    · rw [simStoreData_of_eq_one value hone, simStoreData_of_eq_one value (hwalk.trans hone)]
      exact setCpu_enter_withExc m r words (e := .dataTLBMiss address) (Option.some_ne_none _)
    · refine ⟨r, words, ?_⟩
      rw [simStoreData_of_status value hp hone,
        simStoreData_of_status value (hwalk ▸ hp) (hwalk ▸ hone)]

/-- A load leaves the same, unless it writes an undefined word to a register. -/
theorem loadWord_withExc {rD : Reg} (h : virtualToPhysicalD m address = 0 → rD = 0)
    (value : U32 → U32) :
    UpToExc (Insn.loadWord m address rD value)
      (Insn.loadWord (m.withExc r words) address rD value) := by
  have hwalk := virtualToPhysicalD_withExc m r words address
  rcases status_cases (virtualToPhysicalD m address) with hp | hp | hp | hp
  · rw [Insn.loadWord, Insn.loadWord, simLoadData_withExc r words (by rw [ne_eq]; bv_omega),
      simLoadData_of_two_lt hp]
    exact ⟨r, words, rfl⟩
  · refine ⟨r, words, ?_⟩
    rw [loadWord_of_zero hp, loadWord_of_zero (hwalk.trans hp)]
    obtain rfl := h hp
    rfl
  · rw [Insn.loadWord, Insn.loadWord, simLoadData_of_eq_one hp,
      simLoadData_of_eq_one (hwalk.trans hp)]
    exact setCpu_enter_withExc m r words (e := .dataTLBMiss address) (Option.some_ne_none _)
  · rw [Insn.loadWord, Insn.loadWord, simLoadData_of_eq_two hp,
      simLoadData_of_eq_two (hwalk.trans hp)]
    exact ⟨r, words, rfl⟩

/-- A store of a part of a word leaves the same: a word that is not read is not stored either. -/
theorem updateWord_withExc (rB : Reg) (insert : U32 → U32 → U32) :
    UpToExc (Insn.updateWord m address rB insert)
      (Insn.updateWord (m.withExc r words) address rB insert) := by
  have hwalk := virtualToPhysicalD_withExc m r words address
  rcases status_cases (virtualToPhysicalD m address) with hp | hp | hp | hp
  · rw [Insn.updateWord, Insn.updateWord, simLoadData_withExc r words (by rw [ne_eq]; bv_omega),
      simLoadData_of_two_lt hp]
    exact simStoreData_withExc r words _
  · have hstore (n : Machine) (value : U32) (hn : virtualToPhysicalD n address = 0) :
        simStoreData n address value = (n, 0) := by
      rw [simStoreData_of_status value (by rw [hn]; decide) (by rw [hn]; decide), hn]
    rw [Insn.updateWord, Insn.updateWord, simLoadData_of_eq_zero hp,
      simLoadData_of_eq_zero (hwalk.trans hp)]
    simp only [if_true, hstore m _ hp, hstore (m.withExc r words) _ (hwalk.trans hp)]
    exact ⟨r, words, rfl⟩
  · rw [Insn.updateWord, Insn.updateWord, simLoadData_of_eq_one hp,
      simLoadData_of_eq_one (hwalk.trans hp)]
    exact setCpu_enter_withExc m r words (e := .dataTLBMiss address) (Option.some_ne_none _)
  · rw [Insn.updateWord, Insn.updateWord, simLoadData_of_eq_two hp,
      simLoadData_of_eq_two (hwalk.trans hp)]
    exact ⟨r, words, rfl⟩

end Access

/-- Loads and stores that read something commute with a change of the registers of exceptions. -/
theorem exec_withExc (op : MemOp) {m : Machine} {cont : Control} (h : ¬ op.ReadsNothing m cont)
    (r : ExcRegs) (words : ℕ → U32) :
    UpToExc (op.exec m cont) (op.exec (m.withExc r words) cont) := by
  have hwalk := virtualToPhysicalD_withExc m r words (calcEa m.cpu cont)
  have hentry {e : Exc} (he : e.ea ≠ none) := setCpu_enter_withExc m r words he
  have haligned (mask : U32) {rest rest' : Machine}
      (hrest : calcEa m.cpu cont &&& mask = 0 → UpToExc rest rest') :
      UpToExc
        (if calcEa m.cpu cont &&& mask ≠ 0 then
          m.setCpu (alignmentException m.cpu (calcEa m.cpu cont)) else rest)
        (if calcEa m.cpu cont &&& mask ≠ 0 then (m.withExc r words).setCpu
          (alignmentException (m.withExc r words).cpu (calcEa m.cpu cont)) else rest') := by
    split_ifs with halign
    · exact hentry (e := .alignment _) (Option.some_ne_none _)
    · exact hrest (not_not.mp halign)
  have hbyte {direct direct' rest rest' : Machine} (hdirect : UpToExc direct direct')
      (hrest : virtualToPhysicalD m (calcEa m.cpu cont) ≠ 1 → UpToExc rest rest') :
      UpToExc
        (if virtualToPhysicalD m (calcEa m.cpu cont) = 1 then
            m.setCpu (dataTLBMiss m.cpu (calcEa m.cpu cont))
          else if virtualToPhysicalD m (calcEa m.cpu cont) >>> 27 ≠ 0 then direct else rest)
        (if virtualToPhysicalD (m.withExc r words) (calcEa m.cpu cont) = 1 then
            (m.withExc r words).setCpu (dataTLBMiss (m.withExc r words).cpu (calcEa m.cpu cont))
          else if virtualToPhysicalD (m.withExc r words) (calcEa m.cpu cont) >>> 27 ≠ 0 then
            direct'
          else rest') := by
    rw [hwalk]
    split_ifs with hmiss
    · exact hentry (e := .dataTLBMiss _) (Option.some_ne_none _)
    · exact hdirect
    · exact hrest hmiss
  have hload (ext : BitVec 8 → U32) : UpToExc
      (Insn.loadByte ext m (virtualToPhysicalD m (calcEa m.cpu cont)) cont.rD)
      (Insn.loadByte ext (m.withExc r words)
        (virtualToPhysicalD (m.withExc r words) (calcEa m.cpu cont)) cont.rD) := by
    rw [hwalk]
    exact ⟨r, words, rfl⟩
  have hstore : UpToExc
      (Insn.storeByte m (virtualToPhysicalD m (calcEa m.cpu cont)) (m.cpu.gpr cont.rB))
      (Insn.storeByte (m.withExc r words)
        (virtualToPhysicalD (m.withExc r words) (calcEa m.cpu cont)) (m.cpu.gpr cont.rB)) := by
    rw [hwalk]
    exact ⟨r, words, rfl⟩
  -- a load of the word at physical address 0 has register 0 as its destination
  have hzero (hloads : op.isStore = false) (halign : (calcEa m.cpu cont).toNat % op.bytes = 0)
      (hmiss : op.bytes = 1 → virtualToPhysicalD m (calcEa m.cpu cont) ≠ 1)
      (hp : virtualToPhysicalD m (calcEa m.cpu cont &&& ~~~0x3) = 0) : cont.rD = 0 := by
    obtain ⟨p, htr, hp⟩ := exists_of_walk_aligned hp
    rw [walk_of_translate htr] at hmiss
    exact not_not.mp fun hrD => h ⟨hloads, hrD, halign, p, htr, hp, hmiss⟩
  have hword (halign : calcEa m.cpu cont &&& 0x3 = 0)
      (hp : virtualToPhysicalD m (calcEa m.cpu cont) = 0) :
      virtualToPhysicalD m (calcEa m.cpu cont &&& ~~~0x3) = 0 := by
    have hself := aligned_or_low (calcEa m.cpu cont)
    rw [halign] at hself
    rw [BitVec.or_zero.symm.trans hself, hp]
  cases op with
  | lwz =>
    exact haligned 0x3 fun ha => loadWord_withExc r words (fun hp =>
      hzero rfl ((BitMask.low_eq_zero_iff 2 rfl).mp ha) (fun h1 => absurd h1 (by decide))
        (hword ha hp)) _
  | lws =>
    exact haligned 0x3 fun ha => loadWord_withExc r words (fun hp =>
      hzero rfl ((BitMask.low_eq_zero_iff 2 rfl).mp ha) (fun h1 => absurd h1 (by decide))
        (hword ha hp)) _
  | lhz =>
    exact haligned 0x1 fun ha => loadWord_withExc r words
      (hzero rfl ((BitMask.low_eq_zero_iff 1 rfl).mp ha) fun h1 => absurd h1 (by decide)) _
  | lhs =>
    exact haligned 0x1 fun ha => loadWord_withExc r words
      (hzero rfl ((BitMask.low_eq_zero_iff 1 rfl).mp ha) fun h1 => absurd h1 (by decide)) _
  | lbz =>
    exact hbyte (hload _) fun hmiss => loadWord_withExc r words
      (hzero rfl (Nat.mod_one _) fun _ => hmiss) _
  | lbs =>
    exact hbyte (hload _) fun hmiss => loadWord_withExc r words
      (hzero rfl (Nat.mod_one _) fun _ => hmiss) _
  | sw => exact haligned 0x3 fun _ => simStoreData_withExc r words _
  | sh => exact haligned 0x1 fun _ => updateWord_withExc r words ..
  | sb => exact hbyte hstore fun _ => updateWord_withExc r words ..

/-! ### Steps -/

/-- A step executes a word when its program counter translates above the status codes to a word
that is not the marker of a failed fetch. -/
theorem executedInst_eq_some_iff {m : Machine} {inst : U32} :
    executedInst m = some inst ↔
      inst ≠ fetchMarker ∧ ∃ p, m.translateI m.cpu.pc = some p ∧ 2 < p ∧ m.word p = inst := by
  have hwalk := virtualToPhysicalI_eq m m.cpu.pc
  constructor
  · intro h
    have hinst : (fetch m).2 ≠ fetchMarker ∧ (fetch m).2 = inst := by
      rw [executedInst] at h
      split_ifs at h with hmarker
      exact ⟨hmarker, Option.some.inj h⟩
    obtain ⟨hne, rfl⟩ := hinst
    refine ⟨hne, ?_⟩
    rcases status_cases (virtualToPhysicalI m m.cpu.pc) with hp | hp | hp | hp
    · cases htr : m.translateI m.cpu.pc with
      | none =>
        rw [hwalk, htr] at hp
        exact absurd hp (by decide)
      | some p =>
        rw [htr, Option.getD_some] at hwalk
        rw [fetch_of_two_lt hp, hwalk]
        exact ⟨p, rfl, hwalk ▸ hp, rfl⟩
    · exact absurd (congrArg Prod.snd (fetch_of_eq_zero hp)) hne
    · exact absurd (congrArg Prod.snd (fetch_of_eq_one hp)) hne
    · exact absurd (congrArg Prod.snd (fetch_of_eq_two hp)) hne
  · rintro ⟨hne, p, htr, hp, rfl⟩
    rw [htr, Option.getD_some] at hwalk
    rw [executedInst, fetch_of_two_lt (hwalk.symm ▸ hp), hwalk, if_neg hne]

/-- The next step executes a load that reads nothing. -/
def loadsNothing (m : Machine) : Prop :=
  ∃ i : MemInsn, executedInst m = some i.inst ∧ i.op.ReadsNothing m (decode i.inst)

theorem executedInst_withExc {m : Machine} {inst : U32} (h : executedInst m = some inst)
    (r : ExcRegs) (words : ℕ → U32) : executedInst (m.withExc r words) = some inst := by
  rw [executedInst_eq_some_iff] at h ⊢
  rw [translateI_withExc]
  exact h

/-- Neither the instruction nor whether it reads something depends on the undefined words. -/
theorem executedInst_junk {m : Machine} {inst : U32} (h : executedInst m = some inst)
    (words : ℕ → U32) : executedInst { m with junk := words } = some inst :=
  executedInst_eq_some_iff.mpr ((executedInst_eq_some_iff (m := m)).mp h)

theorem loadsNothing_of_junk {m : Machine} (words : ℕ → U32)
    (h : loadsNothing { m with junk := words }) : loadsNothing m := by
  obtain ⟨i, hexec, hreads⟩ := h
  exact ⟨i, executedInst_junk hexec m.junk, hreads⟩

theorem readsNothing_withExc {op : MemOp} {m : Machine} {cont : Control}
    (h : op.ReadsNothing m cont) (r : ExcRegs) (words : ℕ → U32) :
    op.ReadsNothing (m.withExc r words) cont := by
  rw [MemOp.ReadsNothing, translateD_withExc]
  exact h

theorem cpuExecInst_memInsn {m : Machine} {i : MemInsn} (h : executedInst m = some i.inst) :
    cpuExecInst m = some (i.op.exec m (decode i.inst)).advance := by
  rw [cpuExecInst_of_executed h, execute, i.opcode_inst, dispatch_memOp, Option.map_some]

/-- A step that executes a load or store that reads something leads to the same machine, up to the
registers of exceptions, whatever these registers are. -/
theorem cpuExecInst_withExc {m : Machine} {i : MemInsn} (h : executedInst m = some i.inst)
    (hreads : ¬ loadsNothing m) (r : ExcRegs) (words : ℕ → U32) :
    ∃ d d', cpuExecInst m = some d ∧ cpuExecInst (m.withExc r words) = some d' ∧ UpToExc d d' := by
  obtain ⟨r', words', hr'⟩ := exec_withExc i.op (fun hreads' => hreads ⟨i, h, hreads'⟩) r words
  exact ⟨_, _, cpuExecInst_memInsn h, cpuExecInst_memInsn (executedInst_withExc h r words), r', _,
    (congrArg Machine.advance hr').trans (advance_withExc ..)⟩

/-- A step that executes a load that reads nothing leaves the value of its undefined word. -/
theorem gpr_of_readsNothing {m d : Machine} {i : MemInsn} (h : executedInst m = some i.inst)
    (hreads : i.op.ReadsNothing m (decode i.inst)) (hd : cpuExecInst m = some d) :
    d.cpu.gpr (decode i.inst).rD =
      i.op.fromWord (calcEa m.cpu (decode i.inst)) (m.junk 0) := by
  obtain rfl := Option.some.inj ((cpuExecInst_memInsn h).symm.trans hd)
  rw [exec_of_readsNothing hreads, Machine.advance_cpu, cpuAdvancePc_eq]
  exact (setReg_self ..).trans (if_neg hreads.2.1)

/-! ### The handler -/

/-- The handler supplies the translation of a data address and removes no other translation. -/
structure Supplies (spr spr' : U32 → U32) (ea : U32) : Prop where
  supplied : translate dtlb true spr' ea ≠ none
  data : ∀ a p, translate dtlb true spr a = some p → translate dtlb true spr' a = some p
  inst : ∀ a p, translate itlb true spr a = some p → translate itlb true spr' a = some p

/-- A word that is executed is executed after the handler, in every machine with the same memory
and the same program counter. -/
theorem Supplies.executedInst {m n : Machine} {ea inst : U32} (hs : Supplies m.spr n.spr ea)
    (hmem : n.mem = m.mem) (hpc : n.cpu.pc = m.cpu.pc)
    (hime : cpuIsSetSrFlag n.cpu sprSrIme = cpuIsSetSrFlag m.cpu sprSrIme)
    (h : executedInst m = some inst) : executedInst n = some inst := by
  obtain ⟨hne, p, htr, hp, hword⟩ := executedInst_eq_some_iff.mp h
  refine executedInst_eq_some_iff.mpr ⟨hne, p, ?_, hp, ?_⟩
  · rw [Machine.translateI] at htr ⊢
    rw [hpc, hime]
    cases himm : cpuIsSetSrFlag m.cpu sprSrIme with
    | false =>
      rw [himm] at htr
      exact htr
    | true =>
      rw [himm] at htr
      exact hs.inst _ _ htr
  · rw [← hword, Machine.word, Machine.word, hmem]

/-! ### A branch that is executed again -/

/-- A taken branch writes the same registers and the same target again when it is executed on the
registers it wrote, unless it is `l.jalr` with the link register as its source. -/
theorem dispatch_taken {op : U32} {m : Machine} {cont : Control}
    (ht : isTaken op m.cpu cont = true) (hlr : op = opJalr → cont.rB ≠ ptLr) :
    ∃ gpr target,
      dispatch op m cont = some (m.setCpu { m.cpu with gpr := gpr, branchPc := target }) ∧
      ∀ n : Machine, n.cpu.gpr = gpr → n.cpu.pc = m.cpu.pc →
        cpuIsSetSrFlag n.cpu sprSrF = cpuIsSetSrFlag m.cpu sprSrF →
        dispatch op n cont = some (n.setCpu { n.cpu with branchPc := target }) := by
  refine ⟨linkedGpr op m.cpu, _, dispatch_of_isTaken ht, fun n hgpr hpc hflag => ?_⟩
  have hsource (hreg : op = opJalr ∨ op = opJr) : n.cpu.gpr cont.rB = m.cpu.gpr cont.rB := by
    rw [hgpr, linkedGpr]
    split_ifs with hlink
    · -- of the jumps to a register only `l.jalr` writes the link register
      have hjalr : op = opJalr := by
        rcases hreg with h | rfl
        · exact h
        · exact absurd hlink (by decide)
      exact Function.update_of_ne (hlr hjalr) ..
    · rfl
  -- a link to `pc + 8` is in the link register already
  have hlink : linkedGpr op n.cpu = n.cpu.gpr := by
    rw [linkedGpr, hpc, hgpr, linkedGpr]
    split_ifs
    · exact Function.update_idem ..
    · rfl
  have htarget : branchTarget n.cpu cont = branchTarget m.cpu cont := by
    rw [branchTarget, branchTarget, hpc]
  rw [dispatch_of_isTaken ((isTaken_congr hflag hsource).trans ht), hlink, htarget]
  split_ifs with hreg
  · rw [hsource hreg]
  · rfl

/-! ### The run through the handler -/

/-- What the entry of an exception and `l.rfe` leave in the registers of exceptions. -/
def Exc.leaves (e : Exc) (cpu : CPU) : ExcRegs where
  dsx := isInDelaySlot cpu
  esr := e.entryEsr cpu
  epcr := e.entryEpcr cpu
  eear := e.ea.getD cpu.eear

/-- An `l.rfe` in the entry state of a handler leads to the address in EPCR, with the registers
the instruction at fault started from. -/
theorem execute_rfe {m : Machine} {e : Exc} (hb : m.cpu.branchPc = noBranch) (he : e ≠ .sys)
    (spr' : U32 → U32) (cont : Control) :
    ∃ words, execute opRfe { (m.setCpu (e.enter m.cpu)).advance with spr := spr' } cont =
      some (({ m with spr := spr' }.withExc (e.leaves m.cpu) words).goto (e.entryEpcr m.cpu)) := by
  have hdispatch (n : Machine) : dispatch opRfe n cont = some (n.setCpu (Insn.rfe n.cpu cont)) :=
    rfl
  refine ⟨fun n => m.junk (n + 4), ?_⟩
  rw [execute, hdispatch, Option.map_some]
  refine congrArg some (Machine.ext (CPU.ext ?_ ?_ ?_ ?_ ?_ ?_ ?_ ?_ ?_ ?_ ?_) rfl rfl rfl rfl)
  all_goals simp only [Machine.advance, Machine.goto, Machine.withExc, CPU.withExc, Exc.leaves,
    Insn.rfe, cpuAdvancePc_eq, Machine.setCpu_cpu, Exc.enter_eq, hb, if_true]
  exact if_neg he

/-- The branch before a delay slot, executed again after the handler, leads to the delay slot with
the registers of exceptions unchanged. -/
theorem branch_again {b m : Machine} {inst ea : U32} {spr' : U32 → U32}
    (hnpc : b.cpu.npc = b.cpu.pc + 4) (hinst : executedInst b = some inst)
    (htaken : isTaken (opcode inst) b.cpu (decode inst) = true)
    (hlr : opcode inst = opJalr → (decode inst).rB ≠ ptLr) (hstep : cpuExecInst b = some m)
    (hs : Supplies m.spr spr' ea) (r : ExcRegs) (words : ℕ → U32) :
    cpuExecInst (({ m with spr := spr' }.withExc r words).goto (m.cpu.pc - 4)) =
      some ({ m with spr := spr' }.withExc r fun n => words (n + 2)) := by
  obtain ⟨gpr, target, hdispatch, hagain⟩ := dispatch_taken htaken hlr
  rw [cpuExecInst_of_executed hinst, execute, hdispatch, Option.map_some, Machine.advance,
    cpuAdvancePc_eq] at hstep
  have hm := Option.some.inj hstep
  have hcpu : m.cpu =
      { b.cpu with
        gpr := gpr
        pc := b.cpu.npc
        npc := if target = noBranch then b.cpu.npc + 4 else target
        branchPc := noBranch } := congrArg Machine.cpu hm.symm
  have hspr : m.spr = b.spr := by
    rw [← hm]
    rfl
  have hmem : m.mem = b.mem := by
    rw [← hm]
    rfl
  have hpc : m.cpu.pc - 4 = b.cpu.pc := by
    rw [hcpu, hnpc]
    exact add_sub_cancel_right _ _
  have hflag {flag : U32} (hdsx : sprSrDsx &&& flag = 0) :
      cpuIsSetSrFlag (m.cpu.withExc r) flag = cpuIsSetSrFlag b.cpu flag := by
    rw [cpuIsSetSrFlag_withExc r hdsx, hcpu]
    rfl
  let n := ({ m with spr := spr' }.withExc r words).goto (m.cpu.pc - 4)
  have hexec : executedInst n = some inst :=
    Supplies.executedInst (n := n) (hspr ▸ hs) hmem hpc (hflag rfl) hinst
  have hbranch := hagain n (congrArg CPU.gpr hcpu) hpc (hflag rfl)
  change cpuExecInst n = _
  rw [cpuExecInst_of_executed hexec, execute, hbranch, Option.map_some, Machine.advance,
    cpuAdvancePc_eq]
  -- the second execution leaves the program counter and the target of the first
  have hslot : m.cpu.pc - 4 + 4 = m.cpu.pc := sub_add_cancel _ _
  refine congrArg some (Machine.ext (CPU.ext rfl ?_ ?_ rfl rfl rfl ?_ rfl rfl rfl rfl)
    rfl rfl rfl rfl)
  · exact hslot
  · change (if target = noBranch then m.cpu.pc - 4 + 4 + 4 else target) = m.cpu.npc
    rw [hslot, hcpu]
  · exact (congrArg CPU.branchPc hcpu).symm

/-! ### Precise and restartable faults -/

/-- The states an instruction is executed in: in straight-line code, or behind a taken branch that
is not in a delay slot itself and is no `l.jalr` with the link register as its source. -/
inductive AtInstruction (m : Machine) : Prop
  | straight : m.cpu.npc = m.cpu.pc + 4 → m.cpu.branchPc = noBranch → AtInstruction m
  | delaySlot (b : Machine) (inst : U32) : b.cpu.npc = b.cpu.pc + 4 →
      executedInst b = some inst → isTaken (opcode inst) b.cpu (decode inst) = true →
      (opcode inst = opJalr → (decode inst).rB ≠ ptLr) → cpuExecInst b = some m →
      AtInstruction m

theorem AtInstruction.branchPc {m : Machine} (h : AtInstruction m) :
    m.cpu.branchPc = noBranch := by
  cases h with
  | straight _ hb => exact hb
  | delaySlot _ _ _ _ _ _ hstep => exact branchPc_of_step hstep

/-- The execution after the `l.rfe` of the handler until the instruction at fault is behind: the
branch is executed first when the fault was in a delay slot. -/
def resume (delaySlot : Bool) (m : Machine) : Option Machine :=
  if delaySlot then (cpuExecInst m).bind cpuExecInst else cpuExecInst m

/-- Two machines have the same general purpose registers, accumulator, memory and program counter,
and the same supervision register up to the delay-slot bit. -/
structure SameOutcome (m m' : Machine) : Prop where
  gpr : m'.cpu.gpr = m.cpu.gpr
  machi : m'.cpu.machi = m.cpu.machi
  maclo : m'.cpu.maclo = m.cpu.maclo
  mem : m'.mem = m.mem
  pc : m'.cpu.pc = m.cpu.pc
  npc : m'.cpu.npc = m.cpu.npc
  sr : m'.cpu.sr &&& ~~~sprSrDsx = m.cpu.sr &&& ~~~sprSrDsx

theorem UpToExc.sameOutcome {m m' : Machine} (h : UpToExc m m') : SameOutcome m m' := by
  obtain ⟨r, words, rfl⟩ := h
  exact ⟨rfl, rfl, rfl, rfl, rfl, rfl, BitMask.assign_and_of_disjoint rfl ..⟩

/-- After the handler of a fault has supplied a translation, `l.rfe` and the branch, if the fault
was in a delay slot, lead back to the instruction at fault. -/
theorem back_at_fault {m : Machine} (hm : AtInstruction m) {e : Exc} (he : e ≠ .sys)
    {spr' : U32 → U32} {ea : U32} (hs : Supplies m.spr spr' ea) (cont : Control) :
    ∃ r words, execute opRfe { (m.setCpu (e.enter m.cpu)).advance with spr := spr' } cont = some r ∧
      resume (isInDelaySlot m.cpu) r =
        cpuExecInst ({ m with spr := spr' }.withExc (e.leaves m.cpu) words) := by
  obtain ⟨words, hrfe⟩ := execute_rfe hm.branchPc he spr' cont
  rw [Exc.entryEpcr, if_neg he] at hrfe
  cases hslot : isInDelaySlot m.cpu with
  | false =>
    rw [hslot] at hrfe
    have hself := Machine.goto_self (m := { m with spr := spr' }.withExc (e.leaves m.cpu) words)
      (isInDelaySlot_eq_false.mp hslot)
    exact ⟨_, words, hrfe, congrArg cpuExecInst hself⟩
  | true =>
    rw [hslot] at hrfe
    cases hm with
    | straight hnpc => exact absurd hnpc (isInDelaySlot_eq_true.mp hslot)
    | delaySlot b inst hnpc hinst htaken hlr hstep =>
      refine ⟨_, fun n => words (n + 2), hrfe, ?_⟩
      change (cpuExecInst _).bind cpuExecInst = _
      rw [if_pos rfl, branch_again hnpc hinst htaken hlr hstep hs (e.leaves m.cpu) words,
        Option.bind_some]

/-- The run through the handler of a fault leads to where the instruction at fault leads when the
special purpose registers are those the handler leaves, whatever undefined words this execution of
the instruction meets. -/
def Restarts (m : Machine) (spr' : U32 → U32) (cont : Control) : Prop :=
  ∀ words, ∃ h r d r', cpuExecInst m = some h ∧ execute opRfe { h with spr := spr' } cont = some r ∧
    cpuExecInst { m with spr := spr', junk := words } = some d ∧
    resume (isInDelaySlot m.cpu) r = some r' ∧ SameOutcome d r'

/-- A fault is precise. A data TLB miss is restartable exactly when the instruction at fault is no
load that reads nothing: when the translation is supplied and `l.rfe` is executed in the entry
state of the handler, the execution goes on to where the instruction leads with the translation
present. -/
theorem faults_restart_iff {m : Machine} (hm : AtInstruction m) :
    (∀ e, Faults m e → ∃ h, cpuExecInst m = some h ∧ Precise m h) ∧
      ∀ ea, Faults m (.dataTLBMiss ea) → ∀ spr', Supplies m.spr spr' ea → ∀ cont,
        (Restarts m spr' cont ↔ ¬ loadsNothing { m with spr := spr' }) := by
  refine ⟨fun e h => precise_of_faults hm.branchPc h, fun ea hfault spr' hs cont => ?_⟩
  have hstep := cpuExecInst_of_faults hfault
  obtain ⟨r, words', hrfe, hback⟩ := back_at_fault hm (e := .dataTLBMiss ea) (by simp) hs cont
  constructor
  · rintro hrestarts ⟨i, hexec, hreads⟩
    -- the direct execution meets a word that the other one did not
    obtain ⟨w, hw⟩ := i.op.exists_fromWord_ne hreads.2.2.1
      (i.op.fromWord (calcEa m.cpu (decode i.inst)) (words' 0))
    obtain ⟨h, r₂, d, r', hh, hr₂, hd, hr', hsame⟩ := hrestarts fun _ => w
    obtain rfl := Option.some.inj (hstep.symm.trans hh)
    obtain rfl := Option.some.inj (hrfe.symm.trans hr₂)
    have hthere := gpr_of_readsNothing (executedInst_withExc hexec _ words')
      (readsNothing_withExc hreads _ words') (hback.symm.trans hr')
    have hhere := gpr_of_readsNothing (m := { m with spr := spr', junk := fun _ => w })
      (executedInst_junk hexec _) hreads hd
    rw [hsame.gpr, hhere] at hthere
    exact hw hthere
  · intro hreads words
    cases hfault with
    | access i hinst hmiss =>
      have hexec : executedInst { m with spr := spr', junk := words } = some i.inst :=
        Supplies.executedInst (n := { m with spr := spr', junk := words }) hs rfl rfl rfl hinst
      obtain ⟨d, r', hd, hr', hsame⟩ := cpuExecInst_withExc hexec
        (fun hreads' => hreads (loadsNothing_of_junk words hreads'))
        ((Exc.dataTLBMiss ea).leaves m.cpu) words'
      exact ⟨_, r, d, r', hstep, hrfe, hd, hback.trans hr', hsame.sameOutcome⟩

/-- A machine with data translation enabled, empty translation buffers and, in turn, `l.j 0x40` and
`l.lwz r3,0x100(r0)` in memory. -/
def slotMachine (pc npc : U32) : Machine :=
  { (default : Machine) with
    cpu := { (default : CPU) with pc := pc, npc := npc, sr := 0x21, branchPc := noBranch }
    mem := fun a => ByteMemory.byteOf 4 (if a &&& 4 = 0 then 0x10#32 else 0x84600100#32)
      (a &&& 3).toNat }

/-- The special purpose registers with page 0 mapped to 0x4000. -/
def mappedSprs (n : U32) : U32 :=
  if n = dtlb.mrBase 0 then 1 else if n = dtlb.trBase 0 then 0x4000 else 0

/-- From empty translation buffers a handler removes nothing. -/
theorem supplies_of_empty {spr' : U32 → U32} {ea : U32} (h : translate dtlb true spr' ea ≠ none) :
    Supplies (fun _ => 0) spr' ea := by
  have hempty (regs : TlbRegs) (a : U32) : translate regs true (fun _ => 0) a = none := by
    rw [translate, if_pos rfl, if_neg fun h => h.1 (show tlbEntryValid 0 = 0 from rfl)]
  refine ⟨h, fun a p h => ?_, fun a p h => ?_⟩
  · exact absurd ((hempty dtlb a).symm.trans h) (by simp)
  · exact absurd ((hempty itlb a).symm.trans h) (by simp)

theorem faults_restart_iff_slot :
    (∃ h, cpuExecInst (slotMachine 0x2004 0x2040) = some h ∧
        Precise (slotMachine 0x2004 0x2040) h) ∧
      (Restarts (slotMachine 0x2004 0x2040) mappedSprs (decode 0x24000000) ↔
        ¬ loadsNothing { slotMachine 0x2004 0x2040 with spr := mappedSprs }) := by
  have hm : AtInstruction (slotMachine 0x2004 0x2040) :=
    .delaySlot (slotMachine 0x2000 0x2004) 0x10 rfl rfl rfl (fun h => absurd h (by decide)) rfl
  have hfault : Faults (slotMachine 0x2004 0x2040) (.dataTLBMiss 0x100) :=
    .access ⟨0x84600100, .lwz, rfl⟩ rfl rfl
  exact ⟨(faults_restart_iff hm).1 _ hfault,
    (faults_restart_iff hm).2 _ hfault _ (supplies_of_empty (by decide)) (decode 0x24000000)⟩

/-! ### A load of the word at physical address 0 -/

/-- A machine with data translation enabled, empty translation buffers and `l.lwz r3,0(r0)`
everywhere. -/
def zeroLoadMachine : Machine :=
  .filled 0x84600000 { CPU.startAt 0x2000 with sr := 0x21 }

/-- The special purpose registers with page 0 mapped to physical page 0. -/
def zeroSprs (n : U32) : U32 :=
  if n = dtlb.mrBase 0 then 1 else 0

/-- The load misses, its page is mapped to physical page 0, and the two executions of the load
leave different words. -/
theorem not_restarts_zero : AtInstruction zeroLoadMachine ∧
    Faults zeroLoadMachine (.dataTLBMiss 0) ∧ Supplies zeroLoadMachine.spr zeroSprs 0 ∧
      ¬ Restarts zeroLoadMachine zeroSprs (decode 0x24000000) := by
  have hinst : executedInst zeroLoadMachine = some 0x84600000 := by decide +kernel
  refine ⟨.straight rfl rfl, .access ⟨0x84600000, .lwz, rfl⟩ hinst (by decide +kernel),
    supplies_of_empty (by decide), fun hrestarts => ?_⟩
  have hdirect : (cpuExecInst { zeroLoadMachine with spr := zeroSprs, junk := fun _ => 1 }).map
      (fun m => m.cpu.gpr 3) = some 1 := by
    decide +kernel
  have hhandled : ((cpuExecInst zeroLoadMachine).bind fun h =>
      (execute opRfe { h with spr := zeroSprs } (decode 0x24000000)).bind cpuExecInst).map
        (fun m => m.cpu.gpr 3) = some 0 := by
    decide +kernel
  obtain ⟨h, r, d, r', hh, hr, hd, hr', hsame⟩ := hrestarts fun _ => 1
  have hr'' : cpuExecInst r = some r' := hr'
  rw [hd, Option.map_some] at hdirect
  rw [hh, Option.bind_some, hr, Option.bind_some, hr'', Option.map_some, hsame.gpr, hdirect]
    at hhandled
  exact absurd (Option.some.inj hhandled) (by decide)

end WirePatch
