import WirePatch.Simulator.Step
import WirePatch.Simulator.SubWord

/-!
# Faults

The steps of the simulator that raise an alignment fault or a miss of a translation buffer. Every
instruction tests for its faults before it writes anything, so that such a step is the entry
routine of its exception and the advance of the program counter.

## Main definitions

* `accessFault`: the exception of a load or store.
* `Faults`: the exception of a step that faults.
* `Precise`: a step changes the program counter and the registers of exceptions only.

## Main results

* `cpuExecInst_of_faults`: a step that faults is the entry of its exception.
* `precise_of_faults`: a fault is precise.
-/

namespace WirePatch

/-! ### The faults of an access -/

/-- The address a missing translation is reported for: the word around a half-word, the address
itself for a byte or a word. -/
def MemOp.missEa (op : MemOp) (ea : U32) : U32 :=
  if op.bytes = 2 then ea &&& ~~~0x3 else ea

/-- The exception of an access: an address that is not a multiple of the width is reported first,
a missing translation second. -/
def accessFault (op : MemOp) (m : Machine) (cont : Control) : Option Exc :=
  let ea := calcEa m.cpu cont
  if ea.toNat % op.bytes ≠ 0 then some (.alignment ea)
  else if m.translateD ea = none then some (.dataTLBMiss (op.missEa ea))
  else none

section Access

variable {m : Machine} {ea : U32}

theorem walk_of_translate_none (h : m.translateD ea = none) : virtualToPhysicalD m ea = 1 := by
  rw [virtualToPhysicalD_eq, h, Option.getD_none]

/-- The word around an address without translation has none. -/
theorem translateD_aligned_none (h : m.translateD ea = none) :
    m.translateD (ea &&& ~~~0x3) = none := by
  have hpage : addressNoOffset ea = addressNoOffset (ea &&& ~~~0x3) := by
    rw [addressNoOffset, addressNoOffset, BitVec.and_assoc]
    rfl
  cases haligned : m.translateD (ea &&& ~~~0x3) with
  | none => rfl
  | some p => exact absurd (h.symm.trans (translate_of_same_page hpage haligned)) (by simp)

theorem loadWord_of_miss (h : m.translateD ea = none) (rD : Reg) (value : U32 → U32) :
    Insn.loadWord m ea rD value = m.setCpu (dataTLBMiss m.cpu ea) := by
  rw [Insn.loadWord, simLoadData_of_eq_one (walk_of_translate_none h)]
  rfl

theorem updateWord_of_miss (h : m.translateD ea = none) (rB : Reg) (insert : U32 → U32 → U32) :
    Insn.updateWord m ea rB insert = m.setCpu (dataTLBMiss m.cpu ea) := by
  rw [Insn.updateWord, simLoadData_of_eq_one (walk_of_translate_none h)]
  rfl

end Access

/-- What an access with an address that is not a multiple of `2 ^ k`, or without a translation,
does; `rest` is what it does when it does not fault. -/
theorem aligned_access {m rest : Machine} {cont : Control} {op : MemOp} {mask : U32} (k : ℕ)
    (hmask : mask.toNat = 2 ^ k - 1) (hbytes : op.bytes = 2 ^ k) {e : Exc}
    (h : accessFault op m cont = some e)
    (hrest : m.translateD (calcEa m.cpu cont) = none →
      rest = m.setCpu (dataTLBMiss m.cpu (op.missEa (calcEa m.cpu cont)))) :
    (if calcEa m.cpu cont &&& mask ≠ 0 then
        m.setCpu (alignmentException m.cpu (calcEa m.cpu cont)) else rest) =
      m.setCpu (e.enter m.cpu) := by
  simp only [accessFault, hbytes] at h
  have hlow := BitMask.low_eq_zero_iff (a := calcEa m.cpu cont) k hmask
  split_ifs at h with halign hmiss
  · obtain rfl := Option.some.inj h
    rw [if_pos (mt hlow.mp halign)]
    rfl
  · obtain rfl := Option.some.inj h
    rw [if_neg (not_not.mpr (hlow.mpr (not_not.mp halign))), hrest hmiss]
    rfl

/-- A byte access without a translation reports it. -/
theorem miss_of_byte {m : Machine} {cont : Control} {op : MemOp} (hbytes : op.bytes = 1) {e : Exc}
    (h : accessFault op m cont = some e) :
    m.translateD (calcEa m.cpu cont) = none ∧ e = .dataTLBMiss (calcEa m.cpu cont) := by
  simp only [accessFault, hbytes, Nat.mod_one, ne_eq, not_true_eq_false, if_false, MemOp.missEa,
    Nat.reduceEqDiff] at h
  split_ifs at h with hmiss
  exact ⟨hmiss, (Option.some.inj h).symm⟩

/-- An access that faults enters its exception and does nothing else. -/
theorem exec_of_accessFault {op : MemOp} {m : Machine} {cont : Control} {e : Exc}
    (h : accessFault op m cont = some e) : op.exec m cont = m.setCpu (e.enter m.cpu) := by
  have hword (hmiss : m.translateD (calcEa m.cpu cont) = none) := loadWord_of_miss hmiss cont.rD
  have hhalf (hmiss : m.translateD (calcEa m.cpu cont) = none) :=
    loadWord_of_miss (translateD_aligned_none hmiss) cont.rD
  have hbyte {op : MemOp} (hbytes : op.bytes = 1) (h : accessFault op m cont = some e)
      (rest : Machine) : (if virtualToPhysicalD m (calcEa m.cpu cont) = 1 then
        m.setCpu (dataTLBMiss m.cpu (calcEa m.cpu cont)) else rest) = m.setCpu (e.enter m.cpu) := by
    obtain ⟨hmiss, rfl⟩ := miss_of_byte hbytes h
    rw [if_pos (walk_of_translate_none hmiss)]
    rfl
  cases op with
  | lwz => exact aligned_access 2 rfl rfl h fun hmiss => hword hmiss _
  | lws => exact aligned_access 2 rfl rfl h fun hmiss => hword hmiss _
  | lhz => exact aligned_access 1 rfl rfl h fun hmiss => hhalf hmiss _
  | lhs => exact aligned_access 1 rfl rfl h fun hmiss => hhalf hmiss _
  | lbz => exact hbyte rfl h _
  | lbs => exact hbyte rfl h _
  | sw =>
    refine aligned_access 2 rfl rfl h fun hmiss => ?_
    rw [simStoreData_of_eq_one _ (walk_of_translate_none hmiss)]
    rfl
  | sh => exact aligned_access 1 rfl rfl h fun hmiss =>
      updateWord_of_miss (translateD_aligned_none hmiss) ..
  | sb => exact hbyte rfl h _

/-! ### The faults of a step -/

/-- The next step raises an exception: its fetch misses, it is a load or store that faults, or a
jump to a register that is not a multiple of 4. -/
inductive Faults (m : Machine) : Exc → Prop
  | fetch : m.translateI m.cpu.pc = none → Faults m (.instructionTLBMiss m.cpu.pc)
  | access (i : MemInsn) {e : Exc} : executedInst m = some i.inst →
      accessFault i.op m (decode i.inst) = some e → Faults m e
  | jump (inst : U32) : executedInst m = some inst →
      opcode inst = opJr ∨ opcode inst = opJalr →
      (m.cpu.gpr (decode inst).rB).toNat % 4 ≠ 0 →
      Faults m (.alignment (m.cpu.gpr (decode inst).rB))

/-- A fault reports an effective address. -/
theorem Faults.ea_ne_none {m : Machine} {e : Exc} (h : Faults m e) : e.ea ≠ none := by
  cases h with
  | fetch => rintro ⟨⟩
  | jump => rintro ⟨⟩
  | access i _ hfault =>
    simp only [accessFault] at hfault
    split_ifs at hfault <;> obtain rfl := Option.some.inj hfault <;> rintro ⟨⟩

/-- A step that faults is the entry of its exception. -/
theorem cpuExecInst_of_faults {m : Machine} {e : Exc} (h : Faults m e) :
    cpuExecInst m = some (m.setCpu (e.enter m.cpu)).advance := by
  cases h with
  | fetch hmiss =>
    have hwalk : virtualToPhysicalI m m.cpu.pc = 1 := by
      rw [virtualToPhysicalI_eq, hmiss, Option.getD_none]
    rw [cpuExecInst, fetch_of_eq_one hwalk]
    rfl
  | access i hinst hfault =>
    rw [cpuExecInst_of_executed hinst, execute, i.opcode_inst, dispatch_memOp,
      exec_of_accessFault hfault, Option.map_some]
  | jump inst hinst hop halign =>
    have hlow : m.cpu.gpr (decode inst).rB &&& 0x3 ≠ 0 :=
      mt (BitMask.low_eq_zero_iff 2 rfl).mp halign
    rw [cpuExecInst_of_executed hinst, execute]
    rcases hop with hop | hop <;> rw [hop]
    · have hjr : Insn.jr m.cpu (decode inst) =
          alignmentException m.cpu (m.cpu.gpr (decode inst).rB) := if_pos hlow
      exact congrArg (fun c => some (m.setCpu c).advance) hjr
    · have hjalr : Insn.jalr m.cpu (decode inst) =
          alignmentException m.cpu (m.cpu.gpr (decode inst).rB) := if_pos hlow
      exact congrArg (fun c => some (m.setCpu c).advance) hjalr

/-- A step changes the program counter, the supervision register and the registers of exceptions
only: no other register, no memory, and no register of the translation buffers. -/
def Precise (m m' : Machine) : Prop :=
  m' =
    { m with
      cpu :=
        { m.cpu with
          pc := m'.cpu.pc
          npc := m'.cpu.npc
          sr := m'.cpu.sr
          esr := m'.cpu.esr
          epcr := m'.cpu.epcr
          eear := m'.cpu.eear }
      junk := m'.junk }

/-- A fault is precise when no branch is pending. -/
theorem precise_of_faults {m : Machine} {e : Exc} (hb : m.cpu.branchPc = noBranch)
    (h : Faults m e) : ∃ m', cpuExecInst m = some m' ∧ Precise m m' := by
  refine ⟨_, cpuExecInst_of_faults h, ?_⟩
  refine Machine.ext ?_ rfl rfl rfl rfl
  rw [Machine.advance_cpu, cpuAdvancePc_eq, Machine.setCpu_cpu, Exc.enter_eq]
  exact CPU.ext rfl rfl rfl rfl rfl rfl hb.symm rfl rfl rfl rfl

end WirePatch
