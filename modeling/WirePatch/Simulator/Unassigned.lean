import WirePatch.Simulator.Faults

/-!
# Loads that read nothing

A load of the simulator passes the address of a variable to `guestLoadD` (`mmu_support.c`, lines
199–217), which takes the physical addresses 0, 1 and 2 for status codes. For the word at address 0
it reports success and assigns nothing, and the load takes its value from the unassigned variable.

## Main definitions

* `MemOp.fromWord`: the value of a load, from the word it reads.
* `MemOp.ReadsNothing`: a load that leaves its variable unassigned.

## Main results

* `exec_of_readsNothing`: its destination receives the value of an undefined word.
* `MemOp.exists_fromWord_ne`: that value is not determined.
-/

namespace WirePatch

/-- The value of a load at an effective address, from the word it reads. -/
def MemOp.fromWord : MemOp → U32 → U32 → U32
  | lhz => Insn.lhzValue
  | lhs => Insn.lhsValue
  | lbz => Insn.lbzValue
  | lbs => Insn.lbsValue
  | lwz | lws | sw | sh | sb => fun _ value => value

/-- The access is a load, into a register other than register 0, of the word at physical address
0. A byte at physical address 1 is reported as a miss before its word is read. -/
def MemOp.ReadsNothing (op : MemOp) (m : Machine) (cont : Control) : Prop :=
  op.isStore = false ∧ cont.rD ≠ 0 ∧ (calcEa m.cpu cont).toNat % op.bytes = 0 ∧
    ∃ p, m.translateD (calcEa m.cpu cont) = some p ∧ p &&& ~~~0x3 = 0 ∧ (op.bytes = 1 → p ≠ 1)

section Access

variable {m : Machine} {address : U32}

/-- A word that is loaded from physical address 0 is undefined. -/
theorem loadWord_of_zero (h : virtualToPhysicalD m address = 0) (rD : Reg) (value : U32 → U32) :
    Insn.loadWord m address rD value = m.setCpu (cpuSetGpr m.cpu rD (value (m.junk 0))) := by
  rw [Insn.loadWord, simLoadData_of_eq_zero h]
  rfl

theorem walk_aligned {p : U32} (h : m.translateD address = some p) :
    virtualToPhysicalD m (address &&& ~~~0x3) = p &&& ~~~0x3 :=
  walk_of_translate (translate_aligned h)

/-- The word around an address lies at physical address 0 when the address lies in the word
there. -/
theorem exists_of_walk_aligned (h : virtualToPhysicalD m (address &&& ~~~0x3) = 0) :
    ∃ p, m.translateD address = some p ∧ p &&& ~~~0x3 = 0 := by
  cases htr : m.translateD address with
  | none =>
    rw [walk_of_translate_none (translateD_aligned_none htr)] at h
    exact absurd h (by decide)
  | some p => exact ⟨p, rfl, (walk_aligned htr).symm.trans h⟩

theorem aligned_or_low (a : U32) : a &&& ~~~0x3 ||| a &&& 0x3 = a := by
  rw [← BitVec.and_or_distrib_left]
  exact BitVec.and_allOnes

/-- An address in the word at 0 is below the devices. -/
theorem shift_of_aligned_zero {p : U32} (h : p &&& ~~~0x3 = 0) : p >>> 27 = 0 := by
  have hp := aligned_or_low p
  rw [h] at hp
  have hlow : p &&& 0x3 = p := BitVec.zero_or.symm.trans hp
  rw [← hlow, BitVec.ushiftRight_and_distrib]
  exact BitVec.and_zero

end Access

/-- A load that reads nothing leaves the value of an undefined word in its destination. -/
theorem exec_of_readsNothing {op : MemOp} {m : Machine} {cont : Control}
    (h : op.ReadsNothing m cont) :
    op.exec m cont = m.setCpu (cpuSetGpr m.cpu cont.rD
      (op.fromWord (calcEa m.cpu cont) (m.junk 0))) := by
  obtain ⟨hload, -, halign, p, htr, hzero, hmiss⟩ := h
  have hwalk := (walk_aligned htr).trans hzero
  have hhalf {value : U32 → U32 → U32} (heven : (calcEa m.cpu cont).toNat % 2 = 0) :
      Insn.loadHalfOf value m cont = m.setCpu
        (cpuSetGpr m.cpu cont.rD (value (calcEa m.cpu cont) (m.junk 0))) := by
    have hlow : calcEa m.cpu cont &&& 0x1 = 0 := (BitMask.low_eq_zero_iff 1 rfl).mpr heven
    simp only [Insn.loadHalfOf, hlow, ne_eq, not_true_eq_false, if_false]
    exact loadWord_of_zero hwalk ..
  have hbyte {ext : BitVec 8 → U32} {value : U32 → U32 → U32} (hp : p ≠ 1) :
      Insn.loadByteOf ext value m cont = m.setCpu
        (cpuSetGpr m.cpu cont.rD (value (calcEa m.cpu cont) (m.junk 0))) := by
    simp only [Insn.loadByteOf, walk_of_translate htr, if_neg hp, shift_of_aligned_zero hzero,
      ne_eq, not_true_eq_false, if_false]
    exact loadWord_of_zero hwalk ..
  have hword (hword : (calcEa m.cpu cont).toNat % 4 = 0) : Insn.lwz m cont = m.setCpu
      (cpuSetGpr m.cpu cont.rD (m.junk 0)) := by
    have hlow : calcEa m.cpu cont &&& 0x3 = 0 := (BitMask.low_eq_zero_iff 2 rfl).mpr hword
    have hself := aligned_or_low (calcEa m.cpu cont)
    rw [hlow] at hself
    rw [BitVec.or_zero.symm.trans hself] at hwalk
    simp only [Insn.lwz, hlow, ne_eq, not_true_eq_false, if_false]
    exact loadWord_of_zero hwalk ..
  cases op with
  | lwz => exact hword halign
  | lws => exact hword halign
  | lhz => exact hhalf halign
  | lhs => exact hhalf halign
  | lbz => exact hbyte (hmiss rfl)
  | lbs => exact hbyte (hmiss rfl)
  | sw => exact absurd hload (by decide)
  | sh => exact absurd hload (by decide)
  | sb => exact absurd hload (by decide)

/-- The value of a load takes more than one value. -/
theorem MemOp.exists_fromWord_ne (op : MemOp) {ea : U32} (halign : ea.toNat % op.bytes = 0)
    (v : U32) : ∃ w, op.fromWord ea w ≠ v := by
  -- a word of equal bytes is read as a half-word or a byte of these
  have hzero : (ByteMemory.read 4 (fun _ : U32 => (0 : BitVec 8)) (ea &&& ~~~0x3) : U32) = 0 := by
    simp only [ByteMemory.read]
    rfl
  have hones : (ByteMemory.read 4 (fun _ : U32 => (0xff : BitVec 8)) (ea &&& ~~~0x3) : U32) =
      0xffffffff := by
    simp only [ByteMemory.read]
    rfl
  have hne : op.fromWord ea 0 ≠ op.fromWord ea 0xffffffff := by
    rw [← hzero, ← hones]
    cases op with
    | lhz =>
      rw [fromWord, lhzValue_read rfl halign, lhzValue_read rfl halign]
      simp only [ByteMemory.read]
      decide
    | lhs =>
      rw [fromWord, lhsValue_read rfl halign, lhsValue_read rfl halign]
      simp only [ByteMemory.read]
      decide
    | lbz =>
      rw [fromWord, lbzValue_read _ rfl, lbzValue_read _ rfl]
      simp only [ByteMemory.read]
      decide
    | lbs =>
      rw [fromWord, lbsValue_read rfl, lbsValue_read rfl]
      simp only [ByteMemory.read]
      decide
    | lwz | lws | sw | sh | sb =>
      rw [hzero, hones]
      exact (by decide : (0 : U32) ≠ 0xffffffff)
  by_cases h : op.fromWord ea 0 = v
  · exact ⟨0xffffffff, fun h' => hne (h.trans h'.symm)⟩
  · exact ⟨0, h⟩

end WirePatch
