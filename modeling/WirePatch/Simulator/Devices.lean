import WirePatch.Simulator.SubWord

/-!
# Accesses to devices

The data accesses that the loads and stores make in the device region, the physical addresses from
0x08000000 on. Words are accessed as they are, and bytes reach the region directly
(`simulator.c`, lines 1595–1613, 1639–1655 and 1772–1789). Half-words have no such case: they are
accessed through the word around them in the device region too, and a store reads this word first.

## Main definitions

* `MemOp.dir`, `MemOp.width`, `MemOp.extend`: the access an instruction names.
* `AccessesOwn`: an instruction makes this access to the region and no other.

## Main results

* `accessesOwn_iff`: it does exactly when it is no half-word instruction.
-/

namespace WirePatch

namespace MemOp

/-- The direction of an access. -/
def dir (op : MemOp) : Dir :=
  if op.isStore then .store else .load

/-- The width of an access. -/
def width : MemOp → Width
  | lwz | lws | sw => .word
  | lhz | lhs | sh => .half
  | lbz | lbs | sb => .byte

/-- A value that was read, extended as a load says. -/
def extend (op : MemOp) (value : U32) : U32 :=
  let value : BitVec (8 * op.bytes) := value.setWidth _
  if op.isSigned then value.signExtend 32 else value.zeroExtend 32

end MemOp

/-- An access in the device region. -/
def Access.inDevices (a : Access) : Bool := decide (0x08000000 ≤ a.addr)

/-- Between two states of a machine, an instruction made the access it names, to physical address
`p`, and no other access to the device region; a load put the value of this access in its
register. -/
def AccessesOwn (i : MemInsn) (p : U32) (m m' : Machine) : Prop :=
  ∃ (accesses : List Access) (value : U32), m'.log = accesses ++ m.log ∧
    accesses.filter Access.inDevices = [⟨i.op.dir, i.op.width, p, value⟩] ∧
    (i.op.isStore = false → m'.cpu.gpr = setReg m.cpu.gpr (decode i.inst).rD (i.op.extend value))

section Access

variable {m m' : Machine} {i : MemInsn} {cont : Control} {ea p : U32}

/-- An instruction all of whose accesses have another width makes no access of its own. -/
theorem not_accessesOwn {accesses : List Access} (hlog : m'.log = accesses ++ m.log)
    (hwidth : ∀ a ∈ accesses, a.width ≠ i.op.width) : ¬ AccessesOwn i p m m' := by
  rintro ⟨accesses', value, hlog', hfilter, -⟩
  obtain rfl : accesses' = accesses := List.append_cancel_right (hlog'.symm.trans hlog)
  have hmem : ⟨i.op.dir, i.op.width, p, value⟩ ∈ accesses'.filter Access.inDevices := by
    rw [hfilter]
    exact List.mem_cons_self ..
  exact hwidth _ (List.mem_of_mem_filter hmem) rfl

/-- An instruction that makes one access, its own. -/
theorem accessesOwn_of_log {value : U32} (hp : 0x08000000 ≤ p)
    (hlog : m'.log = ⟨i.op.dir, i.op.width, p, value⟩ :: m.log)
    (hload : i.op.isStore = false →
      m'.cpu.gpr = setReg m.cpu.gpr (decode i.inst).rD (i.op.extend value)) :
    AccessesOwn i p m m' := by
  have hin : Access.inDevices ⟨i.op.dir, i.op.width, p, value⟩ = true := decide_eq_true hp
  exact ⟨[⟨i.op.dir, i.op.width, p, value⟩], value, hlog,
    by rw [List.filter_cons_of_pos hin, List.filter_nil], hload⟩

theorem four_le_of_devices (hp : 0x08000000 ≤ p) : 4 ≤ p :=
  BitVec.le_trans (by decide) hp

/-- The test of the source for the device region. -/
theorem shift_ne_zero (hp : 0x08000000 ≤ p) : p >>> 27 ≠ 0 := by
  intro h
  have hshift := congrArg BitVec.toNat h
  rw [BitVec.toNat_ushiftRight, Nat.shiftRight_eq_div_pow] at hshift
  rw [BitVec.le_def] at hp
  change 134217728 ≤ p.toNat at hp
  change _ = 0 at hshift
  omega

/-! ### The accessors -/

theorem loadWord_devices (h : m.translateD ea = some p) (hp : 2 < p) (rD : Reg)
    (value : U32 → U32) :
    (Insn.loadWord m ea rD value).log = ⟨.load, .word, p, m.word p⟩ :: m.log ∧
      (Insn.loadWord m ea rD value).cpu.gpr = setReg m.cpu.gpr rD (value (m.word p)) := by
  have hwalk := walk_of_translate h
  have hload := simLoadData_of_two_lt (hwalk.symm ▸ hp)
  rw [hwalk] at hload
  rw [Insn.loadWord, hload]
  exact ⟨rfl, rfl⟩

theorem simStoreData_devices (h : m.translateD ea = some p) (hp : 2 < p) (value : U32) :
    (simStoreData m ea value).1.log = ⟨.store, .word, p, value⟩ :: m.log := by
  have hwalk := walk_of_translate h
  have hstore := simStoreData_of_two_lt value (hwalk.symm ▸ hp)
  rw [hwalk] at hstore
  rw [hstore, storeFlushed_eq]

/-- The word around a device address is read and stored. -/
theorem updateWord_devices (h : m.translateD ea = some p) (hp : 2 < p) (rB : Reg)
    (insert : U32 → U32 → U32) :
    ∃ value, (Insn.updateWord m ea rB insert).log =
      [⟨.store, .word, p, value⟩, ⟨.load, .word, p, m.word p⟩] ++ m.log := by
  have hwalk := walk_of_translate h
  have hload := simLoadData_of_two_lt (hwalk.symm ▸ hp)
  rw [hwalk] at hload
  rw [Insn.updateWord, hload, if_pos rfl]
  exact ⟨_, simStoreData_devices (m := m.record ⟨.load, .word, p, m.word p⟩) h hp _⟩

/-! ### The instructions -/

variable (h : m.translateD (calcEa m.cpu cont) = some p) (hp : 0x08000000 ≤ p)

include h hp

theorem lwz_devices (halign : (calcEa m.cpu cont).toNat % 4 = 0) :
    (Insn.lwz m cont).log = ⟨.load, .word, p, m.word p⟩ :: m.log ∧
      (Insn.lwz m cont).cpu.gpr = setReg m.cpu.gpr cont.rD (m.word p) := by
  have hlow : calcEa m.cpu cont &&& 0x3 = 0 := (BitMask.low_eq_zero_iff 2 rfl).mpr halign
  simp only [Insn.lwz, hlow, ne_eq, not_true_eq_false, if_false]
  exact loadWord_devices h (two_lt_of_four_le (four_le_of_devices hp)) cont.rD _

theorem sw_devices (halign : (calcEa m.cpu cont).toNat % 4 = 0) :
    (Insn.sw m cont).log = ⟨.store, .word, p, m.cpu.gpr cont.rB⟩ :: m.log := by
  have hlow : calcEa m.cpu cont &&& 0x3 = 0 := (BitMask.low_eq_zero_iff 2 rfl).mpr halign
  simp only [Insn.sw, hlow, ne_eq, not_true_eq_false, if_false]
  exact simStoreData_devices h (two_lt_of_four_le (four_le_of_devices hp)) _

theorem loadByteOf_devices (ext : BitVec 8 → U32) (value : U32 → U32 → U32) :
    (Insn.loadByteOf ext value m cont).log =
        ⟨.load, .byte, p, (m.mem p).zeroExtend 32⟩ :: m.log ∧
      (Insn.loadByteOf ext value m cont).cpu.gpr = setReg m.cpu.gpr cont.rD (ext (m.mem p)) := by
  simp only [Insn.loadByteOf, walk_of_translate h, if_neg (ne_one_of_four_le (four_le_of_devices hp)),
    if_pos (shift_ne_zero hp)]
  exact ⟨rfl, rfl⟩

theorem sb_devices :
    (Insn.sb m cont).log = ⟨.store, .byte, p, m.cpu.gpr cont.rB &&& 0xff⟩ :: m.log := by
  simp only [Insn.sb, walk_of_translate h, if_neg (ne_one_of_four_le (four_le_of_devices hp)),
    if_pos (shift_ne_zero hp)]
  rfl

/-- A half-word load reads the word around it. -/
theorem loadHalfOf_devices (halign : (calcEa m.cpu cont).toNat % 2 = 0)
    (value : U32 → U32 → U32) :
    ∃ q v, (Insn.loadHalfOf value m cont).log = [⟨.load, .word, q, v⟩] ++ m.log := by
  have hlow : calcEa m.cpu cont &&& 0x1 = 0 := (BitMask.low_eq_zero_iff 1 rfl).mpr halign
  have haligned := two_lt_of_four_le (aligned_four_le (four_le_of_devices hp))
  simp only [Insn.loadHalfOf, hlow, ne_eq, not_true_eq_false, if_false]
  exact ⟨_, _, (loadWord_devices (translate_aligned h) haligned cont.rD _).1⟩

/-- A half-word store reads and stores the word around it. -/
theorem sh_devices (halign : (calcEa m.cpu cont).toNat % 2 = 0) :
    ∃ q v v', (Insn.sh m cont).log =
      [⟨.store, .word, q, v⟩, ⟨.load, .word, q, v'⟩] ++ m.log := by
  have hlow : calcEa m.cpu cont &&& 0x1 = 0 := (BitMask.low_eq_zero_iff 1 rfl).mpr halign
  have haligned := two_lt_of_four_le (aligned_four_le (four_le_of_devices hp))
  simp only [Insn.sh, hlow, ne_eq, not_true_eq_false, if_false]
  obtain ⟨v, hv⟩ := updateWord_devices (translate_aligned h) haligned cont.rB _
  exact ⟨_, v, _, hv⟩

end Access

/-- A load or store at an aligned address in the device region makes the access it names and no
other, unless it is a half-word instruction. -/
theorem accessesOwn_exec {m : Machine} {i : MemInsn} {p : U32} (hwidth : i.op.width ≠ .half)
    (halign : (calcEa m.cpu (decode i.inst)).toNat % i.op.bytes = 0)
    (htr : m.translateD (calcEa m.cpu (decode i.inst)) = some p) (hp : 0x08000000 ≤ p) :
    AccessesOwn i p m (i.op.exec m (decode i.inst)) := by
  obtain ⟨inst, op, hop⟩ := i
  have hsigned : (m.word p : BitVec 32) = (BitVec.setWidth 32 (m.word p)).signExtend 32 := by
    rw [BitVec.setWidth_eq, BitVec.signExtend_eq]
  have hunsigned : (m.word p : BitVec 32) = (BitVec.setWidth 32 (m.word p)).setWidth 32 := by
    rw [BitVec.setWidth_eq, BitVec.setWidth_eq]
  have hbyte : m.mem p = ((m.mem p).setWidth 32).setWidth 8 := by
    rw [BitVec.setWidth_setWidth_of_le _ (by decide), BitVec.setWidth_eq]
  cases op with
  | lhz | lhs | sh => exact absurd rfl hwidth
  | lwz =>
    obtain ⟨hlog, hgpr⟩ := lwz_devices htr hp halign
    exact accessesOwn_of_log hp hlog fun _ => hgpr.trans (congrArg (setReg _ _) hunsigned)
  | lws =>
    obtain ⟨hlog, hgpr⟩ := lwz_devices htr hp halign
    exact accessesOwn_of_log hp hlog fun _ => hgpr.trans (congrArg (setReg _ _) hsigned)
  | lbz =>
    obtain ⟨hlog, hgpr⟩ := loadByteOf_devices htr hp (fun b => b.zeroExtend 32) Insn.lbzValue
    exact accessesOwn_of_log hp hlog fun _ =>
      hgpr.trans (congrArg (fun b : BitVec 8 => setReg _ _ (b.zeroExtend 32)) hbyte)
  | lbs =>
    obtain ⟨hlog, hgpr⟩ := loadByteOf_devices htr hp (fun b => b.signExtend 32) Insn.lbsValue
    exact accessesOwn_of_log hp hlog fun _ =>
      hgpr.trans (congrArg (fun b : BitVec 8 => setReg _ _ (b.signExtend 32)) hbyte)
  | sw => exact accessesOwn_of_log hp (sw_devices htr hp halign) fun h => Bool.noConfusion h
  | sb => exact accessesOwn_of_log hp (sb_devices htr hp) fun h => Bool.noConfusion h

/-- A half-word instruction at such an address does not. -/
theorem not_accessesOwn_half {m : Machine} {i : MemInsn} {p : U32} (hwidth : i.op.width = .half)
    (halign : (calcEa m.cpu (decode i.inst)).toNat % i.op.bytes = 0)
    (htr : m.translateD (calcEa m.cpu (decode i.inst)) = some p) (hp : 0x08000000 ≤ p) :
    ¬ AccessesOwn i p m (i.op.exec m (decode i.inst)) := by
  have hwords {accesses : List Access}
      (hlog : (i.op.exec m (decode i.inst)).log = accesses ++ m.log)
      (hword : ∀ a ∈ accesses, a.width = .word) :
      ¬ AccessesOwn i p m (i.op.exec m (decode i.inst)) := by
    refine not_accessesOwn hlog fun a ha => ?_
    rw [hword a ha, hwidth]
    exact Width.noConfusion
  obtain ⟨inst, op, hop⟩ := i
  cases op with
  | lwz | lws | lbz | lbs | sw | sb => cases hwidth
  | lhz =>
    obtain ⟨q, v, hlog⟩ := loadHalfOf_devices htr hp halign Insn.lhzValue
    exact hwords hlog (by simp)
  | lhs =>
    obtain ⟨q, v, hlog⟩ := loadHalfOf_devices htr hp halign Insn.lhsValue
    exact hwords hlog (by simp)
  | sh =>
    obtain ⟨q, v, v', hlog⟩ := sh_devices htr hp halign
    exact hwords hlog (by simp)

theorem accessesOwn_advance {i : MemInsn} {p : U32} {m m' : Machine} :
    AccessesOwn i p m m'.advance ↔ AccessesOwn i p m m' := by
  simp [AccessesOwn, Machine.advance]

/-- Simulating a load or store at an aligned address that translates into the device region makes
the access it names and no other exactly when it is no half-word instruction. -/
theorem accessesOwn_iff {m : Machine} {i : MemInsn} {p : U32}
    (halign : (calcEa m.cpu (decode i.inst)).toNat % i.op.bytes = 0)
    (htr : m.translateD (calcEa m.cpu (decode i.inst)) = some p) (hp : 0x08000000 ≤ p) :
    ∃ m', execute (opcode i.inst) m (decode i.inst) = some m' ∧
      (AccessesOwn i p m m' ↔ i.op.width ≠ .half) := by
  refine ⟨(i.op.exec m (decode i.inst)).advance, ?_, ?_⟩
  · rw [execute, i.opcode_inst, dispatch_memOp, Option.map_some]
  · rw [accessesOwn_advance]
    by_cases hwidth : i.op.width = .half
    · exact iff_of_false (not_accessesOwn_half hwidth halign htr hp) (not_not.mpr hwidth)
    · exact iff_of_true (accessesOwn_exec hwidth halign htr hp) hwidth

/-- `l.lbz r3,0(r4)`. -/
def lbzDevice : MemInsn := ⟨0x8c640000, .lbz, rfl⟩

/-- `l.lhz r3,0(r4)`. -/
def lhzDevice : MemInsn := ⟨0x94640000, .lhz, rfl⟩

/-- A machine with the address of a device in register 4. -/
def deviceMachine : Machine :=
  .filled 0x15000000 { CPU.startAt 0x2000 with gpr := fun r => if r = 4 then 0x90000002 else 0 }

theorem accessesOwn_iff_lbz :
    ∃ m', execute (opcode lbzDevice.inst) deviceMachine (decode lbzDevice.inst) = some m' ∧
      (AccessesOwn lbzDevice 0x90000002 deviceMachine m' ↔ lbzDevice.op.width ≠ .half) :=
  accessesOwn_iff (by decide) (by decide) (by decide)

/-- A half-word load from a device reads the word around it. -/
theorem not_accessesOwn_lhz :
    ∃ m', execute (opcode lhzDevice.inst) deviceMachine (decode lhzDevice.inst) = some m' ∧
      (∃ value, m'.log = [⟨.load, .word, 0x90000000, value⟩]) ∧
      ¬ AccessesOwn lhzDevice 0x90000002 deviceMachine m' := by
  refine ⟨_, rfl, ⟨_, rfl⟩, fun hown => ?_⟩
  have hwords (a : Access)
      (ha : a ∈ [(⟨.load, .word, 0x90000000, deviceMachine.word 0x90000000⟩ : Access)]) :
      a.width ≠ lhzDevice.op.width := by
    rw [List.mem_singleton.mp ha]
    exact Width.noConfusion
  exact not_accessesOwn rfl hwords hown

end WirePatch
