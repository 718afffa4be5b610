import Mathlib.Tactic.IntervalCases
import WirePatch.Hardware.Lsu
import WirePatch.Simulator.Encoding

/-!
# Loads and stores: the simulator and the processor

The access the EX stage of the OR1200 core makes for a load or a store, through its aligners and the
byte lanes of the memory, compared with the read or the write of whole bytes, and so with the
simulator, which goes through the word around the address as well. Both sides add the same
displacement, and refuse the same addresses.

## Main definitions

* `MemOp.lsuOp`: the operation of an access in the load and store unit.
* `Or1200.LsuRegs.access`: the registers and the bytes after the access of the EX stage.

## Main results

* `MemOp.mem2reg_read`, `MemOp.write_wrData`: the aligners and the lanes move the bytes of an
  aligned access.
* `Or1200.LsuRegs.exceptAlign_run_iff`: when the unit reports a misaligned access.
* `Or1200.LsuRegs.request_of_cycstb`: what reaches the bus in a run.
* `Or1200.LsuRegs.exec_of_lastActive`: the simulator makes the access of the EX stage.
-/

namespace WirePatch

open Or1200

/-! ### Operations -/

/-- The operation of an access in the load and store unit. -/
def MemOp.lsuOp : MemOp → BitVec 4
  | lwz => Lsuop.lwz
  | lws => Lsuop.lws
  | lhz => Lsuop.lhz
  | lhs => Lsuop.lhs
  | lbz => Lsuop.lbz
  | lbs => Lsuop.lbs
  | sw => Lsuop.sw
  | sh => Lsuop.sh
  | sb => Lsuop.sb

namespace MemOp

theorem lsuOpOf_or32 (op : MemOp) : lsuOpOf op.or32 = op.lsuOp := by
  cases op <;> rfl

/-- The unit works for loads and stores only. -/
theorem exists_or32_of_lsuOpOf {code : BitVec 6} (h : lsuOpOf code ≠ Lsuop.nop) :
    ∃ op : MemOp, code = op.or32 := by
  rw [lsuOpOf] at h
  split_ifs at h with h1 h2 h3 h4 h5 h6 h7 h8 h9
  · exact ⟨.lwz, h1⟩
  · exact ⟨.lws, h2⟩
  · exact ⟨.lbz, h3⟩
  · exact ⟨.lbs, h4⟩
  · exact ⟨.lhz, h5⟩
  · exact ⟨.lhs, h6⟩
  · exact ⟨.sw, h7⟩
  · exact ⟨.sb, h8⟩
  · exact ⟨.sh, h9⟩
  · exact absurd rfl h

theorem getLsbD_lsuOp (op : MemOp) : op.lsuOp.getLsbD 3 = op.isStore := by
  cases op <;> rfl

theorem alignFault_lsuOp (op : MemOp) (sum : BitVec 3) :
    alignFault op.lsuOp sum = decide (sum.toNat % op.bytes ≠ 0) := by
  revert sum
  cases op <;> decide

/-- The unit refuses exactly the misaligned accesses. -/
theorem alignFault_lsuOp_iff (op : MemOp) (base ofs : U32) :
    alignFault op.lsuOp (idPrecalcSum base ofs) = true ↔ (base + ofs).toNat % op.bytes ≠ 0 := by
  have hmod := toNat_idPrecalcSum_mod base ofs
  rw [alignFault_lsuOp, decide_eq_true_iff]
  cases op <;> simp only [bytes] <;> omega

end MemOp

/-! ### Lanes -/

theorem aligned_eq (adr : BitVec 2) (v : U32) : aligned adr v = v <<< (8 * adr.toNat) := by
  have hadr : adr = 0 ∨ adr = 1 ∨ adr = 2 ∨ adr = 3 := by
    revert adr
    decide
  rcases hadr with rfl | rfl | rfl | rfl
  · exact (BitVec.shiftLeft_zero v).symm
  · exact (BitVec.shiftLeft_eq_concat_of_lt (n := 8) (by decide)).symm
  · exact (BitVec.shiftLeft_eq_concat_of_lt (n := 16) (by decide)).symm
  · exact (BitVec.shiftLeft_eq_concat_of_lt (n := 24) (by decide)).symm

/-- The bytes of a word put together from its lanes. -/
theorem byteOf_append (b3 b2 b1 b0 : BitVec 8) {q : ℕ} (hq : q < 4) :
    ByteMemory.byteOf 4 (b3 ++ b2 ++ b1 ++ b0 : U32) q =
      if q = 0 then b3 else if q = 1 then b2 else if q = 2 then b1 else b0 := by
  interval_cases q
  · exact (BitVec.extractLsb'_append_eq_of_le (by decide)).trans <|
      (BitVec.extractLsb'_append_eq_of_le (by decide)).trans BitVec.extractLsb'_append_eq_left
  · exact (BitVec.extractLsb'_append_eq_of_le (by decide)).trans <|
      (BitVec.extractLsb'_append_eq_of_le (by decide)).trans BitVec.extractLsb'_append_eq_right
  · exact (BitVec.extractLsb'_append_eq_of_le (by decide)).trans BitVec.extractLsb'_append_eq_right
  · exact BitVec.extractLsb'_append_eq_right

/-- Each lane of the memory holds a byte of the bus or of the old word. -/
theorem byteOf_wrData (sel : BitVec 4) (dat old : U32) {q : ℕ} (hq : q < 4) :
    ByteMemory.byteOf 4 (wrData sel dat old) q =
      ByteMemory.byteOf 4 (if sel.getLsbD (3 - q) then dat else old) q := by
  rw [wrData, byteOf_append _ _ _ _ hq]
  interval_cases q <;> rfl

theorem toNat_low (p : U32) : (p.extractLsb' 0 2).toNat = p.toNat % 4 :=
  BitVec.extractLsb'_toNat ..

namespace MemOp

variable {op : MemOp} {mem : U32 → BitVec 8} {ea p : U32}

/-- The bytes of an aligned access lie in the word around it. -/
theorem low_add_bytes_le (op : MemOp) (h : p.toNat % op.bytes = 0) :
    p.toNat % 4 + op.bytes ≤ 4 := by
  cases op <;> simp only [bytes] at h ⊢ <;> omega

/-- The lanes selected for an aligned access are those of its bytes. -/
theorem getLsbD_dcpuSel (op : MemOp) {adr : BitVec 2} (h : adr.toNat % op.bytes = 0) {q : ℕ}
    (hq : q < 4) :
    (dcpuSel op.lsuOp adr).getLsbD (3 - q) =
      decide (adr.toNat ≤ q ∧ q < adr.toNat + op.bytes) := by
  revert adr
  interval_cases q <;> cases op <;> decide

/-- The lanes of an aligned store carry the bytes of the register. -/
theorem byteOf_reg2mem (op : MemOp) (hop : op.isStore = true) {adr : BitVec 2}
    (h : adr.toNat % op.bytes = 0) (value : U32) {q : ℕ} (hq : q < op.bytes) :
    ByteMemory.byteOf 4 (reg2mem op.lsuOp adr value) (adr.toNat + q) =
      ByteMemory.byteOf op.bytes value q := by
  have hadr : adr = 0 ∨ adr = 1 ∨ adr = 2 ∨ adr = 3 := by
    clear h
    revert adr
    decide
  have hlt : adr.toNat + q < 4 := by
    have := adr.isLt
    cases op <;> simp only [bytes] at h hq <;> omega
  rw [reg2mem, byteOf_append _ _ _ _ hlt]
  cases op <;> simp only [isStore, bytes, Bool.false_eq_true] at hop h hq ⊢
  · obtain rfl : adr = 0 := by
      rcases hadr with rfl | rfl | rfl | rfl <;> simp at h ⊢
    interval_cases q <;> rfl
  · rcases hadr with rfl | rfl | rfl | rfl <;> simp at h
    all_goals interval_cases q <;> rfl
  · obtain rfl : q = 0 := by omega
    rcases hadr with rfl | rfl | rfl | rfl <;> rfl

theorem low_eq_of_offset (h : addressOffset p = addressOffset ea) :
    ea.extractLsb' 0 2 = p.extractLsb' 0 2 := by
  have hlow := congrArg BitVec.toNat (low_of_offset h)
  rw [low_toNat, low_toNat] at hlow
  exact BitVec.eq_of_toNat_eq ((toNat_low ea).trans (hlow.trans (toNat_low p).symm))

/-- The word around the address, moved up, begins with the bytes of the access. -/
theorem extract_aligned (mem : U32 → BitVec 8) (h : p.toNat % op.bytes = 0) :
    (aligned (p.extractLsb' 0 2) (ByteMemory.read 4 mem (p &&& ~~~0x3))).extractLsb'
        (8 * (4 - op.bytes)) (8 * op.bytes) = ByteMemory.read op.bytes mem p := by
  have hread := ByteMemory.extract_read mem (p &&& ~~~0x3) (low_add_bytes_le op h)
  rw [aligned_eq, toNat_low]
  rw [← low_toNat, aligned_add_low, low_toNat] at hread
  exact hread

/-- The aligner turns the word of the memory into the value of the load. -/
theorem mem2reg_read (mem : U32 → BitVec 8) (hop : op.isStore = false)
    (h : p.toNat % op.bytes = 0) :
    mem2reg op.lsuOp (p.extractLsb' 0 2) (ByteMemory.read 4 mem (p &&& ~~~0x3)) =
      ByteState.loaded op mem p := by
  rw [ByteState.loaded, ← extract_aligned mem h, mem2reg]
  generalize aligned (p.extractLsb' 0 2) (ByteMemory.read 4 mem (p &&& ~~~0x3)) = v
  cases op with
  | lwz => exact ((BitVec.setWidth_eq _).trans BitVec.extractLsb'_eq_self).symm
  | lws => exact ((BitVec.signExtend_eq _).trans BitVec.extractLsb'_eq_self).symm
  | lhz | lhs | lbz | lbs => rfl
  | sw | sh | sb => cases hop

/-- A store through the lanes is the store of its bytes. -/
theorem write_wrData (mem : U32 → BitVec 8) (value : U32) (hop : op.isStore = true)
    (h : p.toNat % op.bytes = 0) :
    ByteMemory.write 4 mem (p &&& ~~~0x3)
        (wrData (dcpuSel op.lsuOp (p.extractLsb' 0 2)) (reg2mem op.lsuOp (p.extractLsb' 0 2) value)
          (ByteMemory.read 4 mem (p &&& ~~~0x3))) =
      ByteMemory.write op.bytes mem p value := by
  have hle := low_add_bytes_le op h
  have hlow := toNat_low p
  have hadr : (p.extractLsb' 0 2).toNat % op.bytes = 0 := by
    rw [hlow]
    cases op <;> simp only [bytes] at h ⊢ <;> omega
  have hwrite := ByteMemory.write_eq_write (w := 32) (n := 4) (j := p.toNat % 4) (k := op.bytes)
    mem (a := p &&& ~~~0x3) (u := value)
    (v := wrData (dcpuSel op.lsuOp (p.extractLsb' 0 2))
      (reg2mem op.lsuOp (p.extractLsb' 0 2) value) (ByteMemory.read 4 mem (p &&& ~~~0x3)))
    (by decide) hle (fun q hq => ?_) (fun q hq hout => ?_)
  · rw [hwrite, ← low_toNat, aligned_add_low]
  · rw [byteOf_wrData _ _ _ (by omega), getLsbD_dcpuSel op hadr (by omega), hlow,
      decide_eq_true (by omega), if_pos rfl, ← hlow, byteOf_reg2mem op hop hadr value hq]
  · rw [byteOf_wrData _ _ _ hq, getLsbD_dcpuSel op hadr hq, hlow, decide_eq_false (by omega),
      if_neg Bool.false_ne_true, ByteMemory.byteOf_read mem _ (by decide) hq]

end MemOp

/-! ### Instructions -/

namespace MemInsn

variable (i : MemInsn)

theorem op_inst : i.inst.extractLsb' 26 6 = i.op.or32 := by
  have hop : (i.inst.extractLsb' 26 6).setWidth 32 = i.op.or32.setWidth 32 := by
    rw [← opcode_eq, i.opcode_inst]
    cases i.op <;> rfl
  refine BitVec.eq_of_toNat_eq ?_
  have htoNat := congrArg BitVec.toNat hop
  rw [BitVec.toNat_setWidth_of_le (by decide), BitVec.toNat_setWidth_of_le (by decide)] at htoNat
  exact htoNat

theorem idLsuOp_inst : idLsuOp i.inst = i.op.lsuOp := by
  rw [idLsuOp, i.op_inst, i.op.lsuOpOf_or32]

/-- Both sides extend the same displacement. -/
theorem exts_eq_idSimm : exts (decode i.inst).I = idSimm i.inst := by
  have hop := i.op_inst
  cases hstore : i.op.isStore with
  | true =>
    have hmem : i.inst.extractLsb' 26 6 ∈ storeOps := hop ▸ i.op.or32_mem_storeOps_iff.mpr hstore
    rw [decode_splitI hmem rfl, exts_setWidth, idSimm_of_store hmem]
  | false =>
    have hmem : i.inst.extractLsb' 26 6 ∉ storeOps := by
      rw [hop]
      exact mt i.op.or32_mem_storeOps_iff.mp (Bool.not_eq_true _ ▸ hstore)
    have hsigned : i.inst.extractLsb' 26 6 ∈ signedOps := by
      rw [hop]
      revert hstore
      cases i.op <;> decide
    rw [decode_I hmem rfl, exts_setWidth, idSimm_of_signed hsigned]

/-- The instruction word of an access. -/
theorem exists_of_idLsuOp {inst : U32} (h : idLsuOp inst ≠ Lsuop.nop) :
    ∃ i : MemInsn, i.inst = inst := by
  obtain ⟨op, hop⟩ := MemOp.exists_or32_of_lsuOpOf h
  refine ⟨⟨inst, op, ?_⟩, rfl⟩
  rw [opcode_eq, hop]
  cases op <;> rfl

/-- The simulator raises the exception of a misaligned access. -/
theorem exec_of_misaligned (m : Machine)
    (h : (calcEa m.cpu (decode i.inst)).toNat % i.op.bytes ≠ 0) :
    i.op.exec m (decode i.inst) =
      m.setCpu (alignmentException m.cpu (calcEa m.cpu (decode i.inst))) := by
  have hword (hmod : (calcEa m.cpu (decode i.inst)).toNat % 4 ≠ 0) :
      calcEa m.cpu (decode i.inst) &&& 0x3 ≠ 0 := fun hzero =>
    hmod ((low_toNat _).symm.trans (congrArg BitVec.toNat hzero))
  have hhalf (hmod : (calcEa m.cpu (decode i.inst)).toNat % 2 ≠ 0) :
      calcEa m.cpu (decode i.inst) &&& 0x1 ≠ 0 := fun hzero =>
    hmod ((BitMask.toNat_and_low 1 rfl _).symm.trans (congrArg BitVec.toNat hzero))
  cases hop : i.op with
  | lwz | lws | sw =>
    rw [hop] at h
    exact if_pos (hword h)
  | lhz | lhs | sh =>
    rw [hop] at h
    exact if_pos (hhalf h)
  | lbz | lbs | sb =>
    rw [hop] at h
    exact absurd (Nat.mod_one _) h

end MemInsn

/-! ### The access of the EX stage -/

namespace Or1200.LsuRegs

/-- The registers and the bytes after the access of the EX stage, at the physical address `p`: a
store changes the lanes it selects, a load puts the word of the memory through the aligner. -/
def access (r : LsuRegs) (s : ByteState) (rD : Reg) (p : U32) : ByteState :=
  let word : U32 := ByteMemory.read 4 s.mem (p &&& ~~~0x3)
  if r.we then
    { s with mem := ByteMemory.write 4 s.mem (p &&& ~~~0x3) (wrData r.sel r.dat word) }
  else
    { s with gpr := setReg s.gpr rD (r.dataout word) }

variable {x : ℕ → LsuIn} {t : ℕ}

/-- The access of an instruction that entered the stage with its operands. -/
theorem access_issued {y : LsuIn} {i : MemInsn} {s : ByteState} {p : U32} (hi : y.idInsn = i.inst)
    (hA : s.gpr (decode i.inst).rA = y.muxedA)
    (hB : i.op.isStore = true → s.gpr (decode i.inst).rB = y.muxedB)
    (hoffset : addressOffset p = addressOffset (s.ea (decode i.inst)))
    (halign : (s.ea (decode i.inst)).toNat % i.op.bytes = 0) :
    (issued y).access s (decode i.inst).rD p = s.access i.op (decode i.inst) p := by
  have hop : (issued y).exLsuOp = i.op.lsuOp := by
    rw [← i.idLsuOp_inst, ← hi]
    rfl
  have hlow : (issued y).adr.extractLsb' 0 2 = p.extractLsb' 0 2 := by
    rw [adr_issued, hi, ← i.exts_eq_idSimm, ← hA, BitVec.add_comm]
    exact MemOp.low_eq_of_offset hoffset
  have hp : p.toNat % i.op.bytes = 0 := by
    have hmod := congrArg BitVec.toNat (low_of_offset hoffset)
    rw [low_toNat, low_toNat] at hmod
    revert halign
    cases i.op <;> simp only [MemOp.bytes] <;> omega
  have hwe : (issued y).we = i.op.isStore := by
    rw [we, hop, MemOp.getLsbD_lsuOp]
  rw [access, ByteState.access, hwe]
  cases hstore : i.op.isStore with
  | true =>
    rw [if_pos rfl, if_pos rfl, sel, dat, hop, hlow, ← MemOp.write_wrData s.mem _ hstore hp,
      hB hstore]
    rfl
  | false =>
    rw [if_neg Bool.false_ne_true, if_neg Bool.false_ne_true, dataout, hop, hlow,
      MemOp.mem2reg_read s.mem hstore hp]

/-- The unit works for one load or store at a time, the last to enter the stage. -/
theorem exists_insn (h : (run x t).exLsuOp ≠ Lsuop.nop ∨ (run x t).exceptAlign = true) :
    ∃ (p : ℕ) (i : MemInsn), Clocked.LastActive (controlAt x) p t ∧ (x p).idInsn = i.inst := by
  obtain ⟨p, hp⟩ := exists_lastActive_of_busy h
  rw [run_of_lastActive hp] at h
  have hop : idLsuOp (x p).idInsn ≠ Lsuop.nop := by
    rcases h with h | h
    · exact h
    · rintro hnop
      rw [issued, hnop] at h
      cases h
  obtain ⟨i, hi⟩ := MemInsn.exists_of_idLsuOp hop
  exact ⟨p, i, hp, hi.symm⟩

/-- The unit reports a misaligned access while the last instruction to enter the stage is a load or
a store whose address is not a multiple of its size, and never else. -/
theorem exceptAlign_run_iff (x : ℕ → LsuIn) (t : ℕ) :
    (run x t).exceptAlign = true ↔
      ∃ (p : ℕ) (i : MemInsn), Clocked.LastActive (controlAt x) p t ∧ (x p).idInsn = i.inst ∧
        ((x p).muxedA + exts (decode i.inst).I).toNat % i.op.bytes ≠ 0 := by
  have hfault {p : ℕ} {i : MemInsn} (hi : (x p).idInsn = i.inst) :
      (issued (x p)).exceptAlign = true ↔
        ((x p).muxedA + exts (decode i.inst).I).toNat % i.op.bytes ≠ 0 := by
    rw [issued, hi, i.idLsuOp_inst, i.exts_eq_idSimm]
    exact i.op.alignFault_lsuOp_iff ..
  constructor
  · intro h
    obtain ⟨p, i, hp, hi⟩ := exists_insn (.inr h)
    rw [run_of_lastActive hp] at h
    exact ⟨p, i, hp, hi, (hfault hi).mp h⟩
  · rintro ⟨p, i, hp, hi, hmis⟩
    rw [run_of_lastActive hp]
    exact (hfault hi).mpr hmis

/-- A request on the bus is the aligned access of the last instruction to enter the stage. -/
theorem request_of_cycstb (h : (run x t).cycstb (x t) = true) :
    ∃ (p : ℕ) (i : MemInsn), Clocked.LastActive (controlAt x) p t ∧ (x p).idInsn = i.inst ∧
      (run x t).adr = (x p).muxedA + exts (decode i.inst).I ∧
      (run x t).adr.toNat % i.op.bytes = 0 ∧ (run x t).we = i.op.isStore := by
  obtain ⟨halign, hop⟩ := of_cycstb h
  obtain ⟨p, i, hp, hi⟩ := exists_insn (.inl hop)
  have hadr : (run x t).adr = (x p).muxedA + exts (decode i.inst).I := by
    rw [run_of_lastActive hp, adr_issued, hi, i.exts_eq_idSimm]
  refine ⟨p, i, hp, hi, hadr, ?_, ?_⟩
  · by_contra hmis
    rw [hadr] at hmis
    have hfault := (exceptAlign_run_iff x t).mpr ⟨p, i, hp, hi, hmis⟩
    exact Bool.false_ne_true (halign.symm.trans hfault)
  · rw [run_of_lastActive hp, we, issued, hi, i.idLsuOp_inst, MemOp.getLsbD_lsuOp]

/-- The simulator makes the access of the EX stage: it computes the same address, refuses it when
the unit reports it misaligned, and leaves the registers and the bytes that the transfer at the
translated address leaves. -/
theorem exec_of_lastActive {m : Machine} {p : ℕ} {i : MemInsn}
    (hp : Clocked.LastActive (controlAt x) p t) (hi : (x p).idInsn = i.inst)
    (hA : m.cpu.gpr (decode i.inst).rA = (x p).muxedA)
    (hB : i.op.isStore = true → m.cpu.gpr (decode i.inst).rB = (x p).muxedB) :
    (run x t).adr = calcEa m.cpu (decode i.inst) ∧
      if (run x t).exceptAlign then
        i.op.exec m (decode i.inst) = m.setCpu (alignmentException m.cpu (run x t).adr)
      else
        ∀ q, m.translateD (run x t).adr = some q → 4 ≤ q → q < 0x08000000 →
          Accessed m (i.op.exec m (decode i.inst))
            ((run x t).access m.bytes (decode i.inst).rD q) := by
  have hadr : (run x t).adr = calcEa m.cpu (decode i.inst) := by
    rw [run_of_lastActive hp, adr_issued, hi, ← i.exts_eq_idSimm, ← hA, BitVec.add_comm, calcEa]
  have hfault : (run x t).exceptAlign = true ↔
      (calcEa m.cpu (decode i.inst)).toNat % i.op.bytes ≠ 0 := by
    rw [run_of_lastActive hp, issued, hi, i.idLsuOp_inst, i.op.alignFault_lsuOp_iff, ← hA,
      ← i.exts_eq_idSimm, BitVec.add_comm, calcEa]
  refine ⟨hadr, ?_⟩
  rw [hadr]
  split_ifs with halign
  · exact i.exec_of_misaligned m (hfault.mp halign)
  · intro q htr hq hlt
    have haligned : (calcEa m.cpu (decode i.inst)).toNat % i.op.bytes = 0 :=
      not_not.mp (mt hfault.mpr halign)
    have hoffset := offset_of_translate htr
    rw [← ea_bytes] at hoffset haligned htr
    have hexec := accessed_exec ⟨haligned, q, htr, hq, hlt⟩
    rw [ByteState.exec, htr, Option.elim_some] at hexec
    rw [run_of_lastActive hp, access_issued hi hA hB hoffset haligned]
    exact hexec

/-- `sbInsn` enters the stage in the first cycle, and waits for its acknowledgement. -/
def sbIn (_ : ℕ) : LsuIn :=
  { rst := false
    idInsn := sbInsn.inst
    muxedA := 0
    muxedB := 0
    ifStall := false
    multicycleFreeze := false
    waitingOn := false
    duStall := false
    abortEx := false
    flushpipe := false
    dcpuAckI := false
    dcpuRtyI := true }

theorem request_of_cycstb_sb :
    (run sbIn 3).cycstb (sbIn 3) = true ∧
      ∃ (p : ℕ) (i : MemInsn), Clocked.LastActive (controlAt sbIn) p 3 ∧
        (sbIn p).idInsn = i.inst ∧ (run sbIn 3).adr = (sbIn p).muxedA + exts (decode i.inst).I ∧
        (run sbIn 3).adr.toNat % i.op.bytes = 0 ∧ (run sbIn 3).we = i.op.isStore :=
  ⟨by decide, request_of_cycstb (by decide)⟩

theorem exec_of_lastActive_sb :
    (run sbIn 3).adr = calcEa (nopMachine 0x2000).cpu (decode sbInsn.inst) ∧
      if (run sbIn 3).exceptAlign then
        sbInsn.op.exec (nopMachine 0x2000) (decode sbInsn.inst) =
          (nopMachine 0x2000).setCpu
            (alignmentException (nopMachine 0x2000).cpu (run sbIn 3).adr)
      else
        ∀ q, (nopMachine 0x2000).translateD (run sbIn 3).adr = some q → 4 ≤ q → q < 0x08000000 →
          Accessed (nopMachine 0x2000) (sbInsn.op.exec (nopMachine 0x2000) (decode sbInsn.inst))
            ((run sbIn 3).access (nopMachine 0x2000).bytes (decode sbInsn.inst).rD q) :=
  exec_of_lastActive (p := 0) (by decide) rfl rfl fun _ => rfl

end Or1200.LsuRegs

end WirePatch
