import WirePatch.Simulator.Execute

/-!
# Byte and half-word memory

The loads and stores of the simulator, which reach bytes and half-words through the word around
them, compared with a byte-addressed big-endian memory. For addresses that translate above the
status codes and below the device region, the nine instructions in any order read and write the
bytes they name, whichever pages alias.

## Main definitions

* `MemOp`, `MemInsn`: the loads and stores, and instruction words that are one of them.
* `ByteState`, `ByteState.exec`, `ByteState.run`: the byte-addressed machine.
* `Accessible`: the addresses of a sequence of accesses are aligned and translate into main memory.

## Main results

* `accessed_exec`: one access of the simulator is one of the byte-addressed machine.
* `bytes_run`: a sequence of accesses is.
-/

namespace WirePatch

/-- The loads and stores. -/
inductive MemOp
  | lwz
  | lws
  | lhz
  | lhs
  | lbz
  | lbs
  | sw
  | sh
  | sb
  deriving DecidableEq, Repr

namespace MemOp

/-- The opcode of an access. -/
def opcode : MemOp → U32
  | lwz => opLwz
  | lws => opLws
  | lhz => opLhz
  | lhs => opLhs
  | lbz => opLbz
  | lbs => opLbs
  | sw => opSw
  | sh => opSh
  | sb => opSb

/-- The number of bytes an access names. -/
def bytes : MemOp → ℕ
  | lwz | lws | sw => 4
  | lhz | lhs | sh => 2
  | lbz | lbs | sb => 1

/-- An access is a store. -/
def isStore : MemOp → Bool
  | sw | sh | sb => true
  | lwz | lws | lhz | lhs | lbz | lbs => false

/-- An access is a load that extends the sign of what it reads. -/
def isSigned : MemOp → Bool
  | lws | lhs | lbs => true
  | lwz | lhz | lbz | sw | sh | sb => false

/-- The access in the simulator. -/
def exec : MemOp → Machine → Control → Machine
  | lwz | lws => Insn.lwz
  | lhz => Insn.lhz
  | lhs => Insn.lhs
  | lbz => Insn.lbz
  | lbs => Insn.lbs
  | sw => Insn.sw
  | sh => Insn.sh
  | sb => Insn.sb

end MemOp

/-- An instruction word that is a load or a store. -/
structure MemInsn where
  inst : U32
  op : MemOp
  opcode_inst : opcode inst = op.opcode

/-! ### The byte-addressed machine -/

/-- The registers and the bytes of physical memory. -/
@[ext] structure ByteState where
  gpr : Reg → U32
  mem : U32 → BitVec 8

namespace ByteState

/-- The value a load puts in its register: the bytes it names, extended to a word. -/
def loaded (op : MemOp) (mem : U32 → BitVec 8) (p : U32) : U32 :=
  let value : BitVec (8 * op.bytes) := ByteMemory.read op.bytes mem p
  if op.isSigned then value.signExtend 32 else value.zeroExtend 32

/-- The effective address of an access. -/
def ea (s : ByteState) (cont : Control) : U32 :=
  exts cont.I + s.gpr cont.rA

/-- The state after an access to physical address `p`. -/
def access (s : ByteState) (op : MemOp) (cont : Control) (p : U32) : ByteState :=
  if op.isStore then
    { s with mem := ByteMemory.write op.bytes s.mem p (s.gpr cont.rB) }
  else
    { s with gpr := setReg s.gpr cont.rD (loaded op s.mem p) }

/-- The state after an access under the translation `tr`. -/
def exec (tr : U32 → Option U32) (s : ByteState) (i : MemInsn) : ByteState :=
  (tr (s.ea (decode i.inst))).elim s (s.access i.op (decode i.inst))

/-- The state after a sequence of accesses. -/
def run (tr : U32 → Option U32) (s : ByteState) (prog : List MemInsn) : ByteState :=
  prog.foldl (exec tr) s

/-- The address of an access is aligned and translates into main memory, above the status codes and
below the devices. -/
def InMemory (tr : U32 → Option U32) (s : ByteState) (i : MemInsn) : Prop :=
  (s.ea (decode i.inst)).toNat % i.op.bytes = 0 ∧
    ∃ p, tr (s.ea (decode i.inst)) = some p ∧ 4 ≤ p ∧ p < 0x08000000

/-- Every access of a sequence is in main memory. -/
def Accessible (tr : U32 → Option U32) : ByteState → List MemInsn → Prop
  | _, [] => True
  | s, i :: prog => s.InMemory tr i ∧ Accessible tr (s.exec tr i) prog

end ByteState

/-- The registers and the bytes of a machine. -/
def Machine.bytes (m : Machine) : ByteState :=
  { gpr := m.cpu.gpr, mem := m.mem }

/-! ### Words and the fields around an address -/

theorem toNat_setWidth_lt {k : ℕ} (v : BitVec k) : (v.setWidth 32).toNat < 2 ^ k := by
  rw [BitVec.toNat_setWidth]
  exact (Nat.mod_le ..).trans_lt v.isLt

/-- The extension of a value of `n + 1` bits by its highest bit. -/
theorem signExtend_eq {v : U32} {n : ℕ} (hn : n < 31) (hv : v.toNat < 2 ^ (n + 1)) :
    signExtend v n = (v.setWidth (n + 1)).signExtend 32 := by
  have hhigh (i : ℕ) (hi : n < i) : v.getLsbD i = false :=
    Nat.testBit_lt_two_pow (hv.trans_le (Nat.pow_le_pow_right Nat.two_pos hi))
  refine BitVec.eq_of_getLsbD_eq fun i hi => ?_
  rw [signExtend, isBitSet_eq, BitVec.getLsbD_signExtend, BitVec.msb_eq_getLsbD_last,
    BitVec.getLsbD_setWidth, BitVec.getLsbD_setWidth]
  have hones : (0xffffffff#32 <<< n).getLsbD i = decide (n ≤ i) := by
    rw [BitVec.getLsbD_shiftLeft, show 0xffffffff#32 = BitVec.allOnes 32 from rfl,
      BitVec.getLsbD_allOnes]
    by_cases hni : n ≤ i
    · simp [hi, hni, show i - n < 32 by omega]
    · simp [hni, Nat.lt_of_not_le hni]
  have hleft : (if v.getLsbD n then v ||| 0xffffffff#32 <<< n else v).getLsbD i =
      (v.getLsbD i || (v.getLsbD n && decide (n ≤ i))) := by
    cases v.getLsbD n
    · simp
    · rw [if_pos rfl, BitVec.getLsbD_or, hones, Bool.true_and]
  rw [hleft]
  rcases Nat.lt_trichotomy i n with hin | rfl | hin
  · simp [hi, hin.not_ge, Nat.lt_succ_of_lt hin]
  · simp [hi]
  · rw [hhigh i hin]
    simp [hi, hin.le, Nat.not_lt.mpr hin]

section Fields

variable {mem : U32 → BitVec 8} {ea p : U32}

/-- The place of a byte in the word around it. -/
theorem low_of_offset (h : addressOffset p = addressOffset ea) : ea &&& 0x3 = p &&& 0x3 :=
  BitMask.and_eq_and_of_subset h.symm rfl

theorem low_toNat (p : U32) : (p &&& 0x3).toNat = p.toNat % 4 :=
  BitMask.toNat_and_low 2 rfl p

theorem aligned_add_low (p : U32) :
    (p &&& ~~~0x3) + BitVec.ofNat 32 (p &&& 0x3).toNat = p := by
  rw [BitVec.ofNat_toNat, BitVec.setWidth_eq, BitVec.add_eq_or_of_and_eq_zero]
  · rw [← BitVec.and_or_distrib_left]
    exact BitVec.and_allOnes
  · calc
      p &&& ~~~0x3 &&& (p &&& 0x3) = p &&& p &&& (~~~0x3 &&& 0x3) := by ac_rfl
      _ = 0 := BitVec.and_zero

/-- The shift that brings a byte to the low end of the word around it. -/
theorem byteShift_toNat (p : U32) :
    ((0x3 - (p &&& 0x3)) * 8).toNat = 8 * (4 - (p &&& 0x3).toNat - 1) := by
  have hlow := low_toNat p
  have hlt : p.toNat % 4 < 4 := Nat.mod_lt _ (by decide)
  rw [BitVec.toNat_mul, BitVec.toNat_sub]
  change (2 ^ 32 - (p &&& 0x3).toNat + 3) % 2 ^ 32 * 8 % 2 ^ 32 = _
  omega

theorem lbzValue_read (mem : U32 → BitVec 8) (h : addressOffset p = addressOffset ea) :
    Insn.lbzValue ea (ByteMemory.read 4 mem (p &&& ~~~0x3)) =
      (ByteMemory.read 1 mem p : BitVec 8).zeroExtend 32 := by
  have hlow := low_toNat p
  have hsub := ByteMemory.read_sub (m := 32) (n := 4) (j := (p &&& 0x3).toNat) (k := 1) mem
    (p &&& ~~~0x3) (by decide) (by omega)
  rw [aligned_add_low] at hsub
  rw [Insn.lbzValue, low_of_offset h, BitVec.ushiftRight_eq', byteShift_toNat]
  exact hsub.symm.trans (ByteMemory.setWidth_read mem p (by decide)).symm

theorem lbsValue_read (h : addressOffset p = addressOffset ea) :
    Insn.lbsValue ea (ByteMemory.read 4 mem (p &&& ~~~0x3)) =
      (ByteMemory.read 1 mem p : BitVec 8).signExtend 32 := by
  have hlbz := lbzValue_read mem h
  rw [Insn.lbzValue] at hlbz
  rw [Insn.lbsValue, hlbz, signExtend_eq (by decide)]
  · rw [BitVec.setWidth_setWidth_of_le _ (by decide), BitVec.setWidth_eq]
  · exact toNat_setWidth_lt _

/-- A half-word is one of the two halves of the word around it. -/
theorem half_cases (h : addressOffset p = addressOffset ea) (heven : ea.toNat % 2 = 0) :
    (p &&& 0x3).toNat = 0 ∧ ea &&& 0x2 = 0 ∨ (p &&& 0x3).toNat = 2 ∧ ea &&& 0x2 ≠ 0 := by
  have hlow := low_toNat p
  have hlow' := low_toNat ea
  rw [low_of_offset h, hlow] at hlow'
  have htwo : ea &&& 0x2 = (p &&& 0x3) &&& 0x2 := by
    rw [← low_of_offset h, BitVec.and_assoc]
    rfl
  rcases (by omega : p.toNat % 4 = 0 ∨ p.toNat % 4 = 2) with hp | hp
  · have hzero : p &&& 0x3 = 0 := BitVec.eq_of_toNat_eq (hlow.trans hp)
    exact .inl ⟨hlow.trans hp, by rw [htwo, hzero]; rfl⟩
  · have htwo' : p &&& 0x3 = 2 := BitVec.eq_of_toNat_eq (hlow.trans hp)
    exact .inr ⟨hlow.trans hp, by rw [htwo, htwo']; decide⟩

theorem getLsbD_lowMask (i : ℕ) : (0xffff : U32).getLsbD i = decide (i < 16) :=
  Nat.testBit_two_pow_sub_one 16 i

theorem getLsbD_highMask {i : ℕ} (hi : i < 32) :
    (0xffff0000 : U32).getLsbD i = !decide (i < 16) := by
  rw [show (0xffff0000 : U32) = ~~~0xffff from rfl, BitVec.getLsbD_not, getLsbD_lowMask,
    decide_eq_true hi, Bool.true_and]

/-- The half-word of the word around it, as `lhz` and `lhs` select it. -/
theorem half_read (mem : U32 → BitVec 8) (h : addressOffset p = addressOffset ea)
    (heven : ea.toNat % 2 = 0) :
    (if ea &&& 0x2 = 0 then (ByteMemory.read 4 mem (p &&& ~~~0x3) : U32) >>> 16
      else ByteMemory.read 4 mem (p &&& ~~~0x3)) &&& 0xffff = ByteMemory.read 2 mem p := by
  have hj : (p &&& 0x3).toNat + 2 ≤ 4 := by
    rcases half_cases h heven with ⟨hj, -⟩ | ⟨hj, -⟩ <;> omega
  have hsub := ByteMemory.read_sub (m := 32) (n := 4) (k := 2) mem (p &&& ~~~0x3) (by decide) hj
  rw [aligned_add_low] at hsub
  rcases half_cases h heven with ⟨hj, hhalf⟩ | ⟨hj, hhalf⟩
  · rw [hsub, hj, if_pos hhalf]
    rfl
  · rw [hsub, hj, if_neg hhalf]
    rfl

theorem lhzValue_read (h : addressOffset p = addressOffset ea) (heven : ea.toNat % 2 = 0) :
    Insn.lhzValue ea (ByteMemory.read 4 mem (p &&& ~~~0x3)) =
      (ByteMemory.read 2 mem p : BitVec 16).zeroExtend 32 := by
  have hread := half_read mem h heven
  rw [Insn.lhzValue]
  refine Eq.trans ?_ (hread.trans (ByteMemory.setWidth_read mem p (by decide)).symm)
  split_ifs with hhalf
  · refine BitVec.eq_of_getLsbD_eq fun i hi => ?_
    rw [BitVec.getLsbD_and, BitVec.getLsbD_ushiftRight, getLsbD_lowMask]
    by_cases hi16 : i < 16
    · rw [decide_eq_true hi16, Bool.and_true]
    · rw [BitVec.getLsbD_of_ge _ _ (by omega), Bool.false_and]
  · rfl

/-- The extension of `lhs`. -/
theorem lhs_extend (v : U32) :
    (if v &&& 0x00008000 = 0 then v &&& 0xffff else v ||| 0xffff0000) =
      (v.setWidth 16).signExtend 32 := by
  have hbit : v &&& 0x00008000 = 0 ↔ v.getLsbD 15 = false := by
    rw [← Bool.not_eq_true, ← BitMask.and_twoPow_ne_zero_iff (i := 15) (by decide), not_not]
    exact Iff.rfl
  refine BitVec.eq_of_getLsbD_eq fun i hi => ?_
  rw [BitVec.getLsbD_signExtend, BitVec.msb_eq_getLsbD_last, BitVec.getLsbD_setWidth,
    BitVec.getLsbD_setWidth]
  simp only [hbit]
  cases hv : v.getLsbD 15
  · rw [if_pos rfl, BitVec.getLsbD_and, getLsbD_lowMask]
    by_cases hi16 : i < 16 <;> simp [hi, hi16]
  · rw [if_neg (by simp), BitVec.getLsbD_or, getLsbD_highMask hi]
    by_cases hi16 : i < 16 <;> simp [hi, hi16]

theorem lhsValue_read (h : addressOffset p = addressOffset ea) (heven : ea.toNat % 2 = 0) :
    Insn.lhsValue ea (ByteMemory.read 4 mem (p &&& ~~~0x3)) =
      (ByteMemory.read 2 mem p : BitVec 16).signExtend 32 := by
  have hread := half_read mem h heven
  simp only [Insn.lhsValue, lhs_extend]
  refine congrArg (BitVec.signExtend 32) ?_
  rw [← ByteMemory.setWidth_read (m := 32) mem p (by decide), ← hread]
  refine BitVec.eq_of_getLsbD_eq fun i hi => ?_
  rw [BitVec.getLsbD_setWidth, BitVec.getLsbD_setWidth, BitVec.getLsbD_and, getLsbD_lowMask,
    decide_eq_true hi, Bool.and_true]

theorem write_insertByte (h : addressOffset p = addressOffset ea) (value : U32) :
    ByteMemory.write 4 mem (p &&& ~~~0x3)
        (Insn.insertByte ea (ByteMemory.read 4 mem (p &&& ~~~0x3)) value) =
      ByteMemory.write 1 mem p value := by
  have hlow := low_toNat p
  have hmerge := ByteMemory.write_merge_read (m := 32) (n := 4) (j := (p &&& 0x3).toNat) (k := 1)
    mem (p &&& ~~~0x3) value (by decide) (by decide) (by omega)
  rw [aligned_add_low] at hmerge
  rw [Insn.insertByte, low_of_offset h, BitVec.shiftLeft_eq', BitVec.shiftLeft_eq',
    byteShift_toNat]
  exact hmerge

theorem write_insertHalf (h : addressOffset p = addressOffset ea) (heven : ea.toNat % 2 = 0)
    (value : U32) :
    ByteMemory.write 4 mem (p &&& ~~~0x3)
        (Insn.insertHalf ea (ByteMemory.read 4 mem (p &&& ~~~0x3)) value) =
      ByteMemory.write 2 mem p value := by
  have hj : (p &&& 0x3).toNat + 2 ≤ 4 := by
    rcases half_cases h heven with ⟨hj, -⟩ | ⟨hj, -⟩ <;> omega
  have hmerge := ByteMemory.write_merge_read (m := 32) (n := 4) (k := 2) mem (p &&& ~~~0x3) value
    (by decide) (by decide) hj
  rw [aligned_add_low] at hmerge
  rw [← hmerge, Insn.insertHalf]
  rcases half_cases h heven with ⟨hj, hhalf⟩ | ⟨hj, hhalf⟩
  · rw [hj, if_pos hhalf, if_pos hhalf]
    have hshift : value <<< 16 = (value &&& 0xffff) <<< 16 := by
      refine BitVec.eq_of_getLsbD_eq fun i hi => ?_
      rw [BitVec.getLsbD_shiftLeft, BitVec.getLsbD_shiftLeft, BitVec.getLsbD_and, getLsbD_lowMask,
        decide_eq_true (by omega : i - 16 < 16), Bool.and_true]
    rw [hshift]
    rfl
  · rw [hj, if_neg hhalf, if_neg hhalf, show 8 * (4 - 2 - 2) = 0 from rfl, BitVec.shiftLeft_zero,
      BitVec.shiftLeft_zero]
    rfl

end Fields

/-! ### One access -/

section Access

variable {m : Machine} {ea p : U32}

/-- An access leaves the registers and the bytes `s`, and changes no other register and no
translation. -/
structure Accessed (m m' : Machine) (s : ByteState) : Prop where
  bytes : m'.bytes = s
  cpu : m'.cpu = { m.cpu with gpr := s.gpr }
  translateD : m'.translateD = m.translateD

theorem walk_of_translate (h : m.translateD ea = some p) : virtualToPhysicalD m ea = p := by
  rw [virtualToPhysicalD_eq, h, Option.getD_some]

theorem two_lt_of_four_le (hp : 4 ≤ p) : 2 < p := by
  bv_omega

theorem ne_one_of_four_le (hp : 4 ≤ p) : p ≠ 1 := by
  rintro rfl
  exact absurd hp (by decide)

/-- A load that finds its word. -/
theorem loadWord_of_translate (h : m.translateD ea = some p) (hp : 4 ≤ p) (rD : Reg)
    (value : U32 → U32) :
    Accessed m (Insn.loadWord m ea rD value)
      { gpr := setReg m.cpu.gpr rD (value (m.word p)), mem := m.mem } := by
  have hwalk := walk_of_translate h
  have hload := simLoadData_of_two_lt (hwalk.symm ▸ two_lt_of_four_le hp)
  rw [hwalk] at hload
  rw [Insn.loadWord, hload]
  exact ⟨rfl, rfl, rfl⟩

/-- A store that finds its word. -/
theorem simStoreData_of_translate (h : m.translateD ea = some p) (hp : 4 ≤ p) (value : U32) :
    Accessed m (simStoreData m ea value).1
      { gpr := m.cpu.gpr, mem := ByteMemory.write 4 m.mem p value } := by
  have hwalk := walk_of_translate h
  have hstore := simStoreData_of_two_lt value (hwalk.symm ▸ two_lt_of_four_le hp)
  rw [hwalk] at hstore
  rw [hstore]
  exact ⟨by rw [storeFlushed_eq]; rfl, by rw [storeFlushed_eq], translateD_storeFlushed m p value⟩

/-- An update of a word. -/
theorem updateWord_of_translate (h : m.translateD ea = some p) (hp : 4 ≤ p) (rB : Reg)
    (insert : U32 → U32 → U32) :
    Accessed m (Insn.updateWord m ea rB insert)
      { gpr := m.cpu.gpr
        mem := ByteMemory.write 4 m.mem p (insert (m.word p) (m.cpu.gpr rB)) } := by
  have hwalk := walk_of_translate h
  have hload := simLoadData_of_two_lt (hwalk.symm ▸ two_lt_of_four_le hp)
  rw [hwalk] at hload
  rw [Insn.updateWord, hload, if_pos rfl]
  have hstore := simStoreData_of_translate (m := m.record ⟨.load, .word, p, m.word p⟩) h hp
    (insert (m.word p) (m.cpu.gpr rB))
  exact ⟨hstore.bytes, hstore.cpu, hstore.translateD⟩

theorem aligned_four_le (hp : 4 ≤ p) : 4 ≤ p &&& ~~~0x3 := by
  have hle : (p &&& ~~~0x3).toNat ≤ p.toNat := by
    rw [BitVec.toNat_and]
    exact Nat.and_le_left
  have hadd := congrArg BitVec.toNat (aligned_add_low p)
  have hlow := low_toNat p
  have hlt := p.isLt
  rw [BitVec.toNat_add, BitVec.toNat_ofNat] at hadd
  rw [BitVec.le_def] at hp ⊢
  change 4 ≤ _ at hp
  change 4 ≤ _
  omega

/-- Addresses below the device region have no high bits. -/
theorem shift_eq_zero (hlt : p < 0x08000000) : p >>> 27 = 0 := by
  refine BitVec.eq_of_toNat_eq ?_
  rw [BitVec.toNat_ushiftRight, Nat.shiftRight_eq_div_pow]
  exact Nat.div_eq_of_lt hlt

/-- A byte load reads the word around its address. -/
theorem loadByteOf_of_translate {cont : Control} (h : m.translateD (calcEa m.cpu cont) = some p)
    (hp : 4 ≤ p) (hlt : p < 0x08000000) (ext : BitVec 8 → U32) (value : U32 → U32 → U32) :
    Accessed m (Insn.loadByteOf ext value m cont)
      { gpr := setReg m.cpu.gpr cont.rD
          (value (calcEa m.cpu cont) (ByteMemory.read 4 m.mem (p &&& ~~~0x3)))
        mem := m.mem } := by
  simp only [Insn.loadByteOf, walk_of_translate h, if_neg (ne_one_of_four_le hp),
    shift_eq_zero hlt, ne_eq, not_true_eq_false, if_false]
  exact loadWord_of_translate (translate_aligned h) (aligned_four_le hp) ..

/-- A half-word load reads the word around its address. -/
theorem loadHalfOf_of_translate {cont : Control} (h : m.translateD (calcEa m.cpu cont) = some p)
    (hp : 4 ≤ p) (heven : (calcEa m.cpu cont).toNat % 2 = 0) (value : U32 → U32 → U32) :
    Accessed m (Insn.loadHalfOf value m cont)
      { gpr := setReg m.cpu.gpr cont.rD
          (value (calcEa m.cpu cont) (ByteMemory.read 4 m.mem (p &&& ~~~0x3)))
        mem := m.mem } := by
  have hlow : calcEa m.cpu cont &&& 0x1 = 0 := (BitMask.low_eq_zero_iff 1 rfl).mpr heven
  simp only [Insn.loadHalfOf, hlow, ne_eq, not_true_eq_false, if_false]
  exact loadWord_of_translate (translate_aligned h) (aligned_four_le hp) ..

/-- A word load reads its word. -/
theorem lwz_of_translate {cont : Control} (h : m.translateD (calcEa m.cpu cont) = some p)
    (hp : 4 ≤ p) (halign : (calcEa m.cpu cont).toNat % 4 = 0) :
    Accessed m (Insn.lwz m cont)
      { gpr := setReg m.cpu.gpr cont.rD (ByteMemory.read 4 m.mem p), mem := m.mem } := by
  have hlow : calcEa m.cpu cont &&& 0x3 = 0 := (BitMask.low_eq_zero_iff 2 rfl).mpr halign
  simp only [Insn.lwz, hlow, ne_eq, not_true_eq_false, if_false]
  exact loadWord_of_translate h hp ..

/-- A word store writes its word. -/
theorem sw_of_translate {cont : Control} (h : m.translateD (calcEa m.cpu cont) = some p)
    (hp : 4 ≤ p) (halign : (calcEa m.cpu cont).toNat % 4 = 0) :
    Accessed m (Insn.sw m cont)
      { gpr := m.cpu.gpr, mem := ByteMemory.write 4 m.mem p (m.cpu.gpr cont.rB) } := by
  have hlow : calcEa m.cpu cont &&& 0x3 = 0 := (BitMask.low_eq_zero_iff 2 rfl).mpr halign
  simp only [Insn.sw, hlow, ne_eq, not_true_eq_false, if_false]
  exact simStoreData_of_translate h hp _

/-- A byte store writes its byte. -/
theorem sb_of_translate {cont : Control} (h : m.translateD (calcEa m.cpu cont) = some p)
    (hp : 4 ≤ p) (hlt : p < 0x08000000) :
    Accessed m (Insn.sb m cont)
      { gpr := m.cpu.gpr, mem := ByteMemory.write 1 m.mem p (m.cpu.gpr cont.rB) } := by
  have hstore := updateWord_of_translate (translate_aligned h) (aligned_four_le hp) cont.rB
    (Insn.insertByte (calcEa m.cpu cont))
  rw [Machine.word, write_insertByte (offset_of_translate h)] at hstore
  simp only [Insn.sb, walk_of_translate h, if_neg (ne_one_of_four_le hp), shift_eq_zero hlt, ne_eq,
    not_true_eq_false, if_false]
  exact hstore

/-- A half-word store writes its half-word. -/
theorem sh_of_translate {cont : Control} (h : m.translateD (calcEa m.cpu cont) = some p)
    (hp : 4 ≤ p) (heven : (calcEa m.cpu cont).toNat % 2 = 0) :
    Accessed m (Insn.sh m cont)
      { gpr := m.cpu.gpr, mem := ByteMemory.write 2 m.mem p (m.cpu.gpr cont.rB) } := by
  have hlow : calcEa m.cpu cont &&& 0x1 = 0 := (BitMask.low_eq_zero_iff 1 rfl).mpr heven
  have hstore := updateWord_of_translate (translate_aligned h) (aligned_four_le hp) cont.rB
    (Insn.insertHalf (calcEa m.cpu cont))
  rw [Machine.word, write_insertHalf (offset_of_translate h) heven] at hstore
  simp only [Insn.sh, hlow, ne_eq, not_true_eq_false, if_false]
  exact hstore

end Access

/-! ### All accesses -/

/-- The switch of `execute` reaches the access. -/
theorem dispatch_memOp (op : MemOp) (m : Machine) (cont : Control) :
    dispatch op.opcode m cont = some (op.exec m cont) := by
  cases op <;> rfl

/-- The address of an access is the effective address the simulator computes. -/
theorem ea_bytes (m : Machine) (cont : Control) : m.bytes.ea cont = calcEa m.cpu cont := rfl

/-- One access of the simulator is the access of the byte-addressed machine. -/
theorem accessed_exec {m : Machine} {i : MemInsn} (h : m.bytes.InMemory m.translateD i) :
    Accessed m (i.op.exec m (decode i.inst)) (m.bytes.exec m.translateD i) := by
  obtain ⟨halign, p, htr, hp, hlt⟩ := h
  rw [ByteState.exec, htr, Option.elim_some]
  rw [ea_bytes] at halign htr
  have hoffset : addressOffset p = addressOffset (calcEa m.cpu (decode i.inst)) :=
    offset_of_translate htr
  cases hop : i.op with
  | lwz =>
    rw [hop] at halign
    exact lwz_of_translate htr hp halign
  | lws =>
    rw [hop] at halign
    have hload := lwz_of_translate htr hp halign
    rw [← BitVec.signExtend_eq (ByteMemory.read 4 m.mem p : U32)] at hload
    exact hload
  | lhz =>
    rw [hop] at halign
    have hload := loadHalfOf_of_translate htr hp halign Insn.lhzValue
    rw [lhzValue_read hoffset halign] at hload
    exact hload
  | lhs =>
    rw [hop] at halign
    have hload := loadHalfOf_of_translate htr hp halign Insn.lhsValue
    rw [lhsValue_read hoffset halign] at hload
    exact hload
  | lbz =>
    have hload := loadByteOf_of_translate htr hp hlt (fun b => b.zeroExtend 32) Insn.lbzValue
    rw [lbzValue_read _ hoffset] at hload
    exact hload
  | lbs =>
    have hload := loadByteOf_of_translate htr hp hlt (fun b => b.signExtend 32) Insn.lbsValue
    rw [lbsValue_read hoffset] at hload
    exact hload
  | sw =>
    rw [hop] at halign
    exact sw_of_translate htr hp halign
  | sh =>
    rw [hop] at halign
    exact sh_of_translate htr hp halign
  | sb => exact sb_of_translate htr hp hlt

/-- One access and the advance of the program counter. -/
theorem execute_memInsn {m : Machine} {i : MemInsn} (h : m.bytes.InMemory m.translateD i) :
    ∃ m', execute (opcode i.inst) m (decode i.inst) = some m' ∧
      m'.bytes = m.bytes.exec m.translateD i ∧ m'.translateD = m.translateD := by
  have haccess := accessed_exec h
  refine ⟨(i.op.exec m (decode i.inst)).advance, ?_, ?_, ?_⟩
  · rw [execute, i.opcode_inst, dispatch_memOp, Option.map_some]
  · rw [← haccess.bytes, Machine.bytes, Machine.advance, cpuAdvancePc_eq]
    rfl
  · rw [← haccess.translateD, Machine.advance, cpuAdvancePc_eq]
    rfl

/-- A sequence of loads and stores whose addresses are aligned and translate into main memory ends,
and leaves the registers and the bytes that the byte-addressed machine leaves, under the same
translation. -/
theorem bytes_run {prog : List MemInsn} {m : Machine}
    (h : ByteState.Accessible m.translateD m.bytes prog) :
    ∃ m', prog.foldlM (fun m i => execute (opcode i.inst) m (decode i.inst)) m = some m' ∧
      m'.bytes = m.bytes.run m.translateD prog ∧ m'.translateD = m.translateD := by
  induction prog generalizing m with
  | nil => exact ⟨m, rfl, rfl, rfl⟩
  | cons i prog ih =>
    obtain ⟨hmem, hrest⟩ := h
    obtain ⟨m₁, hexec, hbytes, htr⟩ := execute_memInsn hmem
    rw [← hbytes, ← htr] at hrest
    obtain ⟨m₂, hrun, hbytes₂, htr₂⟩ := ih hrest
    refine ⟨m₂, ?_, ?_, htr₂.trans htr⟩
    · rw [List.foldlM_cons, hexec]
      exact hrun
    · rw [hbytes₂, hbytes, htr]
      rfl

/-- `l.sb 0x100(r0),r1`. -/
def sbInsn : MemInsn := ⟨0xd8000900, .sb, rfl⟩

/-- `l.lbz r3,0x100(r0)`. -/
def lbzInsn : MemInsn := ⟨0x8c600100, .lbz, rfl⟩

theorem bytes_run_sb_lbz :
    ∃ m', [sbInsn, lbzInsn].foldlM (fun m i => execute (opcode i.inst) m (decode i.inst))
        (nopMachine 0x2000) = some m' ∧
      m'.bytes = (nopMachine 0x2000).bytes.run (nopMachine 0x2000).translateD [sbInsn, lbzInsn] ∧
      m'.translateD = (nopMachine 0x2000).translateD :=
  bytes_run ⟨⟨by decide, 0x100, rfl, by decide, by decide⟩,
    ⟨by decide, 0x100, rfl, by decide, by decide⟩, trivial⟩

end WirePatch
