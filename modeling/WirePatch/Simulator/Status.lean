import WirePatch.Simulator.Step

/-!
# Status codes in the value

The translation of an address and the word of a fetch carry their error codes in the value itself:
a physical address of at most 2 is taken for a status, and the word 0xdeadbeef for a failed fetch.
This file says for which addresses and words the outcome is reported as it is.

## Main definitions

* `LoadTruthful`, `StoreTruthful`, `AccessorsTruthful`: an accessor reports what it did.
* `FetchTruthful`: a step executes the word it fetched unless the fetch failed.

## Main results

* `accessorsTruthful_iff`: the accessors are truthful exactly above physical address 2.
* `fetchTruthful_iff`: a step is truthful unless it fetches from physical address 0 or fetches the
  word 0xdeadbeef.
-/

namespace WirePatch

/-! ### Guest memory -/

/-- A load from the translated address `phyAddr`, if there is one, reports what it did: the status
is 0 and the word at that address is read, or the status is 1 and nothing is read. Memory does not
change. -/
structure LoadTruthful (m : Machine) (phyAddr : Option U32) (out : LoadOut) : Prop where
  ret_eq_zero : out.ret = 0 ↔ phyAddr ≠ none
  ret_eq_one : out.ret = 1 ↔ phyAddr = none
  value : out.value = phyAddr.map m.word
  mem : out.machine.mem = m.mem

/-- A store to the translated address `phyAddr`, if there is one, reports what it did: the status
is 0 and the word at that address is the only one written, or the status is 1 and memory does not
change. -/
structure StoreTruthful (m : Machine) (phyAddr : Option U32) (value : U32) (out : Machine × U32) :
    Prop where
  ret_eq_zero : out.2 = 0 ↔ phyAddr ≠ none
  ret_eq_one : out.2 = 1 ↔ phyAddr = none
  mem : out.1.mem = phyAddr.elim m.mem fun p => ByteMemory.write 4 m.mem p value

/-- A byte instruction that finds its address in the translation buffer enters no exception: it
changes general purpose registers only. -/
def ByteTruthful (m : Machine) (cont : Control) (insn : Machine → Control → Machine) : Prop :=
  m.translateD (calcEa m.cpu cont) ≠ none →
    (insn m cont).cpu = { m.cpu with gpr := (insn m cont).cpu.gpr }

/-- The accessors of guest memory and the byte instructions report their outcome at an address. -/
structure AccessorsTruthful (m : Machine) (address : U32) : Prop where
  loadD : LoadTruthful m (m.translateD address) (guestLoadD m address)
  storeD : ∀ value, StoreTruthful m (m.translateD address) value (guestStoreD m address value)
  loadI : LoadTruthful m (m.translateI address)
    { machine := m, ret := (guestLoadI m address).1, value := (guestLoadI m address).2 }
  bytes : ∀ cont, calcEa m.cpu cont = address →
    ByteTruthful m cont Insn.lbz ∧ ByteTruthful m cont Insn.lbs ∧ ByteTruthful m cont Insn.sb

variable {m : Machine}

/-- A load whose walk returns the translation, or 1 on a miss, is truthful above address 2. -/
theorem loadTruthful_iff {phyAddr : Option U32} {out : LoadOut} (hmem : out.machine.mem = m.mem)
    (hload : 2 < phyAddr.getD 1 → out.ret = 0 ∧ out.value = some (m.word (phyAddr.getD 1)))
    (hstatus : ¬ 2 < phyAddr.getD 1 → out.ret = phyAddr.getD 1 ∧ out.value = none) :
    LoadTruthful m phyAddr out ↔ ∀ p, phyAddr = some p → 2 < p := by
  cases phyAddr with
  | none =>
    obtain ⟨hret, hvalue⟩ := hstatus (by decide)
    refine iff_of_true ⟨?_, ?_, hvalue, hmem⟩ (by simp)
    · exact iff_of_false (by rw [hret]; decide) (not_not.mpr rfl)
    · exact iff_of_true hret rfl
  | some p =>
    constructor
    · rintro ⟨hzero, -, hvalue, -⟩ q hq
      obtain rfl := Option.some.inj hq
      by_contra hle
      rw [(hstatus hle).2] at hvalue
      exact absurd hvalue (by simp)
    · intro h
      obtain ⟨hret, hvalue⟩ := hload (h p rfl)
      refine ⟨iff_of_true hret (by simp), ?_, hvalue, hmem⟩
      exact iff_of_false (by rw [hret]; decide) (by simp)

theorem guestLoadD_truthful_iff (address : U32) :
    LoadTruthful m (m.translateD address) (guestLoadD m address) ↔
      ∀ p, m.translateD address = some p → 2 < p := by
  refine loadTruthful_iff ?_ ?_ ?_
  · rw [guestLoadD]
    split_ifs <;> rfl
  · intro h
    rw [← virtualToPhysicalD_eq] at h ⊢
    rw [guestLoadD, if_pos h]
    exact ⟨rfl, rfl⟩
  · intro h
    rw [← virtualToPhysicalD_eq] at h ⊢
    rw [guestLoadD, if_neg h]
    exact ⟨rfl, rfl⟩

theorem guestLoadI_truthful_iff (address : U32) :
    LoadTruthful m (m.translateI address)
        { machine := m, ret := (guestLoadI m address).1, value := (guestLoadI m address).2 } ↔
      ∀ p, m.translateI address = some p → 2 < p := by
  refine loadTruthful_iff rfl ?_ ?_
  · intro h
    rw [← virtualToPhysicalI_eq] at h ⊢
    rw [guestLoadI, if_pos h]
    exact ⟨rfl, rfl⟩
  · intro h
    rw [← virtualToPhysicalI_eq] at h ⊢
    rw [guestLoadI, if_neg h]
    exact ⟨rfl, rfl⟩

theorem guestStoreD_truthful {address : U32} (h : ∀ p, m.translateD address = some p → 2 < p)
    (value : U32) :
    StoreTruthful m (m.translateD address) value (guestStoreD m address value) := by
  have hwalk := virtualToPhysicalD_eq m address
  cases htr : m.translateD address with
  | none =>
    rw [htr] at hwalk
    have hout : guestStoreD m address value = (m, 1) := by
      rw [guestStoreD, hwalk]
      rfl
    rw [hout]
    exact ⟨iff_of_false (by decide : (1 : U32) ≠ 0) (not_not.mpr rfl), iff_of_true rfl rfl, rfl⟩
  | some p =>
    rw [htr] at hwalk
    have hout : guestStoreD m address value = (storeFlushed m p value, 0) := by
      rw [guestStoreD, hwalk]
      exact if_pos (h p htr)
    rw [hout, storeFlushed_eq]
    exact ⟨iff_of_true rfl (by simp), iff_of_false (by decide : (0 : U32) ≠ 1) (by simp), rfl⟩

/-! ### Byte instructions -/

/-- The word around a byte does not translate to 1. -/
theorem virtualToPhysicalD_aligned_ne_one {address p : U32} (h : m.translateD address = some p) :
    virtualToPhysicalD m (address &&& ~~~0x3) ≠ 1 := by
  have haligned : m.translateD (address &&& ~~~0x3) = some (p &&& ~~~0x3) := translate_aligned h
  rw [virtualToPhysicalD_eq, haligned, Option.getD_some]
  intro hone
  have hbit := congrArg (BitVec.getLsbD · 0) hone
  simp at hbit

/-- A load whose walk does not return 1 changes nothing but the record of accesses. -/
theorem simLoadData_machine {address : U32} (h : virtualToPhysicalD m address ≠ 1) :
    ∃ log, (simLoadData m address).machine = { m with log := log } := by
  rcases status_cases (virtualToPhysicalD m address) with hp | hp | hp | hp
  · exact ⟨_, by rw [simLoadData_of_two_lt hp]; rfl⟩
  · exact ⟨m.log, by rw [simLoadData_of_eq_zero hp]⟩
  · exact absurd hp h
  · exact ⟨m.log, by rw [simLoadData_of_eq_two hp]⟩

/-- A store whose walk does not return 1 changes no register. -/
theorem simStoreData_cpu {address : U32} (h : virtualToPhysicalD m address ≠ 1) (value : U32) :
    (simStoreData m address value).1.cpu = m.cpu := by
  by_cases hp : 2 < virtualToPhysicalD m address
  · rw [simStoreData_of_two_lt value hp, storeFlushed_eq]
  · rw [simStoreData_of_status value hp h]

section Bytes

variable {cont : Control} (h : m.translateD (calcEa m.cpu cont) ≠ some 1)

include h in
/-- Neither the byte nor the word around it is taken for a miss. -/
theorem byte_walk_ne_one (htr : m.translateD (calcEa m.cpu cont) ≠ none) :
    virtualToPhysicalD m (calcEa m.cpu cont) ≠ 1 ∧
      virtualToPhysicalD m (calcEa m.cpu cont &&& ~~~0x3) ≠ 1 := by
  obtain ⟨p, hp⟩ := Option.ne_none_iff_exists'.mp htr
  refine ⟨?_, virtualToPhysicalD_aligned_ne_one hp⟩
  rw [virtualToPhysicalD_eq, hp]
  rintro rfl
  exact h hp

include h in
/-- A byte load at an address that translates to anything but 1 enters no exception. -/
theorem byteTruthful_loadByteOf (ext : BitVec 8 → U32) (value : U32 → U32 → U32) :
    ByteTruthful m cont (Insn.loadByteOf ext value) := by
  intro htr
  obtain ⟨hne, haligned⟩ := byte_walk_ne_one h htr
  obtain ⟨log, hlog⟩ := simLoadData_machine haligned
  simp only [Insn.loadByteOf, if_neg hne, Insn.loadWord, hlog]
  split_ifs <;> rfl

include h in
/-- A byte store at an address that translates to anything but 1 enters no exception. -/
theorem byteTruthful_sb : ByteTruthful m cont Insn.sb := by
  intro htr
  obtain ⟨hne, haligned⟩ := byte_walk_ne_one h htr
  obtain ⟨log, hlog⟩ := simLoadData_machine haligned
  have hstore (value : U32) : (simStoreData { m with log := log }
      (calcEa m.cpu cont &&& ~~~0x3) value).1.cpu = m.cpu :=
    simStoreData_cpu (m := { m with log := log }) haligned value
  simp only [Insn.sb, if_neg hne, Insn.updateWord, hlog]
  split_ifs
  · rfl
  · rw [hstore]
  · rfl

end Bytes

/-- The accessors and the byte instructions report their outcome at an address exactly when neither
its data nor its instruction translation is a physical address of at most 2. -/
theorem accessorsTruthful_iff (m : Machine) (address : U32) :
    AccessorsTruthful m address ↔
      (∀ p, m.translateD address = some p → 2 < p) ∧
        ∀ p, m.translateI address = some p → 2 < p := by
  constructor
  · rintro ⟨hloadD, -, hloadI, -⟩
    exact ⟨(guestLoadD_truthful_iff address).mp hloadD,
      (guestLoadI_truthful_iff address).mp hloadI⟩
  · rintro ⟨hD, hI⟩
    refine ⟨(guestLoadD_truthful_iff address).mpr hD, guestStoreD_truthful hD,
      (guestLoadI_truthful_iff address).mpr hI, ?_⟩
    rintro cont rfl
    have hne : m.translateD (calcEa m.cpu cont) ≠ some 1 := fun h => absurd (hD 1 h) (by decide)
    exact ⟨byteTruthful_loadByteOf hne _ _, byteTruthful_loadByteOf hne _ _, byteTruthful_sb hne⟩

/-- With the memory management unit disabled, address 1 is reported as a miss. -/
theorem not_accessorsTruthful_one : ¬ AccessorsTruthful (nopMachine 0x2000) 1 :=
  fun h => absurd h.loadD.value (by decide)

/-! ### Fetch -/

/-- The fetch of the next step fails: the walk returns a status that is not 0. -/
def fetchFaults (m : Machine) : Prop :=
  (guestLoadI m m.cpu.pc).1 = 1 ∨ (guestLoadI m m.cpu.pc).1 = 2

/-- The exception of a failed fetch. -/
def fetchFault (m : Machine) : Exc :=
  if (guestLoadI m m.cpu.pc).1 = 1 then .instructionTLBMiss m.cpu.pc
  else .instructionPageFault m.cpu.pc

/-- A step skips decode and execute exactly when its fetch fails, and enters the exception then;
otherwise it executes the word at the translated program counter. -/
structure FetchTruthful (m : Machine) : Prop where
  skips_iff : executedInst m = none ↔ fetchFaults m
  fault : fetchFaults m →
    cpuExecInst m = some (m.setCpu ((fetchFault m).enter m.cpu)).advance
  executes : ¬ fetchFaults m → ∃ p, m.translateI m.cpu.pc = some p ∧
    cpuExecInst m = execute (opcode (m.word p)) m (decode (m.word p))

theorem guestLoadI_ret (m : Machine) (address : U32) :
    (guestLoadI m address).1 =
      if 2 < virtualToPhysicalI m address then 0 else virtualToPhysicalI m address := by
  rw [guestLoadI]
  split_ifs <;> rfl

/-- A step whose walk returns 1 or 2 is truthful. -/
theorem fetchTruthful_of_fault
    (h : virtualToPhysicalI m m.cpu.pc = 1 ∨ virtualToPhysicalI m m.cpu.pc = 2) :
    FetchTruthful m := by
  have hfault : fetchFaults m := by
    rw [fetchFaults, guestLoadI_ret]
    rcases h with h | h <;> rw [h] <;> decide
  have hfetch : fetch m = (m.setCpu ((fetchFault m).enter m.cpu), fetchMarker) := by
    rw [fetchFault, guestLoadI_ret]
    rcases h with h | h
    · rw [fetch_of_eq_one h, h]
      rfl
    · rw [fetch_of_eq_two h, h]
      rfl
  have hskip : executedInst m = none := by rw [executedInst, hfetch, if_pos rfl]
  refine ⟨iff_of_true hskip hfault, fun _ => ?_, fun hno => absurd hfault hno⟩
  rw [cpuExecInst_eq, hskip, hfetch]

/-- A step whose walk returns 0 is skipped although its fetch does not fail. -/
theorem not_fetchTruthful_of_zero (h : virtualToPhysicalI m m.cpu.pc = 0) :
    ¬ FetchTruthful m := by
  have hno : ¬ fetchFaults m := by
    rw [fetchFaults, guestLoadI_ret, h]
    decide
  have hskip : executedInst m = none := by rw [executedInst, fetch_of_eq_zero h, if_pos rfl]
  exact fun ht => hno (ht.skips_iff.mp hskip)

/-- A step that reads a word is truthful exactly when this is not the marker. -/
theorem fetchTruthful_iff_of_two_lt {p : U32} (htr : m.translateI m.cpu.pc = some p)
    (hp : 2 < p) : FetchTruthful m ↔ m.word p ≠ fetchMarker := by
  have hwalk : virtualToPhysicalI m m.cpu.pc = p := by
    rw [virtualToPhysicalI_eq, htr, Option.getD_some]
  have hno : ¬ fetchFaults m := by
    rw [fetchFaults, guestLoadI_ret, hwalk, if_pos hp]
    decide
  have hfetch : (fetch m).2 = m.word p := by rw [fetch_of_two_lt (hwalk ▸ hp), hwalk]
  constructor
  · intro ht hword
    have hskip : executedInst m = none := by rw [executedInst, hfetch, if_pos hword]
    exact hno (ht.skips_iff.mp hskip)
  · intro hword
    have hexec : executedInst m = some (m.word p) := by rw [executedInst, hfetch, if_neg hword]
    refine ⟨iff_of_false (by rw [hexec]; simp) hno, fun hf => absurd hf hno, fun _ => ?_⟩
    exact ⟨p, htr, cpuExecInst_of_executed hexec⟩

/-- A step is truthful exactly when the program counter does not translate to physical address 0
and the word it translates to is not the marker of a failed fetch. -/
theorem fetchTruthful_iff (m : Machine) :
    FetchTruthful m ↔
      ∀ p, m.translateI m.cpu.pc = some p → p ≠ 0 ∧ (2 < p → m.word p ≠ fetchMarker) := by
  have hwalk := virtualToPhysicalI_eq m m.cpu.pc
  cases htr : m.translateI m.cpu.pc with
  | none =>
    rw [htr] at hwalk
    exact iff_of_true (fetchTruthful_of_fault (.inl hwalk)) (by simp)
  | some p =>
    rw [htr, Option.getD_some] at hwalk
    have hcond : (∀ q, some p = some q → q ≠ 0 ∧ (2 < q → m.word q ≠ fetchMarker)) ↔
        p ≠ 0 ∧ (2 < p → m.word p ≠ fetchMarker) :=
      ⟨fun h => h p rfl, fun h q hq => Option.some.inj hq ▸ h⟩
    rw [hcond]
    rcases status_cases p with hp | rfl | hp
    · have hne : p ≠ 0 := by
        rintro rfl
        exact absurd hp (by decide)
      rw [fetchTruthful_iff_of_two_lt htr hp]
      exact ⟨fun h => ⟨hne, fun _ => h⟩, fun h => h.2 hp⟩
    · exact iff_of_false (not_fetchTruthful_of_zero hwalk) fun h => h.1 rfl
    · refine iff_of_true (fetchTruthful_of_fault ?_) ?_
      · rcases hp with rfl | rfl
        · exact .inl hwalk
        · exact .inr hwalk
      · rcases hp with rfl | rfl <;> exact ⟨by decide, fun h => absurd h (by decide)⟩

/-- The word 0xdeadbeef is an `l.sh`, which a step skips. -/
theorem not_fetchTruthful_marker : ¬ FetchTruthful (.filled 0xdeadbeef (.startAt 0x2000)) :=
  fun h => absurd (h.skips_iff.mp (by decide)) (by
    rw [fetchFaults]
    decide)

end WirePatch
