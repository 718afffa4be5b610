import WirePatch.Foundations.ByteMemory
import WirePatch.Simulator.State

/-!
# Address translation and guest memory

The MMU support of the simulator, `mmu_support.c`. A guest address is translated through the
translation buffers of the processor the firmware runs on, which the firmware reads with
`l.mfspr`; the two walks differ only in the registers they read, and are one definition
(`virtualToPhysical`). The accessors return the physical address itself as their status when it
is at most 2.

## Main definitions

* `virtualToPhysicalD`, `virtualToPhysicalI`.
* `guestLoadD`, `guestStoreD`, `guestLoadI`.
* `translate`: the translation as a partial function, apart from the status codes.

## Main results

* `virtualToPhysical_eq`: the walk returns the translation, and 1 on a miss.
* `translate_of_same_page`, `translate_aligned`: a translation acts on pages.
* `guestStoreD_eq`: a store changes memory and the two cache registers.
-/

namespace WirePatch

/-! ### Special purpose registers of the hardware -/

def sprSr : U32 := 17
def sprDcbfr : U32 := (3 <<< 11) + 2
def sprIcbir : U32 := (4 <<< 11) + 2

/-- `getSPR`. -/
def getSPR (m : Machine) (spr : U32) : U32 :=
  m.spr spr

/-- `setSPR`. -/
def setSPR (m : Machine) (spr value : U32) : Machine :=
  { m with spr := Function.update m.spr spr value }

/-! ### The walk through a translation buffer -/

/-- `NUM_WAYS`. -/
def numWays : ℕ := 1

/-- `NUM_SETS_WAY`. -/
def numSetsWay : U32 := 64

/-- The numbers of the match and translate registers of a translation buffer. -/
structure TlbRegs where
  /-- Set 0 of a way of the match registers. -/
  mrBase : U32 → U32
  /-- Set 0 of a way of the translate registers. -/
  trBase : U32 → U32

/-- `SPR_DTLBMR_BASE` and `SPR_DTLBTR_BASE`. -/
def dtlb : TlbRegs where
  mrBase := fun way => (1 <<< 11) + 0x200 + way * 0x100
  trBase := fun way => (1 <<< 11) + 0x280 + way * 0x100

/-- `SPR_ITLBMR_BASE` and `SPR_ITLBTR_BASE`. -/
def itlb : TlbRegs where
  mrBase := fun way => (2 <<< 11) + 0x200 + way * 0x100
  trBase := fun way => (2 <<< 11) + 0x280 + way * 0x100

/-- `tlbEntryValid`. -/
def tlbEntryValid (entry : U32) : U32 := entry &&& 0x00000001

/-- `tlbVPN`. -/
def tlbVPN (entry : U32) : U32 := entry &&& 0xffffe000

/-- `tlbPPN`. -/
def tlbPPN (entry : U32) : U32 := entry &&& 0xffffe000

/-- `addressNoOffset`. -/
def addressNoOffset (address : U32) : U32 := address &&& 0xffffe000

/-- `addressOffset`. -/
def addressOffset (address : U32) : U32 := address &&& 0x00001fff

/-- The set of a translation buffer that an address falls in. -/
def setIndex (guestAddr : U32) : U32 :=
  guestAddr >>> 13 &&& (numSetsWay - 1)

/-- The walk over the remaining `n` ways, from `way` on. -/
def walkWays (regs : TlbRegs) (spr : U32 → U32) (guestAddr : U32) : ℕ → U32 → U32
  | 0, _ => 1
  | n + 1, way =>
    if tlbEntryValid (spr (regs.mrBase way + setIndex guestAddr)) = 0 then
      walkWays regs spr guestAddr n (way + 1)
    else if tlbVPN (spr (regs.mrBase way + setIndex guestAddr)) = addressNoOffset guestAddr then
      tlbPPN (spr (regs.trBase way + setIndex guestAddr)) ||| addressOffset guestAddr
    else
      walkWays regs spr guestAddr n (way + 1)

/-- The translation of an address when the memory management unit is enabled or not; 1 stands for
a miss. -/
def virtualToPhysical (regs : TlbRegs) (enabled : Bool) (spr : U32 → U32) (guestAddr : U32) :
    U32 :=
  if !enabled then guestAddr else walkWays regs spr guestAddr numWays 0

/-- `virtualToPhysicalD`. -/
def virtualToPhysicalD (m : Machine) (guestAddr : U32) : U32 :=
  virtualToPhysical dtlb (cpuIsSetSrFlag m.cpu sprSrDme) m.spr guestAddr

/-- `virtualToPhysicalI`. -/
def virtualToPhysicalI (m : Machine) (guestAddr : U32) : U32 :=
  virtualToPhysical itlb (cpuIsSetSrFlag m.cpu sprSrIme) m.spr guestAddr

/-! ### Guest memory -/

/-- The machine after a data access. -/
def Machine.record (m : Machine) (access : Access) : Machine :=
  { m with log := access :: m.log }

/-- The word at a physical address. -/
def Machine.word (m : Machine) (phyAddr : U32) : U32 :=
  ByteMemory.read 4 m.mem phyAddr

/-- `guestStore`. -/
def guestStore (m : Machine) (phyAddr value : U32) : Machine :=
  { m with
    mem := ByteMemory.write 4 m.mem phyAddr value
    log := ⟨.store, .word, phyAddr, value⟩ :: m.log }

/-- `flushCaches`. -/
def flushCaches (m : Machine) (phyAddr : U32) : Machine :=
  setSPR (setSPR m sprDcbfr phyAddr) sprIcbir phyAddr

/-- The body of `guestStoreD` for a translated address: the caches and the memory management
units of the processor are off while the word is written. -/
def storeFlushed (m : Machine) (phyAddr value : U32) : Machine :=
  let m := flushCaches m phyAddr
  let temp := getSPR m sprSr
  let m := setSPR m sprSr (temp &&& 0xffffffe7)
  let m := guestStore m phyAddr value
  setSPR m sprSr temp

/-- What a load leaves: the machine, the status, and the word stored through `value`, if any. -/
structure LoadOut where
  machine : Machine
  ret : U32
  value : Option U32

/-- `guestLoadD`. -/
def guestLoadD (m : Machine) (guestAddr : U32) : LoadOut :=
  if virtualToPhysicalD m guestAddr > 2 then
    { machine := m.record ⟨.load, .word, virtualToPhysicalD m guestAddr,
        m.word (virtualToPhysicalD m guestAddr)⟩
      ret := 0
      value := some (m.word (virtualToPhysicalD m guestAddr)) }
  else
    { machine := m, ret := virtualToPhysicalD m guestAddr, value := none }

/-- `guestStoreD`: the machine and the status. -/
def guestStoreD (m : Machine) (guestAddr value : U32) : Machine × U32 :=
  if virtualToPhysicalD m guestAddr > 2 then
    (storeFlushed m (virtualToPhysicalD m guestAddr) value, 0)
  else
    (m, virtualToPhysicalD m guestAddr)

/-- `guestLoadI`: the status and the word stored through `value`, if any. -/
def guestLoadI (m : Machine) (guestAddr : U32) : U32 × Option U32 :=
  if virtualToPhysicalI m guestAddr > 2 then
    (0, some (m.word (virtualToPhysicalI m guestAddr)))
  else
    (virtualToPhysicalI m guestAddr, none)

/-! ### The translation as a partial function -/

/-- A valid entry of a translation buffer matches an address. -/
def tlbHit (regs : TlbRegs) (spr : U32 → U32) (guestAddr : U32) : Prop :=
  tlbEntryValid (spr (regs.mrBase 0 + setIndex guestAddr)) ≠ 0 ∧
    tlbVPN (spr (regs.mrBase 0 + setIndex guestAddr)) = addressNoOffset guestAddr

instance (regs : TlbRegs) (spr : U32 → U32) (guestAddr : U32) :
    Decidable (tlbHit regs spr guestAddr) :=
  inferInstanceAs (Decidable (_ ∧ _))

/-- The physical address of a guest address: the address itself when the memory management unit
is disabled, the page of the matching entry with the offset of the address when there is one. -/
def translate (regs : TlbRegs) (enabled : Bool) (spr : U32 → U32) (guestAddr : U32) :
    Option U32 :=
  if enabled then
    if tlbHit regs spr guestAddr then
      some (tlbPPN (spr (regs.trBase 0 + setIndex guestAddr)) ||| addressOffset guestAddr)
    else
      none
  else
    some guestAddr

/-- The data translation of a machine. -/
def Machine.translateD (m : Machine) (guestAddr : U32) : Option U32 :=
  translate dtlb (cpuIsSetSrFlag m.cpu sprSrDme) m.spr guestAddr

/-- The instruction translation of a machine. -/
def Machine.translateI (m : Machine) (guestAddr : U32) : Option U32 :=
  translate itlb (cpuIsSetSrFlag m.cpu sprSrIme) m.spr guestAddr

/-- The walk returns the translation, and 1 on a miss. -/
theorem virtualToPhysical_eq (regs : TlbRegs) (enabled : Bool) (spr : U32 → U32)
    (guestAddr : U32) :
    virtualToPhysical regs enabled spr guestAddr =
      (translate regs enabled spr guestAddr).getD 1 := by
  cases enabled with
  | false => rfl
  | true =>
    simp only [virtualToPhysical, translate, numWays, walkWays, tlbHit, Bool.not_true,
      Bool.false_eq_true, if_false, if_true]
    split_ifs <;> simp_all

theorem virtualToPhysicalD_eq (m : Machine) (guestAddr : U32) :
    virtualToPhysicalD m guestAddr = (m.translateD guestAddr).getD 1 :=
  virtualToPhysical_eq ..

theorem virtualToPhysicalI_eq (m : Machine) (guestAddr : U32) :
    virtualToPhysicalI m guestAddr = (m.translateI guestAddr).getD 1 :=
  virtualToPhysical_eq ..

/-! ### Translation acts on pages -/

theorem noOffset_or_offset (address : U32) :
    addressNoOffset address ||| addressOffset address = address := by
  rw [addressNoOffset, addressOffset, ← BitVec.and_or_distrib_left]
  exact BitVec.and_allOnes

theorem noOffset_offset (address : U32) : addressOffset address &&& 0xffffe000 = 0 := by
  rw [addressOffset, BitVec.and_assoc]
  exact BitVec.and_zero

theorem offset_noOffset (entry : U32) : tlbPPN entry &&& 0x00001fff = 0 := by
  rw [tlbPPN, BitVec.and_assoc]
  exact BitVec.and_zero

/-- An address with the page of one word and the offset of another has that page. -/
theorem noOffset_tlbPPN_or (entry address : U32) :
    addressNoOffset (tlbPPN entry ||| addressOffset address) = tlbPPN entry := by
  rw [addressNoOffset, BitVec.and_or_distrib_right, noOffset_offset, tlbPPN, BitVec.and_assoc]
  exact BitVec.or_zero

theorem offset_tlbPPN_or (entry address : U32) :
    addressOffset (tlbPPN entry ||| addressOffset address) = addressOffset address := by
  rw [addressOffset, BitVec.and_or_distrib_right, offset_noOffset, addressOffset, BitVec.and_assoc]
  exact BitVec.zero_or

/-- The set depends on the page only. -/
theorem setIndex_eq (address : U32) :
    setIndex address = addressNoOffset address >>> 13 &&& (numSetsWay - 1) := by
  rw [setIndex, addressNoOffset, BitVec.ushiftRight_and_distrib, BitVec.and_assoc]
  rfl

theorem tlbHit_congr {regs : TlbRegs} {spr : U32 → U32} {a b : U32}
    (h : addressNoOffset a = addressNoOffset b) : tlbHit regs spr a ↔ tlbHit regs spr b := by
  rw [tlbHit, tlbHit, setIndex_eq a, setIndex_eq b, h]

/-- Two addresses of one guest page translate to one physical page, each with its own offset. -/
theorem translate_of_same_page {regs : TlbRegs} {enabled : Bool} {spr : U32 → U32} {a b p : U32}
    (h : addressNoOffset b = addressNoOffset a) (ha : translate regs enabled spr a = some p) :
    translate regs enabled spr b = some (addressNoOffset p ||| addressOffset b) := by
  rw [translate] at ha ⊢
  split_ifs at ha with hen hhit
  · obtain rfl := Option.some.inj ha
    rw [if_pos hen, if_pos ((tlbHit_congr h).mpr hhit), noOffset_tlbPPN_or, setIndex_eq b, h,
      ← setIndex_eq]
  · obtain rfl := Option.some.inj ha
    rw [if_neg hen, ← h, noOffset_or_offset]

/-- A translation keeps the offset of the address. -/
theorem offset_of_translate {regs : TlbRegs} {enabled : Bool} {spr : U32 → U32} {a p : U32}
    (ha : translate regs enabled spr a = some p) : addressOffset p = addressOffset a := by
  rw [translate] at ha
  split_ifs at ha with hen hhit
  · obtain rfl := Option.some.inj ha
    exact offset_tlbPPN_or ..
  · obtain rfl := Option.some.inj ha
    rfl

/-- The word around an address translates to the word around its translation. -/
theorem translate_aligned {regs : TlbRegs} {enabled : Bool} {spr : U32 → U32} {a p : U32}
    (ha : translate regs enabled spr a = some p) :
    translate regs enabled spr (a &&& ~~~0x3) = some (p &&& ~~~0x3) := by
  have hpage : addressNoOffset (a &&& ~~~0x3) = addressNoOffset a := by
    rw [addressNoOffset, BitVec.and_assoc]
    rfl
  have hoffset : addressOffset (a &&& ~~~0x3) = addressOffset p &&& ~~~0x3 := by
    rw [offset_of_translate ha, addressOffset, addressOffset, BitVec.and_assoc, BitVec.and_assoc,
      BitVec.and_comm (~~~0x3)]
  have hkeep : addressNoOffset p = addressNoOffset p &&& ~~~0x3 := by
    rw [addressNoOffset, BitVec.and_assoc]
    rfl
  rw [translate_of_same_page hpage ha, hoffset, hkeep, ← BitVec.and_or_distrib_right, noOffset_or_offset]

/-! ### Stores -/

/-- A store changes memory and the two cache registers: the supervision register of the processor
is restored. -/
theorem storeFlushed_eq (m : Machine) (phyAddr value : U32) :
    storeFlushed m phyAddr value =
      { m with
        mem := ByteMemory.write 4 m.mem phyAddr value
        spr := Function.update (Function.update m.spr sprDcbfr phyAddr) sprIcbir phyAddr
        log := ⟨.store, .word, phyAddr, value⟩ :: m.log } := by
  simp only [storeFlushed, flushCaches, guestStore, setSPR, getSPR, Function.update_idem,
    Function.update_eq_self]

theorem setIndex_toNat_lt (address : U32) : (setIndex address).toNat < 64 := by
  rw [setIndex, BitVec.toNat_and]
  exact (Nat.and_le_right).trans_lt (by decide)

/-- The cache registers are none of the data translation buffer. -/
theorem dtlb_ne_cacheRegs (address : U32) :
    (dtlb.mrBase 0 + setIndex address ≠ sprDcbfr ∧ dtlb.mrBase 0 + setIndex address ≠ sprIcbir) ∧
      dtlb.trBase 0 + setIndex address ≠ sprDcbfr ∧
        dtlb.trBase 0 + setIndex address ≠ sprIcbir := by
  have hset := setIndex_toNat_lt address
  have hne {base reg : U32} (hbase : base.toNat + 64 ≤ reg.toNat) :
      base + setIndex address ≠ reg := by
    intro h
    have hreg := reg.isLt
    have := congrArg BitVec.toNat h
    rw [BitVec.toNat_add, Nat.mod_eq_of_lt (by omega)] at this
    omega
  exact ⟨⟨hne (by decide), hne (by decide)⟩, hne (by decide), hne (by decide)⟩

/-- A translation depends on the registers of its entry only. -/
theorem translate_congr {regs : TlbRegs} {enabled : Bool} {spr spr' : U32 → U32} {address : U32}
    (hmr : spr' (regs.mrBase 0 + setIndex address) = spr (regs.mrBase 0 + setIndex address))
    (htr : spr' (regs.trBase 0 + setIndex address) = spr (regs.trBase 0 + setIndex address)) :
    translate regs enabled spr' address = translate regs enabled spr address := by
  have hhit : tlbHit regs spr' address ↔ tlbHit regs spr address := by rw [tlbHit, tlbHit, hmr]
  simp only [translate, hhit, htr]

/-- A store keeps the data translation. -/
theorem translateD_storeFlushed (m : Machine) (phyAddr value : U32) :
    (storeFlushed m phyAddr value).translateD = m.translateD := by
  funext address
  obtain ⟨⟨hmd, hmi⟩, htd, hti⟩ := dtlb_ne_cacheRegs address
  rw [storeFlushed_eq]
  refine translate_congr ?_ ?_
  · exact (Function.update_of_ne hmi ..).trans (Function.update_of_ne hmd ..)
  · exact (Function.update_of_ne hti ..).trans (Function.update_of_ne htd ..)

end WirePatch
