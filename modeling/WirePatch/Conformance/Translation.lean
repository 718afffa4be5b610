import WirePatch.Hardware.Dmmu
import WirePatch.Simulator.Execute

/-!
# Translation of data addresses: the simulator and the processor

The firmware translates the addresses of the program it simulates through the translation buffer of
the processor, which it reads with `l.mfspr`. It finds the physical address the processor finds, and
misses where the processor misses. It does not look at the permissions of the page.

## Main definitions

* `Or1200.Dmmu.ReadBy`: the registers `l.mfspr` reads are those of the buffer.
* `Or1200.Dmmu.spr`: the word of a register of the buffer.

## Main results

* `Or1200.Dmmu.sprDat_step`: what `l.mfspr` reads.
* `Or1200.Dmmu.translate_of_readBy`: both look up the same physical address.
* `Or1200.Dmmu.translateD_of_run`: the answers of the unit in a run, as the simulator sees them.
-/

namespace WirePatch.Or1200

/-! ### Words of the buffer -/

theorem extractLsb'_read (m : MatchEntry) (index : BitVec 6) :
    (m.read index).extractLsb' 13 19 = m.vpn ++ index := by
  refine (BitVec.extractLsb'_append_eq_of_le (by decide)).trans ?_
  refine (BitVec.extractLsb'_append_eq_of_le (by decide)).trans ?_
  refine (BitVec.extractLsb'_append_eq_of_le (by decide)).trans ?_
  exact (BitVec.extractLsb'_append_eq_of_le (by decide)).trans BitVec.extractLsb'_eq_self

theorem ppn_read (e : TranslateEntry) : e.read.extractLsb' 13 19 = e.ppn := by
  refine (BitVec.extractLsb'_append_eq_of_le (by decide)).trans ?_
  refine (BitVec.extractLsb'_append_eq_of_le (by decide)).trans ?_
  refine (BitVec.extractLsb'_append_eq_of_le (by decide)).trans ?_
  refine (BitVec.extractLsb'_append_eq_of_le (by decide)).trans ?_
  refine (BitVec.extractLsb'_append_eq_of_le (by decide)).trans ?_
  refine (BitVec.extractLsb'_append_eq_of_le (by decide)).trans ?_
  refine (BitVec.extractLsb'_append_eq_of_le (by decide)).trans ?_
  exact (BitVec.extractLsb'_append_eq_of_le (by decide)).trans BitVec.extractLsb'_eq_self

theorem getLsbD_pageMask (i : ℕ) : (0x00001fff : U32).getLsbD i = decide (i < 13) :=
  Nat.testBit_two_pow_sub_one 13 i

/-- A word with its low bits cleared. -/
theorem and_pageMask (w : U32) : w &&& 0xffffe000 = w.extractLsb' 13 19 ++ 0#13 := by
  refine BitVec.eq_of_getLsbD_eq fun i hi => ?_
  rw [show (0xffffe000 : U32) = ~~~0x00001fff from rfl, BitVec.getLsbD_and, BitVec.getLsbD_not,
    getLsbD_pageMask, BitVec.getLsbD_append, BitVec.getLsbD_extractLsb', decide_eq_true hi]
  by_cases hlow : i < 13
  · simp [hlow]
  · simp [hlow, show i - 13 < 19 by omega, show 13 + (i - 13) = i by omega]

theorem setIndex_eq_setWidth (a : U32) : setIndex a = (tlbIndexOf a).setWidth 32 := by
  refine BitVec.eq_of_toNat_eq ?_
  rw [setIndex, show numSetsWay - 1 = (0x3f : U32) from rfl, BitMask.toNat_and_low 6 rfl,
    BitVec.toNat_setWidth, tlbIndexOf, BitVec.extractLsb'_toNat, BitVec.toNat_ushiftRight]
  omega

/-- A page is its tag and its index. -/
theorem extractLsb'_page (a : U32) : a.extractLsb' 13 19 = tagOf a ++ tlbIndexOf a := by
  refine BitVec.eq_of_getLsbD_eq fun i hi => ?_
  rw [BitVec.getLsbD_append, tagOf, tlbIndexOf, BitVec.getLsbD_extractLsb',
    BitVec.getLsbD_extractLsb', BitVec.getLsbD_extractLsb', decide_eq_true hi]
  by_cases hlow : i < 6
  · simp [hlow]
  · simp [hlow, show i - 6 < 13 by omega, show 19 + (i - 6) = 13 + i by omega]

/-! ### Lookups -/

namespace Dmmu

/-- The registers that `l.mfspr` reads are those of the buffer. -/
structure ReadBy (s : Dmmu) (spr : U32 → U32) : Prop where
  mr : ∀ k : BitVec 6, spr (dtlb.mrBase 0 + k.setWidth 32) = (s.mr.mem k).read k
  tr : ∀ k : BitVec 6, spr (dtlb.trBase 0 + k.setWidth 32) = (s.tr.mem k).read

theorem tlbEntryValid_read (m : MatchEntry) (index : BitVec 6) :
    tlbEntryValid (m.read index) ≠ 0 ↔ m.v = true := by
  have hbit : (m.read index).getLsbD 0 = m.v := by
    rw [MatchEntry.read, BitVec.getLsbD_append]
    simp
  have hmask := BitMask.and_twoPow_ne_zero_iff (i := 0) (by decide) (m.read index)
  rw [hbit] at hmask
  exact hmask

theorem tlbVPN_read (m : MatchEntry) (index : BitVec 6) (a : U32) (hindex : index = tlbIndexOf a) :
    tlbVPN (m.read index) = addressNoOffset a ↔ m.vpn = tagOf a := by
  rw [tlbVPN, addressNoOffset, and_pageMask, and_pageMask, extractLsb'_read, extractLsb'_page,
    hindex]
  exact (BitVec.append_left_inj _).trans (BitVec.append_left_inj _)

theorem tlbPPN_read (e : TranslateEntry) (a : U32) :
    tlbPPN e.read ||| addressOffset a = inPage e.ppn a := by
  rw [tlbPPN, and_pageMask, ppn_read, addressOffset, inPage]
  refine BitVec.eq_of_getLsbD_eq fun i hi => ?_
  rw [BitVec.getLsbD_or, BitVec.getLsbD_and, getLsbD_pageMask, BitVec.getLsbD_append,
    BitVec.getLsbD_append, BitVec.getLsbD_extractLsb']
  by_cases hlow : i < 13 <;> simp [hlow]

/-- The simulator finds the entry of the buffer. -/
theorem translate_of_readBy {s : Dmmu} {spr : U32 → U32} (h : s.ReadBy spr) (a : U32) :
    translate dtlb true spr a = (s.lookup a).map fun e => inPage e.ppn a := by
  have hhit : tlbHit dtlb spr a ↔
      (s.mr.mem (tlbIndexOf a)).v = true ∧ (s.mr.mem (tlbIndexOf a)).vpn = tagOf a := by
    rw [tlbHit, setIndex_eq_setWidth, h.mr, tlbEntryValid_read, tlbVPN_read _ _ _ rfl]
  rw [translate, if_pos rfl, lookup]
  simp only [hhit]
  split_ifs
  · rw [Option.map_some, setIndex_eq_setWidth, h.tr, tlbPPN_read]
  · rfl

/-! ### Registers -/

/-- The word of the register with a number. -/
def spr (s : Dmmu) (number : U32) : U32 :=
  let k := number.extractLsb' 0 6
  if number.getLsbD 7 then (s.tr.mem k).read else (s.mr.mem k).read k

/-- A register that `l.mfspr` reads for two cycles is at the output in the second one. -/
theorem sprDat_step (s : Dmmu) {i j : DmmuIn} (hcs : i.sprCs = true) (hwrite : i.sprWrite = false)
    (hcs' : j.sprCs = true) (hwrite' : j.sprWrite = false) (haddr : j.sprAddr = i.sprAddr) :
    (s.step i).sprDat j = s.spr i.sprAddr := by
  have hmr : (s.mr.step i.mrPort).mem = s.mr.mem :=
    SyncRam.Ram.mem_step_of_not_we (by simp [DmmuIn.mrPort, hwrite])
  have htr : (s.tr.step i.trPort).mem = s.tr.mem :=
    SyncRam.Ram.mem_step_of_not_we (by simp [DmmuIn.trPort, hwrite])
  have hindex : j.tlbIndex = i.sprAddr.extractLsb' 0 6 := by
    rw [DmmuIn.tlbIndex, hcs', if_pos rfl, haddr]
  have haddr₀ : i.tlbIndex = i.sprAddr.extractLsb' 0 6 := by
    rw [DmmuIn.tlbIndex, hcs, if_pos rfl]
  rw [sprDat, spr, hcs', hwrite', haddr, hindex]
  cases hbit : i.sprAddr.getLsbD 7 with
  | false =>
    have hce : i.mrPort.ce = true := by
      rw [DmmuIn.mrPort, hcs, hbit]
      exact Bool.or_true _
    change (s.mr.step i.mrPort).doq.read _ = _
    rw [SyncRam.Ram.doq_step hce, hmr]
    exact congrArg (fun k => (s.mr.mem k).read _) haddr₀
  | true =>
    have hce : i.trPort.ce = true := by
      rw [DmmuIn.trPort, hcs, hbit]
      exact Bool.or_true _
    change (s.tr.step i.trPort).doq.read = _
    rw [SyncRam.Ram.doq_step hce, htr]
    exact congrArg (fun k => (s.tr.mem k).read) haddr₀

theorem readBy_spr (s : Dmmu) : s.ReadBy s.spr where
  mr := fun k => by
    have hnumber : (dtlb.mrBase 0 + k.setWidth 32).getLsbD 7 = false ∧
        (dtlb.mrBase 0 + k.setWidth 32).extractLsb' 0 6 = k := by
      revert k
      decide
    rw [spr, hnumber.1, hnumber.2]
    rfl
  tr := fun k => by
    have hnumber : (dtlb.trBase 0 + k.setWidth 32).getLsbD 7 = true ∧
        (dtlb.trBase 0 + k.setWidth 32).extractLsb' 0 6 = k := by
      revert k
      decide
    rw [spr, hnumber.1, hnumber.2]
    rfl

/-- The firmware reads the buffer when it reads each register by an `l.mfspr` of two cycles. -/
theorem readBy_of_sprDat {s : Dmmu} {spr : U32 → U32} (h : ∀ number, ∃ i j : DmmuIn,
    (i.sprCs = true ∧ i.sprWrite = false ∧ i.sprAddr = number) ∧
      (j.sprCs = true ∧ j.sprWrite = false ∧ j.sprAddr = number) ∧
      spr number = (s.step i).sprDat j) : s.ReadBy spr := by
  have hspr : spr = s.spr := by
    funext number
    obtain ⟨i, j, ⟨hcs, hwrite, rfl⟩, ⟨hcs', hwrite', haddr⟩, hread⟩ := h number
    exact hread.trans (sprDat_step s hcs hwrite hcs' hwrite' haddr)
  rw [hspr]
  exact readBy_spr s

/-- In the cycle after a request begins, the simulator finds the address the unit drives, and misses
where the unit does. It finds the address of a page fault as well. -/
theorem translateD_of_run {x : ℕ → DmmuIn} {t : ℕ} (h : Held x)
    (hdone : (regs x t).dtlbDone = true) (hreq : (x t).dcpuCycstbI = true)
    (hdmmu : (x t).dmmuEn = true) {m : Machine} (hread : (regs x t).ReadBy m.spr)
    (hdme : cpuIsSetSrFlag m.cpu sprSrDme = true) :
    m.translateD (x t).dcpuAdrI =
      if (regs x t).miss (x t) then none else some ((regs x t).qmemAdr (x t)) := by
  have hsettled := settled_of_run h hdone hreq
  rw [Machine.translateD, hdme, translate_of_readBy hread, miss_of_settled hsettled, qmemAdr, hdmmu]
  cases hentry : (regs x t).lookup (x t).dcpuAdrI with
  | none => rfl
  | some e =>
    rw [doq_of_lookup hsettled hentry]
    rfl

/-- An `l.mfspr` of a register of the unit. -/
def readingIn (number : U32) : DmmuIn :=
  { mappingIn 0 with sprCs := true, sprWrite := false, sprAddr := number }

/-- The firmware on the processor of a run, for a program that runs in supervisor mode with its data
addresses translated. -/
def mappedMachine : Machine :=
  { nopMachine 0x2000 with
    cpu := { CPU.startAt 0x2000 with sr := 0x8021 }
    spr := fun number => ((regs mappingIn 3).step (readingIn number)).sprDat (readingIn number) }

theorem translateD_of_run_mappingIn :
    mappedMachine.translateD 0x2004 =
      if (regs mappingIn 3).miss (mappingIn 3) then none
      else some ((regs mappingIn 3).qmemAdr (mappingIn 3)) :=
  translateD_of_run (t := 3) held_mappingIn (by decide) rfl rfl (m := mappedMachine)
    (readBy_of_sprDat fun number =>
      ⟨readingIn number, readingIn number, ⟨rfl, rfl, rfl⟩, ⟨rfl, rfl, rfl⟩, rfl⟩) (by decide)

end Dmmu

end WirePatch.Or1200
