import WirePatch.Foundations.SyncRam
import Mathlib.Data.BitVec

/-!
# Data memory management unit of the processor

The translation buffer of the OR1200 core for data and the unit around it (`or1200_dmmu_tlb.v`;
`or1200_dmmu_top.v`, lines 191–307; `or1200_spram.v`): 64 sets of one way for pages of 8 KiB,
which `l.mtspr` writes and `l.mfspr` reads through the port that looks addresses up. A lookup
takes a cycle, so that the answer to a request is the one for the address a cycle before.

## Main definitions

* `Or1200.MatchEntry`, `Or1200.TranslateEntry`, `Or1200.Dmmu`, `Or1200.DmmuIn`.
* `Or1200.Dmmu.lookup`, `Or1200.TranslateEntry.permits`: the entry of an address, and the accesses
  it permits.

## Main results

* `Or1200.Dmmu.forwarded_of_settled`: the answer in the cycle after a request.
* `Or1200.Dmmu.forwarded_of_run`: what the unit lets through in a run.
* `Or1200.Dmmu.holdsLast_mr`, `Or1200.Dmmu.holdsLast_tr`: the buffer holds what `l.mtspr` wrote.
-/

namespace WirePatch.Or1200

open Clocked SyncRam

/-- `{vpn, v}`: the tag of a page, above the index. -/
structure MatchEntry where
  vpn : BitVec 13
  v : Bool
  deriving DecidableEq, Repr

/-- `{ppn, swe, sre, uwe, ure, ci}`: the physical page, and what may be done there. -/
structure TranslateEntry where
  ppn : BitVec 19
  swe : Bool
  sre : Bool
  uwe : Bool
  ure : Bool
  ci : Bool
  deriving DecidableEq, Repr

/-- The access is permitted. -/
def TranslateEntry.permits (e : TranslateEntry) (supv write : Bool) : Bool :=
  if write then if supv then e.swe else e.uwe else if supv then e.sre else e.ure

/-- The index of a page in the buffer. -/
def tlbIndexOf (vaddr : BitVec 32) : BitVec 6 := vaddr.extractLsb' 13 6

/-- The tag of a page. -/
def tagOf (vaddr : BitVec 32) : BitVec 13 := vaddr.extractLsb' 19 13

/-- The address in a physical page. -/
def inPage (ppn : BitVec 19) (vaddr : BitVec 32) : BitVec 32 := ppn ++ vaddr.extractLsb' 0 13

/-- The translation buffer, and `dtlb_done`. -/
structure Dmmu where
  mr : Ram (BitVec 6) MatchEntry
  tr : Ram (BitVec 6) TranslateEntry
  dtlbDone : Bool

/-- The inputs of the unit. -/
structure DmmuIn where
  rst : Bool
  dcEn : Bool
  dmmuEn : Bool
  supv : Bool
  dcpuAdrI : BitVec 32
  dcpuCycstbI : Bool
  dcpuWeI : Bool
  sprCs : Bool
  sprWrite : Bool
  sprAddr : BitVec 32
  sprDatI : BitVec 32

namespace DmmuIn

variable (i : DmmuIn)

/-- `dtlb_en`. -/
def dtlbEn : Bool := i.dmmuEn && i.dcpuCycstbI

/-- `tlb_index`. -/
def tlbIndex : BitVec 6 := if i.sprCs then i.sprAddr.extractLsb' 0 6 else tlbIndexOf i.dcpuAdrI

/-- The port of the match registers. -/
def mrPort : Port (BitVec 6) MatchEntry :=
  { ce := i.dtlbEn || i.sprCs && !i.sprAddr.getLsbD 7
    we := i.sprCs && i.sprWrite && !i.sprAddr.getLsbD 7
    addr := i.tlbIndex
    di := { vpn := i.sprDatI.extractLsb' 19 13, v := i.sprDatI.getLsbD 0 } }

/-- The port of the translate registers. -/
def trPort : Port (BitVec 6) TranslateEntry :=
  { ce := i.dtlbEn || i.sprCs && i.sprAddr.getLsbD 7
    we := i.sprCs && i.sprWrite && i.sprAddr.getLsbD 7
    addr := i.tlbIndex
    di :=
      { ppn := i.sprDatI.extractLsb' 13 19
        swe := i.sprDatI.getLsbD 9
        sre := i.sprDatI.getLsbD 8
        uwe := i.sprDatI.getLsbD 7
        ure := i.sprDatI.getLsbD 6
        ci := i.sprDatI.getLsbD 1 } }

end DmmuIn

/-- The word read from a match register. -/
def MatchEntry.read (e : MatchEntry) (index : BitVec 6) : BitVec 32 :=
  e.vpn ++ index ++ 0#6 ++ 0#1 ++ 0#5 ++ BitVec.ofBool e.v

/-- The word read from a translate register. -/
def TranslateEntry.read (e : TranslateEntry) : BitVec 32 :=
  e.ppn ++ 0#3 ++ BitVec.ofBool e.swe ++ BitVec.ofBool e.sre ++ BitVec.ofBool e.uwe ++
    BitVec.ofBool e.ure ++ 0#4 ++ BitVec.ofBool e.ci ++ 0#1

namespace Dmmu

section Signals

variable (s : Dmmu) (i : DmmuIn)

/-- `hit`. -/
def hit : Bool := s.mr.doq.vpn == tagOf i.dcpuAdrI && s.mr.doq.v

/-- `miss`. -/
def miss : Bool := s.dtlbDone && !s.hit i

/-- `fault`. -/
def fault : Bool :=
  let e := s.tr.doq
  s.dtlbDone &&
    (!i.dcpuWeI && !i.supv && !e.ure || !i.dcpuWeI && i.supv && !e.sre ||
      i.dcpuWeI && !i.supv && !e.uwe || i.dcpuWeI && i.supv && !e.swe)

/-- `qmemdmmu_cycstb_o`. -/
def qmemCycstb : Bool :=
  if i.dcEn && i.dmmuEn then !(s.miss i || s.fault i) && s.dtlbDone && i.dcpuCycstbI
  else !(s.miss i || s.fault i) && i.dcpuCycstbI

/-- `qmemdmmu_adr_o`. -/
def qmemAdr : BitVec 32 := if i.dmmuEn then inPage s.tr.doq.ppn i.dcpuAdrI else i.dcpuAdrI

/-- `spr_dat_o`. -/
def sprDat : BitVec 32 :=
  if i.sprCs && !i.sprWrite && !i.sprAddr.getLsbD 7 then s.mr.doq.read i.tlbIndex
  else if i.sprCs && !i.sprWrite && i.sprAddr.getLsbD 7 then s.tr.doq.read
  else 0

/-- One step of the unit. -/
def step : Dmmu :=
  { mr := s.mr.step i.mrPort
    tr := s.tr.step i.trPort
    dtlbDone := if i.rst then false else if i.dtlbEn then i.dcpuCycstbI else false }

end Signals

/-- The unit in reset, with an empty buffer. -/
def reset : Dmmu :=
  let none : TranslateEntry :=
    { ppn := 0, swe := false, sre := false, uwe := false, ure := false, ci := false }
  { mr := { mem := fun _ => { vpn := 0, v := false }, addrReg := 0 }
    tr := { mem := fun _ => none, addrReg := 0 }
    dtlbDone := false }

/-- The unit in every cycle. -/
def regs (x : ℕ → DmmuIn) (t : ℕ) : Dmmu := run step reset x t

/-- The entry of an address, if the buffer has it. -/
def lookup (s : Dmmu) (vaddr : BitVec 32) : Option TranslateEntry :=
  let m := s.mr.mem (tlbIndexOf vaddr)
  if m.v = true ∧ m.vpn = tagOf vaddr then some (s.tr.mem (tlbIndexOf vaddr)) else none

/-! ### The answer to a request -/

/-- Two addresses in one page. -/
def SamePage (a b : BitVec 32) : Prop := tlbIndexOf a = tlbIndexOf b ∧ tagOf a = tagOf b

instance (a b : BitVec 32) : Decidable (SamePage a b) := inferInstanceAs (Decidable (_ ∧ _))

/-- The buffer was looked up for the address of a cycle. -/
structure Settled (s : Dmmu) (i : DmmuIn) : Prop where
  dtlbDone : s.dtlbDone = true
  mr : s.mr.addrReg = tlbIndexOf i.dcpuAdrI
  tr : s.tr.addrReg = tlbIndexOf i.dcpuAdrI

section Answer

variable {s : Dmmu} {i j : DmmuIn}

/-- A request is looked up for the next cycle. -/
theorem settled_step (hrst : i.rst = false) (hen : i.dtlbEn = true) (hspr : i.sprCs = false)
    (hpage : SamePage i.dcpuAdrI j.dcpuAdrI) : (s.step i).Settled j := by
  have hindex : i.tlbIndex = tlbIndexOf j.dcpuAdrI := by
    rw [DmmuIn.tlbIndex, hspr, if_neg Bool.false_ne_true, hpage.1]
  have hcycstb : i.dcpuCycstbI = true := (Bool.and_eq_true _ _ ▸ hen).2
  refine ⟨?_, ?_, ?_⟩
  · simp [step, hrst, hen, hcycstb]
  · simp [step, Ram.step, DmmuIn.mrPort, hen, hindex]
  · simp [step, Ram.step, DmmuIn.trPort, hen, hindex]

theorem hit_of_settled (h : s.Settled i) : s.hit i = (s.lookup i.dcpuAdrI).isSome := by
  rw [hit, lookup, Ram.doq, h.mr]
  cases hv : (s.mr.mem (tlbIndexOf i.dcpuAdrI)).v with
  | false => simp
  | true =>
    by_cases htag : (s.mr.mem (tlbIndexOf i.dcpuAdrI)).vpn = tagOf i.dcpuAdrI <;> simp [htag]

/-- An address that the buffer does not have is a miss. -/
theorem miss_of_settled (h : s.Settled i) : s.miss i = (s.lookup i.dcpuAdrI).isNone := by
  rw [miss, h.dtlbDone, hit_of_settled h, Bool.true_and, Option.not_isSome]

/-- The entry that is found is the one at the output. -/
theorem doq_of_lookup (h : s.Settled i) {e : TranslateEntry}
    (he : s.lookup i.dcpuAdrI = some e) : s.tr.doq = e := by
  rw [lookup] at he
  split_ifs at he with hmatch
  rw [Ram.doq, h.tr]
  exact Option.some.inj he

/-- A page fault is an access that the entry does not permit. -/
theorem fault_of_lookup (h : s.Settled i) {e : TranslateEntry}
    (he : s.lookup i.dcpuAdrI = some e) : s.fault i = !e.permits i.supv i.dcpuWeI := by
  rw [fault, doq_of_lookup h he, h.dtlbDone, TranslateEntry.permits]
  cases i.dcpuWeI <;> cases i.supv <;> simp

/-- What a settled unit lets through: a request for an entry that permits it, at the address in the
physical page. -/
theorem forwarded_of_settled (h : s.Settled i) (hdc : i.dcEn = true) (hdmmu : i.dmmuEn = true) :
    s.qmemCycstb i = true ↔ i.dcpuCycstbI = true ∧
      ∃ e, s.lookup i.dcpuAdrI = some e ∧ e.permits i.supv i.dcpuWeI = true ∧
        s.qmemAdr i = inPage e.ppn i.dcpuAdrI := by
  rw [qmemCycstb, hdc, hdmmu, qmemAdr, hdmmu, miss_of_settled h, h.dtlbDone]
  cases he : s.lookup i.dcpuAdrI with
  | none => simp
  | some e =>
    rw [fault_of_lookup h he, doq_of_lookup h he]
    simp [and_comm]

end Answer

/-! ### Runs -/

/-- A request stays in its page until it ends, and the buffer is not read or written while there is
one. -/
structure Held (x : ℕ → DmmuIn) : Prop where
  sprCs : ∀ t, (x t).dcpuCycstbI = true → (x t).sprCs = false
  samePage : ∀ t, (x t).dcpuCycstbI = true → (x (t + 1)).dcpuCycstbI = true →
    SamePage (x t).dcpuAdrI (x (t + 1)).dcpuAdrI

section Runs

variable {x : ℕ → DmmuIn} {t : ℕ}

/-- Once `dtlb_done` is up during a request, the buffer was looked up for it. -/
theorem settled_of_run (h : Held x) (hdone : (regs x t).dtlbDone = true)
    (hreq : (x t).dcpuCycstbI = true) : (regs x t).Settled (x t) := by
  cases t with
  | zero => cases hdone
  | succ t =>
    have hstep : (regs x (t + 1)).dtlbDone =
        if (x t).rst then false else if (x t).dtlbEn then (x t).dcpuCycstbI else false := rfl
    rw [hstep] at hdone
    split_ifs at hdone with hrst hen
    exact settled_step (Bool.not_eq_true _ ▸ hrst) hen (h.sprCs t hdone)
      (h.samePage t hdone hreq)

/-- With the cache and the unit enabled, a request reaches memory only for a page in the buffer that
permits it, and at the address in the physical page. -/
theorem forwarded_of_run (h : Held x) (hdc : (x t).dcEn = true) (hdmmu : (x t).dmmuEn = true)
    (hforward : (regs x t).qmemCycstb (x t) = true) :
    ∃ e, (regs x t).lookup (x t).dcpuAdrI = some e ∧
      e.permits (x t).supv (x t).dcpuWeI = true ∧
      (regs x t).qmemAdr (x t) = inPage e.ppn (x t).dcpuAdrI := by
  have hon := hforward
  rw [qmemCycstb, hdc, hdmmu] at hon
  simp only [Bool.and_self, if_true, Bool.and_eq_true] at hon
  exact ((forwarded_of_settled (settled_of_run h hon.1.2 hon.2) hdc hdmmu).mp hforward).2

/-- The supervisor writes an entry of the buffer, and then loads from its page. -/
def mappingIn (t : ℕ) : DmmuIn :=
  { rst := false
    dcEn := true
    dmmuEn := true
    supv := true
    dcpuAdrI := 0x2004
    dcpuCycstbI := decide (2 ≤ t)
    dcpuWeI := false
    sprCs := decide (t < 2)
    sprWrite := decide (t < 2)
    sprAddr := if t = 0 then 0xa01 else 0xa81
    sprDatI := if t = 0 then 0x00000001 else 0x0000a300 }

theorem held_mappingIn : Held mappingIn where
  sprCs := fun _ ht => decide_eq_false (not_lt.mpr (of_decide_eq_true ht))
  samePage := fun _ _ _ => ⟨rfl, rfl⟩

theorem forwarded_of_run_mappingIn :
    ∃ e, (regs mappingIn 3).lookup 0x2004 = some e ∧ e.permits true false = true ∧
      (regs mappingIn 3).qmemAdr (mappingIn 3) = inPage e.ppn 0x2004 :=
  forwarded_of_run (t := 3) held_mappingIn rfl rfl (by decide)

/-- A match register holds what `l.mtspr` last wrote to it. -/
theorem holdsLast_mr (x : ℕ → DmmuIn) (index : BitVec 6) (t : ℕ) :
    HoldsLast (fun r => (x r).mrPort.writes index) (fun r => (x r).mrPort.di)
      (reset.mr.mem index) ((regs x t).mr.mem index) t := by
  have hrun : (regs x t).mr = run Ram.step reset.mr (fun r => (x r).mrPort) t :=
    run_component Dmmu.mr (fun (_ : Dmmu) (i : DmmuIn) => i.mrPort) (fun _ _ => rfl) t
  rw [hrun]
  exact holdsLast_mem ..

/-- So does a translate register. -/
theorem holdsLast_tr (x : ℕ → DmmuIn) (index : BitVec 6) (t : ℕ) :
    HoldsLast (fun r => (x r).trPort.writes index) (fun r => (x r).trPort.di)
      (reset.tr.mem index) ((regs x t).tr.mem index) t := by
  have hrun : (regs x t).tr = run Ram.step reset.tr (fun r => (x r).trPort) t :=
    run_component Dmmu.tr (fun (_ : Dmmu) (i : DmmuIn) => i.trPort) (fun _ _ => rfl) t
  rw [hrun]
  exact holdsLast_mem ..

end Runs

end Dmmu

end WirePatch.Or1200
