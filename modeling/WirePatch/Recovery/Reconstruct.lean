import WirePatch.Recovery.ResumePoint
import WirePatch.Simulator.Restart

/-!
# Reconstruction of EPCR and EEAR

A checker has found the exception registers contaminated when a handler is entered, and the
recovery routine computes them again from EPPC, the address of the last instruction that completed.
The words it decodes for this are fetched with the supervision register of the handler, in which
the memory management unit is disabled; and its test for an instruction TLB miss looks at the
address recovery resumes at. This file says for which faults the two registers are those that the
simulator would have stored.

## Main definitions

* `LastCompleted`, `Reported`: what the checkers report for a fault.
* `Targets`: the target of a control transfer, as the registers show it after the fault.
* `FrontSeen`, `EearSeen`: when EPCR and EEAR are found.

## Main results

* `refetched`: a fetch of the helpers reads the untranslated word.
* `jumpTarget_eq_iff`: what `calc_jump_target` finds.
* `reconstruct_of_next`: EPCR is found from EPPC alone outside the front of a basic block.
* `reconstruct_iff`: both registers are found exactly under `FrontSeen` and `EearSeen`.
-/

namespace WirePatch

/-! ### What the checkers report -/

/-- The next step executes a control transfer that has no delay slot. -/
def endsBlock (m : Machine) : Prop :=
  ∃ inst, executedInst m = some inst ∧ isControlTransfer inst = true ∧ opcode inst ∉ delayedOps

/-- The last instruction that completes before the one of `g`, and whether that of `g` is the first
after a taken control transfer: the instruction before it, the one in the delay slot of the
transfer, or the transfer when it has no delay slot. -/
inductive LastCompleted (g : Machine) : U32 → Bool → Prop
  | next (b : Machine) : cpuExecInst b = some g → b.cpu.npc = b.cpu.pc + 4 →
      g.cpu.pc = b.cpu.npc → ¬ endsBlock b → LastCompleted g b.cpu.pc false
  | target (b₀ b₁ : Machine) : takesBranch b₀ → cpuExecInst b₀ = some b₁ →
      cpuExecInst b₁ = some g → ¬ executesTransfer b₁ → LastCompleted g b₁.cpu.pc true
  | transfer (b : Machine) : cpuExecInst b = some g → b.cpu.branchPc = noBranch → endsBlock b →
      LastCompleted g b.cpu.pc true

/-- The state recovery starts from when the exception `e` has been entered from `g` and the checkers
report its registers contaminated: EPCR, EEAR and all registers but these are arbitrary. -/
structure Reported (g : Machine) (e : Exc) (eppc : U32) (front : Bool) (m : Machine) : Prop where
  gpr : m.cpu.gpr = g.cpu.gpr
  mem : m.mem = g.mem
  sr : m.cpu.sr = (e.enter g.cpu).sr
  contaminated : getAssertionReg m &&& 0x8 ≠ 0
  noReturn : getAssertionReg m &&& 0x8000 = 0
  front : getAssertionReg m &&& 0x80000 ≠ 0 ↔ front = true
  eppc : getEPPCReg m = eppc

/-- EPCR and EEAR are what the entry of the exception stores. -/
def Reconstructed (g : Machine) (e : Exc) (m : Machine) : Prop :=
  m.cpu.epcr = (e.enter g.cpu).epcr ∧ m.cpu.eear = (e.enter g.cpu).eear

/-- The instruction after the last completed one follows it, unless it is the first after a taken
control transfer, which is not in a delay slot. -/
theorem LastCompleted.cases {g : Machine} {eppc : U32} {front : Bool}
    (h : LastCompleted g eppc front) :
    front = false ∧ g.cpu.pc = eppc + 4 ∨ front = true ∧ isInDelaySlot g.cpu = false := by
  cases h with
  | next b _ hnpc hpc => exact .inl ⟨rfl, hpc.trans hnpc⟩
  | target b₀ b₁ _ h₀ h₁ htransfer =>
    exact .inr ⟨rfl, isInDelaySlot_of_step (branchPc_of_step h₀) h₁
      (mt executesTransfer_of_takesBranch htransfer)⟩
  | transfer b hstep hb hends =>
    refine .inr ⟨rfl, isInDelaySlot_of_step hb hstep ?_⟩
    rintro ⟨inst, hinst, htaken⟩
    obtain ⟨inst', hinst', -, hop⟩ := hends
    obtain rfl := Option.some.inj (hinst.symm.trans hinst')
    exact hop (mem_delayedOps_of_isTaken htaken)

/-! ### Fetches with the memory management unit disabled -/

/-- The word a fetch yields when the memory management unit is disabled. -/
def physicalWord (mem : U32 → BitVec 8) (address : U32) : U32 :=
  if 2 < address then ByteMemory.read 4 mem address else fetchMarker

/-- EPCR after a fetch with the memory management unit disabled: at the two addresses that are
error codes an exception is entered. -/
def epcrAfterFetch (epcr address : U32) : U32 :=
  if address = 1 ∨ address = 2 then address else epcr

/-- What a fetch of the helpers yields and leaves. -/
structure Refetched (m : Machine) (address : U32) (out : Machine × U32) : Prop where
  inst : out.2 = physicalWord m.mem address
  gpr : out.1.cpu.gpr = m.cpu.gpr
  pc : out.1.cpu.pc = address
  epcr : out.1.cpu.epcr = epcrAfterFetch m.cpu.epcr address
  mem : out.1.mem = m.mem
  ime : cpuIsSetSrFlag out.1.cpu sprSrIme = false

/-- An entry disables the instruction memory management unit. -/
theorem ime_enter (e : Exc) (cpu : CPU) : cpuIsSetSrFlag (e.enter cpu) sprSrIme = false := by
  rw [cpuIsSetSrFlag_eq_false, Exc.enter_eq]
  refine (BitMask.merge_and_of_drop rfl ..).trans ?_
  cases isInDelaySlot cpu <;> rfl

/-- A fetch of the helpers at an address that is an error code. -/
theorem refetched_of_fault {m : Machine} {address : U32} (h : address = 1 ∨ address = 2) {e : Exc}
    (he : e ≠ .sys) :
    Refetched m address
      ((m.goto address).setCpu (e.enter (m.goto address).cpu), fetchMarker) := by
  have hslot : isInDelaySlot (m.goto address).cpu = false := isInDelaySlot_eq_false.mpr rfl
  have hstatus : ¬ 2 < address := by rcases h with rfl | rfl <;> decide
  refine ⟨(if_neg hstatus).symm, ?_, ?_, ?_, rfl, ime_enter e _⟩
  · rw [Machine.setCpu_cpu, Exc.enter_eq]
    rfl
  · rw [Machine.setCpu_cpu, Exc.enter_eq]
    rfl
  · rw [Machine.setCpu_cpu, Exc.enter_eq, Exc.entryEpcr, hslot, if_neg he, epcrAfterFetch, if_pos h]
    rfl

/-- A fetch of the helpers reads the untranslated word. -/
theorem refetched {m : Machine} (h : cpuIsSetSrFlag m.cpu sprSrIme = false) (address : U32) :
    Refetched m address (fetchAt m address) := by
  have hwalk : virtualToPhysicalI (m.goto address) (m.goto address).cpu.pc = address := by
    have hime : cpuIsSetSrFlag (m.goto address).cpu sprSrIme = false := h
    rw [virtualToPhysicalI, hime]
    rfl
  change Refetched m address (fetch (m.goto address))
  rcases status_cases address with hp | rfl | rfl | rfl
  · have hne : ¬ (address = 1 ∨ address = 2) := by
      rintro (rfl | rfl) <;> exact absurd hp (by decide)
    rw [fetch_of_two_lt (hwalk.symm ▸ hp), hwalk]
    exact ⟨(if_pos hp).symm, rfl, rfl, (if_neg hne).symm, rfl, h⟩
  · rw [fetch_of_eq_zero hwalk]
    exact ⟨rfl, rfl, rfl, rfl, rfl, h⟩
  · rw [fetch_of_eq_one hwalk]
    exact refetched_of_fault (.inl rfl) (e := .instructionTLBMiss 1) (by simp)
  · rw [fetch_of_eq_two hwalk]
    exact refetched_of_fault (.inr rfl) (e := .instructionPageFault 2) (by simp)

/-! ### The effective address -/

/-- EEAR as the recovery routine finds it for the instruction at an address. -/
def eearAt (m : Machine) (address : U32) : U32 :=
  if inMissPage m.cpu.pc then address
  else calcEa m.cpu (decode (physicalWord m.mem address))

theorem recalcEear_snd {m : Machine} (h : cpuIsSetSrFlag m.cpu sprSrIme = false) (address : U32) :
    (recalcEear m address).2 = eearAt m address := by
  have hfetch := refetched h address
  rw [recalcEear, eearAt]
  split_ifs
  · rfl
  · rw [recalcEa, hfetch.inst, calcEa, calcEa, hfetch.gpr]

/-! ### The target of a control transfer -/

/-- The target of the control transfer `inst` at an address, from the registers: the current EPCR
for `l.rfe`, the current register for a register jump, and the system call vector for `l.sys` and
every other instruction with its opcode. -/
inductive Targets (gpr : Reg → U32) (epcr address inst : U32) : U32 → Prop
  | rfe : opcode inst = opRfe → Targets gpr epcr address inst epcr
  | branch : opcode inst ∈ [opJ, opJal, opBf, opBnf] →
      Targets gpr epcr address inst (address + signExtend ((decode inst).N <<< 2) 27)
  | register : opcode inst ∈ [opJalr, opJr] → Targets gpr epcr address inst (gpr (decode inst).rB)
  | sys : opcode inst = opSysTrapSync → Targets gpr epcr address inst 0xC00

/-- The opcodes of control transfers. -/
def discontinuities : List U32 :=
  [opRfe, opJ, opJal, opBf, opBnf, opJalr, opJr, opSysTrapSync]

/-- `calc_jump_target` finds the target of a control transfer, and 0 for other instructions. -/
theorem jumpTarget_eq_iff {cpu : CPU} {inst p : U32} :
    jumpTarget cpu (decode inst) = p ↔
      Targets cpu.gpr cpu.epcr cpu.pc inst p ∨ opcode inst ∉ discontinuities ∧ p = 0 := by
  have hop : (decode inst).opcode = opcode inst := rfl
  rw [jumpTarget, hop]
  constructor
  · rintro rfl
    split_ifs with hrfe hbranch hreg hsys
    · exact .inl (.rfe hrfe)
    · exact .inl (.branch (by simpa using hbranch))
    · exact .inl (.register (by simpa using hreg))
    · exact .inl (.sys hsys)
    · exact .inr ⟨by simp [discontinuities, hrfe, hsys, not_or.mp hreg, not_or.mp hbranch], rfl⟩
  · rintro (htarget | ⟨hno, rfl⟩)
    · cases htarget with
      | rfe h => rw [if_pos h]
      | branch h =>
        have hne : opcode inst ≠ opRfe := by
          rintro hrfe
          rw [hrfe] at h
          exact absurd h (by decide)
        rw [if_neg hne, if_pos (by simpa using h)]
        rfl
      | register h =>
        simp only [List.mem_cons, List.not_mem_nil, or_false] at h
        rcases h with h | h <;> rw [h] <;> rfl
      | sys h =>
        rw [h]
        rfl
    · simp only [discontinuities, List.mem_cons, List.not_mem_nil, or_false, not_or] at hno
      simp [hno]

/-- The word of a failed fetch is no control transfer. -/
theorem targets_epcrAfterFetch {gpr : Reg → U32} {epcr address p : U32}
    {mem : U32 → BitVec 8} :
    Targets gpr (epcrAfterFetch epcr address) address (physicalWord mem address) p ↔
      Targets gpr epcr address (physicalWord mem address) p := by
  by_cases h : address = 1 ∨ address = 2
  · have hword : physicalWord mem address = fetchMarker := by
      rcases h with rfl | rfl <;> rfl
    have hnone {x : U32} : ¬ Targets gpr x address fetchMarker p := by
      intro ht
      cases ht with
      | rfe h => exact absurd h (by decide)
      | branch h => exact absurd h (by decide)
      | register h => exact absurd h (by decide)
      | sys h => exact absurd h (by decide)
    rw [hword]
    exact iff_of_false hnone hnone
  · rw [epcrAfterFetch, if_neg h]

theorem calcJumpTarget_eq_iff {m : Machine} (h : cpuIsSetSrFlag m.cpu sprSrIme = false)
    (address p : U32) :
    (calcJumpTarget m address).2 = p ↔
      Targets m.cpu.gpr m.cpu.epcr address (physicalWord m.mem address) p ∨
        opcode (physicalWord m.mem address) ∉ discontinuities ∧ p = 0 := by
  have hfetch := refetched h address
  rw [calcJumpTarget, jumpTarget_eq_iff, hfetch.inst, hfetch.gpr, hfetch.pc, hfetch.epcr,
    targets_epcrAfterFetch]

/-- What `calc_jump_target` leaves: EPCR changes when the fetch enters an exception. -/
structure LookedBack (m : Machine) (address : U32) (m' : Machine) : Prop where
  gpr : m'.cpu.gpr = m.cpu.gpr
  mem : m'.mem = m.mem
  pc : m'.cpu.pc = m.cpu.pc
  epcr : m'.cpu.epcr = epcrAfterFetch m.cpu.epcr address
  ime : cpuIsSetSrFlag m'.cpu sprSrIme = false

theorem calcJumpTarget_fst {m : Machine} (h : cpuIsSetSrFlag m.cpu sprSrIme = false)
    (address : U32) : LookedBack m address (calcJumpTarget m address).1 := by
  have hfetch := refetched h address
  rw [calcJumpTarget]
  generalize fetchAt m address = out at hfetch
  exact ⟨hfetch.gpr, hfetch.mem, rfl, hfetch.epcr, hfetch.ime⟩

theorem LookedBack.eearAt {m m' : Machine} {address : U32} (h : LookedBack m address m')
    (a : U32) : eearAt m' a = eearAt m a := by
  rw [WirePatch.eearAt, WirePatch.eearAt, calcEa, calcEa, h.gpr, h.mem, h.pc]

/-! ### The two registers -/

/-- The control transfer that leads to `p` is found: at EPPC - 4, its target not being 0, or, when
there is none or its target is 0, at EPPC; no transfer at all stands for the target 0. -/
def FrontSeen (m : Machine) (eppc p : U32) : Prop :=
  let before := physicalWord m.mem (eppc - 4)
  let last := physicalWord m.mem eppc
  p ≠ 0 ∧ Targets m.cpu.gpr m.cpu.epcr (eppc - 4) before p ∨
    (Targets m.cpu.gpr m.cpu.epcr (eppc - 4) before 0 ∨ opcode before ∉ discontinuities) ∧
      (Targets m.cpu.gpr (epcrAfterFetch m.cpu.epcr (eppc - 4)) eppc last p ∨
        opcode last ∉ discontinuities ∧ p = 0)

/-- The effective address is found: when recovery resumes in the page of the instruction TLB miss
vector, it is the address at fault, else that of the untranslated word there. -/
def EearSeen (g : Machine) (e : Exc) (resume : U32) : Prop :=
  e.ea = some (if inMissPage resume then g.cpu.pc
    else calcEa g.cpu (decode (physicalWord g.mem g.cpu.pc)))

section Reconstruct

variable {m : Machine} (h : cpuIsSetSrFlag m.cpu sprSrIme = false) {violated : U32} (eppc : U32)

include h in
/-- In a delay slot and in the middle of a basic block, EPCR is found from EPPC alone. -/
theorem reconstruct_of_next (hfront : cpuIsSetSrFlag m.cpu sprSrDsx = true ∨
    violated &&& 0x80000 = 0) :
    (reconstruct m violated eppc).cpu.epcr =
        (if cpuIsSetSrFlag m.cpu sprSrDsx then eppc else eppc + 4) ∧
      (reconstruct m violated eppc).cpu.eear = eearAt m (eppc + 4) := by
  rw [reconstruct, ← recalcEear_snd h]
  by_cases hdsx : cpuIsSetSrFlag m.cpu sprSrDsx = true
  · rw [if_pos hdsx, if_pos hdsx]
    exact ⟨rfl, rfl⟩
  · rw [if_neg hdsx, if_neg hdsx, if_pos (hfront.resolve_left hdsx)]
    exact ⟨rfl, rfl⟩

/-- The target that the reconstruction finds at the front of a basic block. -/
def frontTarget (m : Machine) (eppc : U32) : Machine × U32 :=
  let first := calcJumpTarget m (eppc - 4)
  if first.2 = 0 then calcJumpTarget first.1 eppc else first

include h in
theorem frontTarget_fst : cpuIsSetSrFlag (frontTarget m eppc).1.cpu sprSrIme = false ∧
    ∀ a, eearAt (frontTarget m eppc).1 a = eearAt m a := by
  have hfirst := calcJumpTarget_fst h (eppc - 4)
  have hsecond := calcJumpTarget_fst hfirst.ime eppc
  simp only [frontTarget]
  split_ifs
  · exact ⟨hsecond.ime, fun a => (hsecond.eearAt a).trans (hfirst.eearAt a)⟩
  · exact ⟨hfirst.ime, hfirst.eearAt⟩

include h in
theorem frontTarget_eq_iff (p : U32) : (frontTarget m eppc).2 = p ↔ FrontSeen m eppc p := by
  have hback := calcJumpTarget_fst h (eppc - 4)
  have hfirst := calcJumpTarget_eq_iff h (eppc - 4)
  have hsecond := calcJumpTarget_eq_iff hback.ime eppc
  rw [hback.gpr, hback.epcr, hback.mem] at hsecond
  by_cases hzero : (calcJumpTarget m (eppc - 4)).2 = 0
  · have hnone := ((hfirst 0).mp hzero).imp_right And.left
    have htarget : frontTarget m eppc = calcJumpTarget (calcJumpTarget m (eppc - 4)).1 eppc :=
      if_pos hzero
    rw [htarget, hsecond]
    constructor
    · exact fun hp => .inr ⟨hnone, hp⟩
    · rintro (⟨hp, hbefore⟩ | ⟨-, hlast⟩)
      · exact absurd (((hfirst p).mpr (.inl hbefore)).symm.trans hzero) hp
      · exact hlast
  · have htarget : frontTarget m eppc = calcJumpTarget m (eppc - 4) := if_neg hzero
    rw [htarget, hfirst]
    constructor
    · rintro (hbefore | ⟨hno, -⟩)
      · exact .inl ⟨fun hp => hzero (hp ▸ (hfirst p).mpr (.inl hbefore)), hbefore⟩
      · exact absurd ((hfirst 0).mpr (.inr ⟨hno, rfl⟩)) hzero
    · rintro (⟨-, hbefore⟩ | ⟨hnone, -⟩)
      · exact .inl hbefore
      · exact absurd ((hfirst 0).mpr (hnone.imp_right fun hno => ⟨hno, rfl⟩)) hzero

include h in
/-- At the front of a basic block, EPCR is the target of the first control transfer found. -/
theorem reconstruct_of_front (hdsx : cpuIsSetSrFlag m.cpu sprSrDsx = false)
    (hfront : violated &&& 0x80000 ≠ 0) :
    (reconstruct m violated eppc).cpu.epcr = (frontTarget m eppc).2 ∧
      (reconstruct m violated eppc).cpu.eear = eearAt m (frontTarget m eppc).2 := by
  obtain ⟨hime, heear⟩ := frontTarget_fst h eppc
  rw [reconstruct, if_neg (by simp [hdsx]), if_neg hfront, ← heear, ← recalcEear_snd hime]
  exact ⟨rfl, rfl⟩

end Reconstruct

/-- The state in which EPCR and EEAR are reconstructed. -/
def atResume (m : Machine) : Machine :=
  (m.setCpu { m.cpu with sr := m.cpu.sr &&& 0xFFFFFFFE }).goto
    (resumePc (getEPPCReg m) (getEPCRReg m))

theorem runSimEntry_of_contaminated {m : Machine} (h8 : getAssertionReg m &&& 0x8 ≠ 0)
    (h8000 : getAssertionReg m &&& 0x8000 = 0) :
    runSimEntry m =
      .loop (reconstruct (atResume m) (getAssertionReg m) (getEPPCReg m)) := by
  have h308 : getAssertionReg m &&& 0x308 ≠ 0 := by
    intro h
    exact h8 (BitMask.and_eq_and_of_subset (y := 0) (k := 0x308) (by simpa using h) rfl)
  rw [runSimEntry, if_pos h308, if_neg h8, enterLoop, if_neg (not_not.mpr h8000), if_pos h8]
  rfl

/-- The supervision register of the handler, after the routine has cleared its lowest bit. -/
theorem atResume_flag {g m : Machine} {e : Exc} (hsr : m.cpu.sr = (e.enter g.cpu).sr) {flag : U32}
    (hflag : 0xFFFFFFFE &&& flag = flag) :
    cpuIsSetSrFlag (atResume m).cpu flag = cpuIsSetSrFlag (e.enter g.cpu) flag := by
  refine cpuIsSetSrFlag_congr ?_
  change m.cpu.sr &&& 0xFFFFFFFE &&& flag = _
  rw [BitVec.and_assoc, hflag, hsr]

/-- The delay-slot bit of the handler. -/
theorem dsx_enter (e : Exc) (cpu : CPU) :
    cpuIsSetSrFlag (e.enter cpu) sprSrDsx = isInDelaySlot cpu := by
  rw [cpuIsSetSrFlag, Exc.enter_eq, entrySr, BitMask.merge_and_of_drop rfl]
  cases isInDelaySlot cpu <;> rfl

/-- The recovery routine restores EPCR and EEAR exactly when the control transfer is found, for a
fault at the front of a basic block, and the effective address is. -/
theorem reconstruct_iff {g m : Machine} {e : Exc} {eppc : U32} {front : Bool} (hfault : Faults g e)
    (hlast : LastCompleted g eppc front) (hm : Reported g e eppc front m) :
    ∃ m', runSimEntry m = .loop m' ∧
      (Reconstructed g e m' ↔
        (front = true → FrontSeen m eppc g.cpu.pc) ∧
          EearSeen g e (if getEPCRReg m = eppc then eppc else eppc - 4)) := by
  refine ⟨_, runSimEntry_of_contaminated hm.contaminated hm.noReturn, ?_⟩
  have hime : cpuIsSetSrFlag (atResume m).cpu sprSrIme = false :=
    (atResume_flag hm.sr rfl).trans (ime_enter e g.cpu)
  have hdsx : cpuIsSetSrFlag (atResume m).cpu sprSrDsx = isInDelaySlot g.cpu :=
    (atResume_flag hm.sr rfl).trans (dsx_enter e g.cpu)
  obtain ⟨ea, hea⟩ := Option.ne_none_iff_exists'.mp hfault.ea_ne_none
  have hsys : e ≠ .sys := by
    rintro rfl
    exact hfault.ea_ne_none rfl
  have hexpected : (e.enter g.cpu).epcr = (if isInDelaySlot g.cpu then g.cpu.pc - 4 else g.cpu.pc) ∧
      (e.enter g.cpu).eear = ea := by
    rw [Exc.enter_eq, Exc.entryEpcr, if_neg hsys, hea]
    exact ⟨rfl, rfl⟩
  have hseen : eearAt (atResume m) g.cpu.pc = ea ↔
      EearSeen g e (if getEPCRReg m = eppc then eppc else eppc - 4) := by
    have hpc : (atResume m).cpu.pc = if getEPCRReg m = eppc then eppc else eppc - 4 := by
      rw [← hm.eppc]
      exact resumePc_eq ..
    have hgpr : (atResume m).cpu.gpr = g.cpu.gpr := hm.gpr
    have hmem : (atResume m).mem = g.mem := hm.mem
    rw [eearAt, EearSeen, hea, hpc, calcEa, calcEa, hgpr, hmem, Option.some_inj, eq_comm]
  rw [Reconstructed, hexpected.1, hexpected.2, hm.eppc, ← hseen]
  rcases hlast.cases with ⟨rfl, hpc⟩ | ⟨rfl, hslot⟩
  · have hno : getAssertionReg m &&& 0x80000 = 0 := by
      by_contra h
      exact absurd (hm.front.mp h) (by simp)
    obtain ⟨hepcr, heear⟩ := reconstruct_of_next hime eppc (.inr hno)
    have hslot : eppc + 4 - 4 = eppc := add_sub_cancel_right _ _
    rw [hepcr, heear, hdsx, hpc, hslot]
    simp
  · obtain ⟨hepcr, heear⟩ := reconstruct_of_front hime eppc (hdsx.trans hslot)
      (hm.front.mpr rfl)
    have hfound (p : U32) : (frontTarget (atResume m) eppc).2 = p ↔ FrontSeen m eppc p :=
      frontTarget_eq_iff hime eppc p
    rw [hepcr, heear, hslot, if_neg Bool.false_ne_true, hfound]
    constructor
    · rintro ⟨hfront, h⟩
      exact ⟨fun _ => hfront, (hfound _).mpr hfront ▸ h⟩
    · rintro ⟨hfront, h⟩
      exact ⟨hfront rfl, ((hfound _).mpr (hfront rfl)).symm ▸ h⟩

/-! ### A miss at a page boundary -/

/-- The state recovery starts from when EPCR and EEAR are lost at the entry of `e`. -/
def lostAt (g : Machine) (e : Exc) (eppc : U32) : Machine :=
  { g with
    cpu := { e.enter g.cpu with epcr := 0, eear := 0 }
    spr := fun n => if n = assertionReg then 0x8 else if n = eppcReg ∨ n = sprEpcrBase then eppc
      else 0 }

theorem reported_lostAt (g : Machine) (e : Exc) (eppc : U32) :
    Reported g e eppc false (lostAt g e eppc) := by
  have hviolated : getAssertionReg (lostAt g e eppc) = 0x8 := rfl
  refine ⟨?_, rfl, rfl, ?_, ?_, ?_, rfl⟩
  · rw [lostAt, Exc.enter_eq]
  all_goals rw [hviolated]; decide

theorem reconstruct_iff_slot :
    ∃ m', runSimEntry (lostAt (slotMachine 0x2004 0x2040) (.dataTLBMiss 0x100) 0x2000) = .loop m' ∧
      (Reconstructed (slotMachine 0x2004 0x2040) (.dataTLBMiss 0x100) m' ↔
        (false = true → FrontSeen (lostAt (slotMachine 0x2004 0x2040) (.dataTLBMiss 0x100) 0x2000)
          0x2000 0x2004) ∧
          EearSeen (slotMachine 0x2004 0x2040) (.dataTLBMiss 0x100)
            (if (0x2000 : U32) = 0x2000 then 0x2000 else 0x2000 - 4)) := by
  have hends : ¬ endsBlock (slotMachine 0x2000 0x2004) := by
    rintro ⟨inst, hinst, -, hop⟩
    obtain rfl := Option.some.inj (show some 0x10#32 = some inst from hinst)
    exact hop (by decide)
  exact reconstruct_iff (.access ⟨0x84600100, .lwz, rfl⟩ rfl rfl)
    (.next (slotMachine 0x2000 0x2004) rfl rfl rfl hends) (reported_lostAt ..)

/-- A machine with `l.nop` everywhere, instruction translation enabled and page 0x2000 mapped to
itself. -/
def pageMachine (pc : U32) : Machine :=
  { Machine.filled 0x15000000 { CPU.startAt pc with sr := 0x41 } with
    spr := fun n => if n = itlb.mrBase 0 + 1 then 0x2001 else if n = itlb.trBase 0 + 1 then 0x2000
      else 0 }

/-- The fetch of the first instruction of the next page misses; EEAR is the effective address of
the `l.nop` there. -/
theorem not_reconstructed_page :
    Faults (pageMachine 0x4000) (.instructionTLBMiss 0x4000) ∧
      LastCompleted (pageMachine 0x4000) 0x3ffc false ∧
      Reported (pageMachine 0x4000) (.instructionTLBMiss 0x4000) 0x3ffc false
        (lostAt (pageMachine 0x4000) (.instructionTLBMiss 0x4000) 0x3ffc) ∧
      ∃ m', runSimEntry (lostAt (pageMachine 0x4000) (.instructionTLBMiss 0x4000) 0x3ffc) =
          .loop m' ∧
        ¬ Reconstructed (pageMachine 0x4000) (.instructionTLBMiss 0x4000) m' := by
  have hends : ¬ endsBlock (pageMachine 0x3ffc) := by
    rintro ⟨inst, hinst, htransfer, -⟩
    obtain rfl := Option.some.inj (show some 0x15000000#32 = some inst from hinst)
    exact absurd htransfer (by decide)
  refine ⟨.fetch (by decide), .next (pageMachine 0x3ffc) rfl rfl rfl hends, reported_lostAt .., _,
    rfl, ?_⟩
  rintro ⟨-, heear⟩
  exact absurd heear (by decide)

end WirePatch
