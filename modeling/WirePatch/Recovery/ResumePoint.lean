import WirePatch.Recovery.RunSim

/-!
# Where recovery resumes

The address of the first instruction the recovery loop simulates. The distance of EPPC and EPCR is
tested with two subtractions of unsigned words, one of which wraps around unless the registers are
equal; the test for a violation in a delay slot therefore succeeds for every two distinct
addresses.

## Main definitions

* `Adjacent`, `ResumesAt`: the resume point of straight-line code and of a delay slot.

## Main results

* `resumePc_eq`: the loop starts at EPPC when EPCR equals it and one instruction earlier otherwise.
* `pc_of_runSimEntry`: every path to the loop leaves the resume point and its successor.
* `resumesAt_iff`: the resume point is the intended one exactly when EPCR equals EPPC or is more
  than four bytes away from it.
-/

namespace WirePatch

/-- Two addresses are at most four bytes apart, as unsigned words without wrap-around. -/
def Adjacent (a b : U32) : Prop :=
  a.toNat ≤ b.toNat + 4 ∧ b.toNat ≤ a.toNat + 4

instance (a b : U32) : Decidable (Adjacent a b) :=
  inferInstanceAs (Decidable (_ ∧ _))

/-- The first instruction simulated is the one at EPPC in straight-line code and the branch before
it for a violation in a delay slot, and the next one follows it. -/
def ResumesAt (eppc epcr : U32) (cpu : CPU) : Prop :=
  cpu.pc = (if Adjacent eppc epcr then eppc else eppc - 4) ∧ cpu.npc = cpu.pc + 4

instance (eppc epcr : U32) (cpu : CPU) : Decidable (ResumesAt eppc epcr cpu) :=
  inferInstanceAs (Decidable (_ ∧ _))

/-- One of the differences of two distinct words exceeds 4. -/
theorem resumePc_eq (eppc epcr : U32) :
    resumePc eppc epcr = if epcr = eppc then eppc else eppc - 4 := by
  rw [resumePc]
  by_cases h : epcr = eppc
  · subst h
    rw [if_neg (by bv_omega), if_pos rfl]
  · have hlarge : epcr - eppc > 4 ∨ eppc - epcr > 4 := by bv_omega
    rw [if_pos hlarge, if_neg h]

/-! ### The helpers put the program counter back -/

/-- The program counter and its successor are at the same place in two machines, one instruction
apart. -/
def SamePc (m m' : Machine) : Prop :=
  m'.cpu.pc = m.cpu.pc ∧ m'.cpu.npc = m.cpu.pc + 4

theorem recalcEear_pc {m m' : Machine} (h : SamePc m m') (address : U32) :
    SamePc m (recalcEear m' address).1 := by
  rw [recalcEear]
  split_ifs
  · exact h
  · exact ⟨h.1, congrArg (· + 4) h.1⟩

theorem reconstruct_pc {m : Machine} (h : m.cpu.npc = m.cpu.pc + 4) (violated eppc : U32) :
    SamePc m (reconstruct m violated eppc) := by
  have hm : SamePc m m := ⟨rfl, h⟩
  rw [reconstruct]
  split_ifs
  · exact recalcEear_pc hm _
  · exact recalcEear_pc hm _
  · have htarget : SamePc m
        (if (calcJumpTarget m (eppc - 4)).2 = 0 then
          calcJumpTarget (calcJumpTarget m (eppc - 4)).1 eppc
        else calcJumpTarget m (eppc - 4)).1 := by
      split_ifs
      · exact ⟨rfl, rfl⟩
      · exact ⟨rfl, rfl⟩
    exact recalcEear_pc htarget _

/-! ### Every path to the loop -/

theorem pc_of_enterLoop {m m' : Machine} {violated : U32} (h : enterLoop m violated = .loop m') :
    m'.cpu.pc = resumePc (getEPPCReg m) (getEPCRReg m) ∧ m'.cpu.npc = m'.cpu.pc + 4 := by
  simp only [enterLoop] at h
  split_ifs at h
  · obtain rfl := Entry.loop.inj h
    obtain ⟨hpc, hnpc⟩ := reconstruct_pc (m := m.setCpu { m.cpu with
      pc := resumePc (getEPPCReg m) (getEPCRReg m)
      npc := resumePc (getEPPCReg m) (getEPCRReg m) + 4 }) rfl violated (getEPPCReg m)
    exact ⟨hpc, hnpc.trans (congrArg (· + 4) hpc.symm)⟩
  · obtain rfl := Entry.loop.inj h
    exact ⟨rfl, rfl⟩

/-- Every path to the loop leaves the resume point in the program counter. -/
theorem pc_of_runSimEntry {m m' : Machine} (h : runSimEntry m = .loop m') :
    m'.cpu.pc = resumePc (getEPPCReg m) (getEPCRReg m) ∧ m'.cpu.npc = m'.cpu.pc + 4 := by
  simp only [runSimEntry] at h
  split_ifs at h
  · exact pc_of_enterLoop (m := m.setCpu { m.cpu with sr := m.cpu.sr &&& 0xFFFFFFFE }) h
  · exact pc_of_enterLoop h

/-- The loop starts at the intended instruction exactly when EPCR equals EPPC or is more than four
bytes away from it: straight-line code whose EPCR is the next instruction is taken for a delay
slot. -/
theorem resumesAt_iff {m m' : Machine} (h : runSimEntry m = .loop m') :
    ResumesAt (getEPPCReg m) (getEPCRReg m) m'.cpu ↔
      getEPCRReg m = getEPPCReg m ∨ ¬ Adjacent (getEPPCReg m) (getEPCRReg m) := by
  obtain ⟨hpc, hnpc⟩ := pc_of_runSimEntry h
  rw [ResumesAt, hpc, hnpc, and_iff_left (congrArg (· + 4) hpc), resumePc_eq]
  generalize getEPPCReg m = eppc
  generalize getEPCRReg m = epcr
  by_cases heq : epcr = eppc
  · have hadj : Adjacent eppc epcr := by
      subst heq
      exact ⟨Nat.le_add_right _ _, Nat.le_add_right _ _⟩
    simp [heq, heq ▸ hadj]
  · by_cases hadj : Adjacent eppc epcr
    · simp [heq, hadj]
    · simp [heq, hadj]

/-- A machine whose checkers report no exception register and these two addresses. -/
def stoppedAt (eppc epcr : U32) : Machine :=
  { (default : Machine) with
    spr := fun n => if n = eppcReg then eppc else if n = sprEpcrBase then epcr else 0 }

theorem resumesAt_iff_stopped :
    ResumesAt 0x1000 0x1000 { (default : CPU) with pc := 0x1000, npc := 0x1004 } ↔
      (0x1000 : U32) = 0x1000 ∨ ¬ Adjacent 0x1000 0x1000 :=
  resumesAt_iff (show runSimEntry (stoppedAt 0x1000 0x1000) = .loop
    ((stoppedAt 0x1000 0x1000).setCpu { (default : CPU) with pc := 0x1000, npc := 0x1004 }) from rfl)

/-- After the instruction at 0x1000 of straight-line code, the loop starts at 0xffc. -/
theorem not_resumesAt_stopped :
    ∃ m', runSimEntry (stoppedAt 0x1000 0x1004) = .loop m' ∧
      m'.cpu.pc = 0xffc ∧ ¬ ResumesAt 0x1000 0x1004 m'.cpu :=
  ⟨_, rfl, rfl, by decide⟩

end WirePatch
