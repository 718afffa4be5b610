import WirePatch.Hardware.Sprs
import WirePatch.Simulator.Exceptions

/-!
# Exception entry: the simulator and the processor

The supervision register and its saved copy after an entry routine of the simulator, compared with
the word the processor loads when an exception starts and the word it saves. They differ in three
places. All routines but `sys` write DSX before they save the register; none of them clears OVE;
the processor sets TED, which the simulator leaves alone.

## Main definitions

* `handlerSr`: the supervision register an exception handler should start with.
* `EntryAgrees`: an entry routine leaves this register and saves the old one, as the processor does.

## Main results

* `entryAgrees_iff`: when an entry routine agrees with the processor.
-/

namespace WirePatch

/-- The supervision register an exception handler should start with: DSX is the delay-slot bit,
OVE, IME, DME, IEE and TEE are cleared, SM is set, and nothing else changes. -/
def handlerSr (sr : U32) (delaySlot : Bool) : U32 :=
  BitMask.merge sr 0xffffcf98 (bif delaySlot then 0x2001 else 0x1)

/-- The signals of the processor in the cycle that starts an exception at `cpu`. -/
def exceptionCycle (s : Or1200.SrSignals) (cpu : CPU) : Or1200.SrSignals :=
  { s with sr := cpu.sr.setWidth 17, dsx := isInDelaySlot cpu, exceptStarted := true }

/-- The entry routine of `e` agrees with the processor, whose other signals are `s`: the old
supervision register is saved unmodified, the new one is the handler's, and both are the words of
the processor. -/
structure EntryAgrees (s : Or1200.SrSignals) (e : Exc) (cpu : CPU) : Prop where
  esr : (e.enter cpu).esr = cpu.sr
  sr : (e.enter cpu).sr = handlerSr cpu.sr (isInDelaySlot cpu)
  saved : (e.enter cpu).esr.setWidth 17 =
    Or1200.nextEsr false (Or1200.toSr (exceptionCycle s cpu)) (exceptionCycle s cpu).sr
  loaded : (handlerSr cpu.sr (isInDelaySlot cpu)).setWidth 17 =
    Or1200.toSr (exceptionCycle s cpu)

/-- A test of a single-bit flag reads that bit. -/
theorem cpuIsSetSrFlag_twoPow {i : ℕ} (hi : i < 32) (cpu : CPU) :
    cpuIsSetSrFlag cpu (BitVec.twoPow 32 i) = cpu.sr.getLsbD i := by
  rw [Bool.eq_iff_iff, cpuIsSetSrFlag_eq_true]
  exact BitMask.and_twoPow_ne_zero_iff hi _

theorem sprSrDsx_eq : sprSrDsx = BitVec.twoPow 32 13 := rfl

/-- The saved register is the old one for `sys`, and otherwise when DSX is right already. -/
theorem Exc.enter_esr_eq_iff (e : Exc) (cpu : CPU) :
    (e.enter cpu).esr = cpu.sr ↔
      e = sys ∨ cpuIsSetSrFlag cpu sprSrDsx = isInDelaySlot cpu := by
  rw [enter_eq]
  by_cases he : e = sys
  · simp [entryEsr, he]
  · simp only [entryEsr, he, if_false, false_or]
    rw [sprSrDsx_eq, cpuIsSetSrFlag_twoPow (by decide)]
    exact BitMask.assign_twoPow_eq_self_iff (by decide) ..

/-- The handler's register is the one an entry leaves with OVE cleared. -/
theorem handlerSr_eq_assign (sr : U32) (delaySlot : Bool) :
    handlerSr sr delaySlot = BitMask.assign (entrySr sr delaySlot) sprSrOve false := by
  rw [BitMask.assign_eq_merge, entrySr, BitMask.merge_merge, handlerSr]
  cases delaySlot <;> rfl

/-- The new register is the handler's exactly when OVE was clear. -/
theorem Exc.enter_sr_eq_iff (e : Exc) (cpu : CPU) :
    (e.enter cpu).sr = handlerSr cpu.sr (isInDelaySlot cpu) ↔
      cpuIsSetSrFlag cpu sprSrOve = false := by
  have hkeep : (entrySr cpu.sr (isInDelaySlot cpu)) &&& sprSrOve = cpu.sr &&& sprSrOve := by
    refine BitMask.merge_and_of_keep (by decide) ?_ _
    cases isInDelaySlot cpu <;> rfl
  rw [enter_eq, handlerSr_eq_assign, eq_comm, BitMask.assign_eq_self_iff, hkeep,
    cpuIsSetSrFlag_eq_false]
  rfl

/-- The processor loads the handler's register with TED set. -/
theorem toSr_exceptionCycle (s : Or1200.SrSignals) (cpu : CPU) :
    Or1200.toSr (exceptionCycle s cpu) =
      BitMask.assign ((handlerSr cpu.sr (isInDelaySlot cpu)).setWidth 17)
        (BitVec.twoPow 17 16) true := by
  rw [Or1200.toSr_of_exceptStarted rfl, handlerSr, BitMask.setWidth_merge, BitMask.assign_eq_merge,
    BitMask.merge_merge]
  simp only [exceptionCycle]
  cases isInDelaySlot cpu <;> rfl

/-- The handler's register is the word of the processor exactly when TED is set. -/
theorem handlerSr_eq_toSr_iff (s : Or1200.SrSignals) (cpu : CPU) :
    (handlerSr cpu.sr (isInDelaySlot cpu)).setWidth 17 = Or1200.toSr (exceptionCycle s cpu) ↔
      cpu.sr.getLsbD 16 = true := by
  rw [toSr_exceptionCycle, eq_comm, BitMask.assign_twoPow_eq_self_iff (by decide), handlerSr,
    BitVec.getLsbD_setWidth]
  cases isInDelaySlot cpu <;> simp [BitMask.merge]

/-- An entry routine agrees with the processor exactly when OVE is clear, TED is set, and DSX is
the delay-slot bit already, the last for every exception but a system call. -/
theorem entryAgrees_iff (s : Or1200.SrSignals) (e : Exc) (cpu : CPU) :
    EntryAgrees s e cpu ↔
      (e = .sys ∨ cpuIsSetSrFlag cpu sprSrDsx = isInDelaySlot cpu) ∧
        cpuIsSetSrFlag cpu sprSrOve = false ∧ cpu.sr.getLsbD 16 = true := by
  rw [← e.enter_esr_eq_iff, ← e.enter_sr_eq_iff, ← handlerSr_eq_toSr_iff s]
  constructor
  · rintro ⟨hesr, hsr, -, hloaded⟩
    exact ⟨hesr, hsr, hloaded⟩
  · rintro ⟨hesr, hsr, hloaded⟩
    exact ⟨hesr, hsr, by rw [hesr]; rfl, hloaded⟩

/-- In straight-line code, with DSX set by the handler that runs, with OVE clear and TED set, a data
TLB miss saves the supervision register without its DSX bit. -/
theorem not_entryAgrees_dsx :
    ¬ EntryAgrees default (.dataTLBMiss 0x4000)
      { (default : CPU) with pc := 0x2000, npc := 0x2004, sr := 0x1a001 } :=
  fun h => absurd h.esr (by decide)

end WirePatch
