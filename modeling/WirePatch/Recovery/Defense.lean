import WirePatch.Fabric.Checkers
import WirePatch.Fabric.Monitor
import WirePatch.Recovery.Routine

/-!
# An escalation from the checker to the repair

A program that enters supervisor mode outside of the exception vectors is reported by checker 8.
The report is recorded, an exception is requested, and its handler reads the record. This module
follows the report through the checkers, the glue and the firmware.

## Main results

* `Fabric.Recorder.record_of_raises`: what the record holds when the exception is taken.
* `Fabric.Monitor.escalation_repaired`: an escalation is requested until its exception is taken,
  and the handler continues with the same program in user mode.
-/

namespace WirePatch.Fabric

open Clocked
open Or1200 (Processor)

/-! ### The record -/

namespace Recorder

variable {x : ℕ → RecorderPorts} {t u : ℕ}

/-- After a violation at which the latch of the fabric delivers nothing, the request stays and the
record does not change until the exception is taken. -/
theorem record_of_raises (h : Raises x t) (hnone : (regs x t).lingering (x t) = 0) (htu : t < u)
    (hwaits : ∀ r, t < r → r < u → (x r).Waits) :
    (regs x u).Quiet ∧ (regs x u).glue.assertionsViolatedReg = raised x t ∧
      (regs x u).glue.eppc = (x t).sprDatPpc := by
  have hquiet : (regs x (t + 1)).Quiet :=
    ⟨by rw [h.glue_succ], h.fabric_succ.trans hnone⟩
  obtain ⟨hq, hreg, heppc⟩ := kept_of_quiet hquiet htu hwaits
  refine ⟨hq, hreg.trans ?_, heppc.trans ?_⟩
  · rw [h.glue_succ]
  · rw [h.glue_succ]

end Recorder

/-! ### The repair -/

namespace Monitor

variable {n : ℕ} {merge : (Fin 6 → Bool) → Bool} {x : ℕ → MonitorPorts} {t u : ℕ}

variable (n merge x) in
/-- The inputs of the baked-in checkers in a run. -/
def bakedInRun (t : ℕ) : BakedInPorts := (regs n merge x t).bakedInPorts (x t)

variable (n merge x) in
/-- The processor enters supervisor mode outside of the exception vectors, in a cycle in which no
exception for a violation is taken. The fabric has nothing to report. -/
structure Escalates (t : ℕ) : Prop where
  smRises : BakedIn.SmRises (bakedInRun n merge x) t
  atVector : (x t).isa.atVector = false
  handled : exceptionHandled (x t).exceptType = false
  fabric : (regs n merge x t).driver.assertionsViolated = 0
  fabricViolated :
    (regs n merge x t).driver.assertionViolatedIn n merge ((regs n merge x t).driverPorts (x t)) =
      false

theorem Escalates.not_reset (h : Escalates n merge x t) :
    (regs n merge x t).gated (x t) = false ∧ (x t).rst = false := by
  have hactive : ((regs n merge x t).control (x t)).rst = false := h.smRises.1.1
  rwa [control, Bool.or_eq_false_iff] at hactive

/-- Checker 8 reports it, and checker 3 is silent. -/
theorem Escalates.violations (h : Escalates n merge x t) :
    ((regs n merge x t).violations (x t)).getLsbD 8 = true ∧
      ((regs n merge x t).violations (x t)).getLsbD 3 = false := by
  have hfired : (regs n merge x t).violations (x t) = BakedIn.fired (bakedInRun n merge x) t := by
    rw [Monitor.violations, h.fabric, bakedIn_regs]
    exact BitVec.or_zero
  rw [hfired, BakedIn.fired, BakedIn.getLsbD_checkersFired_8, BakedIn.getLsbD_checkersFired_3]
  refine ⟨?_, Bool.eq_false_iff.mpr fun hthree => ?_⟩
  · exact (BakedIn.checker_8_eq_true_iff (bakedInRun n merge x) t).mpr ⟨h.smRises, h.atVector⟩
  · have hvector := BakedIn.atVector_of_wrongBackup (BakedIn.checker_3_iff.mp hthree)
    exact absurd (hvector.symm.trans h.atVector) (by decide)

/-- An escalation is requested until the exception for it is taken, and recorded. -/
theorem Escalates.recorded (h : Escalates n merge x t) (htu : t < u)
    (hwaits : ∀ r, t < r → r < u → (x r).rst = false ∧ exceptionHandled (x r).exceptType = false) :
    (regs n merge x u).glue.exceptionHold = true ∧
      (regs n merge x u).glue.assertionsViolatedReg = (regs n merge x t).violations (x t) ∧
      (regs n merge x u).glue.eppc = (x t).isa.sprDatPpc := by
  let y := fun r => (regs n merge x r).recorderPorts n merge (x r)
  have hrecorder (r : ℕ) : (regs n merge x r).recorder = Recorder.regs y r := recorder_regs ..
  have hraised : Recorder.raised y t = (regs n merge x t).violations (x t) := by
    rw [Recorder.raised, ← hrecorder]
    exact violations_recorder
  have hraises : Recorder.Raises y t := by
    refine ⟨h.not_reset.2, fun hzero => ?_, ?_, h.handled⟩
    · have hbit := h.violations.1
      rw [← hraised, hzero] at hbit
      exact absurd hbit (by decide)
    · rw [← hrecorder]
      exact h.not_reset.1
  have hnone : (Recorder.regs y t).lingering (y t) = 0 := by
    rw [← hrecorder, Recorder.lingering]
    change (if (regs n merge x t).driver.assertionViolatedIn n merge
      ((regs n merge x t).driverPorts (x t)) then _ else _) = _
    rw [h.fabricViolated]
    exact h.fabric
  obtain ⟨hquiet, hreg, heppc⟩ := Recorder.record_of_raises hraises hnone htu hwaits
  rw [← hrecorder] at hquiet hreg heppc
  exact ⟨hquiet.1, hreg.trans hraised, heppc⟩

/-- From the cycle after an escalation on an exception is requested, and when it is taken, its
handler continues with the interrupted program in user mode, and changes nothing else of it. -/
theorem escalation_repaired (h : Escalates n merge x t) (htu : t < u)
    (hwaits : ∀ r, t < r → r < u → (x r).rst = false ∧ exceptionHandled (x r).exceptType = false)
    (cpu bail : U32) (stack : Stack) (junk : ℕ → U32) (exPc : U32) (dsx : Bool) (fuel : ℕ)
    (p : Processor) (hfo : p.spr.esr.getLsbD 15 = true) :
    (∀ r, t < r → r < u → (regs n merge x r).gated (x r) = true) ∧
      ∃ p', recover cpu bail stack junk (regs n merge x u).glue fuel (p.illegal exPc dsx) =
          some p' ∧
        SameProgram (withoutSm p) p' ∧ ∀ a, Free cpu stack a → p'.mem a = p.mem a := by
  constructor
  · intro r htr hru
    have hhold := (h.recorded htr fun k hk hkr => hwaits k hk (hkr.trans hru)).1
    exact Glue.exceptionGated_of_exceptionHold hhold (hwaits r htr hru).2
  · obtain ⟨-, hrecord, -⟩ := h.recorded htu hwaits
    obtain ⟨height, hthree⟩ := h.violations
    rw [← hrecord] at height hthree
    refine recover_of_mode cpu bail stack junk exPc dsx fuel hfo (fun hzero => ?_) ?_
    · have hbit := congrArg (fun v : U32 => v.getLsbD 8) hzero
      rw [BitVec.getLsbD_and, height] at hbit
      exact absurd hbit (by decide)
    · by_contra hne
      have hbit := (BitMask.and_twoPow_ne_zero_iff (i := 3) (by decide) _).mp hne
      rw [hthree] at hbit
      cases hbit

end Monitor

end WirePatch.Fabric
