import WirePatch.Fabric.ExceptionRegisters
import WirePatch.Recovery.Dispatch

/-!
# What the checkers see of an exception

An exception empties the execute stage, and the checkers are enabled only while it holds an
instruction. They see the handler directly after the last instruction of the interrupted program,
but never in the clock cycle after it, which is where checker 3 looks for the earlier mode.

## Main definitions

* `Fabric.Defended.checkerRun`: the inputs of the checkers in a run.

## Main results

* `Fabric.Defended.unseen_of_taken`: the checkers are disabled until the handler is issued.
* `Fabric.Defended.fired_3_of_taken`: checker 3 at the vector of an exception.
-/

namespace WirePatch.Fabric.Defended

open Clocked
open Or1200 (ExceptRegs Front exceptVector isVoid)

section Run

variable (n : ℕ) (merge : (Fin 6 → Bool) → Bool) (x : ℕ → DefendedPorts)

/-- The inputs of the baked-in checkers in a run. -/
def checkerRun : ℕ → BakedInPorts :=
  Monitor.bakedInRun n merge (Guarded.monitorRun n merge (guardedRun n merge x))

theorem control_checkerRun (t : ℕ) : BakedIn.control (checkerRun n merge x) t =
    (regs n merge x t).guarded.monitor.control
      ((regs n merge x t).guarded.monitorPorts (guardedRun n merge x t)) := by
  have hmonitor := Guarded.monitor_regs n merge (guardedRun n merge x) t
  change (Monitor.regs n merge _ t).control _ = _
  rw [guarded_regs, hmonitor]
  rfl

variable {n merge x} {p t u : ℕ}

/-- Without an instruction in the execute stage the checkers are disabled. -/
theorem enable_of_isVoid (h : isVoid (regs n merge x t).front.fetch.exInsn = true) :
    (BakedIn.control (checkerRun n merge x) t).enable = false := by
  have hvoid : ((regs n merge x t).guarded.monitorPorts (guardedRun n merge x t)).exVoid = true := h
  rw [control_checkerRun, Monitor.control, MonitorPorts.insnClk, hvoid]
  rfl

theorem rst_of_control (h : (BakedIn.control (checkerRun n merge x) t).rst = false) :
    (frontRun n merge x t).unit.rst = false := by
  rw [control_checkerRun] at h
  exact (Bool.or_eq_false_iff.mp h).2

/-- From an exception until the first instruction of its handler is issued the checkers are
disabled. -/
theorem unseen_of_taken (hfair : Front.Fair (frontRun n merge x)) {e : ExceptRegs.Trigger}
    (hidle : (regs n merge x t).front.unit.fsm.state = .idle)
    (he : (regs n merge x t).front.unit.taken
      ((regs n merge x t).front.unitPorts (frontRun n merge x t)) = some e)
    (htrap : e.exceptType ≠ Or1200.ExceptType.trap) :
    ∃ w v, t < w ∧ w < v ∧
      (∀ r, t < r → r ≤ v + 1 → (BakedIn.control (checkerRun n merge x) r).enable = false) ∧
      Front.Issued (frontRun n merge x)
        (exceptVector e.exceptType ((frontRun n merge x w).unit.sr.getLsbD 14)) w (v + 1) := by
  rw [front_regs] at hidle he
  obtain ⟨hflu1, -, hstarts⟩ := Front.starts_of_taken (hfair.rst t) hidle he
  obtain ⟨w, v, htw, hwv, hempty, hissued⟩ :=
    hstarts.exists_issued hfair hflu1 (ExceptRegs.exceptType_ne_none_of_taken he) htrap
  refine ⟨w, v, Nat.lt_of_succ_lt htw, hwv, fun r htr hrv => enable_of_isVoid ?_, hissued⟩
  rw [front_regs]
  rcases hrv.lt_or_eq with hlt | rfl
  · exact (hempty r htr (Nat.le_of_lt_succ hlt)).1.exInsn
  · -- the handler is one stage behind
    have hlast := (hempty v (htw.trans hwv).le le_rfl).1
    exact Front.exReg_induction (P := fun insn => isVoid insn = true) rfl hlast.idInsn hlast.exInsn

/-- The earlier mode does not reach checker 3 through an exception: in the first enabled cycle at
the vector it reports EEAR and EPCR, and nothing of ESR. -/
theorem fired_3_of_taken {e : ExceptRegs.Trigger}
    (h : BakedIn.EntersVector (checkerRun n merge x) p u) (hpt : p ≤ t) (htu : t < u)
    (hidle : (regs n merge x t).front.unit.fsm.state = .idle)
    (he : (regs n merge x t).front.unit.taken
      ((regs n merge x t).front.unitPorts (frontRun n merge x t)) = some e) :
    let a := (checkerRun n merge x u).isa
    (BakedIn.fired (checkerRun n merge x) u).getLsbD 3 = true ↔
      (a.exPc = 0xA00#32 ∧ a.eear ≠ a.sprDatNpc) ∨
      (a.srDsx = true ∧ a.epcr ≠ a.sprDatPpc) ∨
      (a.srDsx = false ∧ a.exPc = 0xA00#32 ∧ a.epcr ≠ a.sprDatPpc + 4#32 ∧
        a.epcr ≠ a.sprDatNpc) := by
  obtain ⟨hlast, hactive, -⟩ := id h
  have hrst : (BakedIn.control (checkerRun n merge x) t).rst = false := by
    rcases hpt.eq_or_lt with rfl | hlt
    · exact hlast.isActive.1
    · exact (hlast.isIdle hlt htu).1
  have hflush : (regs n merge x t).front.flushpipe (frontRun n merge x t) = true := by
    rw [Front.flushpipe, ExceptRegs.flushpipe, ExceptRegs.exceptFlushpipe, he, hidle]
    rfl
  have hvoid : isVoid (regs n merge x (t + 1)).front.fetch.exInsn = true :=
    (Front.empty_step_of_flushpipe (rst_of_control hrst) hflush).1.exInsn
  have hlate : p + 1 ≠ u := by
    intro hpu
    obtain rfl : u = t + 1 := by omega
    exact Bool.false_ne_true ((enable_of_isVoid hvoid).symm.trans hactive.2)
  rw [BakedIn.fired_3_iff h]
  simp only [hlate, false_and, false_or]

end Run

/-- A program is interrupted by a misaligned access in cycle 6. -/
def misaligning (t : ℕ) : DefendedPorts where
  monitor := (Guarded.entering t).monitor
  front :=
    { Front.fetching 0x9c630001 100 t with
      unit := { ExceptRegs.quiet with sigAlign := t = 6 } }

theorem fair_misaligning : Front.Fair (frontRun 1 orMerge misaligning) where
  rst := fun _ => rfl
  pcWe := fun _ h => nomatch h
  fetch := fun t => ⟨t + 6, by omega, by simp [frontRun, frontPorts, misaligning, Front.fetching]⟩
  issue := fun t => ⟨t + 6, by omega, by
    simp [frontRun, frontPorts, misaligning, Front.fetching, Front.ifStall, ExceptRegs.quiet]⟩

/-- The access is at address 0x10C. -/
theorem taken_misaligning : (regs 1 orMerge misaligning 6).front.unit.taken
    ((regs 1 orMerge misaligning 6).front.unitPorts (frontRun 1 orMerge misaligning 6)) =
      some ⟨true, Or1200.ExceptType.align, some 0, 0x10C⟩ := by
  decide +kernel

theorem unseen_of_taken_misaligning : ∃ w v, 6 < w ∧ w < v ∧
    (∀ r, 6 < r → r ≤ v + 1 →
      (BakedIn.control (checkerRun 1 orMerge misaligning) r).enable = false) ∧
    Front.Issued (frontRun 1 orMerge misaligning) (exceptVector Or1200.ExceptType.align
      ((frontRun 1 orMerge misaligning w).unit.sr.getLsbD 14)) w (v + 1) :=
  unseen_of_taken fair_misaligning (by decide +kernel) taken_misaligning (by decide)

/-- Cycle 13 is the first at the vector. -/
theorem fired_3_of_taken_misaligning :
    let a := (checkerRun 1 orMerge misaligning 13).isa
    (BakedIn.fired (checkerRun 1 orMerge misaligning) 13).getLsbD 3 = true ↔
      (a.exPc = 0xA00#32 ∧ a.eear ≠ a.sprDatNpc) ∨
      (a.srDsx = true ∧ a.epcr ≠ a.sprDatPpc) ∨
      (a.srDsx = false ∧ a.exPc = 0xA00#32 ∧ a.epcr ≠ a.sprDatPpc + 4#32 ∧
        a.epcr ≠ a.sprDatNpc) :=
  fired_3_of_taken (p := 6) (t := 6) (by decide +kernel) le_rfl (by decide) (by decide +kernel)
    taken_misaligning

end WirePatch.Fabric.Defended
