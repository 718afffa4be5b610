import WirePatch.Hardware.Fetch
import WirePatch.Recovery.Response

/-!
# The handler is fetched

The monitor, the exception unit and the fetch stage together. A violation stops the interrupted
program at once: from the cycle in which the exception unit takes it, no instruction is issued
before the first one of the handler at `SP_IIE_ADDR`, and the registers from which the handler
repairs the program stay as they were saved.

## Main definitions

* `Fabric.Defended`, `Fabric.Defended.step`: the three parts.

## Main results

* `Fabric.Defended.guarded_regs`, `Fabric.Defended.front_regs`: the runs of the parts.
* `Fabric.Defended.dispatched_of_violated`: a violation is followed by the handler.
-/

namespace WirePatch.Fabric

open Clocked
open Or1200 (ExceptRegs Front FrontPorts)

/-- The monitor, and the fetch stage with the exception unit. -/
structure Defended where
  monitor : Monitor
  front : Front

/-- The signals from outside. -/
structure DefendedPorts where
  monitor : MonitorPorts
  front : FrontPorts

namespace Defended

section Step

variable (n : ℕ) (merge : (Fin 6 → Bool) → Bool) (s : Defended) (x : DefendedPorts)

/-- The monitor and the exception unit. -/
def guarded : Guarded := { monitor := s.monitor, unit := s.front.unit }

/-- What these two read, with the signals of the fetch stage. -/
def guardedPorts : GuardedPorts :=
  { monitor := x.monitor, unit := s.front.unitPorts x.front }

/-- What the fetch stage and the exception unit read, with the request of the monitor. -/
def frontPorts : FrontPorts :=
  { x.front with
    unit := { x.front.unit with
      sigIllegal := x.front.unit.sigIllegal || s.guarded.gated (s.guardedPorts x) } }

def step : Defended where
  monitor := s.monitor.step n merge (s.guarded.monitorPorts (s.guardedPorts x))
  front := s.front.step (s.frontPorts x)

end Step

section Run

variable (n : ℕ) (merge : (Fin 6 → Bool) → Bool) (x : ℕ → DefendedPorts)

/-- The registers in a cycle of a run that starts after a reset. -/
def regs (t : ℕ) : Defended := run (step n merge) ⟨.reset, .reset⟩ x t

/-- The signals of the monitor and the exception unit in a run. -/
def guardedRun (t : ℕ) : GuardedPorts := (regs n merge x t).guardedPorts (x t)

/-- The signals of the fetch stage and the exception unit in a run. -/
def frontRun (t : ℕ) : FrontPorts := (regs n merge x t).frontPorts (x t)

theorem guarded_regs (t : ℕ) :
    (regs n merge x t).guarded = Guarded.regs n merge (guardedRun n merge x) t :=
  run_component guarded guardedPorts (fun _ _ => rfl) t

theorem front_regs (t : ℕ) : (regs n merge x t).front = Front.regs (frontRun n merge x) t :=
  run_component front frontPorts (fun _ _ => rfl) t

/-- Both runs have the same exception unit, which reads the same signals. -/
theorem unit_eq (t : ℕ) :
    (Guarded.regs n merge (guardedRun n merge x) t).unit =
        (Front.regs (frontRun n merge x) t).unit ∧
      (Guarded.regs n merge (guardedRun n merge x) t).unitPorts (guardedRun n merge x t) =
        (Front.regs (frontRun n merge x) t).unitPorts (frontRun n merge x t) := by
  rw [← guarded_regs, ← front_regs]
  exact ⟨rfl, rfl⟩

variable {n merge x} {t u : ℕ}

/-- From the cycle in which the unit takes a violation no instruction is issued before the first one
of the handler, which finds the registers that the unit saved. -/
theorem dispatched_of_violated (hfair : Front.Fair (frontRun n merge x))
    (hviolated : (regs n merge x t).guarded.monitor.violations
      ((regs n merge x t).guarded.monitorPorts (guardedRun n merge x t)) ≠ 0)
    (htype : ∀ r, t ≤ r → r ≤ t + 1 →
      (regs n merge x r).guarded.unit.fsm.exceptType ≠ Or1200.ExceptType.illegal)
    (htu : t < u) (hno : ∀ r, t < r → r < u → ¬ Guarded.Accepts n merge (guardedRun n merge x) r)
    (hacc : Guarded.Accepts n merge (guardedRun n merge x) u) :
    ∃ w v, u < w ∧ w < v ∧
      (∀ r, u < r → r ≤ v → Front.Empty (regs n merge x r).front.fetch) ∧
      Front.Issued (frontRun n merge x) Or1200.spIieAddr w (v + 1) ∧
      (regs n merge x (v + 1)).front.unit.fsm.saved =
        (regs n merge x u).front.unit.enter (frontRun n merge x u).unit
          ((regs n merge x u).front.unit.illegalTrigger (frontRun n merge x u).unit) := by
  simp only [guarded_regs] at hviolated htype
  have hgated := Guarded.gated_of_violated (fun r _ _ => hfair.rst r) hviolated htype htu hno u htu
    le_rfl
  have hsig : ((Guarded.regs n merge (guardedRun n merge x) u).unitPorts
      (guardedRun n merge x u)).sigIllegal = true := by
    rw [Guarded.unitPorts, hgated, Bool.or_true]
  obtain ⟨hunit, hports⟩ := unit_eq n merge x u
  have he := ExceptRegs.taken_of_accepts hacc hsig
  rw [hports, hunit] at he
  obtain ⟨hflu1, hsaved, hstarts⟩ := Front.starts_of_taken (hfair.rst u) (hunit ▸ hacc.1) he
  have hnone : Or1200.ExceptType.illegal ≠ Or1200.ExceptType.none := by decide
  have htrap : Or1200.ExceptType.illegal ≠ Or1200.ExceptType.trap := by decide
  obtain ⟨w, v, huw, hwv, hempty, hissued⟩ := hstarts.exists_issued hfair hflu1 hnone htrap
  refine ⟨w, v, Nat.lt_of_succ_lt huw, hwv, fun r hur hrv => ?_, hissued, ?_⟩
  · rw [front_regs]
    exact (hempty r hur hrv).1
  · have hkept := Front.saved_regs hfair (u := v + 1) (by omega : u + 1 ≤ v + 1)
      fun r hur hrv => (hempty r hur (Nat.le_of_lt_succ hrv)).2
    rw [front_regs, front_regs]
    exact hkept.trans hsaved

end Run

/-- A program enters supervisor mode in cycle 4. -/
def entering (t : ℕ) : DefendedPorts where
  monitor := (Guarded.entering t).monitor
  front :=
    { Front.fetching 0x9c630001 100 t with
      unit := { ExceptRegs.quiet with sr := if t ≤ 3 then 0x8000 else 0x8001 } }

theorem fair_entering : Front.Fair (frontRun 1 orMerge entering) where
  rst := fun _ => rfl
  pcWe := fun _ h => nomatch h
  fetch := fun t => ⟨t + 6, by omega, by simp [frontRun, frontPorts, entering, Front.fetching]⟩
  issue := fun t => ⟨t + 6, by omega, by
    simp [frontRun, frontPorts, entering, Front.fetching, Front.ifStall, ExceptRegs.quiet]⟩

/-- The violation of cycle 4 is taken in cycle 5. -/
theorem dispatched_of_violated_entering : ∃ w v, 5 < w ∧ w < v ∧
    (∀ r, 5 < r → r ≤ v → Front.Empty (regs 1 orMerge entering r).front.fetch) ∧
    Front.Issued (frontRun 1 orMerge entering) Or1200.spIieAddr w (v + 1) ∧
    (regs 1 orMerge entering (v + 1)).front.unit.fsm.saved =
      (regs 1 orMerge entering 5).front.unit.enter (frontRun 1 orMerge entering 5).unit
        ((regs 1 orMerge entering 5).front.unit.illegalTrigger
          (frontRun 1 orMerge entering 5).unit) := by
  have htype : ∀ r, 4 ≤ r → r ≤ 4 + 1 →
      (regs 1 orMerge entering r).guarded.unit.fsm.exceptType ≠ Or1200.ExceptType.illegal := by
    intro r htr hru
    rcases (by omega : r = 4 ∨ r = 5) with rfl | rfl <;> decide +kernel
  have hacc : Guarded.Accepts 1 orMerge (guardedRun 1 orMerge entering) 5 := by
    change ExceptRegs.Accepts _ _
    decide +kernel
  exact dispatched_of_violated fair_entering (t := 4) (by decide +kernel) htype (by decide)
    (fun r htr hru => by omega) hacc

end Defended

end WirePatch.Fabric
