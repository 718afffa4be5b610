import WirePatch.Hardware.Except
import WirePatch.Recovery.Defense

/-!
# The exception unit answers the monitor

The monitor requests an exception for a violation, the exception unit takes it as an illegal
instruction, and the type of the exception it takes withdraws the request (`or1200_cpu.v`, lines
349–386 and 889–975). Closing this loop shows that no request is lost: it stays up until the first
cycle in which the unit can take it, whatever else the unit does before, and the handler then finds
the registers of the interrupted program.

## Main definitions

* `Fabric.Guarded`, `Fabric.Guarded.step`: the monitor and the exception unit.
* `Or1200.Saved.ofSpr`: the registers of the unit, as the handler names them.

## Main results

* `Fabric.Guarded.taken_of_violated`: a violation is taken in the first cycle in which the unit
  accepts it.
* `Fabric.Guarded.escalation_answered`: an escalation is requested, taken and repaired.
-/

namespace WirePatch

/-! ### The registers of the handler -/

namespace Or1200

/-- The registers of the unit, as the handler names them. -/
def Saved.ofSpr (spr : SprFile) (dsx : Bool) : Saved :=
  { epcr := spr.epcr
    eear := spr.eear
    esr := spr.esr
    spEpcrGhost := spr.spEpcrGhost
    spEearGhost := spr.spEearGhost
    spEsrGhost := spr.spEsrGhost
    dsx := dsx }

namespace ExceptRegs

/-- A processor whose registers are those of the unit, and whose pc is the address to return to from
an illegal instruction in the execute stage. -/
structure Interrupts (s : ExceptRegs) (i : ExceptIn) (p : Processor) : Prop where
  pc : p.pc = s.returnTo s.pipe.dlPc s.pipe.exPc
  sr : p.spr.sr = nextEsr i.srWe i.toSr i.sr
  saved : s.fsm.saved = Saved.ofSpr p.spr s.fsm.saved.dsx

/-- The unit enters the handler with the registers of the processor model. -/
theorem Interrupts.enter {s : ExceptRegs} {i : ExceptIn} {p : Processor} (h : s.Interrupts i p) :
    s.enter i (s.illegalTrigger i) =
      Saved.ofSpr (p.illegal s.pipe.exPc s.pipe.exDslot).spr s.pipe.exDslot := by
  rw [ExceptRegs.enter, h.saved, ← h.sr]
  refine Saved.ext h.pc.symm ?_ ?_ ?_ ?_ ?_ ?_ <;> rfl

end ExceptRegs

end Or1200

namespace Fabric

open Clocked
open Or1200 (ExceptIn ExceptRegs Processor Saved)

/-- A violation is held as a request. -/
theorem Monitor.exceptionHold_of_violated {n : ℕ} {merge : (Fin 6 → Bool) → Bool} {s : Monitor}
    {x : MonitorPorts} (hrst : x.rst = false) (hviolated : s.violations x ≠ 0)
    (hhandled : exceptionHandled x.exceptType = false) :
    (s.step n merge x).glue.exceptionHold = true := by
  have hglue := Glue.step_of_violated (s := s.glue)
    (x := ⟨x.rst, s.violations x, x.exceptType, x.isa.sprDatPpc⟩) hrst (bne_iff_ne.mpr hviolated)
  refine (congrArg Glue.exceptionHold hglue).trans ?_
  rw [hhandled]
  rfl

/-! ### The loop -/

/-- The monitor and the exception unit. -/
structure Guarded where
  monitor : Monitor
  unit : ExceptRegs

/-- The signals from outside the loop. -/
structure GuardedPorts where
  monitor : MonitorPorts
  unit : ExceptIn

namespace Guarded

section Step

variable (n : ℕ) (merge : (Fin 6 → Bool) → Bool) (s : Guarded) (x : GuardedPorts)

/-- What the monitor reads: the program counter, the saved registers and the type of the exception
come from the unit. -/
def monitorPorts : MonitorPorts :=
  { x.monitor with
    rst := x.unit.rst
    exVoid := x.unit.exVoid
    exFreeze := x.unit.exFreeze
    isa := { x.monitor.isa with
      exPc := s.unit.pipe.exPc
      eear := s.unit.fsm.saved.eear
      sr := x.unit.sr
      esr := s.unit.fsm.saved.esr
      epcr := s.unit.fsm.saved.epcr }
    exceptType := s.unit.fsm.exceptType }

/-- `sp_exceptionGated`. -/
def gated : Bool := s.monitor.gated (s.monitorPorts x)

/-- What the unit reads: `sig_illegal` is `except_illegal | sp_exceptionGated`. -/
def unitPorts : ExceptIn :=
  { x.unit with sigIllegal := x.unit.sigIllegal || s.gated x }

def step : Guarded where
  monitor := s.monitor.step n merge (s.monitorPorts x)
  unit := s.unit.step (s.unitPorts x)

end Step

section Run

variable (n : ℕ) (merge : (Fin 6 → Bool) → Bool) (x : ℕ → GuardedPorts)

/-- The registers in a cycle of a run that starts after a reset. -/
def regs (t : ℕ) : Guarded := run (step n merge) ⟨.reset, .reset⟩ x t

/-- The monitor runs on the signals of the unit. -/
theorem monitor_regs (t : ℕ) : (regs n merge x t).monitor =
    Monitor.regs n merge (fun r => (regs n merge x r).monitorPorts (x r)) t :=
  run_component monitor monitorPorts (fun _ _ => rfl) t

/-- The unit runs on the requests of the monitor. -/
theorem unit_regs (t : ℕ) : (regs n merge x t).unit =
    ExceptRegs.run (fun r => (regs n merge x r).unitPorts (x r)) t :=
  run_component unit unitPorts (fun _ _ => rfl) t

/-- The unit can take a request in a cycle. -/
def Accepts (t : ℕ) : Prop :=
  (regs n merge x t).unit.Accepts ((regs n merge x t).unitPorts (x t))

variable {n merge x} {t u : ℕ}

theorem fsm_succ (hrst : (x t).unit.rst = false) : (regs n merge x (t + 1)).unit.fsm =
    (regs n merge x t).unit.nextFsm ((regs n merge x t).unitPorts (x t)) :=
  ExceptRegs.fsm_step hrst

/-- No illegal instruction is taken before the unit accepts one. -/
theorem exceptType_ne_of_not_accepts (htu : t ≤ u)
    (hrst : ∀ r, t ≤ r → r < u → (x r).unit.rst = false)
    (htype : (regs n merge x t).unit.fsm.exceptType ≠ Or1200.ExceptType.illegal)
    (hno : ∀ r, t ≤ r → r < u → ¬ Accepts n merge x r) :
    (regs n merge x u).unit.fsm.exceptType ≠ Or1200.ExceptType.illegal := by
  induction u, htu using Nat.le_induction with
  | base => exact htype
  | succ u htu ih =>
    have hprev := ih (fun r htr hru => hrst r htr (Nat.lt_succ_of_lt hru))
      fun r htr hru => hno r htr (Nat.lt_succ_of_lt hru)
    rw [fsm_succ (hrst u htu u.lt_succ_self)]
    exact fun h => hno u htu u.lt_succ_self (ExceptRegs.accepts_of_exceptType hprev h)

/-- A request is taken in the cycle in which the unit accepts it, and withdrawn with that. -/
theorem taken_of_gated (hrst : (x t).unit.rst = false)
    (hgated : (regs n merge x t).gated (x t) = true) (hacc : Accepts n merge x t) :
    (regs n merge x (t + 1)).unit.fsm =
        { state := .flu1
          exceptType := Or1200.ExceptType.illegal
          extendFlush := true
          saved := (regs n merge x t).unit.enter ((regs n merge x t).unitPorts (x t))
            ((regs n merge x t).unit.illegalTrigger ((regs n merge x t).unitPorts (x t))) } ∧
      (regs n merge x (t + 1)).gated (x (t + 1)) = false := by
  have hsig : ((regs n merge x t).unitPorts (x t)).sigIllegal = true := by
    rw [unitPorts, hgated, Bool.or_true]
  have hfsm : (regs n merge x (t + 1)).unit.fsm =
      (regs n merge x t).unit.nextFsm ((regs n merge x t).unitPorts (x t)) := fsm_succ hrst
  rw [ExceptRegs.nextFsm_of_taken hacc.1 (ExceptRegs.taken_of_accepts hacc hsig)] at hfsm
  refine ⟨hfsm, ?_⟩
  rw [gated, Monitor.gated, Glue.exceptionGated, monitorPorts, hfsm]
  exact Bool.and_false _

/-- A violation is requested from the next cycle on, until the unit accepts it for the first
time. -/
theorem gated_of_violated (hrst : ∀ r, t ≤ r → r ≤ u → (x r).unit.rst = false)
    (hviolated : (regs n merge x t).monitor.violations ((regs n merge x t).monitorPorts (x t)) ≠ 0)
    (htype : ∀ r, t ≤ r → r ≤ t + 1 →
      (regs n merge x r).unit.fsm.exceptType ≠ Or1200.ExceptType.illegal)
    (htu : t < u) (hno : ∀ r, t < r → r < u → ¬ Accepts n merge x r) :
    ∀ r, t < r → r ≤ u → (regs n merge x r).gated (x r) = true := by
  have hwaits (r : ℕ) (htr : t < r) (hru : r ≤ u) :
      exceptionHandled (regs n merge x r).unit.fsm.exceptType = false :=
    beq_eq_false_iff_ne.mpr <| exceptType_ne_of_not_accepts htr
      (fun k htk hkr => hrst k (by omega) (hkr.le.trans hru)) (htype (t + 1) (by omega) le_rfl)
      fun k htk hkr => hno k htk (hkr.trans_le hru)
  have hheld (r : ℕ) (htr : t + 1 ≤ r) (hru : r ≤ u) :
      (regs n merge x r).monitor.glue.exceptionHold = true := by
    induction r, htr using Nat.le_induction with
    | base =>
      exact Monitor.exceptionHold_of_violated (hrst t le_rfl htu.le) hviolated
        (beq_eq_false_iff_ne.mpr (htype t le_rfl t.le_succ))
    | succ r htr ih =>
      exact Glue.exceptionHold_step (ih (by omega))
        ⟨hrst r (by omega) (by omega), hwaits r htr (by omega)⟩
  exact fun r htr hru =>
    Glue.exceptionGated_of_exceptionHold (hheld r htr hru) (hwaits r htr hru)

/-- No violation is lost: it is requested until the unit accepts it, the unit enters the handler
with the address of the instruction in the execute stage, and with that the request ends. -/
theorem taken_of_violated (hrst : ∀ r, t ≤ r → r ≤ u → (x r).unit.rst = false)
    (hviolated : (regs n merge x t).monitor.violations ((regs n merge x t).monitorPorts (x t)) ≠ 0)
    (htype : ∀ r, t ≤ r → r ≤ t + 1 →
      (regs n merge x r).unit.fsm.exceptType ≠ Or1200.ExceptType.illegal)
    (htu : t < u) (hno : ∀ r, t < r → r < u → ¬ Accepts n merge x r)
    (hacc : Accepts n merge x u) :
    (∀ r, t < r → r ≤ u → (regs n merge x r).gated (x r) = true) ∧
      (regs n merge x (u + 1)).unit.fsm.exceptType = Or1200.ExceptType.illegal ∧
      (regs n merge x (u + 1)).unit.fsm.saved.eear = (regs n merge x u).unit.pipe.exPc ∧
      (regs n merge x (u + 1)).unit.fsm.saved.spEpcrGhost =
        (regs n merge x u).unit.fsm.saved.epcr ∧
      (regs n merge x (u + 1)).gated (x (u + 1)) = false := by
  have hgated := gated_of_violated hrst hviolated htype htu hno
  obtain ⟨hfsm, hended⟩ := taken_of_gated (hrst u htu.le le_rfl) (hgated u htu le_rfl) hacc
  exact ⟨hgated, by rw [hfsm], by rw [hfsm]; rfl, by rw [hfsm]; rfl, hended⟩

/-! ### Escalations -/

/-- The signals the monitor reads in a run. -/
def monitorRun (n : ℕ) (merge : (Fin 6 → Bool) → Bool) (x : ℕ → GuardedPorts) (t : ℕ) :
    MonitorPorts :=
  (regs n merge x t).monitorPorts (x t)

/-- An escalation is requested until the unit accepts it for the first time. The unit then enters
the handler with the registers of the interrupted program, and the handler continues with the same
program in user mode, and changes nothing else of it. -/
theorem escalation_answered (h : Monitor.Escalates n merge (monitorRun n merge x) t)
    (hrst : ∀ r, t ≤ r → r ≤ u → (x r).unit.rst = false)
    (hnext : (regs n merge x (t + 1)).unit.fsm.exceptType ≠ Or1200.ExceptType.illegal)
    (htu : t < u) (hno : ∀ r, t < r → r < u → ¬ Accepts n merge x r) (hacc : Accepts n merge x u)
    {p : Processor}
    (hp : (regs n merge x u).unit.Interrupts ((regs n merge x u).unitPorts (x u)) p)
    (hfo : p.spr.esr.getLsbD 15 = true) (cpu bail : U32) (stack : Stack) (junk : ℕ → U32)
    (fuel : ℕ) :
    let pipe := (regs n merge x u).unit.pipe
    (∀ r, t < r → r ≤ u → (regs n merge x r).gated (x r) = true) ∧
      (regs n merge x (u + 1)).unit.fsm.exceptType = Or1200.ExceptType.illegal ∧
      (regs n merge x (u + 1)).unit.fsm.saved =
        Saved.ofSpr (p.illegal pipe.exPc pipe.exDslot).spr pipe.exDslot ∧
      ∃ p', recover cpu bail stack junk (regs n merge x (u + 1)).monitor.glue fuel
          (p.illegal pipe.exPc pipe.exDslot) = some p' ∧
        SameProgram (withoutSm p) p' ∧ ∀ a, Free cpu stack a → p'.mem a = p.mem a := by
  have hmonitor (r : ℕ) : (regs n merge x r).monitor =
      Monitor.regs n merge (monitorRun n merge x) r := monitor_regs ..
  have htype : (regs n merge x t).unit.fsm.exceptType ≠ Or1200.ExceptType.illegal :=
    beq_eq_false_iff_ne.mp h.handled
  have hviolated :
      (regs n merge x t).monitor.violations ((regs n merge x t).monitorPorts (x t)) ≠ 0 := by
    intro hzero
    have hbit := h.violations.1
    rw [← hmonitor, monitorRun, hzero] at hbit
    exact absurd hbit (by decide)
  have hboth (r : ℕ) (htr : t ≤ r) (hrt : r ≤ t + 1) :
      (regs n merge x r).unit.fsm.exceptType ≠ Or1200.ExceptType.illegal := by
    rcases (by omega : r = t ∨ r = t + 1) with rfl | rfl
    · exact htype
    · exact hnext
  have hgated := gated_of_violated hrst hviolated hboth htu hno
  obtain ⟨hfsm, -⟩ := taken_of_gated (hrst u htu.le le_rfl) (hgated u htu le_rfl) hacc
  refine ⟨hgated, by rw [hfsm], by rw [hfsm, hp.enter], ?_⟩
  rw [hmonitor]
  refine (Monitor.escalation_repaired h (u := u + 1) (by omega) (fun r htr hru => ?_) cpu bail
    stack junk _ _ fuel p hfo).2
  have hr := hgated r htr (by omega)
  rw [gated, Monitor.gated, Glue.exceptionGated, Bool.and_eq_true, Bool.not_eq_true'] at hr
  exact ⟨hrst r htr.le (by omega), hr.2⟩

end Run

/-- Idle signals outside of the loop: a program at address 0x2000 enters supervisor mode in
cycle 3, and in cycle 4 no valid instruction is in the execute stage. -/
def entering (t : ℕ) : GuardedPorts where
  monitor :=
    { rst := false
      exVoid := false
      exFreeze := false
      isa := default
      spAddress := 0
      spData := 0
      spStrobe := 0
      exceptType := 0 }
  unit := { ExceptRegs.quiet with exVoid := t = 4, sr := if t ≤ 2 then 0x8000 else 0x8001 }

/-- The processor in the cycle in which the exception is taken. -/
def entered : Processor :=
  { idleProcessor with pc := 0x2000 }

theorem escalates_entering : Monitor.Escalates 1 orMerge (monitorRun 1 orMerge entering) 3 where
  smRises := ⟨by decide +kernel, by decide +kernel, 2, by decide +kernel, by decide +kernel⟩
  atVector := by decide +kernel
  handled := by decide +kernel
  fabric := by decide +kernel
  fabricViolated := by decide +kernel

theorem interrupts_entering : (regs 1 orMerge entering 5).unit.Interrupts
    ((regs 1 orMerge entering 5).unitPorts (entering 5)) entered where
  pc := by decide +kernel
  sr := by decide +kernel
  saved := by decide +kernel

instance (t : ℕ) : Decidable (Accepts 1 orMerge entering t) :=
  inferInstanceAs (Decidable (ExceptRegs.Accepts _ _))

theorem not_accepts_entering (r : ℕ) (htr : 3 < r) (hru : r < 5) :
    ¬ Accepts 1 orMerge entering r := by
  obtain rfl : r = 4 := by omega
  decide +kernel

theorem taken_of_violated_entering :
    (∀ r, 3 < r → r ≤ 5 → (regs 1 orMerge entering r).gated (entering r) = true) ∧
      (regs 1 orMerge entering 6).unit.fsm.exceptType = Or1200.ExceptType.illegal ∧
      (regs 1 orMerge entering 6).unit.fsm.saved.eear = (regs 1 orMerge entering 5).unit.pipe.exPc ∧
      (regs 1 orMerge entering 6).unit.fsm.saved.spEpcrGhost =
        (regs 1 orMerge entering 5).unit.fsm.saved.epcr ∧
      (regs 1 orMerge entering 6).gated (entering 6) = false := by
  have htype : ∀ r, 3 ≤ r → r ≤ 3 + 1 →
      (regs 1 orMerge entering r).unit.fsm.exceptType ≠ Or1200.ExceptType.illegal := by
    intro r htr hru
    rcases (by omega : r = 3 ∨ r = 4) with rfl | rfl <;> decide +kernel
  exact taken_of_violated (fun _ _ _ => rfl) (by decide +kernel) htype (by decide)
    not_accepts_entering (by decide +kernel)

theorem escalation_answered_entering :
    let pipe := (regs 1 orMerge entering 5).unit.pipe
    (∀ r, 3 < r → r ≤ 5 → (regs 1 orMerge entering r).gated (entering r) = true) ∧
      (regs 1 orMerge entering 6).unit.fsm.exceptType = Or1200.ExceptType.illegal ∧
      (regs 1 orMerge entering 6).unit.fsm.saved =
        Saved.ofSpr (entered.illegal pipe.exPc pipe.exDslot).spr pipe.exDslot ∧
      ∃ p', recover 0x08001000 0x08000100 smallStack (fun _ => 0)
          (regs 1 orMerge entering 6).monitor.glue 0
          (entered.illegal pipe.exPc pipe.exDslot) = some p' ∧
        SameProgram (withoutSm entered) p' ∧
        ∀ a, Free 0x08001000 smallStack a → p'.mem a = entered.mem a := by
  exact escalation_answered escalates_entering (fun _ _ _ => rfl) (by decide +kernel) (by decide)
    not_accepts_entering (by decide +kernel) interrupts_entering (by decide) 0x08001000 0x08000100
    smallStack (fun _ => 0) 0

end Guarded

end Fabric

end WirePatch
