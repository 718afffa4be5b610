import WirePatch.Fabric.BakedIn
import WirePatch.Fabric.Record
import WirePatch.Fabric.Report

/-!
# The checkers in the processor

The processor instantiates the baked-in checkers and the driver of the fabric, merges their
vectors, and resets both while it requests an exception for a violation (`or1200_cpu.v`, lines
349–386 and 980–1025).

## Main definitions

* `Fabric.Monitor`, `Fabric.Monitor.step`: all registers and their next values.

## Main results

* `Fabric.Monitor.bakedIn_regs`, `Fabric.Monitor.recorder_regs`: the checkers and the record of a
  violation are components of the monitor.
* `Fabric.Monitor.config_after_recovery`: a request for an exception clears the enable and the
  configuration of the fabric for good.
-/

namespace WirePatch.Fabric

open Clocked

/-- The checkers, the driver with its fabric, and the registers that request exceptions. -/
structure Monitor where
  bakedIn : BakedIn
  driver : Driver
  glue : Glue

/-- The signals of the processor the monitor reads. -/
structure MonitorPorts where
  rst : Bool
  exVoid : Bool
  exFreeze : Bool
  isa : IsaState
  spAddress : BitVec 32
  spData : BitVec 32
  spStrobe : BitVec 32
  exceptType : BitVec 4

namespace MonitorPorts

variable (x : MonitorPorts)

/-- `insn_clk`: an instruction of the low 128 MiB leaves the execute stage. -/
def insnClk : Bool := !x.exVoid && !x.exFreeze && x.isa.exPc.extractLsb' 27 5 == 0#5

/-- `sp_isa_state`, the routing input of the fabric. -/
def spIsaState : BitVec 544 :=
  let a := x.isa
  a.exPc ++ a.exInsn ++ a.sprDatPpc ++ a.sprDatNpc ++ a.eear ++ (0#15 ++ a.sr) ++ (0#15 ++ a.esr) ++
    a.epcr ++ (0#31 ++ BitVec.ofBool a.immuSxe) ++ (0#31 ++ BitVec.ofBool a.immuUxe) ++
    (0#31 ++ BitVec.ofBool a.immuEn) ++ (0#31 ++ BitVec.ofBool a.gprWrittenTo) ++
    (0#27 ++ a.gprWrittenAddr) ++ a.gprWrittenData ++ a.dcpuAdrO ++ a.dcpuDatI ++ a.operandB

end MonitorPorts

namespace Monitor

section Step

variable (n : ℕ) (merge : (Fin 6 → Bool) → Bool) (s : Monitor) (x : MonitorPorts)

/-- `sp_exceptionGated`. -/
def gated : Bool := s.glue.exceptionGated x.exceptType

/-- The control inputs of the checkers and the driver. -/
def control : Control := ⟨s.gated x || x.rst, x.insnClk⟩

/-- The inputs of the baked-in checkers. -/
def bakedInPorts : BakedInPorts := ⟨s.control x, x.isa⟩

/-- The inputs of the driver. -/
def driverPorts : DriverPorts where
  control := s.control x
  routingInput := x.spIsaState
  address := x.spAddress
  data := x.spData
  strobe := x.spStrobe.getLsbD 0

/-- `sp_assertions_violated`. -/
def violations : BitVec 32 :=
  s.bakedIn.checkersFired (s.bakedInPorts x) ||| s.driver.assertionsViolated

def step : Monitor where
  bakedIn := s.bakedIn.step (s.bakedInPorts x)
  driver := s.driver.step n merge (s.driverPorts x)
  glue := s.glue.step ⟨x.rst, s.violations x, x.exceptType, x.isa.sprDatPpc⟩

/-- The part of the monitor that records violations. -/
def recorder : Recorder := ⟨s.glue, s.driver.assertionsViolated⟩

/-- The inputs of that part. -/
def recorderPorts : RecorderPorts where
  rst := x.rst
  bakedIn := s.bakedIn.checkersFired (s.bakedInPorts x)
  fabricViolated := s.driver.assertionViolatedIn n merge (s.driverPorts x)
  fabricVector := s.driver.latched n (s.driverPorts x)
  exceptType := x.exceptType
  sprDatPpc := x.isa.sprDatPpc

end Step

def reset : Monitor := ⟨BakedIn.reset, Driver.reset, Glue.reset⟩

variable {n : ℕ} {merge : (Fin 6 → Bool) → Bool} {s : Monitor} {x : MonitorPorts}

theorem violations_recorder :
    s.recorder.violations (s.recorderPorts n merge x) = s.violations x := by
  rw [Recorder.violations, violations]
  split_ifs with h
  · rw [BakedIn.checkersFired_of_rst (x := s.bakedInPorts x) h]
    rfl
  · rfl

/-- The record follows its own step. -/
theorem recorder_step :
    (s.step n merge x).recorder = s.recorder.step (s.recorderPorts n merge x) := by
  have hglue : s.recorder.gluePorts (s.recorderPorts n merge x) =
      ⟨x.rst, s.violations x, x.exceptType, x.isa.sprDatPpc⟩ := by
    rw [Recorder.gluePorts, violations_recorder]
    rfl
  rw [Recorder.step, hglue]
  rfl

/-- A request for an exception, like a reset, clears the enable and the configuration. -/
theorem step_of_gated (h : s.gated x = true) : (s.step n merge x).driver.fabricEnable = false ∧
    (s.step n merge x).driver.config = fun _ => 0 := by
  refine Driver.step_of_rst ?_
  simp [driverPorts, control, h]

/-- Otherwise a cycle without a write keeps them. -/
theorem step_of_not_gated (h : s.gated x = false) (hrst : x.rst = false)
    (hstrobe : s.driver.strobed (s.driverPorts x) = false) :
    (s.step n merge x).driver.fabricEnable = s.driver.fabricEnable ∧
      (s.step n merge x).driver.config = s.driver.config := by
  refine Driver.step_of_not_strobed ?_ hstrobe
  simp [driverPorts, control, h, hrst]

section Run

variable (n : ℕ) (merge : (Fin 6 → Bool) → Bool) (x : ℕ → MonitorPorts)

/-- The registers in a cycle of a run that starts after a reset. -/
def regs (t : ℕ) : Monitor := run (step n merge) reset x t

/-- The record of violations goes through a run of its own. -/
theorem recorder_regs (t : ℕ) : (regs n merge x t).recorder =
    Recorder.regs (fun r => (regs n merge x r).recorderPorts n merge (x r)) t :=
  run_component recorder (fun s y => s.recorderPorts n merge y) (fun _ _ => recorder_step) t

/-- The baked-in checkers run on the processor state, in reset while an exception is
requested. -/
theorem bakedIn_regs (t : ℕ) : (regs n merge x t).bakedIn =
    BakedIn.regs (fun r => (regs n merge x r).bakedInPorts (x r)) t :=
  run_component bakedIn bakedInPorts (fun _ _ => rfl) t

/-- From `t₀` on there is no reset of the processor and no write of the configuration. -/
structure Unwritten (t₀ : ℕ) : Prop where
  rst : ∀ r, t₀ ≤ r → (x r).rst = false
  strobed : ∀ r, t₀ ≤ r → (regs n merge x r).driver.strobed ((regs n merge x r).driverPorts (x r)) =
    false

/-- From `t₀` on the enable and the configuration of the fabric do not change. -/
def ConfigSurvives (t₀ : ℕ) : Prop :=
  ∀ t, t₀ ≤ t → (regs n merge x t).driver.fabricEnable = (regs n merge x t₀).driver.fabricEnable ∧
    (regs n merge x t).driver.config = (regs n merge x t₀).driver.config

/-- An exception is requested in some cycle from `t₀` on, before `t`. -/
def RequestedBetween (t₀ t : ℕ) : Prop :=
  ∃ r, t₀ ≤ r ∧ r < t ∧ (regs n merge x r).gated (x r) = true

variable {n merge x}

/-- The enable and the configuration loaded by `t₀` last through the first cycle in which an
exception is requested for a violation. In every later cycle the fabric is disabled and its
configuration is zero. -/
theorem config_after_recovery {t₀ : ℕ} (h : Unwritten n merge x t₀) {t : ℕ} (ht : t₀ ≤ t) :
    (¬ RequestedBetween n merge x t₀ t →
      (regs n merge x t).driver.fabricEnable = (regs n merge x t₀).driver.fabricEnable ∧
      (regs n merge x t).driver.config = (regs n merge x t₀).driver.config) ∧
    (RequestedBetween n merge x t₀ t →
      (regs n merge x t).driver.fabricEnable = false ∧
      (regs n merge x t).driver.config = fun _ => 0) := by
  induction t, ht using Nat.le_induction with
  | base =>
    refine ⟨fun _ => ⟨rfl, rfl⟩, ?_⟩
    rintro ⟨r, hr, hrt, -⟩
    omega
  | succ t ht ih =>
    have hstep : regs n merge x (t + 1) = (regs n merge x t).step n merge (x t) := rfl
    cases hg : (regs n merge x t).gated (x t) with
    | true =>
      rw [hstep]
      refine ⟨fun hno => absurd ⟨t, ht, t.lt_succ_self, hg⟩ hno, fun _ => step_of_gated hg⟩
    | false =>
      have hkeep := @step_of_not_gated n merge _ _ hg (h.rst t ht) (h.strobed t ht)
      have hiff : RequestedBetween n merge x t₀ (t + 1) ↔ RequestedBetween n merge x t₀ t := by
        constructor
        · rintro ⟨r, hr, hrt, hgr⟩
          have hne : r ≠ t := by
            rintro rfl
            rw [hg] at hgr
            cases hgr
          exact ⟨r, hr, by omega, hgr⟩
        · rintro ⟨r, hr, hrt, hgr⟩
          exact ⟨r, hr, by omega, hgr⟩
      rw [hiff, hstep, hkeep.1, hkeep.2]
      exact ih

end Run

/-- The fabric is enabled in cycle 0, an instruction in cycle 1 violates checker 1, and its
exception is taken in cycle 3. -/
def armed (t : ℕ) : MonitorPorts where
  rst := false
  exVoid := decide (t ≠ 1)
  exFreeze := false
  isa := { (default : IsaState) with immuEn := decide (t = 1) }
  spAddress := 0
  spData := 1
  spStrobe := if t = 0 then 1 else 0
  exceptType := if t = 3 then 0x7 else 0

theorem unwritten_armed : Unwritten 1 orMerge armed 1 where
  rst := fun _ _ => rfl
  strobed := by
    intro r hr
    have hstrobe : (armed r).spStrobe = 0 := if_neg (by omega)
    simp [Driver.strobed, driverPorts, hstrobe]

theorem config_after_recovery_armed :
    (¬ RequestedBetween 1 orMerge armed 1 4 →
      (regs 1 orMerge armed 4).driver.fabricEnable =
        (regs 1 orMerge armed 1).driver.fabricEnable ∧
      (regs 1 orMerge armed 4).driver.config = (regs 1 orMerge armed 1).driver.config) ∧
    (RequestedBetween 1 orMerge armed 1 4 →
      (regs 1 orMerge armed 4).driver.fabricEnable = false ∧
      (regs 1 orMerge armed 4).driver.config = fun _ => 0) :=
  config_after_recovery unwritten_armed (by decide)

/-- The violation disarms the fabric, and it is still disarmed after its exception was taken. -/
theorem not_configSurvives_armed : Unwritten 1 orMerge armed 1 ∧
    (regs 1 orMerge armed 1).driver.fabricEnable = true ∧
    (regs 1 orMerge armed 2).gated (armed 2) = true ∧
    exceptionHandled (armed 3).exceptType = true ∧
    (regs 1 orMerge armed 4).driver.fabricEnable = false ∧
    ¬ ConfigSurvives 1 orMerge armed 1 := by
  have harmed : (regs 1 orMerge armed 1).driver.fabricEnable = true := by decide +kernel
  have hdisarmed : (regs 1 orMerge armed 4).driver.fabricEnable = false := by decide +kernel
  refine ⟨unwritten_armed, harmed, by decide +kernel, by decide, hdisarmed, fun h => ?_⟩
  have hsame := (h 4 (by decide)).1
  rw [harmed, hdisarmed] at hsame
  cases hsame

end Monitor

end WirePatch.Fabric
