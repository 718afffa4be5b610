import WirePatch.Fabric.Monitor
import WirePatch.Hardware.SprAccess

/-!
# User code and the configuration of the fabric

The driver takes its address, its data and its strobe from special-purpose registers
(`or1200_cpu.v`, lines 737–808 and 988–999). These are performance counters, which the processor
lets user code write (`or1200_sprs.v`, lines 253–257).

## Main definitions

* `Fabric.Core`, `Fabric.Core.step`: the registers of the fabric and the monitor they drive.
* `Fabric.UserRun`: the inputs of a run in user mode.
* `Fabric.CorePorts.writesPccr`: an instruction that writes a performance counter.

## Main results

* `Fabric.Core.user_access`: what user code can do to the configuration.
-/

namespace WirePatch.Fabric

open Clocked Or1200

/-- The registers of the fabric and the monitor. -/
structure Core where
  sp : SpRegs
  monitor : Monitor

/-- The signals of the processor they read. -/
structure CorePorts where
  rst : Bool
  exVoid : Bool
  exFreeze : Bool
  isa : IsaState
  exceptType : BitVec 4
  operandA : BitVec 32
  exSimm : BitVec 32
  exSprRead : Bool
  exSprWrite : Bool
  duAddr : BitVec 32
  duDatDu : BitVec 32
  duRead : Bool
  duWrite : Bool

namespace CorePorts

variable (x : CorePorts)

/-- The ports of `or1200_sprs`. -/
def sprPorts : SprPorts where
  rst := x.rst
  sr := x.isa.sr
  addrbase := x.operandA
  addrofs := x.exSimm.extractLsb' 0 16
  datI := x.isa.operandB
  exSprRead := x.exSprRead
  exSprWrite := x.exSprWrite
  duAddr := x.duAddr
  duDatDu := x.duDatDu
  duRead := x.duRead
  duWrite := x.duWrite

/-- The address an instruction forms from its register operand and its immediate. -/
def sprAddress : BitVec 32 := x.operandA ||| (x.exSimm.extractLsb' 0 16).setWidth 32

/-- `l.mtspr` to the performance counter `k`, of group 7. -/
def writesPccr (k : BitVec 5) : Bool :=
  x.exSprWrite && x.sprAddress.extractLsb' 11 5 == 7 &&
    x.sprAddress.extractLsb' 0 11 == k.setWidth 11

end CorePorts

namespace Core

variable (n : ℕ) (merge : (Fin 6 → Bool) → Bool) (s : Core) (x : CorePorts)

def monitorPorts : MonitorPorts where
  rst := x.rst
  exVoid := x.exVoid
  exFreeze := x.exFreeze
  isa := x.isa
  spAddress := s.sp.spReg1
  spData := s.sp.spReg2
  spStrobe := s.sp.spReg3
  exceptType := x.exceptType

def step : Core where
  sp := s.sp.step x.sprPorts
  monitor := s.monitor.step n merge (s.monitorPorts x)

def reset : Core := ⟨SpRegs.reset, Monitor.reset⟩

end Core

/-- A cycle in user mode with an idle debug unit. A reset would set the mode. -/
structure CorePorts.InUserMode (x : CorePorts) : Prop where
  rst : x.rst = false
  srSm : x.isa.srSm = false
  duRead : x.duRead = false
  duWrite : x.duWrite = false

namespace Core

variable {n : ℕ} {merge : (Fin 6 → Bool) → Bool} {s : Core} {x : CorePorts}

/-- In such a cycle a register of the fabric is written by `l.mtspr` to its counter only. -/
theorem spRegWe_of_inUserMode (h : x.InUserMode) (k : BitVec 5) :
    x.sprPorts.spRegWe k = x.writesPccr k := by
  have haddr : x.sprPorts.sprAddr = x.sprAddress := by
    simp [SprPorts.sprAddr, SprPorts.duAccess, CorePorts.sprPorts, h.duRead, h.duWrite,
      CorePorts.sprAddress]
  rw [SprPorts.spRegWe_of_idle h.duRead h.duWrite, SprPorts.group, SprPorts.offset, haddr]
  rfl

theorem sprDatO_of_inUserMode (h : x.InUserMode) : x.sprPorts.sprDatO = x.isa.operandB := by
  simp [SprPorts.sprDatO, CorePorts.sprPorts, h.duWrite]

/-- The strobe of the fabric is not about to rise. -/
def Quiet (s : Core) : Prop :=
  s.sp.spReg3.getLsbD 0 = true → s.monitor.driver.strobePrev = true

/-- A request for an exception, which resets the driver. -/
def gated (s : Core) (x : CorePorts) : Bool := s.monitor.gated (s.monitorPorts x)

/-- Without a write to the strobe and a request, a cycle keeps the enable and the configuration,
and the strobe does not rise. -/
theorem step_of_quiet (h : x.InUserMode) (hstrobe : x.writesPccr 3 = false)
    (hgated : s.gated x = false) (hquiet : s.Quiet) :
    (s.step n merge x).Quiet ∧
      (s.step n merge x).monitor.driver.fabricEnable = s.monitor.driver.fabricEnable ∧
      (s.step n merge x).monitor.driver.config = s.monitor.driver.config := by
  have hreg : (s.step n merge x).sp.spReg3 = s.sp.spReg3 := by
    refine Control.latch_of_isIdle ⟨h.rst, ?_⟩
    exact (spRegWe_of_inUserMode h 3).trans hstrobe
  have hcontrol : (s.monitor.control (s.monitorPorts x)).rst = false := by
    rw [Monitor.control, show s.monitor.gated (s.monitorPorts x) = false from hgated]
    exact h.rst
  have hprev : (s.step n merge x).monitor.driver.strobePrev = s.sp.spReg3.getLsbD 0 := by
    change (if (s.monitor.control (s.monitorPorts x)).rst then false else _) = _
    rw [hcontrol]
    rfl
  have hrises : s.monitor.driver.strobed (s.monitor.driverPorts (s.monitorPorts x)) = false := by
    rw [Driver.strobed, Bool.and_eq_false_iff, Bool.not_eq_false']
    cases hbit : s.sp.spReg3.getLsbD 0 with
    | true => exact Or.inl (hquiet hbit)
    | false => exact Or.inr hbit
  refine ⟨fun hbit => ?_, Monitor.step_of_not_gated hgated h.rst hrises⟩
  rw [hreg] at hbit
  rw [hprev, hbit]

section Run

variable {x : ℕ → CorePorts}

/-- The instructions that write to the counter `k`, as the control of a register. -/
def pccrWrites (x : ℕ → CorePorts) (k : BitVec 5) (t : ℕ) : Control := ⟨false, (x t).writesPccr k⟩

/-- A register of the fabric holds the operand of the last write to its counter. -/
theorem holdsLast_of_inUserMode (h : ∀ t, (x t).InUserMode) {k : BitVec 5} {z : BitVec 32}
    {q : ℕ → BitVec 32} (hq : ∀ t, q (t + 1) =
      (Control.mk (x t).rst ((x t).sprPorts.spRegWe k)).latch z (x t).sprPorts.sprDatO (q t))
    (t : ℕ) : HoldsLast (pccrWrites x k) (fun r => (x r).isa.operandB) (q 0) (q t) t := by
  refine holdsLast_latch (fun t => ?_) rfl t
  rw [hq, spRegWe_of_inUserMode (h t), sprDatO_of_inUserMode (h t), (h t).rst]
  rfl

/-- The registers of the fabric, its enable and its configuration keep their values. -/
def Untouched (s : ℕ → Core) : Prop :=
  ∀ t, (s t).sp = (s 0).sp ∧
    (s t).monitor.driver.fabricEnable = (s 0).monitor.driver.fabricEnable ∧
    (s t).monitor.driver.config = (s 0).monitor.driver.config

/-- In user mode each register of the fabric holds the operand of the last `l.mtspr` to its
counter, whatever else is executed. The enable and the configuration stay as long as nothing is
written to the strobe and no exception is requested, if the strobe was not about to rise. -/
theorem user_access (h : ∀ t, (x t).InUserMode) (s₀ : Core) (t : ℕ) :
    let s := run (step n merge) s₀ x
    HoldsLast (pccrWrites x 1) (fun r => (x r).isa.operandB) s₀.sp.spReg1 (s t).sp.spReg1 t ∧
    HoldsLast (pccrWrites x 2) (fun r => (x r).isa.operandB) s₀.sp.spReg2 (s t).sp.spReg2 t ∧
    HoldsLast (pccrWrites x 3) (fun r => (x r).isa.operandB) s₀.sp.spReg3 (s t).sp.spReg3 t ∧
    (s₀.Quiet → (∀ r < t, (x r).writesPccr 3 = false) → (∀ r < t, (s r).gated (x r) = false) →
      (s t).monitor.driver.fabricEnable = s₀.monitor.driver.fabricEnable ∧
      (s t).monitor.driver.config = s₀.monitor.driver.config) := by
  intro s
  refine ⟨holdsLast_of_inUserMode (q := fun r => (s r).sp.spReg1) h (fun _ => rfl) t,
    holdsLast_of_inUserMode (q := fun r => (s r).sp.spReg2) h (fun _ => rfl) t,
    holdsLast_of_inUserMode (q := fun r => (s r).sp.spReg3) h (fun _ => rfl) t,
    fun hquiet hstrobe hgated => ?_⟩
  suffices hkeep : (s t).Quiet ∧
      (s t).monitor.driver.fabricEnable = s₀.monitor.driver.fabricEnable ∧
      (s t).monitor.driver.config = s₀.monitor.driver.config from hkeep.2
  induction t with
  | zero => exact ⟨hquiet, rfl, rfl⟩
  | succ t ih =>
    obtain ⟨hq, henable, hconfig⟩ := ih (fun r hr => hstrobe r (Nat.lt_succ_of_lt hr))
      fun r hr => hgated r (Nat.lt_succ_of_lt hr)
    have hstep := @step_of_quiet n merge _ _ (h t) (hstrobe t t.lt_succ_self)
      (hgated t t.lt_succ_self) hq
    rw [henable, hconfig] at hstep
    exact hstep

/-- `l.mtspr` of a word to an address, in some mode. -/
def mtspr (sr : BitVec 17) (address operand : BitVec 32) : CorePorts where
  rst := false
  exVoid := false
  exFreeze := false
  isa := { (default : IsaState) with sr := sr, operandB := operand }
  exceptType := 0
  operandA := 0
  exSimm := address
  exSprRead := false
  exSprWrite := true
  duAddr := 0
  duDatDu := 0
  duRead := false
  duWrite := false

/-- Supervisor code that enables the fabric. -/
def arming (t : ℕ) : CorePorts :=
  mtspr 1 (if t = 0 then 0x3801 else if t = 1 then 0x3802 else 0x3803)
    (if t = 1 ∨ t = 2 then 1 else 0)

/-- User code that writes 0 to the enable. -/
def disarming (t : ℕ) : CorePorts :=
  mtspr 0 (if t = 0 then 0x3802 else 0x3803) (if t = 0 then 0 else 1)

/-- The state in which the supervisor leaves the fabric. -/
def armed : Core := run (step 1 orMerge) reset arming 5

theorem inUserMode_disarming (t : ℕ) : (disarming t).InUserMode where
  rst := rfl
  srSm := (by decide : (0 : BitVec 17).getLsbD 0 = false)
  duRead := rfl
  duWrite := rfl

theorem user_access_disarming :
    let s := run (step 1 orMerge) armed disarming
    HoldsLast (pccrWrites disarming 1) (fun r => (disarming r).isa.operandB) armed.sp.spReg1
      (s 4).sp.spReg1 4 ∧
    HoldsLast (pccrWrites disarming 2) (fun r => (disarming r).isa.operandB) armed.sp.spReg2
      (s 4).sp.spReg2 4 ∧
    HoldsLast (pccrWrites disarming 3) (fun r => (disarming r).isa.operandB) armed.sp.spReg3
      (s 4).sp.spReg3 4 ∧
    (armed.Quiet → (∀ r < 4, (disarming r).writesPccr 3 = false) →
      (∀ r < 4, (s r).gated (disarming r) = false) →
      (s 4).monitor.driver.fabricEnable = armed.monitor.driver.fabricEnable ∧
      (s 4).monitor.driver.config = armed.monitor.driver.config) :=
  user_access inUserMode_disarming armed 4

/-- User code switches the fabric off. -/
theorem not_untouched_disarming : (∀ t, (disarming t).InUserMode) ∧
    armed.monitor.driver.fabricEnable = true ∧
    (run (step 1 orMerge) armed disarming 3).monitor.driver.fabricEnable = false ∧
    ¬ Untouched (run (step 1 orMerge) armed disarming) := by
  have harmed : armed.monitor.driver.fabricEnable = true := by decide +kernel
  have hoff : (run (step 1 orMerge) armed disarming 3).monitor.driver.fabricEnable = false := by
    decide +kernel
  refine ⟨inUserMode_disarming, harmed, hoff, fun h => ?_⟩
  have hsame := (h 3).2.1
  rw [hoff, run_zero, harmed] at hsame
  cases hsame

end Run

end Core

end WirePatch.Fabric
