import WirePatch.Fabric.Driver
import WirePatch.Fabric.Meaning

/-!
# What the driver reports to the processor

The processor sees the violations of the fabric only through the latched vector of the driver
(`or1200_cpu.v`, lines 988–999). The latch masks the vector with the enable, and the enable has
one bit (`StitchFabric.java`, line 389).

## Main definitions

* `Fabric.Driver.ReportsAll`: the latched vector names the violated assertions.

## Main results

* `Fabric.Driver.reportsAll_iff`: it does so exactly when no assertion but the last is violated.
-/

namespace WirePatch.Fabric.Driver

open Clocked

section Report

variable (n : ℕ) (merge : (Fin 6 → Bool) → Bool) (x : ℕ → DriverPorts) (t : ℕ)

/-- The registers in a cycle of a run that starts after a reset. -/
def regs : Driver := run (step n merge) reset x t

/-- The inputs of the fabric in a cycle of the run. -/
def fabricInputs : FabricPorts := (regs n merge x t).fabricPorts (x t)

/-- The assertion blocks of the driver run on the inputs of the fabric. -/
theorem blocks_regs : (regs n merge x t).blocks = fabricRegs (fabricInputs n merge x) t :=
  funext fun i => run_component (fun s : Driver => s.blocks i)
    (fun s y => assertionPorts (s.fabricPorts y) i) (fun _ _ => rfl) t

/-- The fabric in the driver is a run of the generated netlist. -/
theorem isRun_driver (hn : 1 ≤ n) : IsRun (stitch n).lines merge (fabricInputs n merge x)
    (fun t => (regs n merge x t).blocks)
    (fun t => values n merge (fabricInputs n merge x t) (regs n merge x t).blocks) := by
  simp only [blocks_regs]
  exact isRun_values merge hn (fabricInputs n merge x)

/-- The result of assertion `i` in a cycle of the run. -/
def result (i : ℕ) : Bool :=
  assertionResult ((regs n merge x t).fabricPorts (x t)) (regs n merge x t).blocks i

/-- The wire `assertionViolated_in` in a cycle of the run. -/
def violated : Bool := (regs n merge x t).assertionViolatedIn n merge (x t)

/-- In the cycle after `t` the latched vector has the bit of every assertion whose result was 1
in `t` and no other bit, and it is not zero. -/
def ReportsAll : Prop :=
  (∀ j, (regs n merge x (t + 1)).assertionsViolated.getLsbD j = true ↔
    ∃ i < n, j = n - 1 - i ∧ result n merge x t i = true) ∧
  (regs n merge x (t + 1)).assertionsViolated ≠ 0

end Report

variable {n : ℕ} {merge : (Fin 6 → Bool) → Bool} {x : ℕ → DriverPorts} {t : ℕ}

/-- A violation comes from some assertion. -/
theorem exists_result_of_violated (hn : 1 ≤ n)
    (hmerge : ∀ inputs, merge inputs = true ↔ ∃ j, inputs j = true)
    (h : violated n merge x t = true) : ∃ i < n, result n merge x t i = true := by
  rw [violated, assertionViolatedIn, assertionViolated, Bool.and_eq_true,
    ReductionTree.reduce_iff (P := (· = true)) (by decide) hmerge Bool.false_ne_true hn] at h
  exact h.1

/-- When the fabric reports a violation while it is enabled and out of reset, the next latched
vector names the violated assertions exactly if only the last assertion is violated. -/
theorem reportsAll_iff (hn : 1 ≤ n) (hn' : n ≤ 32)
    (hmerge : ∀ inputs, merge inputs = true ↔ ∃ j, inputs j = true)
    (hrst : (x t).control.rst = false) (hen : (regs n merge x t).fabricEnable = true)
    (hviolated : violated n merge x t = true) :
    ReportsAll n merge x t ↔ ∀ i, i + 1 < n → result n merge x t i = false := by
  have hlatched : (regs n merge x (t + 1)).assertionsViolated =
      (regs n merge x t).latched n (x t) :=
    assertionsViolated_step_of_violated hrst hviolated
  have hbit : ∀ j, ((regs n merge x t).latched n (x t)).getLsbD j = true ↔
      j = 0 ∧ result n merge x t (n - 1) = true := by
    intro j
    rw [getLsbD_latched hn' hen, Bool.and_eq_true, decide_eq_true_eq]
    exact and_congr_left fun _ => and_iff_left hn
  rw [ReportsAll, hlatched]
  constructor
  · rintro ⟨hbits, -⟩ i hi
    rw [← Bool.not_eq_true]
    intro hresult
    have hlost := (hbits (n - 1 - i)).mpr ⟨i, by omega, rfl, hresult⟩
    have hzero := ((hbit _).mp hlost).1
    omega
  · intro honly
    have hlast : ∀ i < n, result n merge x t i = true → i = n - 1 := by
      intro i hi hresult
      by_contra hne
      rw [honly i (by omega)] at hresult
      exact Bool.false_ne_true hresult
    constructor
    · intro j
      rw [hbit]
      constructor
      · rintro ⟨rfl, hresult⟩
        exact ⟨n - 1, by omega, by omega, hresult⟩
      · rintro ⟨i, hi, rfl, hresult⟩
        obtain rfl := hlast i hi hresult
        exact ⟨by omega, hresult⟩
    · obtain ⟨i, hi, hresult⟩ := exists_result_of_violated hn hmerge hviolated
      obtain rfl := hlast i hi hresult
      intro hzero
      have hset := (hbit 0).mpr ⟨rfl, hresult⟩
      rw [hzero] at hset
      exact absurd hset (by decide)

/-- A trace that enables a fabric of two assertions, makes both test their second comparator,
and makes the comparator at `resultMux` fail. The first enabled cycle is 8. -/
def loadTwo (resultMux : BitVec 32) (t : ℕ) : DriverPorts where
  control := ⟨false, decide (8 ≤ t)⟩
  routingInput := 0
  address := if t = 0 then 0 else if t = 2 then resultMux else if t = 4 then 30 else 33
  data := if t < 4 then 1 else 2
  strobe := decide (t < 8 ∧ t % 2 = 0)

/-- With the comparator of the last assertion failing, the report is complete. -/
theorem reportsAll_iff_loadTwo : ReportsAll 2 orMerge (loadTwo 28) 8 ↔
    ∀ i, i + 1 < 2 → result 2 orMerge (loadTwo 28) 8 i = false :=
  reportsAll_iff (by decide) (by decide) orMerge_eq_true_iff rfl (by decide +kernel)
    (by decide +kernel)

/-- With the comparator of the first assertion failing, the latched vector is empty. -/
theorem not_reportsAll_loadTwo : (regs 2 orMerge (loadTwo 18) 8).fabricEnable = true ∧
    violated 2 orMerge (loadTwo 18) 8 = true ∧
    (regs 2 orMerge (loadTwo 18) 9).assertionsViolated = 0 ∧
    ¬ ReportsAll 2 orMerge (loadTwo 18) 8 := by
  have hempty : (regs 2 orMerge (loadTwo 18) 9).assertionsViolated = 0 := by decide +kernel
  exact ⟨by decide +kernel, by decide +kernel, hempty, fun h => h.2 hempty⟩

end WirePatch.Fabric.Driver
