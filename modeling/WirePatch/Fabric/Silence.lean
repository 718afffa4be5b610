import WirePatch.Fabric.Report

/-!
# The outputs of a disabled fabric

The driver masks the vector of violated assertions with its enable when it latches it, but passes
the merged violation on as it is (`StitchFabric.java`, lines 382–390). While a configuration is
loaded, the fabric runs under every word of it that is there already.

## Main definitions

* `Fabric.Violates`: an assertion of a fabric is violated under the configuration of each cycle.
* `Fabric.Driver.Silent`: both outputs of the driver are 0 in every cycle.

## Main results

* `Fabric.assertionViolated_iff_violates`: what a fabric reports while its configuration changes.
* `Fabric.Driver.silent_iff`: a driver that is never enabled is silent exactly if no valid
  configuration it passes through is violated.
-/

namespace WirePatch.Fabric

open Clocked

/-! ### A fabric whose configuration changes -/

section Changing

variable (x : ℕ → FabricPorts)

/-- What assertion `i` sees in cycle `t`, under the configuration of that cycle. -/
def watching (i t : ℕ) : OvlCombo.Ports :=
  watched (x t).config (fun r => (x r).control) (fun r => (x r).routingInput) i t

/-- Assertion `i` raises an alarm in cycle `t`, or raised one in the latest enabled cycle before,
as its result select says. -/
def Violates (i t : ℕ) : Prop :=
  if (x t).config.resSel i = 1 then
    ∃ p, LastActive (fun r => (x r).control) p t ∧ OvlCombo.Alarm (watching x i) p
  else OvlCombo.Alarm (watching x i) t

variable {x} {n i t : ℕ}

theorem alarm_assertionPorts : OvlCombo.Alarm (fun r => assertionPorts (x r) i) t ↔
    OvlCombo.Alarm (watching x i) t := by
  simp only [OvlCombo.Alarm, OvlCombo.Started, assertionPorts, watching, watched,
    compared_out_eq_comparator, Nat.mul_comm i 2]

theorem assertionResult_iff_violates :
    assertionResult (x t) (fabricRegs x t) i = true ↔ Violates x i t := by
  have hsel := getLsbD_resSel_iff (x t).config i
  rw [assertionResult, fabricRegs, Violates]
  by_cases hs : (x t).config.resSel i = 1
  · rw [if_pos (hsel.mpr hs), if_pos hs, OvlCombo.outDelayed_run_eq_true_iff]
    simp only [OvlCombo.outRun_eq_true_iff, alarm_assertionPorts]
    rfl
  · rw [if_neg (mt hsel.mp hs), if_neg hs, ← alarm_assertionPorts]
    exact OvlCombo.outRun_eq_true_iff _ t

/-- A fabric reports in the cycles in which its configuration is valid and one of its assertions
is violated, however the configuration changed before. -/
theorem assertionViolated_iff_violates (hn : 1 ≤ n) {merge : (Fin 6 → Bool) → Bool}
    (hmerge : ∀ inputs, merge inputs = true ↔ ∃ j, inputs j = true) :
    assertionViolated (x t) (fabricRegs x t) n merge = true ↔
      ConfigValid n (x t).config ∧ ∃ i < n, Violates x i t := by
  rw [assertionViolated, Bool.and_eq_true, Bool.not_eq_true',
    ReductionTree.reduce_iff (P := (· = true)) (by decide) hmerge Bool.false_ne_true hn,
    anyConfigInvalid_eq_false_iff, and_comm]
  simp only [assertionResult_iff_violates]

end Changing

/-! ### The driver -/

namespace Driver

section Silence

variable (n : ℕ) (merge : (Fin 6 → Bool) → Bool) (x : ℕ → DriverPorts)

/-- No write sets the enable of the fabric. -/
def NeverEnabled : Prop :=
  ∀ t, (x t).control.rst = false → (regs n merge x t).strobed (x t) = true →
    (x t).address = 0 → (x t).data.getLsbD 0 = false

/-- Both outputs are 0 in every cycle. -/
def Silent : Prop :=
  ∀ t, violated n merge x t = false ∧ (regs n merge x t).assertionsViolated = 0

variable {n merge x}

theorem fabricEnable_of_neverEnabled (h : NeverEnabled n merge x) (t : ℕ) :
    (regs n merge x t).fabricEnable = false := by
  induction t with
  | zero => rfl
  | succ t ih =>
    have hstep : regs n merge x (t + 1) = (regs n merge x t).step n merge (x t) := rfl
    rw [hstep, step]
    cases hrst : (x t).control.rst with
    | true => rfl
    | false =>
      cases hwrite : (regs n merge x t).strobed (x t) && (x t).address == 0 with
      | false => exact ih
      | true =>
        rw [Bool.and_eq_true, beq_iff_eq] at hwrite
        exact h t hrst hwrite.1 hwrite.2

/-- The latched vector is masked with the enable. -/
theorem assertionsViolated_of_neverEnabled (h : NeverEnabled n merge x) (t : ℕ) :
    (regs n merge x t).assertionsViolated = 0 := by
  induction t with
  | zero => rfl
  | succ t ih =>
    have hmask : (regs n merge x t).latched n (x t) = 0 := by
      rw [latched, fabricEnable_of_neverEnabled h]
      exact BitVec.and_zero
    have hstep : regs n merge x (t + 1) = (regs n merge x t).step n merge (x t) := rfl
    simp [hstep, step, hmask, ih]

/-- The merged violation is not masked. -/
theorem violated_eq_true_iff (hn : 1 ≤ n)
    (hmerge : ∀ inputs, merge inputs = true ↔ ∃ j, inputs j = true) (t : ℕ) :
    violated n merge x t = true ↔ ConfigValid n (regs n merge x t).config ∧
      ∃ i < n, Violates (fabricInputs n merge x) i t := by
  rw [violated, assertionViolatedIn, blocks_regs]
  exact assertionViolated_iff_violates (x := fabricInputs n merge x) hn hmerge

/-- While it is not enabled, the driver is silent exactly if no assertion is violated in a cycle
in which the registers hold a valid configuration. -/
theorem silent_iff (hn : 1 ≤ n) (hmerge : ∀ inputs, merge inputs = true ↔ ∃ j, inputs j = true)
    (h : NeverEnabled n merge x) : Silent n merge x ↔
      ∀ t, ConfigValid n (regs n merge x t).config →
        ∀ i < n, ¬ Violates (fabricInputs n merge x) i t := by
  refine forall_congr' fun t => ?_
  rw [and_iff_left (assertionsViolated_of_neverEnabled h t), ← Bool.not_eq_true,
    violated_eq_true_iff hn hmerge]
  simp only [not_and, not_exists]

/-- Two writes make the assertion of a fabric test in every enabled cycle whether 0 differs from
0, and leave the enable alone. -/
def loadUnarmed (t : ℕ) : DriverPorts where
  control := ⟨false, true⟩
  routingInput := 0
  address := if t = 0 then 14 else 16
  data := if t = 0 then 1 else 2
  strobe := decide (t = 0 ∨ t = 2)

theorem neverEnabled_loadUnarmed : NeverEnabled 1 orMerge loadUnarmed := by
  intro t _ _ haddress
  have hselected : (if t = 0 then 14#32 else 16#32) = 0 := haddress
  split_ifs at hselected
  · exact absurd hselected (by decide)
  · exact absurd hselected (by decide)

theorem silent_iff_loadUnarmed : Silent 1 orMerge loadUnarmed ↔
    ∀ t, ConfigValid 1 (regs 1 orMerge loadUnarmed t).config →
      ∀ i < 1, ¬ Violates (fabricInputs 1 orMerge loadUnarmed) i t :=
  silent_iff (by decide) orMerge_eq_true_iff neverEnabled_loadUnarmed

/-- The violation is passed on though the fabric was never enabled. -/
theorem not_silent_loadUnarmed : NeverEnabled 1 orMerge loadUnarmed ∧
    (regs 1 orMerge loadUnarmed 3).fabricEnable = false ∧
    violated 1 orMerge loadUnarmed 3 = true ∧ ¬ Silent 1 orMerge loadUnarmed := by
  have hviolated : violated 1 orMerge loadUnarmed 3 = true := by decide +kernel
  refine ⟨neverEnabled_loadUnarmed, by decide +kernel, hviolated, fun h => ?_⟩
  rw [(h 3).1] at hviolated
  cases hviolated

end Silence

end Driver

end WirePatch.Fabric
