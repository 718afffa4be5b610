import WirePatch.Foundations.Clocked
import Mathlib.Tactic.Tauto

/-!
# Configurable blocks of the fabric

The three kinds of block a generated fabric is stitched from: the routing block, which selects
one of 17 words of processor state (`routingBlock.v`); the logic block, which compares two
operands (`logicBlock.v`); and the configurable assertion (`ovl_combo_wrapped.v` over
`ovl_combo_logic.v`).

## Main definitions

* `Fabric.routingBlock`, `Fabric.logicBlock`: the blocks without state.
* `Fabric.OvlCombo`: the configurable assertion.
* `Fabric.OvlCombo.Alarm`: it fires, by what it saw in the enabled cycles.

## Main results

* `Fabric.routingBlock_out`: the selected word.
* `Fabric.OvlCombo.configInvalid_eq_false_iff`: the valid configurations of an assertion.
* `Fabric.OvlCombo.outRun_eq_true_iff`: the output of an assertion whatever its inputs do.
* `Fabric.OvlCombo.outDelayed_run_eq_true_iff`: the delayed output is the output of the latest
  enabled cycle.
-/

namespace WirePatch.Fabric

open Clocked

/-! ### Routing and logic -/

/-- The outputs of a block: its result and whether its configuration is invalid. -/
structure BlockOut (α : Type*) where
  out : α
  configInvalid : Bool

/-- Word `k` of the routing input. -/
def slice (inputState : BitVec 544) (k : ℕ) : BitVec 32 := inputState.extractLsb' (32 * k) 32

/-- `routingBlock.v`, with its parameters at their defaults. -/
def routingBlock (inputState : BitVec 544) (inputSelect : BitVec 5) : BlockOut (BitVec 32) where
  out := if inputSelect.toNat < 17 then slice inputState inputSelect.toNat else 0
  configInvalid := decide (17 ≤ inputSelect.toNat)

/-- A routing block with an invalid selection shows what is beyond the words: zeros. -/
theorem routingBlock_out (inputState : BitVec 544) (inputSelect : BitVec 5) :
    (routingBlock inputState inputSelect).out = slice inputState inputSelect.toNat := by
  rw [routingBlock]
  split_ifs with h
  · rfl
  · refine BitVec.eq_of_getLsbD_eq fun j hj => ?_
    have hbeyond : 544 ≤ 32 * inputSelect.toNat + j := by omega
    rw [slice, BitVec.getLsbD_extractLsb', BitVec.getLsbD_of_ge _ _ hbeyond]
    simp

/-- The comparison `resultMux` selects: `==`, `!=`, `>`, `>=`, `<`, `<=`, all unsigned. -/
def comparison (resultMux : BitVec 3) (operandA operandB : BitVec 32) : Bool :=
  match resultMux with
  | 0 => operandA == operandB
  | 1 => operandA != operandB
  | 2 => decide (operandA > operandB)
  | 3 => decide (operandA ≥ operandB)
  | 4 => decide (operandA < operandB)
  | 5 => decide (operandA ≤ operandB)
  | _ => false

/-- The configuration ports of `logicBlock`. -/
structure LogicConfig where
  maskA : BitVec 32
  maskB : BitVec 32
  constant : BitVec 32
  opBMux : BitVec 1
  resultMux : BitVec 3

/-- `logicBlock.v`. -/
def logicBlock (c : LogicConfig) (stateA stateB : BitVec 32) (prevConfigInvalid : Bool) :
    BlockOut Bool :=
  let maskedA := stateA &&& c.maskA
  let operandA := maskedA
  let maskedB := stateB &&& c.maskB
  let operandB := if c.opBMux = 1 then maskedB else c.constant
  { out := comparison c.resultMux operandA operandB
    configInvalid := prevConfigInvalid || decide (5 < c.resultMux.toNat) }

/-! ### The configurable assertion -/

/-- The registers of `ovl_combo_wrapped`, for `num_cks_max` 7. Bit `j - 1` of `monitor` is
`monitor[j]`, as the source counts from 1. -/
@[ext]
structure OvlCombo where
  monitor : BitVec 7
  outDelayed : Bool
  deriving DecidableEq, Repr

namespace OvlCombo

/-- The inputs of `ovl_combo_wrapped`. -/
structure Ports where
  control : Control
  numCks : BitVec 3
  startEvent : Bool
  testExpr : Bool
  select : BitVec 2
  prevConfigInvalid : Bool

def reset : OvlCombo := ⟨0, false⟩

/-- `monitor[j]`, which is out of range for `j = 0`. -/
def monitorBit (s : OvlCombo) (j : ℕ) : Bool := decide (0 < j) && s.monitor.getLsbD (j - 1)

def fireProp (x : Ports) : Bool := !x.testExpr

def fireEdge (s : OvlCombo) (x : Ports) : Bool :=
  s.monitorBit 1 && !s.monitorBit 2 && fireProp x

def fireNext (s : OvlCombo) (x : Ports) : Bool := s.monitorBit x.numCks.toNat && fireProp x

def fireSelected (s : OvlCombo) (x : Ports) : Bool :=
  if x.select = 2 then fireProp x
  else if x.select = 3 then fireProp x
  else if x.select = 0 then s.fireEdge x
  else s.fireNext x

/-- The output `out`. -/
def out (s : OvlCombo) (x : Ports) : Bool :=
  (!x.control.rst && x.control.enable) && s.fireSelected x

/-- The output `configInvalid`. -/
def configInvalid (x : Ports) : Bool :=
  x.prevConfigInvalid || (decide (x.numCks = 0) && !x.select.getLsbD 1)

def step (s : OvlCombo) (x : Ports) : OvlCombo where
  monitor := x.control.latch 0 (s.monitor.extractLsb' 0 6 ++ BitVec.ofBool x.startEvent)
    s.monitor
  outDelayed := x.control.latch false (s.out x) s.outDelayed

/-- The configuration of the block itself is valid unless it looks back by 0 cycles. -/
theorem configInvalid_eq_false_iff (x : Ports) : configInvalid x = false ↔
    x.prevConfigInvalid = false ∧ (x.select = 0 ∨ x.select = 1 → x.numCks ≠ 0) := by
  have hselect : x.select.getLsbD 1 = false ↔ x.select = 0 ∨ x.select = 1 := by
    generalize x.select = a
    revert a
    decide
  rw [← hselect, configInvalid, Bool.or_eq_false_iff, Bool.and_eq_false_iff, Bool.not_eq_false',
    decide_eq_false_iff_not]
  cases x.select.getLsbD 1 <;> simp

/-- The output in a cycle of a run that starts after a reset. -/
def outRun (x : ℕ → Ports) (t : ℕ) : Bool := (run step reset x t).out (x t)

/-- The delayed output shows the output of the latest enabled cycle since the last reset. -/
theorem outDelayed_run_eq_true_iff (x : ℕ → Ports) (t : ℕ) :
    (run step reset x t).outDelayed = true ↔
      ∃ p, LastActive (fun r => (x r).control) p t ∧ outRun x p = true :=
  latch_eq_true_iff (c := fun r => (x r).control) (q := fun r => (run step reset x r).outDelayed)
    (fun _ => rfl) rfl t

/-! What the assertion looks back on -/

/-- Shifting in at the right is a shift to the left. -/
theorem extractLsb'_append_ofBool (m : BitVec 7) (b : Bool) :
    m.extractLsb' 0 6 ++ BitVec.ofBool b = m <<< 1 ||| (BitVec.ofBool b).setWidth 7 := by
  revert m
  cases b <;> decide

variable (x : ℕ → Ports) (t : ℕ)

/-- The start event was there in the `k`-th enabled cycle back, with no reset since. -/
def Started (k : ℕ) : Prop :=
  ∃ p, EnabledBefore (fun r => (x r).control) k p t ∧ (x p).startEvent = true

/-- The assertion is enabled, its test fails and, if it looks back, it was started: under
`select = 0` in the latest enabled cycle but not in the one before, under `select = 1` in the
`numCks`-th enabled cycle back. -/
def Alarm : Prop :=
  (x t).control.IsActive ∧ (x t).testExpr = false ∧
    ((x t).select = 0 → Started x t 1 ∧ ¬ Started x t 2) ∧
    ((x t).select = 1 → Started x t (x t).numCks.toNat)

/-- `monitor[k]` is the start event of the `k`-th enabled cycle back. -/
theorem monitorBit_run {k : ℕ} (hk : k ≤ 7) :
    (run step reset x t).monitorBit k = true ↔ Started x t k := by
  cases k with
  | zero =>
    refine iff_of_false (by simp [monitorBit]) ?_
    rintro ⟨p, hp, -⟩
    exact absurd hp.pos (Nat.lt_irrefl 0)
  | succ j =>
    have hbit := getLsbD_shift_eq_true_iff (c := fun r => (x r).control)
      (d := fun r => (x r).startEvent) (q := fun r => (run step reset x r).monitor)
      (fun r => by rw [← extractLsb'_append_ofBool]; rfl) rfl (Nat.lt_of_succ_le hk) t
    simpa [monitorBit, Started, activeBefore_iff] using hbit

/-- The output of a configurable assertion, whatever its inputs do. -/
theorem outRun_eq_true_iff : outRun x t = true ↔ Alarm x t := by
  have hone := monitorBit_run x t (k := 1) (by decide)
  have htwo := monitorBit_run x t (k := 2) (by decide)
  have hnext := monitorBit_run x t (k := (x t).numCks.toNat) (by omega)
  rw [outRun, out, fireSelected, Alarm, ← hone, ← htwo, ← hnext]
  have hselect : (x t).select = 2 ∨ (x t).select = 3 ∨ (x t).select = 0 ∨ (x t).select = 1 := by
    generalize (x t).select = a
    revert a
    decide
  simp only [Control.IsActive, Bool.and_eq_true, Bool.not_eq_true', and_assoc]
  refine and_congr_right fun _ => and_congr_right fun _ => ?_
  rcases hselect with h | h | h | h
  · simp [h, fireProp]
  · simp [h, fireProp]
  · simp [h, fireEdge, fireProp, and_comm]
  · simp [h, fireNext, fireProp, and_comm]

end OvlCombo

end WirePatch.Fabric
