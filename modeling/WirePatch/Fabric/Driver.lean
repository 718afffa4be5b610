import WirePatch.Fabric.Circuit

/-!
# The driver of the fabric

The module `assertionFabricDriver` that `printTestRig` of `StitchFabric.java` (lines 335–450)
writes around a generated fabric: it keeps the configuration in registers that are written
through an address, a data word and a strobe, and latches the vector of violated assertions.

## Main definitions

* `Fabric.Driver`, `Fabric.Driver.step`: the registers and their next values.
* `Fabric.Driver.configPort`: the register behind an address.

## Main results

* `Fabric.Driver.step_of_not_strobed`: without a write, a clock edge keeps the configuration or
  clears it.
* `Fabric.getLsbD_assertionsViolated`: the bit of each assertion in the vector.
-/

namespace WirePatch.Fabric

open Clocked

/-! ### The vector of a fabric -/

/-- Assertion `i` of `n` has bit `n - 1 - i` of the vector. -/
theorem getLsbD_assertionsViolated (x : FabricPorts) (σ : ℕ → OvlCombo) {n : ℕ} (hn : n ≤ 32)
    (j : ℕ) : (assertionsViolated x σ n).getLsbD j =
      (decide (j < n) && assertionResult x σ (n - 1 - j)) := by
  induction n generalizing j with
  | zero => simp [assertionsViolated]
  | succ n ih =>
    have hsucc : assertionsViolated x σ (n + 1) =
        assertionsViolated x σ n <<< 1 |||
          (BitVec.ofBool (assertionResult x σ n)).setWidth 32 := by
      rw [assertionsViolated, List.range_succ, List.foldl_append]
      rfl
    rw [hsucc, BitVec.getLsbD_or, BitVec.getLsbD_shiftLeft, BitVec.getLsbD_setWidth]
    cases j with
    | zero => simp
    | succ j =>
      rw [Nat.add_sub_cancel, ih (by omega), show n + 1 - 1 - (j + 1) = n - 1 - j by omega]
      by_cases hj : j < n
      · simp [hj, show j + 1 < 32 by omega]
      · simp [hj]

/-! ### The driver -/

/-- The registers of `assertionFabricDriver`, those of its fabric included. -/
structure Driver where
  fabricEnable : Bool
  strobePrev : Bool
  config : Config
  assertionsViolated : BitVec 32
  blocks : ℕ → OvlCombo

/-- The inputs of `assertionFabricDriver` but for `bakedInAssertions`, which the fabric does not
read. -/
structure DriverPorts where
  control : Control
  routingInput : BitVec 544
  address : BitVec 32
  data : BitVec 32
  strobe : Bool

namespace Driver

def reset : Driver where
  fabricEnable := false
  strobePrev := false
  config := fun _ => 0
  assertionsViolated := 0
  blocks := fun _ => OvlCombo.reset

/-- The configuration register behind an address: they follow the enable, at address 0, in the
order of `inputWires`. -/
def configPort (n : ℕ) (address : BitVec 32) : Option Port :=
  if address = 0 then none else (stitch n).inputWires[address.toNat - 1]?

/-- A write of a configuration register, which keeps the low bits of the data. -/
def write (config : Config) (port : Port) (data : BitVec 32) : Config :=
  Function.update config port (data.setWidth port.width)

section Step

variable (n : ℕ) (merge : (Fin 6 → Bool) → Bool) (s : Driver) (x : DriverPorts)

/-- The inputs of the fabric. -/
def fabricPorts : FabricPorts := ⟨x.control, x.routingInput, s.config⟩

/-- The wire `assertionViolated_in`. -/
def assertionViolatedIn : Bool := assertionViolated (s.fabricPorts x) s.blocks n merge

/-- The wire `assertionsViolated_in`. -/
def assertionsViolatedIn : BitVec 32 := Fabric.assertionsViolated (s.fabricPorts x) s.blocks n

/-- The strobe goes high: the write is done at the next clock edge, unless it is a reset. -/
def strobed : Bool := !s.strobePrev && x.strobe

/-- What is latched: the vector under a mask of one bit, the enable. -/
def latched : BitVec 32 :=
  s.assertionsViolatedIn n x &&& (BitVec.ofBool s.fabricEnable).setWidth 32

/-- The configuration after a write. -/
def written : Config :=
  match configPort n x.address with
  | some port => write s.config port x.data
  | none => s.config

/-- The registers at the next clock edge. -/
def step : Driver where
  fabricEnable :=
    if x.control.rst then false
    else if s.strobed x && x.address == 0 then x.data.getLsbD 0 else s.fabricEnable
  strobePrev := if x.control.rst then false else x.strobe
  config :=
    if x.control.rst then fun _ => 0
    else if s.strobed x then s.written n x else s.config
  assertionsViolated :=
    if x.control.rst then 0
    else if s.assertionViolatedIn n merge x then s.latched n x else s.assertionsViolated
  blocks := stepAssertions (s.fabricPorts x) s.blocks

end Step

variable {n : ℕ} {merge : (Fin 6 → Bool) → Bool} {s : Driver} {x : DriverPorts}

/-- A clock edge in reset clears the enable and the configuration. -/
theorem step_of_rst (h : x.control.rst = true) :
    (s.step n merge x).fabricEnable = false ∧ (s.step n merge x).config = fun _ => 0 := by
  simp [step, h]

/-- Out of reset and without a write, the enable and the configuration stay. -/
theorem step_of_not_strobed (h : x.control.rst = false) (hstrobe : s.strobed x = false) :
    (s.step n merge x).fabricEnable = s.fabricEnable ∧ (s.step n merge x).config = s.config := by
  simp [step, h, hstrobe]

theorem assertionsViolated_step_of_violated (h : x.control.rst = false)
    (hviolated : s.assertionViolatedIn n merge x = true) :
    (s.step n merge x).assertionsViolated = s.latched n x := by
  simp [step, h, hviolated]

/-- Under the mask, the bit of the last assertion is the only one left. -/
theorem getLsbD_latched (hn : n ≤ 32) (hen : s.fabricEnable = true) (j : ℕ) :
    (s.latched n x).getLsbD j =
      (decide (j = 0 ∧ 0 < n) && assertionResult (s.fabricPorts x) s.blocks (n - 1)) := by
  rw [latched, hen, BitVec.getLsbD_and, assertionsViolatedIn, getLsbD_assertionsViolated _ _ hn,
    BitVec.getLsbD_setWidth]
  cases j <;> simp

end Driver

end WirePatch.Fabric
