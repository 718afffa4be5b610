import WirePatch.Foundations.Clocked
import Mathlib.Tactic.Tauto

/-!
# Checker blocks of the fabric

The assertion blocks the fabric and the baked-in checkers are made of (`ovl_*_wrapped.v` over
the ported OVL logic in `ovl_ported/vlog95`). Resets are active high and no clock is gated
inside a block. Only the combinational output is modelled: the registered one, `fire`, is
connected nowhere, except for `ovl_proposition`, where it is combinational. A register starts
with the value its reset gives it.

## Main definitions

* `Fabric.ovlAlways`, `Fabric.ovlProposition`: the blocks without state.
* `Fabric.OvlAlwaysOnEdge`, `Fabric.OvlDelta`, `Fabric.OvlNext`: the blocks with state.

## Main results

* `Fabric.OvlAlwaysOnEdge.out_run_eq_true_iff`: the edge block fires at an enabled cycle in which
  its sampling event has just risen, since the enabled cycle before, and its test fails.
* `Fabric.OvlDelta.out_eq_true_iff`: the delta block ignores the size of the change.
* `Fabric.OvlNext.getLsbD_monitor_run`: what the history of the next block shows.
* `Fabric.OvlNext.out_run_iff_enabledBefore`: the next block fires when its test fails the
  configured number of enabled cycles after its event.
-/

namespace WirePatch.Fabric

open Clocked

/-- `ovl_always_wrapped`: fires when the test fails in an enabled cycle. -/
def ovlAlways (c : Control) (testExpr prevConfigInvalid : Bool) : Bool :=
  (!testExpr && !c.rst && c.enable) && !prevConfigInvalid

theorem ovlAlways_of_isActive {c : Control} (h : c.IsActive) (testExpr : Bool) :
    ovlAlways c testExpr false = !testExpr := by
  simp [ovlAlways, h.1, h.2]

/-- `ovl_proposition_wrapped` (`assert_proposition_logic.v`): its enable acts inverted. -/
def ovlProposition (c : Control) (testExpr prevConfigInvalid : Bool) : Bool :=
  (if c.rst then false else !testExpr && !c.enable) && !prevConfigInvalid

/-! ### The edge block -/

/-- The registers of `ovl_always_on_edge_logic2.v`. -/
@[ext]
structure OvlAlwaysOnEdge where
  samplingEventPrev : Bool
  /-- An enabled cycle has passed since the last reset. -/
  rResetN : Bool
  deriving DecidableEq, Repr

namespace OvlAlwaysOnEdge

/-- The inputs of `ovl_always_on_edge_wrapped`. -/
structure Ports where
  control : Control
  samplingEvent : Bool
  testExpr : Bool
  prevConfigInvalid : Bool

def reset : OvlAlwaysOnEdge := ⟨false, false⟩

def step (s : OvlAlwaysOnEdge) (x : Ports) : OvlAlwaysOnEdge where
  samplingEventPrev := x.control.latch false x.samplingEvent s.samplingEventPrev
  rResetN := x.control.latch false true s.rResetN

def out (s : OvlAlwaysOnEdge) (x : Ports) : Bool :=
  (!x.control.rst && x.control.enable && !s.samplingEventPrev && x.samplingEvent &&
    !x.testExpr && s.rResetN) && !x.prevConfigInvalid

/-- A block in reset does not fire. -/
theorem out_of_rst {x : Ports} (h : x.control.rst = true) (s : OvlAlwaysOnEdge) :
    s.out x = false := by
  simp [out, h]

variable (x : ℕ → Ports) (t : ℕ)

theorem samplingEventPrev_run : (run step reset x t).samplingEventPrev = true ↔
    ∃ p, LastActive (fun r => (x r).control) p t ∧ (x p).samplingEvent = true :=
  latch_eq_true_iff (c := fun r => (x r).control)
    (q := fun r => (run step reset x r).samplingEventPrev) (fun _ => rfl) rfl t

theorem rResetN_run : (run step reset x t).rResetN = true ↔
    ∃ p, LastActive (fun r => (x r).control) p t := by
  have h := latch_eq_true_iff (c := fun r => (x r).control) (d := fun _ => true)
    (q := fun r => (run step reset x r).rResetN) (fun _ => rfl) rfl t
  simpa using h

/-- The edge block fires in an enabled cycle in which the test fails and the sampling event is
high, if it was low in the latest enabled cycle since the last reset. -/
theorem out_run_eq_true_iff (hv : (x t).prevConfigInvalid = false) :
    (run step reset x t).out (x t) = true ↔
      (x t).control.IsActive ∧ (x t).samplingEvent = true ∧ (x t).testExpr = false ∧
        ∃ p, LastActive (fun r => (x r).control) p t ∧ (x p).samplingEvent = false := by
  have hprev : ((run step reset x t).samplingEventPrev = false ∧
      (run step reset x t).rResetN = true) ↔
        ∃ p, LastActive (fun r => (x r).control) p t ∧ (x p).samplingEvent = false := by
    rw [← Bool.not_eq_true, samplingEventPrev_run, rResetN_run]
    constructor
    · rintro ⟨hno, p, hp⟩
      refine ⟨p, hp, ?_⟩
      cases hs : (x p).samplingEvent with
      | false => rfl
      | true => exact absurd ⟨p, hp, hs⟩ hno
    · rintro ⟨p, hp, hs⟩
      refine ⟨?_, p, hp⟩
      rintro ⟨p', hp', hs'⟩
      rw [hp.unique hp', hs'] at hs
      cases hs
  rw [← hprev]
  simp only [out, hv, Bool.and_eq_true, Bool.not_eq_true', Control.IsActive, Bool.not_false,
    and_true]
  tauto

/-- The edge block at an enabled cycle whose latest enabled cycle is known. -/
theorem out_run_of_lastActive {p : ℕ} (hp : LastActive (fun r => (x r).control) p t)
    (ht : (x t).control.IsActive) (hv : (x t).prevConfigInvalid = false) :
    (run step reset x t).out (x t) =
      (!(x p).samplingEvent && (x t).samplingEvent && !(x t).testExpr) := by
  have hprev : (run step reset x t).samplingEventPrev = (x p).samplingEvent :=
    latch_eq_of_lastActive (c := fun r => (x r).control) (d := fun r => (x r).samplingEvent)
      (q := fun r => (run step reset x r).samplingEventPrev) (z := false) (fun _ => rfl) hp
  have hr : (run step reset x t).rResetN = true := (rResetN_run x t).mpr ⟨p, hp⟩
  simp [out, hprev, hr, ht.1, ht.2, hv]

end OvlAlwaysOnEdge

/-! ### The delta block -/

/-- The registers of `assert_delta_logic.v`. -/
@[ext]
structure OvlDelta (width : ℕ) where
  lastTestExpr : BitVec width
  /-- The previous cycle was not in reset. -/
  rResetN : Bool

namespace OvlDelta

variable {width limitWidth : ℕ}

/-- The inputs of `ovl_delta_wrapped`. Its `enable` is the constant 1. -/
structure Ports (width limitWidth : ℕ) where
  rst : Bool
  min : BitVec limitWidth
  max : BitVec limitWidth
  testExpr : BitVec width
  prevConfigInvalid : Bool

def reset : OvlDelta width := ⟨0, false⟩

def step (_ : OvlDelta width) (x : Ports width limitWidth) : OvlDelta width where
  lastTestExpr := if !x.rst then x.testExpr else 0
  rResetN := if !x.rst then !x.rst else false

/-- The wires `temp_expr1` and `temp_expr2`: a difference taken one bit wider, or 0. -/
def tempExpr (s : OvlDelta width) (x : Ports width limitWidth) (a b : BitVec width) :
    BitVec (width + 1) :=
  if x.rst || s.rResetN then 0 else a.setWidth (width + 1) - b.setWidth (width + 1)

def tempExpr1 (s : OvlDelta width) (x : Ports width limitWidth) : BitVec (width + 1) :=
  s.tempExpr x s.lastTestExpr x.testExpr

def tempExpr2 (s : OvlDelta width) (x : Ports width limitWidth) : BitVec (width + 1) :=
  s.tempExpr x x.testExpr s.lastTestExpr

/-- A wire lies between the limits. Verilog widens the shorter operand with zeros. -/
def withinLimits (x : Ports width limitWidth) (temp : BitVec (width + 1)) : Bool :=
  decide (x.min.toNat ≤ temp.toNat) && decide (temp.toNat ≤ x.max.toNat)

def out (s : OvlDelta width) (x : Ports width limitWidth) : Bool :=
  (!x.rst && s.rResetN && decide (s.lastTestExpr ≠ x.testExpr) &&
    !(withinLimits x (s.tempExpr1 x) || withinLimits x (s.tempExpr2 x))) &&
    !x.prevConfigInvalid

/-- Whenever the block can fire, both differences are held at 0. -/
theorem tempExpr_of_rResetN {s : OvlDelta width} (h : s.rResetN = true)
    (x : Ports width limitWidth) (a b : BitVec width) : s.tempExpr x a b = 0 := by
  simp [tempExpr, h]

/-- The block fires on any change, unless the lower limit is 0: how far the value moved does
not matter. -/
theorem out_eq_true_iff (s : OvlDelta width) (x : Ports width limitWidth) :
    s.out x = true ↔ x.rst = false ∧ x.prevConfigInvalid = false ∧ s.rResetN = true ∧
      s.lastTestExpr ≠ x.testExpr ∧ x.min ≠ 0 := by
  cases hr : s.rResetN with
  | false => simp [out, hr]
  | true =>
    have h0 : withinLimits x (0 : BitVec (width + 1)) = true ↔ x.min = 0 := by
      simp [withinLimits, BitVec.toNat_eq]
    simp only [out, tempExpr1, tempExpr2, tempExpr_of_rResetN hr, hr, Bool.and_eq_true,
      Bool.not_eq_true', Bool.or_self, decide_eq_true_eq, ← Bool.not_eq_true, h0, and_true]
    tauto

/-- With lower limit 0 the block never fires. -/
theorem out_of_min_eq_zero {x : Ports width limitWidth} (h : x.min = 0) (s : OvlDelta width) :
    s.out x = false := by
  rw [← Bool.not_eq_true, out_eq_true_iff]
  exact fun hout => hout.2.2.2.2 h

end OvlDelta

/-! ### The next block -/

/-- The register of `ovl_next_logic.v`, for `num_cks_max` 7 and `num_cks_width` 3. -/
@[ext]
structure OvlNext where
  monitor : BitVec 7
  deriving DecidableEq, Repr

namespace OvlNext

/-- The inputs of `ovl_next_wrapped`. -/
structure Ports where
  control : Control
  numCks : BitVec 3
  startEvent : Bool
  testExpr : Bool
  prevConfigInvalid : Bool

def reset : OvlNext := ⟨0⟩

def step (s : OvlNext) (x : Ports) : OvlNext where
  monitor := x.control.latch 0 (s.monitor <<< 1 ||| (BitVec.ofBool x.startEvent).setWidth 7)
    s.monitor

/-- `check_overlapping` is 1 and `check_missing_start` is 0, so one way to fire is left. -/
def out (s : OvlNext) (x : Ports) : Bool :=
  (!x.control.rst && x.control.enable &&
    (s.monitor.getLsbD (x.numCks - 1).toNat && !x.testExpr)) && !x.prevConfigInvalid

/-- A block in reset does not fire. -/
theorem out_of_rst {x : Ports} (h : x.control.rst = true) (s : OvlNext) : s.out x = false := by
  simp [out, h]

/-- Bit `j` of the history is the start event `j` enabled cycles before the latest one. -/
theorem getLsbD_monitor_run (x : ℕ → Ports) {j : ℕ} (hj : j < 7) (t : ℕ) :
    (run step reset x t).monitor.getLsbD j = true ↔
      ∃ p, ActiveBefore (fun r => (x r).control) j p t ∧ (x p).startEvent = true :=
  getLsbD_shift_eq_true_iff (c := fun r => (x r).control) (d := fun r => (x r).startEvent)
    (q := fun r => (run step reset x r).monitor) (fun _ => rfl) rfl hj t

/-- The next block at an enabled cycle whose latest enabled cycle is known, if it looks back by
one cycle. -/
theorem out_run_of_lastActive (x : ℕ → Ports) {p t : ℕ}
    (hp : LastActive (fun r => (x r).control) p t) (ht : (x t).control.IsActive)
    (hcks : (x t).numCks = 1) (hv : (x t).prevConfigInvalid = false) :
    (run step reset x t).out (x t) = ((x p).startEvent && !(x t).testExpr) := by
  have hbit : (run step reset x t).monitor.getLsbD 0 = (x p).startEvent := by
    rw [Bool.eq_iff_iff, getLsbD_monitor_run x (by decide) t]
    constructor
    · rintro ⟨p', hp', hstart⟩
      rwa [hp.unique hp']
    · exact fun hstart => ⟨p, hp, hstart⟩
  have hindex : ((x t).numCks - 1).toNat = 0 := by rw [hcks]; rfl
  rw [out, hindex, hbit, ht.1, ht.2, hv]
  simp

/-- The next block fires in an enabled cycle in which the test fails, if its event was high in the
`numCks`-th enabled cycle before, with no reset since. -/
theorem out_run_iff_enabledBefore (x : ℕ → Ports) (t : ℕ) (hcks : (x t).numCks ≠ 0)
    (hv : (x t).prevConfigInvalid = false) :
    (run step reset x t).out (x t) = true ↔
      (x t).control.IsActive ∧ (x t).testExpr = false ∧
        ∃ p, EnabledBefore (fun r => (x r).control) (x t).numCks.toNat p t ∧
          (x p).startEvent = true := by
  have hindex : ((x t).numCks - 1).toNat + 1 = (x t).numCks.toNat := by
    have hpos : (x t).numCks.toNat ≠ 0 := fun h => hcks (BitVec.eq_of_toNat_eq h)
    bv_omega
  have hlt : ((x t).numCks - 1).toNat < 7 := by bv_omega
  have hbit := getLsbD_monitor_run x hlt t
  simp only [activeBefore_iff, hindex] at hbit
  rw [← hbit]
  simp only [out, hv, Bool.and_eq_true, Bool.not_eq_true', Control.IsActive, Bool.not_false,
    and_true]
  tauto

/-- Two events in a row that are not followed by the test, with a disabled cycle between. -/
def overlapping (t : ℕ) : Ports where
  control := ⟨false, decide (t ≠ 2)⟩
  numCks := 2
  startEvent := decide (t < 2)
  testExpr := false
  prevConfigInvalid := false

theorem out_run_iff_enabledBefore_overlapping :
    (run step reset overlapping 4).out (overlapping 4) = true ↔
    (overlapping 4).control.IsActive ∧ (overlapping 4).testExpr = false ∧
      ∃ p, EnabledBefore (fun r => (overlapping r).control) (overlapping 4).numCks.toNat p 4 ∧
        (overlapping p).startEvent = true :=
  out_run_iff_enabledBefore overlapping 4 (by decide) rfl

end OvlNext

end WirePatch.Fabric
