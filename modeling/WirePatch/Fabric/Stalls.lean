import WirePatch.Fabric.Blocks
import WirePatch.Fabric.Ovl
import WirePatch.Foundations.Stutter

/-!
# Checkers in a stalled pipeline

The checkers are enabled in the cycles in which an instruction leaves the execute stage, and a
stalled pipeline disables them for any number of cycles.

## Main results

* `Fabric.checkers_stutterInvariant`: the checkers count enabled cycles only.
-/

namespace WirePatch.Fabric

open Clocked

/-- The inputs of `ovl_always_wrapped`. -/
structure OvlAlwaysPorts where
  control : Control
  testExpr : Bool
  prevConfigInvalid : Bool

/-- `ovl_always_wrapped` as a machine: it has no register. -/
def OvlAlwaysPorts.out (_ : Unit) (x : OvlAlwaysPorts) : Bool :=
  ovlAlways x.control x.testExpr x.prevConfigInvalid

theorem OvlAlwaysPorts.stutterInvariant :
    StutterInvariant control (fun s _ => s) OvlAlwaysPorts.out := by
  refine Clocked.stutterInvariant (fun _ _ _ => rfl) fun _ x h => ?_
  rw [out, ovlAlways, h, Bool.and_false, Bool.false_and]

namespace OvlAlwaysOnEdge

theorem step_of_isIdle (s : OvlAlwaysOnEdge) (x : Ports) (h : x.control.IsIdle) :
    s.step x = s := by
  rw [step, Control.latch_of_isIdle h, Control.latch_of_isIdle h]

theorem out_of_disabled (s : OvlAlwaysOnEdge) (x : Ports) (h : x.control.enable = false) :
    s.out x = false := by
  simp [out, h]

end OvlAlwaysOnEdge

namespace OvlNext

theorem step_of_isIdle (s : OvlNext) (x : Ports) (h : x.control.IsIdle) : s.step x = s := by
  rw [step, Control.latch_of_isIdle h]

theorem out_of_disabled (s : OvlNext) (x : Ports) (h : x.control.enable = false) :
    s.out x = false := by
  simp [out, h]

end OvlNext

namespace OvlCombo

theorem step_of_isIdle (s : OvlCombo) (x : Ports) (h : x.control.IsIdle) : s.step x = s := by
  rw [step, Control.latch_of_isIdle h, Control.latch_of_isIdle h]

theorem out_of_disabled (s : OvlCombo) (x : Ports) (h : x.control.enable = false) :
    s.out x = false := by
  simp [out, h]

end OvlCombo

/-- Stalls do not change what the checkers report in the original cycles, and nothing is reported
in a disabled one. The delayed output holds its value in a stall. -/
theorem checkers_stutterInvariant :
    StutterInvariant OvlAlwaysPorts.control (fun s _ => s) OvlAlwaysPorts.out ∧
    StutterInvariant OvlAlwaysOnEdge.Ports.control OvlAlwaysOnEdge.step OvlAlwaysOnEdge.out ∧
    StutterInvariant OvlNext.Ports.control OvlNext.step OvlNext.out ∧
    StutterInvariant OvlCombo.Ports.control OvlCombo.step OvlCombo.out ∧
    ∀ (s₀ : OvlCombo) (x fill : ℕ → OvlCombo.Ports) (e : ℕ → ℕ), StrictMono e →
      (∀ r, (fill r).control.IsIdle) →
        (∀ t, (run OvlCombo.step s₀ (inserted e x fill) (e t)).outDelayed =
          (run OvlCombo.step s₀ x t).outDelayed) ∧
        ∀ r, r ∉ Set.range e → (run OvlCombo.step s₀ (inserted e x fill) (r + 1)).outDelayed =
          (run OvlCombo.step s₀ (inserted e x fill) r).outDelayed := by
  refine ⟨OvlAlwaysPorts.stutterInvariant,
    stutterInvariant OvlAlwaysOnEdge.step_of_isIdle OvlAlwaysOnEdge.out_of_disabled,
    stutterInvariant OvlNext.step_of_isIdle OvlNext.out_of_disabled,
    stutterInvariant OvlCombo.step_of_isIdle OvlCombo.out_of_disabled,
    fun s₀ x fill e he hfill => ⟨fun t => ?_, fun r hr => ?_⟩⟩
  · rw [run_inserted OvlCombo.step_of_isIdle he hfill]
  · rw [run_succ_inserted OvlCombo.step_of_isIdle hfill hr]

/-- A next block for two cycles sees its event in cycle 0, and its test always fails. -/
def startedIn (t : ℕ) : OvlNext.Ports :=
  { control := ⟨false, true⟩
    numCks := 2
    startEvent := t = 0
    testExpr := false
    prevConfigInvalid := false }

/-- A stalled cycle shows another event. -/
def stalledIn : OvlNext.Ports :=
  { startedIn 0 with control := ⟨false, false⟩ }

/-- Stalled in every other cycle, the block reports in cycle 4 instead of cycle 2. -/
theorem checkers_stutterInvariant_startedIn :
    let x := inserted (2 * ·) startedIn fun _ => stalledIn
    (run OvlNext.step .reset x 4).out (x 4) = true :=
  (checkers_stutterInvariant.2.2.1.out_inserted .reset startedIn (fun _ => stalledIn) (2 * ·)
    (fun _ _ h => Nat.mul_lt_mul_of_pos_left h Nat.two_pos) (fun _ => ⟨rfl, rfl⟩) 2).trans
      (by decide)

end WirePatch.Fabric
