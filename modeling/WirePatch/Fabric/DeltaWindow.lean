import WirePatch.Fabric.Ovl
import Mathlib.Data.Nat.Dist

/-!
# What the delta checker reports

The delta checker is there to report a value that leaps: one that changes by an amount outside
the window from `min` to `max` (`ovl_delta_wrapped_tb.v`, `large_delta_triggers`). The ported
block holds its two differences at 0 in exactly the cycles in which it may fire
(`assert_delta_logic.v`, line 9), so the window is compared with 0 instead.

## Main definitions

* `Fabric.DeltaTrace`: limits, resets and values of a run of the block.
* `Fabric.DeltaTrace.Leaps`: the value leaps in a cycle.

## Main results

* `Fabric.DeltaTrace.reportsLeap_iff`: the exact cycles in which the block is right.
-/

namespace WirePatch.Fabric

open Clocked

/-- A run of the delta block with fixed limits and a valid configuration. -/
structure DeltaTrace (width limitWidth : ℕ) where
  min : BitVec limitWidth
  max : BitVec limitWidth
  rst : ℕ → Bool
  testExpr : ℕ → BitVec width

namespace DeltaTrace

variable {width limitWidth : ℕ} (x : DeltaTrace width limitWidth) (t : ℕ)

/-- The inputs of the block in a cycle. -/
def ports : OvlDelta.Ports width limitWidth where
  rst := x.rst t
  min := x.min
  max := x.max
  testExpr := x.testExpr t
  prevConfigInvalid := false

/-- The output of the block in a cycle. -/
def out : Bool := (run OvlDelta.step OvlDelta.reset x.ports t).out (x.ports t)

/-- The difference `a - b` does not wrap below zero and lies in the window. -/
def InWindow (a b : BitVec width) : Prop :=
  b.toNat ≤ a.toNat ∧ x.min.toNat ≤ a.toNat - b.toNat ∧ a.toNat - b.toNat ≤ x.max.toNat

instance (a b : BitVec width) : Decidable (x.InWindow a b) :=
  inferInstanceAs (Decidable (_ ∧ _ ∧ _))

/-- Neither `t` nor the cycle before is in reset, and the value changes between the two by an
amount that lies outside the window in both directions. -/
def Leaps : Prop :=
  ∃ r, t = r + 1 ∧ x.rst r = false ∧ x.rst t = false ∧ x.testExpr r ≠ x.testExpr t ∧
    ¬ x.InWindow (x.testExpr r) (x.testExpr t) ∧ ¬ x.InWindow (x.testExpr t) (x.testExpr r)

/-- The block fires in cycle `t` exactly when the value leaps there. -/
def ReportsLeap : Prop := x.out t = true ↔ x.Leaps t

/-- How far the value moves between two cycles. -/
def move (r t : ℕ) : ℕ := Nat.dist (x.testExpr r).toNat (x.testExpr t).toNat

theorem move_eq_zero {r t : ℕ} : x.move r t = 0 ↔ x.testExpr r = x.testExpr t := by
  rw [move, BitVec.toNat_eq]
  exact ⟨Nat.eq_of_dist_eq_zero, Nat.dist_eq_zero⟩

theorem not_inWindow_iff {r t : ℕ} (h : x.testExpr r ≠ x.testExpr t) :
    (¬ x.InWindow (x.testExpr r) (x.testExpr t) ∧ ¬ x.InWindow (x.testExpr t) (x.testExpr r)) ↔
      ¬ (x.min.toNat ≤ x.move r t ∧ x.move r t ≤ x.max.toNat) := by
  have hne : (x.testExpr r).toNat ≠ (x.testExpr t).toNat := fun he => h (BitVec.eq_of_toNat_eq he)
  rcases Nat.lt_or_gt_of_ne hne with hlt | hgt
  · rw [move, Nat.dist_eq_sub_of_le hlt.le]
    unfold InWindow
    omega
  · rw [move, Nat.dist_eq_sub_of_le_right hgt.le]
    unfold InWindow
    omega

/-- The block fires on any change between two cycles out of reset, unless the lower limit is
0. -/
theorem out_eq_true_iff : x.out t = true ↔ ∃ r, t = r + 1 ∧ x.rst r = false ∧
    x.rst t = false ∧ x.testExpr r ≠ x.testExpr t ∧ x.min ≠ 0 := by
  cases t with
  | zero => simp [out, OvlDelta.out_eq_true_iff, OvlDelta.reset]
  | succ r =>
    rw [out, OvlDelta.out_eq_true_iff, run_succ]
    cases hr : x.rst r with
    | true => simp [OvlDelta.step, ports, hr]
    | false =>
      simp only [OvlDelta.step, ports, hr, Bool.not_false, if_true, Nat.succ.injEq, true_and,
        exists_eq_left']

/-- The block is right in the cycles in which the value stays, moves out of the window with a
lower limit other than 0, or moves within the window with lower limit 0. It misses every leap
under lower limit 0 and reports every move within the window otherwise. -/
theorem reportsLeap_iff : x.ReportsLeap t ↔
    ∀ r, t = r + 1 → x.rst r = false → x.rst t = false →
      x.move r t = 0 ∨
      (x.min ≠ 0 ∧ ¬ (x.min.toNat ≤ x.move r t ∧ x.move r t ≤ x.max.toNat)) ∨
      (x.min = 0 ∧ x.move r t ≤ x.max.toNat) := by
  unfold ReportsLeap Leaps
  rw [out_eq_true_iff]
  cases t with
  | zero => simp
  | succ r =>
    simp only [Nat.add_right_cancel_iff, exists_eq_left', forall_eq']
    by_cases hs : x.testExpr r = x.testExpr (r + 1)
    · simp [hs, x.move_eq_zero.mpr hs]
    · have hmove : x.move r (r + 1) ≠ 0 := fun h => hs (x.move_eq_zero.mp h)
      have hmin : x.min = 0 ↔ x.min.toNat = 0 := by simp [BitVec.toNat_eq]
      rw [x.not_inWindow_iff hs]
      simp only [ne_eq, hmin]
      constructor
      · intro h hr ht
        have h' := and_congr_right_iff.mp (and_congr_right_iff.mp h hr) ht
        have h'' := and_congr_right_iff.mp h' hs
        omega
      · intro h
        refine and_congr_right fun hr => and_congr_right fun ht => and_congr_right fun _ => ?_
        rcases h hr ht with h | h | h <;> omega

/-- A value that moves by 100 in one cycle, under the limits of the control-flow checker. -/
def leap : DeltaTrace 32 4 where
  min := 0
  max := 4
  rst := fun _ => false
  testExpr := fun t => if t = 0 then 0x2000 else 0x2064

/-- A leap of 100 bytes is not reported under the limits 0 and 4. -/
theorem not_reportsLeap_leap : ¬ leap.ReportsLeap 1 := by
  intro h
  have hleaps : leap.Leaps 1 := by
    refine ⟨0, rfl, rfl, rfl, by decide, ?_, ?_⟩ <;> decide
  have hout : leap.out 1 = false := by decide
  rw [h.mpr hleaps] at hout
  cases hout

end DeltaTrace

end WirePatch.Fabric
