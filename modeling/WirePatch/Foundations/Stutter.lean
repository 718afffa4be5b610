import WirePatch.Foundations.Clocked
import Mathlib.Order.Monotone.Basic

/-!
# Stalled machines

While the enable of a synchronous machine is low, its registers hold. A run then does not depend
on how many cycles it is stalled for: between the cycles of a run, any number of idle ones may be
inserted, whatever their other inputs are.

## Main definitions

* `Clocked.inserted`: a run with idle cycles inserted.
* `Clocked.StutterInvariant`: an output that does not see them.

## Main results

* `Clocked.run_inserted`: the state in a cycle of the original run.
* `Clocked.run_succ_inserted`: the state across an inserted cycle.
-/

namespace Clocked

variable {σ ι : Type*} {control : ι → Control} {step : σ → ι → σ} {s₀ : σ} {x fill : ℕ → ι}
  {e : ℕ → ℕ} {r : ℕ}

/-- Cycle `t` of the run `x` becomes cycle `e t`. The cycles between are those of `fill`. -/
noncomputable def inserted (e : ℕ → ℕ) (x fill : ℕ → ι) : ℕ → ι := Function.extend e x fill

theorem inserted_apply (he : StrictMono e) (t : ℕ) : inserted e x fill (e t) = x t :=
  he.injective.extend_apply x fill t

theorem inserted_of_notMem (h : r ∉ Set.range e) : inserted e x fill r = fill r :=
  Function.extend_apply' x fill r h

/-- Before the first cycle of the original run there are inserted ones only. -/
theorem notMem_range_of_lt_zero (he : StrictMono e) (h : r < e 0) : r ∉ Set.range e := by
  rintro ⟨u, rfl⟩
  exact Nat.not_lt_zero u (he.lt_iff_lt.mp h)

/-- So there are between two consecutive ones. -/
theorem notMem_range_of_lt_succ (he : StrictMono e) {t : ℕ} (hlt : e t < r)
    (hlt' : r < e (t + 1)) : r ∉ Set.range e := by
  rintro ⟨u, rfl⟩
  have htu := he.lt_iff_lt.mp hlt
  have hut := he.lt_iff_lt.mp hlt'
  omega

/-- The registers hold across an inserted cycle. -/
theorem run_succ_inserted (hstep : ∀ s i, (control i).IsIdle → step s i = s)
    (hfill : ∀ r, (control (fill r)).IsIdle) (h : r ∉ Set.range e) :
    run step s₀ (inserted e x fill) (r + 1) = run step s₀ (inserted e x fill) r := by
  rw [run_succ, inserted_of_notMem h]
  exact hstep _ _ (hfill r)

/-- A cycle of the original run finds the state it found there. -/
theorem run_inserted (hstep : ∀ s i, (control i).IsIdle → step s i = s) (he : StrictMono e)
    (hfill : ∀ r, (control (fill r)).IsIdle) (t : ℕ) :
    run step s₀ (inserted e x fill) (e t) = run step s₀ x t := by
  have hhold {a b : ℕ} (hab : a ≤ b) (h : ∀ r, a ≤ r → r < b → r ∉ Set.range e) :
      run step s₀ (inserted e x fill) b = run step s₀ (inserted e x fill) a := by
    induction b, hab using Nat.le_induction with
    | base => rfl
    | succ b hab ih =>
      rw [run_succ_inserted hstep hfill (h b hab b.lt_succ_self)]
      exact ih fun r hr hrb => h r hr (Nat.lt_succ_of_lt hrb)
  induction t with
  | zero =>
    exact hhold (Nat.zero_le _) fun r _ hr => notMem_range_of_lt_zero he hr
  | succ t ih =>
    have hlt : e t < e (t + 1) := he t.lt_succ_self
    have hheld := hhold hlt fun r hr hr' => notMem_range_of_lt_succ he hr hr'
    rw [hheld, run_succ, ih, inserted_apply he, run_succ]

/-- An output that shows the same in the original cycles however long the machine is stalled
between them, and nothing in a cycle that is not enabled. -/
structure StutterInvariant (control : ι → Control) (step : σ → ι → σ) (out : σ → ι → Bool) :
    Prop where
  out_inserted : ∀ (s₀ : σ) (x fill : ℕ → ι) (e : ℕ → ℕ), StrictMono e →
    (∀ r, (control (fill r)).IsIdle) → ∀ t,
      out (run step s₀ (inserted e x fill) (e t)) (inserted e x fill (e t)) =
        out (run step s₀ x t) (x t)
  out_of_disabled : ∀ (s₀ : σ) (x : ℕ → ι) (t : ℕ), (control (x t)).enable = false →
    out (run step s₀ x t) (x t) = false

/-- The registers must hold in idle cycles, and the enable must gate the output. -/
theorem stutterInvariant {out : σ → ι → Bool} (hstep : ∀ s i, (control i).IsIdle → step s i = s)
    (hout : ∀ s i, (control i).enable = false → out s i = false) :
    StutterInvariant control step out where
  out_inserted s₀ x fill e he hfill t := by
    rw [run_inserted hstep he hfill, inserted_apply he]
  out_of_disabled s₀ x t h := hout _ _ h

end Clocked
