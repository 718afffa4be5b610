import WirePatch.Foundations.Clocked

/-!
# Raising an exception for a violation

The registers in the processor that turn violations into an exception request
(`or1200_cpu.v`, lines 362–386), and the register EPPC, which keeps the address of the violating
instruction for the recovery firmware (`or1200_sprs.v`, lines 491–497).

## Main definitions

* `Fabric.Glue`, `Fabric.Glue.step`: the registers and their next values.
* `Fabric.Glue.exceptionGated`: the request.
* `Fabric.Glue.Requested`: a violation is requested until it is handled.

## Main results

* `Fabric.Glue.requested_iff`: when a violation is requested that long.
-/

namespace WirePatch.Fabric

open Clocked

/-- The registers that record and request a violation. -/
structure Glue where
  /-- `sp_assertions_violated_reg` -/
  assertionsViolatedReg : BitVec 32
  /-- `sp_assertion_violated_reg` -/
  assertionViolatedReg : Bool
  /-- `sp_exception_hold` -/
  exceptionHold : Bool
  /-- `sp_reg7`, the register EPPC. -/
  eppc : BitVec 32
  deriving DecidableEq, Repr

/-- The signals these registers read. -/
structure GluePorts where
  rst : Bool
  /-- `sp_assertions_violated` -/
  assertionsViolated : BitVec 32
  exceptType : BitVec 4
  sprDatPpc : BitVec 32

namespace GluePorts

/-- `sp_assertion_violated`. -/
def assertionViolated (x : GluePorts) : Bool := x.assertionsViolated != 0

end GluePorts

/-- `sp_exceptionHandled`: the exception being taken is `OR1200_EXCEPT_ILLEGAL`. -/
def exceptionHandled (exceptType : BitVec 4) : Bool := exceptType == 0x7#4

/-- A request waits through the cycle: it is neither handled nor reset. -/
def GluePorts.Waits (x : GluePorts) : Prop :=
  x.rst = false ∧ exceptionHandled x.exceptType = false

instance GluePorts.instDecidableWaits (x : GluePorts) : Decidable x.Waits :=
  inferInstanceAs (Decidable (_ ∧ _))

namespace Glue

def reset : Glue := ⟨0, false, false, 0⟩

/-- `sp_exceptionGated`. -/
def exceptionGated (s : Glue) (exceptType : BitVec 4) : Bool :=
  (s.assertionViolatedReg || s.exceptionHold) && !exceptionHandled exceptType

def step (s : Glue) (x : GluePorts) : Glue where
  assertionsViolatedReg :=
    if x.rst then 0
    else if x.assertionViolated then x.assertionsViolated else s.assertionsViolatedReg
  assertionViolatedReg :=
    if x.rst then false else if x.assertionViolated then x.assertionViolated else false
  exceptionHold :=
    if x.rst then false
    else if exceptionHandled x.exceptType then false
    else if x.assertionViolated then true else s.exceptionHold
  eppc :=
    if x.rst then 0 else if x.assertionViolated then x.sprDatPpc else s.eppc

variable {s : Glue} {x : GluePorts}

theorem exceptionGated_of_exceptionHold (hs : s.exceptionHold = true) {exceptType : BitVec 4}
    (h : exceptionHandled exceptType = false) : s.exceptionGated exceptType = true := by
  simp [exceptionGated, hs, h]

theorem exceptionGated_of_assertionViolatedReg (hs : s.assertionViolatedReg = true)
    {exceptType : BitVec 4} (h : exceptionHandled exceptType = false) :
    s.exceptionGated exceptType = true := by
  simp [exceptionGated, hs, h]

/-- A violation sets the one-cycle request and, unless an exception is being handled, the
held one; it overwrites the record and EPPC. -/
theorem step_of_violated (hrst : x.rst = false) (h : x.assertionViolated = true) :
    s.step x = ⟨x.assertionsViolated, true, !exceptionHandled x.exceptType, x.sprDatPpc⟩ := by
  simp only [step, hrst, h, if_true, Bool.false_eq_true, if_false]
  cases exceptionHandled x.exceptType <;> rfl

/-- Without a violation the record and EPPC stay, and the request ends with its handling. -/
theorem step_of_not_violated (hrst : x.rst = false) (h : x.assertionViolated = false) :
    s.step x = ⟨s.assertionsViolatedReg, false,
      s.exceptionHold && !exceptionHandled x.exceptType, s.eppc⟩ := by
  simp only [step, hrst, h, Bool.false_eq_true, if_false]
  cases exceptionHandled x.exceptType <;> simp

/-- A held request outlives any cycle through which it waits. -/
theorem exceptionHold_step (hs : s.exceptionHold = true) (h : x.Waits) :
    (s.step x).exceptionHold = true := by
  simp [step, h.1, h.2, hs]

/-! ### Runs -/

section Run

variable (x : ℕ → GluePorts) (t : ℕ)

/-- The registers in a cycle of a run that starts after a reset. -/
def regs : Glue := run step reset x t

/-- The request in a cycle of the run. -/
def gated : Bool := (regs x t).exceptionGated (x t).exceptType

/-- The exception request stays up from the cycle after `t` until the first later cycle in which
the exception is taken, or which is in reset. -/
def Requested : Prop :=
  ∀ u, t < u → (∀ r, t < r → r ≤ u → (x r).Waits) → gated x u = true

variable {x t}

/-- Once the request is held, it stays up as long as it waits. -/
theorem exceptionHold_regs {a u : ℕ} (ha : (regs x a).exceptionHold = true) (hau : a ≤ u)
    (h : ∀ r, a ≤ r → r < u → (x r).Waits) : (regs x u).exceptionHold = true := by
  induction u, hau using Nat.le_induction with
  | base => exact ha
  | succ u hau ih =>
    refine exceptionHold_step (ih fun r har hru => h r har (Nat.lt_succ_of_lt hru)) ?_
    exact h u hau u.lt_succ_self

/-- A violation outside reset is requested until it is handled, unless it comes in the cycle in
which an earlier exception is taken. Then it is dropped after one cycle, if no other violation
follows at once and neither an exception is taken nor a reset comes by then. -/
theorem requested_iff (hrst : (x t).rst = false) (hviolated : (x t).assertionViolated = true) :
    Requested x t ↔
      exceptionHandled (x t).exceptType = false ∨ ¬ (x (t + 1)).Waits ∨ ¬ (x (t + 2)).Waits ∨
      (x (t + 1)).assertionViolated = true := by
  have hfirst : regs x (t + 1) = ⟨(x t).assertionsViolated, true,
      !exceptionHandled (x t).exceptType, (x t).sprDatPpc⟩ :=
    step_of_violated hrst hviolated
  -- Holding the request from `a` on is enough, if the cycles before `a` are settled.
  have hheld : ∀ {a u : ℕ}, t < a → (regs x a).exceptionHold = true → a ≤ u →
      (∀ r, t < r → r ≤ u → (x r).Waits) → gated x u = true := by
    intro a u hta ha hau hwaits
    refine exceptionGated_of_exceptionHold ?_ (hwaits u (hta.trans_le hau) le_rfl).2
    exact exceptionHold_regs ha hau fun r har hru => hwaits r (hta.trans_le har) hru.le
  have hpulse : (x (t + 1)).Waits → gated x (t + 1) = true := fun h =>
    exceptionGated_of_assertionViolatedReg (by rw [hfirst]) h.2
  constructor
  · intro hreq
    by_contra hno
    simp only [not_or, not_not, Bool.not_eq_false, Bool.not_eq_true] at hno
    obtain ⟨h₀, h₁, h₂, hv⟩ := hno
    have hsecond : regs x (t + 2) = ⟨(x t).assertionsViolated, false, false, (x t).sprDatPpc⟩ := by
      have hstep : regs x (t + 2) = _ :=
        step_of_not_violated (s := regs x (t + 1)) h₁.1 hv
      rw [hstep, hfirst, h₀]
      rfl
    have hgated : gated x (t + 2) = true := by
      refine hreq (t + 2) (by omega) fun r htr hru => ?_
      rcases (by omega : r = t + 1 ∨ r = t + 2) with rfl | rfl
      · exact h₁
      · exact h₂
    rw [gated, hsecond] at hgated
    cases hgated
  · intro h u htu hwaits
    have hnext := hwaits (t + 1) t.lt_succ_self htu
    rcases h with h₀ | h₁ | h₂ | hv
    · exact hheld t.lt_succ_self (by rw [hfirst, h₀]; rfl) htu hwaits
    · exact absurd hnext h₁
    · rcases (by omega : u = t + 1 ∨ t + 2 ≤ u) with rfl | hu
      · exact hpulse hnext
      · exact absurd (hwaits (t + 2) (by omega) hu) h₂
    · rcases (by omega : u = t + 1 ∨ t + 2 ≤ u) with rfl | hu
      · exact hpulse hnext
      · have hsecond : (regs x (t + 2)).exceptionHold = true := by
          have hstep := step_of_violated (s := regs x (t + 1)) hnext.1 hv
          rw [hnext.2] at hstep
          exact congrArg exceptionHold hstep
        exact hheld (by omega) hsecond hu hwaits

end Run

/-- Two violations in a row, the second in the cycle in which the exception for the first one is
taken. -/
def takenAtOnce (t : ℕ) : GluePorts where
  rst := false
  assertionsViolated := if t ≤ 1 then 0x100 else 0
  exceptType := if t = 1 then 0x7 else 0
  sprDatPpc := 0x2000

theorem requested_iff_takenAtOnce : Requested takenAtOnce 0 ↔
    exceptionHandled (takenAtOnce 0).exceptType = false ∨
    ¬ (takenAtOnce (0 + 1)).Waits ∨ ¬ (takenAtOnce (0 + 2)).Waits ∨
    (takenAtOnce (0 + 1)).assertionViolated = true :=
  requested_iff rfl rfl

/-- The second violation is requested for one cycle and then dropped, though no exception is
taken for it. -/
theorem not_requested_takenAtOnce : (takenAtOnce 1).assertionViolated = true ∧
    gated takenAtOnce 2 = true ∧ gated takenAtOnce 3 = false ∧ ¬ Requested takenAtOnce 1 := by
  have hdropped : gated takenAtOnce 3 = false := by decide
  refine ⟨by decide, by decide, hdropped, fun h => ?_⟩
  have hwaits : ∀ r, 1 < r → r ≤ 3 → (takenAtOnce r).Waits := by
    intro r h₁ h₃
    rcases (by omega : r = 2 ∨ r = 3) with rfl | rfl <;> decide
  rw [h 3 (by decide) hwaits] at hdropped
  cases hdropped

end Glue

end WirePatch.Fabric
