import WirePatch.Fabric.Glue

/-!
# The record of a violation

Recovery reads what was violated from `sp_assertions_violated_reg` and where from EPPC. Two
sources write them: the baked-in checkers, which are combinational, and the fabric, whose vector
the driver latches and so delivers a cycle late. A pending exception holds both in reset, but the
latch keeps its vector for one more cycle (`or1200_cpu.v`, lines 349–386 and 980–1025;
`StitchFabric.java`, lines 382–391).

## Main definitions

* `Fabric.Recorder`: the registers of the glue and the latch of the driver.
* `Fabric.Recorder.lingering`: what the latch delivers in the next cycle.
* `Fabric.Recorder.Kept`: the record still tells of an earlier violation.

## Main results

* `Fabric.Recorder.kept_iff`: when the record is kept until the violation is handled.
-/

namespace WirePatch.Fabric

open Clocked

/-- The registers of the glue and of the latch. -/
structure Recorder where
  glue : Glue
  /-- `sp_assertions_violated_f` -/
  fabric : BitVec 32

/-- The signals the record depends on. -/
structure RecorderPorts where
  rst : Bool
  /-- What the baked-in checkers report if they are not in reset. -/
  bakedIn : BitVec 32
  /-- `assertionViolated_in` of the driver. -/
  fabricViolated : Bool
  /-- The vector the driver latches on a violation. -/
  fabricVector : BitVec 32
  exceptType : BitVec 4
  sprDatPpc : BitVec 32

/-- A request waits through the cycle: it is neither handled nor reset. -/
def RecorderPorts.Waits (x : RecorderPorts) : Prop :=
  x.rst = false ∧ exceptionHandled x.exceptType = false

namespace Recorder

section Step

variable (s : Recorder) (x : RecorderPorts)

/-- The request for an exception. -/
def gated : Bool := s.glue.exceptionGated x.exceptType

/-- The reset of the checkers and of the driver. -/
def heldInReset : Bool := s.gated x || x.rst

/-- `sp_assertions_violated`. -/
def violations : BitVec 32 := (if s.heldInReset x then 0 else x.bakedIn) ||| s.fabric

/-- The inputs of the glue. -/
def gluePorts : GluePorts := ⟨x.rst, s.violations x, x.exceptType, x.sprDatPpc⟩

/-- What the latch shows in the next cycle, unless it is in reset. -/
def lingering : BitVec 32 := if x.fabricViolated then x.fabricVector else s.fabric

def step : Recorder where
  glue := s.glue.step (s.gluePorts x)
  fabric := if s.heldInReset x then 0 else s.lingering x

end Step

def reset : Recorder := ⟨Glue.reset, 0⟩

/-- A request is held and the latch is empty: nothing can be recorded until it is handled. -/
def Quiet (s : Recorder) : Prop := s.glue.exceptionHold = true ∧ s.fabric = 0

variable {s : Recorder} {x : RecorderPorts}

/-- While the request waits, a quiet recorder stays so and keeps its record. -/
theorem step_of_quiet (hs : s.Quiet) (h : x.Waits) : (s.step x).Quiet ∧
    (s.step x).glue.assertionsViolatedReg = s.glue.assertionsViolatedReg ∧
    (s.step x).glue.eppc = s.glue.eppc := by
  have hgated : s.heldInReset x = true := by
    rw [heldInReset, gated, Glue.exceptionGated_of_exceptionHold hs.1 h.2, Bool.true_or]
  have hnone : s.violations x = 0 := by
    rw [violations, if_pos hgated, hs.2]
    rfl
  have hglue : (s.step x).glue = s.glue.step (s.gluePorts x) := rfl
  rw [Quiet, hglue, Glue.step_of_not_violated h.1 (by rw [gluePorts, hnone]; rfl)]
  refine ⟨⟨?_, ?_⟩, rfl, rfl⟩
  · simp [gluePorts, hs.1, h.2]
  · rw [step, if_pos hgated]

section Run

variable (x : ℕ → RecorderPorts) (t : ℕ)

/-- The registers in a cycle of a run that starts after a reset. -/
def regs : Recorder := run step reset x t

/-- The violations raised in a cycle of the run. -/
def raised : BitVec 32 := (regs x t).violations (x t)

/-- Cycle `u` still shows every violation raised at `t`, and the address of `t` in EPPC. -/
def Kept (t u : ℕ) : Prop :=
  raised x t &&& (regs x u).glue.assertionsViolatedReg = raised x t ∧
    (regs x u).glue.eppc = (x t).sprDatPpc

/-- The record is kept from the cycle after `t` up to the first later cycle in which the
exception is taken, not included, or up to a reset. -/
def KeptUntilHandled : Prop :=
  ∀ u, t < u → (∀ r, t < r → r ≤ u → (x r).Waits) → Kept x t u

/-- The same with the cycle included in which the exception is taken. -/
def KeptThroughHandling : Prop :=
  ∀ u, t < u → (∀ r, t < r → r < u → (x r).Waits) → (x u).rst = false → Kept x t u

/-- What the latch delivers after `t` does no harm: it is empty, or it repeats all violations
raised at `t` while the address stays. -/
def Harmless : Prop :=
  (regs x t).lingering (x t) = 0 ∨
    (raised x t &&& (regs x t).lingering (x t) = raised x t ∧
      (x (t + 1)).sprDatPpc = (x t).sprDatPpc)

variable {x t}

/-- A quiet recorder keeps its record as long as the request waits. -/
theorem kept_of_quiet {a u : ℕ} (hquiet : (regs x a).Quiet) (hau : a ≤ u)
    (h : ∀ r, a ≤ r → r < u → (x r).Waits) :
    (regs x u).Quiet ∧
      (regs x u).glue.assertionsViolatedReg = (regs x a).glue.assertionsViolatedReg ∧
      (regs x u).glue.eppc = (regs x a).glue.eppc := by
  induction u, hau using Nat.le_induction with
  | base => exact ⟨hquiet, rfl, rfl⟩
  | succ u hau ih =>
    obtain ⟨hq, hreg, heppc⟩ := ih fun r har hru => h r har (Nat.lt_succ_of_lt hru)
    obtain ⟨hq', hreg', heppc'⟩ := step_of_quiet hq (h u hau u.lt_succ_self)
    exact ⟨hq', hreg'.trans hreg, heppc'.trans heppc⟩

/-- A violation outside reset that finds nothing pending at `t`. -/
structure Raises (x : ℕ → RecorderPorts) (t : ℕ) : Prop where
  rst : (x t).rst = false
  raised : raised x t ≠ 0
  gated : (regs x t).gated (x t) = false
  handled : exceptionHandled (x t).exceptType = false

/-- The glue in the next cycle records the violation and holds the request. -/
theorem Raises.glue_succ (h : Raises x t) :
    (regs x (t + 1)).glue = ⟨Recorder.raised x t, true, true, (x t).sprDatPpc⟩ := by
  have hglue : (regs x (t + 1)).glue = _ :=
    Glue.step_of_violated (s := (regs x t).glue) (x := (regs x t).gluePorts (x t))
      h.rst (bne_iff_ne.mpr h.raised)
  rw [hglue, gluePorts, h.handled]
  rfl

/-- The latch was not yet in reset. -/
theorem Raises.fabric_succ (h : Raises x t) :
    (regs x (t + 1)).fabric = (regs x t).lingering (x t) := by
  have hheld : (regs x t).heldInReset (x t) = false := by
    rw [heldInReset, h.gated, h.rst]
    rfl
  have hfabric : (regs x (t + 1)).fabric =
      if (regs x t).heldInReset (x t) then 0 else (regs x t).lingering (x t) := rfl
  rw [hfabric, hheld]
  rfl

theorem Raises.kept_succ (h : Raises x t) : Kept x t (t + 1) := by
  rw [Kept, h.glue_succ]
  exact ⟨BitVec.and_self, rfl⟩

/-- Two cycles after the violation the recorder is quiet, and the record is what the latch left
of it. -/
theorem Raises.kept_two_iff (h : Raises x t) (h₁ : (x (t + 1)).Waits) :
    (regs x (t + 2)).Quiet ∧ (Kept x t (t + 2) ↔ Harmless x t) := by
  have hhold : (regs x (t + 1)).glue.exceptionHold = true := by rw [h.glue_succ]
  by_cases hnone : (regs x t).lingering (x t) = 0
  · have hquiet : (regs x (t + 1)).Quiet := ⟨hhold, h.fabric_succ.trans hnone⟩
    obtain ⟨hq, hreg, heppc⟩ := step_of_quiet hquiet h₁
    refine ⟨hq, iff_of_true ?_ (Or.inl hnone)⟩
    obtain ⟨hkreg, hkeppc⟩ := h.kept_succ
    exact ⟨(congrArg _ hreg).trans hkreg, heppc.trans hkeppc⟩
  · have hheld : (regs x (t + 1)).heldInReset (x (t + 1)) = true := by
      rw [heldInReset, Recorder.gated, Glue.exceptionGated_of_exceptionHold hhold h₁.2,
        Bool.true_or]
    have hviolations : (regs x (t + 1)).violations (x (t + 1)) =
        (regs x t).lingering (x t) := by
      rw [violations, if_pos hheld, h.fabric_succ]
      exact BitVec.zero_or
    have hglue : (regs x (t + 2)).glue =
        ⟨(regs x t).lingering (x t), true, true, (x (t + 1)).sprDatPpc⟩ := by
      have hstep : (regs x (t + 2)).glue = _ :=
        Glue.step_of_violated (s := (regs x (t + 1)).glue)
          (x := (regs x (t + 1)).gluePorts (x (t + 1))) h₁.1
          (bne_iff_ne.mpr (hviolations.trans_ne hnone))
      rw [hstep, gluePorts, hviolations, h₁.2]
      rfl
    refine ⟨⟨by rw [hglue], ?_⟩, ?_⟩
    · have hfabric : (regs x (t + 2)).fabric =
          if (regs x (t + 1)).heldInReset (x (t + 1)) then 0
          else (regs x (t + 1)).lingering (x (t + 1)) := rfl
      rw [hfabric, if_pos hheld]
    · rw [Kept, hglue, Harmless, or_iff_right hnone]

/-- From the second cycle on the record does not change as long as the request waits. -/
theorem Raises.kept_iff_harmless (h : Raises x t) {u : ℕ} (hu : t + 2 ≤ u)
    (hwaits : ∀ r, t < r → r < u → (x r).Waits) : Kept x t u ↔ Harmless x t := by
  obtain ⟨hquiet, htwo⟩ := h.kept_two_iff (hwaits (t + 1) t.lt_succ_self hu)
  obtain ⟨-, hreg, heppc⟩ := kept_of_quiet hquiet hu fun r hr hru => hwaits r (by omega) hru
  rw [← htwo, Kept, Kept, hreg, heppc]

/-- A violation is kept in the record until it is handled exactly when what the latch delivers
late does no harm, or the exception is taken or a reset comes before it can. -/
theorem kept_iff (h : Raises x t) :
    (KeptUntilHandled x t ↔
      ¬ (x (t + 1)).Waits ∨ ¬ (x (t + 2)).Waits ∨ Harmless x t) ∧
    (KeptThroughHandling x t ↔
      ¬ (x (t + 1)).Waits ∨ (x (t + 2)).rst = true ∨ Harmless x t) := by
  constructor
  · constructor
    · intro hkept
      by_contra hno
      simp only [not_or, not_not] at hno
      obtain ⟨h₁, h₂, hharmful⟩ := hno
      refine hharmful ((h.kept_two_iff h₁).2.mp (hkept (t + 2) (by omega) fun r htr hru => ?_))
      rcases (by omega : r = t + 1 ∨ r = t + 2) with rfl | rfl
      · exact h₁
      · exact h₂
    · intro hcond u htu hwaits
      rcases (by omega : u = t + 1 ∨ t + 2 ≤ u) with rfl | hu
      · exact h.kept_succ
      · rcases hcond with h₁ | h₂ | hharmless
        · exact absurd (hwaits (t + 1) t.lt_succ_self htu) h₁
        · exact absurd (hwaits (t + 2) (by omega) hu) h₂
        · exact (h.kept_iff_harmless hu fun r htr hru => hwaits r htr hru.le).mpr hharmless
  · constructor
    · intro hkept
      by_contra hno
      simp only [not_or, not_not, Bool.not_eq_true] at hno
      obtain ⟨h₁, hrst, hharmful⟩ := hno
      refine hharmful ((h.kept_two_iff h₁).2.mp
        (hkept (t + 2) (by omega) (fun r htr hru => ?_) hrst))
      obtain rfl : r = t + 1 := by omega
      exact h₁
    · intro hcond u htu hwaits hrst
      rcases (by omega : u = t + 1 ∨ t + 2 ≤ u) with rfl | hu
      · exact h.kept_succ
      · rcases hcond with h₁ | h₂ | hharmless
        · exact absurd (hwaits (t + 1) t.lt_succ_self hu) h₁
        · rcases hu.eq_or_lt with rfl | hlt
          · rw [hrst] at h₂
            cases h₂
          · rw [(hwaits (t + 2) (by omega) hlt).1] at h₂
            cases h₂
        · exact (h.kept_iff_harmless hu hwaits).mpr hharmless

end Run

/-- A baked-in checker fires in cycle 0, together with an assertion of the fabric whose vector
the latch delivers in cycle 1, and no exception is taken for a while. -/
def bothSources (vector : BitVec 32) (t : ℕ) : RecorderPorts where
  rst := false
  bakedIn := if t = 0 then 0x100 else 0
  fabricViolated := decide (t = 0)
  fabricVector := vector
  exceptType := 0
  sprDatPpc := if t = 0 then 0x2000 else 0x2004

theorem kept_iff_bothSources :
    (KeptUntilHandled (bothSources 0) 0 ↔
      ¬ (bothSources 0 (0 + 1)).Waits ∨ ¬ (bothSources 0 (0 + 2)).Waits ∨
        Harmless (bothSources 0) 0) ∧
    (KeptThroughHandling (bothSources 0) 0 ↔
      ¬ (bothSources 0 (0 + 1)).Waits ∨ (bothSources 0 (0 + 2)).rst = true ∨
        Harmless (bothSources 0) 0) :=
  kept_iff ⟨rfl, by decide, by decide, by decide⟩

/-- The late vector overwrites the record of the baked-in checker and the address. -/
theorem not_kept_bothSources : Raises (bothSources 1) 0 ∧ raised (bothSources 1) 0 = 0x100 ∧
    (regs (bothSources 1) 2).glue.assertionsViolatedReg = 1 ∧
    (regs (bothSources 1) 2).glue.eppc = 0x2004 ∧ ¬ KeptUntilHandled (bothSources 1) 0 := by
  have heppc : (regs (bothSources 1) 2).glue.eppc = 0x2004 := by decide
  refine ⟨⟨rfl, by decide, by decide, by decide⟩, by decide, by decide, heppc,
    fun h => ?_⟩
  have hkept := (h 2 (by decide) fun _ _ _ => ⟨rfl, rfl⟩).2
  rw [heppc] at hkept
  exact absurd hkept (by decide)

end Recorder

end WirePatch.Fabric
