import WirePatch.Fabric.BakedIn

/-!
# The privilege-escalation checker

Checker 8 watches the supervisor mode of the processor, bit SM of its supervision register: the
mode is to be entered through an exception vector only (`BakedInAssertions.v`, lines 318–341).
Stalls do not blind it, because both of its blocks compare an enabled cycle with the enabled
cycle before.

## Main definitions

* `Fabric.BakedIn.SmRises`: the processor has entered supervisor mode.

## Main results

* `Fabric.BakedIn.escalation_detected`: between user mode and supervisor mode there is an entry
  through a vector or a report, and there are no other reports.
-/

namespace WirePatch.Fabric.BakedIn

open Clocked

variable (x : ℕ → BakedInPorts)

/-- `u` is an enabled cycle in supervisor mode, and the enabled cycle before it was in user
mode. -/
def SmRises (u : ℕ) : Prop :=
  (x u).control.IsActive ∧ (x u).isa.srSm = true ∧
    ∃ p, LastActive (control x) p u ∧ (x p).isa.srSm = false

/-- Checker 8 fires where supervisor mode is entered outside the exception vectors. -/
theorem checker_8_eq_true_iff (u : ℕ) : (regs x u).checker_8 (x u) = true ↔
    SmRises x u ∧ (x u).isa.atVector = false := by
  rw [checker_8, Bool.and_eq_true, edge_eq_true_iff x u (by decide),
    edge_eq_true_iff x u (by decide)]
  constructor
  · rintro ⟨-, hact, hsm, hvec, hprev⟩
    exact ⟨⟨hact, hsm, hprev⟩, hvec⟩
  · rintro ⟨⟨hact, hsm, hprev⟩, hvec⟩
    exact ⟨⟨hact, hsm, hact.1, hprev⟩, hact, hsm, hvec, hprev⟩

/-- Between an enabled cycle in user mode and a later one in supervisor mode, without a reset
in between, the mode rises in some enabled cycle that is at an exception vector or reported by
bit 8. The bit reports nothing but rises outside the vectors. -/
theorem escalation_detected :
    (∀ t₀ t₁, t₀ < t₁ → (x t₀).control.IsActive → (x t₁).control.IsActive →
      (∀ r, t₀ < r → r < t₁ → (x r).control.rst = false) →
      (x t₀).isa.srSm = false → (x t₁).isa.srSm = true →
      ∃ u, t₀ < u ∧ u ≤ t₁ ∧ SmRises x u ∧
        ((x u).isa.atVector = true ∨ (fired x u).getLsbD 8 = true)) ∧
    (∀ u, (fired x u).getLsbD 8 = true → SmRises x u ∧ (x u).isa.atVector = false) := by
  refine ⟨fun t₀ t₁ hlt h₀ h₁ hrst hlow hhigh => ?_, fun u hfired => ?_⟩
  · obtain ⟨u, p, hu₀, hu₁, -, hact, hp, hpLow, huHigh⟩ :=
      exists_rise (c := control x) (f := fun r => (x r).isa.srSm) h₀ h₁ hlt hrst hlow hhigh
    have hrises : SmRises x u := ⟨hact, huHigh, p, hp, hpLow⟩
    refine ⟨u, hu₀, hu₁, hrises, ?_⟩
    cases hvec : (x u).isa.atVector with
    | true => exact Or.inl rfl
    | false =>
      refine Or.inr ?_
      rw [fired, getLsbD_checkersFired_8]
      exact (checker_8_eq_true_iff x u).mpr ⟨hrises, hvec⟩
  · rw [fired, getLsbD_checkersFired_8] at hfired
    exact (checker_8_eq_true_iff x u).mp hfired

/-- A program at address 0x2000 is in supervisor mode from cycle 2 on. Cycle 1 is stalled. -/
def escalated (t : ℕ) : BakedInPorts where
  control := ⟨false, t ≠ 1⟩
  isa := { (default : IsaState) with exPc := 0x2000, sr := if t < 2 then 0x8000 else 0x8001 }

theorem escalation_detected_escalated : ∃ u, 0 < u ∧ u ≤ 2 ∧ SmRises escalated u ∧
    ((escalated u).isa.atVector = true ∨ (fired escalated u).getLsbD 8 = true) :=
  (escalation_detected escalated).1 0 2 (by decide) ⟨rfl, rfl⟩ ⟨rfl, rfl⟩ (fun _ _ _ => rfl) rfl rfl

end WirePatch.Fabric.BakedIn
