import WirePatch.Fabric.BakedIn
import Mathlib.Data.Nat.Dist

/-!
# The control-flow checker

Checker 13 is there to report a pc that leaves the program without a jump, a branch, a return
or an exception (`BakedInAssertions.v`, lines 368–469). It keeps the history of two enabled
cycles, the second for the delay slot. Its last block, `opw_13_6`, is a proposition whose
enable acts inverted (`assert_proposition_logic.v`, line 7), and its first one compares with
lower limit 0: either alone silences the conjunction.

## Main definitions

* `Fabric.BakedIn.Hijack`: the pc has moved although nothing allowed it to.

## Main results

* `Fabric.BakedIn.checker_13_eq_false`: the checker never fires.
* `Fabric.BakedIn.reportsHijack_iff`: it is right exactly in the cycles without a hijack.
-/

namespace WirePatch.Fabric

open Clocked

/-- A jump, a register jump or a conditional branch, after whose delay slot the pc may move. -/
def IsaState.isTransfer (a : IsaState) : Bool := a.isJump || a.isJumpRegister || a.isBranch

namespace BakedIn

variable (x : ℕ → BakedInPorts) (q p u : ℕ)

/-- The pc at `u` is more than 4 away from the pc at `p`, no transfer at `p` or at `q` accounts
for it, no return from an exception at `p` or at `u`, and `u` is not at an exception vector. -/
def Hijack : Prop :=
  4 < Nat.dist (x p).isa.exPc.toNat (x u).isa.exPc.toNat ∧
    (x p).isa.isTransfer = false ∧ (x q).isa.isTransfer = false ∧
    (x p).isa.isRfe = false ∧ (x u).isa.isRfe = false ∧ (x u).isa.atVector = false

instance : Decidable (Hijack x q p u) :=
  inferInstanceAs (Decidable (_ ∧ _ ∧ _ ∧ _ ∧ _ ∧ _))

/-- Bit 13 tells whether the enabled cycle `u` is a hijack, where `p` and `q` are the two
enabled cycles before. -/
def ReportsHijack : Prop := (fired x u).getLsbD 13 = true ↔ Hijack x q p u

/-- Checker 13 never fires, whatever its inputs are. -/
theorem checker_13_eq_false (s : BakedIn) (y : BakedInPorts) : s.checker_13 y = false := by
  rw [checker_13, checker_13_1_eq_false]
  rfl

/-- The checker tells the truth exactly when there is nothing to tell. -/
theorem reportsHijack_iff : ReportsHijack x q p u ↔ ¬ Hijack x q p u := by
  have hfired : (fired x u).getLsbD 13 = false := by
    rw [fired, getLsbD_checkersFired_13, checker_13_eq_false]
  rw [ReportsHijack, hfired]
  exact ⟨fun h hh => Bool.false_ne_true (h.mpr hh),
    fun h => ⟨fun hf => absurd hf Bool.false_ne_true, fun hh => absurd hh h⟩⟩

/-- Two instructions in sequence and then a pc 4 KiB further on, all three without a transfer. -/
def hijacked (t : ℕ) : BakedInPorts where
  control := ⟨false, true⟩
  isa := { (default : IsaState) with
    exPc := if t = 0 then 0x2000 else if t = 1 then 0x2004 else 0x3000
    exInsn := 0x15000000 }

/-- The checker is silent at a plain hijack. -/
theorem not_reportsHijack_hijacked : LastActive (control hijacked) 0 1 ∧
    LastActive (control hijacked) 1 2 ∧ (hijacked 2).control.IsActive ∧
    ¬ ReportsHijack hijacked 0 1 2 := by
  refine ⟨by decide, by decide, by decide, fun h => ?_⟩
  have hhijack : Hijack hijacked 0 1 2 := by decide
  have hfired : (fired hijacked 2).getLsbD 13 = false := by
    rw [fired, getLsbD_checkersFired_13, checker_13_eq_false]
  exact Bool.false_ne_true (hfired.symm.trans (h.mpr hhijack))

end BakedIn

end WirePatch.Fabric
