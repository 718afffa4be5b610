import WirePatch.Fabric.BakedIn

/-!
# The exception-register checker

Checker 3 verifies what an exception saves, in the first enabled cycle at an exception vector:
the return address in EPCR, which depends on the delay slot, and the mode in ESR
(`BakedInAssertions.v`, lines 141–281).

## Main definitions

* `Fabric.BakedIn.EntersVector`: an enabled cycle at a vector, after one that was not.
* `Fabric.IsaState.EpcrAllowed`: EPCR holds one of the allowed return addresses.

## Main results

* `Fabric.BakedIn.checker_3_of_entersVector`: what the checker computes at such an entry.
* `Fabric.BakedIn.reportsEpcr_iff`: when a wrong EPCR is reported.
* `Fabric.BakedIn.reportsEsr_iff`: when a rise of the saved mode is reported.
-/

namespace WirePatch.Fabric

open Clocked

/-- EPCR is the previous pc under DSX; without it, the address after the previous pc or, at the
vector of the instruction TLB miss, the next pc. -/
def IsaState.EpcrAllowed (a : IsaState) : Prop :=
  (a.srDsx = true ∧ a.epcr = a.sprDatPpc) ∨
    (a.srDsx = false ∧ (a.epcr = a.sprDatPpc + 4#32 ∨
      (a.exPc = 0xA00#32 ∧ a.epcr = a.sprDatNpc)))

instance (a : IsaState) : Decidable a.EpcrAllowed := inferInstanceAs (Decidable (_ ∨ _))

namespace BakedIn

variable (x : ℕ → BakedInPorts) (p u : ℕ)

/-- `u` is an enabled cycle at an exception vector, and `p`, the enabled cycle before it since
the last reset, is not at one. -/
def EntersVector : Prop :=
  LastActive (control x) p u ∧ (x u).control.IsActive ∧ (x p).isa.atVector = false ∧
    (x u).isa.atVector = true

instance : Decidable (EntersVector x p u) := inferInstanceAs (Decidable (_ ∧ _))

/-- A wrong EPCR at `u` makes bit 3 fire there. -/
def ReportsEpcr : Prop := ¬ (x u).isa.EpcrAllowed → (fired x u).getLsbD 3 = true

/-- If the processor was in user mode at `p` and ESR says supervisor mode at `u`, bit 3 fires
at `u`. -/
def ReportsEsr : Prop :=
  (x p).isa.srSm = false → (x u).isa.esrSm = true → (fired x u).getLsbD 3 = true

variable {x p u}

theorem EntersVector.atItlbMiss_eq_false (h : EntersVector x p u) :
    (x p).isa.atItlbMiss = false := by
  cases hp : (x p).isa.atItlbMiss with
  | false => rfl
  | true =>
    have hvec := h.2.2.1
    rw [IsaState.atVector_of_atItlbMiss hp] at hvec
    cases hvec

/-- The earlier mode reaches checker 3 only from the cycle just before: its register follows
every clock edge, enabled or not. -/
theorem checker_3_3b_1_regs (h : LastActive (control x) p u) :
    (regs x u).checker_3_3b_1 = (decide (p + 1 = u) && !(x p).isa.srSm) := by
  obtain ⟨r, rfl⟩ : ∃ r, u = r + 1 := Nat.exists_eq_add_one.mpr (Nat.zero_lt_of_lt h.lt)
  have hstep : (regs x (r + 1)).checker_3_3b_1 =
      if (x r).control.rst then false else checker_3_3b (x r) := rfl
  rw [hstep]
  rcases Nat.lt_succ_iff_lt_or_eq.mp h.lt with hlt | rfl
  · have hidle : (x r).control.IsIdle := h.isIdle hlt r.lt_succ_self
    simp [checker_3_3b, always, ovlAlways, hidle.1, hidle.2, Nat.ne_of_lt hlt]
  · have hact : (x p).control.IsActive := h.isActive
    simp [checker_3_3b, always_of_isActive hact, hact.1]

/-- Checker 3 in the first enabled cycle at a vector: a wrong EEAR or a wrong ESR fires it, and
so does an EPCR that is wrong under DSX, or wrong without it at the vector of the instruction
TLB miss. -/
theorem checker_3_of_entersVector (h : EntersVector x p u) :
    (regs x u).checker_3 (x u) =
      ((x u).isa.atItlbMiss && (x u).isa.eear != (x u).isa.sprDatNpc ||
        (decide (p + 1 = u) && !(x p).isa.srSm && (x u).isa.esrSm) ||
        (((x u).isa.srDsx || ((x u).isa.epcr != (x u).isa.sprDatPpc + 4#32 &&
            ((x u).isa.atItlbMiss && (x u).isa.epcr != (x u).isa.sprDatNpc))) &&
          (!(x u).isa.srDsx || (x u).isa.epcr != (x u).isa.sprDatPpc))) := by
  obtain ⟨hp, hu, hvp, hvu⟩ := h
  have hmiss : (x p).isa.atItlbMiss = false := EntersVector.atItlbMiss_eq_false ⟨hp, hu, hvp, hvu⟩
  simp [checker_3, checker_3_1, checker_3_2, checker_3_3a, checker_3_3c, checker_3_4, checker_3_5,
    checker_3_5b, checker_3_6, checker_3_7, always_of_isActive hu, checker_3_3b_1_regs hp,
    edge_of_lastActive hp hu, EdgeBlock.ports, edgePorts, hmiss, hvp, hvu, bne]

/-- Bit 3 in the first enabled cycle at a vector, as a condition on the trace. -/
theorem fired_3_iff (h : EntersVector x p u) : (fired x u).getLsbD 3 = true ↔
    ((x u).isa.exPc = 0xA00#32 ∧ (x u).isa.eear ≠ (x u).isa.sprDatNpc) ∨
    (p + 1 = u ∧ (x p).isa.srSm = false ∧ (x u).isa.esrSm = true) ∨
    ((x u).isa.srDsx = true ∧ (x u).isa.epcr ≠ (x u).isa.sprDatPpc) ∨
    ((x u).isa.srDsx = false ∧ (x u).isa.exPc = 0xA00#32 ∧
      (x u).isa.epcr ≠ (x u).isa.sprDatPpc + 4#32 ∧ (x u).isa.epcr ≠ (x u).isa.sprDatNpc) := by
  rw [fired, getLsbD_checkersFired_3, checker_3_of_entersVector h, IsaState.atItlbMiss]
  cases (x u).isa.srDsx <;>
    simp only [Bool.or_eq_true, Bool.and_eq_true, beq_iff_eq, bne_iff_ne, decide_eq_true_eq,
      Bool.not_eq_true', Bool.not_true, Bool.not_false, Bool.false_eq_true, false_and, false_or,
      true_and, true_or, or_false, and_assoc, and_true, Bool.true_eq_false, and_left_comm,
      or_assoc]

/-! ### EPCR -/

/-- A wrong EPCR is reported under DSX and at the vector of the instruction TLB miss. At the
other vectors without DSX it goes unreported, unless ESR gives the entry away. -/
theorem reportsEpcr_iff (h : EntersVector x p u) : ReportsEpcr x u ↔
    (x u).isa.srDsx = true ∨ (x u).isa.exPc = 0xA00#32 ∨
      (x u).isa.epcr = (x u).isa.sprDatPpc + 4#32 ∨
      (p + 1 = u ∧ (x p).isa.srSm = false ∧ (x u).isa.esrSm = true) := by
  unfold ReportsEpcr IsaState.EpcrAllowed
  rw [fired_3_iff h]
  cases hdsx : (x u).isa.srDsx with
  | true =>
    refine iff_of_true (fun hwrong => Or.inr (Or.inr (Or.inl ⟨rfl, ?_⟩))) (Or.inl rfl)
    exact fun he => hwrong (Or.inl ⟨rfl, he⟩)
  | false =>
    by_cases hmiss : (x u).isa.exPc = 0xA00#32
    · refine iff_of_true (fun hwrong => Or.inr (Or.inr (Or.inr ⟨rfl, hmiss, ?_, ?_⟩)))
        (Or.inr (Or.inl hmiss))
      · exact fun he => hwrong (Or.inr ⟨rfl, Or.inl he⟩)
      · exact fun he => hwrong (Or.inr ⟨rfl, Or.inr ⟨hmiss, he⟩⟩)
    · simp only [hmiss, Bool.false_eq_true, false_and, false_or, or_false, true_and, and_false]
      tauto

/-- An illegal-instruction exception outside a delay slot whose EPCR is the address of the
exception handler itself. -/
def wrongEpcr (t : ℕ) : BakedInPorts where
  control := ⟨false, true⟩
  isa := { (default : IsaState) with
    exPc := if t = 0 then 0x2000 else 0x700
    sr := 1
    sprDatPpc := 0x2000
    sprDatNpc := 0x704
    epcr := 0x700 }

theorem reportsEpcr_iff_wrongEpcr : ReportsEpcr wrongEpcr 1 ↔
    (wrongEpcr 1).isa.srDsx = true ∨ (wrongEpcr 1).isa.exPc = 0xA00#32 ∨
      (wrongEpcr 1).isa.epcr = (wrongEpcr 1).isa.sprDatPpc + 4#32 ∨
      (0 + 1 = 1 ∧ (wrongEpcr 0).isa.srSm = false ∧ (wrongEpcr 1).isa.esrSm = true) :=
  reportsEpcr_iff (by decide)

/-- The wrong EPCR of the illegal-instruction exception is not reported. -/
theorem not_reportsEpcr_wrongEpcr : EntersVector wrongEpcr 0 1 ∧ ¬ ReportsEpcr wrongEpcr 1 := by
  have hwrong : ¬ (wrongEpcr 1).isa.EpcrAllowed := by decide
  have hsilent : (fired wrongEpcr 1).getLsbD 3 = false := by decide
  exact ⟨by decide, fun h => Bool.false_ne_true (hsilent.symm.trans (h hwrong))⟩

/-! ### ESR -/

/-- A rise of the saved mode is reported when no stall separates the entry from the last
instruction, and otherwise only if another register is reported in the same cycle. -/
theorem reportsEsr_iff (h : EntersVector x p u) (hp : (x p).isa.srSm = false)
    (hu : (x u).isa.esrSm = true) : ReportsEsr x p u ↔
    p + 1 = u ∨
    ((x u).isa.exPc = 0xA00#32 ∧ (x u).isa.eear ≠ (x u).isa.sprDatNpc) ∨
    ((x u).isa.srDsx = true ∧ (x u).isa.epcr ≠ (x u).isa.sprDatPpc) ∨
    ((x u).isa.srDsx = false ∧ (x u).isa.exPc = 0xA00#32 ∧
      (x u).isa.epcr ≠ (x u).isa.sprDatPpc + 4#32 ∧ (x u).isa.epcr ≠ (x u).isa.sprDatNpc) := by
  unfold ReportsEsr
  rw [fired_3_iff h]
  simp only [hp, hu, forall_const, and_true]
  exact or_left_comm

/-- A system call from user mode whose ESR claims supervisor mode, `stall` disabled cycles after
the call. -/
def raisedEsr (stall t : ℕ) : BakedInPorts where
  control := ⟨false, decide (t = 0) || decide (stall < t)⟩
  isa := { (default : IsaState) with
    exPc := if t = 0 then 0x2000 else 0xC00
    sr := if t = 0 then 0 else 1
    esr := 1
    sprDatPpc := 0x2000
    sprDatNpc := 0xC04
    epcr := 0x2004 }

theorem reportsEsr_iff_raisedEsr : ReportsEsr (raisedEsr 0) 0 1 ↔
    0 + 1 = 1 ∨
    ((raisedEsr 0 1).isa.exPc = 0xA00#32 ∧
      (raisedEsr 0 1).isa.eear ≠ (raisedEsr 0 1).isa.sprDatNpc) ∨
    ((raisedEsr 0 1).isa.srDsx = true ∧
      (raisedEsr 0 1).isa.epcr ≠ (raisedEsr 0 1).isa.sprDatPpc) ∨
    ((raisedEsr 0 1).isa.srDsx = false ∧ (raisedEsr 0 1).isa.exPc = 0xA00#32 ∧
      (raisedEsr 0 1).isa.epcr ≠ (raisedEsr 0 1).isa.sprDatPpc + 4#32 ∧
      (raisedEsr 0 1).isa.epcr ≠ (raisedEsr 0 1).isa.sprDatNpc) :=
  reportsEsr_iff (by decide) (by decide) (by decide)

/-- One stalled cycle before the vector hides the raised ESR. -/
theorem not_reportsEsr_raisedEsr :
    EntersVector (raisedEsr 1) 0 2 ∧ ¬ ReportsEsr (raisedEsr 1) 0 2 := by
  have hsilent : (fired (raisedEsr 1) 2).getLsbD 3 = false := by decide
  exact ⟨by decide, fun h => Bool.false_ne_true (hsilent.symm.trans (h (by decide) (by decide)))⟩

end BakedIn

end WirePatch.Fabric
