import WirePatch.Fabric.BakedIn
import WirePatch.Foundations.BitMask

/-!
# The checkers of single instructions

Checkers 9, 15 and 16 verify something about every return from an exception, every move to the
supervision register and every write of a general register (`BakedInAssertions.v`, lines 343–366
and 508–588). They are built on the edge block, which looks at an event in the first of several
sampled cycles in a row only.

## Main definitions

* `Fabric.IsaState.hasTarget`: the instruction names a target register.
* `Fabric.BakedIn.ReportsMode`, `Fabric.BakedIn.ReportsRfe`, `Fabric.BakedIn.ReportsWrite`: what
  the three checkers are to report.
* `Fabric.BakedIn.ReportsEach`: they report it for every occurrence.

## Main results

* `Fabric.BakedIn.reportsEach_iff`: the traces on which they do.
-/

namespace WirePatch.Fabric

open Clocked

namespace IsaState

variable (a : IsaState)

/-- The major opcode of the instruction. -/
def major : BitVec 6 := a.exInsn.extractLsb' 26 6

/-- A move to the supervision register: the low 11 bits of the immediate are `OR1200_SPR_SR`. -/
def isMtsprSr : Bool := a.major == 0x30#6 && a.exInsn.extractLsb' 0 11 == 0x011#11

/-- The opcodes of the instructions that name a target register (`rfwb_op` in `or1200_ctrl.v`,
lines 938–1030): `l.movhi`, the loads, the arithmetic with an immediate, `l.mfspr`, the shifts by
an immediate, and the instructions on registers. -/
def targetOpcodes : List (BitVec 6) :=
  [0x06, 0x21, 0x22, 0x23, 0x24, 0x25, 0x26, 0x27, 0x28, 0x29, 0x2a, 0x2b, 0x2c, 0x2d, 0x2e, 0x38]

/-- The instruction names a target register. -/
def hasTarget : Bool := targetOpcodes.contains a.major

/-- The field of the target register. -/
def target : BitVec 5 := a.exInsn.extractLsb' 21 5

/-- `l.jal` or `l.jalr`. -/
def isLink : Bool := a.major == 0x01#6 || a.major == 0x12#6

/-- A return from an exception or a move to SR that does not set the mode it should. -/
def breaksMode : Bool :=
  (a.isRfe && a.srSm != a.esrSm) || (a.isMtsprSr && a.srSm != a.operandB.getLsbD 0)

/-- A return from an exception that does not restore SR. -/
def breaksSr : Bool := a.isRfe && a.sr != a.esr

/-- A write of a general register that is not the target of the instruction, other than the link
register. -/
def breaksTarget : Bool :=
  a.gprWrittenTo && (!a.hasTarget || a.target != a.gprWrittenAddr) &&
    !(a.isLink && a.gprWrittenAddr == 9#5)

/-- An opcode among those checker 16 takes for loads and arithmetic that names no target: `0x20`,
which is not assigned, or a comparison with an immediate. -/
def posesAsTarget : Bool := a.major == 0x20#6 || a.major == 0x2f#6

/-! ### The tests of the checkers -/

theorem isRfe_eq : a.isRfe = (a.opcode == 0x24000000#32) := by
  rw [isRfe, Bool.eq_iff_iff, beq_iff_eq, beq_iff_eq]
  exact (BitMask.and_field_eq_iff 26 (by decide) a.exInsn 0x09#6).symm

theorem opcode_eq_iff (op : BitVec 6) (word : BitVec 32) (hword : op.setWidth 32 <<< 26 = word) :
    a.opcode = word ↔ a.major = op := by
  rw [← hword]
  exact BitMask.and_field_eq_iff 26 (by decide) a.exInsn op

theorem isMtsprSr_eq : a.isMtsprSr =
    (a.exInsn &&& (0xFC000000#32 ||| 0x000007FF#32) == 0xC0000011#32) := by
  have hop := BitMask.and_field_eq_iff 26 (by decide) a.exInsn 0x30#6
  have hspr := BitMask.and_field_eq_iff 0 (by decide) a.exInsn 0x011#11
  rw [isMtsprSr, major, Bool.eq_iff_iff, Bool.and_eq_true, beq_iff_eq, beq_iff_eq, beq_iff_eq,
    ← hop, ← hspr]
  constructor
  · rintro ⟨h₁, h₂⟩
    exact BitVec.and_or_distrib_left.trans (congrArg₂ (· ||| ·) h₁ h₂)
  · intro h
    constructor
    · exact BitMask.and_eq_and_of_subset (y := 0xC0000011#32) h rfl
    · exact BitMask.and_eq_and_of_subset (y := 0xC0000011#32) h rfl

/-- The test of checker 16 for instructions without a target, on the opcode. -/
theorem not_hasTarget_iff :
    (a.exInsn &&& 0xC0000000#32 ≠ 0x80000000#32 ∧ a.opcode ≠ 0x18000000#32 ∧
      a.opcode ≠ 0xE0000000#32) ↔ a.hasTarget = false ∧ a.posesAsTarget = false := by
  have hfield : a.major.extractLsb' 4 2 = a.exInsn.extractLsb' 30 2 := by
    refine BitVec.eq_of_getLsbD_eq fun i hi => ?_
    have hlt : 4 + i < 6 := Nat.add_lt_add_left hi 4
    simp [major, hi, hlt, ← Nat.add_assoc]
  have hhigh : a.exInsn &&& 0xC0000000#32 = 0x80000000#32 ↔ a.major.extractLsb' 4 2 = 0b10#2 := by
    rw [hfield]
    exact BitMask.and_field_eq_iff 30 (by decide) a.exInsn 0b10#2
  rw [ne_eq, ne_eq, ne_eq, hhigh, a.opcode_eq_iff 0x06 0x18000000#32 rfl,
    a.opcode_eq_iff 0x38 0xE0000000#32 rfl, hasTarget, posesAsTarget]
  generalize a.major = op
  revert op
  decide

/-- The test of checker 16 for the target. -/
theorem target_eq_iff :
    a.exInsn &&& 0x03E00000#32 = 0#6 ++ a.gprWrittenAddr ++ 0#21 ↔ a.target = a.gprWrittenAddr := by
  have hshift : 0#6 ++ a.gprWrittenAddr ++ 0#21 = a.gprWrittenAddr.setWidth 32 <<< 21 := by
    generalize a.gprWrittenAddr = addr
    revert addr
    decide
  rw [hshift]
  exact BitMask.and_field_eq_iff 21 (by decide) a.exInsn a.gprWrittenAddr

/-- The tests of checker 16 for the link register. -/
theorem isLink_eq_false_iff :
    a.isLink = false ↔ a.opcode ≠ 0x04000000#32 ∧ a.opcode ≠ 0x48000000#32 := by
  rw [ne_eq, ne_eq, a.opcode_eq_iff 0x01 0x04000000#32 rfl,
    a.opcode_eq_iff 0x12 0x48000000#32 rfl, isLink, Bool.or_eq_false_iff, beq_eq_false_iff_ne,
    beq_eq_false_iff_ne]
  exact Iff.rfl

end IsaState

namespace BakedIn

variable (x : ℕ → BakedInPorts) (p u : ℕ)

/-- Bit 9 reports a return from an exception or a move to SR that sets the wrong mode. -/
def ReportsMode : Prop := (x u).isa.breaksMode = true → (fired x u).getLsbD 9 = true

/-- Bit 15 reports a return from an exception that does not restore SR. -/
def ReportsRfe : Prop := (x u).isa.breaksSr = true → (fired x u).getLsbD 15 = true

/-- Bit 16 reports a write of a general register that is not the target. -/
def ReportsWrite : Prop := (x u).isa.breaksTarget = true → (fired x u).getLsbD 16 = true

/-- The same kind of instruction was there in the earlier cycle. -/
def RepeatsMode : Prop :=
  ((x u).isa.isRfe = true ∧ (x p).isa.isRfe = true) ∨
    ((x u).isa.isMtsprSr = true ∧ (x p).isa.isMtsprSr = true)

variable {x p u}

theorem fired_9_eq (hp : LastActive (control x) p u) (hu : (x u).control.IsActive) :
    (fired x u).getLsbD 9 =
      ((!(x p).isa.isRfe && (x u).isa.isRfe && (x u).isa.srSm != (x u).isa.esrSm) ||
        (!(x p).isa.isMtsprSr && (x u).isa.isMtsprSr &&
          (x u).isa.srSm != (x u).isa.operandB.getLsbD 0)) := by
  rw [fired, getLsbD_checkersFired_9, checker_9, edge_of_lastActive hp hu (by decide),
    edge_of_lastActive hp hu (by decide)]
  simp only [EdgeBlock.ports, edgePorts, IsaState.isRfe_eq, IsaState.isMtsprSr_eq]
  rfl

theorem fired_15_eq (hp : LastActive (control x) p u) (hu : (x u).control.IsActive) :
    (fired x u).getLsbD 15 =
      ((!(x p).isa.isRfe && (x u).isa.isRfe && (x u).isa.sr != (x u).isa.esr) ||
        ((x p).isa.isRfe && (x u).isa.exPc != (x u).isa.epcr && !(x u).isa.atVector)) := by
  rw [fired, getLsbD_checkersFired_15, checker_15, edge_of_lastActive hp hu (by decide),
    nextOut_of_lastActive hp hu, always_of_isActive hu]
  simp only [EdgeBlock.ports, edgePorts, NextBlock.ports, nextPorts, IsaState.isRfe_eq]
  rfl

/-- Checker 16 fires for the first write in a row that misses the target, unless the opcode only
poses as one with a target. -/
theorem fired_16_eq_true_iff {t : ℕ} (hp : (x t).control.rst = false)
    (ht : (x (t + 1)).control.rst = false) : (fired x (t + 1)).getLsbD 16 = true ↔
      (x t).isa.gprWrittenTo = false ∧ (x (t + 1)).isa.breaksTarget = true ∧
        ((x (t + 1)).isa.posesAsTarget = true →
          (x (t + 1)).isa.target ≠ (x (t + 1)).isa.gprWrittenAddr) := by
  have hfired : (fired x (t + 1)).getLsbD 16 = true ↔ (x t).isa.gprWrittenTo = false ∧
      (x (t + 1)).isa.gprWrittenTo = true ∧
      (((x (t + 1)).isa.exInsn &&& 0xC0000000#32 ≠ 0x80000000#32 ∧
        (x (t + 1)).isa.opcode ≠ 0x18000000#32 ∧ (x (t + 1)).isa.opcode ≠ 0xE0000000#32) ∨
        (x (t + 1)).isa.exInsn &&& 0x03E00000#32 ≠
          0#6 ++ (x (t + 1)).isa.gprWrittenAddr ++ 0#21) ∧
      ((x (t + 1)).isa.gprWrittenAddr ≠ 9#5 ∨
        ((x (t + 1)).isa.opcode ≠ 0x04000000#32 ∧ (x (t + 1)).isa.opcode ≠ 0x48000000#32)) := by
    rw [fired, getLsbD_checkersFired_16, checker_16, checker_16_6, checker_16_7,
      edge_of_succ hp ht (by decide), edge_of_succ hp ht (by decide),
      edge_of_succ hp ht (by decide), edge_of_succ hp ht (by decide),
      edge_of_succ hp ht (by decide)]
    simp only [EdgeBlock.ports, edgePorts, alwaysWith, ovlAlways, ht]
    grind
  rw [hfired, IsaState.not_hasTarget_iff, ne_eq _ (_ ++ _ ++ _), IsaState.target_eq_iff,
    ← IsaState.isLink_eq_false_iff, IsaState.breaksTarget]
  grind

/-! ### The reported occurrences -/

/-- A return from an exception is not a move to SR. -/
theorem isMtsprSr_eq_false_of_isRfe {a : IsaState} (h : a.isRfe = true) : a.isMtsprSr = false := by
  have hop : a.major = 0x09#6 := beq_iff_eq.mp h
  rw [IsaState.isMtsprSr, hop]
  rfl

theorem reportsMode_iff (hp : LastActive (control x) p u) (hu : (x u).control.IsActive) :
    ReportsMode x u ↔ ((x u).isa.breaksMode = true → ¬ RepeatsMode x p u) := by
  have hdisjoint := isMtsprSr_eq_false_of_isRfe (a := (x u).isa)
  rw [ReportsMode, RepeatsMode, fired_9_eq hp hu, IsaState.breaksMode]
  grind

theorem reportsRfe_iff (hp : LastActive (control x) p u) (hu : (x u).control.IsActive) :
    ReportsRfe x u ↔ ((x u).isa.breaksSr = true → (x p).isa.isRfe = true →
      (x u).isa.exPc ≠ (x u).isa.epcr ∧ (x u).isa.atVector = false) := by
  rw [ReportsRfe, fired_15_eq hp hu, IsaState.breaksSr]
  grind

theorem reportsWrite_iff {t : ℕ} (hp : (x t).control.rst = false)
    (ht : (x (t + 1)).control.rst = false) : ReportsWrite x (t + 1) ↔
      ((x (t + 1)).isa.breaksTarget = true → (x t).isa.gprWrittenTo = false ∧
        ((x (t + 1)).isa.posesAsTarget = true →
          (x (t + 1)).isa.target ≠ (x (t + 1)).isa.gprWrittenAddr)) := by
  rw [ReportsWrite, fired_16_eq_true_iff hp ht]
  exact forall_congr' fun h => by rw [h, eq_self, true_and]

/-- The three checkers report every occurrence after the first sampled cycle since reset. -/
def ReportsEach (x : ℕ → BakedInPorts) : Prop :=
  (∀ p u, LastActive (control x) p u → (x u).control.IsActive → ReportsMode x u ∧ ReportsRfe x u) ∧
    ∀ t, (x t).control.rst = false → (x (t + 1)).control.rst = false → ReportsWrite x (t + 1)

/-- No violation is in the shadow of an occurrence in the sampled cycle before, other than one
that the next block of checker 15 sees, and no wrong write hides behind an opcode that poses as
one with a target. -/
def Unshadowed (x : ℕ → BakedInPorts) : Prop :=
  (∀ p u, LastActive (control x) p u → (x u).control.IsActive →
    ((x u).isa.breaksMode = true → ¬ RepeatsMode x p u) ∧
    ((x u).isa.breaksSr = true → (x p).isa.isRfe = true →
      (x u).isa.exPc ≠ (x u).isa.epcr ∧ (x u).isa.atVector = false)) ∧
    ∀ t, (x t).control.rst = false → (x (t + 1)).control.rst = false →
      (x (t + 1)).isa.breaksTarget = true → (x t).isa.gprWrittenTo = false ∧
        ((x (t + 1)).isa.posesAsTarget = true →
          (x (t + 1)).isa.target ≠ (x (t + 1)).isa.gprWrittenAddr)

/-- The occurrences the checkers report are those not shadowed by the sampled cycle before. -/
theorem reportsEach_iff : ReportsEach x ↔ Unshadowed x := by
  refine and_congr ?_ ?_
  · refine forall₄_congr fun p u hp hu => ?_
    exact and_congr (reportsMode_iff hp hu) (reportsRfe_iff hp hu)
  · exact forall₃_congr fun t hp ht => reportsWrite_iff hp ht

/-- Two writes in a row, in cycles 1 and 2, by an instruction that names no target. -/
def secondWrite : ℕ → BakedInPorts := fun t =>
  ⟨⟨false, true⟩, { (default : IsaState) with
    exInsn := 0x15000000#32, gprWrittenTo := decide (t = 1 ∨ t = 2), gprWrittenAddr := 3#5 }⟩

/-- Checker 16 reports the first of two wrong writes only. -/
theorem not_reportsEach_secondWrite : (fired secondWrite 1).getLsbD 16 = true ∧
    (secondWrite 2).isa.breaksTarget = true ∧ (fired secondWrite 2).getLsbD 16 = false ∧
    ¬ ReportsEach secondWrite := by
  have hbreaks : (secondWrite 2).isa.breaksTarget = true := by decide
  have hsilent : (fired secondWrite 2).getLsbD 16 = false := by decide +kernel
  refine ⟨by decide +kernel, hbreaks, hsilent, fun h => ?_⟩
  exact Bool.false_ne_true (hsilent.symm.trans (h.2 1 rfl rfl hbreaks))

end BakedIn

end WirePatch.Fabric
