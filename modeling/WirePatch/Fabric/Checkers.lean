import Mathlib.Tactic.IntervalCases
import WirePatch.Fabric.ControlFlow
import WirePatch.Fabric.Escalation

/-!
# What the baked-in checkers report

The output of `BakedInAssertions.v` on any trace, as conditions on what the trace shows in the
present cycle and in the enabled cycle before. The registers of the module do not occur in them.

## Main definitions

* `Fabric.BakedIn.Rises`, `Fabric.BakedIn.Follows`, `Fabric.BakedIn.RisesAtOnce`: how the checkers
  look back.
* `Fabric.BakedIn.Reports`: the condition of every bit of the output.

## Main results

* `Fabric.BakedIn.getLsbD_fired_iff`: the output of the module is exactly this.
-/

namespace WirePatch.Fabric

open Clocked

/-! ### The events -/

namespace IsaState

variable (a : IsaState)

/-- `(ex_insn & 32'hF0000000) == 32'h80000000`: a load. -/
def isLoad : Bool := a.exInsn &&& 0xF0000000#32 == 0x80000000#32

/-- The opcode of `l.rfe`, as checkers 9 and 15 test it. -/
def isRfeOpcode : Bool := a.opcode == 0x24000000#32

/-- `l.mtspr` to the supervision register. -/
def writesSr : Bool := a.exInsn &&& (0xFC000000#32 ||| 0x000007FF#32) == 0xC0000011#32

def isSys : Bool := a.exInsn &&& 0xFFFF0000#32 == 0x20000000#32

def isTrap : Bool := a.exInsn &&& 0xFFFF0000#32 == 0x21000000#32

end IsaState

namespace BakedIn

variable (x : ℕ → BakedInPorts) (t : ℕ)

/-! ### Looking back -/

/-- What the processor shows in a cycle. -/
def isaAt : IsaState := (x t).isa

/-- An event is there in an enabled cycle and was not there in the enabled cycle before. -/
def Rises (event : IsaState → Bool) : Prop :=
  (x t).control.IsActive ∧ event (isaAt x t) = true ∧
    ∃ p, LastActive (control x) p t ∧ event (isaAt x p) = false

/-- The cycle is enabled, and an event was there in the enabled cycle before. -/
def Follows (event : IsaState → Bool) : Prop :=
  (x t).control.IsActive ∧ ∃ p, LastActive (control x) p t ∧ event (isaAt x p) = true

/-- An event is there and was not there a clock cycle before, both out of reset. -/
def RisesAtOnce (event : IsaState → Bool) : Prop :=
  (x t).control.rst = false ∧ event (isaAt x t) = true ∧
    ∃ p, t = p + 1 ∧ (x p).control.rst = false ∧ event (isaAt x p) = false

/-! ### The conditions -/

/-- Checker 1: the page lacks the execution right of the mode. -/
def LacksRights : Prop :=
  (x t).control.IsActive ∧ (isaAt x t).immuEn = true ∧
    ((isaAt x t).srSm = true → (isaAt x t).immuSxe = false) ∧
    ((isaAt x t).srSm = false → (isaAt x t).immuUxe = false)

/-- The clock cycle before was enabled and in user mode. -/
def LeavesUserMode : Prop :=
  ∃ p, t = p + 1 ∧ (x p).control.IsActive ∧ (isaAt x p).srSm = false

/-- Checker 3: an exception register is wrong at the entry of a vector. -/
def WrongBackup : Prop :=
  (Rises x t IsaState.atItlbMiss ∧ (isaAt x t).eear ≠ (isaAt x t).sprDatNpc) ∨
    (Rises x t IsaState.atVector ∧ LeavesUserMode x t ∧ (isaAt x t).esrSm = true) ∨
    (Rises x t IsaState.atVector ∧ (isaAt x t).srDsx = true ∧
      (isaAt x t).epcr ≠ (isaAt x t).sprDatPpc) ∨
    (Rises x t IsaState.atVector ∧ Rises x t IsaState.atItlbMiss ∧ (isaAt x t).srDsx = false ∧
      (isaAt x t).epcr ≠ (isaAt x t).sprDatPpc + 4#32 ∧
      (isaAt x t).epcr ≠ (isaAt x t).sprDatNpc)

/-- Checker 5: the first of a sequence of loads writes other data than the bus shows, and did so
a clock cycle before. `l.lbz` is exempt. -/
def WrongLoad : Prop :=
  Rises x t IsaState.isLoad ∧ (isaAt x t).opcode ≠ 0x8C000000#32 ∧
    (isaAt x t).gprWrittenData ≠ (isaAt x t).dcpuDatI ∧
    ∃ p, t = p + 1 ∧ (isaAt x p).gprWrittenData ≠ (isaAt x p).dcpuDatI

/-- Checker 8: supervisor mode is entered outside of the vectors. -/
def Escalation : Prop := Rises x t IsaState.srSm ∧ (isaAt x t).atVector = false

/-- Checker 9: a return or a move to SR sets the wrong mode. -/
def WrongMode : Prop :=
  (Rises x t IsaState.isRfeOpcode ∧ (isaAt x t).srSm ≠ (isaAt x t).esrSm) ∨
    (Rises x t IsaState.writesSr ∧ (isaAt x t).srSm ≠ (isaAt x t).operandB.getLsbD 0)

/-- Checker 15: a return does not restore SR, or continues neither at EPCR nor at a vector. -/
def WrongReturn : Prop :=
  (Rises x t IsaState.isRfeOpcode ∧ (isaAt x t).sr ≠ (isaAt x t).esr) ∨
    (Follows x t IsaState.isRfeOpcode ∧ (isaAt x t).exPc ≠ (isaAt x t).epcr ∧
      (isaAt x t).atVector = false)

/-- Checker 16: a register is written that the instruction does not name, or by an instruction
that names none. The link register may be written by a call. -/
def WrongTarget : Prop :=
  RisesAtOnce x t IsaState.gprWrittenTo ∧
    (((isaAt x t).exInsn &&& 0xC0000000#32 ≠ 0x80000000#32 ∧
        (isaAt x t).opcode ≠ 0x18000000#32 ∧ (isaAt x t).opcode ≠ 0xE0000000#32) ∨
      (isaAt x t).exInsn &&& 0x03E00000#32 ≠ 0#6 ++ (isaAt x t).gprWrittenAddr ++ 0#21) ∧
    ((isaAt x t).gprWrittenAddr ≠ 9#5 ∨
      ((isaAt x t).opcode ≠ 0x04000000#32 ∧ (isaAt x t).opcode ≠ 0x48000000#32))

/-- Checker 18: the instruction after a system call or a trap is not at its vector. -/
def WrongTrap : Prop :=
  (Follows x t IsaState.isSys ∧ (isaAt x t).exPc ≠ 0xC00#32) ∨
    (Follows x t IsaState.isTrap ∧ (isaAt x t).exPc ≠ 0xE00#32)

/-- The condition of a bit of the output. No bit belongs to the other numbers, and the bits of
checkers 13 and 19 are never set. -/
def Reports : ℕ → Prop
  | 1 => LacksRights x t
  | 3 => WrongBackup x t
  | 5 => WrongLoad x t
  | 8 => Escalation x t
  | 9 => WrongMode x t
  | 15 => WrongReturn x t
  | 16 => WrongTarget x t
  | 18 => WrongTrap x t
  | _ => False

/-! ### The blocks -/

section Blocks

variable {x t}

theorem Rises.isActive {event : IsaState → Bool} (h : Rises x t event) :
    (x t).control.IsActive := h.1

theorem Follows.isActive {event : IsaState → Bool} (h : Follows x t event) :
    (x t).control.IsActive := h.1

/-- An edge block of a checker other than 16 fires when its event rises and its test fails. -/
theorem edge_iff_rises {k : EdgeBlock}
    (hk : k ∉ [.oaoew16_1, .oaoew16_2, .oaoew16_3, .oaoew16_4, .oaoew16_5])
    (event : IsaState → Bool) (hevent : ∀ w y, (k.ports w y).samplingEvent = event y.isa) :
    (regs x t).edge (x t) k = true ↔
      Rises x t event ∧ (k.ports (regs x t).specXorReg (x t)).testExpr = false := by
  rw [edge_eq_true_iff x t hk]
  simp only [hevent, Rises, isaAt]
  tauto

/-- The edge blocks of checker 16 look at every clock cycle out of reset. -/
theorem edge_iff_risesAtOnce {k : EdgeBlock}
    (hk : k ∈ [.oaoew16_1, .oaoew16_2, .oaoew16_3, .oaoew16_4, .oaoew16_5]) :
    (regs x t).edge (x t) k = true ↔ RisesAtOnce x t IsaState.gprWrittenTo ∧
      (k.ports (regs x t).specXorReg (x t)).testExpr = false := by
  have hevent (w : BitVec 32) (y : BakedInPorts) :
      (k.ports w y).samplingEvent = y.isa.gprWrittenTo := by
    cases k <;> first | rfl | simp at hk
  cases t with
  | zero =>
    refine iff_of_false ?_ ?_
    · rw [edge, regs_onEdge, OvlAlwaysOnEdge.out_run_eq_true_iff _ _
        (k.prevConfigInvalid_ports _ _)]
      rintro ⟨-, -, -, p, hp, -⟩
      exact not_lastActive_zero hp
    · rintro ⟨⟨-, -, p, hp, -⟩, -⟩
      exact absurd hp p.succ_ne_zero.symm
  | succ t =>
    cases ht : (x (t + 1)).control.rst with
    | true =>
      rw [edge_of_rst ht]
      refine iff_of_false Bool.false_ne_true ?_
      rintro ⟨⟨hrst, -⟩, -⟩
      rw [ht] at hrst
      cases hrst
    | false =>
      cases hp : (x t).control.rst with
      | true =>
        refine iff_of_false ?_ ?_
        · rw [edge, regs_onEdge, OvlAlwaysOnEdge.out_run_eq_true_iff _ _
            (k.prevConfigInvalid_ports _ _)]
          rintro ⟨-, -, -, p, hlast, -⟩
          exact not_lastActive_succ_of_rst ((k.rst_ports _ _).trans hp) hlast
        · rintro ⟨⟨-, -, p, heq, hrst, -⟩, -⟩
          obtain rfl := Nat.succ.inj heq
          rw [hp] at hrst
          cases hrst
      | false =>
        rw [edge_of_succ hp ht hk, hevent, hevent, Bool.and_eq_true, Bool.and_eq_true,
          Bool.not_eq_true', Bool.not_eq_true']
        refine and_congr_left fun _ => ⟨?_, ?_⟩
        · rintro ⟨hlow, hhigh⟩
          exact ⟨ht, hhigh, t, rfl, hp, hlow⟩
        · rintro ⟨-, hhigh, p, heq, -, hlow⟩
          obtain rfl := Nat.succ.inj heq
          exact ⟨hlow, hhigh⟩

/-- A next block fires when its event was there and its test fails. -/
theorem nextOut_iff_follows {k : NextBlock} (event : IsaState → Bool)
    (hevent : ∀ y, (k.ports y).startEvent = event y.isa) :
    (regs x t).nextOut (x t) k = true ↔ Follows x t event ∧ (k.ports (x t)).testExpr = false := by
  have hrun : (regs x t).next k = run OvlNext.step OvlNext.reset (fun r => k.ports (x r)) t :=
    run_component (fun s : BakedIn => s.next k) (fun _ y => k.ports y) (fun _ _ => rfl) t
  have hcontrol : (fun r => (k.ports (x r)).control) = control x :=
    funext fun r => k.control_ports (x r)
  have hbit := OvlNext.getLsbD_monitor_run (fun r => k.ports (x r)) (j := 0) (by decide) t
  rw [hcontrol, ← hrun] at hbit
  have hout : (regs x t).nextOut (x t) k = ((!(x t).control.rst && (x t).control.enable) &&
      (((regs x t).next k).monitor.getLsbD 0 && !(k.ports (x t)).testExpr)) := by
    rw [nextOut, OvlNext.out, k.control_ports]
    cases k <;> simp [NextBlock.ports, nextPorts]
  rw [hout]
  simp only [Bool.and_eq_true, Bool.not_eq_true', hbit, hevent, Follows, Control.IsActive,
    ActiveBefore, isaAt]
  tauto

/-- A stateless block of the module. -/
theorem always_iff (testExpr : Bool) :
    always (x t) testExpr = true ↔ (x t).control.IsActive ∧ testExpr = false := by
  rw [always, ovlAlways, Bool.and_eq_true, Bool.and_eq_true, Bool.and_eq_true, Bool.not_eq_true',
    Bool.not_eq_true', Control.IsActive]
  tauto

theorem alwaysWith_iff (enable testExpr : Bool) : alwaysWith (x t) enable testExpr = true ↔
    (x t).control.rst = false ∧ enable = true ∧ testExpr = false := by
  rw [alwaysWith, ovlAlways, Bool.and_eq_true, Bool.and_eq_true, Bool.and_eq_true,
    Bool.not_eq_true', Bool.not_eq_true']
  tauto

end Blocks

/-! ### The checkers -/

section Checkers

variable {x t}

theorem checker_1_iff : checker_1 (x t) = true ↔ LacksRights x t := by
  rw [checker_1, Bool.and_eq_true, Bool.and_eq_true, Bool.or_eq_true, Bool.or_eq_true, always_iff,
    always_iff, always_iff, alwaysWith_iff, alwaysWith_iff, LacksRights, isaAt, Control.IsActive]
  cases (x t).isa.srSm <;> cases (x t).isa.immuEn <;> simp
  all_goals tauto

/-- The earlier mode reaches checker 3 from the clock cycle before. -/
theorem checker_3_3b_1_iff : (regs x t).checker_3_3b_1 = true ↔ LeavesUserMode x t := by
  rw [LeavesUserMode]
  cases t with
  | zero =>
    refine iff_of_false Bool.false_ne_true ?_
    rintro ⟨p, hp, -⟩
    exact absurd hp p.succ_ne_zero.symm
  | succ t =>
    have hstep : (regs x (t + 1)).checker_3_3b_1 =
        if (x t).control.rst then false else checker_3_3b (x t) := rfl
    have htest : checker_3_3b (x t) = true ↔
        (x t).control.IsActive ∧ (isaAt x t).srSm = false := by
      rw [checker_3_3b, always_iff, isaAt, beq_eq_false_iff_ne, ne_eq, Bool.not_eq_true]
    rw [hstep]
    constructor
    · intro h
      split_ifs at h
      exact ⟨t, rfl, htest.mp h⟩
    · rintro ⟨p, heq, hp⟩
      obtain rfl := Nat.succ.inj heq
      rw [hp.1.1]
      exact htest.mpr hp

theorem checker_3_iff : (regs x t).checker_3 (x t) = true ↔ WrongBackup x t := by
  have hmiss := edge_iff_rises (x := x) (t := t) (k := .oaoew3_1) (by decide)
    IsaState.atItlbMiss fun _ _ => rfl
  have hentry := edge_iff_rises (x := x) (t := t) (k := .oaoew3_3a) (by decide)
    IsaState.atVector fun _ _ => rfl
  have hnext := edge_iff_rises (x := x) (t := t) (k := .oaoew3_5) (by decide)
    IsaState.atVector fun _ _ => rfl
  have hmissEpcr := edge_iff_rises (x := x) (t := t) (k := .oaoew3_5b) (by decide)
    IsaState.atItlbMiss fun _ _ => rfl
  have hslot := edge_iff_rises (x := x) (t := t) (k := .oaoew3_7) (by decide)
    IsaState.atVector fun _ _ => rfl
  rw [checker_3, Bool.or_eq_true, Bool.or_eq_true, Bool.or_eq_true, Bool.and_eq_true,
    Bool.and_eq_true, Bool.and_eq_true, Bool.or_eq_true, Bool.or_eq_true, Bool.and_eq_true,
    checker_3_1, checker_3_2, checker_3_3a, checker_3_3c, checker_3_4, checker_3_5, checker_3_5b,
    checker_3_6, checker_3_7, hmiss, hentry, hnext, hmissEpcr, hslot, checker_3_3b_1_iff,
    always_iff, always_iff, always_iff, WrongBackup]
  have hactive : Rises x t IsaState.atVector → (x t).control.IsActive := Rises.isActive
  simp only [EdgeBlock.ports, edgePorts, isaAt, beq_eq_false_iff_ne, ne_eq, Bool.not_eq_false,
    Bool.not_eq_true, Bool.false_eq_true, or_false, and_true]
  clear hmiss hentry hnext hmissEpcr hslot
  generalize Rises x t IsaState.atVector = entered at *
  -- DSX selects the reference of EPCR
  by_cases he : entered
  · cases (x t).isa.srDsx <;> simp [he, hactive he, or_assoc, and_left_comm]
  · cases (x t).isa.srDsx <;> simp [he]

/-- Outside of the vectors no exception register is wrong. -/
theorem atVector_of_wrongBackup (h : WrongBackup x t) : (isaAt x t).atVector = true := by
  rcases h with ⟨hmiss, -⟩ | ⟨hentry, -⟩ | ⟨hentry, -⟩ | ⟨hentry, -⟩
  · exact IsaState.atVector_of_atItlbMiss hmiss.2.1
  all_goals exact hentry.2.1

theorem specXorSmall_iff : specXorSmall (regs x t).specXorReg (x t).isa = true ↔
    (isaAt x t).gprWrittenData ≠ (isaAt x t).dcpuDatI ∧
      ∃ p, t = p + 1 ∧ (isaAt x p).gprWrittenData ≠ (isaAt x p).dcpuDatI := by
  have hxor (a b : BitVec 32) : a ^^^ b ≠ 0 ↔ a ≠ b := not_congr BitVec.xor_eq_zero_iff
  rw [specXorSmall, Bool.and_eq_true, bne_iff_ne, bne_iff_ne, hxor, and_comm]
  refine and_congr_right fun _ => ?_
  cases t with
  | zero => exact iff_of_false (fun h => h rfl) fun ⟨p, hp, _⟩ => absurd hp p.succ_ne_zero.symm
  | succ t =>
    have hstep : (regs x (t + 1)).specXorReg =
        (x t).isa.gprWrittenData ^^^ (x t).isa.dcpuDatI := rfl
    rw [hstep, hxor]
    constructor
    · exact fun h => ⟨t, rfl, h⟩
    · rintro ⟨p, heq, hp⟩
      obtain rfl := Nat.succ.inj heq
      exact hp

theorem checker_5_iff : (regs x t).checker_5 (x t) = true ↔ WrongLoad x t := by
  have hload := edge_iff_rises (x := x) (t := t) (k := .oaoew5_1) (by decide)
    IsaState.isLoad fun _ _ => rfl
  have hactive : Rises x t IsaState.isLoad → (x t).control.IsActive := Rises.isActive
  rw [checker_5, Bool.and_eq_true, hload, always_iff, beq_eq_false_iff_ne]
  simp only [EdgeBlock.ports, edgePorts, Bool.not_eq_false', specXorSmall_iff, WrongLoad, isaAt]
  tauto

theorem checker_9_iff : (regs x t).checker_9 (x t) = true ↔ WrongMode x t := by
  have hreturn := edge_iff_rises (x := x) (t := t) (k := .oaoew9_1) (by decide)
    IsaState.isRfeOpcode fun _ _ => rfl
  have hmove := edge_iff_rises (x := x) (t := t) (k := .oaoew9_2) (by decide)
    IsaState.writesSr fun _ _ => rfl
  rw [checker_9, Bool.or_eq_true, hreturn, hmove]
  simp only [EdgeBlock.ports, edgePorts, beq_eq_false_iff_ne]
  rfl

theorem checker_15_iff : (regs x t).checker_15 (x t) = true ↔ WrongReturn x t := by
  have hreturn := edge_iff_rises (x := x) (t := t) (k := .oaoew15_1) (by decide)
    IsaState.isRfeOpcode fun _ _ => rfl
  have hafter := nextOut_iff_follows (x := x) (t := t) (k := .onw15_2)
    IsaState.isRfeOpcode fun _ => rfl
  have hactive : Follows x t IsaState.isRfeOpcode → (x t).control.IsActive := Follows.isActive
  rw [checker_15, Bool.or_eq_true, Bool.and_eq_true, hreturn, hafter, always_iff]
  simp only [EdgeBlock.ports, edgePorts, NextBlock.ports, nextPorts, beq_eq_false_iff_ne,
    WrongReturn, isaAt]
  tauto

theorem checker_16_iff : (regs x t).checker_16 (x t) = true ↔ WrongTarget x t := by
  have halu := edge_iff_risesAtOnce (x := x) (t := t) (k := .oaoew16_1) (by decide)
  have hmovhi := edge_iff_risesAtOnce (x := x) (t := t) (k := .oaoew16_2) (by decide)
  have hlogic := edge_iff_risesAtOnce (x := x) (t := t) (k := .oaoew16_3) (by decide)
  have htarget := edge_iff_risesAtOnce (x := x) (t := t) (k := .oaoew16_4) (by decide)
  have hlink := edge_iff_risesAtOnce (x := x) (t := t) (k := .oaoew16_5) (by decide)
  have hrst : RisesAtOnce x t IsaState.gprWrittenTo → (x t).control.rst = false := fun h => h.1
  rw [checker_16, Bool.and_eq_true, Bool.or_eq_true, Bool.or_eq_true, Bool.and_eq_true,
    Bool.and_eq_true, Bool.and_eq_true, halu, hmovhi, hlogic, htarget, hlink, checker_16_6,
    checker_16_7, alwaysWith_iff, alwaysWith_iff]
  simp only [EdgeBlock.ports, edgePorts, beq_eq_false_iff_ne, WrongTarget, isaAt, true_and]
  clear halu hmovhi hlogic htarget hlink
  by_cases hrises : RisesAtOnce x t IsaState.gprWrittenTo
  · simp only [hrises, hrst hrises, true_and, ne_eq, and_assoc]
  · simp only [hrises, false_and, or_self]

theorem checker_18_iff : (regs x t).checker_18 (x t) = true ↔ WrongTrap x t := by
  have hsys := nextOut_iff_follows (x := x) (t := t) (k := .onw18_1) IsaState.isSys
    fun _ => rfl
  have htrap := nextOut_iff_follows (x := x) (t := t) (k := .onw18_2) IsaState.isTrap
    fun _ => rfl
  rw [checker_18, Bool.or_eq_true, hsys, htrap]
  simp only [NextBlock.ports, nextPorts, beq_eq_false_iff_ne]
  rfl

theorem checker_19_eq_false (s : BakedIn) (y : BakedInPorts) : s.checker_19 y = false := by
  rw [checker_19, checker_13_1_eq_false, Bool.and_false]

end Checkers

/-! ### The output -/

/-- The output, bit by bit. -/
theorem getLsbD_checkersFired (s : BakedIn) (y : BakedInPorts) (j : ℕ) :
    (s.checkersFired y).getLsbD j =
      match j with
      | 1 => checker_1 y
      | 3 => s.checker_3 y
      | 5 => s.checker_5 y
      | 8 => s.checker_8 y
      | 9 => s.checker_9 y
      | 15 => s.checker_15 y
      | 16 => s.checker_16 y
      | 18 => s.checker_18 y
      | _ => false := by
  by_cases hj : j < 32
  · simp only [checkersFired, checker_13_eq_false, checker_19_eq_false, BitVec.getLsbD_append]
    interval_cases j <;> simp
  · rw [BitVec.getLsbD_of_ge _ _ (by omega)]
    split <;> first | omega | rfl

/-- The module sets a bit exactly if the condition of its checker holds. -/
theorem getLsbD_fired_iff (j : ℕ) : (fired x t).getLsbD j = true ↔ Reports x t j := by
  rw [fired, getLsbD_checkersFired]
  unfold Reports
  split
  · exact checker_1_iff
  · exact checker_3_iff
  · exact checker_5_iff
  · exact checker_8_eq_true_iff x t
  · exact checker_9_iff
  · exact checker_15_iff
  · exact checker_16_iff
  · exact checker_18_iff
  · exact iff_of_false Bool.false_ne_true id

end BakedIn

end WirePatch.Fabric
