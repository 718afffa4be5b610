import WirePatch.Hardware.Shifter
import WirePatch.Simulator.Alu

/-!
# Bit searches: the simulator and the processor

`l.ff1` and `l.fl1` search a register for its first and its last bit. The simulator tests the bits
in a loop that it leaves at the first one set, from bit 0 upwards for `ff1` and from bit 31
downwards for `fl1`; the processor has a chain of conditionals for each. A loop is a chain over the
values of its index, and both lead to the same place.

## Main definitions

* `IsFirstOne`, `IsLastOne`: a result is the place of the first or last bit set, counted from 1.

## Main results

* `Insn.scan_eq_chain`: the loop as a chain of conditionals.
* `Insn.ff1_eq`, `Insn.fl1_eq`: the instructions write the results of the processor.
* `bitSearch`: what these results are.
-/

namespace WirePatch

/-! ### The loops -/

namespace Insn

open PriorityChain

theorem scan_eq_chain (p : ℕ → Bool) (n idx : ℕ) :
    scan p n idx = chain p id (idx + n) (List.range' idx n) := by
  induction n generalizing idx with
  | zero => rfl
  | succ n ih =>
    rw [scan, ih, List.range'_succ, Nat.add_right_comm]
    rfl

/-- A value computed from the index at the end of the loop. -/
theorem apply_scan (value : ℕ → U32) (p : ℕ → Bool) (n : ℕ) :
    value (scan p n 0) = chain p value (value n) (List.range n) := by
  rw [scan_eq_chain, apply_chain value, Nat.zero_add, List.range_eq_range']
  rfl

variable (cpu : CPU) (cont : Control)

theorem ff1_eq : ff1 cpu cont = cpuSetGpr cpu cont.rD (Or1200.ff1 (cpu.gpr cont.rA)) := by
  have htest : (fun idx => cpu.gpr cont.rA &&& 1#32 <<< idx != 0) = (cpu.gpr cont.rA).getLsbD :=
    funext fun idx => BitMask.and_one_shiftLeft_bne _ idx
  have hvalue := apply_scan (fun idx => (if idx = 32 then -1 else BitVec.ofNat 32 idx) + 1)
    (cpu.gpr cont.rA).getLsbD 32
  -- the index after the last one wraps to 0
  rw [if_pos rfl] at hvalue
  rw [ff1, htest]
  refine congrArg (cpuSetGpr cpu cont.rD) (hvalue.trans (chain_congr (fun idx hidx => ?_) _ _))
  rw [if_neg (List.mem_range.mp hidx).ne]
  exact BitVec.ofNat_add_ofNat idx 1

theorem fl1_eq : fl1 cpu cont = cpuSetGpr cpu cont.rD (Or1200.fl1 (cpu.gpr cont.rA)) := by
  have htest : (fun idx => cpu.gpr cont.rA &&& 1#32 <<< (31 - idx) != 0) =
      (cpu.gpr cont.rA).getLsbD ∘ (31 - ·) :=
    funext fun idx => BitMask.and_one_shiftLeft_bne _ (31 - idx)
  have hvalue := apply_scan (fun idx => 32 - BitVec.ofNat 32 idx)
    ((cpu.gpr cont.rA).getLsbD ∘ (31 - ·)) 32
  rw [fl1, htest, Or1200.fl1, reverse_range, chain_map]
  refine congrArg (cpuSetGpr cpu cont.rD) (hvalue.trans (chain_congr (fun idx hidx => ?_) _ _))
  have hidx := List.mem_range.mp hidx
  have hplace : 32 - 1 - idx + 1 = 32 - idx := by omega
  rw [Function.comp_apply, hplace]
  exact BitVec.ofNat_sub_ofNat_of_le 32 idx (by omega) hidx.le

end Insn

/-! ### The results -/

/-- 0 if no bit of `a` is set, and otherwise the place of the lowest bit set, counted from 1. -/
structure IsFirstOne (a r : U32) : Prop where
  zero : a = 0 → r = 0
  place : a ≠ 0 → ∃ i, IsLeast {j | a.getLsbD j = true} i ∧ r.toNat = i + 1

/-- 0 if no bit of `a` is set, and otherwise the place of the highest bit set, counted from 1. -/
structure IsLastOne (a r : U32) : Prop where
  zero : a = 0 → r = 0
  place : a ≠ 0 → ∃ i, IsGreatest {j | a.getLsbD j = true} i ∧ r.toNat = i + 1

theorem exists_isSet {a : U32} (h : a ≠ 0) : ∃ j, a.getLsbD j = true := by
  by_contra hnone
  refine h (BitVec.eq_of_getLsbD_eq fun j _ => ?_)
  rw [BitVec.ofNat_eq_ofNat, BitVec.getLsbD_zero, Bool.eq_false_iff]
  exact fun hj => hnone ⟨j, hj⟩

theorem toNat_place {a : U32} {i : ℕ} (h : a.getLsbD i = true) :
    (BitVec.ofNat 32 (i + 1)).toNat = i + 1 := by
  have hi := Or1200.lt_of_isSet h
  rw [BitVec.toNat_ofNat, Nat.mod_eq_of_lt (by omega)]

theorem isFirstOne_ff1 (a : U32) : IsFirstOne a (Or1200.ff1 a) where
  zero h := h ▸ Or1200.ff1_zero
  place h := by
    obtain ⟨i, hi⟩ := PriorityChain.exists_isLeast (exists_isSet h)
    refine ⟨i, hi, ?_⟩
    rw [Or1200.ff1_of_isLeast hi, toNat_place hi.1]

theorem isLastOne_fl1 (a : U32) : IsLastOne a (Or1200.fl1 a) where
  zero h := h ▸ Or1200.fl1_zero
  place h := by
    obtain ⟨i, hi⟩ :=
      PriorityChain.exists_isGreatest (exists_isSet h) fun _ hj => Or1200.lt_of_isSet hj
    refine ⟨i, hi, ?_⟩
    rw [Or1200.fl1_of_isGreatest hi, toNat_place hi.1]

/-- The loops of `l.ff1` and `l.fl1` yield what the chains of the processor yield, for every value
of the register: the place of its lowest and of its highest bit, or 0. -/
theorem bitSearch (cpu : CPU) (cont : Control) :
    Insn.ff1 cpu cont = cpuSetGpr cpu cont.rD (Or1200.ff1 (cpu.gpr cont.rA)) ∧
      Insn.fl1 cpu cont = cpuSetGpr cpu cont.rD (Or1200.fl1 (cpu.gpr cont.rA)) ∧
      IsFirstOne (cpu.gpr cont.rA) (Or1200.ff1 (cpu.gpr cont.rA)) ∧
      IsLastOne (cpu.gpr cont.rA) (Or1200.fl1 (cpu.gpr cont.rA)) :=
  ⟨Insn.ff1_eq cpu cont, Insn.fl1_eq cpu cont, isFirstOne_ff1 _, isLastOne_fl1 _⟩

end WirePatch
