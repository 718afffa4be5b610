import Mathlib.Algebra.BigOperators.Group.List.Basic
import Mathlib.Data.BitVec

/-!
# Accumulators kept in two halves

An accumulator of `2 * w` bits is kept in two words, its halves. Products are added to the whole of
it, and each half can be written by itself: a write of one half leaves the other half as it stands.
Histories of such events are lists with the latest event first.

## Main definitions

* `SplitAccumulator.Event`, `SplitAccumulator.apply`: the events and their effect.
* `SplitAccumulator.written`: the two halves after the last write of any of them.
* `SplitAccumulator.since`: the sum of the products added after that write.
* `SplitAccumulator.accumulated`: the two halves last written and the products since, as a sum
  modulo `2 ^ (2 * w)`.

## Main results

* `SplitAccumulator.accumulated_cons`: an event takes the sum to the next one.
* `SplitAccumulator.accumulated_of_hi_lo`, `SplitAccumulator.accumulated_of_lo_hi`: the sum where
  the two halves were written in a row.
-/

namespace SplitAccumulator

variable {w : ℕ}

/-- What happens to an accumulator: an addition, a write of a half, or a clear of both. -/
inductive Event (w : ℕ)
  | add (z : ℤ)
  | setHi (v : BitVec w)
  | setLo (v : BitVec w)
  | clear
  deriving DecidableEq, Repr

/-- The upper half. -/
def upper (x : BitVec (w + w)) : BitVec w := x.extractLsb' w w

/-- The lower half. -/
def lower (x : BitVec (w + w)) : BitVec w := x.extractLsb' 0 w

@[simp] theorem upper_append (h l : BitVec w) : upper (h ++ l) = h :=
  BitVec.extractLsb'_append_eq_left

@[simp] theorem lower_append (h l : BitVec w) : lower (h ++ l) = l :=
  BitVec.extractLsb'_append_eq_right

theorem upper_append_lower (x : BitVec (w + w)) : upper x ++ lower x = x := by
  refine BitVec.eq_of_getLsbD_eq fun i hi => ?_
  rw [BitVec.getLsbD_append, lower, upper, BitVec.getLsbD_extractLsb',
    BitVec.getLsbD_extractLsb']
  split_ifs with h
  · simp [h]
  · simp [show i - w < w by omega, show w + (i - w) = i by omega]

/-- The effect of an event. -/
def apply (x : BitVec (w + w)) : Event w → BitVec (w + w)
  | .add z => x + BitVec.ofInt (w + w) z
  | .setHi v => v ++ lower x
  | .setLo v => upper x ++ v
  | .clear => 0

/-- The sum of the products since the last write. -/
def since : List (Event w) → ℤ
  | .add z :: history => since history + z
  | _ => 0

/-- The halves after the last write: the half written, and the other half of the sum at that
point. Before any write, the halves of `start`. -/
def written (start : BitVec (w + w)) : List (Event w) → BitVec (w + w)
  | [] => start
  | .add _ :: history => written start history
  | .setHi v :: history =>
    v ++ lower (written start history + BitVec.ofInt (w + w) (since history))
  | .setLo v :: history =>
    upper (written start history + BitVec.ofInt (w + w) (since history)) ++ v
  | .clear :: _ => 0

/-- The halves last written and the products since. -/
def accumulated (start : BitVec (w + w)) (history : List (Event w)) : BitVec (w + w) :=
  written start history + BitVec.ofInt (w + w) (since history)

variable (start : BitVec (w + w)) (history : List (Event w))

theorem accumulated_nil : accumulated start [] = start := BitVec.add_zero start

/-- An event takes the sum to the next one. -/
theorem accumulated_cons (e : Event w) :
    accumulated start (e :: history) = apply (accumulated start history) e := by
  cases e with
  | add z => rw [accumulated, written, since, BitVec.ofInt_add, ← BitVec.add_assoc]; rfl
  | setHi v => exact BitVec.add_zero _
  | setLo v => exact BitVec.add_zero _
  | clear => exact BitVec.add_zero _

/-- Products after a point of the history. -/
theorem accumulated_adds (zs : List ℤ) : accumulated start (zs.map .add ++ history) =
    accumulated start history + BitVec.ofInt (w + w) zs.sum := by
  induction zs with
  | nil => exact (BitVec.add_zero _).symm
  | cons z zs ih =>
    rw [List.map_cons, List.cons_append, accumulated_cons, ih, apply, List.sum_cons, Int.add_comm z,
      BitVec.ofInt_add, BitVec.add_assoc]

/-- After a write of the upper and then of the lower half these are the two halves. -/
theorem accumulated_of_hi_lo (zs : List ℤ) (h l : BitVec w) :
    accumulated start (zs.map .add ++ .setLo l :: .setHi h :: history) =
      h ++ l + BitVec.ofInt (w + w) zs.sum := by
  rw [accumulated_adds, accumulated_cons, accumulated_cons, apply, apply, upper_append]

/-- After a write of the lower and then of the upper half these are the two halves. -/
theorem accumulated_of_lo_hi (zs : List ℤ) (h l : BitVec w) :
    accumulated start (zs.map .add ++ .setHi h :: .setLo l :: history) =
      h ++ l + BitVec.ofInt (w + w) zs.sum := by
  rw [accumulated_adds, accumulated_cons, accumulated_cons, apply, apply, lower_append]

end SplitAccumulator
