import Mathlib.Data.BitVec

/-!
# Masked updates of bit vectors

A status word is written a flag at a time: the bits selected by a mask are replaced, the
others are kept. This file has the algebra of such updates, over words of any width.

* `assign x m on` replaces the bits of `m` in `x` by `on`.
* `merge x keep set` keeps the bits `keep` of `x` and adds the bits `set`. Every `assign` is a
  `merge` and two merges compose to one (`merge_merge`), so that a sequence of flag updates with
  constant masks is one merge whose two constants can be computed.

## Main definitions

* `BitMask.assign`, `BitMask.merge`.
* `BitMask.field`: the mask of consecutive bits.

## Main results

* `BitMask.assign_and_of_disjoint`: bits outside the mask are kept.
* `BitMask.assign_eq_self_iff`: when an assignment changes nothing.
* `BitMask.merge_merge`: composition of merges.
* `BitMask.and_field_eq_iff`: a test through a mask reads a field.
-/

namespace BitMask

variable {w : ℕ}

/-- `x` with the bits selected by `m` replaced by `on`. -/
def assign (x m : BitVec w) (on : Bool) : BitVec w :=
  x &&& ~~~m ||| bif on then m else 0#w

/-- The bits `keep` of `x`, together with the bits `set`. -/
def merge (x keep set : BitVec w) : BitVec w :=
  x &&& keep ||| set

theorem getLsbD_assign (x m : BitVec w) (on : Bool) (i : ℕ) :
    (assign x m on).getLsbD i = bif m.getLsbD i then on else x.getLsbD i := by
  by_cases hi : i < w
  · simp only [assign, BitVec.getLsbD_or, BitVec.getLsbD_and, BitVec.getLsbD_not, hi,
      decide_true, Bool.true_and]
    cases on
    · simp only [cond_false, BitVec.getLsbD_zero, Bool.or_false]
      cases m.getLsbD i <;> simp
    · simp only [cond_true]
      cases m.getLsbD i <;> simp
  · have hw : w ≤ i := Nat.le_of_not_lt hi
    simp [BitVec.getLsbD_of_ge _ _ hw]

/-- Bits outside the mask are kept. -/
theorem assign_and_of_disjoint {m k : BitVec w} (h : m &&& k = 0#w) (x : BitVec w) (on : Bool) :
    assign x m on &&& k = x &&& k := by
  refine BitVec.eq_of_getLsbD_eq fun i _ => ?_
  have hi : (m.getLsbD i && k.getLsbD i) = false := by
    rw [← BitVec.getLsbD_and, h, BitVec.getLsbD_zero]
  simp only [BitVec.getLsbD_and, getLsbD_assign]
  revert hi
  cases m.getLsbD i <;> cases k.getLsbD i <;> simp

/-- Bits inside the mask are the assigned ones. -/
theorem assign_and_self (x m : BitVec w) (on : Bool) :
    assign x m on &&& m = bif on then m else 0#w := by
  refine BitVec.eq_of_getLsbD_eq fun i _ => ?_
  simp only [BitVec.getLsbD_and, getLsbD_assign]
  cases on <;> cases hm : m.getLsbD i <;>
    simp only [cond_true, cond_false, hm, BitVec.getLsbD_zero, Bool.and_true, Bool.and_false]

/-- An assignment changes nothing exactly when the bits of the mask have the value already. -/
theorem assign_eq_self_iff (x m : BitVec w) (on : Bool) :
    assign x m on = x ↔ x &&& m = bif on then m else 0#w := by
  constructor
  · intro h
    rw [← assign_and_self x m on, h]
  · intro h
    refine BitVec.eq_of_getLsbD_eq fun i _ => ?_
    have hi : (x.getLsbD i && m.getLsbD i) = (bif on then m else 0#w).getLsbD i := by
      rw [← BitVec.getLsbD_and, h]
    rw [getLsbD_assign]
    revert hi
    cases on <;> simp only [cond_true, cond_false, BitVec.getLsbD_zero] <;>
      cases m.getLsbD i <;> cases x.getLsbD i <;> simp

theorem twoPow_ne_zero {i : ℕ} (hi : i < w) : BitVec.twoPow w i ≠ 0#w := by
  intro h
  have hbit := congrArg (BitVec.getLsbD · i) h
  simp [hi] at hbit

/-- The test of a single bit. -/
theorem and_twoPow_ne_zero_iff {i : ℕ} (hi : i < w) (x : BitVec w) :
    x &&& BitVec.twoPow w i ≠ 0#w ↔ x.getLsbD i = true := by
  rw [BitVec.and_twoPow]
  by_cases hx : x.getLsbD i = true
  · simp [hx, twoPow_ne_zero hi]
  · simp [hx]

theorem and_one_shiftLeft_bne (x : BitVec w) (i : ℕ) :
    (x &&& 1#w <<< i != 0#w) = x.getLsbD i := by
  rw [Bool.eq_iff_iff, bne_iff_ne]
  by_cases hi : i < w
  · exact and_twoPow_ne_zero_iff hi x
  · have hw : w ≤ i := Nat.le_of_not_lt hi
    simp [BitVec.shiftLeft_eq_zero hw, BitVec.getLsbD_of_ge x i hw]

/-- An assignment of a single bit changes nothing exactly when the bit has the value already. -/
theorem assign_twoPow_eq_self_iff {i : ℕ} (hi : i < w) (x : BitVec w) (on : Bool) :
    assign x (BitVec.twoPow w i) on = x ↔ x.getLsbD i = on := by
  constructor
  · intro h
    rw [← h, getLsbD_assign, BitVec.getLsbD_twoPow]
    simp [hi]
  · intro h
    refine BitVec.eq_of_getLsbD_eq fun j _ => ?_
    rw [getLsbD_assign, BitVec.getLsbD_twoPow]
    by_cases hij : i = j
    · subst hij
      rw [h]
      simp [hi]
    · simp [hij]

/-- Words that agree on a mask agree on every part of it. -/
theorem and_eq_and_of_subset {x y k m : BitVec w} (h : x &&& k = y &&& k) (hm : k &&& m = m) :
    x &&& m = y &&& m := by
  rw [← hm, ← BitVec.and_assoc, ← BitVec.and_assoc, h]

theorem assign_eq_merge (x m : BitVec w) (on : Bool) :
    assign x m on = merge x (~~~m) (bif on then m else 0#w) := rfl

/-- Two merges in a row are one. -/
theorem merge_merge (x k₁ s₁ k₂ s₂ : BitVec w) :
    merge (merge x k₁ s₁) k₂ s₂ = merge x (k₁ &&& k₂) (s₁ &&& k₂ ||| s₂) := by
  refine BitVec.eq_of_getLsbD_eq fun i _ => ?_
  simp only [merge, BitVec.getLsbD_and, BitVec.getLsbD_or]
  cases x.getLsbD i <;> cases k₁.getLsbD i <;> cases k₂.getLsbD i <;> simp

theorem setWidth_merge (x k s : BitVec w) (v : ℕ) :
    (merge x k s).setWidth v = merge (x.setWidth v) (k.setWidth v) (s.setWidth v) := by
  rw [merge, BitVec.setWidth_or, BitVec.setWidth_and, merge]

/-- The second of two assignments of the same bits counts. -/
theorem assign_assign (x m : BitVec w) (on on' : Bool) :
    assign (assign x m on) m on' = assign x m on' := by
  refine BitVec.eq_of_getLsbD_eq fun i _ => ?_
  simp only [getLsbD_assign]
  cases m.getLsbD i <;> rfl

/-- Masking a merge keeps the part of the word and of the constant that lies in the mask. -/
theorem merge_and (x k s m : BitVec w) : merge x k s &&& m = merge x (k &&& m) (s &&& m) := by
  refine BitVec.eq_of_getLsbD_eq fun i _ => ?_
  simp only [merge, BitVec.getLsbD_and, BitVec.getLsbD_or]
  cases x.getLsbD i <;> cases k.getLsbD i <;> simp

/-- A merge that keeps the whole mask and sets nothing in it is invisible through the mask. -/
theorem merge_and_of_keep {k s m : BitVec w} (hk : k &&& m = m) (hs : s &&& m = 0#w)
    (x : BitVec w) : merge x k s &&& m = x &&& m := by
  rw [merge_and, hk, hs, merge, BitVec.or_zero]

/-- A merge that keeps nothing of the mask shows the constant through it. -/
theorem merge_and_of_drop {k m : BitVec w} (hk : k &&& m = 0#w) (x s : BitVec w) :
    merge x k s &&& m = s &&& m := by
  rw [merge_and, hk, merge, BitVec.and_zero, BitVec.zero_or]

/-- The low bits of a word are its remainder by a power of two. -/
theorem toNat_and_low {m : BitVec w} (k : ℕ) (hm : m.toNat = 2 ^ k - 1) (a : BitVec w) :
    (a &&& m).toNat = a.toNat % 2 ^ k := by
  rw [BitVec.toNat_and, hm, Nat.and_two_pow_sub_one_eq_mod]

/-- The low bits of a word are clear exactly when it is a multiple of a power of two. -/
theorem low_eq_zero_iff {a m : BitVec w} (k : ℕ) (hm : m.toNat = 2 ^ k - 1) :
    a &&& m = 0 ↔ a.toNat % 2 ^ k = 0 := by
  rw [← BitVec.toNat_inj, toNat_and_low k hm, BitVec.ofNat_eq_ofNat, BitVec.toNat_ofNat,
    Nat.zero_mod]

/-! ### Fields -/

/-- The mask of the `len` bits from `start` on. -/
def field (w start len : ℕ) : BitVec w := (BitVec.allOnes len).setWidth w <<< start

theorem getLsbD_field (w start len i : ℕ) : (field w start len).getLsbD i =
    (decide (i < w) && decide (start ≤ i) && decide (i < start + len)) := by
  rw [field, BitVec.getLsbD_shiftLeft, BitVec.getLsbD_setWidth, BitVec.getLsbD_allOnes]
  by_cases hi : i < w <;> by_cases hs : start ≤ i <;> by_cases hl : i < start + len <;>
    simp [hi, hs, hl] <;> omega

theorem getLsbD_setWidth_shiftLeft {start len : ℕ} (v : BitVec len) (i : ℕ) :
    (v.setWidth w <<< start).getLsbD i =
      (decide (i < w) && decide (start ≤ i) && v.getLsbD (i - start)) := by
  rw [BitVec.getLsbD_shiftLeft, BitVec.getLsbD_setWidth]
  by_cases hi : i < w
  · have hsub : i - start < w := Nat.lt_of_le_of_lt (Nat.sub_le ..) hi
    by_cases hs : start ≤ i <;> simp [hi, hs, hsub]
  · simp [hi]

/-- A word has a value in a field exactly when it agrees with it through the mask. -/
theorem and_field_eq_iff (start : ℕ) {len : ℕ} (h : start + len ≤ w) (x : BitVec w)
    (v : BitVec len) :
    x &&& field w start len = v.setWidth w <<< start ↔ x.extractLsb' start len = v := by
  constructor
  · intro hx
    refine BitVec.eq_of_getLsbD_eq fun i hi => ?_
    have hlt : start + i < w := Nat.lt_of_lt_of_le (Nat.add_lt_add_left hi start) h
    have hbit := congrArg (fun y => y.getLsbD (start + i)) hx
    simp only [BitVec.getLsbD_and, getLsbD_field, getLsbD_setWidth_shiftLeft] at hbit
    simpa [hi, hlt] using hbit
  · rintro rfl
    refine BitVec.eq_of_getLsbD_eq fun i hi => ?_
    rw [BitVec.getLsbD_and, getLsbD_field, getLsbD_setWidth_shiftLeft, BitVec.getLsbD_extractLsb']
    by_cases hs : start ≤ i
    · have hlen : i - start < len ↔ i < start + len := by omega
      simp [hi, hs, hlen, Nat.add_sub_cancel' hs, Bool.and_comm]
    · simp [hs]

end BitMask
