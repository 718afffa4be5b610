import Mathlib.Order.Nat
import Mathlib.Algebra.Order.Group.Nat

/-!
# Reduction trees of fixed arity

A tree reduces `m` values to one with an operation on `k` values: it cuts the values into
consecutive blocks of `k`, pads the last block with a neutral value, reduces every block, and
goes on with the results until one is left.

## Main definitions

* `ReductionTree.blockCount`: the number of blocks, by division and remainder.
* `ReductionTree.block`: the result of one block.
* `ReductionTree.reduce`: the result of the tree.

## Main results

* `ReductionTree.lt_blockCount_iff`, `ReductionTree.blockCount_lt`: the blocks cover the values
  and are fewer.
* `ReductionTree.reduce_iff`: a tree of disjunctions is a disjunction.
-/

namespace ReductionTree

variable {α : Type*} {k m : ℕ}

/-- The number of blocks of `k` that `m` values fill, the last one perhaps in part. -/
def blockCount (k m : ℕ) : ℕ := if m % k = 0 then m / k else m / k + 1

theorem lt_blockCount_iff (hk : 0 < k) {b : ℕ} : b < blockCount k m ↔ b * k < m := by
  have hdiv : m / k * k + m % k = m := Nat.div_add_mod' m k
  rw [blockCount]
  split_ifs with h
  · rw [h, Nat.add_zero] at hdiv
    rw [← Nat.mul_lt_mul_right hk, hdiv]
  · rw [Nat.lt_succ_iff, Nat.le_div_iff_mul_le hk]
    refine ⟨fun hle => lt_of_le_of_ne hle ?_, le_of_lt⟩
    rintro rfl
    exact h (Nat.mul_mod_left b k)

theorem blockCount_pos (hk : 0 < k) (hm : 0 < m) : 0 < blockCount k m := by
  rw [lt_blockCount_iff hk, Nat.zero_mul]
  exact hm

/-- A tree shrinks: two or more values fill fewer blocks. -/
theorem blockCount_lt (hk : 2 ≤ k) (hm : 2 ≤ m) : blockCount k m < m := by
  by_contra hle
  have hlast : (m - 1) * k < m := (lt_blockCount_iff (by omega)).mp (by omega)
  have hmul : (m - 1) * 2 ≤ (m - 1) * k := Nat.mul_le_mul_left _ hk
  omega

/-- A single value fills a single block. -/
theorem two_le_of_blockCount_ne_one (hk : 2 ≤ k) (hm : 0 < m) (h : blockCount k m ≠ 1) :
    2 ≤ m := by
  by_contra hlt
  have hone : m = 1 := by omega
  refine h ?_
  rw [hone, blockCount, Nat.mod_eq_of_lt (by omega), if_neg Nat.one_ne_zero,
    Nat.div_eq_of_lt (by omega)]

/-- The last block uses the remaining values, if there is a remainder, and every other block
uses `k`. -/
theorem lt_used_iff (hk : 0 < k) {b j : ℕ} (hb : b < blockCount k m) (hj : j < k) :
    j < (if b = blockCount k m - 1 ∧ m % k ≠ 0 then m % k else k) ↔ b * k + j < m := by
  have hdiv : m / k * k + m % k = m := Nat.div_add_mod' m k
  split_ifs with h
  · have hcount : blockCount k m = m / k + 1 := by rw [blockCount, if_neg h.2]
    have hb' : b = m / k := by omega
    rw [hb']
    omega
  · refine iff_of_true hj ?_
    rcases Nat.lt_or_ge (b + 1) (blockCount k m) with hlt | hge
    · have hnext := (lt_blockCount_iff hk).mp hlt
      rw [Nat.add_mul, Nat.one_mul] at hnext
      omega
    · have hzero : m % k = 0 := by
        by_contra hne
        exact h ⟨by omega, hne⟩
      have hcount : blockCount k m = m / k := by rw [blockCount, if_pos hzero]
      have hb' : (b + 1) * k = m / k * k := by rw [show b + 1 = m / k by omega]
      rw [Nat.add_mul, Nat.one_mul] at hb'
      omega

/-- The result of block `b` of the values `x 0, …, x (m - 1)`. -/
def block (op : (Fin k → α) → α) (unit : α) (m : ℕ) (x : ℕ → α) (b : ℕ) : α :=
  op fun j => if b * k + j < m then x (b * k + j) else unit

theorem block_congr (op : (Fin k → α) → α) (unit : α) {x y : ℕ → α} (h : ∀ i < m, x i = y i)
    (b : ℕ) : block op unit m x b = block op unit m y b := by
  refine congrArg op (funext fun j => ?_)
  split_ifs with hlt
  · exact h _ hlt
  · rfl

section Reduce

variable (op : (Fin k → α) → α) (unit : α)

/-- The result of the tree over `m` values. -/
def reduce (m : ℕ) (x : ℕ → α) : α :=
  if blockCount k m < m ∧ blockCount k m ≠ 1 then
    reduce (blockCount k m) (block op unit m x)
  else block op unit m x 0
termination_by m

variable {op unit}

theorem reduce_of_blockCount_eq_one (h : blockCount k m = 1) (x : ℕ → α) :
    reduce op unit m x = block op unit m x 0 := by
  rw [reduce, if_neg fun h' => h'.2 h]

theorem reduce_of_blockCount_ne_one (hk : 2 ≤ k) (hm : 2 ≤ m) (h : blockCount k m ≠ 1)
    (x : ℕ → α) :
    reduce op unit m x = reduce op unit (blockCount k m) (block op unit m x) := by
  rw [reduce, if_pos ⟨blockCount_lt hk hm, h⟩]

/-- The tree reads the first `m` values only. -/
theorem reduce_congr (hk : 2 ≤ k) (hm : 0 < m) {x y : ℕ → α} (h : ∀ i < m, x i = y i) :
    reduce op unit m x = reduce op unit m y := by
  have hblock : block op unit m x = block op unit m y := funext (block_congr op unit h)
  by_cases hone : blockCount k m = 1
  · rw [reduce_of_blockCount_eq_one hone, reduce_of_blockCount_eq_one hone, hblock]
  · have hm2 := two_le_of_blockCount_ne_one hk hm hone
    rw [reduce_of_blockCount_ne_one hk hm2 hone, reduce_of_blockCount_ne_one hk hm2 hone, hblock]

/-- One level of disjunctions: some block has the property if some value has it. -/
theorem exists_block_iff {P : α → Prop} (hk : 0 < k) (hop : ∀ f, P (op f) ↔ ∃ j, P (f j))
    (hunit : ¬ P unit) (x : ℕ → α) :
    (∃ b < blockCount k m, P (block op unit m x b)) ↔ ∃ i < m, P (x i) := by
  constructor
  · rintro ⟨b, -, hb⟩
    obtain ⟨j, hj⟩ := (hop _).mp hb
    split_ifs at hj with h
    · exact ⟨b * k + j, h, hj⟩
    · exact absurd hj hunit
  · rintro ⟨i, hi, hx⟩
    have hdiv : i / k * k + i % k = i := Nat.div_add_mod' i k
    refine ⟨i / k, (lt_blockCount_iff hk).mpr (by omega), (hop _).mpr ⟨⟨i % k, ?_⟩, ?_⟩⟩
    · exact Nat.mod_lt i hk
    · simp only [hdiv, if_pos hi]
      exact hx

/-- A tree of disjunctions has the property if some value has it. -/
theorem reduce_iff {P : α → Prop} (hk : 2 ≤ k) (hop : ∀ f, P (op f) ↔ ∃ j, P (f j))
    (hunit : ¬ P unit) (hm : 0 < m) (x : ℕ → α) :
    P (reduce op unit m x) ↔ ∃ i < m, P (x i) := by
  induction m using Nat.strongRecOn generalizing x with
  | ind m ih =>
    have hlevel := exists_block_iff (m := m) (by omega) hop hunit x
    by_cases h : blockCount k m = 1
    · rw [reduce_of_blockCount_eq_one h, ← hlevel, h]
      simp
    · have hpos := blockCount_pos (k := k) (by omega) hm
      have hm2 := two_le_of_blockCount_ne_one hk hm h
      rw [reduce_of_blockCount_ne_one hk hm2 h,
        ih _ (blockCount_lt hk hm2) hpos, hlevel]

end Reduce

end ReductionTree
