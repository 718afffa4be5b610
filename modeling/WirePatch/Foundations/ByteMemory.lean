import Mathlib.Data.BitVec

/-!
# Big-endian byte memory

A memory of bytes over addresses of `w` bits, and reads and writes of the first `n` bytes of a
value of `m` bits, the most significant byte at the lowest address. Addresses wrap around.

## Main definitions

* `ByteMemory.read`, `ByteMemory.write`.

## Main results

* `ByteMemory.read_write_self`, `ByteMemory.read_write_of_disjoint`: what a read sees of a write.
* `ByteMemory.read_sub`: a narrow read is a field of the wide read around it.
* `ByteMemory.write_merge_read`: a wide write of the old value with one field replaced is a
  narrow write of that field.
* `ByteMemory.extract_read`, `ByteMemory.write_eq_write`: the same through the lanes of a bus that
  is `n` bytes wide.
-/

namespace ByteMemory

variable {w m : ℕ}

/-- Byte `k` of the low `n` bytes of a value, byte 0 being the most significant. -/
def byteOf (n : ℕ) (v : BitVec m) (k : ℕ) : BitVec 8 :=
  v.extractLsb' (8 * (n - 1 - k)) 8

/-- The value of the `n` bytes at an address. -/
def read : ℕ → (BitVec w → BitVec 8) → BitVec w → BitVec m
  | 0, _, _ => 0
  | n + 1, mem, a => read n mem a <<< 8 ||| (mem (a + BitVec.ofNat w n)).setWidth m

/-- The memory after the low `n` bytes of a value are stored at an address. -/
def write (n : ℕ) (mem : BitVec w → BitVec 8) (a : BitVec w) (v : BitVec m) :
    BitVec w → BitVec 8 :=
  fun x => if (x - a).toNat < n then byteOf n v (x - a).toNat else mem x

theorem getLsbD_byteOf (n : ℕ) (v : BitVec m) (k i : ℕ) :
    (byteOf n v k).getLsbD i = (decide (i < 8) && v.getLsbD (8 * (n - 1 - k) + i)) := by
  rw [byteOf, BitVec.getLsbD_extractLsb']

/-- Bit `i` of a read is a bit of the byte that covers it. -/
theorem getLsbD_read (n : ℕ) (mem : BitVec w → BitVec 8) (a : BitVec w) {i : ℕ} (hi : i < m) :
    (read n mem a : BitVec m).getLsbD i =
      (decide (i < 8 * n) && (mem (a + BitVec.ofNat w (n - 1 - i / 8))).getLsbD (i % 8)) := by
  induction n generalizing i with
  | zero => simp [read]
  | succ n ih =>
    rw [read, BitVec.getLsbD_or, BitVec.getLsbD_shiftLeft, BitVec.getLsbD_setWidth]
    by_cases h8 : i < 8
    · have hd : i / 8 = 0 := by omega
      have hm : i % 8 = i := by omega
      simp [h8, hd, hm, hi, show i < 8 * (n + 1) by omega]
    · have hbyte : n - 1 - (i - 8) / 8 = n + 1 - 1 - i / 8 := by omega
      have hbit : (i - 8) % 8 = i % 8 := by omega
      have hbelow : (i - 8 < 8 * n) = (i < 8 * (n + 1)) := by
        apply propext
        omega
      have hout : (mem (a + BitVec.ofNat w n)).getLsbD i = false :=
        BitVec.getLsbD_of_ge _ _ (by omega)
      rw [ih (by omega : i - 8 < m), hbyte, hbit]
      simp [h8, hi, hout, hbelow]

/-- The width of the value a read is put in does not matter when its bytes fit. -/
theorem setWidth_read {n v : ℕ} (mem : BitVec w → BitVec 8) (a : BitVec w) (hm : 8 * n ≤ m) :
    (read n mem a : BitVec m).setWidth v = read n mem a := by
  refine BitVec.eq_of_getLsbD_eq fun i hi => ?_
  rw [BitVec.getLsbD_setWidth, getLsbD_read n mem a hi]
  by_cases him : i < m
  · rw [getLsbD_read n mem a him, decide_eq_true hi, Bool.true_and]
  · rw [BitVec.getLsbD_of_ge _ _ (by omega), decide_eq_false (by omega : ¬ i < 8 * n),
      Bool.and_false, Bool.false_and]

theorem write_apply_of_lt {n : ℕ} {mem : BitVec w → BitVec 8} {a : BitVec w} {v : BitVec m}
    {x : BitVec w} (h : (x - a).toNat < n) : write n mem a v x = byteOf n v (x - a).toNat :=
  if_pos h

theorem write_apply_of_le {n : ℕ} {mem : BitVec w → BitVec 8} {a : BitVec w} {v : BitVec m}
    {x : BitVec w} (h : n ≤ (x - a).toNat) : write n mem a v x = mem x :=
  if_neg (by omega)

theorem add_dist (a x : BitVec w) : a + BitVec.ofNat w (x - a).toNat = x := by
  rw [BitVec.ofNat_toNat, BitVec.setWidth_eq]
  exact add_sub_cancel _ _

/-- Moving the base forward by `j` lowers the distance by `j`, around the end of the address
space when the distance is smaller. -/
theorem dist_add_base (a x : BitVec w) {j : ℕ} (hj : j ≤ 2 ^ w) :
    (x - (a + BitVec.ofNat w j)).toNat =
      if j ≤ (x - a).toNat then (x - a).toNat - j else (x - a).toNat + 2 ^ w - j := by
  have hd : (x - a).toNat < 2 ^ w := (x - a).isLt
  have hsub : x - (a + BitVec.ofNat w j) = x - a - BitVec.ofNat w j := sub_add_eq_sub_sub _ _ _
  rw [hsub, BitVec.toNat_sub, BitVec.toNat_ofNat]
  generalize (x - a).toNat = d at hd
  rcases hj.lt_or_eq with hlt | rfl
  · rw [Nat.mod_eq_of_lt hlt]
    split_ifs with h
    · rw [show 2 ^ w - j + d = d - j + 2 ^ w by omega, Nat.add_mod_right,
        Nat.mod_eq_of_lt (by omega)]
    · rw [Nat.mod_eq_of_lt (by omega)]
      omega
  · rw [Nat.mod_self, Nat.sub_zero, Nat.add_mod_left, Nat.mod_eq_of_lt hd, if_neg (by omega)]
    omega

/-- The bytes of a read are the bytes of the memory. -/
theorem byteOf_read {n k : ℕ} (mem : BitVec w → BitVec 8) (a : BitVec w) (hm : 8 * n ≤ m)
    (hk : k < n) : byteOf n (read n mem a : BitVec m) k = mem (a + BitVec.ofNat w k) := by
  refine BitVec.eq_of_getLsbD_eq fun i hi => ?_
  have hbyte : n - 1 - (8 * (n - 1 - k) + i) / 8 = k := by omega
  have hbit : (8 * (n - 1 - k) + i) % 8 = i := by omega
  have hbelow : 8 * (n - 1 - k) + i < 8 * n := by omega
  rw [getLsbD_byteOf, getLsbD_read _ _ _ (by omega : _ < m), hbyte, hbit]
  simp [hi, hbelow]

/-- Memories with the same bytes read the same. -/
theorem read_congr {n : ℕ} {mem mem' : BitVec w → BitVec 8} {a : BitVec w}
    (h : ∀ k < n, mem (a + BitVec.ofNat w k) = mem' (a + BitVec.ofNat w k)) :
    (read n mem a : BitVec m) = read n mem' a := by
  induction n with
  | zero => rfl
  | succ n ih => rw [read, read, ih fun k hk => h k (Nat.lt_succ_of_lt hk), h n n.lt_succ_self]

/-- A value is read back where it was written. -/
theorem read_write_self {n : ℕ} (mem : BitVec w → BitVec 8) (a : BitVec w) (v : BitVec (8 * n))
    (hn : n ≤ 2 ^ w) : read n (write n mem a v) a = v := by
  refine BitVec.eq_of_getLsbD_eq fun i hi => ?_
  have hk : n - 1 - i / 8 < n := by omega
  have hdist : (a + BitVec.ofNat w (n - 1 - i / 8) - a).toNat = n - 1 - i / 8 := by
    rw [add_sub_cancel_left, BitVec.toNat_ofNat, Nat.mod_eq_of_lt (by omega)]
  have hbit : 8 * (n - 1 - (n - 1 - i / 8)) + i % 8 = i := by omega
  rw [getLsbD_read _ _ _ hi, write_apply_of_lt (hdist.symm ▸ hk), hdist, getLsbD_byteOf, hbit]
  simp [hi, Nat.mod_lt]

/-- A write elsewhere is not read. -/
theorem read_write_of_disjoint {n n' m' : ℕ} (mem : BitVec w → BitVec 8) {a b : BitVec w}
    (v : BitVec m') (h : ∀ k < n, n' ≤ (a + BitVec.ofNat w k - b).toNat) :
    (read n (write n' mem b v) a : BitVec m) = read n mem a :=
  read_congr fun k hk => write_apply_of_le (h k hk)

/-- A read of `k` bytes is the field of the `n`-byte read around it that starts `j` bytes in. -/
theorem read_sub {n j k : ℕ} (mem : BitVec w → BitVec 8) (a : BitVec w) (hm : 8 * n ≤ m)
    (h : j + k ≤ n) :
    (read k mem (a + BitVec.ofNat w j) : BitVec m) =
      (read n mem a : BitVec m) >>> (8 * (n - j - k)) &&& BitVec.ofNat m (2 ^ (8 * k) - 1) := by
  refine BitVec.eq_of_getLsbD_eq fun i hi => ?_
  rw [getLsbD_read _ _ _ hi, BitVec.getLsbD_and, BitVec.getLsbD_ushiftRight, BitVec.getLsbD_ofNat,
    Nat.testBit_two_pow_sub_one]
  by_cases hik : i < 8 * k
  · have hbyte : j + (k - 1 - i / 8) = n - 1 - (8 * (n - j - k) + i) / 8 := by omega
    have hbit : (8 * (n - j - k) + i) % 8 = i % 8 := by omega
    have hbelow : 8 * (n - j - k) + i < 8 * n := by omega
    rw [getLsbD_read _ _ _ (by omega : _ < m), hbit, ← hbyte, BitVec.ofNat_add, ← BitVec.add_assoc]
    simp [hik, hi, hbelow]
  · simp [hik]

/-- The bytes of a value with the field of `k` bytes that starts `j` bytes in replaced. -/
theorem byteOf_merge {n j k p : ℕ} (u v : BitVec m) (hm : 8 * n ≤ m) (h : j + k ≤ n)
    (hp : p < n) :
    byteOf n
        (u &&& ~~~(BitVec.ofNat m (2 ^ (8 * k) - 1) <<< (8 * (n - j - k)))
          ||| (v &&& BitVec.ofNat m (2 ^ (8 * k) - 1)) <<< (8 * (n - j - k))) p =
      if j ≤ p ∧ p < j + k then byteOf k v (p - j) else byteOf n u p := by
  refine BitVec.eq_of_getLsbD_eq fun i hi => ?_
  have hbit : 8 * (n - 1 - p) + i < m := by omega
  simp only [getLsbD_byteOf, BitVec.getLsbD_or, BitVec.getLsbD_and, BitVec.getLsbD_not,
    BitVec.getLsbD_shiftLeft, BitVec.getLsbD_ofNat, Nat.testBit_two_pow_sub_one, hi, hbit,
    decide_true, Bool.true_and]
  split_ifs with hin
  · -- the byte lies in the field: only the new value reaches it
    have hge : ¬ 8 * (n - 1 - p) + i < 8 * (n - j - k) := by omega
    have hlt : 8 * (n - 1 - p) + i - 8 * (n - j - k) < 8 * k := by omega
    have hpos : 8 * (n - 1 - p) + i - 8 * (n - j - k) = 8 * (k - 1 - (p - j)) + i := by omega
    have hlt' : 8 * (k - 1 - (p - j)) + i < m := by omega
    rw [getLsbD_byteOf, hpos]
    simp [hge, hi, hlt', hpos ▸ hlt]
  · -- the byte lies outside: the mask keeps the old value and the shifted one is zero there
    rw [getLsbD_byteOf]
    by_cases hlow : 8 * (n - 1 - p) + i < 8 * (n - j - k)
    · simp [hlow, hi]
    · have hhigh : ¬ 8 * (n - 1 - p) + i - 8 * (n - j - k) < 8 * k := by omega
      simp [hlow, hhigh, hi]

/-- Storing the wide value with one field replaced is storing the field. -/
theorem write_merge_read {n j k : ℕ} (mem : BitVec w → BitVec 8) (a : BitVec w) (v : BitVec m)
    (hm : 8 * n ≤ m) (hn : n ≤ 2 ^ w) (h : j + k ≤ n) :
    write n mem a
        ((read n mem a : BitVec m) &&& ~~~(BitVec.ofNat m (2 ^ (8 * k) - 1) <<< (8 * (n - j - k)))
          ||| (v &&& BitVec.ofNat m (2 ^ (8 * k) - 1)) <<< (8 * (n - j - k))) =
      write k mem (a + BitVec.ofNat w j) v := by
  funext x
  have hdist := dist_add_base a x (show j ≤ 2 ^ w by omega)
  by_cases hx : (x - a).toNat < n
  · rw [write_apply_of_lt hx, byteOf_merge _ _ hm h hx]
    split_ifs with hin
    · rw [if_pos hin.1] at hdist
      rw [write_apply_of_lt (by omega), hdist]
    · rw [byteOf_read mem a hm hx, add_dist]
      split_ifs at hdist
      · exact (write_apply_of_le (by omega)).symm
      · exact (write_apply_of_le (by omega)).symm
  · rw [if_pos (by omega)] at hdist
    rw [write_apply_of_le (by omega), write_apply_of_le (by omega)]

/-! ### Lanes -/

/-- A read of `k` bytes is what reaches the top of the wide read around it, moved up past the `j`
bytes before it. -/
theorem extract_read {n j k : ℕ} (mem : BitVec w → BitVec 8) (a : BitVec w) (h : j + k ≤ n) :
    ((read n mem a : BitVec (8 * n)) <<< (8 * j)).extractLsb' (8 * (n - k)) (8 * k) =
      read k mem (a + BitVec.ofNat w j) := by
  refine BitVec.eq_of_getLsbD_eq fun i hi => ?_
  have hbyte : j + (k - 1 - i / 8) = n - 1 - (8 * (n - k) + i - 8 * j) / 8 := by omega
  have hbit : (8 * (n - k) + i - 8 * j) % 8 = i % 8 := by omega
  have hpos : 8 * (n - k) + i - 8 * j < 8 * n := by omega
  have hge : ¬ 8 * (n - k) + i < 8 * j := by omega
  have hlt : 8 * (n - k) + i < 8 * n := by omega
  rw [BitVec.getLsbD_extractLsb', BitVec.getLsbD_shiftLeft, getLsbD_read _ _ _ hpos,
    getLsbD_read _ _ _ hi, hbit, ← hbyte, BitVec.ofNat_add, ← BitVec.add_assoc]
  simp [hi, hpos, hge, hlt]

/-- A wide write that changes `k` bytes only is the write of these bytes. -/
theorem write_eq_write {n j k m' : ℕ} (mem : BitVec w → BitVec 8) {a : BitVec w} {v : BitVec m}
    {u : BitVec m'} (hn : n ≤ 2 ^ w) (h : j + k ≤ n)
    (hin : ∀ p < k, byteOf n v (j + p) = byteOf k u p)
    (hout : ∀ p < n, p < j ∨ j + k ≤ p → byteOf n v p = mem (a + BitVec.ofNat w p)) :
    write n mem a v = write k mem (a + BitVec.ofNat w j) u := by
  funext x
  have hdist := dist_add_base a x (show j ≤ 2 ^ w by omega)
  by_cases hx : (x - a).toNat < n
  · rw [write_apply_of_lt hx]
    by_cases hfield : j ≤ (x - a).toNat ∧ (x - a).toNat < j + k
    · rw [if_pos hfield.1] at hdist
      have hbyte := hin ((x - a).toNat - j) (by omega)
      rw [Nat.add_sub_cancel' hfield.1] at hbyte
      rw [write_apply_of_lt (by omega), hdist, hbyte]
    · rw [hout _ hx (by omega), add_dist]
      split_ifs at hdist
      · exact (write_apply_of_le (by omega)).symm
      · exact (write_apply_of_le (by omega)).symm
  · rw [if_pos (by omega)] at hdist
    rw [write_apply_of_le (by omega), write_apply_of_le (by omega)]

end ByteMemory
