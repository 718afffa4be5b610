import Mathlib.Tactic.Ring
import Mathlib.Tactic.Linarith

/-!
# Shift-and-add multiplication and restoring division

Arithmetic of the bit-serial algorithms of multipliers and dividers, on natural numbers.

A multiplier that reads its operand `b` from the low end has the partial product
`a * (b % 2 ^ n)` after `n` steps.

A restoring divider keeps the partial remainder, the unread part of the dividend and the partial
quotient in one double-width register: the remainder sits one place above the middle, the unread
bits follow it, and the quotient grows from the low end. Each step compares the upper half with
the divisor, subtracts it if it fits, and shifts the register by one place.

## Main definitions

* `ShiftArithmetic.divRegister`: the register of a restoring divider between two steps.
* `ShiftArithmetic.divStep`: one step.

## Main results

* `ShiftArithmetic.mul_mod_pow_succ`: one step of a multiplier.
* `ShiftArithmetic.divStep_divRegister`: a step of the divider reads one more bit.
* `ShiftArithmetic.divRegister_zero_mod`, `ShiftArithmetic.divRegister_zero_mod_div`: the quotient
  and the remainder in the final register.
-/

namespace ShiftArithmetic

/-! ### Multiplication -/

/-- The partial product after one more bit of the second operand. -/
theorem mul_mod_pow_succ (a b n : ℕ) :
    a * (b % 2 ^ (n + 1)) = a * (b % 2 ^ n) + if b / 2 ^ n % 2 = 1 then a * 2 ^ n else 0 := by
  rw [Nat.mod_pow_succ, Nat.mul_add]
  rcases Nat.mod_two_eq_zero_or_one (b / 2 ^ n) with h | h
  · simp [h]
  · simp [h]

/-! ### Division -/

/-- The register of a restoring divider for `x` by `d` after `n` steps, with `k` bits of `x` left
to read. -/
def divRegister (d x n k : ℕ) : ℕ :=
  x / 2 ^ k % d * 2 ^ (n + k + 1) + x % 2 ^ k * 2 ^ (n + 1) + x / 2 ^ k / d

/-- One step of a restoring divider whose register has two halves of `w` bits. -/
def divStep (w d r : ℕ) : ℕ :=
  if r / 2 ^ w < d then 2 * r else 2 * (r - d * 2 ^ w) + 1

/-- The upper half of the register while bits are left to read: the partial remainder followed by
the next bit. -/
def divHead (d x k : ℕ) : ℕ :=
  2 * (x / 2 ^ (k + 1) % d) + x / 2 ^ k % 2

/-- The lower half: the bits after the next one, then the partial quotient. -/
def divTail (d x n k : ℕ) : ℕ :=
  x % 2 ^ k * 2 ^ (n + 1) + x / 2 ^ (k + 1) / d

theorem div_pow_succ (x k : ℕ) : 2 * (x / 2 ^ (k + 1)) + x / 2 ^ k % 2 = x / 2 ^ k := by
  rw [pow_succ, ← Nat.div_div_eq_div_mul]
  exact Nat.div_add_mod (x / 2 ^ k) 2

theorem divRegister_succ (d x n k : ℕ) :
    divRegister d x n (k + 1) = divHead d x k * 2 ^ (n + k + 1) + divTail d x n k := by
  rw [divRegister, divHead, divTail, Nat.mod_pow_succ]
  ring

section Register

/- `n` bits of `x` are read and `k + 1` are left. -/
variable {d x n k w : ℕ}

theorem divHead_lt (hd : 0 < d) : divHead d x k < 2 * d := by
  have hr := Nat.mod_lt (x / 2 ^ (k + 1)) hd
  have hbit := Nat.mod_lt (x / 2 ^ k) Nat.two_pos
  rw [divHead]
  omega

/-- Before the first subtraction the head is what is read of the dividend. -/
theorem divHead_of_lt (h : x / 2 ^ (k + 1) < d) : divHead d x k = x / 2 ^ k := by
  rw [divHead, Nat.mod_eq_of_lt h, div_pow_succ]

theorem divTail_lt (hx : x < 2 ^ (n + k + 1)) : divTail d x n k < 2 ^ (n + k + 1) := by
  have hp : x / 2 ^ (k + 1) < 2 ^ n :=
    Nat.div_lt_of_lt_mul (by rw [← pow_add]; convert hx using 2; ring)
  have hq : x / 2 ^ (k + 1) / d < 2 ^ (n + 1) := calc
    x / 2 ^ (k + 1) / d ≤ x / 2 ^ (k + 1) := Nat.div_le_self ..
    _ < 2 ^ n := hp
    _ ≤ 2 ^ (n + 1) := Nat.pow_le_pow_right Nat.two_pos (Nat.le_succ n)
  have hs : x % 2 ^ k + 1 ≤ 2 ^ k := Nat.mod_lt _ (Nat.two_pow_pos k)
  calc
    divTail d x n k < (x % 2 ^ k + 1) * 2 ^ (n + 1) := by rw [divTail, Nat.succ_mul]; omega
    _ ≤ 2 ^ k * 2 ^ (n + 1) := Nat.mul_le_mul_right _ hs
    _ = 2 ^ (n + k + 1) := by ring

/-- The head of the register is what a step compares with the divisor. -/
theorem divRegister_div (hw : n + k + 1 = w) (hx : x < 2 ^ w) :
    divRegister d x n (k + 1) / 2 ^ w = divHead d x k := by
  subst hw
  rw [divRegister_succ, Nat.add_comm, Nat.add_mul_div_right _ _ (Nat.two_pow_pos _),
    Nat.div_eq_of_lt (divTail_lt hx), Nat.zero_add]

/-- The register of a divider fits as long as bits are left to read. -/
theorem divRegister_lt (hw : n + k + 1 = w) (hx : x < 2 ^ w) :
    divRegister d x n (k + 1) < 2 ^ w * 2 ^ w := by
  subst hw
  have hp : x / 2 ^ k < 2 ^ (n + 1) :=
    Nat.div_lt_of_lt_mul (by rw [← pow_add]; convert hx using 2; ring)
  have hhead : divHead d x k < 2 ^ (n + 1) := by
    have hr := Nat.mod_le (x / 2 ^ (k + 1)) d
    have hbit := div_pow_succ x k
    rw [divHead]
    omega
  calc
    divRegister d x n (k + 1) < (divHead d x k + 1) * 2 ^ (n + k + 1) := by
      rw [divRegister_succ, Nat.succ_mul]
      exact Nat.add_lt_add_left (divTail_lt hx) _
    _ ≤ 2 ^ (n + 1) * 2 ^ (n + k + 1) := Nat.mul_le_mul_right _ hhead
    _ ≤ 2 ^ (n + k + 1) * 2 ^ (n + k + 1) :=
      Nat.mul_le_mul_right _ (Nat.pow_le_pow_right Nat.two_pos (by omega))

/-- A step of the divider reads one more bit of the dividend. -/
theorem divStep_divRegister (hw : n + k + 1 = w) (hd : 0 < d) (hx : x < 2 ^ w) :
    divStep w d (divRegister d x n (k + 1)) = divRegister d x (n + 1) k := by
  subst hw
  have hprefix := div_pow_succ x k
  have hdiv := Nat.div_add_mod (x / 2 ^ (k + 1)) d
  have hhead : x / 2 ^ k = d * (2 * (x / 2 ^ (k + 1) / d)) + divHead d x k := by
    rw [divHead]
    linarith
  have hlt := divHead_lt (x := x) (k := k) hd
  rw [divStep, divRegister_div rfl hx]
  split_ifs with h
  · have hq : x / 2 ^ k / d = 2 * (x / 2 ^ (k + 1) / d) := by
      rw [hhead, Nat.mul_add_div hd, Nat.div_eq_of_lt h, Nat.add_zero]
    have hr : x / 2 ^ k % d = divHead d x k := by
      rw [hhead, Nat.mul_add_mod, Nat.mod_eq_of_lt h]
    rw [divRegister_succ, divRegister, hq, hr, divTail]
    ring
  · have hfit : divHead d x k = d + (divHead d x k - d) := by omega
    have hsmall : divHead d x k - d < d := by omega
    have hhead' : x / 2 ^ k = d * (2 * (x / 2 ^ (k + 1) / d) + 1) + (divHead d x k - d) := by
      rw [hhead]
      linarith
    have hq : x / 2 ^ k / d = 2 * (x / 2 ^ (k + 1) / d) + 1 := by
      rw [hhead', Nat.mul_add_div hd, Nat.div_eq_of_lt hsmall, Nat.add_zero]
    have hr : x / 2 ^ k % d = divHead d x k - d := by
      rw [hhead', Nat.mul_add_mod, Nat.mod_eq_of_lt hsmall]
    have hsub : divRegister d x n (k + 1) - d * 2 ^ (n + k + 1) =
        (divHead d x k - d) * 2 ^ (n + k + 1) + divTail d x n k := by
      rw [divRegister_succ, Nat.sub_mul]
      have hle : d * 2 ^ (n + k + 1) ≤ divHead d x k * 2 ^ (n + k + 1) :=
        Nat.mul_le_mul_right _ (Nat.le_of_not_lt h)
      omega
    rw [hsub, divRegister, hq, hr, divTail]
    ring

end Register

/-- Before the first step the register holds the dividend, one place to the left. -/
theorem divRegister_start {d x w : ℕ} (hx : x < 2 ^ w) : divRegister d x 0 w = 2 * x := by
  rw [divRegister, Nat.div_eq_of_lt hx, Nat.mod_eq_of_lt hx, Nat.zero_mod, Nat.zero_div]
  ring

/-- After the last step the register holds the remainder, one place above the middle, and the
quotient. -/
theorem divRegister_zero (d x w : ℕ) :
    divRegister d x w 0 = x % d * 2 ^ (w + 1) + x / d := by
  rw [divRegister]
  simp only [pow_zero, Nat.div_one, Nat.mod_one, Nat.zero_mul, Nat.add_zero]

/-- After the last step the register ends in the quotient. -/
theorem divRegister_zero_mod {d x w : ℕ} (hx : x < 2 ^ w) :
    divRegister d x w 0 % 2 ^ w = x / d := by
  have hq : x / d < 2 ^ w := lt_of_le_of_lt (Nat.div_le_self ..) hx
  rw [divRegister_zero, pow_succ', ← Nat.mul_assoc, Nat.mul_add_mod_self_right,
    Nat.mod_eq_of_lt hq]

/-- Above the middle, a register of two halves of `w + 1` bits keeps `w` bits of the remainder: the
last shift moves the top bit out. -/
theorem divRegister_zero_mod_div {d x w : ℕ} (hx : x < 2 ^ (w + 1)) :
    divRegister d x (w + 1) 0 % (2 ^ (w + 1) * 2 ^ (w + 1)) / 2 ^ (w + 2) = x % d % 2 ^ w := by
  have hq : x / d < 2 ^ (w + 2) := calc
    x / d ≤ x := Nat.div_le_self ..
    _ < 2 ^ (w + 1) := hx
    _ ≤ 2 ^ (w + 2) := Nat.pow_le_pow_right Nat.two_pos (Nat.le_succ _)
  have hsplit : 2 ^ (w + 1) * 2 ^ (w + 1) = 2 ^ (w + 2) * 2 ^ w := by ring
  rw [hsplit, Nat.mod_mul_right_div_self, divRegister_zero, Nat.mul_comm,
    Nat.mul_add_div (Nat.two_pow_pos _), Nat.div_eq_of_lt hq, Nat.add_zero]

end ShiftArithmetic
