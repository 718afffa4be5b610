import Mathlib.Order.Bounds.Basic
import Mathlib.Order.Lattice.Nat

/-!
# Priority chains

A chain of conditionals tests places in a fixed order and takes the value of the first place that
passes. Along increasing places this is the least place that passes, along decreasing places the
greatest one.

## Main definitions

* `PriorityChain.chain`: a chain of conditionals over a list of places.

## Main results

* `PriorityChain.chain_eq_find?`: the chain is a search in the list.
* `PriorityChain.apply_chain`, `PriorityChain.chain_map`: a function of the value, and renamed
  places.
* `PriorityChain.chain_range_of_isLeast`, `PriorityChain.chain_reverse_range_of_isGreatest`: the
  value of a chain along increasing and along decreasing places.
-/

namespace PriorityChain

variable {ι κ α β : Type*}

/-- The value of the first place in `order` that passes, and `d` when none does. -/
def chain (p : ι → Bool) (f : ι → α) (d : α) (order : List ι) : α :=
  order.foldr (fun i rest => if p i then f i else rest) d

theorem chain_eq_find? (p : ι → Bool) (f : ι → α) (d : α) (order : List ι) :
    chain p f d order = (order.find? p).elim d f := by
  induction order with
  | nil => rfl
  | cons i order ih =>
    rw [chain, List.foldr_cons, List.find?_cons]
    cases hp : p i
    · exact ih
    · rfl

theorem chain_of_forall {p : ι → Bool} {order : List ι} (h : ∀ i ∈ order, p i = false) (f : ι → α)
    (d : α) : chain p f d order = d := by
  have hnone : order.find? p = none := List.find?_eq_none.mpr fun i hi => by simp [h i hi]
  rw [chain_eq_find?, hnone, Option.elim_none]

theorem apply_chain (g : α → β) (p : ι → Bool) (f : ι → α) (d : α) (order : List ι) :
    g (chain p f d order) = chain p (g ∘ f) (g d) order := by
  rw [chain_eq_find?, chain_eq_find?]
  cases order.find? p <;> rfl

theorem chain_map (p : ι → Bool) (f : ι → α) (d : α) (place : κ → ι) (order : List κ) :
    chain p f d (order.map place) = chain (p ∘ place) (f ∘ place) d order :=
  List.foldr_map

theorem chain_congr {f f' : ι → α} {order : List ι} (h : ∀ i ∈ order, f i = f' i) (p : ι → Bool)
    (d : α) : chain p f d order = chain p f' d order := by
  rw [chain_eq_find?, chain_eq_find?]
  cases hfind : order.find? p with
  | none => rfl
  | some i => exact h i (List.mem_of_find?_eq_some hfind)

/-- Decreasing places, as a function of increasing ones. -/
theorem reverse_range (n : ℕ) : (List.range n).reverse = (List.range n).map (n - 1 - ·) := by
  rw [List.range_eq_range', List.reverse_range', Nat.zero_add, ← List.range_eq_range']

section Range

variable {p : ℕ → Bool} {n i : ℕ}

theorem chain_range_of_isLeast (h : IsLeast {j | p j = true} i) (hi : i < n) (f : ℕ → α) (d : α) :
    chain p f d (List.range n) = f i := by
  have hfind : (List.range n).find? p = some i := by
    refine List.find?_range_eq_some.mpr ⟨h.1, List.mem_range.mpr hi, fun j hj => ?_⟩
    rw [Bool.not_eq_true', ← Bool.not_eq_true]
    exact fun hp => absurd (h.2 hp) (Nat.not_le.mpr hj)
  rw [chain_eq_find?, hfind, Option.elim_some]

theorem chain_reverse_range_of_isGreatest (h : IsGreatest {j | p j = true} i) (hi : i < n)
    (f : ℕ → α) (d : α) : chain p f d (List.range n).reverse = f i := by
  have hback : n - 1 - (n - 1 - i) = i := by omega
  have hfind : (List.range n).find? (p ∘ (n - 1 - ·)) = some (n - 1 - i) := by
    refine List.find?_range_eq_some.mpr ⟨?_, List.mem_range.mpr (by omega), fun j hj => ?_⟩
    · rw [Function.comp_apply, hback]
      exact h.1
    · rw [Bool.not_eq_true', ← Bool.not_eq_true, Function.comp_apply]
      intro hp
      have hle := h.2 hp
      omega
  rw [reverse_range, chain_map, chain_eq_find?, hfind, Option.elim_some, Function.comp_apply, hback]

theorem exists_isLeast (h : ∃ j, p j = true) : ∃ i, IsLeast {j | p j = true} i :=
  ⟨_, Nat.sInf_mem h, fun _ hj => Nat.sInf_le hj⟩

theorem exists_isGreatest (h : ∃ j, p j = true) (hn : ∀ j, p j = true → j < n) :
    ∃ i, IsGreatest {j | p j = true} i := by
  have hbdd : BddAbove {j | p j = true} := ⟨n, fun j hj => (hn j hj).le⟩
  exact ⟨_, Nat.sSup_mem h hbdd, fun _ hj => le_csSup hbdd hj⟩

end Range

end PriorityChain
