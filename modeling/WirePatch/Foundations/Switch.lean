import Mathlib.Data.List.Basic

/-!
# Switch tables

A `switch` without fall-through is the lookup of a key in a list of cases. What holds of every
case holds of the case that is taken.

## Main results

* `Switch.mem_of_lookup`, `Switch.forall_of_lookup`.
* `Switch.bind_lookup_isSome_iff`: when the case taken yields something.
-/

namespace Switch

variable {α β : Type*} [BEq α] [LawfulBEq α] {cases : List (α × β)} {key : α} {case : β}

/-- The case taken is one of the cases, under the key that was looked up. -/
theorem mem_of_lookup (h : cases.lookup key = some case) : (key, case) ∈ cases := by
  obtain ⟨before, after, rfl, -⟩ := List.lookup_eq_some_iff.mp h
  exact List.mem_append_right _ (List.mem_cons_self ..)

/-- What holds of every case holds of the case taken. -/
theorem forall_of_lookup {p : α → β → Prop} (hall : ∀ c ∈ cases, p c.1 c.2)
    (h : cases.lookup key = some case) : p key case :=
  hall _ (mem_of_lookup h)

/-- A case is taken exactly when the key is one of the keys. -/
theorem lookup_isSome_iff : (cases.lookup key).isSome ↔ key ∈ cases.map Prod.fst := by
  simp only [List.lookup_isSome_iff, List.mem_map, beq_iff_eq]
  exact exists_congr fun c => and_congr_right fun _ => eq_comm

/-- When the case taken yields something, for cases that do so under a condition on their key. -/
theorem bind_lookup_isSome_iff {γ : Type*} {f : β → Option γ} {p : α → Prop}
    (hall : ∀ c ∈ cases, (f c.2).isSome ↔ p c.1) :
    ((cases.lookup key).bind f).isSome ↔ key ∈ cases.map Prod.fst ∧ p key := by
  rw [← lookup_isSome_iff]
  cases h : cases.lookup key with
  | none => simp
  | some case =>
    have hcase : (f case).isSome ↔ p key := hall _ (mem_of_lookup h)
    rw [Option.bind_some, hcase, Option.isSome_some, eq_self, true_and]

end Switch
