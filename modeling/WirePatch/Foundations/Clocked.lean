import Mathlib.Data.Finset.Card
import Mathlib.Order.Interval.Finset.Nat
import Mathlib.Order.Nat
import Mathlib.Tactic.Cases
import Mathlib.Tactic.SplitIfs

/-!
# Synchronous machines and their registers

A synchronous machine takes one step at every edge of its clock. Most of its registers share
one discipline: a synchronous reset loads a fixed value, an enable loads the data, and the
register holds its value otherwise. What such a register shows in a cycle is the data of the
latest cycle in which the enable was high, as long as no reset came in between.

## Main definitions

* `Clocked.run`: the state of a machine in every cycle.
* `Clocked.Control`, `Clocked.Control.latch`: reset, enable and the register they control.
* `Clocked.LastActive`: the latest enabled cycle before another one, with no reset since.
* `Clocked.ActiveBefore`: the enabled cycle a number of enabled cycles before another one.
* `Clocked.EnabledBefore`: the same by the number of enabled cycles since.
* `Clocked.HoldsLast`: what a register shows.

## Main results

* `Clocked.run_component`: a component of a machine runs on its own inputs.
* `Clocked.LastActive.induction`: what idle cycles keep.
* `Clocked.holdsLast_latch`, `Clocked.latch_eq_true_iff`: what a register remembers.
* `Clocked.getLsbD_shift_eq_true_iff`: what a shift register remembers.
* `Clocked.activeBefore_iff`: both ways to look back reach the same cycle.
* `Clocked.exists_rise`: a signal that is low at one enabled cycle and high at a later one rises
  between two consecutive enabled cycles.
-/

namespace Clocked

variable {σ τ ι κ α : Type*}

/-- The state of a machine in every cycle: cycle `t` takes the inputs `x t`. -/
def run (step : σ → ι → σ) (s₀ : σ) (x : ℕ → ι) : ℕ → σ
  | 0 => s₀
  | t + 1 => step (run step s₀ x t) (x t)

section Run

variable {step : σ → ι → σ} {s₀ : σ} {x : ℕ → ι}

@[simp] theorem run_zero : run step s₀ x 0 = s₀ := rfl

theorem run_succ (t : ℕ) : run step s₀ x (t + 1) = step (run step s₀ x t) (x t) := rfl

/-- A component that steps by itself, on inputs it takes from the whole machine, goes through
the states of its own run on these inputs. -/
theorem run_component {step' : τ → κ → τ} (π : σ → τ) (ports : σ → ι → κ)
    (h : ∀ s i, π (step s i) = step' (π s) (ports s i)) (t : ℕ) :
    π (run step s₀ x t) =
      run step' (π s₀) (fun r => ports (run step s₀ x r) (x r)) t := by
  induction t with
  | zero => rfl
  | succ t ih => rw [run_succ, h, ih, run_succ]

end Run

/-- What stays until a condition holds, which it does again and again, leads to what follows. -/
theorem exists_of_stays {P Q R : ℕ → Prop} (hfair : ∀ t, ∃ u, t ≤ u ∧ P u)
    (hstay : ∀ t, Q t → ¬ P t → Q (t + 1)) (hleave : ∀ t, Q t → P t → R (t + 1)) {t : ℕ}
    (h : Q t) : ∃ u, t ≤ u ∧ R (u + 1) ∧ ∀ r, t ≤ r → r ≤ u → Q r := by
  obtain ⟨v, htv, hv⟩ := hfair t
  obtain ⟨d, rfl⟩ := Nat.exists_eq_add_of_le htv
  induction d generalizing t with
  | zero => exact ⟨t, le_rfl, hleave t h hv, fun r htr hrt => Nat.le_antisymm hrt htr ▸ h⟩
  | succ d ih =>
    by_cases hp : P t
    · exact ⟨t, le_rfl, hleave t h hp, fun r htr hrt => Nat.le_antisymm hrt htr ▸ h⟩
    · rw [← Nat.add_assoc, Nat.add_right_comm] at hv
      obtain ⟨u, htu, hu, hall⟩ := ih (hstay t h hp) (Nat.le_add_right ..) hv
      refine ⟨u, (t.le_succ).trans htu, hu, fun r htr hru => ?_⟩
      rcases Nat.eq_or_lt_of_le htr with rfl | hlt
      · exact h
      · exact hall r hlt hru

/-- The control inputs of a register. -/
structure Control where
  rst : Bool
  enable : Bool
  deriving DecidableEq, Repr

namespace Control

/-- The next value of a register that holds `q`: its reset value, its data or `q`. -/
def latch (c : Control) (reset data q : α) : α :=
  if c.rst then reset else if c.enable then data else q

/-- Out of reset and enabled: the cycles in which registers load their data. -/
def IsActive (c : Control) : Prop := c.rst = false ∧ c.enable = true

/-- Out of reset and not enabled: the cycles in which registers hold their value. -/
def IsIdle (c : Control) : Prop := c.rst = false ∧ c.enable = false

instance (c : Control) : Decidable c.IsActive := inferInstanceAs (Decidable (_ ∧ _))

instance (c : Control) : Decidable c.IsIdle := inferInstanceAs (Decidable (_ ∧ _))

variable {c : Control} {reset data q : α}

theorem latch_of_isActive (h : c.IsActive) : c.latch reset data q = data := by
  rw [latch, h.1, h.2]
  rfl

theorem latch_of_isIdle (h : c.IsIdle) : c.latch reset data q = q := by
  rw [latch, h.1, h.2]
  rfl

theorem latch_of_rst (h : c.rst = true) : c.latch reset data q = reset := by
  rw [latch, if_pos h]

theorem not_isIdle_of_isActive (h : c.IsActive) : ¬ c.IsIdle := by
  rintro ⟨-, he⟩
  rw [h.2] at he
  cases he

theorem rst_or_isActive_or_isIdle (c : Control) : c.rst = true ∨ c.IsActive ∨ c.IsIdle := by
  unfold IsActive IsIdle
  cases c.rst <;> cases c.enable <;> simp

end Control

/-- `p` is the latest enabled cycle before `t`, with no reset since. -/
def LastActive (c : ℕ → Control) (p t : ℕ) : Prop :=
  p < t ∧ (c p).IsActive ∧ ∀ r < t, p < r → (c r).IsIdle

instance (c : ℕ → Control) (p t : ℕ) : Decidable (LastActive c p t) :=
  inferInstanceAs (Decidable (_ ∧ _ ∧ _))

section LastActive

variable {c : ℕ → Control} {p p' t a b : ℕ}

theorem LastActive.lt (h : LastActive c p t) : p < t := h.1

theorem LastActive.isActive (h : LastActive c p t) : (c p).IsActive := h.2.1

theorem LastActive.isIdle (h : LastActive c p t) {r : ℕ} (hpr : p < r) (hrt : r < t) :
    (c r).IsIdle := h.2.2 r hrt hpr

theorem not_lastActive_zero : ¬ LastActive c p 0 := fun h => Nat.not_lt_zero p h.lt

theorem LastActive.unique (h : LastActive c p t) (h' : LastActive c p' t) : p = p' := by
  rcases Nat.lt_trichotomy p p' with hlt | heq | hlt
  · exact absurd (h.isIdle hlt h'.lt) (Control.not_isIdle_of_isActive h'.isActive)
  · exact heq
  · exact absurd (h'.isIdle hlt h.lt) (Control.not_isIdle_of_isActive h.isActive)

/-- What holds after an enabled cycle and through the idle ones holds until the next. -/
theorem LastActive.induction {P : ℕ → Prop} (h : LastActive c p t) (hbase : P (p + 1))
    (hidle : ∀ r, p < r → r < t → (c r).IsIdle → P r → P (r + 1)) : P t := by
  have hreach (u : ℕ) (hpu : p + 1 ≤ u) (hut : u ≤ t) : P u := by
    induction u, hpu using Nat.le_induction with
    | base => exact hbase
    | succ u hpu ih =>
      exact hidle u hpu hut (h.isIdle hpu hut) (ih (Nat.le_of_succ_le hut))
  exact hreach t h.lt le_rfl

theorem lastActive_succ_of_isActive (h : (c t).IsActive) : LastActive c p (t + 1) ↔ p = t := by
  constructor
  · intro hp
    rcases Nat.lt_succ_iff_lt_or_eq.mp hp.lt with hlt | heq
    · exact absurd (hp.isIdle hlt t.lt_succ_self) (Control.not_isIdle_of_isActive h)
    · exact heq
  · rintro rfl
    exact ⟨p.lt_succ_self, h, fun r hr hpr => absurd hr (Nat.not_lt.mpr hpr)⟩

theorem lastActive_succ_of_isIdle (h : (c t).IsIdle) :
    LastActive c p (t + 1) ↔ LastActive c p t := by
  constructor
  · rintro ⟨hlt, hp, hidle⟩
    have hne : p ≠ t := by
      rintro rfl
      exact Control.not_isIdle_of_isActive hp h
    exact ⟨Nat.lt_of_le_of_ne (Nat.le_of_lt_succ hlt) hne, hp,
      fun r hr hpr => hidle r (Nat.lt_succ_of_lt hr) hpr⟩
  · rintro ⟨hlt, hp, hidle⟩
    refine ⟨Nat.lt_succ_of_lt hlt, hp, fun r hr hpr => ?_⟩
    rcases Nat.lt_succ_iff_lt_or_eq.mp hr with hrt | rfl
    · exact hidle r hrt hpr
    · exact h

theorem not_lastActive_succ_of_rst (h : (c t).rst = true) : ¬ LastActive c p (t + 1) := by
  intro hp
  have hrst : (c t).rst = false := by
    rcases Nat.lt_succ_iff_lt_or_eq.mp hp.lt with hlt | rfl
    · exact (hp.isIdle hlt t.lt_succ_self).1
    · exact hp.isActive.1
  rw [h] at hrst
  cases hrst

/-- Some cycle is the latest enabled one, once one was enabled and no reset followed. -/
theorem exists_lastActive (ha : (c a).IsActive) (hrst : ∀ r, a < r → r < t → (c r).rst = false)
    (hat : a < t) : ∃ p, LastActive c p t ∧ a ≤ p := by
  induction t with
  | zero => exact absurd hat (Nat.not_lt_zero a)
  | succ t ih =>
    by_cases hact : (c t).IsActive
    · exact ⟨t, (lastActive_succ_of_isActive hact).mpr rfl, Nat.le_of_lt_succ hat⟩
    · have hne : a ≠ t := by
        rintro rfl
        exact hact ha
      have hlt : a < t := Nat.lt_of_le_of_ne (Nat.le_of_lt_succ hat) hne
      have hidle : (c t).IsIdle := by
        rcases (c t).rst_or_isActive_or_isIdle with hr | h | h
        · rw [hrst t hlt t.lt_succ_self] at hr
          cases hr
        · exact absurd h hact
        · exact h
      obtain ⟨p, hp, hap⟩ := ih (fun r h h' => hrst r h (Nat.lt_succ_of_lt h')) hlt
      exact ⟨p, (lastActive_succ_of_isIdle hidle).mpr hp, hap⟩

/-- A signal low at one enabled cycle and high at a later one rises from one enabled cycle to
the next, somewhere between the two. -/
theorem exists_rise {f : ℕ → Bool} (ha : (c a).IsActive) (hb : (c b).IsActive) (hab : a < b)
    (hrst : ∀ r, a < r → r < b → (c r).rst = false) (hfa : f a = false) (hfb : f b = true) :
    ∃ u p, a < u ∧ u ≤ b ∧ a ≤ p ∧ (c u).IsActive ∧ LastActive c p u ∧ f p = false ∧
      f u = true := by
  induction b using Nat.strongRecOn with
  | ind b ih =>
    obtain ⟨p, hp, hap⟩ := exists_lastActive ha hrst hab
    cases hfp : f p with
    | false => exact ⟨b, p, hab, le_rfl, hap, hb, hp, hfp, hfb⟩
    | true =>
      have hlt : a < p := by
        refine lt_of_le_of_ne hap ?_
        rintro rfl
        rw [hfa] at hfp
        cases hfp
      obtain ⟨u, q, hau, hup, h⟩ := ih p hp.lt hp.isActive hlt
        (fun r h h' => hrst r h (h'.trans hp.lt)) hfp
      exact ⟨u, q, hau, hup.trans hp.lt.le, h⟩

end LastActive

/-- `p` is the enabled cycle before `t` that `k` other enabled cycles separate from it, with no
reset since. -/
def ActiveBefore (c : ℕ → Control) : ℕ → ℕ → ℕ → Prop
  | 0, p, t => LastActive c p t
  | k + 1, p, t => ∃ r, LastActive c r t ∧ ActiveBefore c k p r

section ActiveBefore

variable {c : ℕ → Control} {k p q t a b : ℕ}

theorem not_activeBefore_zero : ¬ ActiveBefore c k p 0 := by
  cases k with
  | zero => exact not_lastActive_zero
  | succ k =>
    rintro ⟨r, hr, -⟩
    exact not_lastActive_zero hr

theorem not_activeBefore_succ_of_rst (h : (c t).rst = true) : ¬ ActiveBefore c k p (t + 1) := by
  cases k with
  | zero => exact not_lastActive_succ_of_rst h
  | succ k =>
    rintro ⟨r, hr, -⟩
    exact not_lastActive_succ_of_rst h hr

theorem activeBefore_succ_of_isIdle (h : (c t).IsIdle) :
    ActiveBefore c k p (t + 1) ↔ ActiveBefore c k p t := by
  cases k with
  | zero => exact lastActive_succ_of_isIdle h
  | succ k => simp only [ActiveBefore, lastActive_succ_of_isIdle h]

theorem activeBefore_succ_of_isActive (h : (c t).IsActive) :
    ActiveBefore c (k + 1) p (t + 1) ↔ ActiveBefore c k p t := by
  simp only [ActiveBefore, lastActive_succ_of_isActive h, exists_eq_left]

/-- The number of enabled cycles from `p` on, before `t`. -/
def enabledFrom (c : ℕ → Control) (p t : ℕ) : ℕ :=
  ((Finset.Ico p t).filter fun r => (c r).enable = true).card

theorem enabledFrom_succ (h : p ≤ t) :
    enabledFrom c p (t + 1) = enabledFrom c p t + (c t).enable.toNat := by
  have hico : Finset.Ico p (t + 1) = insert t (Finset.Ico p t) := by
    ext r
    simp only [Finset.mem_Ico, Finset.mem_insert]
    omega
  rw [enabledFrom, hico, Finset.filter_insert]
  split_ifs with he
  · rw [Finset.card_insert_of_notMem (by simp), he]
    rfl
  · rw [Bool.eq_false_of_not_eq_true he]
    rfl

theorem enabledFrom_self : enabledFrom c p p = 0 := by simp [enabledFrom]

/-- `p` is the `k`-th enabled cycle before `t`, with no reset from it on. -/
def EnabledBefore (c : ℕ → Control) (k p t : ℕ) : Prop :=
  p < t ∧ (c p).enable = true ∧ (∀ r, p ≤ r → r < t → (c r).rst = false) ∧ enabledFrom c p t = k

theorem enabledBefore_succ_iff : EnabledBefore c k p (t + 1) ↔ (c t).rst = false ∧
    ((p = t ∧ (c t).enable = true ∧ k = 1) ∨ 
      ∃ j, EnabledBefore c j p t ∧ k = j + (c t).enable.toNat) := by
  constructor
  · rintro ⟨hlt, hen, hrst, hcount⟩
    refine ⟨hrst t (Nat.le_of_lt_succ hlt) t.lt_succ_self, ?_⟩
    rw [enabledFrom_succ (Nat.le_of_lt_succ hlt)] at hcount
    rcases Nat.lt_succ_iff_lt_or_eq.mp hlt with hpt | rfl
    · exact Or.inr ⟨_, ⟨hpt, hen, fun r h h' => hrst r h (Nat.lt_succ_of_lt h'), rfl⟩, hcount.symm⟩
    · rw [enabledFrom_self, hen] at hcount
      exact Or.inl ⟨rfl, hen, hcount.symm⟩
  · rintro ⟨hr, ⟨rfl, hen, rfl⟩ | ⟨j, ⟨hlt, hen, hrst, rfl⟩, rfl⟩⟩
    · refine ⟨p.lt_succ_self, hen, fun r h h' => ?_, ?_⟩
      · rwa [Nat.le_antisymm (Nat.le_of_lt_succ h') h]
      · rw [enabledFrom_succ le_rfl, enabledFrom_self, hen]
        rfl
    · refine ⟨Nat.lt_succ_of_lt hlt, hen, fun r h h' => ?_, enabledFrom_succ hlt.le⟩
      rcases Nat.lt_succ_iff_lt_or_eq.mp h' with hrt | rfl
      · exact hrst r h hrt
      · exact hr

theorem EnabledBefore.pos (h : EnabledBefore c k p t) : 0 < k := by
  rw [← h.2.2.2]
  exact Finset.card_pos.mpr ⟨p, by simp [h.1, h.2.1]⟩

theorem enabledFrom_add (hab : a ≤ b) (hbt : b ≤ t) :
    enabledFrom c a b + enabledFrom c b t = enabledFrom c a t := by
  have hdisjoint : Disjoint ((Finset.Ico a b).filter fun r => (c r).enable = true)
      ((Finset.Ico b t).filter fun r => (c r).enable = true) :=
    Finset.disjoint_filter_filter (Finset.Ico_disjoint_Ico_consecutive a b t)
  rw [enabledFrom, enabledFrom, ← Finset.card_union_of_disjoint hdisjoint, ← Finset.filter_union,
    Finset.Ico_union_Ico_eq_Ico hab hbt, enabledFrom]

/-- The latest enabled cycles before `t` come from `p` on, if that many of them do. -/
theorem EnabledBefore.le_of_le_enabledFrom (h : EnabledBefore c k q t)
    (hk : k ≤ enabledFrom c p t) : p ≤ q := by
  by_contra hlt
  rw [Nat.not_le] at hlt
  have hpos : 0 < enabledFrom c q p := Finset.card_pos.mpr ⟨q, by simp [hlt, h.2.1]⟩
  have hpt : p ≤ t := by
    by_contra htp
    have hempty : enabledFrom c p t = 0 := by
      simp [enabledFrom, Finset.Ico_eq_empty_of_le (Nat.le_of_not_le htp)]
    exact absurd h.pos (by omega)
  have hadd := enabledFrom_add (c := c) hlt.le hpt
  have hcount : enabledFrom c q t = k := h.2.2.2
  omega

/-- Going back from one latest enabled cycle to the next counts the enabled cycles. -/
theorem activeBefore_iff : ActiveBefore c k p t ↔ EnabledBefore c (k + 1) p t := by
  induction t generalizing k with
  | zero => exact iff_of_false not_activeBefore_zero fun h => Nat.not_lt_zero p h.1
  | succ t ih =>
    rw [enabledBefore_succ_iff]
    rcases (c t).rst_or_isActive_or_isIdle with hr | ha | hi
    · refine iff_of_false (not_activeBefore_succ_of_rst hr) fun h => ?_
      rw [hr] at h
      cases h.1
    · cases k with
      | zero =>
        rw [ActiveBefore, lastActive_succ_of_isActive ha, ha.1, ha.2]
        constructor
        · exact fun h => ⟨rfl, Or.inl ⟨h, rfl, rfl⟩⟩
        · rintro ⟨-, ⟨h, -⟩ | ⟨j, hj, hk⟩⟩
          · exact h
          · exact absurd (Nat.succ.inj hk).symm hj.pos.ne'
      | succ k =>
        rw [activeBefore_succ_of_isActive ha, ih, ha.1, ha.2]
        simp
    · rw [activeBefore_succ_of_isIdle hi, ih, hi.1, hi.2]
      simp

end ActiveBefore

section Latch

variable {c : ℕ → Control} {d q : ℕ → α} {z : α} {t : ℕ}

/-- A register shows the data of the latest enabled cycle. -/
theorem latch_eq_of_lastActive (hq : ∀ t, q (t + 1) = (c t).latch z (d t) (q t))
    {p t : ℕ} (h : LastActive c p t) : q t = d p := by
  induction t with
  | zero => exact absurd h not_lastActive_zero
  | succ t ih =>
    rcases (c t).rst_or_isActive_or_isIdle with hr | ha | hi
    · exact absurd h (not_lastActive_succ_of_rst hr)
    · rw [hq, Control.latch_of_isActive ha, (lastActive_succ_of_isActive ha).mp h]
    · rw [hq, Control.latch_of_isIdle hi, ih ((lastActive_succ_of_isIdle hi).mp h)]

/-- `v` is what a register shows in cycle `t`: the data of the latest enabled cycle or, if none
followed the last reset, the reset value. -/
def HoldsLast (c : ℕ → Control) (d : ℕ → α) (z v : α) (t : ℕ) : Prop :=
  (∀ p, LastActive c p t → v = d p) ∧ ((∀ p, ¬ LastActive c p t) → v = z)

theorem holdsLast_succ_of_rst {v : α} (h : (c t).rst = true) :
    HoldsLast c d z v (t + 1) ↔ v = z := by
  constructor
  · exact fun hv => hv.2 fun p => not_lastActive_succ_of_rst h
  · exact fun hv => ⟨fun p hp => absurd hp (not_lastActive_succ_of_rst h), fun _ => hv⟩

theorem holdsLast_succ_of_isIdle {v : α} (h : (c t).IsIdle) :
    HoldsLast c d z v (t + 1) ↔ HoldsLast c d z v t := by
  simp only [HoldsLast, lastActive_succ_of_isIdle h]

/-- One step of a register. -/
theorem HoldsLast.succ {v : α} (h : HoldsLast c d z v t) :
    HoldsLast c d z ((c t).latch z (d t) v) (t + 1) := by
  rcases (c t).rst_or_isActive_or_isIdle with hr | ha | hi
  · rw [holdsLast_succ_of_rst hr, Control.latch_of_rst hr]
  · rw [Control.latch_of_isActive ha]
    refine ⟨fun p hp => ?_, fun hno => absurd ((lastActive_succ_of_isActive ha).mpr rfl) (hno t)⟩
    rw [(lastActive_succ_of_isActive ha).mp hp]
  · rw [Control.latch_of_isIdle hi]
    exact (holdsLast_succ_of_isIdle hi).mpr h

/-- A register that started in its reset value. -/
theorem holdsLast_latch (hq : ∀ t, q (t + 1) = (c t).latch z (d t) (q t)) (h₀ : q 0 = z) (t : ℕ) :
    HoldsLast c d z (q t) t := by
  induction t with
  | zero => exact ⟨fun p hp => absurd hp not_lastActive_zero, fun _ => h₀⟩
  | succ t ih =>
    rw [hq]
    exact ih.succ

/-- A flag that resets to `false` is set exactly when the latest enabled cycle set it. -/
theorem latch_eq_true_iff {d q : ℕ → Bool} (hq : ∀ t, q (t + 1) = (c t).latch false (d t) (q t))
    (h₀ : q 0 = false) (t : ℕ) : q t = true ↔ ∃ p, LastActive c p t ∧ d p = true := by
  have hlast := holdsLast_latch hq h₀ t
  by_cases h : ∃ p, LastActive c p t
  · obtain ⟨p, hp⟩ := h
    rw [hlast.1 p hp]
    refine ⟨fun hd => ⟨p, hp, hd⟩, ?_⟩
    rintro ⟨p', hp', hd⟩
    rwa [hp.unique hp']
  · rw [hlast.2 (not_exists.mp h)]
    refine ⟨fun hf => absurd hf Bool.false_ne_true, ?_⟩
    rintro ⟨p, hp, -⟩
    exact absurd ⟨p, hp⟩ h

/-- Bit `j` of a shift register shows what was shifted in `j` enabled cycles before the latest
one. -/
theorem getLsbD_shift_eq_true_iff {w : ℕ} {d : ℕ → Bool} {q : ℕ → BitVec w}
    (hq : ∀ t, q (t + 1) =
      (c t).latch (0 : BitVec w) (q t <<< 1 ||| (BitVec.ofBool (d t)).setWidth w) (q t))
    (h₀ : q 0 = 0) {j : ℕ} (hj : j < w) (t : ℕ) :
    (q t).getLsbD j = true ↔ ∃ p, ActiveBefore c j p t ∧ d p = true := by
  have hbit (i t : ℕ) (hi : i < w) : (q (t + 1)).getLsbD i =
      (c t).latch false (bif i == 0 then d t else (q t).getLsbD (i - 1)) ((q t).getLsbD i) := by
    rw [hq, Control.latch, Control.latch]
    split_ifs
    · exact BitVec.getLsbD_zero
    · cases i with
      | zero => simp [hi]
      | succ i => simp [hi, BitVec.getLsbD_eq_getElem (Nat.lt_of_succ_lt hi)]
    · rfl
  have hreset (i : ℕ) : (q 0).getLsbD i = false := by
    rw [h₀]
    exact BitVec.getLsbD_zero
  induction j generalizing t with
  | zero =>
    exact latch_eq_true_iff (d := d) (q := fun t => (q t).getLsbD 0) (fun t => hbit 0 t hj)
      (hreset 0) t
  | succ j ih =>
    rw [latch_eq_true_iff (d := fun t => (q t).getLsbD j) (q := fun t => (q t).getLsbD (j + 1))
      (fun t => hbit (j + 1) t hj) (hreset _) t]
    simp only [ih (Nat.lt_of_succ_lt hj), ActiveBefore]
    constructor
    · rintro ⟨r, hr, p, hp, hd⟩
      exact ⟨p, ⟨r, hr, hp⟩, hd⟩
    · rintro ⟨p, ⟨r, hr, hp⟩, hd⟩
      exact ⟨r, hr, p, hp, hd⟩

end Latch

end Clocked
