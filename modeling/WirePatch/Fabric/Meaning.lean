import WirePatch.Fabric.Circuit

/-!
# What a configured fabric detects

The purpose of a fabric with `n` assertions, independent of how it is stitched: each assertion
watches two comparisons of processor state, and the fabric reports when one of them fires, as
long as no part of it is misconfigured.

## Main definitions

* `Fabric.ConfigValid`: no block is misconfigured.
* `Fabric.comparator`: a comparison the configuration describes.
* `Fabric.Fires`: an assertion fires in a cycle.

## Main results

* `Fabric.assertionViolated_iff`: the generated circuit detects exactly this, for every number
  of assertions.
-/

namespace WirePatch.Fabric

open Clocked

/-! ### The purpose of a fabric -/

/-- Every routing block selects one of the 17 words, every comparator one of the 6 comparisons,
and every assertion that looks back looks back by at least one cycle. -/
def ConfigValid (n : ℕ) (config : Config) : Prop :=
  (∀ k < 4 * n, (config.inputSelect k).toNat < 17) ∧
    (∀ k < 2 * n, (config.resultMux k).toNat ≤ 5) ∧
    ∀ i < n, config.select i = 0 ∨ config.select i = 1 → config.numCks i ≠ 0

/-- Comparator `k`: a masked word of the routing input against another masked word or a
constant. -/
def comparator (config : Config) (routingInput : BitVec 544) (k : ℕ) : Bool :=
  comparison (config.resultMux k)
    (slice routingInput (config.inputSelect (2 * k)).toNat &&& config.maskA k)
    (if config.opBMux k = 1 then
      slice routingInput (config.inputSelect (2 * k + 1)).toNat &&& config.maskB k
    else config.constant k)

section Purpose

variable (config : Config) (control : ℕ → Control) (routingInput : ℕ → BitVec 544)

/-- Assertion `i` starts on comparator `2 * i` and tests comparator `2 * i + 1`. -/
def watched (i t : ℕ) : OvlCombo.Ports where
  control := control t
  numCks := config.numCks i
  startEvent := comparator config (routingInput t) (2 * i)
  testExpr := comparator config (routingInput t) (2 * i + 1)
  select := config.select i
  prevConfigInvalid := false

/-- Assertion `i` fires in cycle `t`, or fired in the latest enabled cycle before, as its result
select says. -/
def Fires (i t : ℕ) : Prop :=
  if config.resSel i = 1 then
    ∃ p, LastActive control p t ∧ OvlCombo.outRun (watched config control routingInput i) p = true
  else OvlCombo.outRun (watched config control routingInput i) t = true

/-- The inputs of the fabric in cycle `t`, under a fixed configuration. -/
def configured (t : ℕ) : FabricPorts := ⟨control t, routingInput t, config⟩

@[simp] theorem configured_config (t : ℕ) :
    (configured config control routingInput t).config = config := rfl

end Purpose

/-! ### The circuit under a valid configuration -/

section Valid

variable {n : ℕ} {x : FabricPorts}

theorem compared_configInvalid_eq_false_iff (k : ℕ) : (compared x k).configInvalid = false ↔
    (x.config.inputSelect (k * 2)).toNat < 17 ∧
      (x.config.inputSelect (k * 2 + 1)).toNat < 17 ∧
      (x.config.resultMux k).toNat ≤ 5 := by
  simp [compared_configInvalid, routed, routingBlock, and_assoc]

/-- The wire `anyConfigInvalid` tells whether the configuration is valid. -/
theorem anyConfigInvalid_eq_false_iff :
    anyConfigInvalid x n = false ↔ ConfigValid n x.config := by
  have hblock : ∀ i, OvlCombo.configInvalid (assertionPorts x i) = false ↔
      ((x.config.inputSelect (i * 2 * 2)).toNat < 17 ∧
        (x.config.inputSelect (i * 2 * 2 + 1)).toNat < 17 ∧
        (x.config.resultMux (i * 2)).toNat ≤ 5) ∧
      ((x.config.inputSelect ((i * 2 + 1) * 2)).toNat < 17 ∧
        (x.config.inputSelect ((i * 2 + 1) * 2 + 1)).toNat < 17 ∧
        (x.config.resultMux (i * 2 + 1)).toNat ≤ 5) ∧
      (x.config.select i = 0 ∨ x.config.select i = 1 → x.config.numCks i ≠ 0) := by
    intro i
    rw [OvlCombo.configInvalid_eq_false_iff, assertionPorts, Bool.or_eq_false_iff,
      compared_configInvalid_eq_false_iff, compared_configInvalid_eq_false_iff, and_assoc]
  rw [anyConfigInvalid, List.any_eq_false]
  simp only [List.mem_range, Bool.not_eq_true, hblock]
  constructor
  · intro h
    refine ⟨fun k hk => ?_, fun k hk => ?_, fun i hi => (h i hi).2.2⟩
    · obtain ⟨⟨h0, h1, -⟩, ⟨h2, h3, -⟩, -⟩ := h (k / 4) (by omega)
      rcases (by omega : k = k / 4 * 2 * 2 ∨ k = k / 4 * 2 * 2 + 1 ∨
          k = (k / 4 * 2 + 1) * 2 ∨ k = (k / 4 * 2 + 1) * 2 + 1) with hk | hk | hk | hk
      · rwa [← hk] at h0
      · rwa [← hk] at h1
      · rwa [← hk] at h2
      · rwa [← hk] at h3
    · obtain ⟨⟨-, -, h0⟩, ⟨-, -, h1⟩, -⟩ := h (k / 2) (by omega)
      rcases (by omega : k = k / 2 * 2 ∨ k = k / 2 * 2 + 1) with hk | hk
      · rwa [← hk] at h0
      · rwa [← hk] at h1
  · rintro ⟨hselect, hmux, hcks⟩ i hi
    exact ⟨⟨hselect _ (by omega), hselect _ (by omega), hmux _ (by omega)⟩,
      ⟨hselect _ (by omega), hselect _ (by omega), hmux _ (by omega)⟩, hcks i hi⟩

/-- A logic block is a comparator under every configuration. -/
theorem compared_out_eq_comparator (x : FabricPorts) (k : ℕ) :
    (compared x k).out = comparator x.config x.routingInput k := by
  rw [compared_out, routed, routed, routingBlock_out, routingBlock_out, comparator,
    Nat.mul_comm 2 k]

/-- Under a valid configuration it reports none of it as invalid. -/
theorem compared_of_configValid (h : ConfigValid n x.config) {k : ℕ} (hk : k < 2 * n) :
    compared x k = ⟨comparator x.config x.routingInput k, false⟩ := by
  have hinvalid : (compared x k).configInvalid = false :=
    (compared_configInvalid_eq_false_iff k).mpr
      ⟨h.1 (k * 2) (by omega), h.1 (k * 2 + 1) (by omega), h.2.1 k hk⟩
  rw [← compared_out_eq_comparator, ← hinvalid]

/-- The assertion blocks of a validly configured fabric watch what they are meant to. -/
theorem assertionPorts_of_configValid {config : Config} (h : ConfigValid n config)
    (control : ℕ → Control) (routingInput : ℕ → BitVec 544) (t : ℕ) {i : ℕ} (hi : i < n) :
    assertionPorts (configured config control routingInput t) i =
      watched config control routingInput i t := by
  have hstart := compared_of_configValid (x := configured config control routingInput t) h
    (k := i * 2) (by omega)
  have htest := compared_of_configValid (x := configured config control routingInput t) h
    (k := i * 2 + 1) (by omega)
  rw [assertionPorts, hstart, htest, Nat.mul_comm i 2]
  rfl

/-- A result select has one bit. -/
theorem getLsbD_resSel_iff (config : Config) (i : ℕ) :
    (config.resSel i).getLsbD 0 = true ↔ config.resSel i = 1 := by
  generalize config.resSel i = a
  revert a
  decide

/-- The result of an assertion of a validly configured fabric. -/
theorem assertionResult_eq_true_iff {config : Config} (h : ConfigValid n config)
    (control : ℕ → Control) (routingInput : ℕ → BitVec 544) (t : ℕ) {i : ℕ} (hi : i < n) :
    assertionResult (configured config control routingInput t)
        (fabricRegs (configured config control routingInput) t) i = true ↔
      Fires config control routingInput i t := by
  have hports : (fun r => assertionPorts (configured config control routingInput r) i) =
      watched config control routingInput i :=
    funext fun r => assertionPorts_of_configValid h control routingInput r hi
  have hsel := getLsbD_resSel_iff config i
  rw [assertionResult, fabricRegs, hports, assertionPorts_of_configValid h _ _ _ hi, Fires,
    configured_config]
  by_cases hs : config.resSel i = 1
  · rw [if_pos (hsel.mpr hs), if_pos hs]
    exact OvlCombo.outDelayed_run_eq_true_iff _ _
  · rw [if_neg (mt hsel.mp hs), if_neg hs]
    rfl

end Valid

/-- The generated circuit raises `assertionViolated` exactly when its configuration is valid and
one of its assertions fires, for every number of assertions, provided the merge blocks compute
the disjunction of their inputs. -/
theorem assertionViolated_iff {n : ℕ} (hn : 1 ≤ n) {merge : (Fin 6 → Bool) → Bool}
    (hmerge : ∀ inputs, merge inputs = true ↔ ∃ j, inputs j = true) (config : Config)
    (control : ℕ → Control) (routingInput : ℕ → BitVec 544) {σ : ℕ → ℕ → OvlCombo}
    {v : ℕ → Values}
    (hrun : IsRun (stitch n).lines merge (configured config control routingInput) σ v) (t : ℕ) :
    (v t).wire .assertionViolated = true ↔
      ConfigValid n config ∧ ∃ i < n, Fires config control routingInput i t := by
  rw [hrun.assertionViolated_eq hn, assertionViolated, Bool.and_eq_true, Bool.not_eq_true',
    ReductionTree.reduce_iff (P := (· = true)) (by decide) hmerge Bool.false_ne_true hn,
    anyConfigInvalid_eq_false_iff, and_comm]
  refine and_congr_right fun hvalid => exists_congr fun i => and_congr_right fun hi => ?_
  exact assertionResult_eq_true_iff hvalid control routingInput t hi

/-- The disjunction of six inputs. -/
def orMerge (inputs : Fin 6 → Bool) : Bool := decide (∃ j, inputs j = true)

theorem orMerge_eq_true_iff (inputs : Fin 6 → Bool) :
    orMerge inputs = true ↔ ∃ j, inputs j = true := decide_eq_true_iff

/-- In every enabled cycle all assertions test whether word 0 differs from 0. -/
def testWordZero : Config
  | .select _ => 2#2
  | .maskA _ => 0xFFFFFFFF#32
  | .resultMux _ => 1#3
  | _ => 0

/-- Seven assertions need a merge tree of two levels. -/
theorem assertionViolated_iff_testWordZero :
    let x := configured testWordZero (fun _ => ⟨false, true⟩) (fun _ => 1)
    (values 7 orMerge (x 3) (fabricRegs x 3)).wire .assertionViolated = true ↔
      ConfigValid 7 testWordZero ∧
        ∃ i < 7, Fires testWordZero (fun _ => ⟨false, true⟩) (fun _ => 1) i 3 :=
  assertionViolated_iff (by decide) orMerge_eq_true_iff testWordZero _ _
    (isRun_values orMerge (by decide) _) 3

end WirePatch.Fabric
