import WirePatch.Fabric.Stitch
import Mathlib.Data.List.Basic

/-!
# The circuit the generator writes

The wires of a generated fabric as functions of its registers and inputs. Every run of the
netlist has these values, and they give a run: the netlist is a machine whose registers are those
of its assertion blocks.

## Main definitions

* `Fabric.routed`, `Fabric.compared`, `Fabric.assertionPorts`, `Fabric.assertionResult`: the
  layers of the fabric.
* `Fabric.assertionViolated`, `Fabric.assertionsViolated`: its outputs.
* `Fabric.values`: all its wires.

## Main results

* `Fabric.IsRun.assertionViolated_eq`, `Fabric.IsRun.assertionsViolated_eq`: the outputs of every
  run.
* `Fabric.isRun_values`: the wires computed this way are a run.
-/

namespace WirePatch.Fabric

open Clocked

/-! ### The layers -/

section Layers

variable (x : FabricPorts) (σ : ℕ → OvlCombo)

/-- The outputs of `routingBlock_k`. -/
def routed (k : ℕ) : BlockOut (BitVec 32) :=
  routingBlock x.routingInput (x.config.inputSelect k)

/-- The configuration of `logicBlock_k`. -/
def logicConfigAt (config : Config) (k : ℕ) : LogicConfig where
  maskA := config.maskA k
  maskB := config.maskB k
  constant := config.constant k
  opBMux := config.opBMux k
  resultMux := config.resultMux k

/-- The outputs of `logicBlock_k`. -/
def compared (k : ℕ) : BlockOut Bool :=
  logicBlock (logicConfigAt x.config k) (routed x (k * 2)).out (routed x (k * 2 + 1)).out
    ((routed x (k * 2)).configInvalid || (routed x (k * 2 + 1)).configInvalid)

theorem compared_out (k : ℕ) : (compared x k).out =
    comparison (x.config.resultMux k) ((routed x (k * 2)).out &&& x.config.maskA k)
      (if x.config.opBMux k = 1 then (routed x (k * 2 + 1)).out &&& x.config.maskB k
      else x.config.constant k) := rfl

theorem compared_configInvalid (k : ℕ) : (compared x k).configInvalid =
    ((routed x (k * 2)).configInvalid || (routed x (k * 2 + 1)).configInvalid ||
      decide (5 < (x.config.resultMux k).toNat)) := rfl

/-- The inputs of `assertionBlock_i`. -/
def assertionPorts (i : ℕ) : OvlCombo.Ports where
  control := x.control
  numCks := x.config.numCks i
  startEvent := (compared x (i * 2)).out
  testExpr := (compared x (i * 2 + 1)).out
  select := x.config.select i
  prevConfigInvalid := (compared x (i * 2)).configInvalid || (compared x (i * 2 + 1)).configInvalid

/-- The wire `assertionBlock_i_result`. -/
def assertionResult (i : ℕ) : Bool :=
  if (x.config.resSel i).getLsbD 0 then (σ i).outDelayed else (σ i).out (assertionPorts x i)

/-- The wire `anyConfigInvalid` of a fabric with `n` assertions. -/
def anyConfigInvalid (n : ℕ) : Bool :=
  (List.range n).any fun i => OvlCombo.configInvalid (assertionPorts x i)

/-- The output `assertionViolated` of a fabric with `n` assertions. -/
def assertionViolated (n : ℕ) (merge : (Fin 6 → Bool) → Bool) : Bool :=
  ReductionTree.reduce merge false n (assertionResult x σ) && !anyConfigInvalid x n

/-- The output `assertionsViolated` of a fabric with `n` assertions. The first assertion is the
most significant. -/
def assertionsViolated (n : ℕ) : BitVec 32 :=
  (List.range n).foldl
    (fun acc i => acc <<< 1 ||| (BitVec.ofBool (assertionResult x σ i)).setWidth 32) 0

/-- The registers at the next clock edge. -/
def stepAssertions (i : ℕ) : OvlCombo := (σ i).step (assertionPorts x i)

end Layers

/-! ### Every run has these values -/

section Agreement

variable {n : ℕ} {merge : (Fin 6 → Bool) → Bool} {σ σ' : ℕ → OvlCombo} {x : FabricPorts}
  {v : Values}

/-- The wires satisfy every item of the fabric with `n` assertions. -/
abbrev Satisfied (n : ℕ) (merge : (Fin 6 → Bool) → Bool) (σ : ℕ → OvlCombo) (x : FabricPorts)
    (v : Values) : Prop :=
  ∀ item ∈ (stitch n).lines, item.Holds merge σ x v

theorem mem_lines_routing {k : ℕ} (h : k < n * 2 * 2) :
    Item.routingBlock (.inputSelect k) k (.routingConfigInvalid k) ∈ (stitch n).lines := by
  simp [stitch, printRoutingBlocks, h]

theorem mem_lines_logic {k : ℕ} (h : k < n * 2) : printLogicBlock k ∈ (stitch n).lines := by
  refine List.mem_append_left _ (List.mem_append_left _ (List.mem_append_right _ ?_))
  exact List.mem_map_of_mem (List.mem_range.mpr h)

theorem mem_lines_assertion {i : ℕ} (h : i < n) {item : Item}
    (hitem : item ∈ printAssertionBlock i) : item ∈ (stitch n).lines := by
  refine List.mem_append_left _ (List.mem_append_right _ (List.mem_append_left _ ?_))
  exact List.mem_flatMap.mpr ⟨i, List.mem_range.mpr h, hitem⟩

theorem Satisfied.routing (h : Satisfied n merge σ x v) {k : ℕ} (hk : k < n * 2 * 2) :
    v.routingResult k = (routed x k).out ∧
      v.wire (.routingConfigInvalid k) = (routed x k).configInvalid :=
  h _ (mem_lines_routing hk)

theorem Satisfied.logic (h : Satisfied n merge σ x v) {k : ℕ} (hk : k < n * 2) :
    v.wire (.logicResult k) = (compared x k).out ∧
      v.wire (.logicConfigInvalid k) = (compared x k).configInvalid := by
  have hlogic := h _ (mem_lines_logic hk)
  have hA := h.routing (k := k * 2) (by omega)
  have hB := h.routing (k := k * 2 + 1) (by omega)
  simp only [printLogicBlock, Item.Holds, Expr.eval, hA, hB] at hlogic
  exact hlogic

/-- The ports of an assertion block, read from the wires. -/
theorem Satisfied.assertionPorts (h : Satisfied n merge σ x v) {i : ℕ} (hi : i < n) :
    Item.comboPorts x v (.numCks i) (.logicResult (i * 2)) (.logicResult (i * 2 + 1))
      (.or (.wire (.logicConfigInvalid (i * 2))) (.wire (.logicConfigInvalid (i * 2 + 1))))
      (.select i) = assertionPorts x i := by
  have hstart := h.logic (k := i * 2) (by omega)
  have htest := h.logic (k := i * 2 + 1) (by omega)
  simp only [Item.comboPorts, Expr.eval, hstart, htest]
  rfl

theorem Satisfied.assertion (h : Satisfied n merge σ x v) {i : ℕ} (hi : i < n) :
    v.wire (.assertionResult i) = assertionResult x σ i ∧
      v.wire (.assertionConfigInvalid i) = OvlCombo.configInvalid (Fabric.assertionPorts x i) := by
  obtain ⟨hout, hdelayed, hinvalid⟩ :=
    h _ (mem_lines_assertion hi (List.mem_cons_self ..))
  have hresult := h _ (mem_lines_assertion hi (List.mem_cons_of_mem _ (List.mem_cons_self ..)))
  rw [h.assertionPorts hi] at hout hinvalid
  simp only [Item.Holds, Expr.eval, hout, hdelayed] at hresult
  exact ⟨hresult, hinvalid⟩

/-- The chain of disjunctions over the wires of all assertion blocks. -/
theorem eval_orChain (config : Config) (v : Values) (wires : ℕ → Wire) (m : ℕ) :
    Expr.eval config v ((List.range m).foldr (fun count e => .or (.wire (wires count)) e)
      (.wire (wires m))) = (List.range (m + 1)).any fun i => v.wire (wires i) := by
  rw [List.range_succ, List.any_append]
  induction List.range m with
  | nil => simp [Expr.eval]
  | cons count counts ih =>
    rw [List.foldr_cons, Expr.eval, ih, List.any_cons, ← Bool.or_assoc]
    rfl

theorem Satisfied.anyConfigInvalid (hn : 1 ≤ n) (h : Satisfied n merge σ x v) :
    v.wire .anyConfigInvalid = Fabric.anyConfigInvalid x n := by
  have hany := h (.assign .anyConfigInvalid _)
    (List.mem_append_left _ (List.mem_append_right _ (List.mem_append_right _
      (List.mem_cons_self ..))))
  rw [Item.Holds, eval_orChain x.config v .assertionConfigInvalid, Nat.sub_add_cancel hn] at hany
  rw [hany, Fabric.anyConfigInvalid]
  rw [Bool.eq_iff_iff, List.any_eq_true, List.any_eq_true]
  refine exists_congr fun i => and_congr_right fun hi => ?_
  rw [(h.assertion (List.mem_range.mp hi)).2]

/-- A loop up to the last block, and the last block. -/
theorem map_range_concat {α : Type*} (hn : 1 ≤ n) (f : ℕ → α) :
    (List.range (n - 1)).map f ++ [f (n - 1)] = (List.range n).map f := by
  rw [← List.map_singleton, ← List.map_append, ← List.range_succ, Nat.succ_eq_add_one,
    Nat.sub_add_cancel hn]

theorem Satisfied.assertionsViolated (hn : 1 ≤ n) (h : Satisfied n merge σ x v) :
    v.assertionsViolated = Fabric.assertionsViolated x σ n := by
  have hvec := h (.assignAssertionsViolated _)
    (List.mem_append_left _ (List.mem_append_right _ (List.mem_append_right _
      (List.mem_cons_of_mem _ (List.mem_cons_self ..)))))
  rw [Item.Holds, map_range_concat hn, concat, List.foldl_map] at hvec
  rw [hvec, Fabric.assertionsViolated]
  refine List.foldl_ext _ _ _ fun acc i hi => ?_
  rw [(h.assertion (List.mem_range.mp hi)).1]

/-! The merge tree -/

/-- A look-up table reduces one block of the inputs of its level. -/
theorem holds_printLUT_iff {m pLevel count : ℕ} (hcount : count < lutCount m) :
    (printLUT count pLevel
      (if count = lutCount m - 1 ∧ m % 6 ≠ 0 then m % 6 else 6)).Holds merge σ x v ↔
    v.wire (.mergeResult pLevel count) =
      ReductionTree.block merge false m (fun id => v.wire (lutInput pLevel id)) count := by
  have hinputs : (fun j : Fin 6 => Expr.eval x.config v
      (if (j : ℕ) < (if count = lutCount m - 1 ∧ m % 6 ≠ 0 then m % 6 else 6)
        then .wire (lutInput pLevel (count * 6 + j)) else .lit false)) =
      fun j : Fin 6 =>
        if count * 6 + j < m then v.wire (lutInput pLevel (count * 6 + j)) else false := by
    funext j
    have hused := ReductionTree.lt_used_iff (by decide) hcount j.isLt
    by_cases h : count * 6 + j < m
    · rw [lutCount_eq, if_pos (hused.mpr h), if_pos h]
      rfl
    · rw [lutCount_eq, if_neg (mt hused.mp h), if_neg h]
      rfl
  rw [printLUT, Item.Holds, hinputs]
  rfl

/-- The items of the levels from `pLevel` on drive `assertionViolated` with the reduction of
their inputs. -/
theorem assertionViolated_of_printLevelOfLUTs {m pLevel : ℕ} (hm : 0 < m)
    (h : ∀ item ∈ printLevelOfLUTs m pLevel, item.Holds merge σ x v) :
    v.wire .assertionViolated =
      (ReductionTree.reduce merge false m (fun id => v.wire (lutInput pLevel id)) &&
        !v.wire .anyConfigInvalid) := by
  induction m using Nat.strongRecOn generalizing pLevel with
  | ind m ih =>
    have hpos := ReductionTree.blockCount_pos (k := 6) (by decide) hm
    have hlut : ∀ count < lutCount m, v.wire (lutInput (pLevel + 1) count) =
        ReductionTree.block merge false m (fun id => v.wire (lutInput pLevel id)) count := by
      intro count hcount
      rw [printLevelOfLUTs] at h
      refine (holds_printLUT_iff hcount).mp (h _ (List.mem_append_left _ ?_))
      exact List.mem_map_of_mem (List.mem_range.mpr hcount)
    rw [printLevelOfLUTs, dif_neg (show lutCount m ≠ 0 from hpos.ne')] at h
    by_cases hone : lutCount m = 1
    · rw [dif_neg (not_not.mpr hone)] at h
      have hassign := h _ (List.mem_append_right _ (List.mem_cons_self ..))
      rw [ReductionTree.reduce_of_blockCount_eq_one hone, ← hlut 0 (by omega)]
      exact hassign
    · rw [dif_pos hone] at h
      have hm2 := ReductionTree.two_le_of_blockCount_ne_one (by decide) hm hone
      rw [ih _ (ReductionTree.blockCount_lt (by decide) hm2) hpos fun item hitem =>
          h item (List.mem_append_right _ hitem),
        ReductionTree.reduce_of_blockCount_ne_one (by decide) hm2 hone,
        ReductionTree.reduce_congr (by decide) hpos hlut]

theorem Satisfied.assertionViolated (hn : 1 ≤ n) (h : Satisfied n merge σ x v) :
    v.wire .assertionViolated = Fabric.assertionViolated x σ n merge := by
  have hresult : ∀ i < n, v.wire (lutInput 0 i) = assertionResult x σ i :=
    fun i hi => (h.assertion hi).1
  rw [assertionViolated_of_printLevelOfLUTs hn fun item hitem =>
      h item (List.mem_append_right _ hitem),
    ReductionTree.reduce_congr (by decide) hn hresult, h.anyConfigInvalid hn]
  rfl

end Agreement

/-! ### Runs -/

section Runs

variable {n : ℕ} {merge : (Fin 6 → Bool) → Bool} {x : ℕ → FabricPorts} {σ : ℕ → ℕ → OvlCombo}
  {v : ℕ → Values}

/-- The registers of the assertion blocks in every cycle of a run. -/
def fabricRegs (x : ℕ → FabricPorts) (t i : ℕ) : OvlCombo :=
  run OvlCombo.step OvlCombo.reset (fun r => assertionPorts (x r) i) t

theorem IsRun.regs_eq (h : IsRun (stitch n).lines merge x σ v) (t : ℕ) {i : ℕ} (hi : i < n) :
    σ t i = fabricRegs x t i := by
  induction t with
  | zero => exact h.init i
  | succ t ih =>
    have hsteps := h.steps t _ (mem_lines_assertion hi (List.mem_cons_self ..))
    rw [Item.Steps, Satisfied.assertionPorts (h.holds t) hi, ih] at hsteps
    exact hsteps

theorem assertionResult_congr {x : FabricPorts} {σ σ' : ℕ → OvlCombo} {i : ℕ} (h : σ i = σ' i) :
    assertionResult x σ i = assertionResult x σ' i := by
  rw [assertionResult, assertionResult, h]

theorem IsRun.assertionViolated_eq (hn : 1 ≤ n) (h : IsRun (stitch n).lines merge x σ v)
    (t : ℕ) : (v t).wire .assertionViolated =
      assertionViolated (x t) (fabricRegs x t) n merge := by
  rw [Satisfied.assertionViolated hn (h.holds t), assertionViolated,
    ReductionTree.reduce_congr (by decide) hn fun i hi =>
      assertionResult_congr (h.regs_eq t hi)]
  rfl

theorem IsRun.assertionsViolated_eq (hn : 1 ≤ n) (h : IsRun (stitch n).lines merge x σ v)
    (t : ℕ) : (v t).assertionsViolated = assertionsViolated (x t) (fabricRegs x t) n := by
  rw [Satisfied.assertionsViolated hn (h.holds t), assertionsViolated]
  refine List.foldl_ext _ _ _ fun acc i hi => ?_
  rw [assertionResult_congr (h.regs_eq t (List.mem_range.mp hi))]

end Runs

/-! ### The values are a run -/

section Existence

variable (n : ℕ) (merge : (Fin 6 → Bool) → Bool) (x : FabricPorts) (σ : ℕ → OvlCombo)

/-- The number of inputs of a level of the merge tree, and their values. -/
def levelInputs : ℕ → ℕ × (ℕ → Bool)
  | 0 => (n, assertionResult x σ)
  | level + 1 =>
    let below := levelInputs level
    (lutCount below.1, ReductionTree.block merge false below.1 below.2)

/-- The values on all wires of the fabric with `n` assertions. -/
def values : Values where
  routingResult := fun k => (routed x k).out
  wire := fun
    | .routingConfigInvalid k => (routed x k).configInvalid
    | .logicConfigInvalid k => (compared x k).configInvalid
    | .logicResult k => (compared x k).out
    | .assertionConfigInvalid i => OvlCombo.configInvalid (assertionPorts x i)
    | .assertionResultComb i => (σ i).out (assertionPorts x i)
    | .assertionResultDelayed i => (σ i).outDelayed
    | .assertionResult i => assertionResult x σ i
    | .mergeResult level id => (levelInputs n merge x σ (level + 1)).2 id
    | .anyConfigInvalid => anyConfigInvalid x n
    | .assertionViolated => assertionViolated x σ n merge
  assertionsViolated := assertionsViolated x σ n

theorem wire_values_lutInput (level id : ℕ) :
    (values n merge x σ).wire (lutInput level id) = (levelInputs n merge x σ level).2 id := by
  cases level <;> rfl

/-- The items of the levels from `level` on hold of the values, if the rest of the tree reduces
to the same result as the whole tree. -/
theorem holds_values_printLevelOfLUTs {level m : ℕ} (hm : 0 < m)
    (hinputs : (levelInputs n merge x σ level).1 = m)
    (htree : ReductionTree.reduce merge false m (levelInputs n merge x σ level).2 =
      ReductionTree.reduce merge false n (assertionResult x σ)) :
    ∀ item ∈ printLevelOfLUTs m level, item.Holds merge σ x (values n merge x σ) := by
  induction m using Nat.strongRecOn generalizing level with
  | ind m ih =>
    have hpos := ReductionTree.blockCount_pos (k := 6) (by decide) hm
    have hnext : levelInputs n merge x σ (level + 1) =
        (lutCount m, ReductionTree.block merge false m (levelInputs n merge x σ level).2) := by
      rw [levelInputs, hinputs]
    intro item hitem
    rw [printLevelOfLUTs, dif_neg (show lutCount m ≠ 0 from hpos.ne')] at hitem
    rcases List.mem_append.mp hitem with hlut | hrest
    · obtain ⟨count, hcount, rfl⟩ := List.mem_map.mp hlut
      refine (holds_printLUT_iff (List.mem_range.mp hcount)).mpr ?_
      simp only [wire_values_lutInput]
      exact congrFun (congrArg Prod.snd hnext) count
    · by_cases hone : lutCount m = 1
      · rw [dif_neg (not_not.mpr hone), List.mem_singleton] at hrest
        rw [hrest, Item.Holds]
        refine congrArg (· && !anyConfigInvalid x n) ?_
        rw [← htree, ReductionTree.reduce_of_blockCount_eq_one hone]
        exact (congrFun (congrArg Prod.snd hnext) 0).symm
      · rw [dif_pos hone] at hrest
        have hm2 := ReductionTree.two_le_of_blockCount_ne_one (by decide) hm hone
        refine ih _ (ReductionTree.blockCount_lt (by decide) hm2) hpos ?_ ?_ item hrest
        · rw [hnext, lutCount_eq]
        · rw [hnext, ← htree, ReductionTree.reduce_of_blockCount_ne_one (by decide) hm2 hone]

/-- The parts an item of the fabric may belong to. -/
theorem mem_lines_cases {item : Item} (h : item ∈ (stitch n).lines) :
    (∃ k, item = .routingBlock (.inputSelect k) k (.routingConfigInvalid k)) ∨
    (∃ k, item = printLogicBlock k) ∨ (∃ i, item ∈ printAssertionBlock i) ∨
    item = .assign .anyConfigInvalid
      ((List.range (n - 1)).foldr (fun count e => .or (.wire (.assertionConfigInvalid count)) e)
        (.wire (.assertionConfigInvalid (n - 1)))) ∨
    item = .assignAssertionsViolated
      ((List.range (n - 1)).map .assertionResult ++ [.assertionResult (n - 1)]) ∨
    item ∈ printLevelOfLUTs n 0 := by
  simp only [stitch, printRoutingBlocks, printLogicBlocks, printAssertionBlocks, printMergeBlock,
    List.mem_append, List.mem_map, List.mem_flatMap, List.mem_cons, List.not_mem_nil,
    or_false] at h
  rcases h with ((⟨k, -, rfl⟩ | ⟨k, -, rfl⟩) | ⟨i, -, hi⟩ | hany | hvec) | htree
  · exact Or.inl ⟨k, rfl⟩
  · exact Or.inr (Or.inl ⟨k, rfl⟩)
  · exact Or.inr (Or.inr (Or.inl ⟨i, hi⟩))
  · exact Or.inr (Or.inr (Or.inr (Or.inl hany)))
  · exact Or.inr (Or.inr (Or.inr (Or.inr (Or.inl hvec))))
  · exact Or.inr (Or.inr (Or.inr (Or.inr (Or.inr htree))))

variable {n}

theorem satisfied_values (hn : 1 ≤ n) : Satisfied n merge σ x (values n merge x σ) := by
  intro item hitem
  rcases mem_lines_cases n hitem with
    ⟨k, rfl⟩ | ⟨k, rfl⟩ | ⟨i, hi⟩ | rfl | rfl | htree
  · exact ⟨rfl, rfl⟩
  · exact ⟨rfl, rfl⟩
  · rcases List.mem_cons.mp hi with rfl | hi
    · exact ⟨rfl, rfl, rfl⟩
    · rw [List.mem_singleton.mp hi]
      rfl
  · rw [Item.Holds, eval_orChain x.config _ .assertionConfigInvalid, Nat.sub_add_cancel hn]
    rfl
  · rw [Item.Holds, map_range_concat hn, concat, List.foldl_map]
    rfl
  · exact holds_values_printLevelOfLUTs n merge x σ hn rfl rfl item htree

/-- Look-up tables and assignments have no registers. -/
theorem steps_of_mem_printLevelOfLUTs {σ σ' : ℕ → OvlCombo} {x : FabricPorts} {v : Values}
    {m level : ℕ} {item : Item} (h : item ∈ printLevelOfLUTs m level) :
    item.Steps σ σ' x v := by
  induction m using Nat.strongRecOn generalizing level with
  | ind m ih =>
    rw [printLevelOfLUTs] at h
    rcases List.mem_append.mp h with hlut | hrest
    · obtain ⟨count, -, rfl⟩ := List.mem_map.mp hlut
      exact trivial
    · split_ifs at hrest with h₀ h₁
      · rw [List.mem_singleton.mp hrest]
        exact trivial
      · exact ih _ (lutCount_lt h₀ h₁) hrest
      · rw [List.mem_singleton.mp hrest]
        exact trivial

/-- The netlist has a run on every trace of its inputs. -/
theorem isRun_values (hn : 1 ≤ n) (x : ℕ → FabricPorts) :
    IsRun (stitch n).lines merge x (fabricRegs x)
      (fun t => values n merge (x t) (fabricRegs x t)) where
  init := fun _ => rfl
  holds := fun t => satisfied_values merge (x t) (fabricRegs x t) hn
  steps := by
    intro t item hitem
    rcases mem_lines_cases n hitem with
      ⟨k, rfl⟩ | ⟨k, rfl⟩ | ⟨i, hi⟩ | rfl | rfl | htree
    · exact trivial
    · exact trivial
    · rcases List.mem_cons.mp hi with rfl | hi
      · rfl
      · rw [List.mem_singleton.mp hi]
        exact trivial
    · exact trivial
    · exact trivial
    · exact steps_of_mem_printLevelOfLUTs htree

end Existence

end WirePatch.Fabric
