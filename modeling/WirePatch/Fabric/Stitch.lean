import WirePatch.Fabric.Blocks
import WirePatch.Foundations.ReductionTree

/-!
# The generator of the fabric

`StitchFabric.java` writes the Verilog of a fabric with a given number of assertions. The model
keeps the text as data: a port, a wire and an instance are what the generator calls them, with
the same index arithmetic, the loops are maps over their counters, and the recursion over the
levels of the merge tree is the same recursion. A generated netlist has the meaning of Verilog:
in every cycle the wires satisfy every instance and every assignment, and at the clock edge every
instance with registers takes a step.

## Main definitions

* `Fabric.Port`, `Fabric.Config`: the configuration ports and the values on them.
* `Fabric.Item`: an instance or an assignment of the netlist.
* `Fabric.printRoutingBlocks`, `Fabric.printLogicBlocks`, `Fabric.printAssertionBlocks`,
  `Fabric.printLevelOfLUTs`: the parts of the generated module.
* `Fabric.stitch`: the module.
* `Fabric.Item.Holds`, `Fabric.IsRun`: its meaning.
-/

namespace WirePatch.Fabric

open Clocked

/-! ### Names -/

/-- The configuration ports, `inputWires` of the generator without `routingInput`. -/
inductive Port
  /-- `routingBlock_k_inputSelect` -/
  | inputSelect (k : ℕ)
  /-- `logicBlock_k_maskA` -/
  | maskA (k : ℕ)
  /-- `logicBlock_k_maskB` -/
  | maskB (k : ℕ)
  /-- `logicBlock_k_constant` -/
  | constant (k : ℕ)
  /-- `logicBlock_k_opBMux` -/
  | opBMux (k : ℕ)
  /-- `logicBlock_k_resultMux` -/
  | resultMux (k : ℕ)
  /-- `assertionBlock_i_num_cks` -/
  | numCks (i : ℕ)
  /-- `assertionBlock_i_select` -/
  | select (i : ℕ)
  /-- `assertionBlock_i_res_sel` -/
  | resSel (i : ℕ)
  deriving DecidableEq, Repr

/-- The number of bits `getSizeNameString` declares a port with. -/
def Port.width : Port → ℕ
  | inputSelect _ => 5
  | maskA _ => 32
  | maskB _ => 32
  | constant _ => 32
  | opBMux _ => 1
  | resultMux _ => 3
  | numCks _ => 3
  | select _ => 2
  | resSel _ => 1

/-- The values on the configuration ports. -/
abbrev Config := (p : Port) → BitVec p.width

namespace Config

variable (config : Config) (k : ℕ)

def inputSelect : BitVec 5 := config (.inputSelect k)

def maskA : BitVec 32 := config (.maskA k)

def maskB : BitVec 32 := config (.maskB k)

def constant : BitVec 32 := config (.constant k)

def opBMux : BitVec 1 := config (.opBMux k)

def resultMux : BitVec 3 := config (.resultMux k)

def numCks : BitVec 3 := config (.numCks k)

def select : BitVec 2 := config (.select k)

def resSel : BitVec 1 := config (.resSel k)

end Config

/-- The wires of one bit the generated module declares. -/
inductive Wire
  /-- `routingBlock_k_configInvalid` -/
  | routingConfigInvalid (k : ℕ)
  /-- `logicBlock_k_configInvalid` -/
  | logicConfigInvalid (k : ℕ)
  /-- `logicBlock_k_result` -/
  | logicResult (k : ℕ)
  /-- `assertionBlock_i_configInvalid` -/
  | assertionConfigInvalid (i : ℕ)
  /-- `assertionBlock_i_result_comb` -/
  | assertionResultComb (i : ℕ)
  /-- `assertionBlock_i_result_delayed` -/
  | assertionResultDelayed (i : ℕ)
  /-- `assertionBlock_i_result` -/
  | assertionResult (i : ℕ)
  /-- `mergeBlock_level_id_result` -/
  | mergeResult (level id : ℕ)
  /-- `anyConfigInvalid` -/
  | anyConfigInvalid
  /-- `assertionViolated` -/
  | assertionViolated
  deriving DecidableEq, Repr

/-- The expressions the generator writes in port connections and assignments. -/
inductive Expr
  | lit (b : Bool)
  | wire (w : Wire)
  | not (e : Expr)
  | and (e e' : Expr)
  | or (e e' : Expr)
  /-- `port ? e : e'`, for a port of one bit. -/
  | mux (port : Port) (e e' : Expr)

/-- The items of the generated module. `routingBlock_k` drives the wire
`routingBlock_k_result` of 32 bits, named by `k`. -/
inductive Item
  | routingBlock (inputSelect : Port) (out : ℕ) (configInvalid : Wire)
  | logicBlock (stateA : ℕ) (maskA : Port) (stateB : ℕ) (maskB constant opBMux : Port)
      (prevConfigInvalid : Expr) (resultMux : Port) (out configInvalid : Wire)
  /-- The instance `assertionBlock_i`. -/
  | assertionBlock (i : ℕ) (numCks : Port) (startEvent testExpr : Wire) (prevConfigInvalid : Expr)
      (select : Port) (out outDelayed configInvalid : Wire)
  | mergeBlock (asserts : Fin 6 → Expr) (out : Wire)
  | assign (lhs : Wire) (rhs : Expr)
  /-- `assign assertionsViolated = {…}`, the first wire being the most significant. -/
  | assignAssertionsViolated (bits : List Wire)

/-! ### The generator -/

/-- What a method adds to the lists `inputWires` and `lines`. -/
structure Printed where
  inputWires : List Port
  lines : List Item

def printRoutingBlocks (pNumBlocks : ℕ) : Printed where
  inputWires := (List.range pNumBlocks).map .inputSelect
  lines := (List.range pNumBlocks).map fun count =>
    .routingBlock (.inputSelect count) count (.routingConfigInvalid count)

/-- The instance `logicBlock_count`. -/
def printLogicBlock (count : ℕ) : Item :=
  .logicBlock (count * 2) (.maskA count) (count * 2 + 1) (.maskB count) (.constant count)
    (.opBMux count)
    (.or (.wire (.routingConfigInvalid (count * 2)))
      (.wire (.routingConfigInvalid (count * 2 + 1))))
    (.resultMux count) (.logicResult count) (.logicConfigInvalid count)

def printLogicBlocks (pNumBlocks : ℕ) : Printed where
  inputWires := (List.range pNumBlocks).flatMap fun count =>
    [.maskA count, .maskB count, .constant count, .opBMux count, .resultMux count]
  lines := (List.range pNumBlocks).map printLogicBlock

/-- The instance `assertionBlock_count` and the assignment of its result. -/
def printAssertionBlock (count : ℕ) : List Item :=
  [.assertionBlock count (.numCks count) (.logicResult (count * 2)) (.logicResult (count * 2 + 1))
      (.or (.wire (.logicConfigInvalid (count * 2)))
        (.wire (.logicConfigInvalid (count * 2 + 1))))
      (.select count) (.assertionResultComb count) (.assertionResultDelayed count)
      (.assertionConfigInvalid count),
    .assign (.assertionResult count)
      (.mux (.resSel count) (.wire (.assertionResultDelayed count))
        (.wire (.assertionResultComb count)))]

/-- The assertion blocks, the merged `configInvalid` and the concatenated results. -/
def printAssertionBlocks (pNumBlocks : ℕ) : Printed where
  inputWires := (List.range pNumBlocks).flatMap fun count =>
    [.numCks count, .select count, .resSel count]
  lines := (List.range pNumBlocks).flatMap printAssertionBlock ++
    [.assign .anyConfigInvalid
        ((List.range (pNumBlocks - 1)).foldr
          (fun count e => .or (.wire (.assertionConfigInvalid count)) e)
          (.wire (.assertionConfigInvalid (pNumBlocks - 1)))),
      .assignAssertionsViolated
        ((List.range (pNumBlocks - 1)).map .assertionResult ++
          [.assertionResult (pNumBlocks - 1)])]

/-- The wire that feeds input `id` of a level: a result of the level below or, at level 0, of
an assertion block. -/
def lutInput (pLevel id : ℕ) : Wire :=
  if pLevel = 0 then .assertionResult id else .mergeResult (pLevel - 1) id

def printLUT (pID pLevel pUsedInputs : ℕ) : Item :=
  .mergeBlock
    (fun inCount =>
      if (inCount : ℕ) < pUsedInputs then .wire (lutInput pLevel (pID * 6 + inCount))
      else .lit false)
    (.mergeResult pLevel pID)

/-- The number of look-up tables of a level, rounded up to the nearest whole one. -/
def lutCount (pNumInputs : ℕ) : ℕ :=
  if pNumInputs % 6 = 0 then pNumInputs / 6 else pNumInputs / 6 + 1

theorem lutCount_eq (pNumInputs : ℕ) :
    lutCount pNumInputs = ReductionTree.blockCount 6 pNumInputs := rfl

/-- The look-up tables of a level. The last one may use fewer inputs. -/
def lutLevel (pNumInputs pLevel : ℕ) : List Item :=
  (List.range (lutCount pNumInputs)).map fun count =>
    printLUT count pLevel
      (if count = lutCount pNumInputs - 1 ∧ pNumInputs % 6 ≠ 0 then pNumInputs % 6 else 6)

theorem lutCount_lt {pNumInputs : ℕ} (h₀ : lutCount pNumInputs ≠ 0)
    (h₁ : lutCount pNumInputs ≠ 1) : lutCount pNumInputs < pNumInputs := by
  refine ReductionTree.blockCount_lt (by decide) ?_
  unfold lutCount at h₀ h₁
  split_ifs at h₀ h₁ <;> omega

/-- A level of the merge tree and, if it has more than one result, the levels above. -/
def printLevelOfLUTs (pNumInputs pLevel : ℕ) : List Item :=
  lutLevel pNumInputs pLevel ++
    if _h₀ : lutCount pNumInputs = 0 then [.assign .assertionViolated (.lit false)]
    else if _h₁ : lutCount pNumInputs ≠ 1 then
      printLevelOfLUTs (lutCount pNumInputs) (pLevel + 1)
    else
      [.assign .assertionViolated
        (.and (.wire (.mergeResult pLevel 0)) (.not (.wire .anyConfigInvalid)))]
termination_by pNumInputs
decreasing_by exact lutCount_lt _h₀ _h₁

def printMergeBlock (pNumInputs : ℕ) : List Item := printLevelOfLUTs pNumInputs 0

/-- The module `assertionFabric` the generator writes for `numAsserts` assertions. -/
def stitch (numAsserts : ℕ) : Printed :=
  let numLogicBlocks := numAsserts * 2
  let numRoutingBlocks := numLogicBlocks * 2
  let routing := printRoutingBlocks numRoutingBlocks
  let logic := printLogicBlocks numLogicBlocks
  let assertion := printAssertionBlocks numAsserts
  { inputWires := routing.inputWires ++ logic.inputWires ++ assertion.inputWires
    lines := routing.lines ++ logic.lines ++ assertion.lines ++ printMergeBlock numAsserts }

/-! ### Meaning of a netlist -/

/-- The inputs of the fabric in a cycle. -/
structure FabricPorts where
  control : Control
  routingInput : BitVec 544
  config : Config

/-- The values on the wires in a cycle. -/
structure Values where
  routingResult : ℕ → BitVec 32
  wire : Wire → Bool
  assertionsViolated : BitVec 32

/-- The value of an expression. -/
def Expr.eval (config : Config) (v : Values) : Expr → Bool
  | lit b => b
  | wire w => v.wire w
  | not e => !e.eval config v
  | and e e' => e.eval config v && e'.eval config v
  | or e e' => e.eval config v || e'.eval config v
  | mux port e e' => if (config port).getLsbD 0 then e.eval config v else e'.eval config v

/-- The concatenation of wires, the first being the most significant. -/
def concat (v : Values) (bits : List Wire) : BitVec 32 :=
  bits.foldl (fun acc w => acc <<< 1 ||| (BitVec.ofBool (v.wire w)).setWidth 32) 0

namespace Item

/-- The ports of an assertion block. A port connection adapts the width of the value. -/
def comboPorts (x : FabricPorts) (v : Values) (numCks : Port) (startEvent testExpr : Wire)
    (prevConfigInvalid : Expr) (select : Port) : OvlCombo.Ports where
  control := x.control
  numCks := (x.config numCks).setWidth 3
  startEvent := v.wire startEvent
  testExpr := v.wire testExpr
  select := (x.config select).setWidth 2
  prevConfigInvalid := prevConfigInvalid.eval x.config v

/-- The configuration of a logic block. -/
def logicConfig (x : FabricPorts) (maskA maskB constant opBMux resultMux : Port) :
    LogicConfig where
  maskA := (x.config maskA).setWidth 32
  maskB := (x.config maskB).setWidth 32
  constant := (x.config constant).setWidth 32
  opBMux := (x.config opBMux).setWidth 1
  resultMux := (x.config resultMux).setWidth 3

/-- The wires satisfy an item, where `σ i` are the registers of `assertionBlock_i` and
`merge` is the function of `mergeBlock`. -/
def Holds (merge : (Fin 6 → Bool) → Bool) (σ : ℕ → OvlCombo) (x : FabricPorts) (v : Values) :
    Item → Prop
  | routingBlock inputSelect out configInvalid =>
    let b := Fabric.routingBlock x.routingInput ((x.config inputSelect).setWidth 5)
    v.routingResult out = b.out ∧ v.wire configInvalid = b.configInvalid
  | logicBlock stateA maskA stateB maskB constant opBMux prevConfigInvalid resultMux out
      configInvalid =>
    let b := Fabric.logicBlock (logicConfig x maskA maskB constant opBMux resultMux)
      (v.routingResult stateA) (v.routingResult stateB) (prevConfigInvalid.eval x.config v)
    v.wire out = b.out ∧ v.wire configInvalid = b.configInvalid
  | assertionBlock i numCks startEvent testExpr prevConfigInvalid select out outDelayed
      configInvalid =>
    let y := comboPorts x v numCks startEvent testExpr prevConfigInvalid select
    v.wire out = (σ i).out y ∧ v.wire outDelayed = (σ i).outDelayed ∧
      v.wire configInvalid = OvlCombo.configInvalid y
  | mergeBlock asserts out => v.wire out = merge fun j => (asserts j).eval x.config v
  | assign lhs rhs => v.wire lhs = rhs.eval x.config v
  | assignAssertionsViolated bits => v.assertionsViolated = concat v bits

/-- The registers of an item take a step. -/
def Steps (σ σ' : ℕ → OvlCombo) (x : FabricPorts) (v : Values) : Item → Prop
  | assertionBlock i numCks startEvent testExpr prevConfigInvalid select _ _ _ =>
    σ' i = (σ i).step (comboPorts x v numCks startEvent testExpr prevConfigInvalid select)
  | _ => True

end Item

/-- A run of a netlist that starts after a reset: in every cycle the wires satisfy every item,
and the registers of every item step to the next cycle. -/
structure IsRun (lines : List Item) (merge : (Fin 6 → Bool) → Bool) (x : ℕ → FabricPorts)
    (σ : ℕ → ℕ → OvlCombo) (v : ℕ → Values) : Prop where
  init : ∀ i, σ 0 i = OvlCombo.reset
  holds : ∀ t, ∀ item ∈ lines, item.Holds merge (σ t) (x t) (v t)
  steps : ∀ t, ∀ item ∈ lines, item.Steps (σ t) (σ (t + 1)) (x t) (v t)

end WirePatch.Fabric
