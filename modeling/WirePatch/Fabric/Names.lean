import WirePatch.Fabric.Stitch

/-!
# The names of the configuration ports

The generator knows a configuration port by its name only. It declares a port, and the register
of the driver behind it, with a size that it finds by tests on the name (`getSizeNameString` of
`StitchFabric.java`, lines 138–164). Names are lists of characters.

## Main definitions

* `Fabric.Port.name`: the name of a port.
* `Fabric.upperLim`: the size the generator finds for a name.

## Main results

* `Fabric.Port.name_injective`: no two ports share a name.
* `Fabric.upperLim_name`: the size found for the name of a port is the width of the port.
-/

namespace WirePatch.Fabric

/-- A block name of the generator: the kind of the block and its number. -/
def blockName (kind : String) (count : ℕ) : List Char := kind.toList ++ Nat.toDigits 10 count

/-- The name of the routing input. -/
def routingInputName : List Char := "routingInput".toList

namespace Port

/-- The name of a port, as the generator composes it. -/
def name : Port → List Char
  | inputSelect k => blockName "routingBlock_" k ++ "_inputSelect".toList
  | maskA k => blockName "logicBlock_" k ++ "_maskA".toList
  | maskB k => blockName "logicBlock_" k ++ "_maskB".toList
  | constant k => blockName "logicBlock_" k ++ "_constant".toList
  | opBMux k => blockName "logicBlock_" k ++ "_opBMux".toList
  | resultMux k => blockName "logicBlock_" k ++ "_resultMux".toList
  | numCks i => blockName "assertionBlock_" i ++ "_num_cks".toList
  | select i => blockName "assertionBlock_" i ++ "_select".toList
  | resSel i => blockName "assertionBlock_" i ++ "_res_sel".toList

/-- Reads a name back: its letters name the port, its digits the block. -/
def ofName (name : List Char) : Option Port :=
  let count := Nat.ofDigitChars 10 (name.filter Char.isDigit) 0
  match String.ofList (name.filter fun c => !c.isDigit) with
  | "routingBlock__inputSelect" => some (inputSelect count)
  | "logicBlock__maskA" => some (maskA count)
  | "logicBlock__maskB" => some (maskB count)
  | "logicBlock__constant" => some (constant count)
  | "logicBlock__opBMux" => some (opBMux count)
  | "logicBlock__resultMux" => some (resultMux count)
  | "assertionBlock__num_cks" => some (numCks count)
  | "assertionBlock__select" => some (select count)
  | "assertionBlock__res_sel" => some (resSel count)
  | _ => none

section Filter

variable {kind suffix : String} (k : ℕ)

/-- The digits of a name whose letters have none. -/
theorem filter_isDigit_blockName (h : kind.toList.filter Char.isDigit = [])
    (h' : suffix.toList.filter Char.isDigit = []) :
    (blockName kind k ++ suffix.toList).filter Char.isDigit = Nat.toDigits 10 k := by
  have hdigits : (Nat.toDigits 10 k).filter Char.isDigit = Nat.toDigits 10 k :=
    List.filter_eq_self.mpr fun _ hc => Nat.isDigit_of_mem_toDigits (by decide) le_rfl hc
  rw [blockName, List.filter_append, List.filter_append, h, h', hdigits, List.append_nil,
    List.nil_append]

/-- Its letters. -/
theorem filter_not_isDigit_blockName (h : kind.toList.filter Char.isDigit = [])
    (h' : suffix.toList.filter Char.isDigit = []) :
    (blockName kind k ++ suffix.toList).filter (fun c => !c.isDigit) =
      kind.toList ++ suffix.toList := by
  have hdigits : (Nat.toDigits 10 k).filter (fun c => !c.isDigit) = [] :=
    List.filter_eq_nil_iff.mpr fun c hc => by
      simp [Nat.isDigit_of_mem_toDigits (by decide) le_rfl hc]
  rw [List.filter_eq_nil_iff] at h h'
  rw [blockName, List.filter_append, List.filter_append, hdigits, List.append_nil,
    List.filter_eq_self.mpr fun c hc => by simp [h c hc],
    List.filter_eq_self.mpr fun c hc => by simp [h' c hc]]

end Filter

theorem ofName_name (p : Port) : ofName p.name = some p := by
  cases p <;>
    rw [name, ofName, filter_isDigit_blockName _ (by decide) (by decide),
      filter_not_isDigit_blockName _ (by decide) (by decide), Nat.ofDigitChars_ten_toDigits] <;>
    rfl

theorem name_injective : Function.Injective name := by
  intro p q h
  have hsome : some p = some q := by rw [← ofName_name, h, ofName_name]
  exact Option.some.inj hsome

/-- No port is called as the routing input is. -/
theorem name_ne_routingInput (p : Port) : p.name ≠ routingInputName := by
  have hscore : '_' ∈ p.name := by cases p <;> simp [name, blockName]
  intro h
  rw [h] at hscore
  exact absurd hscore (by decide)

end Port

/-! ### Sizes -/

/-- `String.trim`: without the blanks at both ends. -/
def trim (s : List Char) : List Char :=
  ((s.dropWhile (· ≤ ' ')).reverse.dropWhile (· ≤ ' ')).reverse

/-- `upperLim` of `getSizeNameString`: a wire has the bits from 0 to this limit. For the routing
input the method does not use it, and returns the range of its 544 bits. -/
def upperLim (pWireName : List Char) : ℕ :=
  let name := trim pWireName
  if name = routingInputName then 544 - 1
  else if "routingBlock".toList <+: name ∧ "_inputSelect".toList <:+ name then 5 - 1
  else if "assertionBlock".toList <+: name then
    if "_select".toList <:+ name then 2 - 1
    else if "_num_cks".toList <:+ name then 3 - 1
    else 0
  else if "logicBlock".toList <+: name then
    if "_mask".toList <:+: name then 32 - 1
    else if "_constant".toList <:+ name then 32 - 1
    else if "_opBMux".toList <:+ name then 1 - 1
    else if "_resultMux".toList <:+ name then 3 - 1
    else 0
  else 0

theorem dropWhile_eq_self {s : List Char} (h : ∀ c ∈ s, ¬ c ≤ ' ') :
    s.dropWhile (· ≤ ' ') = s := by
  cases s with
  | nil => rfl
  | cons c s => exact List.dropWhile_cons_of_neg (by simpa using h c (List.mem_cons_self ..))

/-- A text without blanks has none at its ends. -/
theorem trim_eq_self {s : List Char} (h : ∀ c ∈ s, ¬ c ≤ ' ') : trim s = s := by
  have hreverse : ∀ c ∈ s.reverse, ¬ c ≤ ' ' := fun c hc => h c (List.mem_reverse.mp hc)
  rw [trim, dropWhile_eq_self h, dropWhile_eq_self hreverse, List.reverse_reverse]

/-- A name has no blanks if its letters have none. -/
theorem not_blank_blockName {kind suffix : String} (h : ∀ c ∈ kind.toList, ¬ c ≤ ' ')
    (h' : ∀ c ∈ suffix.toList, ¬ c ≤ ' ') (k : ℕ) :
    ∀ c ∈ blockName kind k ++ suffix.toList, ¬ c ≤ ' ' := by
  have hdigits : ∀ c ∈ Nat.toDigits 10 k, ¬ c ≤ ' ' := by
    intro c hc hblank
    have hdigit := Nat.isDigit_of_mem_toDigits (by decide) le_rfl hc
    rw [Char.isDigit, Bool.and_eq_true, decide_eq_true_eq] at hdigit
    exact absurd (UInt32.le_trans hdigit.1 hblank) (by decide)
  intro c hc
  rw [blockName, List.mem_append, List.mem_append] at hc
  rcases hc with (hc | hc) | hc
  · exact h c hc
  · exact hdigits c hc
  · exact h' c hc

theorem trim_name (p : Port) : trim p.name = p.name := by
  refine trim_eq_self ?_
  cases p <;> exact not_blank_blockName (by simp) (by simp) _

/-- The names of logic blocks that are not those of masks lack the letter `m`. -/
theorem not_contains_mask {suffix : String} (hm : 'm' ∉ suffix.toList) (k : ℕ) :
    ¬ "_mask".toList <:+: blockName "logicBlock_" k ++ suffix.toList := by
  have hdigits : 'm' ∉ Nat.toDigits 10 k := by
    intro hmem
    have hdigit := Nat.isDigit_of_mem_toDigits (by decide) le_rfl hmem
    exact absurd hdigit (by decide)
  intro hinfix
  have hmem := hinfix.subset (show 'm' ∈ "_mask".toList by decide)
  simp [blockName, hm, hdigits] at hmem

theorem contains_mask {suffix : String} (h : "_mask".toList <+: suffix.toList) (k : ℕ) :
    "_mask".toList <:+: blockName "logicBlock_" k ++ suffix.toList :=
  h.isInfix.trans (List.suffix_append _ _).isInfix

theorem not_prefix_name {pre kind : String} (h : ¬ pre.toList <+: kind.toList)
    (h' : ¬ kind.toList <+: pre.toList) (k : ℕ) (l : List Char) :
    ¬ pre.toList <+: blockName kind k ++ l := by
  intro hpre
  have hkind : kind.toList <+: blockName kind k ++ l := by
    rw [blockName, List.append_assoc]
    exact List.prefix_append _ _
  exact (List.prefix_or_prefix_of_prefix hpre hkind).elim h h'

theorem prefix_name {pre kind : String} (h : pre.toList <+: kind.toList) (k : ℕ)
    (l : List Char) : pre.toList <+: blockName kind k ++ l := by
  rw [blockName, List.append_assoc]
  exact h.trans (List.prefix_append _ _)

theorem not_suffix_name {suf suf' : String} (h : ¬ suf'.toList <:+ suf.toList)
    (h' : ¬ suf.toList <:+ suf'.toList) (l : List Char) : ¬ suf'.toList <:+ l ++ suf.toList := by
  intro hsuf
  exact (List.suffix_or_suffix_of_suffix hsuf (List.suffix_append l suf.toList)).elim h h'

/-- The tests on the name of a port of an assertion block. -/
theorem upperLim_assertionBlock {p : Port} {i : ℕ} {l : List Char}
    (h : p.name = blockName "assertionBlock_" i ++ l) :
    upperLim (blockName "assertionBlock_" i ++ l) =
      if "_select".toList <:+ blockName "assertionBlock_" i ++ l then 2 - 1
      else if "_num_cks".toList <:+ blockName "assertionBlock_" i ++ l then 3 - 1
      else 0 := by
  have hblock : "assertionBlock".toList <+: p.name := h ▸ prefix_name (by decide) i l
  have hrouting : ¬ "routingBlock".toList <+: p.name :=
    h ▸ not_prefix_name (by decide) (by decide) i l
  rw [← h]
  simp only [upperLim, trim_name, p.name_ne_routingInput, hblock, hrouting, if_false, if_true,
    false_and]

/-- The tests on the name of a port of a logic block. -/
theorem upperLim_logicBlock {p : Port} {k : ℕ} {l : List Char}
    (h : p.name = blockName "logicBlock_" k ++ l) :
    upperLim (blockName "logicBlock_" k ++ l) =
      if "_mask".toList <:+: blockName "logicBlock_" k ++ l then 32 - 1
      else if "_constant".toList <:+ blockName "logicBlock_" k ++ l then 32 - 1
      else if "_opBMux".toList <:+ blockName "logicBlock_" k ++ l then 1 - 1
      else if "_resultMux".toList <:+ blockName "logicBlock_" k ++ l then 3 - 1
      else 0 := by
  have hblock : "logicBlock".toList <+: p.name := h ▸ prefix_name (by decide) k l
  have hrouting : ¬ "routingBlock".toList <+: p.name :=
    h ▸ not_prefix_name (by decide) (by decide) k l
  have hassertion : ¬ "assertionBlock".toList <+: p.name :=
    h ▸ not_prefix_name (by decide) (by decide) k l
  rw [← h]
  simp only [upperLim, trim_name, p.name_ne_routingInput, hblock, hrouting, hassertion, if_false,
    if_true, false_and]

/-- The generator declares every port with its width. -/
theorem upperLim_name (p : Port) : upperLim p.name + 1 = p.width := by
  cases p with
  | inputSelect k =>
    have hblock : "routingBlock".toList <+: (Port.inputSelect k).name :=
      prefix_name (by decide) k _
    have hsuffix : "_inputSelect".toList <:+ (Port.inputSelect k).name := List.suffix_append _ _
    rw [upperLim, trim_name, if_neg (Port.name_ne_routingInput _), if_pos ⟨hblock, hsuffix⟩]
    rfl
  | maskA k =>
    rw [Port.name, upperLim_logicBlock (p := .maskA k) rfl, if_pos (contains_mask (by decide) k)]
    rfl
  | maskB k =>
    rw [Port.name, upperLim_logicBlock (p := .maskB k) rfl, if_pos (contains_mask (by decide) k)]
    rfl
  | constant k =>
    rw [Port.name, upperLim_logicBlock (p := .constant k) rfl,
      if_neg (not_contains_mask (by decide) k), if_pos (List.suffix_append _ _)]
    rfl
  | opBMux k =>
    rw [Port.name, upperLim_logicBlock (p := .opBMux k) rfl,
      if_neg (not_contains_mask (by decide) k), if_neg (not_suffix_name (by decide) (by decide) _),
      if_pos (List.suffix_append _ _)]
    rfl
  | resultMux k =>
    rw [Port.name, upperLim_logicBlock (p := .resultMux k) rfl,
      if_neg (not_contains_mask (by decide) k), if_neg (not_suffix_name (by decide) (by decide) _),
      if_neg (not_suffix_name (by decide) (by decide) _), if_pos (List.suffix_append _ _)]
    rfl
  | numCks i =>
    rw [Port.name, upperLim_assertionBlock (p := .numCks i) rfl,
      if_neg (not_suffix_name (by decide) (by decide) _), if_pos (List.suffix_append _ _)]
    rfl
  | select i =>
    rw [Port.name, upperLim_assertionBlock (p := .select i) rfl, if_pos (List.suffix_append _ _)]
    rfl
  | resSel i =>
    rw [Port.name, upperLim_assertionBlock (p := .resSel i) rfl,
      if_neg (not_suffix_name (by decide) (by decide) _),
      if_neg (not_suffix_name (by decide) (by decide) _)]
    rfl

end WirePatch.Fabric
