import WirePatch.Simulator.Execute

/-!
# The test for executable instructions

`can_execute`, `simulator.c`, lines 2377–2421, which the branches and jumps apply to the
instruction in their delay slot. It looks at the opcode only, while five of the opcodes stand for
groups with sub-opcodes of their own, not all of which are implemented.

## Main definitions

* `canExecute`.
* `HasSubOpcode`: an instruction of a group has an implemented sub-opcode.

## Main results

* `canExecute_iff`: the words the test is right about.
-/

namespace WirePatch

/-- The opcodes `can_execute` lists. -/
def executableOps : List U32 :=
  [opNop, opAddi, opAddic, opOri, opAlu, opMac, opMaci, opMacrcMovhi, opMuli, opAndi, opXori, opSfi,
   opSf, opRoShiftI, opMtspr, opMfspr, opRfe,
   opJ, opJal, opJalr, opBf, opBnf, opJr,
   opLwz, opLws, opSw, opLhz, opLhs, opSh, opLbz, opLbs, opSb,
   opSysTrapSync]

/-- `can_execute`. -/
def canExecute (op : U32) : U32 :=
  if executableOps.contains (opcode op) then 1 else 0

/-- The comparisons of the flag-setting instructions. -/
def sfOps : List U32 := [0x0, 0x1, 0x2, 0x3, 0x4, 0x5, 0xa, 0xb, 0xc, 0xd]

/-- The operations of the instructions on registers, as `decode` leaves them. -/
def aluOps : List U32 :=
  [0x0, 0x1, 0x2, 0x3, 0x4, 0x5, 0x8, 0xc, 0xd, 0xe, 0xf, 0x48, 0x4c, 0x4d, 0x88, 0x8c, 0xc8, 0xcc,
   0x10f, 0x306, 0x309, 0x30a, 0x30b]

/-- The opcode has no sub-opcodes, or the instruction one that is implemented. -/
def HasSubOpcode (op : U32) (cont : Control) : Prop :=
  if op = opSfi ∨ op = opSf then cont.sfOp ∈ sfOps
  else if op = opAlu then cont.aluOp ∈ aluOps
  else if op = opMac then cont.inst &&& 0xf = 0x1 ∨ cont.inst &&& 0xf = 0x2
  else if op = opSysTrapSync then
    cont.inst &&& 0xffff0000 = 0x20000000 ∨ cont.inst &&& 0xffff0000 = 0x21000000
  else True

theorem canExecute_eq_one_iff {inst : U32} : canExecute inst = 1 ↔ opcode inst ∈ executableOps := by
  rw [canExecute]
  split_ifs with h
  · exact iff_of_true rfl (List.contains_iff_mem.mp h)
  · exact iff_of_false (by decide) (mt List.contains_iff_mem.mpr h)

/-! ### The groups -/

section Groups

variable {undef : ℕ → U32} {cpu : CPU} {cont : Control}

theorem sfi_isSome : (sfi cpu cont).isSome ↔ cont.sfOp ∈ sfOps := by
  have hkeys : (sfiCases.map Prod.fst).Perm sfOps := by decide
  rw [sfi, Option.isSome_map, Switch.lookup_isSome_iff, hkeys.mem_iff]

theorem sf_isSome : (sf cpu cont).isSome ↔ cont.sfOp ∈ sfOps := by
  have hkeys : (sfCases.map Prod.fst).Perm sfOps := by decide
  rw [sf, Option.isSome_map, Switch.lookup_isSome_iff, hkeys.mem_iff]

theorem alu_isSome : (alu undef cpu cont).isSome ↔ cont.aluOp ∈ aluOps := by
  have hkeys : ((aluCases undef).map Prod.fst).Perm aluOps := by
    simp only [aluCases, List.map_cons, List.map_nil]
    decide
  rw [alu, Option.isSome_map, Switch.lookup_isSome_iff, hkeys.mem_iff]

theorem macMsb_isSome :
    (macMsb cpu cont).isSome ↔ cont.inst &&& 0xf = 0x1 ∨ cont.inst &&& 0xf = 0x2 := by
  rw [macMsb]
  split_ifs with hmsb hmac
  · exact iff_of_true rfl (.inr hmsb)
  · exact iff_of_true rfl (.inl hmac)
  · exact iff_of_false Bool.false_ne_true (not_or_intro hmac hmsb)

theorem sysTrapSync_isSome : (Insn.sysTrapSync cpu cont).isSome ↔
    cont.inst &&& 0xffff0000 = 0x20000000 ∨ cont.inst &&& 0xffff0000 = 0x21000000 := by
  rw [Insn.sysTrapSync]
  split_ifs with hsys htrap
  · exact iff_of_true rfl (.inl hsys)
  · exact iff_of_true rfl (.inr htrap)
  · exact iff_of_false Bool.false_ne_true (not_or_intro hsys htrap)

/-- The two bits of the rotates and shifts are all taken. -/
theorem roShiftI_isSome (inst : U32) : (roShiftI undef cpu (decode inst)).isSome := by
  have hkeys : (roShiftICases undef).map Prod.fst = [0x0, 0x1, 0x2, 0x3] := rfl
  rw [roShiftI, Option.isSome_map, Switch.lookup_isSome_iff, hkeys]
  change roShiftIOp inst ∈ _
  rw [roShiftIOp, getBits_eq _ _ (by decide)]
  generalize inst.extractLsb' 6 2 = field
  revert field
  decide

end Groups

/-! ### The whole switch -/

/-- What a case of `execute` yields. The opcodes outside of the groups have no condition. -/
theorem handler_isSome_iff (inst : U32) (m : Machine) : ∀ c ∈ executeCases,
    (c.2 m (decode inst)).isSome ↔ HasSubOpcode c.1 (decode inst) := by
  have group {switch : (ℕ → U32) → CPU → Control → Option CPU} {p : Prop}
      (h : (switch m.junk m.cpu (decode inst)).isSome ↔ p) :
      (onSwitch switch m (decode inst)).isSome ↔ p := by
    rw [onSwitch, Option.isSome_map, h]
  simp only [executeCases, List.forall_mem_cons]
  have total {m' : Machine} : (some m').isSome ↔ True := iff_of_true rfl trivial
  exact ⟨total, total, total, total, total, total, total, total, total, total, total, total, total,
    total, total, total, group sfi_isSome, total, total, total, group alu_isSome,
    group macMsb_isSome, total, total, total, total, total, group sf_isSome,
    group (iff_of_true (roShiftI_isSome inst) trivial), total, total, group sysTrapSync_isSome,
    total, fun _ h => absurd h List.not_mem_nil⟩

/-- The cases of `execute` are those `can_execute` lists; the groups among them have cases of
their own. -/
theorem dispatch_isSome_iff (inst : U32) (m : Machine) :
    (dispatch (opcode inst) m (decode inst)).isSome ↔
      opcode inst ∈ executableOps ∧ HasSubOpcode (opcode inst) (decode inst) := by
  have hkeys : (executeCases.map Prod.fst).Perm executableOps := by
    simp only [executeCases, List.map_cons, List.map_nil]
    decide +kernel
  rw [dispatch, Switch.bind_lookup_isSome_iff (p := fun op => HasSubOpcode op (decode inst))
    (handler_isSome_iff inst m), hkeys.mem_iff]

theorem hasSubOpcode_of_not_mem {op : U32} (h : op ∉ executableOps) (cont : Control) :
    HasSubOpcode op cont := by
  rw [HasSubOpcode]
  split_ifs with hsf halu hmac hsys
  · rcases hsf with rfl | rfl <;> exact absurd (by decide) h
  · exact absurd (halu ▸ by decide) h
  · exact absurd (hmac ▸ by decide) h
  · exact absurd (hsys ▸ by decide) h

/-- The test for an executable instruction is right about the words outside of the groups and
about those with an implemented sub-opcode. -/
theorem canExecute_iff (inst : U32) (m : Machine) :
    (canExecute inst = 1 ↔ execute (opcode inst) m (decode inst) ≠ none) ↔
      HasSubOpcode (opcode inst) (decode inst) := by
  rw [← Option.isSome_iff_ne_none, execute, Option.isSome_map, dispatch_isSome_iff,
    canExecute_eq_one_iff, iff_self_and]
  constructor
  · intro h
    by_cases hop : opcode inst ∈ executableOps
    · exact h hop
    · exact hasSubOpcode_of_not_mem hop _
  · exact fun h _ => h

/-- `l.msync` passes the test and is not implemented. -/
theorem not_canExecute_msync : canExecute 0x22000000 = 1 ∧
    execute (opcode 0x22000000) default (decode 0x22000000) = none ∧
    ¬ (canExecute 0x22000000 = 1 ↔
      execute (opcode 0x22000000) default (decode 0x22000000) ≠ none) := by
  have htest : canExecute 0x22000000 = 1 := by decide
  have hnone : execute (opcode 0x22000000) default (decode 0x22000000) = none := rfl
  exact ⟨htest, hnone, fun h => h.mp htest hnone⟩

end WirePatch
