import WirePatch.Foundations.Switch
import WirePatch.Simulator.Alu
import WirePatch.Simulator.Translation

/-!
# Special purpose registers of the simulator

`cpu_set_spr` and `cpu_get_spr`, `cpu.c`, lines 166–271, and the two instructions that use them,
`simulator.c`, lines 2107–2129. Each begins with an `assert` that `SR[SM]` is set, which the
firmware build compiles to nothing; a register that is not simulated is one of the processor the
firmware runs on.

## Main definitions

* `cpuSetSpr`, `cpuGetSpr`, `Insn.or32Mtspr`, `Insn.or32Mfspr`.
-/

namespace WirePatch

def sprNpc : U32 := 16
def sprPpc : U32 := 18
def sprEpcrBase : U32 := 32
def sprEearBase : U32 := 48
def sprEsrBase : U32 := 64
def sprDsr : U32 := (6 <<< 11) + 20
def sprMaclo : U32 := (5 <<< 11) + 1
def sprMachi : U32 := (5 <<< 11) + 2

/-- The cases of `cpu_set_spr`. -/
def cpuSetSprCases : List (U32 × (CPU → U32 → CPU)) :=
  [(sprNpc, fun cpu value => { cpu with npc := value }),
   (sprSr, fun cpu value => { cpu with sr := value &&& 0xf001ffff ||| 0x00008000 }),
   (sprPpc, fun cpu value => { cpu with pc := value }),
   (sprEpcrBase, fun cpu value => { cpu with epcr := value }),
   (sprEearBase, fun cpu value => { cpu with eear := value }),
   (sprEsrBase, fun cpu value => { cpu with esr := value }),
   (sprDsr, fun cpu value => { cpu with dsr := value }),
   (sprMaclo, fun cpu value => { cpu with maclo := value }),
   (sprMachi, fun cpu value => { cpu with machi := value })]

/-- `cpu_set_spr`. -/
def cpuSetSpr (m : Machine) (spr value : U32) : Machine :=
  match cpuSetSprCases.lookup spr with
  | some set => m.setCpu (set m.cpu value)
  | none => setSPR m spr value

/-- The cases of `cpu_get_spr`. -/
def cpuGetSprCases : List (U32 × (CPU → U32)) :=
  [(sprNpc, CPU.npc), (sprSr, CPU.sr), (sprPpc, CPU.pc), (sprEpcrBase, CPU.epcr),
   (sprEearBase, CPU.eear), (sprEsrBase, CPU.esr), (sprDsr, CPU.dsr), (sprMaclo, CPU.maclo),
   (sprMachi, CPU.machi)]

/-- `cpu_get_spr`. -/
def cpuGetSpr (m : Machine) (spr : U32) : U32 :=
  match cpuGetSprCases.lookup spr with
  | some get => get m.cpu
  | none => getSPR m spr

theorem cpuSetSpr_maclo (m : Machine) (value : U32) :
    cpuSetSpr m sprMaclo value = m.setCpu { m.cpu with maclo := value } := rfl

theorem cpuSetSpr_machi (m : Machine) (value : U32) :
    cpuSetSpr m sprMachi value = m.setCpu { m.cpu with machi := value } := rfl

theorem cpuSetSpr_ppc (m : Machine) (value : U32) :
    cpuSetSpr m sprPpc value = m.setCpu { m.cpu with pc := value } := rfl

/-- No special purpose register is the pending branch. -/
theorem cpuSetSpr_branchPc (m : Machine) (spr value : U32) :
    (cpuSetSpr m spr value).cpu.branchPc = m.cpu.branchPc := by
  unfold cpuSetSpr
  split
  · rename_i set hset
    refine Switch.forall_of_lookup
      (p := fun _ set => (set m.cpu value).branchPc = m.cpu.branchPc) ?_ hset
    simp [cpuSetSprCases]
  · rfl

/-- A write to a special purpose register other than NPC leaves the next address alone. -/
theorem cpuSetSpr_npc {spr : U32} (hspr : spr ≠ sprNpc) (m : Machine) (value : U32) :
    (cpuSetSpr m spr value).cpu.npc = m.cpu.npc := by
  unfold cpuSetSpr
  split
  · rename_i set hset
    revert hspr
    refine Switch.forall_of_lookup
      (p := fun spr set => spr ≠ sprNpc → (set m.cpu value).npc = m.cpu.npc) ?_ hset
    simp [cpuSetSprCases]
  · rfl

/-- The register an `l.mtspr` or `l.mfspr` names. -/
def sprNumber (cpu : CPU) (cont : Control) : U32 :=
  cpu.gpr cont.rA ||| cont.K

namespace Insn

/-- `or32_mtspr`. -/
def or32Mtspr (m : Machine) (cont : Control) : Machine :=
  cpuSetSpr m (sprNumber m.cpu cont) (m.cpu.gpr cont.rB)

/-- `or32_mfspr`. -/
def or32Mfspr (m : Machine) (cont : Control) : Machine :=
  m.setCpu (cpuSetGpr m.cpu cont.rD (cpuGetSpr m (sprNumber m.cpu cont)))

end Insn

end WirePatch
