import WirePatch.Foundations.ByteMemory
import WirePatch.Hardware.Processor
import WirePatch.Simulator.Spr

/-!
# The handler of a violation

`iieHandler.S`: the code a violation of a checker transfers control to. It saves the interrupted
program in the C variable `cpu`, calls the recovery routine on it and loads the program from there
again. The variable is a `struct CPU`, the registers of the simulator, and is word-aligned; the
offsets of its fields are written down a second time in the handler.

The instructions are those the handler consists of. The flags they set are left out: the handler
reads none of them, and the return loads the supervision register.

## Main definitions

* `HandlerInsn`, `execAll`: the instructions of the handler.
* `readCpu`: the variable `cpu` as a `struct CPU`.
* `saveCode`, `restoreCode`, `handler`: the handler.

## Main results

* `readCpu_saveCode`: the recovery routine finds the interrupted program in `cpu`.
* `restoreCode_rfe`: the processor continues with the program it leaves there.
* `handler_transparent`: a recovery routine that changes nothing is not noticed.
-/

namespace WirePatch

open Or1200 (Gprs Dsr SprFile Processor)

/-! ### The variable -/

/-- A word of `struct CPU`, the timer registers included. -/
abbrev CpuWord := Fin 44

/-- The number of words is not 0, so that numerals name them. -/
instance cpuWords_neZero : NeZero 44 := ⟨by decide⟩

/-- The address of a word of the variable. -/
def wordAddr (cpu : U32) (i : CpuWord) : U32 := cpu + BitVec.ofNat 32 (4 * i)

/-- A word of the variable. -/
def readWord (mem : U32 → BitVec 8) (cpu : U32) (i : CpuWord) : U32 :=
  ByteMemory.read 4 mem (wordAddr cpu i)

/-- A word of the variable is stored. -/
def storeWord (mem : U32 → BitVec 8) (cpu : U32) (i : CpuWord) (value : U32) : U32 → BitVec 8 :=
  ByteMemory.write 4 mem (wordAddr cpu i) value

/-- The word that holds a general purpose register. -/
def gprWord (r : Reg) : CpuWord := r.castLE (by decide)

/-- The variable, with the fields in the order of `struct CPU`. -/
def readCpu (mem : U32 → BitVec 8) (cpu : U32) : CPU where
  gpr := fun r => readWord mem cpu (gprWord r)
  pc := readWord mem cpu 32
  npc := readWord mem cpu 33
  sr := readWord mem cpu 34
  machi := readWord mem cpu 35
  maclo := readWord mem cpu 36
  branchPc := readWord mem cpu 37
  esr := readWord mem cpu 38
  epcr := readWord mem cpu 39
  eear := readWord mem cpu 40
  dsr := readWord mem cpu 41

section Words

variable {mem : U32 → BitVec 8} {cpu : U32}

/-- The bytes of two words of the variable are apart. -/
theorem wordAddr_dist {i j : CpuWord} (h : i ≠ j) {k : ℕ} (hk : k < 4) :
    4 ≤ (wordAddr cpu i + BitVec.ofNat 32 k - wordAddr cpu j).toNat := by
  have hne : (i : ℕ) ≠ j := fun hij => h (Fin.ext hij)
  have hi : (i : ℕ) < 44 := i.isLt
  have hj : (j : ℕ) < 44 := j.isLt
  simp only [wordAddr]
  generalize (i : ℕ) = p at *
  generalize (j : ℕ) = q at *
  bv_omega

theorem readWord_storeWord (i j : CpuWord) (value : U32) :
    readWord (storeWord mem cpu j value) cpu i =
      if i = j then value else readWord mem cpu i := by
  split_ifs with h
  · subst h
    exact ByteMemory.read_write_self (n := 4) mem _ value (by decide)
  · exact ByteMemory.read_write_of_disjoint mem value fun k hk => wordAddr_dist h hk

/-- Words of the variable are stored one after the other. -/
def storeWords (mem : U32 → BitVec 8) (cpu : U32) (l : List (CpuWord × U32)) : U32 → BitVec 8 :=
  l.foldl (fun mem w => storeWord mem cpu w.1 w.2) mem

theorem storeWords_append (l l' : List (CpuWord × U32)) :
    storeWords mem cpu (l ++ l') = storeWords (storeWords mem cpu l) cpu l' :=
  List.foldl_append

theorem readWord_storeWords_of_not_mem {i : CpuWord} {l : List (CpuWord × U32)}
    (h : i ∉ l.map Prod.fst) : readWord (storeWords mem cpu l) cpu i = readWord mem cpu i := by
  induction l generalizing mem with
  | nil => rfl
  | cons w l ih =>
    rw [List.map_cons, List.mem_cons, not_or] at h
    exact (ih h.2).trans ((readWord_storeWord ..).trans (if_neg h.1))

/-- A word that is stored once is read back. -/
theorem readWord_storeWords_of_mem {i : CpuWord} {value : U32} {l : List (CpuWord × U32)}
    (hnodup : (l.map Prod.fst).Nodup) (h : (i, value) ∈ l) :
    readWord (storeWords mem cpu l) cpu i = value := by
  induction l generalizing mem with
  | nil => exact absurd h List.not_mem_nil
  | cons w l ih =>
    rw [List.map_cons, List.nodup_cons] at hnodup
    rcases List.mem_cons.mp h with rfl | h
    · exact (readWord_storeWords_of_not_mem hnodup.1).trans
        ((readWord_storeWord ..).trans (if_pos rfl))
    · exact ih hnodup.2 h

end Words

/-! ### The instructions -/

/-- The instructions of the handler, with their operands in the order of the assembler. -/
inductive HandlerInsn
  | mtspr (rA rB : Reg) (K : U32)
  | mfspr (rD rA : Reg) (K : U32)
  | movhi (rD : Reg) (K : BitVec 16)
  | ori (rD rA : Reg) (K : BitVec 16)
  | sw (I : BitVec 16) (rA rB : Reg)
  | lwz (rD : Reg) (I : BitVec 16) (rA : Reg)
  | add (rD rA rB : Reg)
  | addi (rD rA : Reg) (I : BitVec 16)
  deriving DecidableEq

/-- One instruction of the handler. -/
def HandlerInsn.exec (p : Processor) : HandlerInsn → Processor
  | mtspr rA rB K => { p with spr := p.spr.write (p.gpr.val rA ||| K) (p.gpr.val rB) }
  | mfspr rD rA K => { p with gpr := p.gpr.set rD (p.spr.read (p.gpr.val rA ||| K)) }
  | movhi rD K => { p with gpr := p.gpr.set rD (K.setWidth 32 <<< 16) }
  | ori rD rA K => { p with gpr := p.gpr.set rD (p.gpr.val rA ||| K.setWidth 32) }
  | sw I rA rB =>
    { p with mem := ByteMemory.write 4 p.mem (p.gpr.val rA + I.signExtend 32) (p.gpr.val rB) }
  | lwz rD I rA =>
    { p with gpr := p.gpr.set rD (ByteMemory.read 4 p.mem (p.gpr.val rA + I.signExtend 32)) }
  | add rD rA rB => { p with gpr := p.gpr.set rD (p.gpr.val rA + p.gpr.val rB) }
  | addi rD rA I => { p with gpr := p.gpr.set rD (p.gpr.val rA + I.signExtend 32) }

/-- The instructions of the handler one after the other. -/
def execAll (p : Processor) (code : List HandlerInsn) : Processor :=
  code.foldl HandlerInsn.exec p

/-- `hi` of the assembler. -/
def hi (a : U32) : BitVec 16 := a.extractLsb' 16 16

/-- `lo` of the assembler. -/
def lo (a : U32) : BitVec 16 := a.extractLsb' 0 16

def sprEpcrShadow : U32 := sprEpcrBase + 1
def sprEearShadow : U32 := sprEearBase + 1
def sprEsrShadow : U32 := sprEsrBase + 1
def shadowR1Reg : U32 := (7 <<< 11) + 4

def cpuPcOffset : BitVec 16 := 4 * 32
def cpuNpcOffset : BitVec 16 := cpuPcOffset + 4
def cpuSrOffset : BitVec 16 := cpuNpcOffset + 4
def cpuMachiOffset : BitVec 16 := cpuSrOffset + 4
def cpuMacloOffset : BitVec 16 := cpuMachiOffset + 4
def cpuBranchPcOffset : BitVec 16 := cpuMacloOffset + 4
def cpuEsrOffset : BitVec 16 := cpuBranchPcOffset + 4
def cpuEpcrOffset : BitVec 16 := cpuEsrOffset + 4
def cpuEearOffset : BitVec 16 := cpuEpcrOffset + 4
def cpuDsrOffset : BitVec 16 := cpuEearOffset + 4

/-- `_start` up to the general purpose registers, for the address of `cpu`: register 1 is kept in
its shadow. -/
def enterCode (cpu : U32) : List HandlerInsn :=
  [.mtspr 0 1 shadowR1Reg, .movhi 1 (hi cpu), .ori 1 1 (lo cpu)]

/-- "Save the GPRs to the CPU structure". -/
def saveGprsCode : List HandlerInsn :=
  [.sw 0 1 0, .sw 8 1 2, .sw 12 1 3, .sw 16 1 4, .sw 20 1 5, .sw 24 1 6, .sw 28 1 7, .sw 32 1 8,
   .sw 36 1 9, .sw 40 1 10, .sw 44 1 11, .sw 48 1 12, .sw 52 1 13, .sw 56 1 14, .sw 60 1 15,
   .sw 64 1 16, .sw 68 1 17, .sw 72 1 18, .sw 76 1 19, .sw 80 1 20, .sw 84 1 21, .sw 88 1 22,
   .sw 92 1 23, .sw 96 1 24, .sw 100 1 25, .sw 104 1 26, .sw 108 1 27, .sw 112 1 28, .sw 116 1 29,
   .sw 120 1 30, .sw 124 1 31]

/-- The shadow of register 1, and "Program's PC, NPC, and EPCR" but the last. -/
def savePcCode : List HandlerInsn :=
  [.add 3 0 1, .mfspr 1 0 shadowR1Reg, .sw 4 3 1,
   .mfspr 2 0 sprEpcrBase, .sw cpuPcOffset 3 2,
   .addi 2 2 4, .sw cpuNpcOffset 3 2]

/-- "Backup the rest of the system's state". -/
def saveSprsCode : List HandlerInsn :=
  [.mfspr 2 0 sprEpcrShadow, .sw cpuEpcrOffset 3 2,
   .mfspr 2 0 sprEsrBase, .sw cpuSrOffset 3 2,
   .mfspr 2 0 sprEsrShadow, .sw cpuEsrOffset 3 2,
   .mfspr 2 0 sprEearShadow, .sw cpuEearOffset 3 2,
   .mfspr 2 0 sprMachi, .sw cpuMachiOffset 3 2,
   .mfspr 2 0 sprMaclo, .sw cpuMacloOffset 3 2,
   .mfspr 2 0 sprDsr, .sw cpuDsrOffset 3 2]

/-- DSR, the pending branch and the stack, up to the call of the recovery routine. -/
def callCode : List HandlerInsn :=
  [.addi 2 0 (-1), .mtspr 0 2 sprDsr,
   .addi 2 0 (-1), .sw cpuBranchPcOffset 3 2,
   .movhi 1 (hi 0x0f000000)]

/-- `_start` up to the call of the recovery routine. -/
def saveCode (cpu : U32) : List HandlerInsn :=
  enterCode cpu ++ saveGprsCode ++ savePcCode ++ saveSprsCode ++ callCode

/-- The general purpose registers but 2 and 3, from `_bail` on. -/
def restoreGprsCode : List HandlerInsn :=
  [.lwz 1 4 2, .lwz 4 16 2, .lwz 5 20 2, .lwz 6 24 2, .lwz 7 28 2, .lwz 8 32 2, .lwz 9 36 2,
   .lwz 10 40 2, .lwz 11 44 2, .lwz 12 48 2, .lwz 13 52 2, .lwz 14 56 2, .lwz 15 60 2,
   .lwz 16 64 2, .lwz 17 68 2, .lwz 18 72 2, .lwz 19 76 2, .lwz 20 80 2, .lwz 21 84 2,
   .lwz 22 88 2, .lwz 23 92 2, .lwz 24 96 2, .lwz 25 100 2, .lwz 26 104 2, .lwz 27 108 2,
   .lwz 28 112 2, .lwz 29 116 2, .lwz 30 120 2, .lwz 31 124 2]

/-- "Restore the rest of the system's state". -/
def restoreSprsCode : List HandlerInsn :=
  [.lwz 3 cpuMachiOffset 2, .mtspr 0 3 sprMachi,
   .lwz 3 cpuMacloOffset 2, .mtspr 0 3 sprMaclo,
   .lwz 3 cpuEsrOffset 2, .mtspr 0 3 sprEsrBase,
   .lwz 3 cpuEpcrOffset 2, .mtspr 0 3 sprEpcrBase,
   .lwz 3 cpuEearOffset 2, .mtspr 0 3 sprEearBase,
   .lwz 3 cpuSrOffset 2, .mtspr 0 3 sprEsrShadow,
   .lwz 3 cpuPcOffset 2, .mtspr 0 3 sprEpcrShadow,
   .lwz 3 cpuDsrOffset 2, .mtspr 0 3 sprDsr]

/-- `_bail` up to the return. -/
def restoreCode (cpu : U32) : List HandlerInsn :=
  [.movhi 2 (hi cpu), .ori 2 2 (lo cpu)] ++ restoreGprsCode ++ restoreSprsCode ++
    [.lwz 3 12 2, .lwz 2 8 2]

/-- The processor when the recovery routine is called: `l.jal` leaves the address of `_bail` in the
link register. -/
def atCall (cpu bail : U32) (p : Processor) : Processor :=
  let p := execAll p (saveCode cpu)
  { p with gpr := p.gpr.set ptLr bail }

/-- The handler, from its entry to the program it returns to. The recovery routine returns to
`_bail`. -/
def handler (cpu bail : U32) (runSim : Processor → Processor) (p : Processor) : Processor :=
  (execAll (runSim (atCall cpu bail p)) (restoreCode cpu)).rfe

/-! ### Runs of similar instructions -/

theorem hi_lo (a : U32) : (hi a).setWidth 32 <<< 16 ||| (lo a).setWidth 32 = a := by
  refine BitVec.eq_of_getLsbD_eq fun i hi => ?_
  simp only [WirePatch.hi, lo, BitVec.getLsbD_or, BitVec.getLsbD_shiftLeft, BitVec.getLsbD_setWidth,
    BitVec.getLsbD_extractLsb']
  by_cases h : i < 16
  · simp [h, hi]
  · have hsub : i - 16 < 16 := by omega
    simp [h, hi, hsub, Nat.add_sub_cancel' (Nat.le_of_not_lt h), show i - 16 < 32 by omega]

/-- The offset of a word, as the handler writes it. -/
def wordOffset (i : CpuWord) : BitVec 16 := BitVec.ofNat 16 (4 * i)

theorem signExtend_wordOffset (i : CpuWord) :
    (wordOffset i).signExtend 32 = BitVec.ofNat 32 (4 * i) := by
  revert i
  decide

section Exec

variable {cpu : U32} {p : Processor}

theorem execAll_append (code code' : List HandlerInsn) :
    execAll p (code ++ code') = execAll (execAll p code) code' :=
  List.foldl_append

theorem execAll_cons (insn : HandlerInsn) (code : List HandlerInsn) :
    execAll p (insn :: code) = execAll (insn.exec p) code := rfl

theorem exec_sw {rA : Reg} (h : p.gpr.val rA = cpu) (i : CpuWord) (rB : Reg) :
    (HandlerInsn.sw (wordOffset i) rA rB).exec p =
      { p with mem := storeWord p.mem cpu i (p.gpr.val rB) } := by
  rw [HandlerInsn.exec, h, signExtend_wordOffset]
  rfl

theorem exec_lwz {rA : Reg} (h : p.gpr.val rA = cpu) (rD : Reg) (i : CpuWord) :
    (HandlerInsn.lwz rD (wordOffset i) rA).exec p =
      { p with gpr := p.gpr.set rD (readWord p.mem cpu i) } := by
  rw [HandlerInsn.exec, h, signExtend_wordOffset]
  rfl

/-- A special purpose register is named by its number, with register 0 as the base. -/
theorem gpr_zero_or (g : Gprs) (K : U32) : g.val 0 ||| K = K := by
  rw [g.zero]
  exact BitVec.zero_or

theorem exec_mfspr (rD : Reg) (K : U32) :
    (HandlerInsn.mfspr rD 0 K).exec p = { p with gpr := p.gpr.set rD (p.spr.read K) } := by
  rw [HandlerInsn.exec, gpr_zero_or]

theorem exec_mtspr (rB : Reg) (K : U32) :
    (HandlerInsn.mtspr 0 rB K).exec p = { p with spr := p.spr.write K (p.gpr.val rB) } := by
  rw [HandlerInsn.exec, gpr_zero_or]

/-- The address of the variable is loaded. -/
theorem execAll_address (rD : Reg) (h : rD ≠ 0) :
    execAll p [.movhi rD (hi cpu), .ori rD rD (lo cpu)] = { p with gpr := p.gpr.set rD cpu } := by
  change HandlerInsn.exec (HandlerInsn.exec p (.movhi rD (hi cpu))) (.ori rD rD (lo cpu)) = _
  simp only [HandlerInsn.exec, Gprs.val_set_self _ h, hi_lo, Gprs.set_set]

/-! ### Saving -/

/-- General purpose registers are stored into their words. -/
theorem execAll_storeGprs {base : Reg} (h : p.gpr.val base = cpu) (l : List Reg) :
    execAll p (l.map fun r => .sw (wordOffset (gprWord r)) base r) =
      { p with mem := storeWords p.mem cpu (l.map fun r => (gprWord r, p.gpr.val r)) } := by
  induction l generalizing p with
  | nil => rfl
  | cons r l ih =>
    rw [List.map_cons, execAll_cons, exec_sw h]
    exact ih (p := { p with mem := storeWord p.mem cpu (gprWord r) (p.gpr.val r) }) h

/-- A word of the variable is written by way of register 2. -/
theorem exec_storeTwo (h : p.gpr.val 3 = cpu) (i : CpuWord) (value : U32) :
    (HandlerInsn.sw (wordOffset i) 3 2).exec { p with gpr := p.gpr.set 2 value } =
      { p with gpr := p.gpr.set 2 value, mem := storeWord p.mem cpu i value } := by
  have hbase : (p.gpr.set 2 value).val 3 = cpu := (Gprs.val_set_of_ne _ (by decide) _).trans h
  refine (exec_sw (p := { p with gpr := p.gpr.set 2 value }) hbase i 2).trans ?_
  rw [Gprs.val_set_self _ (by decide)]

/-- Special purpose registers are stored by way of register 2. -/
theorem execAll_storeSprs (h : p.gpr.val 3 = cpu) (l : List (U32 × CpuWord)) :
    ∃ value, execAll p (l.flatMap fun s => [.mfspr 2 0 s.1, .sw (wordOffset s.2) 3 2]) =
      { p with
        gpr := p.gpr.set 2 value
        mem := storeWords p.mem cpu (l.map fun s => (s.2, p.spr.read s.1)) } := by
  induction l generalizing p with
  | nil => exact ⟨p.gpr.val 2, by rw [Gprs.set_val]; rfl⟩
  | cons s l ih =>
    have hbase : (p.gpr.set 2 (p.spr.read s.1)).val 3 = cpu :=
      (Gprs.val_set_of_ne _ (by decide) _).trans h
    obtain ⟨value, hl⟩ := ih (p := { p with
      gpr := p.gpr.set 2 (p.spr.read s.1)
      mem := storeWord p.mem cpu s.2 (p.spr.read s.1) }) hbase
    refine ⟨value, ?_⟩
    rw [List.flatMap_cons, execAll_append, execAll_cons, exec_mfspr, execAll_cons,
      exec_storeTwo h]
    refine hl.trans ?_
    rw [Gprs.set_set]
    rfl

/-- The registers saved by number, in the order they are. -/
def savedGprs : List Reg :=
  [0, 2, 3, 4, 5, 6, 7, 8, 9, 10, 11, 12, 13, 14, 15, 16, 17, 18, 19, 20, 21, 22, 23, 24, 25, 26,
   27, 28, 29, 30, 31]

/-- The special purpose registers saved as they are read. -/
def savedSprs : List (U32 × CpuWord) :=
  [(sprEpcrShadow, 39), (sprEsrBase, 34), (sprEsrShadow, 38), (sprEearShadow, 40), (sprMachi, 35),
   (sprMaclo, 36), (sprDsr, 41)]

/-- The words the handler stores. -/
def savedWords (p : Processor) : List (CpuWord × U32) :=
  (savedGprs.map fun r => (gprWord r, p.gpr.val r)) ++
    ([(1, p.gpr.val 1), (32, p.spr.epcr), (33, p.spr.epcr + 4)] ++
      ((savedSprs.map fun s => (s.2, p.spr.read s.1)) ++ [(37, noBranch)]))

theorem saveGprsCode_eq :
    saveGprsCode = savedGprs.map fun r => .sw (wordOffset (gprWord r)) 1 r := by
  decide +kernel

theorem saveSprsCode_eq : saveSprsCode =
    savedSprs.flatMap fun s => [.mfspr 2 0 s.1, .sw (wordOffset s.2) 3 2] := by
  decide +kernel

/-- The shadow of register 1 and the interrupted program counter are stored. -/
theorem execAll_savePcCode (h : p.gpr.val 1 = cpu) : execAll p savePcCode =
    { p with
      gpr := ((p.gpr.set 3 cpu).set 1 p.spr.spReg4).set 2 (p.spr.epcr + 4)
      mem := storeWords p.mem cpu
        [(1, p.spr.spReg4), (32, p.spr.epcr), (33, p.spr.epcr + 4)] } := by
  let g := (p.gpr.set 3 cpu).set 1 p.spr.spReg4
  let mem₁ := storeWord p.mem cpu 1 p.spr.spReg4
  let mem₂ := storeWord mem₁ cpu 32 p.spr.epcr
  have hbase : g.val 3 = cpu :=
    (Gprs.val_set_of_ne _ (by decide) _).trans (Gprs.val_set_self _ (by decide) _)
  have hadd : (HandlerInsn.add 3 0 1).exec p = { p with gpr := p.gpr.set 3 cpu } := by
    rw [HandlerInsn.exec, h, p.gpr.zero]
    exact congrArg (fun a => { p with gpr := p.gpr.set 3 a }) (BitVec.zero_add cpu)
  have hshadow : (HandlerInsn.mfspr 1 0 shadowR1Reg).exec { p with gpr := p.gpr.set 3 cpu } =
      { p with gpr := g } := exec_mfspr ..
  have hone : (HandlerInsn.sw 4 3 1).exec { p with gpr := g } =
      { p with gpr := g, mem := mem₁ } := by
    refine (exec_sw (p := { p with gpr := g }) hbase 1 1).trans ?_
    rw [Gprs.val_set_self _ (by decide)]
  have hepcr : (HandlerInsn.mfspr 2 0 sprEpcrBase).exec { p with gpr := g, mem := mem₁ } =
      { p with gpr := g.set 2 p.spr.epcr, mem := mem₁ } := exec_mfspr ..
  have hpc : (HandlerInsn.sw cpuPcOffset 3 2).exec
      { p with gpr := g.set 2 p.spr.epcr, mem := mem₁ } =
      { p with gpr := g.set 2 p.spr.epcr, mem := mem₂ } :=
    exec_storeTwo (p := { p with gpr := g, mem := mem₁ }) hbase 32 _
  have hnext : (HandlerInsn.addi 2 2 4).exec
      { p with gpr := g.set 2 p.spr.epcr, mem := mem₂ } =
      { p with gpr := g.set 2 (p.spr.epcr + 4), mem := mem₂ } := by
    rw [HandlerInsn.exec, Gprs.val_set_self _ (by decide), Gprs.set_set]
    rfl
  have hnpc : (HandlerInsn.sw cpuNpcOffset 3 2).exec
      { p with gpr := g.set 2 (p.spr.epcr + 4), mem := mem₂ } =
      { p with
        gpr := g.set 2 (p.spr.epcr + 4)
        mem := storeWord mem₂ cpu 33 (p.spr.epcr + 4) } :=
    exec_storeTwo (p := { p with gpr := g, mem := mem₂ }) hbase 33 _
  rw [savePcCode, execAll_cons, hadd, execAll_cons, hshadow, execAll_cons, hone, execAll_cons,
    hepcr, execAll_cons, hpc, execAll_cons, hnext, execAll_cons, hnpc]
  rfl

/-- The call leaves no branch pending. -/
theorem mem_callCode (h : p.gpr.val 3 = cpu) :
    (execAll p callCode).mem = storeWord p.mem cpu 37 noBranch := by
  have hones : p.gpr.val 0 + (-1 : BitVec 16).signExtend 32 = noBranch := by
    rw [p.gpr.zero]
    rfl
  have hbranch : (HandlerInsn.addi 2 0 (-1)).exec
      { p with gpr := p.gpr.set 2 noBranch, spr := p.spr.write sprDsr noBranch } =
      { p with gpr := p.gpr.set 2 noBranch, spr := p.spr.write sprDsr noBranch } := by
    rw [HandlerInsn.exec, Gprs.val_set_of_ne _ (by decide), hones, Gprs.set_set]
  have hdsr : (HandlerInsn.mtspr 0 2 sprDsr).exec { p with gpr := p.gpr.set 2 noBranch } =
      { p with gpr := p.gpr.set 2 noBranch, spr := p.spr.write sprDsr noBranch } := by
    rw [exec_mtspr, Gprs.val_set_self _ (by decide)]
  have hfirst : (HandlerInsn.addi 2 0 (-1)).exec p = { p with gpr := p.gpr.set 2 noBranch } := by
    rw [HandlerInsn.exec, hones]
  have hstore : (HandlerInsn.sw cpuBranchPcOffset 3 2).exec
      { p with gpr := p.gpr.set 2 noBranch, spr := p.spr.write sprDsr noBranch } =
      { p with
        gpr := p.gpr.set 2 noBranch
        spr := p.spr.write sprDsr noBranch
        mem := storeWord p.mem cpu 37 noBranch } :=
    exec_storeTwo (p := { p with spr := p.spr.write sprDsr noBranch }) h 37 noBranch
  rw [callCode, execAll_cons, hfirst, execAll_cons, hdsr, execAll_cons, hbranch, execAll_cons,
    hstore]
  rfl

/-- What the handler stores before it calls the recovery routine. -/
theorem mem_saveCode (cpu : U32) (p : Processor) :
    (execAll p (saveCode cpu)).mem = storeWords p.mem cpu (savedWords p) := by
  have henter : execAll p (enterCode cpu) =
      { p with gpr := p.gpr.set 1 cpu, spr := p.spr.write shadowR1Reg (p.gpr.val 1) } := by
    rw [enterCode, execAll_cons, exec_mtspr]
    exact execAll_address 1 (by decide)
  let p₁ : Processor :=
    { p with gpr := p.gpr.set 1 cpu, spr := p.spr.write shadowR1Reg (p.gpr.val 1) }
  have hbase₁ : p₁.gpr.val 1 = cpu := Gprs.val_set_self _ (by decide) _
  let p₂ : Processor :=
    { p₁ with mem := storeWords p.mem cpu (savedGprs.map fun r => (gprWord r, p.gpr.val r)) }
  have hgprs : execAll p₁ saveGprsCode = p₂ := by
    have hkeep : (savedGprs.map fun r => (gprWord r, p₁.gpr.val r)) =
        savedGprs.map fun r => (gprWord r, p.gpr.val r) := by
      refine List.map_congr_left fun r hr => ?_
      have hne : r ≠ 1 := (by decide : ∀ r ∈ savedGprs, r ≠ 1) r hr
      rw [Gprs.val_set_of_ne _ hne]
    rw [saveGprsCode_eq, execAll_storeGprs hbase₁, hkeep]
  let p₃ : Processor :=
    { p₂ with
      gpr := ((p₂.gpr.set 3 cpu).set 1 (p.gpr.val 1)).set 2 (p.spr.epcr + 4)
      mem := storeWords p₂.mem cpu
        [(1, p.gpr.val 1), (32, p.spr.epcr), (33, p.spr.epcr + 4)] }
  have hpc : execAll p₂ savePcCode = p₃ := execAll_savePcCode hbase₁
  have hbase₃ : p₃.gpr.val 3 = cpu :=
    (Gprs.val_set_of_ne _ (by decide) _).trans
      ((Gprs.val_set_of_ne _ (by decide) _).trans (Gprs.val_set_self _ (by decide) _))
  obtain ⟨value, hsprs⟩ := execAll_storeSprs hbase₃ savedSprs
  rw [← saveSprsCode_eq] at hsprs
  have hbase₄ : (p₃.gpr.set 2 value).val 3 = cpu :=
    (Gprs.val_set_of_ne _ (by decide) _).trans hbase₃
  have hread : (savedSprs.map fun s => (s.2, p₃.spr.read s.1)) =
      savedSprs.map fun s => (s.2, p.spr.read s.1) := rfl
  rw [saveCode, execAll_append, execAll_append, execAll_append, execAll_append, henter, hgprs, hpc,
    hsprs, mem_callCode (p := { p₃ with
      gpr := p₃.gpr.set 2 value
      mem := storeWords p₃.mem cpu (savedSprs.map fun s => (s.2, p₃.spr.read s.1)) }) hbase₄, hread,
    savedWords, storeWords_append, storeWords_append, storeWords_append]
  rfl

/-- The interrupted program at the entry of the handler, as the registers of the simulator. -/
def savedCpu (p : Processor) : CPU where
  gpr := p.gpr.val
  pc := p.spr.epcr
  npc := p.spr.epcr + 4
  sr := p.spr.esr.setWidth 32
  machi := p.spr.machi
  maclo := p.spr.maclo
  branchPc := noBranch
  esr := p.spr.spEsrGhost.setWidth 32
  epcr := p.spr.spEpcrGhost
  eear := p.spr.spEearGhost
  dsr := p.spr.dsr.read

/-- The recovery routine finds the interrupted program in `cpu`. -/
theorem readCpu_saveCode (cpu : U32) (p : Processor) :
    readCpu (execAll p (saveCode cpu)).mem cpu = savedCpu p := by
  have hnodup : ((savedWords p).map Prod.fst).Nodup := by
    have hkeys : (savedWords p).map Prod.fst = savedGprs.map gprWord ++
        ([1, 32, 33] ++ (savedSprs.map Prod.snd ++ [37])) := rfl
    rw [hkeys]
    decide
  have hword {i : CpuWord} {value : U32} (h : (i, value) ∈ savedWords p) :
      readWord (execAll p (saveCode cpu)).mem cpu i = value := by
    rw [mem_saveCode]
    exact readWord_storeWords_of_mem hnodup h
  have hgpr (r : Reg) : (gprWord r, p.gpr.val r) ∈ savedWords p := by
    rw [savedWords]
    by_cases h : r = 1
    · subst h
      exact List.mem_append_right _ (List.mem_cons_self ..)
    · have hr : r ∈ savedGprs := (by decide : ∀ r : Reg, r ≠ 1 → r ∈ savedGprs) r h
      exact List.mem_append_left _ (List.mem_map_of_mem hr)
  have hspr (n : U32) (i : CpuWord) (h : (n, i) ∈ savedSprs) :
      (i, p.spr.read n) ∈ savedWords p := by
    refine List.mem_append_right _ (List.mem_append_right _ (List.mem_append_left _ ?_))
    exact List.mem_map_of_mem (f := fun s : U32 × CpuWord => (s.2, p.spr.read s.1)) h
  have hpc {w : CpuWord × U32}
      (h : w ∈ [(1, p.gpr.val 1), (32, p.spr.epcr), (33, p.spr.epcr + 4)]) : w ∈ savedWords p :=
    List.mem_append_right _ (List.mem_append_left _ h)
  have hbranch : (37, noBranch) ∈ savedWords p :=
    List.mem_append_right _ (List.mem_append_right _ (List.mem_append_right _
      (List.mem_cons_self ..)))
  refine CPU.ext ?_ ?_ ?_ ?_ ?_ ?_ ?_ ?_ ?_ ?_ ?_
  · exact funext fun r => hword (hgpr r)
  · exact hword (hpc (by simp [savedCpu]))
  · exact hword (hpc (by simp [savedCpu]))
  · exact hword (hspr sprEsrBase 34 (by decide))
  · exact hword (hspr sprMachi 35 (by decide))
  · exact hword (hspr sprMaclo 36 (by decide))
  · exact hword hbranch
  · exact hword (hspr sprEsrShadow 38 (by decide))
  · exact hword (hspr sprEpcrShadow 39 (by decide))
  · exact hword (hspr sprEearShadow 40 (by decide))
  · exact hword (hspr sprDsr 41 (by decide))

/-! ### Restoring -/

/-- General purpose registers are loaded from their words. -/
def loadGprs (mem : U32 → BitVec 8) (cpu : U32) (g : Gprs) (l : List Reg) : Gprs :=
  l.foldl (fun g r => g.set r (readWord mem cpu (gprWord r))) g

theorem val_loadGprs {mem : U32 → BitVec 8} {g : Gprs} {l : List Reg} {r : Reg} (hr : r ≠ 0) :
    (loadGprs mem cpu g l).val r =
      if r ∈ l then readWord mem cpu (gprWord r) else g.val r := by
  induction l generalizing g with
  | nil => rfl
  | cons s l ih =>
    refine ih.trans ?_
    by_cases hl : r ∈ l
    · rw [if_pos hl, if_pos (List.mem_cons_of_mem _ hl)]
    · by_cases hs : r = s
      · subst hs
        rw [if_neg hl, if_pos (List.mem_cons_self ..), Gprs.val_set_self _ hr]
      · rw [if_neg hl, if_neg (List.not_mem_cons_of_ne_of_not_mem hs hl), Gprs.val_set_of_ne _ hs]

theorem execAll_loadGprs (h : p.gpr.val 2 = cpu) {l : List Reg} (hl : 2 ∉ l) :
    execAll p (l.map fun r => .lwz r (wordOffset (gprWord r)) 2) =
      { p with gpr := loadGprs p.mem cpu p.gpr l } := by
  induction l generalizing p with
  | nil => rfl
  | cons r l ih =>
    rw [List.mem_cons, not_or] at hl
    rw [List.map_cons, execAll_cons, exec_lwz h]
    exact ih (p := { p with gpr := p.gpr.set r (readWord p.mem cpu (gprWord r)) })
      ((Gprs.val_set_of_ne _ hl.1 _).trans h) hl.2

/-- Special purpose registers are loaded by way of register 3. -/
theorem execAll_loadSprs (h : p.gpr.val 2 = cpu) (l : List (CpuWord × U32)) :
    ∃ value, execAll p (l.flatMap fun s => [.lwz 3 (wordOffset s.1) 2, .mtspr 0 3 s.2]) =
      { p with
        gpr := p.gpr.set 3 value
        spr := l.foldl (fun spr s => spr.write s.2 (readWord p.mem cpu s.1)) p.spr } := by
  induction l generalizing p with
  | nil => exact ⟨p.gpr.val 3, by rw [Gprs.set_val]; rfl⟩
  | cons s l ih =>
    have hbase : (p.gpr.set 3 (readWord p.mem cpu s.1)).val 2 = cpu :=
      (Gprs.val_set_of_ne _ (by decide) _).trans h
    obtain ⟨value, hl⟩ := ih (p := { p with
      gpr := p.gpr.set 3 (readWord p.mem cpu s.1)
      spr := p.spr.write s.2 (readWord p.mem cpu s.1) }) hbase
    refine ⟨value, ?_⟩
    rw [List.flatMap_cons, execAll_append, execAll_cons, exec_lwz h, execAll_cons, exec_mtspr,
      Gprs.val_set_self _ (by decide)]
    refine hl.trans ?_
    rw [Gprs.set_set]
    rfl

/-- The registers restored by number, in the order they are. -/
def restoredGprs : List Reg :=
  [1, 4, 5, 6, 7, 8, 9, 10, 11, 12, 13, 14, 15, 16, 17, 18, 19, 20, 21, 22, 23, 24, 25, 26, 27, 28,
   29, 30, 31]

/-- The special purpose registers restored, in the order they are. -/
def restoredSprs : List (CpuWord × U32) :=
  [(35, sprMachi), (36, sprMaclo), (38, sprEsrBase), (39, sprEpcrBase), (40, sprEearBase),
   (34, sprEsrShadow), (32, sprEpcrShadow), (41, sprDsr)]

theorem restoreGprsCode_eq :
    restoreGprsCode = restoredGprs.map fun r => .lwz r (wordOffset (gprWord r)) 2 := by
  decide +kernel

theorem restoreSprsCode_eq : restoreSprsCode =
    restoredSprs.flatMap fun s => [.lwz 3 (wordOffset s.1) 2, .mtspr 0 3 s.2] := by
  decide +kernel

/-- The processor continues with the program in `cpu`. -/
structure Resumed (c : CPU) (p : Processor) : Prop where
  gpr : ∀ r, r ≠ 0 → p.gpr.val r = c.gpr r
  pc : p.pc = c.pc
  sr : p.spr.sr = c.sr.setWidth 17
  machi : p.spr.machi = c.machi
  maclo : p.spr.maclo = c.maclo
  esr : p.spr.esr = SprFile.fixFo c.esr
  epcr : p.spr.epcr = c.epcr
  eear : p.spr.eear = c.eear
  dsr : p.spr.dsr = .write c.dsr

/-- What the handler leaves before it returns. -/
theorem execAll_restoreCode (cpu : U32) (p : Processor) : ∃ value,
    execAll p (restoreCode cpu) = { p with
      gpr := (((loadGprs p.mem cpu (p.gpr.set 2 cpu) restoredGprs).set 3 value).set 3
        (readWord p.mem cpu (gprWord 3))).set 2 (readWord p.mem cpu (gprWord 2))
      spr := restoredSprs.foldl (fun spr s => spr.write s.2 (readWord p.mem cpu s.1)) p.spr } := by
  let p₁ : Processor := { p with gpr := p.gpr.set 2 cpu }
  have hbase₁ : p₁.gpr.val 2 = cpu := Gprs.val_set_self _ (by decide) _
  let p₂ : Processor := { p₁ with gpr := loadGprs p.mem cpu p₁.gpr restoredGprs }
  have hgprs : execAll p₁ restoreGprsCode = p₂ := by
    rw [restoreGprsCode_eq]
    exact execAll_loadGprs hbase₁ (by decide)
  have hbase₂ : p₂.gpr.val 2 = cpu :=
    ((val_loadGprs (by decide)).trans (if_neg (by decide))).trans hbase₁
  obtain ⟨value, hsprs⟩ := execAll_loadSprs hbase₂ restoredSprs
  rw [← restoreSprsCode_eq] at hsprs
  refine ⟨value, ?_⟩
  let p₃ : Processor := { p₂ with
    gpr := p₂.gpr.set 3 value
    spr := restoredSprs.foldl (fun spr s => spr.write s.2 (readWord p.mem cpu s.1)) p.spr }
  have hbase₃ : p₃.gpr.val 2 = cpu := (Gprs.val_set_of_ne _ (by decide) _).trans hbase₂
  have hthree : (HandlerInsn.lwz 3 12 2).exec p₃ =
      { p₃ with gpr := p₃.gpr.set 3 (readWord p.mem cpu (gprWord 3)) } := exec_lwz hbase₃ 3 3
  have htwo : (HandlerInsn.lwz 2 8 2).exec
      { p₃ with gpr := p₃.gpr.set 3 (readWord p.mem cpu (gprWord 3)) } =
      { p₃ with
        gpr := (p₃.gpr.set 3 (readWord p.mem cpu (gprWord 3))).set 2
          (readWord p.mem cpu (gprWord 2)) } :=
    exec_lwz (p := { p₃ with gpr := p₃.gpr.set 3 (readWord p.mem cpu (gprWord 3)) })
      ((Gprs.val_set_of_ne _ (by decide) _).trans hbase₃) 2 2
  rw [restoreCode, execAll_append, execAll_append, execAll_append, execAll_address 2 (by decide),
    hgprs, hsprs, execAll_cons, hthree, execAll_cons, htwo]
  rfl

/-- The processor continues with the program that the recovery routine leaves in `cpu`. -/
theorem restoreCode_rfe (cpu : U32) (p : Processor) :
    Resumed (readCpu p.mem cpu) (execAll p (restoreCode cpu)).rfe := by
  obtain ⟨value, h⟩ := execAll_restoreCode cpu p
  have hgpr (r : Reg) (hr : r ≠ 0) : ((((loadGprs p.mem cpu (p.gpr.set 2 cpu) restoredGprs).set 3
      value).set 3 (readWord p.mem cpu (gprWord 3))).set 2 (readWord p.mem cpu (gprWord 2))).val r =
      readWord p.mem cpu (gprWord r) := by
    by_cases h2 : r = 2
    · rw [h2, Gprs.val_set_self _ (by decide)]
    · rw [Gprs.val_set_of_ne _ h2, Gprs.set_set]
      by_cases h3 : r = 3
      · rw [h3, Gprs.val_set_self _ (by decide)]
      · have hmem : r ∈ restoredGprs :=
          (by decide : ∀ r : Reg, r ≠ 0 → r ≠ 2 → r ≠ 3 → r ∈ restoredGprs) r hr h2 h3
        rw [Gprs.val_set_of_ne _ h3, val_loadGprs hr, if_pos hmem]
  rw [h]
  exact ⟨hgpr, rfl, Processor.sr_rfe _, rfl, rfl, rfl, rfl, rfl, rfl⟩

end Exec

/-! ### Transparency -/

/-- The registers of an interrupted program. -/
structure SameProgram (p q : Processor) : Prop where
  gpr : q.gpr = p.gpr
  pc : q.pc = p.pc
  sr : q.spr.sr = p.spr.sr
  machi : q.spr.machi = p.spr.machi
  maclo : q.spr.maclo = p.spr.maclo
  dsr : q.spr.dsr = p.spr.dsr
  epcr : q.spr.epcr = p.spr.epcr
  eear : q.spr.eear = p.spr.eear
  esr : q.spr.esr = p.spr.esr

/-- The handler resumes the interrupted program when the recovery routine changes nothing in
`cpu`, whatever else it changes. -/
theorem handler_transparent (cpu bail exPc : U32) (dsx : Bool) (runSim : Processor → Processor)
    (p : Processor) (hfo : p.spr.esr.getLsbD 15 = true)
    (hsim : readCpu (runSim (atCall cpu bail (p.illegal exPc dsx))).mem cpu =
      readCpu (atCall cpu bail (p.illegal exPc dsx)).mem cpu) :
    SameProgram p (handler cpu bail runSim (p.illegal exPc dsx)) := by
  have hcpu : readCpu (runSim (atCall cpu bail (p.illegal exPc dsx))).mem cpu =
      savedCpu (p.illegal exPc dsx) := hsim.trans (readCpu_saveCode cpu (p.illegal exPc dsx))
  have h := restoreCode_rfe cpu (runSim (atCall cpu bail (p.illegal exPc dsx)))
  rw [hcpu] at h
  refine ⟨Gprs.ext h.gpr, h.pc, ?_, h.machi, h.maclo, ?_, h.epcr, h.eear, ?_⟩
  · exact h.sr.trans ((BitVec.setWidth_setWidth_of_le _ (by decide)).trans (BitVec.setWidth_eq _))
  · exact h.dsr.trans (Dsr.write_read _)
  · exact h.esr.trans (SprFile.fixFo_setWidth hfo)

/-- A processor in reset state but for ESR. -/
def idleProcessor : Processor where
  gpr := ⟨fun _ => 0, rfl⟩
  pc := 0x100
  spr :=
    { sr := 0x8001, epcr := 0, eear := 0, esr := 0x8001, spEpcrGhost := 0, spEearGhost := 0
      spEsrGhost := 0, machi := 0, maclo := 0, dsr := ⟨0, rfl⟩, spReg4 := 0, others := fun _ => 0 }
  mem := fun _ => 0

/-- A processor in user mode whose registers all hold different words. -/
def busyProcessor : Processor where
  gpr := ⟨fun r => BitVec.ofNat 32 (17 * r), rfl⟩
  pc := 0x2004
  spr :=
    { sr := 0x8200, epcr := 0x3008, eear := 0x4001, esr := 0x8001, spEpcrGhost := 0x500c
      spEearGhost := 0x6002, spEsrGhost := 0x8205, machi := 7, maclo := 8, dsr := ⟨0x2008, rfl⟩
      spReg4 := 9, others := fun n => n }
  mem := fun a => a.setWidth 8

/-- A routine that leaves a word on its stack. -/
def pushes (q : Processor) : Processor :=
  { q with mem := ByteMemory.write 4 q.mem 0x0efffffc (0x12345678 : U32) }

/-- The stack is apart from the variable. -/
theorem readWord_pushes (q : Processor) (i : CpuWord) :
    readWord (pushes q).mem 0x08001000 i = readWord q.mem 0x08001000 i := by
  refine ByteMemory.read_write_of_disjoint q.mem _ fun k hk => ?_
  revert i k
  decide +kernel

theorem handler_transparent_busy : SameProgram busyProcessor
    (handler 0x08001000 0x08000100 pushes (busyProcessor.illegal 0x2000 true)) := by
  refine handler_transparent 0x08001000 0x08000100 0x2000 true pushes busyProcessor (by decide) ?_
  simp only [readCpu, readWord_pushes]

end WirePatch
