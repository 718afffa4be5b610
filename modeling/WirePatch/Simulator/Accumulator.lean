import WirePatch.Foundations.SplitAccumulator
import WirePatch.Simulator.BitSerial
import WirePatch.Simulator.Encoding

/-!
# The multiply-accumulate register of the simulator

`l.mac`, `l.maci` and `l.msb` (`simulator.c`, lines 1028–1086) add a signed product to the
accumulator or subtract it, `l.macrc` (lines 2061–2090) reads the accumulator and clears it, and
`l.mtspr` writes one of its halves. `cpu.h` keeps the accumulator in two fields, MACHI and MACLO,
which `cpu_get_mac` and `cpu_set_mac` put together and take apart; its sums wrap.

Along every run of these instructions the two fields are the halves last written and the products
added or subtracted since. The operands are those of the registers as each instruction is executed;
between the instructions of a run anything may happen that leaves the two fields alone.

## Main definitions

* `macEvent`: what an instruction does to the accumulator.
* `MacRun`: the runs, with their events.
* `MacLaw`: what holds at the end of a run.

## Main results

* `cpuGetMac_perform`: an instruction has the effect of its event.
* `MacRun.cpuGetMac_eq`: the accumulator after a run.
* `macRun_accumulates`: the law of the accumulator.
-/

namespace WirePatch

open SplitAccumulator

/-! ### The two fields -/

theorem cpuGetMac_eq_append (cpu : CPU) : cpuGetMac cpu = cpu.machi ++ cpu.maclo := by
  refine BitVec.eq_of_getLsbD_eq fun i hi => ?_
  rw [cpuGetMac, BitVec.getLsbD_or, BitVec.getLsbD_setWidth, BitVec.getLsbD_shiftLeft,
    BitVec.getLsbD_setWidth, BitVec.getLsbD_append]
  by_cases h : i < 32
  · simp [h, hi]
  · simp [h, hi, show i - 32 < 64 by omega, BitVec.getLsbD_of_ge cpu.maclo i (by omega)]

theorem setWidth_shift (m : U64) : (m >>> 32).setWidth 32 = upper (w := 32) m := by
  refine BitVec.eq_of_toNat_eq ?_
  rw [upper, BitVec.extractLsb'_toNat, BitVec.toNat_setWidth, BitVec.toNat_ushiftRight]

theorem setWidth_mask (m : U64) : (m &&& 0xffffffff).setWidth 32 = lower (w := 32) m := by
  refine BitVec.eq_of_toNat_eq ?_
  rw [toNat_and_setWidth, lower, BitVec.extractLsb'_toNat, Nat.shiftRight_zero]

theorem cpuSetMac_eq (cpu : CPU) (m : U64) :
    cpuSetMac cpu m = { cpu with machi := upper m, maclo := lower m } := by
  rw [cpuSetMac, setWidth_shift, setWidth_mask]

theorem cpuGetMac_cpuSetMac (cpu : CPU) (m : U64) : cpuGetMac (cpuSetMac cpu m) = m := by
  rw [cpuGetMac_eq_append, cpuSetMac_eq]
  exact upper_append_lower (w := 32) m

theorem calcMul_eq_ofInt (a b : U32) : calcMul a b = BitVec.ofInt 64 (a.toInt * b.toInt) := by
  rw [← calcMul_toInt, BitVec.ofInt_toInt]

/-! ### Instructions -/

/-- What an instruction does to the accumulator: the product of the signed operands, or a half. An
`l.mtspr` to another register does nothing to it. -/
def macEvent (cpu : CPU) : Instruction → Option (Event 32)
  | .mac .mac rA rB => some (.add ((cpu.gpr rA).toInt * (cpu.gpr rB).toInt))
  | .mac .msb rA rB => some (.add (-((cpu.gpr rA).toInt * (cpu.gpr rB).toInt)))
  | .maci rA I => some (.add ((cpu.gpr rA).toInt * I.toInt))
  | .macrc _ => some .clear
  | .mtspr rA rB K =>
    if cpu.gpr rA ||| K.setWidth 32 = sprMachi then some (.setHi (cpu.gpr rB))
    else if cpu.gpr rA ||| K.setWidth 32 = sprMaclo then some (.setLo (cpu.gpr rB))
    else none
  | _ => none

variable {m : Machine} {i : Instruction} {e : Event 32}

/-- An instruction has the effect of its event. -/
theorem cpuGetMac_perform (h : macEvent m.cpu i = some e) :
    cpuGetMac (i.perform m).cpu = apply (cpuGetMac m.cpu) e := by
  cases i with
  | mac op rA rB =>
    cases op with
    | mac =>
      cases h
      exact (cpuGetMac_cpuSetMac ..).trans (congrArg _ (calcMul_eq_ofInt ..))
    | msb =>
      cases h
      refine (cpuGetMac_cpuSetMac ..).trans ?_
      rw [apply, BitVec.ofInt_neg, ← BitVec.sub_eq_add_neg]
      exact congrArg _ (calcMul_eq_ofInt ..)
  | maci rA I =>
    cases h
    refine (cpuGetMac_cpuSetMac ..).trans ?_
    rw [Instruction.imm, calcMul_eq_ofInt, BitVec.toInt_signExtend_of_le (by decide)]
    rfl
  | macrc rD =>
    cases h
    exact cpuGetMac_cpuSetMac ..
  | mtspr rA rB K =>
    rw [macEvent] at h
    split_ifs at h with hmachi hmaclo
    · cases h
      rw [Instruction.perform, Instruction.imm, hmachi, cpuSetSpr_machi, cpuGetMac_eq_append,
        cpuGetMac_eq_append, apply]
      exact congrArg _ (lower_append ..).symm
    · cases h
      rw [Instruction.perform, Instruction.imm, hmaclo, cpuSetSpr_maclo, cpuGetMac_eq_append,
        cpuGetMac_eq_append, apply]
      exact congrArg (· ++ _) (upper_append ..).symm
  | _ => cases h

theorem cpuGetMac_advance (m : Machine) : cpuGetMac m.advance.cpu = cpuGetMac m.cpu := by
  rw [Machine.advance, cpuAdvancePc_eq]
  rfl

/-- `l.macrc` reads the lower half and clears both. -/
theorem macrc_perform (m : Machine) (rD : Reg) :
    ((Instruction.macrc rD).perform m).advance.cpu.gpr =
        setReg m.cpu.gpr rD (lower (w := 32) (cpuGetMac m.cpu)) ∧
      ((Instruction.macrc rD).perform m).advance.cpu.machi = 0 ∧
      ((Instruction.macrc rD).perform m).advance.cpu.maclo = 0 := by
  rw [Machine.advance, cpuAdvancePc_eq, ← setWidth_mask]
  exact ⟨rfl, rfl, rfl⟩

/-! ### Runs -/

/-- The runs of the instructions that change the accumulator, from `m`, with their events, the
latest first. What happens between two of them leaves the accumulator alone. -/
inductive MacRun (m : Machine) : List (Event 32) → Machine → Prop
  | start : MacRun m [] m
  | step {history : List (Event 32)} {m₁ m₂ : Machine} {i : Instruction} {e : Event 32} :
    MacRun m history m₁ → macEvent m₁.cpu i = some e →
      execute (opcode i.encode) m₁ (decode i.encode) = some m₂ → MacRun m (e :: history) m₂
  | between {history : List (Event 32)} {m₁ m₂ : Machine} :
    MacRun m history m₁ → m₂.cpu.machi = m₁.cpu.machi → m₂.cpu.maclo = m₁.cpu.maclo →
      MacRun m history m₂

variable {m' : Machine} {history : List (Event 32)}

/-- The accumulator after a run. -/
theorem MacRun.cpuGetMac_eq (h : MacRun m history m') :
    cpuGetMac m'.cpu = accumulated (cpuGetMac m.cpu) history := by
  induction h with
  | start => exact (accumulated_nil (w := 32) _).symm
  | step _ hevent hexecute ih =>
    rw [Instruction.execute_eq] at hexecute
    rw [← Option.some.inj hexecute, cpuGetMac_advance, cpuGetMac_perform hevent, ih]
    exact (accumulated_cons ..).symm
  | between _ hhi hlo ih => rw [← ih, cpuGetMac_eq_append, hhi, hlo, ← cpuGetMac_eq_append]

/-- What holds at the end of a run. -/
structure MacLaw (m : Machine) (history : List (Event 32)) (m' : Machine) : Prop where
  /-- The accumulator is the halves last written and the products since. -/
  mac : cpuGetMac m'.cpu = accumulated (cpuGetMac m.cpu) history
  /-- Where both halves were written in a row, these are the halves last written. -/
  halves (zs : List ℤ) (h l : U32) (before : List (Event 32)) :
    history = zs.map .add ++ .setLo l :: .setHi h :: before ∨
        history = zs.map .add ++ .setHi h :: .setLo l :: before →
      cpuGetMac m'.cpu = h ++ l + BitVec.ofInt 64 zs.sum
  /-- `l.macrc` returns the low bits and clears both halves. -/
  macrc (rD : Reg) (m₂ : Machine) :
    execute (opcode (Instruction.macrc rD).encode) m' (decode (Instruction.macrc rD).encode) =
        some m₂ →
      m₂.cpu.gpr = setReg m'.cpu.gpr rD (lower (w := 32) (accumulated (cpuGetMac m.cpu) history)) ∧
        m₂.cpu.machi = 0 ∧ m₂.cpu.maclo = 0
  /-- Every instruction of the group ends and continues the run. -/
  executes (i : Instruction) (e : Event 32) : macEvent m'.cpu i = some e →
    ∃ m₂, execute (opcode i.encode) m' (decode i.encode) = some m₂ ∧ MacRun m (e :: history) m₂

/-- The law of the accumulator, over all runs from any state. -/
theorem macRun_accumulates (h : MacRun m history m') : MacLaw m history m' where
  mac := h.cpuGetMac_eq
  halves zs hi lo before hhistory := by
    rw [h.cpuGetMac_eq]
    rcases hhistory with rfl | rfl
    · exact accumulated_of_hi_lo ..
    · exact accumulated_of_lo_hi ..
  macrc rD m₂ hexecute := by
    rw [Instruction.execute_eq] at hexecute
    rw [← Option.some.inj hexecute, ← h.cpuGetMac_eq]
    exact macrc_perform m' rD
  executes i e hevent :=
    ⟨_, i.execute_eq m', h.step hevent (i.execute_eq m')⟩

/-- A machine whose registers hold the least integer. -/
def minOperands : Machine :=
  (default : Machine).setCpu { (default : CPU) with gpr := fun _ => 0x80000000 }

theorem macRun_accumulates_minOperands : MacLaw minOperands [.add (2 ^ 62)]
    ((Instruction.mac .mac 3 4).perform minOperands).advance :=
  macRun_accumulates (.step .start (by decide) (Instruction.execute_eq _ _))

end WirePatch
