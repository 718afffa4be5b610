import WirePatch.Recovery.RunSim
import WirePatch.Simulator.Step

/-!
# The recovery loop

The loop of `runSim` has no counter: it simulates one instruction, and then instructions until the
next one is not in a delay slot. A step leaves a delay slot behind it only when it takes a branch,
so the loop ends after two instructions, or after three when the second is a taken branch.

## Main definitions

* `LoopExecutes`: the states in which the loop simulates an instruction.

## Main results

* `recoveryLoop_ends`: the loop simulates two or three instructions and ends outside of every delay
  slot.
-/

namespace WirePatch

/-! ### The loop -/

/-- The states in which `do step while (in a delay slot)` simulates an instruction. -/
inductive DoExecutes (m : Machine) : Machine → Prop
  | start : DoExecutes m m
  | again {s t : Machine} : DoExecutes m s → cpuExecInst s = some t →
      isInDelaySlot t.cpu = true → DoExecutes m t

/-- The states in which the recovery loop simulates an instruction. -/
inductive LoopExecutes (m : Machine) : Machine → Prop
  | first : LoopExecutes m m
  | loop {s t : Machine} : cpuExecInst m = some s → DoExecutes s t → LoopExecutes m t

theorem recoveryLoop_eq {m m₁ : Machine} (h : cpuExecInst m = some m₁) (fuel : ℕ) :
    recoveryLoop fuel m =
      (PartialRun.doWhile cpuExecInst (fun m => isInDelaySlot m.cpu) fuel m₁).map
        fun r => (r.1 + 1, r.2) := by
  rw [recoveryLoop, h, Option.bind_some]

/-- Two instructions end the loop when the third is not in a delay slot. -/
theorem recoveryLoop_two {m m₁ m₂ : Machine} {fuel : ℕ} (hfuel : 1 ≤ fuel)
    (h₁ : cpuExecInst m = some m₁) (h₂ : cpuExecInst m₁ = some m₂)
    (hout : isInDelaySlot m₂.cpu = false) : recoveryLoop fuel m = some (2, m₂) := by
  rw [recoveryLoop_eq h₁, PartialRun.doWhile_mono hfuel (PartialRun.doWhile_exit 0 h₂ hout)]
  rfl

/-- Three instructions end the loop when the third is in a delay slot and the next is not. -/
theorem recoveryLoop_three {m m₁ m₂ m₃ : Machine} {fuel : ℕ} (hfuel : 2 ≤ fuel)
    (h₁ : cpuExecInst m = some m₁) (h₂ : cpuExecInst m₁ = some m₂)
    (hin : isInDelaySlot m₂.cpu = true) (h₃ : cpuExecInst m₂ = some m₃)
    (hout : isInDelaySlot m₃.cpu = false) : recoveryLoop fuel m = some (3, m₃) := by
  have hloop : PartialRun.doWhile cpuExecInst (fun m => isInDelaySlot m.cpu) 2 m₁ =
      some (2, m₃) := by
    rw [PartialRun.doWhile_continue 1 h₂ hin, PartialRun.doWhile_exit 0 h₃ hout]
    rfl
  rw [recoveryLoop_eq h₁, PartialRun.doWhile_mono hfuel hloop]
  rfl

/-- The loop simulates two or three instructions and ends, whatever faults they raise, when none of
them hangs and no control transfer follows a taken branch. The state it leaves is the one that
resuming at its program counter starts from. -/
theorem recoveryLoop_ends {m : Machine}
    (hrun : ∀ s, LoopExecutes m s → (cpuExecInst s).isSome)
    (hslot : ∀ s t, LoopExecutes m s → LoopExecutes m t → cpuExecInst s = some t →
      takesBranch s → ¬ executesTransfer t) :
    ∃ n m', (n = 2 ∨ n = 3) ∧ PartialRun.steps cpuExecInst n m = some m' ∧
      (∀ fuel, 2 ≤ fuel → recoveryLoop fuel m = some (n, m')) ∧
      m'.cpu.npc = m'.cpu.pc + 4 ∧ m'.cpu.branchPc = noBranch := by
  obtain ⟨m₁, h₁⟩ := Option.isSome_iff_exists.mp (hrun m .first)
  have hexec₁ : LoopExecutes m m₁ := .loop h₁ .start
  obtain ⟨m₂, h₂⟩ := Option.isSome_iff_exists.mp (hrun m₁ hexec₁)
  have hb₁ := branchPc_of_step h₁
  have hb₂ := branchPc_of_step h₂
  have hsteps (k : ℕ) :
      PartialRun.steps cpuExecInst (k + 2) m = PartialRun.steps cpuExecInst k m₂ := by
    rw [PartialRun.steps_succ h₁, PartialRun.steps_succ h₂]
  cases hd : isInDelaySlot m₂.cpu with
  | false =>
    exact ⟨2, m₂, .inl rfl, hsteps 0, fun _ hfuel => recoveryLoop_two (by omega) h₁ h₂ hd,
      isInDelaySlot_eq_false.mp hd, hb₂⟩
  | true =>
    -- only a taken branch leaves a delay slot, and nothing in that slot takes one
    have htaken : takesBranch m₁ := by
      by_contra hnot
      exact absurd (isInDelaySlot_of_step hb₁ h₂ hnot) (by simp [hd])
    have hexec₂ : LoopExecutes m m₂ := .loop h₁ (.again .start h₂ hd)
    obtain ⟨m₃, h₃⟩ := Option.isSome_iff_exists.mp (hrun m₂ hexec₂)
    have hnot : ¬ takesBranch m₂ := fun h =>
      hslot m₁ m₂ hexec₁ hexec₂ h₂ htaken (executesTransfer_of_takesBranch h)
    have hout := isInDelaySlot_of_step hb₂ h₃ hnot
    exact ⟨3, m₃, .inr rfl, (hsteps 1).trans (PartialRun.steps_succ h₃ 0),
      fun _ hfuel => recoveryLoop_three hfuel h₁ h₂ hd h₃ hout,
      isInDelaySlot_eq_false.mp hout, branchPc_of_step h₃⟩

/-! ### A taken branch with a fault in its delay slot -/

/-- The states the loop simulates an instruction in when it ends after three. -/
theorem loopExecutes_three {m m₁ m₂ m₃ s : Machine} (h₁ : cpuExecInst m = some m₁)
    (h₂ : cpuExecInst m₁ = some m₂) (h₃ : cpuExecInst m₂ = some m₃)
    (hout : isInDelaySlot m₃.cpu = false) (hs : LoopExecutes m s) : s = m ∨ s = m₁ ∨ s = m₂ := by
  have hdo {t : Machine} (ht : DoExecutes m₁ t) : t = m₁ ∨ t = m₂ := by
    induction ht with
    | start => exact .inl rfl
    | again _ hstep hin ih =>
      rcases ih with rfl | rfl
      · exact .inr (Option.some.inj (hstep.symm.trans h₂))
      · obtain rfl := Option.some.inj (h₃.symm.trans hstep)
        exact absurd (hin.symm.trans hout) (by decide)
  cases hs with
  | first => exact .inl rfl
  | loop hstep ht =>
    obtain rfl := Option.some.inj (h₁.symm.trans hstep)
    exact .inr (hdo ht)

/-- A machine with `l.j` to 64 instructions on at every other address and the misaligned load
`l.lwz r3,0x101(r0)` at those between. -/
def misaligningMachine : Machine :=
  { (default : Machine) with
    cpu := .startAt 0x2004
    mem := fun a => ByteMemory.byteOf 4 (if a &&& 4 = 0 then 0x40#32 else 0x84600101#32)
      (a &&& 3).toNat }

/-- From the misaligned load the loop simulates the load, which faults, a taken branch of the
alignment handler, and the load in its delay slot, which faults again. -/
theorem misaligning_steps : ∃ m₁ m₂ m₃, cpuExecInst misaligningMachine = some m₁ ∧
    cpuExecInst m₁ = some m₂ ∧ cpuExecInst m₂ = some m₃ ∧
      executedInst m₂ = some 0x84600101 ∧ isInDelaySlot m₃.cpu = false :=
  ⟨_, _, _, rfl, rfl, rfl, rfl, rfl⟩

theorem recoveryLoop_ends_misaligning :
    ∃ n m', (n = 2 ∨ n = 3) ∧ PartialRun.steps cpuExecInst n misaligningMachine = some m' ∧
      (∀ fuel, 2 ≤ fuel → recoveryLoop fuel misaligningMachine = some (n, m')) ∧
      m'.cpu.npc = m'.cpu.pc + 4 ∧ m'.cpu.branchPc = noBranch := by
  obtain ⟨m₁, m₂, m₃, h₁, h₂, h₃, hinst₂, hout⟩ := misaligning_steps
  have hcases {s : Machine} (hs : LoopExecutes misaligningMachine s) :
      s = misaligningMachine ∨ s = m₁ ∨ s = m₂ :=
    loopExecutes_three h₁ h₂ h₃ hout hs
  have hload {s : Machine} (h : executedInst s = some 0x84600101) : ¬ executesTransfer s := by
    rintro ⟨inst, hinst, htransfer⟩
    obtain rfl := Option.some.inj (h.symm.trans hinst)
    exact absurd htransfer (by decide)
  refine recoveryLoop_ends (fun s hs => ?_) fun s t hs _ hst htaken => ?_
  · rcases hcases hs with rfl | rfl | rfl
    · exact Option.isSome_of_eq_some h₁
    · exact Option.isSome_of_eq_some h₂
    · exact Option.isSome_of_eq_some h₃
  · rcases hcases hs with rfl | rfl | rfl
    · exact absurd (executesTransfer_of_takesBranch htaken) (hload rfl)
    · -- the branch is taken, and the load is in its slot
      obtain rfl := Option.some.inj (h₂.symm.trans hst)
      exact hload hinst₂
    · exact absurd (executesTransfer_of_takesBranch htaken) (hload hinst₂)

end WirePatch
