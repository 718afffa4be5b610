import Mathlib.Logic.Function.Basic
import WirePatch.Foundations.Clocked

/-!
# Synchronous memories

A memory with one port: a cycle in which the port is enabled registers an address and may write
there, and the output shows the memory at the registered address. A memory with two ports reads
through one of them and writes through the other.

## Main definitions

* `SyncRam.Port`, `SyncRam.Ram`, `SyncRam.Ram.step`.
* `SyncRam.DualPort`, `SyncRam.Ram.dualStep`.

## Main results

* `SyncRam.Ram.doq_step`: what is read in the cycle after an access.
* `SyncRam.holdsLast_mem`: a place holds what was last written to it.
-/

namespace SyncRam

open Clocked

variable {ι α : Type*}

/-- The inputs of a memory. -/
structure Port (ι α : Type*) where
  ce : Bool
  we : Bool
  addr : ι
  di : α

/-- The contents of a memory, and the address it registered. -/
structure Ram (ι α : Type*) where
  mem : ι → α
  addrReg : ι

/-- The output. -/
def Ram.doq (s : Ram ι α) : α := s.mem s.addrReg

variable [DecidableEq ι]

/-- One step of a memory. -/
def Ram.step (s : Ram ι α) (p : Port ι α) : Ram ι α :=
  { mem := if p.we && p.ce then Function.update s.mem p.addr p.di else s.mem
    addrReg := if p.ce then p.addr else s.addrReg }

/-- The inputs of a memory that reads through one port and writes through the other. -/
structure DualPort (ι α : Type*) where
  ceA : Bool
  addrA : ι
  weB : Bool
  addrB : ι
  diB : α

/-- One step of a memory with two ports. -/
def Ram.dualStep (s : Ram ι α) (p : DualPort ι α) : Ram ι α :=
  { mem := if p.weB then Function.update s.mem p.addrB p.diB else s.mem
    addrReg := if p.ceA then p.addrA else s.addrReg }

variable {s : Ram ι α} {p : Port ι α}

/-- An access reads what the memory holds after it. -/
theorem Ram.doq_step (h : p.ce = true) : (s.step p).doq = (s.step p).mem p.addr := by
  rw [doq, step, if_pos h]

theorem Ram.mem_step_of_not_we (h : p.we = false) : (s.step p).mem = s.mem := by
  rw [step, h]
  rfl

/-- The writes to a place. -/
def Port.writes (p : Port ι α) (a : ι) : Control :=
  { rst := false, enable := p.we && p.ce && decide (p.addr = a) }

/-- A place is a register that its writes load. -/
theorem Ram.mem_step (s : Ram ι α) (p : Port ι α) (a : ι) (z : α) :
    (s.step p).mem a = (p.writes a).latch z p.di (s.mem a) := by
  rw [step, Port.writes, Control.latch, if_neg Bool.false_ne_true]
  cases hwe : p.we && p.ce with
  | false => simp
  | true =>
    by_cases ha : p.addr = a
    · simp [ha]
    · simp [ha, Function.update_of_ne (Ne.symm ha)]

/-- In a run, a place holds what was last written to it. -/
theorem holdsLast_mem (s₀ : Ram ι α) (x : ℕ → Port ι α) (a : ι) (t : ℕ) :
    HoldsLast (fun r => (x r).writes a) (fun r => (x r).di) (s₀.mem a)
      ((run Ram.step s₀ x t).mem a) t :=
  holdsLast_latch (q := fun r => (run Ram.step s₀ x r).mem a)
    (fun r => Ram.mem_step (run Ram.step s₀ x r) (x r) a (s₀.mem a)) rfl t

end SyncRam
