import WirePatch.Simulator.State

/-!
# Exception entry of the simulator

The eight routines of `simulator.c`, lines 613–818 and 2145–2207, that enter an exception
handler. All but `sys` are one sequence of updates with their own vector and with or without an
effective address (`exceptionEntry`); `sys` stores the next program counter in EPCR and saves the
supervision register before it writes its delay-slot bit.

## Main definitions

* `Exc`, `Exc.enter`: the exceptions and their entry routines.
* `entrySr`: the supervision register an entry leaves.

## Main results

* `Exc.enter_eq`: what an entry routine writes, in one record.
* `isVector_enter_npc`: the next program counter is an exception vector.
-/

namespace WirePatch

/-- The last updates of every entry routine: the memory management units, the interrupts and the
timer are disabled, and the mode is supervisor. -/
def enterHandlerMode (cpu : CPU) : CPU :=
  let cpu := cpuSetSrFlag cpu sprSrDme false
  let cpu := cpuSetSrFlag cpu sprSrIme false
  let cpu := cpuSetSrFlag cpu sprSrSm true
  let cpu := cpuSetSrFlag cpu sprSrIee false
  cpuSetSrFlag cpu sprSrTee false

/-- The entry routine with the vector `low`, or `high` under `SR[EPH]`, that stores the effective
address `ea`, if there is one, in EEAR. -/
def exceptionEntry (high low : U32) (ea : Option U32) (cpu : CPU) : CPU :=
  let cpu :=
    if isInDelaySlot cpu then
      cpuSetSrFlag { cpu with epcr := cpu.pc - 4 } sprSrDsx true
    else
      cpuSetSrFlag { cpu with epcr := cpu.pc } sprSrDsx false
  let cpu := { cpu with eear := ea.getD cpu.eear }
  let cpu := { cpu with esr := cpu.sr }
  let cpu := { cpu with npc := if cpuIsSetSrFlag cpu sprSrEph then high else low }
  enterHandlerMode cpu

/-- `alignment_exception`. -/
def alignmentException (cpu : CPU) (ea : U32) : CPU :=
  exceptionEntry 0xF0000600 0x600 (some ea) cpu

/-- `dataPageFault`. -/
def dataPageFault (cpu : CPU) (ea : U32) : CPU :=
  exceptionEntry 0xF0000300 0x300 (some ea) cpu

/-- `dataTLBMiss`. -/
def dataTLBMiss (cpu : CPU) (ea : U32) : CPU :=
  exceptionEntry 0xF0000900 0x900 (some ea) cpu

/-- `instructionPageFault`. -/
def instructionPageFault (cpu : CPU) (ea : U32) : CPU :=
  exceptionEntry 0xF0000400 0x400 (some ea) cpu

/-- `instructionTLBMiss`. -/
def instructionTLBMiss (cpu : CPU) (ea : U32) : CPU :=
  exceptionEntry 0xF0000A00 0xA00 (some ea) cpu

/-- `range_exception`. -/
def rangeException (cpu : CPU) : CPU :=
  exceptionEntry 0xF0000B00 0xB00 none cpu

/-- `trap`. -/
def trap (cpu : CPU) : CPU :=
  exceptionEntry 0xF0000E00 0xE00 none cpu

/-- `sys`. -/
def sys (cpu : CPU) : CPU :=
  let cpu :=
    if isInDelaySlot cpu then
      { cpu with epcr := cpu.pc - 4 }
    else
      { cpu with epcr := cpu.npc }
  let cpu := { cpu with esr := cpu.sr }
  let cpu := cpuSetSrFlag cpu sprSrDsx (isInDelaySlot cpu)
  let cpu := { cpu with npc := if cpuIsSetSrFlag cpu sprSrEph then 0xF0000C00 else 0xC00 }
  enterHandlerMode cpu

/-! ### The exceptions as one type -/

/-- An exception of the simulator, with the effective address it reports. -/
inductive Exc
  | alignment (ea : U32)
  | dataPageFault (ea : U32)
  | dataTLBMiss (ea : U32)
  | instructionPageFault (ea : U32)
  | instructionTLBMiss (ea : U32)
  | range
  | sys
  | trap
  deriving DecidableEq, Repr

namespace Exc

/-- The entry routine of an exception. -/
def enter : Exc → CPU → CPU
  | alignment ea, cpu => alignmentException cpu ea
  | dataPageFault ea, cpu => WirePatch.dataPageFault cpu ea
  | dataTLBMiss ea, cpu => WirePatch.dataTLBMiss cpu ea
  | instructionPageFault ea, cpu => WirePatch.instructionPageFault cpu ea
  | instructionTLBMiss ea, cpu => WirePatch.instructionTLBMiss cpu ea
  | range, cpu => rangeException cpu
  | sys, cpu => WirePatch.sys cpu
  | trap, cpu => WirePatch.trap cpu

/-- The vector of an exception when `SR[EPH]` is clear. -/
def vector : Exc → U32
  | alignment _ => 0x600
  | dataPageFault _ => 0x300
  | dataTLBMiss _ => 0x900
  | instructionPageFault _ => 0x400
  | instructionTLBMiss _ => 0xA00
  | range => 0xB00
  | sys => 0xC00
  | trap => 0xE00

/-- The effective address an exception stores in EEAR, if it stores one. -/
def ea : Exc → Option U32
  | alignment ea | dataPageFault ea | dataTLBMiss ea | instructionPageFault ea
  | instructionTLBMiss ea => some ea
  | range | sys | trap => none

end Exc

/-- The exception vectors, with the low and the high prefix. -/
def isVector (pc : U32) : Prop :=
  ∃ e : Exc, pc = e.vector ∨ pc = 0xF0000000 ||| e.vector

/-- The supervision register that an entry leaves: DSX is the delay-slot bit, DME, IME, IEE and
TEE are cleared, SM is set, and nothing else changes. -/
def entrySr (sr : U32) (delaySlot : Bool) : U32 :=
  BitMask.merge sr 0xffffdf98 (bif delaySlot then 0x2001 else 0x1)

theorem enterHandlerMode_eq (cpu : CPU) :
    enterHandlerMode cpu = { cpu with sr := BitMask.merge cpu.sr 0xffffff98 0x1 } := by
  simp only [enterHandlerMode, cpuSetSrFlag_eq, BitMask.assign_eq_merge, BitMask.merge_merge]
  rfl

/-- Writing DSX and then entering handler mode leaves `entrySr`. -/
theorem merge_assign_dsx (sr : U32) (delaySlot : Bool) :
    BitMask.merge (BitMask.assign sr sprSrDsx delaySlot) 0xffffff98 0x1 =
      entrySr sr delaySlot := by
  rw [BitMask.assign_eq_merge, BitMask.merge_merge, entrySr]
  cases delaySlot <;> rfl

/-- DSX is not the exception prefix. -/
theorem assign_dsx_and_eph (sr : U32) (delaySlot : Bool) :
    BitMask.assign sr sprSrDsx delaySlot &&& sprSrEph = sr &&& sprSrEph :=
  BitMask.assign_and_of_disjoint (by decide) ..

/-- What the shared entry routine writes. -/
theorem exceptionEntry_eq (high low : U32) (ea : Option U32) (cpu : CPU) :
    exceptionEntry high low ea cpu =
      { cpu with
        epcr := if isInDelaySlot cpu then cpu.pc - 4 else cpu.pc
        eear := ea.getD cpu.eear
        esr := BitMask.assign cpu.sr sprSrDsx (isInDelaySlot cpu)
        npc := if cpuIsSetSrFlag cpu sprSrEph then high else low
        sr := entrySr cpu.sr (isInDelaySlot cpu) } := by
  cases h : isInDelaySlot cpu
  · simp only [exceptionEntry, h, enterHandlerMode_eq, cpuSetSrFlag_eq, merge_assign_dsx,
      cpuIsSetSrFlag, assign_dsx_and_eph, Bool.false_eq_true, if_false]
    rfl
  · simp only [exceptionEntry, h, enterHandlerMode_eq, cpuSetSrFlag_eq, merge_assign_dsx,
      cpuIsSetSrFlag, assign_dsx_and_eph, if_true]
    rfl

/-- What the system call routine writes. -/
theorem sys_eq (cpu : CPU) :
    sys cpu =
      { cpu with
        epcr := if isInDelaySlot cpu then cpu.pc - 4 else cpu.npc
        esr := cpu.sr
        npc := if cpuIsSetSrFlag cpu sprSrEph then 0xF0000C00 else 0xC00
        sr := entrySr cpu.sr (isInDelaySlot cpu) } := by
  have h (epcr esr : U32) : isInDelaySlot { cpu with epcr := epcr, esr := esr } =
      isInDelaySlot cpu := rfl
  cases hd : isInDelaySlot cpu
  · simp only [sys, h, hd, enterHandlerMode_eq, cpuSetSrFlag_eq, merge_assign_dsx,
      cpuIsSetSrFlag, assign_dsx_and_eph, Bool.false_eq_true, if_false]
    rfl
  · simp only [sys, h, hd, enterHandlerMode_eq, cpuSetSrFlag_eq, merge_assign_dsx,
      cpuIsSetSrFlag, assign_dsx_and_eph, if_true]
    rfl

/-- An entry keeps the bits it does not name. -/
theorem entrySr_and {m : U32} (hkeep : 0xffffdf98 &&& m = m) (hset : 0x2001 &&& m = 0) (sr : U32)
    (delaySlot : Bool) : entrySr sr delaySlot &&& m = sr &&& m := by
  refine BitMask.merge_and_of_keep hkeep ?_ sr
  cases delaySlot
  · calc
      0x1 &&& m = 0x1 &&& (0x2001 &&& m) := by rw [← BitVec.and_assoc]; rfl
      _ = 0 := by rw [hset]; rfl
  · exact hset

namespace Exc

/-- The exception program counter an entry routine stores. -/
def entryEpcr (e : Exc) (cpu : CPU) : U32 :=
  if isInDelaySlot cpu then cpu.pc - 4 else if e = sys then cpu.npc else cpu.pc

/-- The exception supervision register an entry routine stores. -/
def entryEsr (e : Exc) (cpu : CPU) : U32 :=
  if e = sys then cpu.sr else BitMask.assign cpu.sr sprSrDsx (isInDelaySlot cpu)

/-- All entry routines but `sys` are the shared one. -/
theorem enter_eq_exceptionEntry {e : Exc} (h : e ≠ sys) (cpu : CPU) :
    e.enter cpu = exceptionEntry (0xF0000000 ||| e.vector) e.vector e.ea cpu := by
  cases e with
  | sys => exact absurd rfl h
  | range | trap => rfl
  | _ =>
    rw [vector]
    rfl

/-- What an entry routine writes. -/
theorem enter_eq (e : Exc) (cpu : CPU) :
    e.enter cpu =
      { cpu with
        epcr := e.entryEpcr cpu
        eear := e.ea.getD cpu.eear
        esr := e.entryEsr cpu
        npc := if cpuIsSetSrFlag cpu sprSrEph then 0xF0000000 ||| e.vector else e.vector
        sr := entrySr cpu.sr (isInDelaySlot cpu) } := by
  by_cases h : e = sys
  · subst h
    exact sys_eq cpu
  · rw [enter_eq_exceptionEntry h, exceptionEntry_eq, entryEpcr, entryEsr, if_neg h, if_neg h]

/-- The next program counter after an entry is an exception vector. -/
theorem isVector_enter_npc (e : Exc) (cpu : CPU) : isVector (e.enter cpu).npc := by
  rw [enter_eq]
  by_cases h : cpuIsSetSrFlag cpu sprSrEph
  · exact ⟨e, .inr (if_pos h)⟩
  · exact ⟨e, .inl (if_neg h)⟩

end Exc

end WirePatch
