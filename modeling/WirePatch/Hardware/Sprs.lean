import WirePatch.Foundations.BitMask
import Mathlib.Tactic.IntervalCases

/-!
# Supervision register of the processor

The next value of the supervision register and of its copy ESR in the OR1200 core
(`or1200_sprs.v`, lines 347–390; `or1200_except.v`, lines 498–505). The register has 17 bits.

## Main definitions

* `Or1200.SrSignals`, `Or1200.toSr`: the signals read by `to_sr` and its value.
* `Or1200.nextEsr`: what is saved in ESR when an exception flushes the pipeline.

## Main results

* `Or1200.toSr_of_exceptStarted`: the word loaded when an exception starts, as one masked update.
-/

namespace WirePatch.Or1200

/-- The supervision register, of `OR1200_SR_WIDTH` bits. -/
abbrev SrWord := BitVec 17

/-- The signals read by `to_sr`. -/
structure SrSignals where
  sr : SrWord
  esr : SrWord
  spEsrGhost : SrWord
  dsx : Bool
  exceptStarted : Bool
  /-- `branch_op == OR1200_BRANCHOP_RFE`. -/
  branchOpRfe : Bool
  /-- `SP_IIE_ADDR_COMPARE`. -/
  spIieAddrCompare : Bool
  ovWe : Bool
  ovforw : Bool
  cyWe : Bool
  cyforw : Bool
  flagWe : Bool
  flagforw : Bool
  /-- `spr_we && sr_sel`. -/
  sprWeSr : Bool
  sprDatO : BitVec 32
  deriving Inhabited

namespace SrSignals

/-- The word a return from an exception loads. -/
def returned (s : SrSignals) : SrWord :=
  if s.spIieAddrCompare then s.spEsrGhost else s.esr

/-- The bits FO to OVE of `to_sr`. -/
def foToOve (s : SrSignals) : BitVec 4 :=
  if s.exceptStarted then s.sr.extractLsb' 14 2 ++ BitVec.ofBool s.dsx ++ 0#1
  else if s.branchOpRfe then s.returned.extractLsb' 12 4
  else if s.sprWeSr then 1#1 ++ s.sprDatO.extractLsb' 12 3
  else s.sr.extractLsb' 12 4

/-- The bit TED of `to_sr`. -/
def ted (s : SrSignals) : BitVec 1 :=
  if s.exceptStarted then 1#1
  else if s.branchOpRfe then s.returned.extractLsb' 16 1
  else if s.sprWeSr then s.sprDatO.extractLsb' 16 1
  else s.sr.extractLsb' 16 1

/-- A flag of `to_sr` at `bit`, that the execution unit writes with `forw` under `we`. -/
def forwardedFlag (s : SrSignals) (bit : ℕ) (we forw : Bool) : BitVec 1 :=
  if s.exceptStarted then s.sr.extractLsb' bit 1
  else if s.branchOpRfe then s.returned.extractLsb' bit 1
  else if we then BitVec.ofBool forw
  else if s.sprWeSr then s.sprDatO.extractLsb' bit 1
  else s.sr.extractLsb' bit 1

/-- The bits CE to SM of `to_sr`. -/
def ceToSm (s : SrSignals) : BitVec 9 :=
  if s.exceptStarted then s.sr.extractLsb' 7 2 ++ 0b00#2 ++ s.sr.extractLsb' 3 2 ++ 0b001#3
  else if s.branchOpRfe then s.returned.extractLsb' 0 9
  else if s.sprWeSr then s.sprDatO.extractLsb' 0 9
  else s.sr.extractLsb' 0 9

end SrSignals

/-- `to_sr`. -/
def toSr (s : SrSignals) : SrWord :=
  s.ted ++ s.foToOve ++ s.forwardedFlag 11 s.ovWe s.ovforw ++ s.forwardedFlag 10 s.cyWe s.cyforw ++
    s.forwardedFlag 9 s.flagWe s.flagforw ++ s.ceToSm

/-- The value of `esr` after the cycle in which an exception flushes the pipeline. -/
def nextEsr (srWe : Bool) (toSr sr : SrWord) : SrWord :=
  if srWe then toSr else sr

/-- When an exception starts, TED and SM are set, DSX is the delay-slot signal, OVE, IME, DME, IEE
and TEE are cleared, and nothing else changes. -/
theorem toSr_of_exceptStarted {s : SrSignals} (h : s.exceptStarted = true) :
    toSr s = BitMask.merge s.sr 0x0cf98 (0x10001 ||| bif s.dsx then 0x2000 else 0) := by
  refine BitVec.eq_of_getLsbD_eq fun i hi => ?_
  simp only [toSr, SrSignals.ted, SrSignals.foToOve, SrSignals.forwardedFlag, SrSignals.ceToSm,
    h, if_true, BitMask.merge, BitVec.getLsbD_append, BitVec.getLsbD_or, BitVec.getLsbD_and,
    BitVec.getLsbD_extractLsb']
  cases s.dsx <;> interval_cases i <;> simp

end WirePatch.Or1200
