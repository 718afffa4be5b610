import WirePatch.Simulator.Decode
import WirePatch.Simulator.Exceptions

/-!
# Register instructions

The instructions of `simulator.c` that compute on registers: arithmetic (lines 566–611 and
844–1193), logic and extension (lines 1195–1355), shifts (lines 1357–1443), the conditional
move, the comparisons (lines 1838–2044) and the multiply-accumulate group (lines 1028–1086 and
2047–2105). None of them reads memory; the arithmetic ones enter the range exception when
`SR[OVE]` and `SR[OV]` are set at their end.

## Main definitions

* One definition for each instruction, in the namespace `Insn`.
* `Computes`: what an instruction that only computes may change.

## Main results

* `Computes.setGpr`, `Computes.setFlag`, `Computes.setMac`: the updates these instructions are
  made of.
* `Ranges`: an instruction that computes and then checks for the range exception.
-/

namespace WirePatch

namespace Insn

/-! ### Arithmetic -/

/-- `mul_shared`. -/
def mulShared (cpu : CPU) (a b : U32) (rD : Reg) : CPU :=
  let prodOut := calcMul a b
  let cpu := cpuSetGpr cpu rD (prodOut.setWidth 32)
  let cpu := cpuSetSrFlag cpu sprSrOv
    (prodOut.slt 0xffffffff80000000 || BitVec.slt 0x7fffffff prodOut)
  cpuSetSrFlag cpu sprSrCy (decide (calcMulu a b > 0xffffffff))

/-- `add_base`. -/
def addBase (cpu : CPU) (carryIn : Bool) (rD : Reg) (a b : U32) : CPU :=
  let out := calcAdd carryIn a b
  let cpu := cpuSetGpr cpu rD out.res
  let cpu := cpuSetSrFlag cpu sprSrOv out.overflow
  cpuSetSrFlag cpu sprSrCy out.carry

/-- The last statement of every arithmetic instruction. -/
def checkRange (cpu : CPU) : CPU :=
  if cpuIsSetSrFlag cpu sprSrOve && cpuIsSetSrFlag cpu sprSrOv then rangeException cpu else cpu

def muli (cpu : CPU) (cont : Control) : CPU :=
  checkRange (mulShared cpu (cpu.gpr cont.rA) (exts cont.I) cont.rD)

def mul (cpu : CPU) (cont : Control) : CPU :=
  checkRange (mulShared cpu (cpu.gpr cont.rA) (cpu.gpr cont.rB) cont.rD)

def mulu (cpu : CPU) (cont : Control) : CPU :=
  let prod := calcMulu (cpu.gpr cont.rA) (cpu.gpr cont.rB)
  let cpu := cpuSetGpr cpu cont.rD (prod.setWidth 32)
  let cpu := cpuSetSrFlag cpu sprSrOv false
  checkRange (cpuSetSrFlag cpu sprSrCy (decide (prod > 0xffffffff)))

def divu (cpu : CPU) (cont : Control) : CPU :=
  let divisor := cpu.gpr cont.rB
  let dividend := cpu.gpr cont.rA
  let cpu :=
    if divisor ≠ 0 then cpuSetGpr cpu cont.rD (calcDivu divisor dividend).1 else cpu
  let cpu := cpuSetSrFlag cpu sprSrOv false
  checkRange (cpuSetSrFlag cpu sprSrCy (divisor == 0))

/-- `(~a) + 1` on `i32`. The sum overflows for `INT_MIN` and has no defined value; `undef` is the
word the compiled program yields. -/
def cNeg (undef a : U32) : U32 :=
  if a = 0x80000000 then undef else ~~~a + 1

/-- The quotient of `or32_div` for a non-zero divisor. -/
def divQuotient (undef : ℕ → U32) (divisor dividend : U32) : U32 :=
  let signDsor := divisor &&& 0x80000000
  let signDend := dividend &&& 0x80000000
  let divisor := if signDsor ≠ 0 then cNeg (undef 0) divisor else divisor
  let dividend := if signDend ≠ 0 then cNeg (undef 1) dividend else dividend
  let q := (calcDivu divisor dividend).1
  if signDsor ^^^ signDend ≠ 0 then ~~~(q - 1) else q

/-- `or32_div`. It compares the divisor with 0 after its sign is taken away. -/
def or32Div (undef : ℕ → U32) (cpu : CPU) (cont : Control) : CPU :=
  let divisor := cpu.gpr cont.rB
  let dividend := cpu.gpr cont.rA
  let absDivisor := if divisor &&& 0x80000000 ≠ 0 then cNeg (undef 0) divisor else divisor
  let cpu :=
    if absDivisor ≠ 0 then cpuSetGpr cpu cont.rD (divQuotient undef divisor dividend) else cpu
  let cpu := cpuSetSrFlag cpu sprSrOv false
  checkRange (cpuSetSrFlag cpu sprSrCy (absDivisor == 0))

def addi (cpu : CPU) (cont : Control) : CPU :=
  checkRange (addBase cpu false cont.rD (cpu.gpr cont.rA) (exts cont.I))

def addic (cpu : CPU) (cont : Control) : CPU :=
  checkRange
    (addBase cpu (cpuIsSetSrFlag cpu sprSrCy) cont.rD (cpu.gpr cont.rA) (exts cont.I))

def add (cpu : CPU) (cont : Control) : CPU :=
  checkRange (addBase cpu false cont.rD (cpu.gpr cont.rA) (cpu.gpr cont.rB))

def addc (cpu : CPU) (cont : Control) : CPU :=
  checkRange
    (addBase cpu (cpuIsSetSrFlag cpu sprSrCy) cont.rD (cpu.gpr cont.rA) (cpu.gpr cont.rB))

/-- The overflow test of `sub`, on the result read back from the register file. -/
def subOverflow (a b r : U32) : Bool :=
  (a.slt 0 && !b.slt 0 && !r.slt 0) || (!a.slt 0 && b.slt 0 && r.slt 0)

def sub (cpu : CPU) (cont : Control) : CPU :=
  let a := cpu.gpr cont.rA
  let b := cpu.gpr cont.rB
  let cpu := addBase cpu false cont.rD a (-b)
  let r := cpu.gpr cont.rD
  let cpu := cpuSetSrFlag cpu sprSrCy (decide (b > a))
  checkRange (cpuSetSrFlag cpu sprSrOv (subOverflow a b r))

/-! ### Bit searches -/

/-- The first index from `idx` on, of `n` candidates, where `p` holds, and the index after them
if there is none. -/
def scan (p : ℕ → Bool) : ℕ → ℕ → ℕ
  | 0, idx => idx
  | n + 1, idx => if p idx then idx else scan p n (idx + 1)

def fl1 (cpu : CPU) (cont : Control) : CPU :=
  let a := cpu.gpr cont.rA
  let idx := scan (fun idx => a &&& 1#32 <<< (31 - idx) != 0) 32 0
  cpuSetGpr cpu cont.rD (32 - BitVec.ofNat 32 idx)

def ff1 (cpu : CPU) (cont : Control) : CPU :=
  let a := cpu.gpr cont.rA
  let idx := scan (fun idx => a &&& 1#32 <<< idx != 0) 32 0
  let idx : U32 := if idx = 32 then -1 else BitVec.ofNat 32 idx
  cpuSetGpr cpu cont.rD (idx + 1)

/-! ### Multiply and accumulate -/

def mac (cpu : CPU) (cont : Control) : CPU :=
  cpuSetMac cpu (cpuGetMac cpu + calcMul (cpu.gpr cont.rA) (cpu.gpr cont.rB))

def msb (cpu : CPU) (cont : Control) : CPU :=
  cpuSetMac cpu (cpuGetMac cpu - calcMul (cpu.gpr cont.rA) (cpu.gpr cont.rB))

def maci (cpu : CPU) (cont : Control) : CPU :=
  cpuSetMac cpu (cpuGetMac cpu + calcMul (cpu.gpr cont.rA) (signExtend cont.I 15))

def movhi (cpu : CPU) (cont : Control) : CPU :=
  cpuSetGpr cpu cont.rD (cont.K <<< 16)

def macrc (cpu : CPU) (cont : Control) : CPU :=
  let m := cpuGetMac cpu
  let r := (m &&& 0xffffffff).setWidth 32
  cpuSetMac (cpuSetGpr cpu cont.rD r) 0

def macrcMovhi (cpu : CPU) (cont : Control) : CPU :=
  if cont.inst &&& 0x1ffff = 0x10000 then macrc cpu cont else movhi cpu cont

/-! ### Logic and extension -/

def ori (cpu : CPU) (cont : Control) : CPU :=
  cpuSetGpr cpu cont.rD (cpu.gpr cont.rA ||| cont.K)

protected def and (cpu : CPU) (cont : Control) : CPU :=
  cpuSetGpr cpu cont.rD (cpu.gpr cont.rA &&& cpu.gpr cont.rB)

protected def xor (cpu : CPU) (cont : Control) : CPU :=
  cpuSetGpr cpu cont.rD (cpu.gpr cont.rA ^^^ cpu.gpr cont.rB)

def xori (cpu : CPU) (cont : Control) : CPU :=
  cpuSetGpr cpu cont.rD (cpu.gpr cont.rA ^^^ exts cont.I)

protected def or (cpu : CPU) (cont : Control) : CPU :=
  cpuSetGpr cpu cont.rD (cpu.gpr cont.rA ||| cpu.gpr cont.rB)

def andi (cpu : CPU) (cont : Control) : CPU :=
  cpuSetGpr cpu cont.rD (cpu.gpr cont.rA &&& cont.K)

def extws (cpu : CPU) (cont : Control) : CPU :=
  cpuSetGpr cpu cont.rD (cpu.gpr cont.rA)

def extwz (cpu : CPU) (cont : Control) : CPU :=
  cpuSetGpr cpu cont.rD (cpu.gpr cont.rA)

def exths (cpu : CPU) (cont : Control) : CPU :=
  cpuSetGpr cpu cont.rD (signExtend (cpu.gpr cont.rA &&& 0xffff) 15)

def extbs (cpu : CPU) (cont : Control) : CPU :=
  cpuSetGpr cpu cont.rD (signExtend (cpu.gpr cont.rA &&& 0xff) 7)

def extbz (cpu : CPU) (cont : Control) : CPU :=
  cpuSetGpr cpu cont.rD (zeroExtend (cpu.gpr cont.rA) 8)

def exthz (cpu : CPU) (cont : Control) : CPU :=
  cpuSetGpr cpu cont.rD (zeroExtend (cpu.gpr cont.rA) 16)

/-- `cmov`. -/
def cmov (cpu : CPU) (cont : Control) : CPU :=
  cpuSetGpr cpu cont.rD
    (if cpuIsSetSrFlag cpu sprSrF then cpu.gpr cont.rA else cpu.gpr cont.rB)

/-! ### Shifts -/

/-- The C operator `>>` on `u32`. A shift by 32 or more has no defined value; `undef` is the word
the compiled program yields. -/
def cShr (undef a shift : U32) : U32 :=
  if shift < 32 then a >>> shift else undef

/-- The C operator `<<` on `u32`. -/
def cShl (undef a shift : U32) : U32 :=
  if shift < 32 then a <<< shift else undef

def srli (undef : U32) (cpu : CPU) (cont : Control) : CPU :=
  cpuSetGpr cpu cont.rD (cShr undef (cpu.gpr cont.rA) cont.L)

/-- The value of `srai` and `sra`: a logical shift whose sign bit is then extended. -/
def shiftRightSigned (undef rA shift : U32) : U32 :=
  let rA := cShr undef rA shift
  if shift > 0 then signExtend rA (31 - shift.toNat) else rA

def srai (undef : U32) (cpu : CPU) (cont : Control) : CPU :=
  cpuSetGpr cpu cont.rD (shiftRightSigned undef (cpu.gpr cont.rA) cont.L)

def slli (undef : U32) (cpu : CPU) (cont : Control) : CPU :=
  cpuSetGpr cpu cont.rD (cShl undef (cpu.gpr cont.rA) cont.L)

def sll (undef : U32) (cpu : CPU) (cont : Control) : CPU :=
  cpuSetGpr cpu cont.rD (cShl undef (cpu.gpr cont.rA) (cpu.gpr cont.rB &&& 0x1f))

/-- `srl`. The other shifts by a register mask the amount to five bits. -/
def srl (undef : U32) (cpu : CPU) (cont : Control) : CPU :=
  cpuSetGpr cpu cont.rD (cShr undef (cpu.gpr cont.rA) (cpu.gpr cont.rB))

def sra (undef : U32) (cpu : CPU) (cont : Control) : CPU :=
  cpuSetGpr cpu cont.rD (shiftRightSigned undef (cpu.gpr cont.rA) (cpu.gpr cont.rB &&& 0x1f))

/-- The value of `ror` and `rori`. -/
def rotateRight (undef rA shift : U32) : U32 :=
  cShr undef rA shift ||| cShl undef rA (32 - shift)

def ror (undef : U32) (cpu : CPU) (cont : Control) : CPU :=
  cpuSetGpr cpu cont.rD (rotateRight undef (cpu.gpr cont.rA) (cpu.gpr cont.rB &&& 0x1f))

def rori (undef : U32) (cpu : CPU) (cont : Control) : CPU :=
  cpuSetGpr cpu cont.rD (rotateRight undef (cpu.gpr cont.rA) cont.L)

/-- `or32_nop`, which does nothing outside the test build. -/
def or32Nop (cpu : CPU) (_ : Control) : CPU :=
  cpu

/-! ### Comparisons -/

/-- A comparison of two registers. -/
def setFlag (rel : U32 → U32 → Bool) (cpu : CPU) (cont : Control) : CPU :=
  cpuSetSrFlag cpu sprSrF (rel (cpu.gpr cont.rA) (cpu.gpr cont.rB))

/-- A comparison of a register with the sign-extended immediate. -/
def setFlagI (rel : U32 → U32 → Bool) (cpu : CPU) (cont : Control) : CPU :=
  cpuSetSrFlag cpu sprSrF (rel (cpu.gpr cont.rA) (exts cont.I))

def sfne := setFlag fun a b => a != b
def sfeq := setFlag fun a b => a == b
def sfltu := setFlag fun a b => a.ult b
def sfleu := setFlag fun a b => a.ule b
def sfgtu := setFlag fun a b => b.ult a
def sfgeu := setFlag fun a b => b.ule a
def sflts := setFlag fun a b => a.slt b
def sfles := setFlag fun a b => a.sle b
def sfgts := setFlag fun a b => b.slt a
def sfges := setFlag fun a b => b.sle a

def sfnei := setFlagI fun a b => a != b
def sfeqi := setFlagI fun a b => a == b
def sfltui := setFlagI fun a b => a.ult b
def sfleui := setFlagI fun a b => a.ule b
def sfgtui := setFlagI fun a b => b.ult a
def sfgeui := setFlagI fun a b => b.ule a
def sfltsi := setFlagI fun a b => a.slt b
def sflesi := setFlagI fun a b => a.sle b
def sfgtsi := setFlagI fun a b => b.slt a
def sfgesi := setFlagI fun a b => b.sle a

end Insn

/-! ### What a register instruction changes -/

/-- The flags a register instruction writes: F, CY and OV. -/
def computeFlags : U32 := 0xe00

/-- What an instruction that only computes may change: the general purpose registers, the flags
F, CY and OV, and the accumulator. -/
structure Computes (c c' : CPU) : Prop where
  pc : c'.pc = c.pc
  npc : c'.npc = c.npc
  branchPc : c'.branchPc = c.branchPc
  esr : c'.esr = c.esr
  epcr : c'.epcr = c.epcr
  eear : c'.eear = c.eear
  dsr : c'.dsr = c.dsr
  sr : c'.sr &&& ~~~computeFlags = c.sr &&& ~~~computeFlags

namespace Computes

theorem refl (c : CPU) : Computes c c :=
  ⟨rfl, rfl, rfl, rfl, rfl, rfl, rfl, rfl⟩

variable {c c' : CPU}

theorem setGpr (h : Computes c c') (reg : Reg) (value : U32) :
    Computes c (cpuSetGpr c' reg value) :=
  { h with }

theorem setMac (h : Computes c c') (m : U64) : Computes c (cpuSetMac c' m) :=
  { h with }

theorem setFlag (h : Computes c c') {flag : U32} (hflag : flag &&& ~~~computeFlags = 0#32)
    (set : Bool) : Computes c (cpuSetSrFlag c' flag set) := by
  rw [cpuSetSrFlag_eq]
  exact { h with sr := (BitMask.assign_and_of_disjoint hflag ..).trans h.sr }

theorem trans {c₁ c₂ c₃ : CPU} (h₁ : Computes c₁ c₂) (h₂ : Computes c₂ c₃) : Computes c₁ c₃ where
  pc := h₂.pc.trans h₁.pc
  npc := h₂.npc.trans h₁.npc
  branchPc := h₂.branchPc.trans h₁.branchPc
  esr := h₂.esr.trans h₁.esr
  epcr := h₂.epcr.trans h₁.epcr
  eear := h₂.eear.trans h₁.eear
  dsr := h₂.dsr.trans h₁.dsr
  sr := h₂.sr.trans h₁.sr

/-- A flag that no register instruction writes is kept. -/
theorem flag_eq (h : Computes c c') {flag : U32} (hflag : ~~~computeFlags &&& flag = flag) :
    cpuIsSetSrFlag c' flag = cpuIsSetSrFlag c flag :=
  cpuIsSetSrFlag_congr (BitMask.and_eq_and_of_subset h.sr hflag)

end Computes

/-- What an instruction that computes and then checks for overflow may do. -/
inductive Ranges (c : CPU) : CPU → Prop
  | computes {c' : CPU} : Computes c c' → Ranges c c'
  | range {c' : CPU} : Computes c c' → Ranges c (rangeException c')

theorem Computes.checkRange {c c' : CPU} (h : Computes c c') : Ranges c (Insn.checkRange c') := by
  rw [Insn.checkRange]
  split_ifs
  · exact .range h
  · exact .computes h

theorem Computes.addBase {c c' : CPU} (h : Computes c c') (carryIn : Bool) (rD : Reg)
    (a b : U32) : Computes c (Insn.addBase c' carryIn rD a b) :=
  ((h.setGpr ..).setFlag rfl _).setFlag rfl _

theorem Computes.mulShared {c c' : CPU} (h : Computes c c') (a b : U32) (rD : Reg) :
    Computes c (Insn.mulShared c' a b rD) :=
  ((h.setGpr ..).setFlag rfl _).setFlag rfl _

end WirePatch
