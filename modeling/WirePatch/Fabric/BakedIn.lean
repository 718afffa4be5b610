import WirePatch.Fabric.Ovl

/-!
# The baked-in checkers

The module `BakedInAssertions` (`BakedInAssertions.v`): ten checkers of the processor's
exposed state, built from the blocks of `Fabric.Ovl` and a few history registers. Their outputs
are combinational. The counters and the registered copy of the output, which nothing reads, are
left out.

## Main definitions

* `Fabric.IsaState`: the processor state exposed to the checkers.
* `Fabric.BakedIn`, `Fabric.BakedIn.step`: the registers of the module.
* `Fabric.BakedIn.checkersFired`: its output.

## Main results

* `Fabric.BakedIn.regs_onEdge`: every edge block runs on its own ports.
* `Fabric.BakedIn.checkersFired_of_rst`: nothing fires in reset.
-/

namespace WirePatch.Fabric

open Clocked

/-- The processor state exposed to the checkers, the fields of `sp_isa_state` in
`or1200_cpu.v`. -/
structure IsaState where
  exPc : BitVec 32
  exInsn : BitVec 32
  sprDatPpc : BitVec 32
  sprDatNpc : BitVec 32
  eear : BitVec 32
  sr : BitVec 17
  esr : BitVec 17
  epcr : BitVec 32
  immuSxe : Bool
  immuUxe : Bool
  immuEn : Bool
  gprWrittenTo : Bool
  gprWrittenAddr : BitVec 5
  gprWrittenData : BitVec 32
  dcpuAdrO : BitVec 32
  dcpuDatI : BitVec 32
  operandB : BitVec 32
  deriving Inhabited

namespace IsaState

/-- `OR1200_SR_SM`, bit 0 of the supervision register: supervisor mode. -/
def srSm (a : IsaState) : Bool := a.sr.getLsbD 0

/-- `OR1200_SR_SM` of the saved supervision register. -/
def esrSm (a : IsaState) : Bool := a.esr.getLsbD 0

/-- `OR1200_SR_DSX`, bit 13: the exception came from a delay slot. -/
def srDsx (a : IsaState) : Bool := a.sr.getLsbD 13

/-- `(ex_pc & OR1200_EXCEPTION_VECTOR_UNMASK) == 0`: the pc is an exception vector. -/
def atVector (a : IsaState) : Bool := a.exPc &&& 0xFFFFF0FF#32 == 0

/-- The pc is the vector of the instruction TLB miss. -/
def atItlbMiss (a : IsaState) : Bool := a.exPc == 0xA00#32

/-- `ex_insn & OR1200_OPCODE_MASK`. -/
def opcode (a : IsaState) : BitVec 32 := a.exInsn &&& 0xFC000000#32

/-- `ex_insn[31:28] == 0`: a jump, or a branch on a clear flag. -/
def isJump (a : IsaState) : Bool := a.exInsn.extractLsb' 28 4 == 0x0#4

/-- `ex_insn[31:28] == 4`: a register jump. -/
def isJumpRegister (a : IsaState) : Bool := a.exInsn.extractLsb' 28 4 == 0x4#4

/-- `ex_insn[31:26] == 4`: a branch on a set flag. -/
def isBranch (a : IsaState) : Bool := a.exInsn.extractLsb' 26 6 == 0x04#6

/-- `ex_insn[31:26] == 9`: a return from an exception. -/
def isRfe (a : IsaState) : Bool := a.exInsn.extractLsb' 26 6 == 0x09#6

theorem atVector_of_atItlbMiss {a : IsaState} (h : a.atItlbMiss = true) : a.atVector = true := by
  rw [atItlbMiss, beq_iff_eq] at h
  rw [atVector, h]
  rfl

end IsaState

/-- The inputs of `BakedInAssertions`. -/
structure BakedInPorts where
  control : Control
  isa : IsaState

/-- The edge blocks of `BakedInAssertions`, under their instance names. -/
inductive EdgeBlock
  | oaoew3_1 | oaoew3_3a | oaoew3_5 | oaoew3_5b | oaoew3_7
  | oaoew5_1
  | oaoew8_1 | oaoew8_2
  | oaoew9_1 | oaoew9_2
  | oaoew15_1
  | oaoew16_1 | oaoew16_2 | oaoew16_3 | oaoew16_4 | oaoew16_5
  deriving DecidableEq, Repr

/-- The next blocks of `BakedInAssertions`, under their instance names. -/
inductive NextBlock
  | onw15_2 | onw18_1 | onw18_2
  deriving DecidableEq, Repr

/-- The registers of `BakedInAssertions`, those of its blocks included. -/
structure BakedIn where
  onEdge : EdgeBlock → OvlAlwaysOnEdge
  next : NextBlock → OvlNext
  odw_13_1 : OvlDelta 32
  checker_3_3b_1 : Bool
  specXorReg : BitVec 32
  checker_13_2_1 : Bool
  checker_13_2_2 : Bool
  checker_13_3_1 : Bool
  checker_13_3_2 : Bool
  checker_13_4_1 : Bool
  checker_13_4_2 : Bool
  checker_13_5_1 : Bool

/-- A test by an edge block that is always enabled with its control and never misconfigured. -/
def edgePorts (control : Control) (samplingEvent testExpr : Bool) : OvlAlwaysOnEdge.Ports where
  control := control
  samplingEvent := samplingEvent
  testExpr := testExpr
  prevConfigInvalid := false

/-- A test one enabled cycle after its start event. -/
def nextPorts (control : Control) (startEvent testExpr : Bool) : OvlNext.Ports where
  control := control
  numCks := 1
  startEvent := startEvent
  testExpr := testExpr
  prevConfigInvalid := false

/-- The wire `spec_xor_small`: the bus data differs from the written data, now and in the cycle
before. -/
def specXorSmall (specXorReg : BitVec 32) (a : IsaState) : Bool :=
  specXorReg != 0 && (a.gprWrittenData ^^^ a.dcpuDatI) != 0

namespace EdgeBlock

/-- The ports of each edge block. Those of checker 16 are enabled in every cycle. -/
def ports (k : EdgeBlock) (specXorReg : BitVec 32) (x : BakedInPorts) : OvlAlwaysOnEdge.Ports :=
  let a := x.isa
  let always : Control := { x.control with enable := true }
  match k with
  | oaoew3_1 => edgePorts x.control a.atItlbMiss (a.eear == a.sprDatNpc)
  | oaoew3_3a => edgePorts x.control a.atVector false
  | oaoew3_5 => edgePorts x.control a.atVector (a.epcr == a.sprDatPpc + 4#32)
  | oaoew3_5b => edgePorts x.control a.atItlbMiss (a.epcr == a.sprDatNpc)
  | oaoew3_7 => edgePorts x.control a.atVector (a.epcr == a.sprDatPpc)
  | oaoew5_1 => edgePorts x.control (a.exInsn &&& 0xF0000000#32 == 0x80000000#32)
      (!specXorSmall specXorReg a)
  | oaoew8_1 => edgePorts x.control a.srSm x.control.rst
  | oaoew8_2 => edgePorts x.control a.srSm a.atVector
  | oaoew9_1 => edgePorts x.control (a.opcode == 0x24000000#32) (a.srSm == a.esrSm)
  | oaoew9_2 => edgePorts x.control
      (a.exInsn &&& (0xFC000000#32 ||| 0x000007FF#32) == 0xC0000011#32)
      (a.srSm == a.operandB.getLsbD 0)
  | oaoew15_1 => edgePorts x.control (a.opcode == 0x24000000#32) (a.sr == a.esr)
  | oaoew16_1 => edgePorts always a.gprWrittenTo (a.exInsn &&& 0xC0000000#32 == 0x80000000#32)
  | oaoew16_2 => edgePorts always a.gprWrittenTo (a.opcode == 0x18000000#32)
  | oaoew16_3 => edgePorts always a.gprWrittenTo (a.opcode == 0xE0000000#32)
  | oaoew16_4 => edgePorts always a.gprWrittenTo
      (a.exInsn &&& 0x03E00000#32 == 0#6 ++ a.gprWrittenAddr ++ 0#21)
  | oaoew16_5 => edgePorts always a.gprWrittenTo (a.gprWrittenAddr == 9#5)

/-- All edge blocks but those of checker 16 take the control inputs of the module. -/
theorem control_ports {k : EdgeBlock}
    (hk : k ∉ [oaoew16_1, oaoew16_2, oaoew16_3, oaoew16_4, oaoew16_5])
    (specXorReg : BitVec 32) (x : BakedInPorts) :
    (k.ports specXorReg x).control = x.control := by
  cases k <;> first | rfl | simp at hk

/-- Those of checker 16 are active in every cycle out of reset. -/
theorem isActive_ports {k : EdgeBlock}
    (hk : k ∈ [oaoew16_1, oaoew16_2, oaoew16_3, oaoew16_4, oaoew16_5]) {x : BakedInPorts}
    (hrst : x.control.rst = false) (specXorReg : BitVec 32) :
    (k.ports specXorReg x).control.IsActive := by
  cases k <;> first | exact ⟨hrst, rfl⟩ | simp at hk

theorem rst_ports (k : EdgeBlock) (specXorReg : BitVec 32) (x : BakedInPorts) :
    (k.ports specXorReg x).control.rst = x.control.rst := by
  cases k <;> rfl

theorem prevConfigInvalid_ports (k : EdgeBlock) (specXorReg : BitVec 32) (x : BakedInPorts) :
    (k.ports specXorReg x).prevConfigInvalid = false := by
  cases k <;> rfl

end EdgeBlock

/-- The ports of each next block. -/
def NextBlock.ports (k : NextBlock) (x : BakedInPorts) : OvlNext.Ports :=
  let a := x.isa
  match k with
  | onw15_2 => nextPorts x.control (a.opcode == 0x24000000#32) (a.exPc == a.epcr)
  | onw18_1 => nextPorts x.control (a.exInsn &&& 0xFFFF0000#32 == 0x20000000#32)
      (a.exPc == 0xC00#32)
  | onw18_2 => nextPorts x.control (a.exInsn &&& 0xFFFF0000#32 == 0x21000000#32)
      (a.exPc == 0xE00#32)

theorem NextBlock.control_ports (k : NextBlock) (x : BakedInPorts) :
    (k.ports x).control = x.control := by
  cases k <;> rfl

/-- The ports of the delta block. Its clock is `clk & enable`. -/
def odw_13_1_ports (x : BakedInPorts) : OvlDelta.Ports 32 4 where
  rst := x.control.rst
  min := 0
  max := 4
  testExpr := x.isa.exPc
  prevConfigInvalid := false

namespace BakedIn

/-- The registers after a reset. -/
def reset : BakedIn where
  onEdge := fun _ => OvlAlwaysOnEdge.reset
  next := fun _ => OvlNext.reset
  odw_13_1 := OvlDelta.reset
  checker_3_3b_1 := false
  specXorReg := 0
  checker_13_2_1 := false
  checker_13_2_2 := false
  checker_13_3_1 := false
  checker_13_3_2 := false
  checker_13_4_1 := false
  checker_13_4_2 := false
  checker_13_5_1 := false

/-! ### The checkers -/

section Checkers

variable (s : BakedIn) (x : BakedInPorts)

/-- The output of an edge block. -/
def edge (k : EdgeBlock) : Bool := (s.onEdge k).out (k.ports s.specXorReg x)

/-- The output of a next block. -/
def nextOut (k : NextBlock) : Bool := (s.next k).out (k.ports x)

/-- The output of an `ovl_always_wrapped` block enabled with the module. -/
def always (testExpr : Bool) : Bool := ovlAlways x.control testExpr false

/-- The output of an `ovl_always_wrapped` block with an enable of its own. -/
def alwaysWith (enable testExpr : Bool) : Bool :=
  ovlAlways { x.control with enable := enable } testExpr false

/-- Checker 1: the page's execution rights match the mode of the processor. -/
def checker_1 : Bool :=
  let a := x.isa
  let immuEnable := x.control.enable && a.immuEn
  (always x (a.srSm == true) || alwaysWith x immuEnable (a.immuSxe == true)) &&
    (always x (a.srSm == false) || alwaysWith x immuEnable (a.immuUxe == true)) &&
    always x (a.immuEn == false)

def checker_3_1 : Bool := s.edge x .oaoew3_1

/-- The block behind this wire is commented out. -/
def checker_3_2 : Bool := false

def checker_3_3a : Bool := s.edge x .oaoew3_3a

def checker_3_3b : Bool := always x (x.isa.srSm == true)

def checker_3_3c : Bool := always x (x.isa.esrSm == false)

def checker_3_4 : Bool := always x (x.isa.srDsx == false)

def checker_3_5 : Bool := s.edge x .oaoew3_5

def checker_3_5b : Bool := s.edge x .oaoew3_5b

def checker_3_6 : Bool := always x (x.isa.srDsx == true)

def checker_3_7 : Bool := s.edge x .oaoew3_7

/-- Checker 3: correct backup of registers on an exception. -/
def checker_3 : Bool :=
  s.checker_3_1 x || checker_3_2 ||
    (s.checker_3_3a x && s.checker_3_3b_1 && checker_3_3c x) ||
    ((checker_3_4 x || (s.checker_3_5 x && s.checker_3_5b x)) &&
      (checker_3_6 x || s.checker_3_7 x))

/-- Checker 5: data from the bus is stored in the register. -/
def checker_5 : Bool := s.edge x .oaoew5_1 && always x (x.isa.opcode == 0x8C000000#32)

/-- Checker 8: supervisor mode is entered through a vector. -/
def checker_8 : Bool := s.edge x .oaoew8_1 && s.edge x .oaoew8_2

/-- Checker 9: the mode set by a return from an exception or a move to SR. -/
def checker_9 : Bool := s.edge x .oaoew9_1 || s.edge x .oaoew9_2

def checker_13_1 : Bool := s.odw_13_1.out (odw_13_1_ports x)

/-- Jump. -/
def checker_13_2 : Bool := always x x.isa.isJump

/-- Jump register. -/
def checker_13_3 : Bool := always x x.isa.isJumpRegister

/-- Branch. -/
def checker_13_4 : Bool := always x x.isa.isBranch

/-- Return from an exception. -/
def checker_13_5 : Bool := always x x.isa.isRfe

/-- Exception. -/
def checker_13_6 : Bool := ovlProposition x.control x.isa.atVector false

/-- Checker 13: control flow is continuous. -/
def checker_13 : Bool :=
  s.checker_13_1 x && s.checker_13_2_1 && s.checker_13_3_1 && s.checker_13_4_1 &&
    checker_13_5 x && checker_13_6 x

/-- Checker 15: a return from an exception updates the special registers correctly. -/
def checker_15 : Bool :=
  s.edge x .oaoew15_1 || (s.nextOut x .onw15_2 && always x x.isa.atVector)

def checker_16_6 : Bool := alwaysWith x true (x.isa.opcode == 0x04000000#32)

def checker_16_7 : Bool := alwaysWith x true (x.isa.opcode == 0x48000000#32)

/-- Checker 16: writes of general registers name the target of the instruction. -/
def checker_16 : Bool :=
  ((s.edge x .oaoew16_1 && s.edge x .oaoew16_2 && s.edge x .oaoew16_3) || s.edge x .oaoew16_4) &&
    (s.edge x .oaoew16_5 || (checker_16_6 x && checker_16_7 x))

/-- Checker 18: a system call or a trap goes to its vector. -/
def checker_18 : Bool := s.nextOut x .onw18_1 || s.nextOut x .onw18_2

/-- Checker 19: checker 3 gated by the continuity of the control flow. -/
def checker_19 : Bool := s.checker_3 x && s.checker_13_1 x

/-- The output `checkersFired`: bit `i` belongs to checker `i`. -/
def checkersFired : BitVec 32 :=
  0#12 ++ BitVec.ofBool (s.checker_19 x) ++ BitVec.ofBool (s.checker_18 x) ++ 0#1 ++
    BitVec.ofBool (s.checker_16 x) ++ BitVec.ofBool (s.checker_15 x) ++ 0#1 ++
    BitVec.ofBool (s.checker_13 x) ++ 0#3 ++ BitVec.ofBool (s.checker_9 x) ++
    BitVec.ofBool (s.checker_8 x) ++ 0#2 ++ BitVec.ofBool (s.checker_5 x) ++ 0#1 ++
    BitVec.ofBool (s.checker_3 x) ++ 0#1 ++ BitVec.ofBool (checker_1 x) ++ 0#1

/-- The registers at the next clock edge. `checker_3_3b_1` and `spec_xor_reg` load in every
cycle, the history of checker 13 in the enabled ones. -/
def step : BakedIn where
  onEdge := fun k => (s.onEdge k).step (k.ports s.specXorReg x)
  next := fun k => (s.next k).step (k.ports x)
  odw_13_1 := if x.control.enable then s.odw_13_1.step (odw_13_1_ports x) else s.odw_13_1
  checker_3_3b_1 := if x.control.rst then false else checker_3_3b x
  specXorReg := x.isa.gprWrittenData ^^^ x.isa.dcpuDatI
  checker_13_2_1 := x.control.latch false (checker_13_2 x) s.checker_13_2_1
  checker_13_2_2 := x.control.latch false s.checker_13_2_1 s.checker_13_2_2
  checker_13_3_1 := x.control.latch false (checker_13_3 x) s.checker_13_3_1
  checker_13_3_2 := x.control.latch false s.checker_13_3_1 s.checker_13_3_2
  checker_13_4_1 := x.control.latch false (checker_13_4 x) s.checker_13_4_1
  checker_13_4_2 := x.control.latch false s.checker_13_4_1 s.checker_13_4_2
  checker_13_5_1 := x.control.latch false (checker_13_5 x) s.checker_13_5_1

end Checkers

section Output

variable {s : BakedIn} {x : BakedInPorts}

@[simp] theorem getLsbD_checkersFired_3 : (s.checkersFired x).getLsbD 3 = s.checker_3 x := by
  simp only [checkersFired, BitVec.getLsbD_append]
  simp

@[simp] theorem getLsbD_checkersFired_8 : (s.checkersFired x).getLsbD 8 = s.checker_8 x := by
  simp only [checkersFired, BitVec.getLsbD_append]
  simp

@[simp] theorem getLsbD_checkersFired_9 : (s.checkersFired x).getLsbD 9 = s.checker_9 x := by
  simp only [checkersFired, BitVec.getLsbD_append]
  simp

@[simp] theorem getLsbD_checkersFired_13 : (s.checkersFired x).getLsbD 13 = s.checker_13 x := by
  simp only [checkersFired, BitVec.getLsbD_append]
  simp

@[simp] theorem getLsbD_checkersFired_15 : (s.checkersFired x).getLsbD 15 = s.checker_15 x := by
  simp only [checkersFired, BitVec.getLsbD_append]
  simp

@[simp] theorem getLsbD_checkersFired_16 : (s.checkersFired x).getLsbD 16 = s.checker_16 x := by
  simp only [checkersFired, BitVec.getLsbD_append]
  simp

theorem always_of_isActive (h : x.control.IsActive) (testExpr : Bool) :
    always x testExpr = !testExpr :=
  ovlAlways_of_isActive h testExpr

theorem always_of_rst (h : x.control.rst = true) (testExpr : Bool) :
    always x testExpr = false := by
  simp [always, ovlAlways, h]

theorem alwaysWith_of_rst (h : x.control.rst = true) (enable testExpr : Bool) :
    alwaysWith x enable testExpr = false := by
  simp [alwaysWith, ovlAlways, h]

theorem edge_of_rst (h : x.control.rst = true) (k : EdgeBlock) : s.edge x k = false :=
  OvlAlwaysOnEdge.out_of_rst ((k.rst_ports _ x).trans h) _

theorem nextOut_of_rst (h : x.control.rst = true) (k : NextBlock) : s.nextOut x k = false :=
  OvlNext.out_of_rst ((congrArg Control.rst (k.control_ports x)).trans h) _

/-- The delta block of checker 13 has lower limit 0 and never fires. -/
theorem checker_13_1_eq_false : s.checker_13_1 x = false :=
  OvlDelta.out_of_min_eq_zero rfl _

/-- No checker fires while the module is in reset. -/
theorem checkersFired_of_rst (h : x.control.rst = true) : s.checkersFired x = 0 := by
  simp only [checkersFired, checker_19, checker_18, checker_16, checker_15, checker_13, checker_9,
    checker_8, checker_5, checker_3, checker_3_1, checker_3_2, checker_3_3a, checker_3_4,
    checker_3_5, checker_3_6, checker_1, edge_of_rst h, nextOut_of_rst h, always_of_rst h,
    alwaysWith_of_rst h, checker_13_1_eq_false, Bool.false_and, Bool.or_self]
  rfl

end Output

/-! ### Runs -/

section Run

variable (x : ℕ → BakedInPorts) (t : ℕ)

/-- The registers in a cycle of a run that starts after a reset. -/
def regs : BakedIn := run step reset x t

/-- The output in a cycle of a run that starts after a reset. -/
def fired : BitVec 32 := (regs x t).checkersFired (x t)

/-- The control inputs of a run. -/
def control (t : ℕ) : Control := (x t).control

/-- An edge block runs on its own ports. -/
theorem regs_onEdge (k : EdgeBlock) : (regs x t).onEdge k =
    run OvlAlwaysOnEdge.step OvlAlwaysOnEdge.reset
      (fun r => k.ports (regs x r).specXorReg (x r)) t :=
  run_component (fun s : BakedIn => s.onEdge k) (fun s y => k.ports s.specXorReg y)
    (fun _ _ => rfl) t

/-- The edge blocks of the checkers other than 16 see the control inputs of the module. -/
theorem control_edgePorts {k : EdgeBlock}
    (hk : k ∉ [.oaoew16_1, .oaoew16_2, .oaoew16_3, .oaoew16_4, .oaoew16_5]) :
    (fun r => (k.ports (regs x r).specXorReg (x r)).control) = control x := by
  funext r
  exact EdgeBlock.control_ports hk _ _

/-- An edge block of a checker other than 16, at an enabled cycle `t` whose latest enabled cycle
is `p`. -/
theorem edge_of_lastActive {x : ℕ → BakedInPorts} {p t : ℕ} (hp : LastActive (control x) p t)
    (ht : (x t).control.IsActive) {k : EdgeBlock}
    (hk : k ∉ [.oaoew16_1, .oaoew16_2, .oaoew16_3, .oaoew16_4, .oaoew16_5]) :
    (regs x t).edge (x t) k =
      (!(k.ports (regs x p).specXorReg (x p)).samplingEvent &&
        (k.ports (regs x t).specXorReg (x t)).samplingEvent &&
        !(k.ports (regs x t).specXorReg (x t)).testExpr) := by
  rw [edge, regs_onEdge]
  refine OvlAlwaysOnEdge.out_run_of_lastActive _ t ?_ ?_ (k.prevConfigInvalid_ports _ _)
  · rw [control_edgePorts x hk]
    exact hp
  · rw [EdgeBlock.control_ports hk]
    exact ht

/-- When an edge block of a checker other than 16 fires. -/
theorem edge_eq_true_iff {k : EdgeBlock}
    (hk : k ∉ [.oaoew16_1, .oaoew16_2, .oaoew16_3, .oaoew16_4, .oaoew16_5]) :
    (regs x t).edge (x t) k = true ↔
      (x t).control.IsActive ∧ (k.ports (regs x t).specXorReg (x t)).samplingEvent = true ∧
        (k.ports (regs x t).specXorReg (x t)).testExpr = false ∧
        ∃ p, LastActive (control x) p t ∧
          (k.ports (regs x p).specXorReg (x p)).samplingEvent = false := by
  rw [edge, regs_onEdge, OvlAlwaysOnEdge.out_run_eq_true_iff _ _ (k.prevConfigInvalid_ports _ _),
    control_edgePorts x hk, EdgeBlock.control_ports hk]

/-- An edge block of checker 16, in a cycle out of reset after another one. -/
theorem edge_of_succ {x : ℕ → BakedInPorts} {t : ℕ} (hp : (x t).control.rst = false)
    (ht : (x (t + 1)).control.rst = false) {k : EdgeBlock}
    (hk : k ∈ [.oaoew16_1, .oaoew16_2, .oaoew16_3, .oaoew16_4, .oaoew16_5]) :
    (regs x (t + 1)).edge (x (t + 1)) k =
      (!(k.ports (regs x t).specXorReg (x t)).samplingEvent &&
        (k.ports (regs x (t + 1)).specXorReg (x (t + 1))).samplingEvent &&
        !(k.ports (regs x (t + 1)).specXorReg (x (t + 1))).testExpr) := by
  rw [edge, regs_onEdge]
  refine OvlAlwaysOnEdge.out_run_of_lastActive _ _ ?_ ?_ (k.prevConfigInvalid_ports _ _)
  · exact (lastActive_succ_of_isActive (EdgeBlock.isActive_ports hk hp _)).mpr rfl
  · exact EdgeBlock.isActive_ports hk ht _

/-- A next block at an enabled cycle `t` whose latest enabled cycle is `p`. -/
theorem nextOut_of_lastActive {x : ℕ → BakedInPorts} {p t : ℕ} (hp : LastActive (control x) p t)
    (ht : (x t).control.IsActive) (k : NextBlock) :
    (regs x t).nextOut (x t) k = ((k.ports (x p)).startEvent && !(k.ports (x t)).testExpr) := by
  have hrun : (regs x t).next k = run OvlNext.step OvlNext.reset (fun r => k.ports (x r)) t :=
    run_component (fun s : BakedIn => s.next k) (fun _ y => k.ports y) (fun _ _ => rfl) t
  have hcontrol : (fun r => (k.ports (x r)).control) = control x :=
    funext fun r => k.control_ports (x r)
  rw [nextOut, hrun]
  refine OvlNext.out_run_of_lastActive (fun r => k.ports (x r)) ?_ ?_ ?_ ?_
  · rw [hcontrol]
    exact hp
  · rw [k.control_ports]
    exact ht
  · cases k <;> rfl
  · cases k <;> rfl

end Run

end BakedIn

end WirePatch.Fabric
