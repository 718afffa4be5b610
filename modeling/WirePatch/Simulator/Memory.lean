import WirePatch.Simulator.Decode
import WirePatch.Simulator.Exceptions
import WirePatch.Simulator.Translation

/-!
# Loads and stores

The load and store instructions, `simulator.c`, lines 1536–1819. Byte and half-word accesses go
through the word around them, except that a byte whose physical address has one of its top five
bits set is accessed directly.

## Main definitions

* `simLoadData`, `simStoreData`.
* `Insn.lwz`, `Insn.lbz`, `Insn.lbs`, `Insn.lhz`, `Insn.lhs`, `Insn.sw`, `Insn.sb`, `Insn.sh`.
-/

namespace WirePatch

/-- `simLoadData`. -/
def simLoadData (m : Machine) (address : U32) : LoadOut :=
  let out := guestLoadD m address
  if out.ret = 1 then
    { out with machine := out.machine.setCpu (dataTLBMiss out.machine.cpu address) }
  else
    out

/-- `simStoreData`. -/
def simStoreData (m : Machine) (address value : U32) : Machine × U32 :=
  let out := guestStoreD m address value
  if out.2 = 1 then
    (out.1.setCpu (dataTLBMiss out.1.cpu address), out.2)
  else
    out

/-- The word an automatic variable holds after a load through its address, which may have left it
unassigned. -/
def LoadOut.var (out : LoadOut) : U32 :=
  out.value.getD (out.machine.junk 0)

/-! ### What the accessors do, by the word the walk returns -/

/-- The walk returns a status or a word above 2. -/
theorem status_cases (phyAddr : U32) : 2 < phyAddr ∨ phyAddr = 0 ∨ phyAddr = 1 ∨ phyAddr = 2 := by
  bv_omega

section Accessors

variable {m : Machine} {address : U32}

theorem simLoadData_of_two_lt (h : 2 < virtualToPhysicalD m address) :
    simLoadData m address =
      { machine := m.record ⟨.load, .word, virtualToPhysicalD m address,
          m.word (virtualToPhysicalD m address)⟩
        ret := 0
        value := some (m.word (virtualToPhysicalD m address)) } := by
  rw [simLoadData, guestLoadD, if_pos h]
  rfl

theorem simLoadData_of_eq_one (h : virtualToPhysicalD m address = 1) :
    simLoadData m address =
      { machine := m.setCpu (dataTLBMiss m.cpu address), ret := 1, value := none } := by
  rw [simLoadData, guestLoadD, h]
  rfl

theorem simLoadData_of_eq_zero (h : virtualToPhysicalD m address = 0) :
    simLoadData m address = { machine := m, ret := 0, value := none } := by
  rw [simLoadData, guestLoadD, h]
  rfl

theorem simLoadData_of_eq_two (h : virtualToPhysicalD m address = 2) :
    simLoadData m address = { machine := m, ret := 2, value := none } := by
  rw [simLoadData, guestLoadD, h]
  rfl

variable (value : U32)

theorem simStoreData_of_two_lt (h : 2 < virtualToPhysicalD m address) :
    simStoreData m address value = (storeFlushed m (virtualToPhysicalD m address) value, 0) := by
  rw [simStoreData, guestStoreD, if_pos h]
  rfl

theorem simStoreData_of_eq_one (h : virtualToPhysicalD m address = 1) :
    simStoreData m address value = (m.setCpu (dataTLBMiss m.cpu address), 1) := by
  rw [simStoreData, guestStoreD, h]
  rfl

theorem simStoreData_of_status (h0 : ¬ 2 < virtualToPhysicalD m address)
    (h1 : virtualToPhysicalD m address ≠ 1) :
    simStoreData m address value = (m, virtualToPhysicalD m address) := by
  rw [simStoreData, guestStoreD, if_neg h0, if_neg h1]

end Accessors

namespace Insn

/-! ### Loads -/

/-- The end of every load: on success, the register receives a value taken from the word. -/
def loadWord (m : Machine) (address : U32) (rD : Reg) (value : U32 → U32) : Machine :=
  let out := simLoadData m address
  if out.ret = 0 then
    out.machine.setCpu (cpuSetGpr out.machine.cpu rD (value out.var))
  else
    out.machine

def lwz (m : Machine) (cont : Control) : Machine :=
  let ea := calcEa m.cpu cont
  if ea &&& 0x3 ≠ 0 then
    m.setCpu (alignmentException m.cpu ea)
  else
    loadWord m ea cont.rD fun value => value

/-- A direct byte load, `l.lbz` or `l.lbs` of the processor, whose value is extended by `ext`. -/
def loadByte (ext : BitVec 8 → U32) (m : Machine) (phyAddr : U32) (rD : Reg) : Machine :=
  let m := m.record ⟨.load, .byte, phyAddr, (m.mem phyAddr).zeroExtend 32⟩
  m.setCpu (cpuSetGpr m.cpu rD (ext (m.mem phyAddr)))

/-- The value of `lbz`, from the word around the byte at `ea`. -/
def lbzValue (ea value : U32) : U32 :=
  value >>> ((0x3 - (ea &&& 0x3)) * 8) &&& 0xff

/-- The value of `lbs`. -/
def lbsValue (ea value : U32) : U32 :=
  signExtend (value >>> ((0x3 - (ea &&& 0x3)) * 8) &&& 0xff) 7

/-- The value of `lhz`, from the word around the half-word at `ea`. -/
def lhzValue (ea value : U32) : U32 :=
  if ea &&& 0x2 = 0 then value >>> 16 else value &&& 0xffff

/-- The value of `lhs`. -/
def lhsValue (ea value : U32) : U32 :=
  let value := if ea &&& 0x2 = 0 then value >>> 16 else value
  if value &&& 0x00008000 = 0 then value &&& 0xffff else value ||| 0xffff0000

/-- The body of `lbz` and `lbs`: they translate the address of the byte first, and reach a byte of
the device region directly. -/
def loadByteOf (ext : BitVec 8 → U32) (value : U32 → U32 → U32) (m : Machine) (cont : Control) :
    Machine :=
  let ea := calcEa m.cpu cont
  let phyAddr := virtualToPhysicalD m ea
  if phyAddr = 1 then
    m.setCpu (dataTLBMiss m.cpu ea)
  else if phyAddr >>> 27 ≠ 0 then
    loadByte ext m phyAddr cont.rD
  else
    loadWord m (ea &&& ~~~0x3) cont.rD (value ea)

def lbz (m : Machine) (cont : Control) : Machine :=
  loadByteOf (fun b => b.zeroExtend 32) lbzValue m cont

def lbs (m : Machine) (cont : Control) : Machine :=
  loadByteOf (fun b => b.signExtend 32) lbsValue m cont

/-- The body of `lhz` and `lhs`. -/
def loadHalfOf (value : U32 → U32 → U32) (m : Machine) (cont : Control) : Machine :=
  let ea := calcEa m.cpu cont
  if ea &&& 0x1 ≠ 0 then
    m.setCpu (alignmentException m.cpu ea)
  else
    loadWord m (ea &&& ~~~0x3) cont.rD (value ea)

def lhz (m : Machine) (cont : Control) : Machine :=
  loadHalfOf lhzValue m cont

def lhs (m : Machine) (cont : Control) : Machine :=
  loadHalfOf lhsValue m cont

/-! ### Stores -/

def sw (m : Machine) (cont : Control) : Machine :=
  let ea := calcEa m.cpu cont
  if ea &&& 0x3 ≠ 0 then
    m.setCpu (alignmentException m.cpu ea)
  else
    (simStoreData m ea (m.cpu.gpr cont.rB)).1

/-- A direct byte store, `l.sb` of the processor. -/
def storeByte (m : Machine) (phyAddr value : U32) : Machine :=
  { m with
    mem := ByteMemory.write 1 m.mem phyAddr value
    log := ⟨.store, .byte, phyAddr, value &&& 0xff⟩ :: m.log }

/-- The end of `sb` and `sh`: the word is read, changed, and stored again. -/
def updateWord (m : Machine) (address : U32) (rB : Reg) (insert : U32 → U32 → U32) : Machine :=
  let out := simLoadData m address
  if out.ret = 0 then
    (simStoreData out.machine address (insert out.var (out.machine.cpu.gpr rB))).1
  else
    out.machine

/-- A word with the byte at `ea` replaced by the low byte of a register. -/
def insertByte (ea value reg : U32) : U32 :=
  value &&& ~~~((0xff : U32) <<< ((0x3 - (ea &&& 0x3)) * 8)) |||
    (reg &&& 0xff) <<< ((0x3 - (ea &&& 0x3)) * 8)

def sb (m : Machine) (cont : Control) : Machine :=
  let ea := calcEa m.cpu cont
  let phyAddr := virtualToPhysicalD m ea
  if phyAddr = 1 then
    m.setCpu (dataTLBMiss m.cpu ea)
  else if phyAddr >>> 27 ≠ 0 then
    storeByte m phyAddr (m.cpu.gpr cont.rB)
  else
    updateWord m (ea &&& ~~~0x3) cont.rB (insertByte ea)

/-- A word with the half-word at `ea` replaced by the low half of a register. -/
def insertHalf (ea value reg : U32) : U32 :=
  let value := if ea &&& 0x2 = 0 then value &&& 0xffff else value &&& ~~~0xffff
  value ||| (if ea &&& 0x2 = 0 then reg <<< 16 else reg &&& 0xffff)

def sh (m : Machine) (cont : Control) : Machine :=
  let ea := calcEa m.cpu cont
  if ea &&& 0x1 ≠ 0 then
    m.setCpu (alignmentException m.cpu ea)
  else
    updateWord m (ea &&& ~~~0x3) cont.rB (insertHalf ea)

end Insn

end WirePatch
