import WirePatch.Fabric.Loader
import WirePatch.Fabric.Settling
import WirePatch.Fabric.UserAccess
import WirePatch.Foundations.Strobe

/-!
# Configuring the fabric from software

Programs configure the fabric with `l.mtspr`: `enableFabric` and `disableFabric` of
`commonFuncs.h` (lines 68–72) write an address, a data word and a strobe, and `configureFabric` of
`privEscTest.c` (lines 201–209) does so for every word of an array. The instructions go through
the special-purpose registers of the fabric, whose strobe the driver samples one cycle late.

## Main definitions

* `Fabric.configureFabric`, `Fabric.installProgram`: the instructions of a configuring program.
* `Fabric.CorePorts.mtspr`, `Fabric.CorePorts.fabricWrite`: the instructions a run of the processor
  executes.
* `Fabric.Core.wired`: the registers of the fabric and the driver as a strobed link.

## Main results

* `Fabric.Core.wired_step`: every cycle out of reset is a step of that link.
* `Fabric.Core.store_of_writes`: the configuration after a sequence of instructions, whatever
  cycles they take.
* `Fabric.Core.installed_of_program`: a program installs any configuration, and the fabric then
  reports what the configuration means.
-/

namespace WirePatch.Fabric

open Clocked Or1200 Strobed

/-! ### The programs -/

/-- `l.mtspr r0, data, spr`, as `setSPR` writes it. -/
structure Mtspr where
  spr : BitVec 16
  data : BitVec 32
  deriving DecidableEq, Repr

/-- `SPR_PCCR(N)` of `spr_defs.h`. -/
def sprPccr (k : BitVec 5) : BitVec 16 := 7#5 ++ k.setWidth 11

def setFabricConfigAddress (val : BitVec 32) : Mtspr := ⟨sprPccr 1, val⟩

def setFabricConfigData (val : BitVec 32) : Mtspr := ⟨sprPccr 2, val⟩

def strobeFabricConfig : List Mtspr := [⟨sprPccr 3, 1⟩, ⟨sprPccr 3, 0⟩]

def enableFabric : List Mtspr :=
  setFabricConfigAddress 0 :: setFabricConfigData 1 :: strobeFabricConfig

def disableFabric : List Mtspr :=
  setFabricConfigAddress 0 :: setFabricConfigData 0 :: strobeFabricConfig

/-- The loop of `configureFabric` from a value of its counter on. -/
def configureFrom (counter : ℕ) : List (BitVec 32) → List Mtspr
  | [] => []
  | item :: items =>
    (setFabricConfigAddress (BitVec.ofNat 32 counter) :: setFabricConfigData item ::
      strobeFabricConfig) ++ configureFrom (counter + 1) items

def configureFabric (items : List (BitVec 32)) : List Mtspr := configureFrom 0 items

/-- What `main` executes before it drops its privilege. -/
def installProgram (items : List (BitVec 32)) : List Mtspr :=
  disableFabric ++ configureFabric items ++ enableFabric

/-- The array for a configuration: a blank item, and the words of the registers in the order of
their addresses. -/
def itemsOf (n : ℕ) (config : Config) : List (BitVec 32) :=
  0 :: (stitch n).inputWires.map fun p => (config p).setWidth 32

/-! ### What the instructions do to the registers of the fabric -/

/-- The register of the fabric an instruction writes. -/
def Mtspr.toWrite (w : Mtspr) : Option (Write (BitVec 32) (BitVec 32)) :=
  if w.spr = sprPccr 1 then some (.address w.data)
  else if w.spr = sprPccr 2 then some (.data w.data)
  else if w.spr = sprPccr 3 then some (.strobe (w.data.getLsbD 0))
  else none

/-- The enable and the configuration. -/
abbrev Loaded := Bool × Config

/-- What the driver does with an address and a data word. -/
def load (n : ℕ) (store : Loaded) (address data : BitVec 32) : Loaded where
  fst := if address = 0 then data.getLsbD 0 else store.1
  snd := match Driver.configPort n address with
    | some port => Driver.write store.2 port data
    | none => store.2

/-- The words a program loads. -/
def installed (items : List (BitVec 32)) : List (BitVec 32 × BitVec 32) :=
  (0, 0) :: (items.zipIdx.map fun item => (BitVec.ofNat 32 item.2, item.1)) ++ [(0, 1)]

section Programs

/-- Four instructions load a word. -/
theorem filterMap_put (address data : BitVec 32) :
    (setFabricConfigAddress address :: setFabricConfigData data :: strobeFabricConfig).filterMap
      Mtspr.toWrite = put address data := rfl

theorem filterMap_configureFrom (counter : ℕ) (items : List (BitVec 32)) :
    (configureFrom counter items).filterMap Mtspr.toWrite =
      ((items.zipIdx counter).map fun item => (BitVec.ofNat 32 item.2, item.1)).flatMap
        fun w => put w.1 w.2 := by
  induction items generalizing counter with
  | nil => rfl
  | cons item items ih =>
    rw [configureFrom, List.filterMap_append, filterMap_put, ih]
    rfl

/-- A program loads the blank enable, its items and the enable. -/
theorem filterMap_installProgram (items : List (BitVec 32)) :
    (installProgram items).filterMap Mtspr.toWrite =
      (installed items).flatMap fun w => put w.1 w.2 := by
  rw [installProgram, List.filterMap_append, List.filterMap_append, configureFabric,
    filterMap_configureFrom, installed, List.flatMap_append, List.flatMap_cons]
  rfl

end Programs

/-! ### What a program loads -/

section Loads

variable {n : ℕ}

theorem Port.width_le (p : Port) : p.width ≤ 32 := by cases p <;> simp [Port.width]

theorem load_zero (store : Loaded) (data : BitVec 32) :
    load n store 0 data = (data.getLsbD 0, store.2) := rfl

/-- A word at an address other than 0 goes to one register and leaves the enable alone. -/
theorem load_succ (store : Loaded) {i : ℕ} (hi : i + 1 < 2 ^ 32)
    (data : BitVec 32) {j : ℕ} (hj : j < (stitch n).inputWires.length) :
    (load n store (BitVec.ofNat 32 (i + 1)) data).1 = store.1 ∧
      (load n store (BitVec.ofNat 32 (i + 1)) data).2 (stitch n).inputWires[j] =
        if i = j then data.setWidth _ else store.2 (stitch n).inputWires[j] := by
  have hvalue : (BitVec.ofNat 32 (i + 1)).toNat = i + 1 := by
    rw [BitVec.toNat_ofNat, Nat.mod_eq_of_lt hi]
  have hne : BitVec.ofNat 32 (i + 1) ≠ 0 := by
    intro h
    rw [h] at hvalue
    exact absurd hvalue.symm (Nat.succ_ne_zero i)
  have hport : Driver.configPort n (BitVec.ofNat 32 (i + 1)) = (stitch n).inputWires[i]? := by
    rw [Driver.configPort, if_neg hne, hvalue, Nat.add_sub_cancel]
  refine ⟨if_neg hne, ?_⟩
  rw [load, hport]
  by_cases hij : i = j
  · subst hij
    rw [List.getElem?_eq_getElem hj, if_pos rfl]
    exact Function.update_self ..
  · rw [if_neg hij]
    cases hport' : (stitch n).inputWires[i]? with
    | none => rfl
    | some port =>
      obtain ⟨hlt, rfl⟩ := List.getElem?_eq_some_iff.mp hport'
      refine Function.update_of_ne (fun heq => hij ?_) ..
      exact ((nodup_inputWires n).getElem_inj_iff.mp heq).symm

/-- The loop, from a value of its counter on, writes the items from there to the registers and
leaves the registers before and behind them alone. -/
theorem snd_loads (items : List (BitVec 32)) (store : Loaded) {i : ℕ}
    (hi : i + items.length ≤ 2 ^ 32) {j : ℕ} (hj : j < (stitch n).inputWires.length) :
    (((items.zipIdx i).map fun item => (BitVec.ofNat 32 item.2, item.1)).foldl
        (fun s w => load n s w.1 w.2) store).2 (stitch n).inputWires[j] =
      if i ≤ j + 1 then
        (items[j + 1 - i]?).elim (store.2 (stitch n).inputWires[j]) fun item => item.setWidth _
      else store.2 (stitch n).inputWires[j] := by
  induction items generalizing i store with
  | nil => simp
  | cons item items ih =>
    rw [List.length_cons] at hi
    rw [List.zipIdx_cons, List.map_cons, List.foldl_cons, ih _ (by omega)]
    cases i with
    | zero =>
      have hzero : load n store (BitVec.ofNat 32 0) item = (item.getLsbD 0, store.2) :=
        load_zero store item
      rw [hzero, if_pos (by omega), if_pos (by omega), Nat.sub_zero, List.getElem?_cons_succ,
        Nat.zero_add, Nat.add_sub_cancel]
    | succ i =>
      rw [(load_succ store (by omega) item hj).2]
      rcases Nat.lt_trichotomy i j with hlt | rfl | hlt
      · rw [if_pos (by omega), if_neg hlt.ne, if_pos (by omega),
          show j + 1 - (i + 1) = j + 1 - (i + 1 + 1) + 1 by omega, List.getElem?_cons_succ]
      · rw [if_neg (by omega), if_pos rfl, if_pos le_rfl, Nat.sub_self]
        rfl
      · rw [if_neg (by omega), if_neg hlt.ne', if_neg (by omega)]

/-- The program installs the items of a configuration, and enables the fabric. -/
theorem foldl_installed (hn : 17 * n < 2 ^ 31) (config : Config) (store : Loaded) :
    ((installed (itemsOf n config)).foldl (fun s w => load n s w.1 w.2) store).1 = true ∧
      ∀ p ∈ (stitch n).inputWires,
        ((installed (itemsOf n config)).foldl (fun s w => load n s w.1 w.2) store).2 p =
          config p := by
  have hlength : (itemsOf n config).length = 17 * n + 1 := by
    rw [itemsOf, List.length_cons, List.length_map, length_inputWires]
  rw [installed, List.foldl_append]
  refine ⟨rfl, fun p hp => ?_⟩
  obtain ⟨j, hj, rfl⟩ := List.getElem_of_mem hp
  rw [List.foldl_cons, List.foldl_cons, List.foldl_nil, load_zero,
    snd_loads _ _ (by omega) hj, if_pos (Nat.zero_le _), Nat.sub_zero, itemsOf,
    List.getElem?_cons_succ, List.getElem?_map, List.getElem?_eq_getElem hj]
  exact (BitVec.setWidth_setWidth_of_le _ (Port.width_le _)).trans (BitVec.setWidth_eq _)

end Loads

/-! ### The processor executes the instructions -/

namespace CorePorts

variable (x : CorePorts)

/-- The `l.mtspr` in the execute stage. It stays there for several cycles when the stage is
frozen. -/
def mtspr : Option Mtspr :=
  if x.exSprWrite then some ⟨x.sprAddress.setWidth 16, x.isa.operandB⟩ else none

/-- What it writes to the registers of the fabric. -/
def fabricWrite : Option (Write (BitVec 32) (BitVec 32)) := x.mtspr.bind Mtspr.toWrite

/-- A cycle out of reset with an idle debug unit. -/
structure Unaided (x : CorePorts) : Prop where
  rst : x.rst = false
  duRead : x.duRead = false
  duWrite : x.duWrite = false

variable {x}

/-- The halves of an address select the group and the register. -/
theorem setWidth_eq_sprPccr_iff (address : BitVec 32) (k : BitVec 5) :
    address.setWidth 16 = sprPccr k ↔
      address.extractLsb' 11 5 = 7#5 ∧ address.extractLsb' 0 11 = k.setWidth 11 := by
  have hhalves : address.setWidth 16 =
      address.extractLsb' 11 5 ++ address.extractLsb' 0 11 := by
    refine BitVec.eq_of_getLsbD_eq fun i hi => ?_
    rw [BitVec.getLsbD_setWidth, BitVec.getLsbD_append, BitVec.getLsbD_extractLsb',
      BitVec.getLsbD_extractLsb', decide_eq_true hi, Bool.true_and]
    split_ifs with h
    · rw [decide_eq_true h, Nat.zero_add, Bool.true_and]
    · rw [decide_eq_true (by omega), Nat.add_sub_cancel' (Nat.le_of_not_lt h), Bool.true_and]
  rw [hhalves, sprPccr]
  constructor
  · intro h
    have hgroup := congrArg (BitVec.extractLsb' 11 5) h
    have hoffset := congrArg (BitVec.extractLsb' 0 11) h
    rw [BitVec.extractLsb'_append_eq_left, BitVec.extractLsb'_append_eq_left] at hgroup
    rw [BitVec.extractLsb'_append_eq_right, BitVec.extractLsb'_append_eq_right] at hoffset
    exact ⟨hgroup, hoffset⟩
  · rintro ⟨hgroup, hoffset⟩
    rw [hgroup, hoffset]

/-- A register of the fabric is written by the instruction that names it, in either mode. -/
theorem spRegWe_of_unaided (h : x.Unaided) (k : BitVec 5) :
    x.sprPorts.spRegWe k = (x.exSprWrite && decide (x.sprAddress.setWidth 16 = sprPccr k)) := by
  have haddr : x.sprPorts.sprAddr = x.sprAddress := by
    simp [SprPorts.sprAddr, SprPorts.duAccess, sprPorts, h.duRead, h.duWrite, sprAddress]
  rw [SprPorts.spRegWe_of_idle h.duRead h.duWrite, SprPorts.group, SprPorts.offset, haddr,
    decide_eq_decide.mpr (setWidth_eq_sprPccr_iff x.sprAddress k), Bool.decide_and,
    ← Bool.and_assoc]
  rfl

end CorePorts

namespace Core

variable {n : ℕ} {merge : (Fin 6 → Bool) → Bool}

/-- The registers of the fabric feed the driver, which keeps the strobe it saw last. -/
def wired (s : Core) : Wired (BitVec 32) (BitVec 32) Loaded where
  regs := ⟨s.sp.spReg1, s.sp.spReg2, s.sp.spReg3.getLsbD 0⟩
  strobePrev := s.monitor.driver.strobePrev
  store := (s.monitor.driver.fabricEnable, s.monitor.driver.config)

section Step

variable {s : Core} {x : CorePorts}

/-- A register of the fabric takes the operand of the instruction that names it. -/
theorem latch_spReg (h : x.Unaided) (k : BitVec 5) (z q : BitVec 32) :
    (Control.mk x.sprPorts.rst (x.sprPorts.spRegWe k)).latch z x.sprPorts.sprDatO q =
      if x.exSprWrite = true ∧ x.sprAddress.setWidth 16 = sprPccr k then x.isa.operandB else q := by
  have hrst : x.sprPorts.rst = false := h.rst
  have hdata : x.sprPorts.sprDatO = x.isa.operandB := by
    simp [SprPorts.sprDatO, CorePorts.sprPorts, h.duWrite]
  simp only [Control.latch, hrst, hdata, CorePorts.spRegWe_of_unaided h, Bool.and_eq_true,
    decide_eq_true_eq, Bool.false_eq_true, if_false]

theorem regs_step (h : x.Unaided) : (s.step n merge x).wired.regs =
    x.fabricWrite.elim s.wired.regs s.wired.regs.write := by
  have hsp : (s.step n merge x).sp = s.sp.step x.sprPorts := rfl
  rw [CorePorts.fabricWrite, CorePorts.mtspr, wired, hsp, SpRegs.step, latch_spReg h,
    latch_spReg h, latch_spReg h]
  cases hwrite : x.exSprWrite with
  | false => simp [wired]
  | true =>
    rw [if_pos rfl, Option.bind_some, Mtspr.toWrite]
    generalize x.sprAddress.setWidth 16 = spr
    by_cases h1 : spr = sprPccr 1
    · subst h1
      rfl
    · by_cases h2 : spr = sprPccr 2
      · subst h2
        rfl
      · by_cases h3 : spr = sprPccr 3
        · subst h3
          rfl
        · simp only [if_neg h1, if_neg h2, if_neg h3, true_and]
          rfl

/-- Out of reset the driver loads what its registers of the fabric ask for. -/
theorem store_step (h : (s.monitor.control (s.monitorPorts x)).rst = false) :
    (s.step n merge x).wired.store = s.wired.next (load n) := by
  have hstep : (s.step n merge x).wired.store =
      ((s.monitor.driver.step n merge (s.monitor.driverPorts (s.monitorPorts x))).fabricEnable,
        (s.monitor.driver.step n merge (s.monitor.driverPorts (s.monitorPorts x))).config) := rfl
  have hrst : (s.monitor.driverPorts (s.monitorPorts x)).control.rst = false := h
  have hrises : s.monitor.driver.strobed (s.monitor.driverPorts (s.monitorPorts x)) =
      (!s.wired.strobePrev && s.wired.regs.strobe) := rfl
  rw [hstep, Wired.next, Driver.step, hrst, hrises]
  cases !s.wired.strobePrev && s.wired.regs.strobe with
  | false => rfl
  | true =>
    rw [if_pos rfl]
    refine Prod.ext ?_ rfl
    simp [load, wired, monitorPorts, Monitor.driverPorts]

/-- A cycle in which no exception is requested for a violation is a step of the link. -/
theorem wired_step (h : x.Unaided) (hgated : s.gated x = false) :
    (s.step n merge x).wired = s.wired.step (load n) x.fabricWrite := by
  have hrst : (s.monitor.control (s.monitorPorts x)).rst = false := by
    rw [Monitor.control, show s.monitor.gated (s.monitorPorts x) = false from hgated]
    exact h.rst
  have hprev : (s.step n merge x).monitor.driver.strobePrev = s.sp.spReg3.getLsbD 0 :=
    if_neg (by simp [Monitor.driverPorts, hrst])
  have hregs : (s.step n merge x).wired.regs = x.fabricWrite.elim s.wired.regs s.wired.regs.write :=
    regs_step h
  have hstore : (s.step n merge x).wired.store = s.wired.next (load n) := store_step hrst
  rw [Wired.step, ← hregs, ← hstore]
  change Wired.mk _ (s.step n merge x).monitor.driver.strobePrev _ = _
  rw [hprev]
  rfl

end Step

section Run

variable {x : ℕ → CorePorts} {s₀ : Core} {t u : ℕ}

/-- Up to cycle `t` the processor is not reset, its debug unit is idle, and no exception is
requested for a violation. -/
def Undisturbed (n : ℕ) (merge : (Fin 6 → Bool) → Bool) (s₀ : Core) (x : ℕ → CorePorts) (t : ℕ) :
    Prop :=
  ∀ r < t, (x r).Unaided ∧ (run (step n merge) s₀ x r).gated (x r) = false

/-- The instructions that write a register of the fabric before a cycle, each as often as it was
in the execute stage. -/
def writesBefore (x : ℕ → CorePorts) (t : ℕ) : List (Write (BitVec 32) (BitVec 32)) :=
  Wired.writesBefore (fun r => (x r).fabricWrite) t

theorem wired_run (h : Undisturbed n merge s₀ x t) :
    (run (step n merge) s₀ x t).wired =
      run (Wired.step (load n)) s₀.wired (fun r => (x r).fabricWrite) t := by
  induction t with
  | zero => rfl
  | succ t ih =>
    rw [run_succ, run_succ, wired_step (h t t.lt_succ_self).1 (h t t.lt_succ_self).2,
      ih fun r hr => h r (Nat.lt_succ_of_lt hr)]

/-- The enable and the configuration are those of the words the instructions load, in whatever
cycles they were executed and however long each stayed in the execute stage. -/
theorem store_of_writes (h : Undisturbed n merge s₀ x t) (hstrobe : s₀.wired.regs.strobe = false)
    {words : List (BitVec 32 × BitVec 32)}
    (hwrites : (writesBefore x t).destutter (· ≠ ·) = words.flatMap fun w => put w.1 w.2) :
    (run (step n merge) s₀ x t).wired.store =
        words.foldl (fun s w => load n s w.1 w.2) s₀.wired.store ∧
      (run (step n merge) s₀ x t).wired.regs.strobe = false := by
  have hidle : s₀.wired.link (load n) = ⟨s₀.wired.regs, s₀.wired.store⟩ :=
    Link.ext rfl (Wired.next_of_strobe (load n) hstrobe)
  have hlink : (run (step n merge) s₀ x t).wired.link (load n) =
      (words.flatMap fun w => put w.1 w.2).foldl (Link.write (load n))
        ⟨s₀.wired.regs, s₀.wired.store⟩ := by
    rw [wired_run h, Wired.link_run, ← hwrites, hidle]
    exact (foldl_destutter (Link.write_write (load n)) _ _).symm
  have hloaded := foldl_puts (load n) (l := ⟨s₀.wired.regs, s₀.wired.store⟩) hstrobe words
  rw [← hlink] at hloaded
  have hlow : (run (step n merge) s₀ x t).wired.regs.strobe = false := hloaded.2
  refine ⟨?_, hlow⟩
  rw [← hloaded.1]
  exact (Wired.next_of_strobe (load n) hlow).symm

/-- Without a write that raises the strobe they stay. -/
theorem store_stands (h : Undisturbed n merge s₀ x u)
    (hlow : (run (step n merge) s₀ x t).wired.regs.strobe = false)
    (hquiet : ∀ r, t ≤ r → r < u → (x r).fabricWrite ≠ some (.strobe true)) {r : ℕ} (htr : t ≤ r)
    (hru : r ≤ u) :
    (run (step n merge) s₀ x r).wired.store = (run (step n merge) s₀ x t).wired.store ∧
      (run (step n merge) s₀ x r).wired.regs.strobe = false := by
  induction r, htr using Nat.le_induction with
  | base => exact ⟨rfl, hlow⟩
  | succ r htr ih =>
    obtain ⟨hstore, hstrobe⟩ := ih (Nat.le_of_succ_le hru)
    rw [run_succ, wired_step (h r hru).1 (h r hru).2]
    refine ⟨(Wired.next_of_strobe (load n) hstrobe).trans hstore, ?_⟩
    rw [Wired.step]
    rcases hw : (x r).fabricWrite with - | ⟨a | d | b⟩
    · exact hstrobe
    · exact hstrobe
    · exact hstrobe
    · cases b with
      | false => rfl
      | true => exact absurd hw (hquiet r htr hru)

end Run

/-! ### The installed configuration -/

section Installed

variable (n merge) (x : ℕ → CorePorts)

/-- The inputs of the driver in a run that starts after a reset. -/
def ports (t : ℕ) : DriverPorts :=
  (run (step n merge) reset x t).monitor.driverPorts
    ((run (step n merge) reset x t).monitorPorts (x t))

/-- The driver runs on these. -/
theorem driver_run (t : ℕ) :
    (run (step n merge) reset x t).monitor.driver = Driver.regs n merge (ports n merge x) t :=
  run_component (fun s : Core => s.monitor.driver)
    (fun s y => s.monitor.driverPorts (s.monitorPorts y)) (fun _ _ => rfl) t

variable {n merge x} {t u : ℕ}

/-- Software installs a configuration: from 8 enabled cycles after the last instruction of the
program on, the fabric is enabled and reports exactly if the configuration is valid and one of its
assertions fires. -/
theorem installed_of_program (hn : 1 ≤ n) (hn' : 17 * n < 2 ^ 31)
    (hmerge : ∀ inputs, merge inputs = true ↔ ∃ j, inputs j = true) (config : Config)
    (h : Undisturbed n merge reset x u) (htu : t ≤ u)
    (hwrites : (writesBefore x t).destutter (· ≠ ·) =
      (installProgram (itemsOf n config)).filterMap Mtspr.toWrite)
    (hquiet : ∀ r, t ≤ r → r < u → (x r).fabricWrite ≠ some (.strobe true))
    (hcount : 8 ≤ enabledFrom (fun r => (ports n merge x r).control) t u) :
    (run (step n merge) reset x u).monitor.driver.fabricEnable = true ∧
      (Driver.violated n merge (ports n merge x) u = true ↔ ConfigValid n config ∧
        ∃ i < n, Fires config (fun r => (ports n merge x r).control)
          (fun r => (ports n merge x r).routingInput) i u) := by
  rw [filterMap_installProgram] at hwrites
  have hloaded := store_of_writes (fun r hr => h r (hr.trans_le htu)) rfl hwrites
  have hinstalled := foldl_installed hn' config (reset : Core).wired.store
  rw [← hloaded.1] at hinstalled
  have hstands (r : ℕ) (htr : t ≤ r) (hru : r ≤ u) :=
    (store_stands h hloaded.2 hquiet htr hru).1
  refine ⟨(congrArg Prod.fst (hstands u htu le_rfl)).trans hinstalled.1, ?_⟩
  rw [Driver.violated, Driver.assertionViolatedIn, Driver.blocks_regs]
  refine assertionViolated_iff_of_stands (x := Driver.fabricInputs n merge (ports n merge x)) hn
    hmerge (fun r htr hru p hp => ?_) htu hcount
  have hconfig : (Driver.regs n merge (ports n merge x) r).config =
      (run (step n merge) reset x t).wired.store.2 := by
    rw [← driver_run]
    exact congrArg Prod.snd (hstands r htr hru)
  exact (congrFun hconfig p).trans (hinstalled.2 p hp)

end Installed

/-- User code that installs a configuration of one assertion, an instruction in every cycle, and
idles. The word the assertion watches is the operand register. -/
def installing (t : ℕ) : CorePorts :=
  let w := (installProgram (itemsOf 1 testWordZero))[t]?
  { mtspr 0 ((w.elim 0 Mtspr.spr).setWidth 32) 0 with
    exSprWrite := w.isSome
    isa := { (default : IsaState) with
      exPc := 4
      operandB := w.elim (if t < 88 then 1 else 0) Mtspr.data } }

theorem undisturbed_installing : Undisturbed 1 orMerge reset installing 88 := by
  have hgated : ∀ r < 88,
      (run (step 1 orMerge) reset installing r).gated (installing r) = false := by
    decide +kernel
  exact fun r hr => ⟨⟨rfl, rfl, rfl⟩, hgated r hr⟩

/-- The assertion fires in the first cycle in which the operand is 0. -/
theorem installed_of_program_installing :
    (run (step 1 orMerge) reset installing 88).monitor.driver.fabricEnable = true ∧
      (Driver.violated 1 orMerge (ports 1 orMerge installing) 88 = true ↔
        ConfigValid 1 testWordZero ∧
        ∃ i < 1, Fires testWordZero (fun r => (ports 1 orMerge installing r).control)
          (fun r => (ports 1 orMerge installing r).routingInput) i 88) :=
  installed_of_program (t := 80) (by decide) (by decide) orMerge_eq_true_iff testWordZero
    undisturbed_installing (by decide) (by decide +kernel) (by decide +kernel) (by decide +kernel)

end Core

end WirePatch.Fabric
