import WirePatch.Fabric.Driver
import WirePatch.Fabric.Names

/-!
# The loader of the configuration

`printTestRig` of `StitchFabric.java` writes the declarations of the configuration registers,
their reset and the case statement that loads them in three loops over the names of the ports
(lines 394–448). The model keeps what these loops write, so that the registers of the driver have
names, declared sizes and labels.

## Main definitions

* `Fabric.caseItem`: the register the case statement selects.
* `Fabric.LoadRegs`, `Fabric.LoadRegs.step`: the registers by name, and their next values.
* `Fabric.IsRegisterFile`: every register holds what was last written to its address.

## Main results

* `Fabric.LoadRegs.Shows.step`: the driver has the same registers by port.
* `Fabric.isRegisterFile_iff`: the loader is a register file unless a strobe outlasts a reset.
-/

namespace WirePatch.Fabric

open Clocked

/-! ### What the loops write -/

section Loops

variable (n : ℕ)

/-- The list `inputWires` of the generator. -/
def inputWires : List (List Char) :=
  routingInputName :: (stitch n).inputWires.map Port.name

/-- The entries the loops of `printTestRig` do not skip. -/
def configWires : List (List Char) :=
  (inputWires n).filter fun entry => entry ≠ routingInputName

/-- The items of the case statement between `32'd0` and the default: an entry and its `caseNum`. -/
def caseItems : List (List Char × ℕ) := (configWires n).zipIdx 1

/-- The configuration register whose item has the label `address`. -/
def caseItem (address : BitVec 32) : Option (List Char) :=
  if address = 0 then none
  else ((caseItems n).find? fun item => BitVec.ofNat 32 item.2 == address).map Prod.fst

end Loops

/-- What `entry <= data` leaves in a register: the bits its declaration has. -/
def assigned (entry : List Char) (data : BitVec 32) : BitVec 32 :=
  (data.setWidth (upperLim entry + 1)).setWidth 32

/-- The registers the loader writes, the configuration registers by their names. -/
structure LoadRegs where
  fabricEnable : Bool
  strobePrev : Bool
  reg : List Char → BitVec 32

namespace LoadRegs

variable (n : ℕ) (s : LoadRegs) (x : DriverPorts)

/-- The guard `~strobe_prev & strobe`. -/
def strobed : Bool := !s.strobePrev && x.strobe

/-- The registers at the next clock edge. -/
def step : LoadRegs where
  fabricEnable :=
    if x.control.rst then false
    else if s.strobed x && x.address == 0 then x.data.getLsbD 0 else s.fabricEnable
  strobePrev := if x.control.rst then false else x.strobe
  reg := fun entry =>
    if x.control.rst then if entry ∈ configWires n then 0 else s.reg entry
    else if s.strobed x && caseItem n x.address == some entry then assigned entry x.data
    else s.reg entry

end LoadRegs

/-! ### Names and addresses -/

section Names

variable (n : ℕ)

/-- The loops run over the names of the configuration ports. -/
theorem configWires_eq : configWires n = (stitch n).inputWires.map Port.name := by
  rw [configWires, inputWires, List.filter_cons_of_neg (by simp), List.filter_eq_self]
  intro entry hentry
  obtain ⟨p, -, rfl⟩ := List.mem_map.mp hentry
  exact decide_eq_true p.name_ne_routingInput

theorem nodup_flatMap_range {α : Type*} (m : ℕ) {f : ℕ → List α} (hf : ∀ k, (f k).Nodup)
    (h : ∀ j k, j ≠ k → (f j).Disjoint (f k)) : ((List.range m).flatMap f).Nodup := by
  rw [List.nodup_flatMap]
  exact ⟨fun k _ => hf k, List.nodup_range.imp fun {j k} hjk => h j k hjk⟩

/-- No port is listed twice. -/
theorem nodup_inputWires : (stitch n).inputWires.Nodup := by
  have hrouting : (printRoutingBlocks (n * 2 * 2)).inputWires.Nodup :=
    List.nodup_range.map fun j k h => Port.inputSelect.inj h
  have hlogic : (printLogicBlocks (n * 2)).inputWires.Nodup :=
    nodup_flatMap_range _ (fun k => by simp) fun j k hjk => by simp [List.Disjoint, hjk]
  have hassertion : (printAssertionBlocks n).inputWires.Nodup :=
    nodup_flatMap_range _ (fun k => by simp) fun j k hjk => by simp [List.Disjoint, hjk]
  refine List.Nodup.append (List.Nodup.append hrouting hlogic ?_) hassertion ?_
  · simp [List.Disjoint, printRoutingBlocks, printLogicBlocks]
  · simp only [List.Disjoint, printRoutingBlocks, printLogicBlocks, printAssertionBlocks,
      List.mem_append, List.mem_map, List.mem_flatMap, List.mem_cons, List.not_mem_nil, or_false]
    rintro p (⟨_, -, rfl⟩ | ⟨_, -, rfl | rfl | rfl | rfl | rfl⟩) ⟨i, -, hi⟩ <;> simp at hi

theorem length_inputWires : (stitch n).inputWires.length = 17 * n := by
  simp only [stitch, printRoutingBlocks, printLogicBlocks, printAssertionBlocks,
    List.length_append, List.length_map, List.length_range, List.length_flatMap]
  simp
  omega

theorem length_configWires : (configWires n).length = 17 * n := by
  rw [configWires_eq, List.length_map, length_inputWires]

theorem nodup_configWires : (configWires n).Nodup := by
  rw [configWires_eq]
  exact (nodup_inputWires n).map Port.name_injective

variable {n}

/-- The first item with a label, in a list of items labelled from `i` on. -/
theorem find?_zipIdx {α : Type*} (l : List α) {i : ℕ} (address : BitVec 32)
    (hi : i + l.length ≤ 2 ^ 32) (hlabel : i ≤ address.toNat) :
    (((l.zipIdx i).find? fun item => BitVec.ofNat 32 item.2 == address).map Prod.fst) =
      l[address.toNat - i]? := by
  induction l generalizing i with
  | nil => rfl
  | cons entry l ih =>
    rw [List.length_cons] at hi
    have hvalue : BitVec.ofNat 32 i = address ↔ i = address.toNat := by
      rw [BitVec.toNat_eq, BitVec.toNat_ofNat, Nat.mod_eq_of_lt (by omega)]
    rw [List.zipIdx_cons, List.find?_cons]
    by_cases hfirst : i = address.toNat
    · rw [beq_iff_eq.mpr (hvalue.mpr hfirst), hfirst, Nat.sub_self]
      rfl
    · rw [beq_eq_false_iff_ne.mpr (mt hvalue.mp hfirst), ih (by omega) (by omega),
        show address.toNat - i = address.toNat - (i + 1) + 1 by omega, List.getElem?_cons_succ]

/-- Address `j + 1` selects the register of entry `j`. -/
theorem caseItem_eq (hn : 17 * n < 2 ^ 31) {address : BitVec 32} (h : address ≠ 0) :
    caseItem n address = (configWires n)[address.toNat - 1]? := by
  have hlength := length_configWires n
  have hpos : address.toNat ≠ 0 := fun hzero => h (BitVec.eq_of_toNat_eq hzero)
  rw [caseItem, if_neg h, caseItems]
  exact find?_zipIdx _ address (by omega) (by omega)

theorem caseItem_eq_some_iff (hn : 17 * n < 2 ^ 31) (address : BitVec 32) {j : ℕ}
    (hj : j < (configWires n).length) :
    caseItem n address = some (configWires n)[j] ↔ address.toNat = j + 1 := by
  by_cases h : address = 0
  · simp [caseItem, h]
  · have hpos : address.toNat ≠ 0 := fun hzero => h (BitVec.eq_of_toNat_eq hzero)
    rw [caseItem_eq hn h, List.getElem?_eq_some_iff]
    constructor
    · rintro ⟨hlt, hentry⟩
      have hindex := (nodup_configWires n).getElem_inj_iff.mp hentry
      omega
    · intro hj'
      have hindex : address.toNat - 1 = j := by omega
      exact ⟨hindex ▸ hj, by simp only [hindex]⟩

/-- The addresses beyond those of the registers select none. -/
theorem caseItem_eq_none (hn : 17 * n < 2 ^ 31) {address : BitVec 32}
    (h : 17 * n < address.toNat) : caseItem n address = none := by
  have hne : address ≠ 0 := by
    rintro rfl
    exact Nat.not_lt_zero _ h
  rw [caseItem_eq hn hne, List.getElem?_eq_none_iff, length_configWires]
  omega

theorem caseItem_eq_map (hn : 17 * n < 2 ^ 31) (address : BitVec 32) :
    caseItem n address = (Driver.configPort n address).map Port.name := by
  rw [Driver.configPort]
  split_ifs with h
  · rw [caseItem, if_pos h]
    rfl
  · rw [caseItem_eq hn h, configWires_eq, List.getElem?_map]

/-- A register keeps as many bits as its port has. -/
theorem assigned_name (p : Port) (data : BitVec 32) :
    assigned p.name data = (data.setWidth p.width).setWidth 32 := by
  rw [assigned, upperLim_name]

end Names

/-! ### The registers of the driver -/

namespace LoadRegs

variable {n : ℕ} {merge : (Fin 6 → Bool) → Bool} {s : LoadRegs} {d : Driver} {x : DriverPorts}

/-- The registers by name are those of the driver by port. -/
structure Shows (n : ℕ) (s : LoadRegs) (d : Driver) : Prop where
  fabricEnable : s.fabricEnable = d.fabricEnable
  strobePrev : s.strobePrev = d.strobePrev
  reg : ∀ p ∈ (stitch n).inputWires, s.reg p.name = (d.config p).setWidth 32

/-- A clock edge in reset brings both into the same state. -/
theorem shows_step_of_rst (h : x.control.rst = true) :
    Shows n (s.step n x) (d.step n merge x) where
  fabricEnable := by simp [step, Driver.step, h]
  strobePrev := by simp [step, Driver.step, h]
  reg := by
    intro p hp
    have hmem : p.name ∈ configWires n := by
      rw [configWires_eq]
      exact List.mem_map_of_mem hp
    simp [step, Driver.step, h, hmem]

/-- Every clock edge keeps them in the same state. -/
theorem Shows.step (hn : 17 * n < 2 ^ 31) (h : Shows n s d) (x : DriverPorts) :
    Shows n (s.step n x) (d.step n merge x) := by
  cases hrst : x.control.rst with
  | true => exact shows_step_of_rst hrst
  | false =>
    have hstrobed : s.strobed x = d.strobed x := by rw [strobed, Driver.strobed, h.strobePrev]
    refine ⟨?_, by simp [LoadRegs.step, Driver.step, hrst], fun p hp => ?_⟩
    · simp only [LoadRegs.step, Driver.step, hrst, hstrobed, h.fabricEnable]
    · simp only [LoadRegs.step, Driver.step, hrst, hstrobed, caseItem_eq_map hn, h.reg p hp,
        Driver.written]
      cases hs : d.strobed x with
      | false => simp
      | true =>
        cases hport : Driver.configPort n x.address with
        | none => simp
        | some q =>
          by_cases hq : q = p
          · subst hq
            simp [Driver.write, assigned_name]
          · have hne : q.name ≠ p.name := fun hname => hq (Port.name_injective hname)
            simp [Driver.write, hne, Function.update_of_ne (Ne.symm hq)]

/-- After a reset the registers of the driver are those the loops write about. -/
theorem shows_run (hn : 17 * n < 2 ^ 31) {x : ℕ → DriverPorts}
    (hrst : (x 0).control.rst = true) (s₀ : LoadRegs) (d₀ : Driver) {t : ℕ} (ht : 1 ≤ t) :
    Shows n (run (step n) s₀ x t) (run (Driver.step n merge) d₀ x t) := by
  induction t, ht using Nat.le_induction with
  | base => exact shows_step_of_rst hrst
  | succ t _ ih => exact ih.step hn (x t)

end LoadRegs

/-! ### The register file -/

section RegisterFile

variable (n : ℕ) (x : ℕ → DriverPorts)

/-- The strobe is high and was low in the cycle before. -/
def rises (t : ℕ) : Bool := !(x (t - 1)).strobe && (x t).strobe

/-- The cycles that write to an address. -/
def writes (address t : ℕ) : Control :=
  ⟨(x t).control.rst, rises x t && (x t).address.toNat == address⟩

/-- The registers have the addresses up to `17 * n`, one each, and hold what was last written to
these since the last reset, in the width of their port. -/
structure IsRegisterFile (s : ℕ → LoadRegs) : Prop where
  length : (configWires n).length = 17 * n
  nodup : (configWires n).Nodup
  width : ∀ p ∈ (stitch n).inputWires, p.name ∈ configWires n ∧ upperLim p.name + 1 = p.width
  enable : ∀ t, 1 ≤ t →
    HoldsLast (writes x 0) (fun r => (x r).data.getLsbD 0) false (s t).fabricEnable t
  config : ∀ t, 1 ≤ t → ∀ j (hj : j < (configWires n).length),
    HoldsLast (writes x (j + 1)) (fun r => assigned (configWires n)[j] (x r).data) 0
      ((s t).reg (configWires n)[j]) t
  /-- Any other address changes nothing. -/
  stray : ∀ t, (x t).control.rst = false → 17 * n < (x t).address.toNat →
    (s (t + 1)).fabricEnable = (s t).fabricEnable ∧ (s (t + 1)).reg = (s t).reg

/-- The strobe stays high from the last cycle of a reset to the first one after it. -/
def StrobeOutlastsReset (t : ℕ) : Prop :=
  (x t).control.rst = true ∧ (x (t + 1)).control.rst = false ∧
    (x t).strobe = true ∧ (x (t + 1)).strobe = true

/-- The data leaves the register of its address at 0. -/
def IsBlank (y : DriverPorts) : Prop :=
  (y.address.toNat = 0 → y.data.getLsbD 0 = false) ∧
    ∀ j (hj : j < (configWires n).length), y.address.toNat = j + 1 →
      assigned (configWires n)[j] y.data = 0

variable {n x}

/-- The guard of the loader in a run: a reset hides that the strobe was high. -/
theorem strobed_run (s₀ : LoadRegs) (t : ℕ) :
    (run (LoadRegs.step n) s₀ x (t + 1)).strobed (x (t + 1)) =
      (((x t).control.rst || !(x t).strobe) && (x (t + 1)).strobe) := by
  rw [run_succ, LoadRegs.strobed, LoadRegs.step]
  cases (x t).control.rst <;> rfl

/-- Otherwise the guard sees that the strobe rises. -/
theorem strobed_run_eq_rises (s₀ : LoadRegs) {t : ℕ} (hrst : (x (t + 1)).control.rst = false)
    (h : ¬ StrobeOutlastsReset x t) :
    (run (LoadRegs.step n) s₀ x (t + 1)).strobed (x (t + 1)) = rises x (t + 1) := by
  rw [strobed_run, rises, Nat.add_sub_cancel]
  cases hr : (x t).control.rst with
  | false => rfl
  | true =>
    cases hs : (x t).strobe with
    | false => rfl
    | true =>
      cases hs' : (x (t + 1)).strobe with
      | false => rfl
      | true => exact absurd ⟨hr, hrst, hs, hs'⟩ h

/-- A register that is loaded under the guard and a selection holds what was last written, unless
a strobe that outlasts a reset loads other data than the reset value. -/
theorem holdsLast_iff {α : Type*} {s₀ : LoadRegs} (hrst : (x 0).control.rst = true)
    {a : ℕ → Bool} {d q : ℕ → α} {z : α}
    (hq : ∀ t, q (t + 1) = (Control.mk (x t).control.rst
      ((run (LoadRegs.step n) s₀ x t).strobed (x t) && a t)).latch z (d t) (q t)) :
    (∀ t, 1 ≤ t →
      HoldsLast (fun t => ⟨(x t).control.rst, rises x t && a t⟩) d z (q t) t) ↔
      ∀ t, StrobeOutlastsReset x t → a (t + 1) = true → d (t + 1) = z := by
  constructor
  · rintro h t ⟨hr, hr', hs, hs'⟩ hselected
    have hloaded : q (t + 1 + 1) = d (t + 1) := by
      rw [hq, strobed_run]
      exact Control.latch_of_isActive ⟨hr', by simp [hr, hs', hselected]⟩
    have hlast := h (t + 1 + 1) (Nat.succ_pos _)
    rw [holdsLast_succ_of_isIdle ⟨hr', by simp [rises, hs]⟩, holdsLast_succ_of_rst hr,
      hloaded] at hlast
    exact hlast
  · intro h t ht
    induction t, ht using Nat.le_induction with
    | base =>
      rw [holdsLast_succ_of_rst hrst, hq]
      exact Control.latch_of_rst hrst
    | succ t ht ih =>
      obtain ⟨r, rfl⟩ : ∃ r, t = r + 1 := ⟨t - 1, by omega⟩
      suffices hnext : q (r + 1 + 1) =
          (Control.mk (x (r + 1)).control.rst (rises x (r + 1) && a (r + 1))).latch z
            (d (r + 1)) (q (r + 1)) by
        rw [hnext]
        exact ih.succ
      rw [hq]
      by_cases hout : StrobeOutlastsReset x r
      · obtain ⟨hr, hr', hs, hs'⟩ := hout
        have hz : q (r + 1) = z := (holdsLast_succ_of_rst hr).mp ih
        have hd := h r ⟨hr, hr', hs, hs'⟩
        rw [strobed_run, rises, Nat.add_sub_cancel]
        cases hselected : a (r + 1) with
        | false => simp
        | true => simp [Control.latch, hr', hz, hd hselected]
      · cases hr' : (x (r + 1)).control.rst with
        | true => rfl
        | false => rw [strobed_run_eq_rises s₀ hr' hout]

theorem fabricEnable_run (s₀ : LoadRegs) (t : ℕ) :
    (run (LoadRegs.step n) s₀ x (t + 1)).fabricEnable =
      (Control.mk (x t).control.rst ((run (LoadRegs.step n) s₀ x t).strobed (x t) &&
        (x t).address.toNat == 0)).latch false ((x t).data.getLsbD 0)
        (run (LoadRegs.step n) s₀ x t).fabricEnable := by
  have hzero : ((x t).address.toNat == 0) = ((x t).address == 0) := by
    rw [Bool.eq_iff_iff, beq_iff_eq, beq_iff_eq, BitVec.toNat_eq]
    rfl
  rw [hzero]
  rfl

theorem reg_run (hn : 17 * n < 2 ^ 31) (s₀ : LoadRegs) {j : ℕ}
    (hj : j < (configWires n).length) (t : ℕ) :
    (run (LoadRegs.step n) s₀ x (t + 1)).reg (configWires n)[j] =
      (Control.mk (x t).control.rst ((run (LoadRegs.step n) s₀ x t).strobed (x t) &&
        (x t).address.toNat == j + 1)).latch 0 (assigned (configWires n)[j] (x t).data)
        ((run (LoadRegs.step n) s₀ x t).reg (configWires n)[j]) := by
  have hlabel : ((x t).address.toNat == j + 1) =
      (caseItem n (x t).address == some (configWires n)[j]) := by
    rw [Bool.eq_iff_iff, beq_iff_eq, beq_iff_eq, caseItem_eq_some_iff hn]
  have hmem : (configWires n)[j] ∈ configWires n := List.getElem_mem hj
  rw [hlabel, run_succ]
  simp only [LoadRegs.step, if_pos hmem]
  rfl

theorem stray_run (hn : 17 * n < 2 ^ 31) (s₀ : LoadRegs) {t : ℕ}
    (hrst : (x t).control.rst = false) (h : 17 * n < (x t).address.toNat) :
    (run (LoadRegs.step n) s₀ x (t + 1)).fabricEnable =
        (run (LoadRegs.step n) s₀ x t).fabricEnable ∧
      (run (LoadRegs.step n) s₀ x (t + 1)).reg = (run (LoadRegs.step n) s₀ x t).reg := by
  have hne : (x t).address ≠ 0#32 := by
    intro hzero
    rw [hzero] at h
    exact Nat.not_lt_zero _ h
  simp [run_succ, LoadRegs.step, hrst, hne, caseItem_eq_none hn h]

/-- The loader is a register file in the traces in which no strobe that outlasts a reset loads
anything. -/
theorem isRegisterFile_iff (hn : 17 * n < 2 ^ 31) (s₀ : LoadRegs)
    (hrst : (x 0).control.rst = true) :
    IsRegisterFile n x (run (LoadRegs.step n) s₀ x) ↔
      ∀ t, StrobeOutlastsReset x t → IsBlank n (x (t + 1)) := by
  have henable := holdsLast_iff (a := fun t => (x t).address.toNat == 0)
    (d := fun t => (x t).data.getLsbD 0) (q := fun t => (run (LoadRegs.step n) s₀ x t).fabricEnable)
    hrst (fabricEnable_run s₀)
  have hconfig (j : ℕ) (hj : j < (configWires n).length) :=
    holdsLast_iff (a := fun t => (x t).address.toNat == j + 1)
      (d := fun t => assigned (configWires n)[j] (x t).data)
      (q := fun t => (run (LoadRegs.step n) s₀ x t).reg (configWires n)[j]) hrst (reg_run hn s₀ hj)
  simp only [beq_iff_eq] at henable hconfig
  constructor
  · intro h t ht
    exact ⟨henable.mp h.enable t ht, fun j hj =>
      (hconfig j hj).mp (fun r hr => h.config r hr j hj) t ht⟩
  · intro h
    exact {
      length := length_configWires n
      nodup := nodup_configWires n
      width := fun p hp => ⟨configWires_eq n ▸ List.mem_map_of_mem hp, upperLim_name p⟩
      enable := henable.mpr fun t ht => (h t ht).1
      config := fun t ht j hj => (hconfig j hj).mpr (fun r hr => (h r hr).2 j hj) t ht
      stray := fun t => stray_run hn s₀ }

/-- The registers of a driver of one assertion before any clock edge. -/
def powerUp : LoadRegs := ⟨true, true, fun _ => 7⟩

/-- A reset in cycle 0, and the word 5 at address 1 under a strobe from cycle `first` on. -/
def strobeFrom (first t : ℕ) : DriverPorts where
  control := ⟨decide (t = 0), true⟩
  routingInput := 0
  address := 1
  data := 5
  strobe := decide (first ≤ t)

theorem isRegisterFile_iff_strobeFrom :
    IsRegisterFile 1 (strobeFrom 1) (run (LoadRegs.step 1) powerUp (strobeFrom 1)) ↔
      ∀ t, StrobeOutlastsReset (strobeFrom 1) t → IsBlank 1 (strobeFrom 1 (t + 1)) :=
  isRegisterFile_iff (by decide) powerUp rfl

/-- A strobe that is high before the reset ends loads the register though it does not rise. -/
theorem not_isRegisterFile_strobeFrom :
    rises (strobeFrom 0) 0 = false ∧ rises (strobeFrom 0) 1 = false ∧
    (run (LoadRegs.step 1) powerUp (strobeFrom 0) 2).reg (Port.inputSelect 0).name = 5 ∧
    ¬ IsRegisterFile 1 (strobeFrom 0) (run (LoadRegs.step 1) powerUp (strobeFrom 0)) := by
  have hloaded : (run (LoadRegs.step 1) powerUp (strobeFrom 0) 2).reg
      (Port.inputSelect 0).name = 5 := by decide +kernel
  refine ⟨rfl, rfl, hloaded, fun h => ?_⟩
  have hlast := h.config 2 (by decide) 0 (by decide +kernel)
  rw [holdsLast_succ_of_isIdle ⟨rfl, rfl⟩, holdsLast_succ_of_rst rfl] at hlast
  exact absurd (hloaded.symm.trans hlast) (by decide)

end RegisterFile

end WirePatch.Fabric
