import WirePatch.Fabric.Silence

/-!
# When a loaded configuration takes effect

The assertions of a fabric keep what they saw under earlier configurations. They look back by at
most 7 enabled cycles, and a delayed result by one more, so a fabric forgets the configurations
before the last 8 enabled cycles.

## Main definitions

* `Fabric.AgreesOn`: two configurations are the same on the ports of a fabric.

## Main results

* `Fabric.AgreesOn.configValid_iff`, `Fabric.AgreesOn.watched_eq`: the other ports do not matter.
* `Fabric.OvlCombo.alarm_congr`: an assertion looks back by at most 7 enabled cycles.
* `Fabric.violates_iff_fires`: after 8 enabled cycles a configuration means what it says.
-/

namespace WirePatch.Fabric

open Clocked

/-! ### The ports of a fabric -/

/-- The configurations have the same values on the ports of a fabric of `n` assertions. -/
def AgreesOn (n : ℕ) (config config' : Config) : Prop :=
  ∀ p ∈ (stitch n).inputWires, config p = config' p

section Ports

variable {n i k : ℕ}

theorem inputSelect_mem (hk : k < 4 * n) : Port.inputSelect k ∈ (stitch n).inputWires := by
  simp only [stitch, printRoutingBlocks, List.mem_append, List.mem_map, List.mem_range]
  exact Or.inl (Or.inl ⟨k, by omega, rfl⟩)

theorem logicPort_mem (hk : k < 2 * n) {p : Port}
    (hp : p ∈ [Port.maskA k, .maskB k, .constant k, .opBMux k, .resultMux k]) :
    p ∈ (stitch n).inputWires := by
  simp only [stitch, printLogicBlocks, List.mem_append, List.mem_flatMap, List.mem_range]
  exact Or.inl (Or.inr ⟨k, by omega, hp⟩)

theorem assertionPort_mem (hi : i < n) {p : Port}
    (hp : p ∈ [Port.numCks i, .select i, .resSel i]) : p ∈ (stitch n).inputWires := by
  simp only [stitch, printAssertionBlocks, List.mem_append, List.mem_flatMap, List.mem_range]
  exact Or.inr ⟨i, hi, hp⟩

variable {config config' : Config}

namespace AgreesOn

theorem comparator_eq (h : AgreesOn n config config') (routingInput : BitVec 544)
    (hk : k < 2 * n) : comparator config routingInput k = comparator config' routingInput k := by
  have hselect (j : ℕ) (hj : j < 4 * n) : config.inputSelect j = config'.inputSelect j :=
    h _ (inputSelect_mem hj)
  have hmaskA : config.maskA k = config'.maskA k := h _ (logicPort_mem hk (by simp))
  have hmaskB : config.maskB k = config'.maskB k := h _ (logicPort_mem hk (by simp))
  have hconstant : config.constant k = config'.constant k := h _ (logicPort_mem hk (by simp))
  have hopBMux : config.opBMux k = config'.opBMux k := h _ (logicPort_mem hk (by simp))
  have hresultMux : config.resultMux k = config'.resultMux k := h _ (logicPort_mem hk (by simp))
  rw [comparator, comparator, hselect _ (by omega), hselect _ (by omega), hmaskA, hmaskB,
    hconstant, hopBMux, hresultMux]

theorem numCks_eq (h : AgreesOn n config config') (hi : i < n) :
    config.numCks i = config'.numCks i := h _ (assertionPort_mem hi (by simp))

theorem select_eq (h : AgreesOn n config config') (hi : i < n) :
    config.select i = config'.select i := h _ (assertionPort_mem hi (by simp))

theorem resSel_eq (h : AgreesOn n config config') (hi : i < n) :
    config.resSel i = config'.resSel i := h _ (assertionPort_mem hi (by simp))

/-- What an assertion of the fabric sees. -/
theorem watched_eq (h : AgreesOn n config config') (control : ℕ → Control)
    (routingInput : ℕ → BitVec 544) (t : ℕ) (hi : i < n) :
    watched config control routingInput i t = watched config' control routingInput i t := by
  rw [watched, watched, h.comparator_eq _ (by omega), h.comparator_eq _ (by omega),
    h.numCks_eq hi, h.select_eq hi]

theorem configValid_iff (h : AgreesOn n config config') :
    ConfigValid n config ↔ ConfigValid n config' := by
  have hselect (k : ℕ) (hk : k < 4 * n) : config.inputSelect k = config'.inputSelect k :=
    h _ (inputSelect_mem hk)
  have hmux (k : ℕ) (hk : k < 2 * n) : config.resultMux k = config'.resultMux k :=
    h _ (logicPort_mem hk (by simp))
  refine and_congr (forall₂_congr fun k hk => ?_)
    (and_congr (forall₂_congr fun k hk => ?_) (forall₂_congr fun i hi => ?_))
  · rw [hselect k hk]
  · rw [hmux k hk]
  · rw [h.select_eq hi, h.numCks_eq hi]

end AgreesOn

end Ports

/-! ### How far an assertion looks back -/

namespace OvlCombo

variable {x y : ℕ → Ports} {a t k : ℕ}

/-- The start events an assertion still knows of are those of the cycles from `a` on. -/
theorem started_congr (hcontrol : ∀ r, (x r).control = (y r).control)
    (hsame : ∀ r, a ≤ r → r ≤ t → x r = y r)
    (hk : k ≤ enabledFrom (fun r => (y r).control) a t) :
    Started x t k ↔ Started y t k := by
  have hfun : (fun r => (x r).control) = fun r => (y r).control := funext hcontrol
  rw [Started, Started, hfun]
  refine exists_congr fun p => and_congr_right fun hp => ?_
  rw [hsame p (hp.le_of_le_enabledFrom hk) hp.1.le]

/-- Two traces that agree over the last 7 enabled cycles raise the same alarm. -/
theorem alarm_congr (hcontrol : ∀ r, (x r).control = (y r).control)
    (hsame : ∀ r, a ≤ r → r ≤ t → x r = y r) (hat : a ≤ t)
    (hcount : 7 ≤ enabledFrom (fun r => (y r).control) a t) : Alarm x t ↔ Alarm y t := by
  have hstarted (k : ℕ) (hk : k ≤ 7) : Started x t k ↔ Started y t k :=
    started_congr hcontrol hsame (hk.trans hcount)
  have hnow : x t = y t := hsame t hat le_rfl
  rw [Alarm, Alarm, hnow, hstarted 1 (by decide), hstarted 2 (by decide), hstarted _ (by omega)]

end OvlCombo

/-! ### A configuration that stands -/

section Settled

variable {x : ℕ → FabricPorts} {config : Config} {n i a t : ℕ}

/-- The latest enabled cycle leaves all enabled cycles but one before it. -/
theorem enabledFrom_of_lastActive {c : ℕ → Control} {p : ℕ} (hp : LastActive c p t)
    (hcount : 8 ≤ enabledFrom c a t) : a ≤ p ∧ 7 ≤ enabledFrom c a p := by
  have hlast : EnabledBefore c 1 p t := activeBefore_iff.mp hp
  have hap : a ≤ p := hlast.le_of_le_enabledFrom (by omega)
  have hadd := enabledFrom_add (c := c) hap hp.lt.le
  have hone : enabledFrom c p t = 1 := hlast.2.2.2
  omega

/-- Once a configuration stood for 8 enabled cycles, an assertion is violated exactly if it fires
under this configuration alone, whatever was loaded before. -/
theorem violates_iff_fires (hagrees : ∀ r, a ≤ r → r ≤ t → AgreesOn n (x r).config config)
    (hat : a ≤ t) (hcount : 8 ≤ enabledFrom (fun r => (x r).control) a t) (hi : i < n) :
    Violates x i t ↔
      Fires config (fun r => (x r).control) (fun r => (x r).routingInput) i t := by
  have hsame (r : ℕ) (har : a ≤ r) (hrt : r ≤ t) : watching x i r =
      watched config (fun r => (x r).control) (fun r => (x r).routingInput) i r :=
    (hagrees r har hrt).watched_eq _ _ r hi
  have halarm (p : ℕ) (hap : a ≤ p) (hpt : p ≤ t)
      (hseven : 7 ≤ enabledFrom (fun r => (x r).control) a p) :
      OvlCombo.Alarm (watching x i) p ↔ OvlCombo.outRun (watched config (fun r => (x r).control)
        (fun r => (x r).routingInput) i) p = true := by
    rw [OvlCombo.outRun_eq_true_iff]
    exact OvlCombo.alarm_congr (fun _ => rfl) (fun r har hr => hsame r har (hr.trans hpt)) hap
      hseven
  rw [Violates, Fires, (hagrees t hat le_rfl).resSel_eq hi]
  split_ifs with hsel
  · refine exists_congr fun p => and_congr_right fun hp => ?_
    obtain ⟨hap, hseven⟩ := enabledFrom_of_lastActive hp hcount
    exact halarm p hap hp.lt.le hseven
  · exact halarm t hat le_rfl (by omega)

/-- The fabric then reports what the configuration means. -/
theorem assertionViolated_iff_of_stands (hn : 1 ≤ n) {merge : (Fin 6 → Bool) → Bool}
    (hmerge : ∀ inputs, merge inputs = true ↔ ∃ j, inputs j = true)
    (hagrees : ∀ r, a ≤ r → r ≤ t → AgreesOn n (x r).config config) (hat : a ≤ t)
    (hcount : 8 ≤ enabledFrom (fun r => (x r).control) a t) :
    assertionViolated (x t) (fabricRegs x t) n merge = true ↔ ConfigValid n config ∧
      ∃ i < n, Fires config (fun r => (x r).control) (fun r => (x r).routingInput) i t := by
  rw [assertionViolated_iff_violates hn hmerge, (hagrees t hat le_rfl).configValid_iff]
  refine and_congr_right fun _ => exists_congr fun i => and_congr_right fun hi => ?_
  exact violates_iff_fires hagrees hat hcount hi

end Settled

end WirePatch.Fabric
