import WirePatch.Foundations.Clocked
import Mathlib.Data.List.Destutter

/-!
# Loading a memory through strobed registers

A producer writes an address, a data word and a strobe to three registers, and a consumer loads
the word to the address when it sees the strobe rise. The consumer sees the registers of the
cycle before and keeps the strobe it saw last, so it loads one cycle late. Whatever the producer
does in between, the memory follows the sequence of writes, with each write done at once.

## Main definitions

* `Strobed.Regs`, `Strobed.Write`: the registers of the producer and the writes to them.
* `Strobed.Link`, `Strobed.Link.write`: the registers and the memory when a load waits for nothing.
* `Strobed.Wired`, `Strobed.Wired.step`: the same in hardware.
* `Strobed.Wired.link`: the state of the first a state of the second stands for.
* `Strobed.put`: the writes that load a word.

## Main results

* `Strobed.Wired.link_step`, `Strobed.Wired.link_run`: the hardware does the writes in order, in
  whatever cycles they come.
* `Strobed.foldl_puts`: the words loaded one after the other arrive one after the other.
* `Strobed.foldl_destutter`: a write held for several cycles is one write.
-/

namespace Strobed

variable {α δ κ : Type*}

/-! ### The sequence of writes -/

/-- A write to a register of the producer. -/
inductive Write (α δ : Type*)
  | address (a : α)
  | data (d : δ)
  | strobe (b : Bool)
  deriving DecidableEq

/-- The registers of the producer. -/
@[ext]
structure Regs (α δ : Type*) where
  address : α
  data : δ
  strobe : Bool

def Regs.write (r : Regs α δ) : Write α δ → Regs α δ
  | .address a => { r with address := a }
  | .data d => { r with data := d }
  | .strobe b => { r with strobe := b }

theorem Regs.write_write (r : Regs α δ) (w : Write α δ) : (r.write w).write w = r.write w := by
  cases w <;> rfl

/-- The registers of the producer and the memory of the consumer. -/
@[ext]
structure Link (α δ κ : Type*) where
  regs : Regs α δ
  store : κ

section Link

variable (load : κ → α → δ → κ)

/-- What the consumer has after the registers changed from `r` to `r'`. -/
def loaded (store : κ) (r r' : Regs α δ) : κ :=
  if !r.strobe && r'.strobe then load store r'.address r'.data else store

theorem loaded_self (store : κ) (r : Regs α δ) : loaded load store r r = store := by
  rw [loaded]
  cases r.strobe <;> rfl

/-- A write after which the consumer has loaded what it asks for. -/
def Link.write (l : Link α δ κ) (w : Write α δ) : Link α δ κ where
  regs := l.regs.write w
  store := loaded load l.store l.regs (l.regs.write w)

/-- The same write again changes nothing, since the strobe does not rise again. -/
theorem Link.write_write (l : Link α δ κ) (w : Write α δ) :
    (l.write load w).write load w = l.write load w := by
  have hregs : (l.regs.write w).write w = l.regs.write w := Regs.write_write l.regs w
  simp only [Link.write, hregs, loaded_self]

/-- Address, data, and the strobe up and down. -/
def put (a : α) (d : δ) : List (Write α δ) :=
  [.address a, .data d, .strobe true, .strobe false]

/-- One word is loaded. -/
theorem foldl_put {l : Link α δ κ} (h : l.regs.strobe = false) (a : α) (d : δ) :
    (put a d).foldl (Link.write load) l = ⟨⟨a, d, false⟩, load l.store a d⟩ := by
  simp [put, Link.write, Regs.write, loaded, h]

/-- The words of a list are loaded in their order. -/
theorem foldl_puts {l : Link α δ κ} (h : l.regs.strobe = false) (words : List (α × δ)) :
    ((words.flatMap fun w => put w.1 w.2).foldl (Link.write load) l).store =
        words.foldl (fun s w => load s w.1 w.2) l.store ∧
      ((words.flatMap fun w => put w.1 w.2).foldl (Link.write load) l).regs.strobe = false := by
  induction words generalizing l with
  | nil => exact ⟨rfl, h⟩
  | cons w words ih =>
    rw [List.flatMap_cons, List.foldl_append, foldl_put load h, List.foldl_cons]
    exact ih rfl

end Link

/-! ### Writes held for several cycles -/

section Destutter

variable {σ ω : Type*} [DecidableEq ω] {f : σ → ω → σ}

theorem foldl_destutter' (hf : ∀ s w, f (f s w) w = f s w) (s : σ) (w : ω) (l : List ω) :
    (l.destutter' (· ≠ ·) w).foldl f s = l.foldl f (f s w) := by
  induction l generalizing s w with
  | nil => rfl
  | cons v l ih =>
    by_cases h : w = v
    · subst h
      rw [List.destutter'_cons_neg _ (by simp), ih, List.foldl_cons, hf]
    · rw [List.destutter'_cons_pos _ h, List.foldl_cons, ih, List.foldl_cons]

/-- Where the same event twice does what it does once, a run does not depend on how often an
event is repeated. -/
theorem foldl_destutter (hf : ∀ s w, f (f s w) w = f s w) (s : σ) (l : List ω) :
    (l.destutter (· ≠ ·)).foldl f s = l.foldl f s := by
  cases l with
  | nil => rfl
  | cons w l => exact foldl_destutter' hf s w l

end Destutter

/-! ### In hardware -/

/-- The registers of the producer, the memory, and the strobe the consumer saw last. -/
structure Wired (α δ κ : Type*) where
  regs : Regs α δ
  strobePrev : Bool
  store : κ

namespace Wired

variable (load : κ → α → δ → κ) (s : Wired α δ κ)

/-- The memory after the next clock edge. -/
def next : κ := if !s.strobePrev && s.regs.strobe then load s.store s.regs.address s.regs.data
  else s.store

variable {s} in
theorem next_of_strobe (h : s.regs.strobe = false) : s.next load = s.store := by
  rw [next, h, Bool.and_false]
  rfl

/-- A clock edge, with the write of the producer in this cycle if there is one. -/
def step (w : Option (Write α δ)) : Wired α δ κ where
  regs := w.elim s.regs s.regs.write
  strobePrev := s.regs.strobe
  store := s.next load

/-- The state with the pending load done. -/
def link : Link α δ κ := ⟨s.regs, s.next load⟩

/-- A clock edge does the write of its cycle. -/
theorem link_step (w : Option (Write α δ)) :
    (s.step load w).link load = w.elim (s.link load) ((s.link load).write load) := by
  cases w with
  | none =>
    have hquiet : (s.step load none).next load = s.next load := by
      rw [next, step]
      cases hs : s.regs.strobe <;> simp [hs]
    exact Link.ext rfl hquiet
  | some w => rfl

/-- The writes before a cycle, in their order. -/
def writesBefore (w : ℕ → Option (Write α δ)) (t : ℕ) : List (Write α δ) :=
  (List.range t).filterMap w

theorem writesBefore_succ (w : ℕ → Option (Write α δ)) (t : ℕ) :
    writesBefore w (t + 1) = writesBefore w t ++ (w t).toList := by
  rw [writesBefore, List.range_succ, List.filterMap_append, writesBefore]
  cases h : w t <;> simp [h]

/-- In every cycle the hardware stands for what the writes so far do one after the other. -/
theorem link_run (w : ℕ → Option (Write α δ)) (t : ℕ) :
    (Clocked.run (step load) s w t).link load =
      (writesBefore w t).foldl (Link.write load) (s.link load) := by
  induction t with
  | zero => rfl
  | succ t ih =>
    rw [Clocked.run_succ, link_step, ih, writesBefore_succ, List.foldl_append]
    cases w t <;> rfl

end Wired

end Strobed
