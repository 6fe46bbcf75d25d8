import Mathlib
import Xcpc.Proofs.Judgment

/-!
# From boundary to boundary

The counters of the clock decide when the next instruction begins, and nothing
else: from two states that agree on the registers, the status and the bus, the
prolog does the same. Between two boundaries `clock` does nothing but count
down.

So the processor can be told instruction by instruction. `instruction` is
`clock`, called as often as one instruction takes.
-/

namespace Xcpc.Cpu

open Prog

variable {β : Type} {I : Interface β}

/-! ## The counters decide nothing -/

/-- The states agree but for the counters. -/
structure Same (s t : Instance β) : Prop where
  regs : s.regs = t.regs
  st : s.st = t.st
  bus : s.bus = t.bus

theorem Same.refl (s : Instance β) : Same s s := ⟨rfl, rfl, rfl⟩

theorem Same.symm {s t : Instance β} (h : Same s t) : Same t s :=
  ⟨h.regs.symm, h.st.symm, h.bus.symm⟩

theorem Same.trans {s t u : Instance β} (h : Same s t) (h' : Same t u) :
    Same s u :=
  ⟨h.regs.trans h'.regs, h.st.trans h'.st, h.bus.trans h'.bus⟩

theorem sim_writesSt (f : Status → Status) :
    Sim Same (writesSt f : CpuM β Unit) (writesSt f) :=
  fun _ _ h => ⟨rfl, h.regs, congrArg f h.st, h.bus⟩

theorem judgment_same : Judgment I fun _ _ α m => Sim Same (α := α) m m where
  pure a := sim_pure a
  bind hm hf := sim_bind hm hf
  weaken hm _ _ := hm
  reads f _ _ h := ⟨congrArg f h.regs, h⟩
  writes f _ _ h := ⟨rfl, congrArg f h.regs, h.st, h.bus⟩
  readsSt f _ _ h := ⟨congrArg f h.st, h⟩
  mreqM1 a s t h := by
    simp only [mreqM1, h.bus]
    exact ⟨trivial, h.regs, h.st, rfl⟩
  mreqRd a s t h := by
    simp only [mreqRd, h.bus]
    exact ⟨trivial, h.regs, h.st, rfl⟩
  mreqWr a v s t h := by
    simp only [mreqWr, h.bus]
    exact ⟨trivial, h.regs, h.st, rfl⟩
  iorqM1 a s t h := by
    simp only [iorqM1, h.bus]
    exact ⟨trivial, h.regs, h.st, rfl⟩
  iorqRd a s t h := by
    simp only [iorqRd, h.bus]
    exact ⟨trivial, h.regs, h.st, rfl⟩
  iorqWr a v s t h := by
    simp only [iorqWr, h.bus]
    exact ⟨trivial, h.regs, h.st, rfl⟩
  consume c n s t h := ⟨rfl, h.regs, h.st, h.bus⟩

/-- The prolog does the same from states that agree. -/
theorem prolog_same {s t : Instance β} (h : Same s t) :
    (prolog I s).1 = (prolog I t).1 ∧ Same (prolog I s).2 (prolog I t).2 :=
  judgment_prolog judgment_same sim_writesSt s t h

/-! ## Counting down -/

/-- The instance at its next boundary, if nothing happens before. -/
def Instance.settle (s : Instance β) : Instance β :=
  { s with time := { s.time with iPeriod := 0 } }

theorem settle_same (s : Instance β) : Same s.settle s := ⟨rfl, rfl, rfl⟩

@[simp] theorem settle_atBoundary (s : Instance β) :
    s.settle.atBoundary = true := rfl

theorem epilog_iterate (n : Nat) (s : Instance β)
    (h : n ≤ s.time.iPeriod.toNat) :
    (clock I)^[n] s =
      { s with time := { s.time with iPeriod := s.time.iPeriod - BitVec.ofNat 32 n } } := by
  induction n generalizing s with
  | zero => simp
  | succ n ih =>
      have hne : s.time.iPeriod ≠ 0 := by
        intro he
        rw [he] at h
        simp at h
      have hb : s.atBoundary = false := beq_eq_false_iff_ne.2 hne
      have hc : clock I s = (epilog s).2 := by
        rw [clock, hb]
        rfl
      have hp : (epilog s).2.time.iPeriod = s.time.iPeriod - 1 := rfl
      rw [Function.iterate_succ_apply, hc, ih]
      · simp only [epilog]
        congr 2
        bv_omega
      · rw [hp]
        bv_omega

/-- How many calls of `clock` the instruction at the boundary takes. An
`i_period` of zero wraps. -/
def clocks (I : Interface β) (s : Instance β) : Nat :=
  ((prolog I s).2.time.iPeriod - 1).toNat + 1

/-- `clock`, until the next boundary. -/
def instruction (I : Interface β) (s : Instance β) : Instance β :=
  (clock I)^[clocks I s] s

theorem instruction_eq {s : Instance β} (h : s.atBoundary = true) :
    instruction I s = (prolog I s).2.settle := by
  have hc : clock I s = (epilog (prolog I s).2).2 := by
    rw [clock, h]
    rfl
  rw [instruction, clocks, Function.iterate_succ_apply, hc, epilog_iterate]
  · simp only [epilog, Instance.settle]
    congr 2
    rw [BitVec.ofNat_toNat, BitVec.setWidth_eq]
    exact BitVec.sub_self _
  · exact Nat.le_refl ((prolog I s).2.time.iPeriod - 1).toNat

theorem instruction_same {s : Instance β} (h : s.atBoundary = true) :
    Same (instruction I s) (prolog I s).2 := by
  rw [instruction_eq h]
  exact settle_same _

theorem instruction_atBoundary {s : Instance β} (h : s.atBoundary = true) :
    (instruction I s).atBoundary = true := by
  rw [instruction_eq h]
  rfl

end Xcpc.Cpu
