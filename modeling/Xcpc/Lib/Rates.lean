import Mathlib

/-!
# Error accumulators

A slow clock is made from a fast one by an accumulator: every fast cycle adds
the slow rate to it, and when it reaches the fast rate, that much is taken off
and the slow clock ticks. What is left in the accumulator is the error, and it
is never lost, so the slow clock is exact over any number of cycles.

The same accumulator cuts a run into frames, except that a frame ends before
the next cycle begins: the cycles of a number of frames are rounded up.
-/

namespace Prog

/-- After `k` cycles at rate `c` of `D`, there were `n` ticks and `acc` is
left. -/
structure Divided (D c k n acc : Nat) : Prop where
  sum : D * n + acc = k * c
  lt : acc < D

namespace Divided

variable {D c k n acc : Nat}

theorem start (hD : 0 < D) : Divided D c 0 0 0 :=
  ⟨by rw [Nat.mul_zero, Nat.zero_mul], hD⟩

theorem tick (h : Divided D c k n acc) (hc : c ≤ D) (ht : D ≤ acc + c) :
    Divided D c (k + 1) (n + 1) (acc + c - D) := by
  have hs := h.sum
  have hl := h.lt
  refine ⟨?_, by omega⟩
  rw [Nat.add_mul, Nat.one_mul, ← hs, Nat.mul_add, Nat.mul_one]
  omega

theorem wait (h : Divided D c k n acc) (ht : acc + c < D) :
    Divided D c (k + 1) n (acc + c) := by
  refine ⟨?_, ht⟩
  rw [Nat.add_mul, Nat.one_mul, ← h.sum, Nat.add_assoc]

/-- The ticks are the cycles at the slow rate, rounded down. -/
theorem ticks_eq (h : Divided D c k n acc) : n = k * c / D := by
  have hD : 0 < D := Nat.lt_of_le_of_lt (Nat.zero_le acc) h.lt
  have hs := h.sum
  rw [Nat.add_comm] at hs
  exact ((Nat.div_mod_unique hD).2 ⟨hs, h.lt⟩).1.symm

theorem acc_eq (h : Divided D c k n acc) : acc = k * c % D := by
  have hD : 0 < D := Nat.lt_of_le_of_lt (Nat.zero_le acc) h.lt
  have hs := h.sum
  rw [Nat.add_comm] at hs
  exact ((Nat.div_mod_unique hD).2 ⟨hs, h.lt⟩).2.symm

end Divided

/-- The cycles `k` that `n` frames take, where a cycle is a `1 / f` of a frame
of length `D`. -/
structure Framed (D f n k : Nat) : Prop where
  reached : n * D ≤ k * f
  first : k * f < n * D + f

namespace Framed

variable {D f n k : Nat}

theorem start (hf : 0 < f) : Framed D f 0 0 :=
  ⟨by rw [Nat.zero_mul, Nat.zero_mul], by omega⟩

/-- The cycles of some frames are rounded up. -/
theorem cycles_eq (h : Framed D f n k) : k = (n * D) ⌈/⌉ f := by
  have hf : 0 < f := by
    have := h.reached
    have := h.first
    omega
  refine le_antisymm ?_ ?_
  · have hle := le_smul_ceilDiv (b := n * D) hf
    rw [smul_eq_mul] at hle
    have hlt := h.first
    by_contra hk
    have hk : (n * D) ⌈/⌉ f + 1 ≤ k := by omega
    have hm := Nat.mul_le_mul_right f hk
    rw [Nat.add_mul, Nat.one_mul, Nat.mul_comm] at hm
    omega
  · rw [ceilDiv_le_iff_le_smul hf, smul_eq_mul, Nat.mul_comm f k]
    exact h.reached

end Framed

end Prog
