import Mathlib

/-!
# Functions that exclusive or passes through

Such a function of a word is known when its values at the single bits are. The
list of these values stands for the function, and for a composition it is
computed from the lists of the parts. So is it for an iterate: the number of
steps doubles each time, and a function iterated a great many times is written
down after a few.
-/

namespace Prog

variable {w : Nat}

def XorLinear (f : BitVec w → BitVec w) : Prop :=
  ∀ x y, f (x ^^^ y) = f x ^^^ f y

/-- The words with a single bit, from bit `i` on. -/
def units (w i n : Nat) : List (BitVec w) :=
  (List.range' i n).map (BitVec.twoPow w)

/-- The words of the list that the bits of `x` choose, from bit `i` on. -/
def choose : List (BitVec w) → BitVec w → Nat → BitVec w
  | [], _, _ => 0
  | v :: vs, x, i => (if x.getLsbD i then v else 0) ^^^ choose vs x (i + 1)

/-- The values at the single bits. -/
def images (f : BitVec w → BitVec w) : List (BitVec w) := (units w 0 w).map f

theorem getLsbD_choose_units (x : BitVec w) (i n j : Nat) :
    (choose (units w i n) x i).getLsbD j =
      (decide (i ≤ j) && decide (j < i + n) && x.getLsbD j) := by
  induction n generalizing i with
  | zero =>
      have hn : ¬ (i ≤ j ∧ j < i) := fun h => absurd h.1 (Nat.not_le.2 h.2)
      rw [← Bool.decide_and, Nat.add_zero, decide_eq_false hn, Bool.false_and]
      exact BitVec.getLsbD_zero
  | succ n ih =>
      have hc : units w i (n + 1) = BitVec.twoPow w i :: units w (i + 1) n := by
        rw [units, List.range'_succ, List.map_cons, units]
      rw [hc, choose, BitVec.getLsbD_xor, ih]
      by_cases hj : i = j
      · have h1 : ¬ i + 1 ≤ j := by omega
        have h2 : j < i + (n + 1) := by omega
        rw [decide_eq_false h1, decide_eq_true hj.le, decide_eq_true h2,
          Bool.false_and, Bool.false_and, Bool.xor_false, Bool.true_and,
          Bool.true_and, hj]
        by_cases hx : x.getLsbD j
        · rw [if_pos hx, BitVec.getLsbD_twoPow, hx,
            decide_eq_true (BitVec.lt_of_getLsbD hx), decide_eq_true rfl]
          rfl
        · rw [if_neg hx, Bool.eq_false_of_not_eq_true hx]
          exact BitVec.getLsbD_zero
      · have hb : (if x.getLsbD i then BitVec.twoPow w i else 0).getLsbD j =
            false := by
          split
          · rw [BitVec.getLsbD_twoPow, decide_eq_false hj, Bool.and_false]
          · exact BitVec.getLsbD_zero
        have hle : (i + 1 ≤ j) = (i ≤ j) := propext (by omega)
        have hlt : (j < i + 1 + n) = (j < i + (n + 1)) := propext (by omega)
        rw [hb, Bool.false_xor]
        simp only [hle, hlt]

theorem choose_units (x : BitVec w) : choose (units w 0 w) x 0 = x := by
  apply BitVec.eq_of_getLsbD_eq
  intro i hi
  rw [getLsbD_choose_units, Nat.zero_add, decide_eq_true (Nat.zero_le i),
    decide_eq_true hi, Bool.true_and, Bool.true_and]

namespace XorLinear

variable {f g : BitVec w → BitVec w}

theorem map_zero (hf : XorLinear f) : f 0 = 0 := by
  have h := hf 0 0
  rwa [BitVec.xor_self, BitVec.xor_self] at h

theorem map_choose (hf : XorLinear f) (vs : List (BitVec w)) (x : BitVec w)
    (i : Nat) : f (choose vs x i) = choose (vs.map f) x i := by
  induction vs generalizing i with
  | nil => exact hf.map_zero
  | cons v vs ih =>
      rw [List.map_cons, choose, choose, hf, ih]
      congr 1
      split
      · rfl
      · exact hf.map_zero

/-- The function, from its values at the single bits. -/
theorem eq_choose (hf : XorLinear f) (x : BitVec w) :
    f x = choose (images f) x 0 := by
  rw [images, ← hf.map_choose, choose_units]

theorem ext (hf : XorLinear f) (hg : XorLinear g)
    (h : images f = images g) : f = g := by
  funext x
  rw [hf.eq_choose, hg.eq_choose, h]

theorem comp (hf : XorLinear f) (hg : XorLinear g) : XorLinear (f ∘ g) := by
  intro x y
  rw [Function.comp, hg, hf, Function.comp, Function.comp]

theorem images_comp (hf : XorLinear f) (g : BitVec w → BitVec w) :
    images (f ∘ g) = (images g).map fun x => choose (images f) x 0 := by
  rw [images, ← List.map_map, images]
  exact List.map_congr_left fun x _ => hf.eq_choose x

protected theorem iterate (hf : XorLinear f) (n : Nat) : XorLinear f^[n] := by
  induction n with
  | zero => exact fun _ _ => rfl
  | succ n ih =>
      rw [Function.iterate_succ]
      exact ih.comp hf

end XorLinear

/-- From the values of a function `f`, those of `f` iterated `2 ^ k - 1`
times. -/
def imagesPow (v : List (BitVec w)) : Nat → List (BitVec w)
  | 0 => units w 0 w
  | k + 1 =>
      let u := imagesPow v k
      (v.map fun x => choose u x 0).map fun x => choose u x 0

theorem XorLinear.images_iterate {f : BitVec w → BitVec w} (hf : XorLinear f)
    (k : Nat) : images f^[2 ^ k - 1] = imagesPow (images f) k := by
  induction k with
  | zero => exact List.map_id _
  | succ k ih =>
      have hn : 2 ^ (k + 1) - 1 = 2 ^ k - 1 + (2 ^ k - 1) + 1 := by
        have hpos := Nat.two_pow_pos k
        rw [pow_succ]
        omega
      have hk := hf.iterate (2 ^ k - 1)
      rw [hn, Function.iterate_add, Function.iterate_add, Function.iterate_one,
        Function.comp_assoc, hk.images_comp, hk.images_comp, ih, imagesPow]

end Prog
