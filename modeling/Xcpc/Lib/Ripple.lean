import Mathlib

/-!
# Ripple carry

A number of several digits is added digit by digit, from the lowest on, and
each digit takes the carry of the one before it. The digits may be computed
anywhere: all that links them is the carry.

A subtraction is the same with the result for an operand, since `a - v - c` is
`r` with a borrow exactly if `r + v + c` is `a` with a carry.
-/

namespace Prog

variable {κ : Type} {cin cout : κ → Bool} {a v r : κ → Nat} {b : Nat}

/-- The first digit takes the carry `c`, and each of the others the carry out
of the one before it. -/
def Chained (cin cout : κ → Bool) : Bool → List κ → Prop
  | _, [] => True
  | c, k :: ks => cin k = c ∧ Chained cin cout (cout k) ks

/-- The carry out of the last digit. -/
def carryOut (cout : κ → Bool) : Bool → List κ → Bool
  | c, [] => c
  | _, k :: ks => carryOut cout (cout k) ks

/-- The number with these digits in base `b`, the lowest first. -/
def number (b : Nat) (d : κ → Nat) (ks : List κ) : Nat :=
  Nat.ofDigits b (ks.map d)

@[simp] theorem number_nil (b : Nat) (d : κ → Nat) : number b d [] = 0 := rfl

@[simp] theorem number_cons (b : Nat) (d : κ → Nat) (k : κ) (ks : List κ) :
    number b d (k :: ks) = d k + b * number b d ks :=
  Nat.ofDigits_cons

theorem number_lt (hb : 1 < b) {d : κ → Nat} {ks : List κ}
    (h : ∀ k ∈ ks, d k < b) : number b d ks < b ^ ks.length := by
  have hlt : Nat.ofDigits b (ks.map d) < b ^ (ks.map d).length := by
    refine Nat.ofDigits_lt_base_pow_length hb fun x hx => ?_
    obtain ⟨k, hk, rfl⟩ := List.mem_map.1 hx
    exact h k hk
  rwa [List.length_map] at hlt

/-- If every digit is exact with its carries, so is the number. -/
theorem ripple {c : Bool} {ks : List κ} (hlink : Chained cin cout c ks)
    (hdigit : ∀ k ∈ ks,
      a k + v k + (cin k).toNat = r k + b * (cout k).toNat) :
    number b a ks + number b v ks + c.toNat =
      number b r ks + b ^ ks.length * (carryOut cout c ks).toNat := by
  induction ks generalizing c with
  | nil => simp [carryOut]
  | cons k ks ih =>
      obtain ⟨hk, hks⟩ := List.forall_mem_cons.1 hdigit
      obtain ⟨hc, hlink⟩ := hlink
      have hrest := ih hlink hks
      rw [hc] at hk
      rw [number_cons, number_cons, number_cons, List.length_cons, carryOut,
        pow_succ']
      calc a k + b * number b a ks + (v k + b * number b v ks) + c.toNat
          = a k + v k + c.toNat + b * (number b a ks + number b v ks) := by
            ring
        _ = r k + b * (number b a ks + number b v ks + (cout k).toNat) := by
            rw [hk]
            ring
        _ = _ := by
            rw [hrest]
            ring

/-- The results are the sum in as many digits, and the last carry is what is
over. -/
def Adds (b : Nat) (a v r : κ → Nat) (cout : κ → Bool) (ks : List κ) : Prop :=
  number b r ks = (number b a ks + number b v ks) % b ^ ks.length ∧
    carryOut cout false ks =
      decide (b ^ ks.length ≤ number b a ks + number b v ks)

/-- The results are the difference in as many digits, and the last carry is
the borrow. -/
def Subtracts (b : Nat) (a v r : κ → Nat) (cout : κ → Bool) (ks : List κ) :
    Prop :=
  number b r ks =
      (number b a ks + b ^ ks.length - number b v ks) % b ^ ks.length ∧
    carryOut cout false ks = decide (number b a ks < number b v ks)

theorem ripple_add (hb : 1 < b) {ks : List κ}
    (hlink : Chained cin cout false ks) (hr : ∀ k ∈ ks, r k < b)
    (hdigit : ∀ k ∈ ks,
      a k + v k + (cin k).toNat = r k + b * (cout k).toNat) :
    Adds b a v r cout ks := by
  unfold Adds
  have hsum := ripple hlink hdigit
  have hlt := number_lt hb hr
  rw [Bool.toNat_false, Nat.add_zero] at hsum
  rw [hsum]
  cases carryOut cout false ks with
  | true =>
      rw [Bool.toNat_true, Nat.mul_one, Nat.add_mod_right,
        Nat.mod_eq_of_lt hlt]
      exact ⟨rfl, (decide_eq_true (Nat.le_add_left _ _)).symm⟩
  | false =>
      rw [Bool.toNat_false, Nat.mul_zero, Nat.add_zero, Nat.mod_eq_of_lt hlt]
      exact ⟨rfl, (decide_eq_false (Nat.not_le.2 hlt)).symm⟩

theorem ripple_sub (hb : 1 < b) {ks : List κ}
    (hlink : Chained cin cout false ks) (hr : ∀ k ∈ ks, r k < b)
    (ha : ∀ k ∈ ks, a k < b) (hv : ∀ k ∈ ks, v k < b)
    (hdigit : ∀ k ∈ ks,
      r k + v k + (cin k).toNat = a k + b * (cout k).toNat) :
    Subtracts b a v r cout ks := by
  unfold Subtracts
  have hsum := ripple hlink hdigit
  have hltr := number_lt hb hr
  have hlta := number_lt hb ha
  have hltv := number_lt hb hv
  rw [Bool.toNat_false, Nat.add_zero] at hsum
  generalize carryOut cout false ks = o at hsum ⊢
  cases o with
  | true =>
      rw [Bool.toNat_true, Nat.mul_one] at hsum
      rw [← hsum, Nat.add_sub_cancel, Nat.mod_eq_of_lt hltr]
      exact ⟨rfl, (decide_eq_true (by omega)).symm⟩
  | false =>
      rw [Bool.toNat_false, Nat.mul_zero, Nat.add_zero] at hsum
      have hsub : number b a ks + b ^ ks.length - number b v ks =
          number b r ks + b ^ ks.length := by omega
      rw [hsub, Nat.add_mod_right, Nat.mod_eq_of_lt hltr]
      exact ⟨rfl, (decide_eq_false (by omega)).symm⟩

end Prog
