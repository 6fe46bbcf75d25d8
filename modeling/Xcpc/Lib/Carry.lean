import Mathlib

/-!
# Carries and borrows

An adder keeps the carry out of its highest place, the carry out of some place
below, and whether the signed sum fits. A program that has no adder works them
out from the operands and the result: the carry into a place is where the
result differs from the sum without carries, and the signed sum does not fit
if the sign of the result is neither operand's.

Here these are the questions they answer about the numbers, at any width and
with a carry or borrow in.
-/

namespace Prog

variable {w : Nat}

/-- A carry as a word. -/
def bit (w : Nat) (c : Bool) : BitVec w := (BitVec.ofBool c).setWidth w

/-- The borrow into place `i` of `x - y - c`. -/
def borrow (i : Nat) (x y : BitVec w) (c : Bool) : Bool :=
  decide (x.toNat % 2 ^ i < y.toNat % 2 ^ i + c.toNat)

/-- The number has a two's complement of `w` bits. -/
def fits (w : Nat) (z : Int) : Bool :=
  decide (-2 ^ (w - 1) ≤ z) && decide (z < 2 ^ (w - 1))

/-- The number is one of `w` bits. -/
def fitsUnsigned (w : Nat) (z : Int) : Bool :=
  decide (0 ≤ z) && decide (z < 2 ^ w)

/-- A place is tested with the mask of that place alone. -/
theorem mask_ne_zero {i : Nat} (hi : i < w) (x : BitVec w) :
    (x &&& BitVec.twoPow w i != 0#w) = x.getLsbD i := by
  have hne : BitVec.twoPow w i ≠ 0#w := fun h => by
    have hbit := congrArg (·.getLsbD i) h
    simp [hi] at hbit
  rw [BitVec.and_twoPow]
  cases x.getLsbD i with
  | true => simpa using hne
  | false => simp

@[simp] theorem bit_false : bit w false = 0#w := by
  simp [bit]

@[simp] theorem bit_true : bit w true = 1#w := by
  apply BitVec.eq_of_toNat_eq
  simp [bit]

theorem bit_toNat (hw : 0 < w) (c : Bool) : (bit w c).toNat = c.toNat := by
  have h : c.toNat < 2 ^ w :=
    lt_of_le_of_lt (Bool.toNat_le c) (Nat.one_lt_two_pow hw.ne')
  rw [bit, BitVec.toNat_setWidth, BitVec.toNat_ofBool, Nat.mod_eq_of_lt h]

theorem add_toNat (hw : 0 < w) (x y : BitVec w) (c : Bool) :
    (x + y + bit w c).toNat = (x.toNat + y.toNat + c.toNat) % 2 ^ w := by
  rw [BitVec.toNat_add, BitVec.toNat_add, bit_toNat hw, Nat.mod_add_mod]

/-- A difference is the sum with the complement. -/
theorem sub_eq_add (x y : BitVec w) (c : Bool) :
    x - y - bit w c = x + ~~~y + bit w (!c) := by
  rw [BitVec.sub_eq_add_neg x y, BitVec.neg_eq_not_add y, ← BitVec.add_assoc]
  cases c with
  | true =>
      rw [Bool.not_true, bit_false, bit_true]
      exact (BitVec.add_sub_cancel _ _).trans (BitVec.add_zero _).symm
  | false =>
      rw [Bool.not_false, bit_false, bit_true]
      exact BitVec.sub_zero _

theorem not_mod {i : Nat} (hi : i ≤ w) (y : BitVec w) :
    (~~~y).toNat % 2 ^ i = 2 ^ i - 1 - y.toNat % 2 ^ i := by
  rw [← BitVec.toNat_setWidth, ← BitVec.toNat_setWidth,
    BitVec.setWidth_not hi, BitVec.toNat_not]

/-- A borrow is where the sum with the complement has no carry. -/
theorem carry_not {i : Nat} (hi : i ≤ w) (x y : BitVec w) (c : Bool) :
    BitVec.carry i x (~~~y) (!c) = !borrow i x y c := by
  have hy := Nat.mod_lt y.toNat (Nat.two_pow_pos i)
  unfold BitVec.carry borrow
  rw [not_mod hi, ← decide_not, decide_eq_decide]
  cases c with
  | true =>
      rw [Bool.not_true, Bool.toNat_false, Bool.toNat_true]
      omega
  | false =>
      rw [Bool.not_false, Bool.toNat_false, Bool.toNat_true]
      omega

theorem sub_bit {i : Nat} (hi : i < w) (x y : BitVec w) (c : Bool) :
    (x - y - bit w c).getLsbD i =
      (x.getLsbD i ^^ (y.getLsbD i ^^ borrow i x y c)) := by
  rw [sub_eq_add, bit, BitVec.getLsbD_add_add_bool hi, carry_not hi.le,
    BitVec.getLsbD_not, decide_eq_true hi]
  grind

theorem add_xor {i : Nat} (hi : i < w) (x y : BitVec w) (c : Bool) :
    ((x + y + bit w c) ^^^ x ^^^ y).getLsbD i = BitVec.carry i x y c := by
  rw [BitVec.getLsbD_xor, BitVec.getLsbD_xor, bit,
    BitVec.getLsbD_add_add_bool hi]
  grind

theorem sub_xor {i : Nat} (hi : i < w) (x y : BitVec w) (c : Bool) :
    ((x - y - bit w c) ^^^ x ^^^ y).getLsbD i = borrow i x y c := by
  rw [BitVec.getLsbD_xor, BitVec.getLsbD_xor, sub_bit hi]
  grind

variable {v : Nat}

/-- A sum in more places has the carry in the place above. -/
theorem add_out (h : w < v) (x y : BitVec w) (c : Bool) :
    (x.setWidth v + y.setWidth v + bit v c).getLsbD w =
      BitVec.carry w x y c := by
  have hx := BitVec.toNat_setWidth_of_le h.le (b := x)
  have hy := BitVec.toNat_setWidth_of_le h.le (b := y)
  rw [bit, BitVec.getLsbD_add_add_bool h]
  unfold BitVec.carry
  rw [hx, hy, BitVec.getLsbD_setWidth, BitVec.getLsbD_setWidth,
    BitVec.getLsbD_of_ge x w le_rfl, BitVec.getLsbD_of_ge y w le_rfl]
  simp

theorem sub_out (h : w < v) (x y : BitVec w) (c : Bool) :
    (x.setWidth v - y.setWidth v - bit v c).getLsbD w = borrow w x y c := by
  have hx := BitVec.toNat_setWidth_of_le h.le (b := x)
  have hy := BitVec.toNat_setWidth_of_le h.le (b := y)
  rw [sub_bit h]
  unfold borrow
  rw [hx, hy, BitVec.getLsbD_setWidth, BitVec.getLsbD_setWidth,
    BitVec.getLsbD_of_ge x w le_rfl, BitVec.getLsbD_of_ge y w le_rfl]
  simp

/-- A sum carries out if it is too large for its places. -/
theorem carry_width_eq (x y : BitVec w) (c : Bool) :
    BitVec.carry w x y c =
      !fitsUnsigned w (x.toNat + y.toNat + c.toNat) := by
  have hP : (2 : Int) ^ w = ((2 ^ w : Nat) : Int) := by push_cast; rfl
  unfold fitsUnsigned
  rw [BitVec.carry_width, Bool.eq_iff_iff, hP]
  simp
  omega

/-- A difference borrows if it is negative. -/
theorem borrow_width_eq (x y : BitVec w) (c : Bool) :
    borrow w x y c = !fitsUnsigned w (x.toNat - y.toNat - c.toNat) := by
  have hx := x.isLt
  have hy := y.isLt
  have hP : (2 : Int) ^ w = ((2 ^ w : Nat) : Int) := by push_cast; rfl
  unfold fitsUnsigned borrow
  rw [Nat.mod_eq_of_lt hx, Nat.mod_eq_of_lt hy, Bool.eq_iff_iff, hP]
  generalize 2 ^ w = P at *
  simp
  omega

/-! ## Overflow -/

theorem toInt_eq (x : BitVec w) :
    x.toInt = if x.msb then (x.toNat : Int) - 2 ^ w else x.toNat := by
  rw [BitVec.toInt_eq_msb_cond]
  push_cast
  rfl

/-- The sum of two numbers below `2 * P` and a carry, less at most one
`2 * P`. -/
theorem mod_cases {P s : Nat} (h : s < 2 * (2 * P)) :
    s < 2 * P ∧ s % (2 * P) = s ∨
      2 * P ≤ s ∧ s % (2 * P) = s - 2 * P := by
  rcases Nat.lt_or_ge s (2 * P) with hlt | hge
  · exact .inl ⟨hlt, Nat.mod_eq_of_lt hlt⟩
  · refine .inr ⟨hge, ?_⟩
    rw [Nat.mod_eq_sub_mod hge, Nat.mod_eq_of_lt (by omega)]

/-- The sign is that of neither operand if the signed sum does not fit. -/
theorem add_overflow (hw : 0 < w) (x y : BitVec w) (c : Bool) :
    (x.msb == y.msb && x.msb != (x + y + bit w c).msb) =
      !fits w (x.toInt + y.toInt + c.toNat) := by
  have hr := add_toNat hw x y c
  have hx := x.isLt
  have hy := y.isLt
  have hc := Bool.toNat_le c
  rw [toInt_eq, toInt_eq, BitVec.msb_eq_decide x, BitVec.msb_eq_decide y,
    BitVec.msb_eq_decide (_ + _), hr]
  unfold fits
  obtain ⟨n, rfl⟩ : ∃ n, w = n + 1 := ⟨w - 1, by omega⟩
  simp only [Nat.add_sub_cancel, pow_succ'] at *
  have hP : ((2 : Int) ^ n) = ((2 ^ n : Nat) : Int) := by push_cast; rfl
  rw [hP]
  generalize 2 ^ n = P at *
  generalize x.toNat = a at *
  generalize y.toNat = b at *
  generalize c.toNat = k at *
  have hm := mod_cases (P := P) (s := a + b + k) (by omega)
  generalize (a + b + k) % (2 * P) = m at *
  by_cases ha : P ≤ a
  · by_cases hb : P ≤ b
    · simp [ha, hb]
      grind
    · simp [ha, hb]
      grind
  · by_cases hb : P ≤ b
    · simp [ha, hb]
      grind
    · simp [ha, hb]
      grind

theorem not_toInt (hw : 0 < w) (y : BitVec w) :
    (~~~y).toInt = -y.toInt - 1 := by
  have hy := y.isLt
  have hP : (2 : Int) ^ w = ((2 ^ w : Nat) : Int) := by push_cast; rfl
  rw [toInt_eq, toInt_eq, BitVec.msb_not, decide_eq_true hw, BitVec.toNat_not,
    hP]
  generalize 2 ^ w = P at *
  cases y.msb with
  | true =>
      simp
      omega
  | false =>
      simp
      omega

theorem sub_overflow (hw : 0 < w) (x y : BitVec w) (c : Bool) :
    (x.msb != y.msb && x.msb != (x - y - bit w c).msb) =
      !fits w (x.toInt - y.toInt - c.toNat) := by
  have h := add_overflow hw x (~~~y) (!c)
  have hz : x.toInt + (~~~y).toInt + (!c).toNat =
      x.toInt - y.toInt - c.toNat := by
    rw [not_toInt hw]
    cases c with
    | true =>
        rw [Bool.not_true, Bool.toNat_false, Bool.toNat_true]
        omega
    | false =>
        rw [Bool.not_false, Bool.toNat_false, Bool.toNat_true]
        omega
  rw [← sub_eq_add, BitVec.msb_not, decide_eq_true hw, hz] at h
  rw [← h]
  cases x.msb with
  | true => cases y.msb with | _ => rfl
  | false => cases y.msb with | _ => rfl

end Prog
