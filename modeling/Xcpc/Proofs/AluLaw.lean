import Xcpc.Lib.Carry
import Xcpc.Proofs.RegularDecoding

/-!
# The operations on the accumulator

Eight operations have four macros each, one for every place their operand can
come from. Here is what an operation does to the numbers in the accumulator
and the operand, and whichever macro computes it, the accumulator and all the
flags are these.

The flags that the macros work out from bits of the result are questions about
the numbers: the half carry is that of the low digits, the overflow asks
whether the signed result fits.
-/

namespace Xcpc.Cpu

open Prog

variable {β : Type} {I : Interface β}

/-! ## The operations on numbers -/

/-- A flag register, from the highest bit. -/
def packed (s z y h x p n c : Bool) : Byte :=
  BitVec.ofBool s ++ BitVec.ofBool z ++ BitVec.ofBool y ++ BitVec.ofBool h ++
    BitVec.ofBool x ++ BitVec.ofBool p ++ BitVec.ofBool n ++ BitVec.ofBool c

namespace Alu

/-- The carry that an operation takes in. -/
def carryIn (op : Alu) (c : Bool) : Bool :=
  match op with
  | .adc | .sbc => c
  | _ => false

/-- The result before it is cut to a byte. -/
def value (op : Alu) (a v : Byte) (c : Bool) : Int :=
  match op with
  | .add | .adc => a.toNat + v.toNat + (op.carryIn c).toNat
  | .sub | .sbc | .cp => a.toNat - v.toNat - (op.carryIn c).toNat
  | .and => (a.toNat &&& v.toNat : Nat)
  | .xor => (a.toNat ^^^ v.toNat : Nat)
  | .or => (a.toNat ||| v.toNat : Nat)

def result (op : Alu) (a v : Byte) (c : Bool) : Byte :=
  BitVec.ofInt 8 (op.value a v c)

/-- The carry or borrow between the two digits. -/
def half (op : Alu) (a v : Byte) (c : Bool) : Bool :=
  match op with
  | .add | .adc =>
      decide (16 ≤ a.toNat % 16 + v.toNat % 16 + (op.carryIn c).toNat)
  | .sub | .sbc | .cp =>
      decide (a.toNat % 16 < v.toNat % 16 + (op.carryIn c).toNat)
  | .and => true
  | .xor | .or => false

/-- The signed result does not fit, or the parity of the result is even. -/
def overflow (op : Alu) (a v : Byte) (c : Bool) : Bool :=
  match op with
  | .add | .adc => !fits 8 (a.toInt + v.toInt + (op.carryIn c).toNat)
  | .sub | .sbc | .cp => !fits 8 (a.toInt - v.toInt - (op.carryIn c).toNat)
  | .and | .xor | .or => evenParity (op.result a v c)

def subtracts : Alu → Bool
  | .sub | .sbc | .cp => true
  | _ => false

/-- The new accumulator and the new flags. A comparison keeps the accumulator
and takes the undocumented bits from the operand. -/
def exact (op : Alu) (a v : Byte) (c : Bool) : Byte × Byte :=
  let r := op.result a v c
  let u := if op = .cp then v else r
  (if op = .cp then a else r,
    packed (decide (128 ≤ r.toNat)) (decide (r.toNat = 0)) (u.getLsbD 5)
      (op.half a v c) (u.getLsbD 3) (op.overflow a v c) op.subtracts
      (!fitsUnsigned 8 (op.value a v c)))

end Alu

/-! ## The flags -/

theorem packed_bits : ∀ s z y h x p n c : Bool,
    let f := packed s z y h x p n c
    f.getLsbD 7 = s ∧ f.getLsbD 6 = z ∧ f.getLsbD 5 = y ∧ f.getLsbD 4 = h ∧
      f.getLsbD 3 = x ∧ f.getLsbD 2 = p ∧ f.getLsbD 1 = n ∧
      f.getLsbD 0 = c := by
  decide

theorem packed_hf (s z y h x p n c : Bool) :
    (packed s z y h x p n c).getLsbD 4 = h := by
  obtain ⟨_, _, _, hf, _⟩ := packed_bits s z y h x p n c
  exact hf

theorem packed_nf (s z y h x p n c : Bool) :
    (packed s z y h x p n c).getLsbD 1 = n := by
  obtain ⟨_, _, _, _, _, _, hf, _⟩ := packed_bits s z y h x p n c
  exact hf

theorem packed_cf (s z y h x p n c : Bool) :
    (packed s z y h x p n c).getLsbD 0 = c := by
  obtain ⟨_, _, _, _, _, _, _, hf⟩ := packed_bits s z y h x p n c
  exact hf

theorem flags_packed (s z y h x p n c : Byte) :
    flags s z y h x p n c =
      packed (s.getLsbD 7) (z.getLsbD 6) (y.getLsbD 5) (h.getLsbD 4)
        (x.getLsbD 3) (p.getLsbD 2) (n.getLsbD 1) (c.getLsbD 0) := by
  obtain ⟨h7, h6, h5, h4, h3, h2, h1, h0⟩ := packed_bits (s.getLsbD 7)
    (z.getLsbD 6) (y.getLsbD 5) (h.getLsbD 4) (x.getLsbD 3) (p.getLsbD 2)
    (n.getLsbD 1) (c.getLsbD 0)
  apply BitVec.eq_of_getLsbD_eq
  intro i hi
  interval_cases i
  · rw [h0]
    simp [flags]
  · rw [h1]
    simp [flags]
  · rw [h2]
    simp [flags]
  · rw [h3]
    simp [flags]
  · rw [h4]
    simp [flags]
  · rw [h5]
    simp [flags]
  · rw [h6]
    simp [flags]
  · rw [h7]
    simp [flags]

/-- The undocumented bits of the table. -/
theorem pzs_yx (v : Byte) :
    (pzs v).getLsbD 5 = v.getLsbD 5 ∧ (pzs v).getLsbD 3 = v.getLsbD 3 := by
  revert v
  decide +kernel

theorem sel_bit (b : Bool) {i : Nat} (hi : i < 8) :
    (sel b).getLsbD i = b := by
  cases b with
  | true => interval_cases i <;> rfl
  | false => exact BitVec.getLsbD_zero

theorem msb_decide (r : Byte) : r.getLsbD 7 = decide (128 ≤ r.toNat) := by
  rw [show (7 : Nat) = 8 - 1 from rfl, ← BitVec.msb_eq_getLsbD_last,
    BitVec.msb_eq_decide]

theorem zero_decide (r : Byte) : (r == 0) = decide (r.toNat = 0) := by
  rw [Bool.eq_iff_iff]
  simp [BitVec.toNat_eq]

theorem carry_bit (f : Byte) : carry f = bit 16 (f.getLsbD 0) := by
  rw [carry, test_cf]
  cases f.getLsbD 0 with
  | true => rfl
  | false => rfl

theorem hi_cf (v : Word) : (hi v &&& CF).getLsbD 0 = v.getLsbD 8 := by
  simp [hi]

theorem test_sf (f : Byte) : test f SF = f.msb := by
  revert f
  decide

/-! ## Sums and differences -/

theorem lo_bit (c : Bool) : lo (bit 16 c) = bit 8 c := by
  cases c with
  | true => rfl
  | false => rfl

theorem lo_sum (a v : Byte) (c : Bool) :
    lo (zext a + zext v + bit 16 c) = a + v + bit 8 c := by
  rw [lo_add, lo_add, lo_zext, lo_zext, lo_bit]

theorem lo_difference (a v : Byte) (c : Bool) :
    lo (zext a - zext v - bit 16 c) = a - v - bit 8 c := by
  rw [lo_sub, lo_sub, lo_zext, lo_zext, lo_bit]

theorem ofInt_bit {w : Nat} (c : Bool) :
    BitVec.ofInt w (c.toNat : Int) = bit w c := by
  cases c with
  | true => simp
  | false => simp

theorem ofInt_sum {w : Nat} (a v : BitVec w) (c : Bool) :
    BitVec.ofInt w (a.toNat + v.toNat + c.toNat) = a + v + bit w c := by
  rw [BitVec.ofInt_add, BitVec.ofInt_add, ofInt_bit, BitVec.ofInt_natCast,
    BitVec.ofInt_natCast, BitVec.ofNat_toNat, BitVec.ofNat_toNat,
    BitVec.setWidth_eq, BitVec.setWidth_eq]

theorem ofInt_difference {w : Nat} (a v : BitVec w) (c : Bool) :
    BitVec.ofInt w (a.toNat - v.toNat - c.toNat) = a - v - bit w c := by
  rw [Int.sub_eq_add_neg, Int.sub_eq_add_neg, BitVec.ofInt_add,
    BitVec.ofInt_add, BitVec.ofInt_neg, BitVec.ofInt_neg, ofInt_bit,
    BitVec.ofInt_natCast, BitVec.ofInt_natCast, BitVec.ofNat_toNat,
    BitVec.ofNat_toNat, BitVec.setWidth_eq, BitVec.setWidth_eq,
    ← BitVec.sub_eq_add_neg, ← BitVec.sub_eq_add_neg]

theorem vfAdd_eq (r a v : Byte) :
    vfAdd r a v = (a.msb == v.msb && a.msb != r.msb) := by
  rw [vfAdd, test_sf]
  simp only [BitVec.msb_or, BitVec.msb_and, BitVec.msb_not]
  cases a.msb with
  | _ => cases v.msb with | _ => cases r.msb with | _ => rfl

theorem vfSub_eq (r a v : Byte) :
    vfSub r a v = (a.msb != v.msb && a.msb != r.msb) := by
  rw [vfSub, test_sf]
  simp only [BitVec.msb_or, BitVec.msb_and, BitVec.msb_not]
  cases a.msb with
  | _ => cases v.msb with | _ => cases r.msb with | _ => rfl

/-- The flags that are taken from the table, for the result and for the byte
the undocumented bits come from. -/
theorem flags_pzs (r u h p n c : Byte) {y x : Byte}
    (hy : y.getLsbD 5 = u.getLsbD 5) (hx : x.getLsbD 3 = u.getLsbD 3) :
    flags (pzs r) (pzs r) y h x p n c =
      packed (decide (128 ≤ r.toNat)) (decide (r.toNat = 0)) (u.getLsbD 5)
        (h.getLsbD 4) (u.getLsbD 3) (p.getLsbD 2) (n.getLsbD 1)
        (c.getLsbD 0) := by
  obtain ⟨hs, hz, _⟩ := pzs_bits r
  rw [flags_packed, hs, hz, hy, hx, msb_decide, zero_decide]

/-- The macro's flags of a sum. -/
theorem addFlags_eq (a v : Byte) (c : Bool) :
    let r := a + v + bit 8 c
    addFlags (zext a + zext v + bit 16 c) a v =
      packed (decide (128 ≤ r.toNat)) (decide (r.toNat = 0)) (r.getLsbD 5)
        (BitVec.carry 4 a v c) (r.getLsbD 3)
        (!fits 8 (a.toInt + v.toInt + c.toNat)) false
        (BitVec.carry 8 a v c) := by
  intro r
  obtain ⟨hy, hx⟩ := pzs_yx r
  simp only [addFlags, lo_sum]
  rw [flags_pzs _ _ _ _ _ _ hy hx, add_xor (by decide), sel_bit _ (by decide),
    vfAdd_eq, add_overflow (by decide), hi_cf, zext, zext,
    add_out (by decide)]
  rfl

theorem subFlags_eq (a v : Byte) (c : Bool) :
    let r := a - v - bit 8 c
    subFlags (zext a - zext v - bit 16 c) a v =
      packed (decide (128 ≤ r.toNat)) (decide (r.toNat = 0)) (r.getLsbD 5)
        (borrow 4 a v c) (r.getLsbD 3)
        (!fits 8 (a.toInt - v.toInt - c.toNat)) true (borrow 8 a v c) := by
  intro r
  obtain ⟨hy, hx⟩ := pzs_yx r
  simp only [subFlags, lo_difference]
  rw [flags_pzs _ _ _ _ _ _ hy hx, sub_xor (by decide), sel_bit _ (by decide),
    vfSub_eq, sub_overflow (by decide), hi_cf, zext, zext,
    sub_out (by decide)]
  rfl

theorem cpFlags_eq (a v : Byte) :
    let r := a - v - bit 8 false
    cpFlags (zext a - zext v - bit 16 false) a v =
      packed (decide (128 ≤ r.toNat)) (decide (r.toNat = 0)) (v.getLsbD 5)
        (borrow 4 a v false) (v.getLsbD 3)
        (!fits 8 (a.toInt - v.toInt - false.toNat)) true
        (borrow 8 a v false) := by
  intro r
  simp only [cpFlags, lo_difference]
  rw [flags_pzs _ _ _ _ _ _ rfl rfl, sub_xor (by decide),
    sel_bit _ (by decide), vfSub_eq, sub_overflow (by decide), hi_cf, zext,
    zext, sub_out (by decide)]
  rfl

theorem logicFlags_eq (r h : Byte) :
    logicFlags r h =
      packed (decide (128 ≤ r.toNat)) (decide (r.toNat = 0)) (r.getLsbD 5)
        (h.getLsbD 4) (r.getLsbD 3) (evenParity r) false false := by
  obtain ⟨hy, hx⟩ := pzs_yx r
  obtain ⟨_, _, hp⟩ := pzs_bits r
  simp only [logicFlags]
  rw [flags_pzs _ _ _ _ _ _ hy hx, hp]
  rfl

/-! ## The macros -/

theorem exact_sum (op : Alu) (h : op = .add ∨ op = .adc) (a v : Byte)
    (c : Bool) :
    let r0 := zext a + zext v + bit 16 (op.carryIn c)
    op.exact a v c = (lo r0, addFlags r0 a v) := by
  intro r0
  rw [lo_sum, addFlags_eq]
  rcases h with rfl | rfl
  · rw [carry_width_eq, ← ofInt_sum]
    rfl
  · rw [carry_width_eq, ← ofInt_sum]
    rfl

theorem exact_difference (op : Alu) (h : op = .sub ∨ op = .sbc) (a v : Byte)
    (c : Bool) :
    let r0 := zext a - zext v - bit 16 (op.carryIn c)
    op.exact a v c = (lo r0, subFlags r0 a v) := by
  intro r0
  rw [lo_difference, subFlags_eq]
  rcases h with rfl | rfl
  · rw [borrow_width_eq, ← ofInt_difference]
    rfl
  · rw [borrow_width_eq, ← ofInt_difference]
    rfl

/-- An operation on bits has its flags from its result. -/
theorem exact_logic (op : Alu) (h : op = .and ∨ op = .xor ∨ op = .or)
    (a v : Byte) (c : Bool) {r : Byte} (hr : op.value a v c = r.toNat) :
    op.exact a v c = (r, logicFlags r (sel (op.half a v c))) := by
  have hres : op.result a v c = r := by
    rw [Alu.result, hr, BitVec.ofInt_natCast, BitVec.ofNat_toNat,
      BitVec.setWidth_eq]
  have hrange : (!fitsUnsigned 8 (op.value a v c)) = false := by
    have hlt := r.isLt
    rw [hr]
    simp [fitsUnsigned]
    omega
  rw [logicFlags_eq, sel_bit _ (by decide), Alu.exact, hrange, ← hres]
  rcases h with rfl | rfl | rfl
  · rfl
  · rfl
  · rfl

/-- The macros compute the operations on numbers. -/
theorem apply_exact (op : Alu) (a v f : Byte) :
    (if op != .cp then (op.apply a v f).1 else a, (op.apply a v f).2) =
      op.exact a v (f.getLsbD 0) := by
  generalize hc : f.getLsbD 0 = c
  cases op with
  | add =>
      rw [exact_sum .add (.inl rfl), show Alu.add.carryIn c = false from rfl,
        bit_false, BitVec.add_zero]
      rfl
  | adc =>
      rw [exact_sum .adc (.inr rfl), Alu.carryIn, ← hc, ← carry_bit]
      rfl
  | sub =>
      rw [exact_difference .sub (.inl rfl),
        show Alu.sub.carryIn c = false from rfl, bit_false, BitVec.sub_zero]
      rfl
  | sbc =>
      rw [exact_difference .sbc (.inr rfl), Alu.carryIn, ← hc, ← carry_bit]
      rfl
  | and =>
      rw [exact_logic .and (.inl rfl) a v c
        (congrArg Int.ofNat (BitVec.toNat_and a v).symm)]
      rfl
  | xor =>
      rw [exact_logic .xor (.inr (.inl rfl)) a v c
        (congrArg Int.ofNat (BitVec.toNat_xor a v).symm)]
      rfl
  | or =>
      rw [exact_logic .or (.inr (.inr rfl)) a v c
        (congrArg Int.ofNat (BitVec.toNat_or a v).symm)]
      rfl
  | cp =>
      show (a, cpFlags (zext a - zext v) a v) = _
      rw [← BitVec.sub_zero (zext a - zext v), ← bit_false, cpFlags_eq,
        borrow_width_eq, ← ofInt_difference]
      rfl

/-! ## The forms -/

/-- The places an operand comes from: a register, the program, `(HL)`, and
`(IX+d)` or `(IY+d)`. -/
inductive Form where
  | register (r : R8)
  | immediate
  | indirect
  | indexed (r : R16)

namespace Form

/-- The micro-instruction of an operation with an operand. -/
def row (x : Form) (op : Alu) : Instr :=
  match x with
  | .register r => .aluR08R08 op .afH r
  | .immediate => .aluR08I08 op .afH
  | .indirect => .aluR08IndR16 op .afH .hlW
  | .indexed r => .aluR08IndR16PlusI08 op .afH r

/-- The operand, and the instance that has fetched it. -/
def operand (I : Interface β) (x : Form) (s : Instance β) :
    Byte × Instance β :=
  match x with
  | .register r => (s.regs.get8 r, s)
  | .immediate => fetchByte I s
  | .indirect => mreqRd I s.regs.hl.w s
  | .indexed r =>
      let d := fetchByte I s
      mreqRd I (d.2.regs.get16 r + sbyte d.1) d.2

end Form

/-- An instance with another accumulator and other flags. -/
def Instance.setAf (s : Instance β) (r : Byte × Byte) : Instance β :=
  { s with regs := { s.regs with af := ⟨r.1, r.2⟩ } }

/-- Fetching an operand changes neither the accumulator nor the flags. -/
theorem operand_af (x : Form) (s : Instance β) :
    (x.operand I s).2.regs.af = s.regs.af := by
  cases x with
  | _ => rfl

theorem exec_form (x : Form) (op : Alu) (opP wz : Word) (s : Instance β) :
    exec I opP wz (x.row op) s =
      aluAcc op s.regs.af.h (x.operand I s).1 (x.operand I s).2 := by
  unfold Form.row Form.operand
  cases x with
  | register r =>
      rw [exec, bind_apply, bind_apply]
      simp only [reads, Regs.get8]
  | immediate =>
      rw [exec, bind_apply, bind_apply]
      simp only [reads, Regs.get8]
  | indirect =>
      rw [exec, bind_apply, bind_apply, bind_apply]
      simp only [reads, Regs.get8, Regs.get16]
  | indexed r =>
      rw [exec, bind_apply, bind_apply, bind_apply, fetchIndexed, bind_apply,
        bind_apply]
      simp only [reads, Regs.get8]
      rfl

theorem aluAcc_exact (op : Alu) (v : Byte) (s : Instance β) :
    (aluAcc op s.regs.af.h v s).2 =
      s.setAf (op.exact s.regs.af.h v (s.regs.af.l.getLsbD 0)) := by
  rw [aluAcc_run, ← apply_exact]
  rfl

/-- The micro-instruction of any form. -/
theorem exec_exact (x : Form) (op : Alu) (opP wz : Word) (s : Instance β) :
    (exec I opP wz (x.row op) s).2 =
      (x.operand I s).2.setAf
        (op.exact s.regs.af.h (x.operand I s).1 (s.regs.af.l.getLsbD 0)) := by
  rw [exec_form, ← operand_af (I := I) x s]
  exact aluAcc_exact _ _ _

/-! ## The rows -/

/-- The number of an operation in the rows of the tables. -/
def Alu.column : Alu → Nat
  | .add => 0
  | .adc => 1
  | .sub => 2
  | .sbc => 3
  | .and => 4
  | .xor => 5
  | .or => 6
  | .cp => 7

/-- Where the forms are coded: the page and the opcode of the addition. -/
def places : List (Form × Page × Nat) :=
  [(.register .bcH, .main, 0x80), (.register .bcL, .main, 0x81),
    (.register .deH, .main, 0x82), (.register .deL, .main, 0x83),
    (.register .hlH, .main, 0x84), (.register .hlL, .main, 0x85),
    (.indirect, .main, 0x86), (.register .afH, .main, 0x87),
    (.immediate, .main, 0xc6),
    (.register .ixH, .dd, 0x84), (.register .ixL, .dd, 0x85),
    (.indexed .ixW, .dd, 0x86),
    (.register .iyH, .fd, 0x84), (.register .iyL, .fd, 0x85),
    (.indexed .iyW, .fd, 0x86)]

/-- The opcode of an operation, from that of the addition. -/
def Alu.code (op : Alu) (n : Nat) : Byte := BitVec.ofNat 8 (n + 8 * op.column)

theorem places_rows (op : Alu) : ∀ q ∈ places,
    (q.2.1.entry (op.code q.2.2)).micro = q.1.row op := by
  cases op with
  | _ => decide +kernel

/-- The whole instruction, in every form of every operation. -/
theorem instruction_exact {x : Form} {p : Page} {n : Nat}
    (hx : (x, p, n) ∈ places) (op : Alu) {s : Instance β} (hs : Fetching s)
    (hd : p.Decodes I (op.code n) s) :
    let t := x.operand I (p.fetched I s).calm
    Same (instruction I s)
      (t.2.setAf (op.exact s.regs.af.h t.1 (s.regs.af.l.getLsbD 0))) := by
  intro t
  have h := instruction_decodes hs hd
  obtain ⟨pc, l, hregs⟩ := fetched_regs (I := I) p s
  have haf : (p.fetched I s).calm.regs.af = s.regs.af := by
    show (p.fetched I s).regs.af = _
    rw [hregs]
  rw [places_rows op _ hx, exec_exact, haf] at h
  exact h

/-- The undocumented bits are the bits 5 and 3. -/
theorem packed_undocumented (s z y y' h x x' p n c : Bool) {i : Nat}
    (hi : i < 8) (h3 : i ≠ 3) (h5 : i ≠ 5) :
    (packed s z y h x p n c).getLsbD i =
      (packed s z y' h x' p n c).getLsbD i := by
  obtain ⟨a7, a6, _, a4, _, a2, a1, a0⟩ := packed_bits s z y h x p n c
  obtain ⟨b7, b6, _, b4, _, b2, b1, b0⟩ := packed_bits s z y' h x' p n c
  interval_cases i
  · exact a0.trans b0.symm
  · exact a1.trans b1.symm
  · exact a2.trans b2.symm
  · exact absurd rfl h3
  · exact a4.trans b4.symm
  · exact absurd rfl h5
  · exact a6.trans b6.symm
  · exact a7.trans b7.symm

/-- A comparison is a subtraction that keeps the accumulator. -/
theorem cp_flags (a v : Byte) (c : Bool) {i : Nat} (hi : i < 8) (h3 : i ≠ 3)
    (h5 : i ≠ 5) :
    (Alu.cp.exact a v c).2.getLsbD i = (Alu.sub.exact a v c).2.getLsbD i :=
  packed_undocumented _ _ _ _ _ _ _ _ _ _ hi h3 h5

/-- In every form of every operation the new accumulator and the new flags
are those of the operation on the numbers, and a comparison differs from a
subtraction in the accumulator and the undocumented bits. -/
theorem operand_forms :
    (∀ x p n, (x, p, n) ∈ places → ∀ (op : Alu) (s : Instance β),
      Fetching s → p.Decodes I (op.code n) s →
        let t := x.operand I (p.fetched I s).calm
        Same (instruction I s)
          (t.2.setAf
            (op.exact s.regs.af.h t.1 (s.regs.af.l.getLsbD 0)))) ∧
      ∀ (a v : Byte) (c : Bool), (Alu.cp.exact a v c).1 = a ∧
        ∀ i < 8, i ≠ 3 → i ≠ 5 →
          (Alu.cp.exact a v c).2.getLsbD i =
            (Alu.sub.exact a v c).2.getLsbD i :=
  ⟨fun _ _ _ hx op _ hs hd => instruction_exact hx op hs hd,
    fun a v c => ⟨rfl, fun _ hi h3 h5 => cp_flags a v c hi h3 h5⟩⟩

/-- `sub 5` from an accumulator of three. -/
theorem operand_forms_sub_n :
    let s := { Instance.reset (program [0xd6, 0x05]) with
      regs := { Regs.zero with af := ⟨0x03, 0x00⟩ } }
    let t := Form.immediate.operand .ram (Page.main.fetched .ram s).calm
    Same (instruction .ram s)
        (t.2.setAf (Alu.sub.exact 0x03 t.1 false)) ∧
      Alu.sub.exact 0x03 t.1 false = (0xfe, 0xbb) :=
  ⟨operand_forms.1 .immediate .main 0xc6 (by simp [places]) .sub _
      ⟨rfl, rfl, rfl⟩ ⟨⟨rfl, trivial⟩, rfl⟩, by decide +kernel⟩

end Xcpc.Cpu
