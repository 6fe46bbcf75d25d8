import Xcpc.Proofs.AluLaw

/-!
# The operations on words

`add`, `adc` and `sbc` of two words, stated on the numbers like the operations
on the accumulator. The half carry is that of the upper byte, out of bit 11.
An addition keeps the sign, zero and parity flags; the other two set them from
the word.

The macros copy both operands before they write the first, and so nothing
changes when the two are one register.
-/

namespace Xcpc.Cpu

open Prog

variable {β : Type} {I : Interface β}

/-- The three operations on words. -/
inductive Wide where
  | add | adc | sbc
deriving DecidableEq, Repr

namespace Wide

/-! ## The operations on numbers -/

def carryIn (op : Wide) (c : Bool) : Bool :=
  match op with
  | .add => false
  | .adc | .sbc => c

/-- The result before it is cut to a word. -/
def value (op : Wide) (a v : Word) (c : Bool) : Int :=
  match op with
  | .add | .adc => a.toNat + v.toNat + (op.carryIn c).toNat
  | .sbc => a.toNat - v.toNat - (op.carryIn c).toNat

def result (op : Wide) (a v : Word) (c : Bool) : Word :=
  BitVec.ofInt 16 (op.value a v c)

/-- The carry or borrow out of bit 11. -/
def half (op : Wide) (a v : Word) (c : Bool) : Bool :=
  match op with
  | .add | .adc =>
      decide (4096 ≤ a.toNat % 4096 + v.toNat % 4096 + (op.carryIn c).toNat)
  | .sbc => decide (a.toNat % 4096 < v.toNat % 4096 + (op.carryIn c).toNat)

/-- The signed result does not fit. -/
def overflow (op : Wide) (a v : Word) (c : Bool) : Bool :=
  match op with
  | .add | .adc => !fits 16 (a.toInt + v.toInt + (op.carryIn c).toNat)
  | .sbc => !fits 16 (a.toInt - v.toInt - (op.carryIn c).toNat)

/-- The new word and the new flags, from the old flags. The undocumented bits
are those of the upper byte. -/
def exact (op : Wide) (a v : Word) (f : Byte) : Word × Byte :=
  let c := f.getLsbD 0
  let r := op.result a v c
  let kept := decide (op = .add)
  (r,
    packed (if kept then f.getLsbD 7 else decide (32768 ≤ r.toNat))
      (if kept then f.getLsbD 6 else decide (r.toNat = 0)) (r.getLsbD 13)
      (op.half a v c) (r.getLsbD 11)
      (if kept then f.getLsbD 2 else op.overflow a v c) (decide (op = .sbc))
      (!fitsUnsigned 16 (op.value a v c)))

/-- What the macro computes. -/
def apply (op : Wide) : Word → Word → Byte → Word × Byte :=
  match op with
  | .add => add16
  | .adc => adc16
  | .sbc => sbc16

def row (op : Wide) (reg1 reg2 : R16) : Instr :=
  match op with
  | .add => .addR16R16 reg1 reg2
  | .adc => .adcR16R16 reg1 reg2
  | .sbc => .sbcR16R16 reg1 reg2

end Wide

/-! ## The flags -/

theorem hi_bit (v : Word) {i : Nat} (h : i < 8) :
    (hi v).getLsbD i = v.getLsbD (8 + i) := by
  simp [hi, h]

theorem word_sf (v : Word) :
    (hi v).getLsbD 7 = decide (32768 ≤ v.toNat) := by
  rw [hi_bit v (by decide), show 8 + 7 = 16 - 1 from rfl,
    ← BitVec.msb_eq_getLsbD_last, BitVec.msb_eq_decide]

theorem word_zf (v : Word) : (v == 0) = decide (v.toNat = 0) := by
  rw [Bool.eq_iff_iff]
  simp [BitVec.toNat_eq]

theorem hf16_add (a v : Word) (c : Bool) :
    hf16 (a + v + bit 16 c) a v = BitVec.carry 12 a v c :=
  (mask_ne_zero (show 12 < 16 by decide) _).trans (add_xor (by decide) a v c)

theorem hf16_sub (a v : Word) (c : Bool) :
    hf16 (a - v - bit 16 c) a v = borrow 12 a v c :=
  (mask_ne_zero (show 12 < 16 by decide) _).trans (sub_xor (by decide) a v c)

theorem slong_bit (c : Bool) : slong (bit 16 c) = bit 32 c := by
  cases c with
  | true => rfl
  | false => rfl

theorem bit16_add (a v : Word) (c : Bool) :
    bit16 (slong a + slong v + slong (bit 16 c)) = BitVec.carry 16 a v c := by
  rw [slong_bit]
  exact (mask_ne_zero (by decide) _).trans (add_out (by decide) a v c)

theorem bit16_sub (a v : Word) (c : Bool) :
    bit16 (slong a - slong v - slong (bit 16 c)) = borrow 16 a v c := by
  rw [slong_bit]
  exact (mask_ne_zero (by decide) _).trans (sub_out (by decide) a v c)

/-- The sign of a word, by its mask. -/
theorem mask_msb (v : Word) : (v &&& 0x8000 != 0) = v.msb := by
  rw [BitVec.msb_eq_getLsbD_last]
  exact mask_ne_zero (show 15 < 16 by decide) v

theorem vf16_add (a v : Word) (c : Bool) :
    (~~~(a ^^^ v) &&& (v ^^^ (a + v + bit 16 c)) &&& 0x8000 != 0) =
      !fits 16 (a.toInt + v.toInt + c.toNat) := by
  rw [← add_overflow (by decide), mask_msb]
  simp only [BitVec.msb_and, BitVec.msb_not, BitVec.msb_xor]
  generalize (a + v + bit 16 c).msb = r
  cases a.msb with
  | _ => cases v.msb with | _ => cases r with | _ => rfl

theorem vf16_sub (a v : Word) (c : Bool) :
    ((a ^^^ v) &&& (a ^^^ (a - v - bit 16 c)) &&& 0x8000 != 0) =
      !fits 16 (a.toInt - v.toInt - c.toNat) := by
  rw [← sub_overflow (by decide), mask_msb]
  simp only [BitVec.msb_and, BitVec.msb_xor]

theorem add16_exact (a v : Word) (f : Byte) :
    add16 a v f = Wide.add.exact a v f := by
  have hsum : a + v = a + v + bit 16 false := by
    rw [bit_false, BitVec.add_zero]
  have hlong : slong a + slong v =
      slong a + slong v + slong (bit 16 false) := by
    rw [slong_bit, bit_false, BitVec.add_zero]
  simp only [add16]
  rw [hlong, bit16_add, hsum, hf16_add, flags_packed, sel_bit _ (by decide),
    sel_bit _ (by decide), hi_bit _ (by decide), hi_bit _ (by decide),
    carry_width_eq, ← ofInt_sum]
  rfl

theorem adc16_exact (a v : Word) (f : Byte) :
    adc16 a v f = Wide.adc.exact a v f := by
  simp only [adc16]
  rw [carry_bit, bit16_add, hf16_add, vf16_add, flags_packed,
    sel_bit _ (by decide), sel_bit _ (by decide), sel_bit _ (by decide),
    sel_bit _ (by decide), word_sf, word_zf, hi_bit _ (by decide),
    hi_bit _ (by decide), carry_width_eq, ← ofInt_sum]
  rfl

theorem sbc16_exact (a v : Word) (f : Byte) :
    sbc16 a v f = Wide.sbc.exact a v f := by
  simp only [sbc16]
  rw [carry_bit, bit16_sub, hf16_sub, vf16_sub, flags_packed,
    sel_bit _ (by decide), sel_bit _ (by decide), sel_bit _ (by decide),
    sel_bit _ (by decide), word_sf, word_zf, hi_bit _ (by decide),
    hi_bit _ (by decide), borrow_width_eq, ← ofInt_difference]
  rfl

theorem Wide.apply_exact (op : Wide) (a v : Word) (f : Byte) :
    op.apply a v f = op.exact a v f := by
  cases op with
  | add => exact add16_exact a v f
  | adc => exact adc16_exact a v f
  | sbc => exact sbc16_exact a v f

/-- What the micro-instructions do to the registers. -/
theorem exec_wide (op : Wide) (reg1 reg2 : R16) (opP wz : Word)
    (s : Instance β) :
    (exec I opP wz (op.row reg1 reg2) s).2 =
      let r := op.apply (s.regs.get16 reg1) (s.regs.get16 reg2) s.regs.af.l
      { s with regs := (s.regs.setF r.2).set16 reg1 r.1 } := by
  cases op with
  | _ => rfl

/-! ## The rows -/

/-- The instructions on words: the operation, its operands, the page and the
opcode. -/
def widePlaces : List (Wide × R16 × R16 × Page × Byte) :=
  [(.add, .hlW, .bcW, .main, 0x09), (.add, .hlW, .deW, .main, 0x19),
    (.add, .hlW, .hlW, .main, 0x29), (.add, .hlW, .spW, .main, 0x39),
    (.add, .ixW, .bcW, .dd, 0x09), (.add, .ixW, .deW, .dd, 0x19),
    (.add, .ixW, .ixW, .dd, 0x29), (.add, .ixW, .spW, .dd, 0x39),
    (.add, .iyW, .bcW, .fd, 0x09), (.add, .iyW, .deW, .fd, 0x19),
    (.add, .iyW, .iyW, .fd, 0x29), (.add, .iyW, .spW, .fd, 0x39),
    (.adc, .hlW, .bcW, .ed, 0x4a), (.adc, .hlW, .deW, .ed, 0x5a),
    (.adc, .hlW, .hlW, .ed, 0x6a), (.adc, .hlW, .spW, .ed, 0x7a),
    (.sbc, .hlW, .bcW, .ed, 0x42), (.sbc, .hlW, .deW, .ed, 0x52),
    (.sbc, .hlW, .hlW, .ed, 0x62), (.sbc, .hlW, .spW, .ed, 0x72)]

theorem widePlaces_rows : ∀ q ∈ widePlaces,
    (q.2.2.2.1.entry q.2.2.2.2).micro = q.1.row q.2.1 q.2.2.1 := by
  decide +kernel

/-- Every instruction on words leaves the word and the flags that the
operation on the numbers gives, and every other register as it was. -/
theorem word_arithmetic (op : Wide) (reg1 reg2 : R16) (p : Page) (code : Byte)
    (hq : (op, reg1, reg2, p, code) ∈ widePlaces) {s : Instance β}
    (hs : Fetching s) (hd : p.Decodes I code s) :
    let b := (p.fetched I s).calm
    let r := op.exact (s.regs.get16 reg1) (s.regs.get16 reg2) s.regs.af.l
    Same (instruction I s)
      { b with regs := (b.regs.setF r.2).set16 reg1 r.1 } := by
  intro b r
  have h := instruction_decodes hs hd
  obtain ⟨pc, l, hregs⟩ := fetched_regs (I := I) p s
  have hget (reg : R16) : b.regs.get16 reg = s.regs.get16 reg := by
    show (p.fetched I s).regs.get16 reg = _
    rw [hregs]
    cases reg with
    | _ => rfl
  have haf : b.regs.af = s.regs.af := by
    show (p.fetched I s).regs.af = _
    rw [hregs]
  rw [widePlaces_rows _ hq, exec_wide, Wide.apply_exact] at h
  rw [show (p.fetched I s).calm = b from rfl, hget, hget, haf] at h
  exact h

/-- `sbc hl,hl` with the carry set. -/
theorem word_arithmetic_sbc_hl_hl :
    let s := { Instance.reset (program [0xed, 0x62]) with
      regs := { Regs.zero with af := ⟨0x00, 0x01⟩, hl := ⟨0x12, 0x34⟩ } }
    let b := (Page.ed.fetched .ram s).calm
    let r := Wide.sbc.exact 0x1234 0x1234 0x01
    Same (instruction .ram s)
        { b with regs := (b.regs.setF r.2).set16 .hlW r.1 } ∧
      r = (0xffff, 0xbb) :=
  ⟨word_arithmetic .sbc .hlW .hlW .ed 0x62 (by simp [widePlaces])
      ⟨rfl, rfl, rfl⟩ ⟨⟨by decide, by decide, trivial⟩, rfl⟩,
    by decide +kernel⟩

end Xcpc.Cpu
