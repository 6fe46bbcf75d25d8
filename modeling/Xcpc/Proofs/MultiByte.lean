import Xcpc.Lib.Ripple
import Xcpc.Proofs.AluLaw

/-!
# Arithmetic on numbers of several bytes

A program adds long numbers a byte at a time with `adc`, and in packed decimal
with `daa` after each `adc`. Whatever else it does in between, all that one
byte hands on to the next is the carry flag.

One byte is a digit, in base 256 or in base 100, and it is exact with the
carry it takes and the carry it gives. The rest is the ripple of the carry.
-/

namespace Xcpc.Cpu

open Prog

variable {β : Type} {I : Interface β}

/-! ## One byte -/

/-- The carry flag. -/
def Instance.cf (s : Instance β) : Bool := s.regs.af.l.getLsbD 0

theorem acc_cf {s : Instance β} {q : Byte × Byte}
    (h : s.regs.af = ⟨q.1, q.2⟩) :
    s.regs.af.h = q.1 ∧ s.cf = q.2.getLsbD 0 := by
  rw [Instance.cf, h]
  exact ⟨rfl, rfl⟩

theorem exact_hf (op : Alu) (a v : Byte) (c : Bool) :
    (op.exact a v c).2.getLsbD 4 = op.half a v c :=
  packed_hf _ _ _ _ _ _ _ _

theorem exact_nf (op : Alu) (a v : Byte) (c : Bool) :
    (op.exact a v c).2.getLsbD 1 = op.subtracts :=
  packed_nf _ _ _ _ _ _ _ _

theorem exact_cf (op : Alu) (a v : Byte) (c : Bool) :
    (op.exact a v c).2.getLsbD 0 = !fitsUnsigned 8 (op.value a v c) :=
  packed_cf _ _ _ _ _ _ _ _

theorem adc_toNat (a v : Byte) (c : Bool) :
    (Alu.adc.exact a v c).1.toNat = (a.toNat + v.toNat + c.toNat) % 256 :=
  (congrArg BitVec.toNat (ofInt_sum a v c)).trans
    (add_toNat (by decide) a v c)

theorem adc_cf (a v : Byte) (c : Bool) :
    (Alu.adc.exact a v c).2.getLsbD 0 =
      decide (256 ≤ a.toNat + v.toNat + c.toNat) :=
  ((exact_cf .adc a v c).trans (carry_width_eq a v c).symm).trans
    BitVec.carry_width

theorem sbc_toNat (a v : Byte) (c : Bool) :
    (Alu.sbc.exact a v c).1.toNat =
      (a.toNat + 512 - v.toNat - c.toNat) % 256 := by
  have ha := a.isLt
  have hv := v.isLt
  have hc := Bool.toNat_le c
  have hr : (Alu.sbc.exact a v c).1.toNat =
      ((a.toNat - v.toNat - c.toNat : Int) % 256).toNat :=
    BitVec.toNat_ofInt _
  omega

theorem sbc_cf (a v : Byte) (c : Bool) :
    (Alu.sbc.exact a v c).2.getLsbD 0 =
      decide (a.toNat < v.toNat + c.toNat) := by
  have ha := a.isLt
  have hv := v.isLt
  have h : (Alu.sbc.exact a v c).2.getLsbD 0 = borrow 8 a v c :=
    (exact_cf .sbc a v c).trans (borrow_width_eq a v c).symm
  rw [h, borrow, Nat.mod_eq_of_lt ha, Nat.mod_eq_of_lt hv]

/-- `adc` is a digit of a sum in base 256. -/
theorem adc_digit (a v : Byte) (c : Bool) :
    let q := Alu.adc.exact a v c
    a.toNat + v.toNat + c.toNat =
      q.1.toNat + 256 * (q.2.getLsbD 0).toNat := by
  intro q
  have ha := a.isLt
  have hv := v.isLt
  have hc := Bool.toNat_le c
  rw [adc_toNat, adc_cf]
  rcases Nat.lt_or_ge (a.toNat + v.toNat + c.toNat) 256 with hlt | hge
  · rw [decide_eq_false (by omega), Bool.toNat_false]
    omega
  · rw [decide_eq_true hge, Bool.toNat_true]
    omega

/-- `sbc` is a digit of a difference in base 256. -/
theorem sbc_digit (a v : Byte) (c : Bool) :
    let q := Alu.sbc.exact a v c
    q.1.toNat + v.toNat + c.toNat =
      a.toNat + 256 * (q.2.getLsbD 0).toNat := by
  intro q
  have ha := a.isLt
  have hv := v.isLt
  have hc := Bool.toNat_le c
  rw [sbc_toNat, sbc_cf]
  rcases Nat.lt_or_ge a.toNat (v.toNat + c.toNat) with hlt | hge
  · rw [decide_eq_true hlt, Bool.toNat_true]
    omega
  · rw [decide_eq_false (by omega), Bool.toNat_false]
    omega

/-! ## Packed decimal -/

/-- Both digits of the byte are decimal. -/
def IsBcd (v : Byte) : Prop := v.toNat / 16 < 10 ∧ v.toNat % 16 < 10

instance instDecidableIsBcd (v : Byte) : Decidable (IsBcd v) :=
  inferInstanceAs (Decidable (_ ∧ _))

/-- The number of two decimal digits. -/
def bcd (v : Byte) : Nat := 10 * (v.toNat / 16) + v.toNat % 16

/-- The low digit is corrected. -/
def daaLow (a f : Byte) : Bool :=
  f.getLsbD 4 || decide (9 < a.toNat % 16)

/-- The high digit is corrected, which is also the carry of `daa`. -/
def daaHigh (a f : Byte) : Bool :=
  f.getLsbD 0 || decide (0x99 < a.toNat)

/-- What `daa` adds or takes off. -/
def correction (low high : Bool) : Byte :=
  (if low then 0x06 else 0x00) + (if high then 0x60 else 0x00)

theorem test_hf (f : Byte) : test f HF = f.getLsbD 4 := by
  revert f
  decide

theorem test_nf (f : Byte) : (f &&& NF == 0) = !f.getLsbD 1 := by
  revert f
  decide

theorem daaLow_eq (a f : Byte) :
    (test f HF || decide (a &&& 0x0f > 0x09)) = daaLow a f := by
  have ha : decide (a &&& 0x0f > 0x09) = decide (9 < a.toNat % 16) := by
    revert a
    decide
  rw [test_hf, ha, daaLow]

theorem daaHigh_eq (a f : Byte) :
    (test f CF || decide (a &&& 0xff > 0x99)) = daaHigh a f := by
  have ha : decide (a &&& 0xff > 0x99) = decide (0x99 < a.toNat) := by
    revert a
    decide
  rw [test_cf, ha, daaHigh]

theorem correction_eq (low high : Bool) :
    (if high then (if low then (0x06 : Byte) else 0x00) ||| 0x60
      else if low then 0x06 else 0x00) = correction low high := by
  cases low with
  | _ => cases high with | _ => rfl

/-- The carry that `daa` sets is no other flag. -/
theorem setCf_bits (c : Bool) (f : Byte) :
    (if c then f ||| CF else f).getLsbD 1 = f.getLsbD 1 ∧
      (if c then f ||| CF else f).getLsbD 0 = (f.getLsbD 0 || c) := by
  cases c with
  | true => simp [CF]
  | false => simp

theorem daa8_eq (a f : Byte) :
    let k := correction (daaLow a f) (daaHigh a f)
    (daa8 a f).1 = (if f.getLsbD 1 then a - k else a + k) ∧
      (daa8 a f).2.getLsbD 0 = daaHigh a f := by
  intro k
  obtain ⟨hn, hc⟩ := setCf_bits (daaHigh a f) f
  have hcarry : (f.getLsbD 0 || daaHigh a f) = daaHigh a f := by
    rw [daaHigh, ← Bool.or_assoc, Bool.or_self]
  simp only [daa8]
  rw [daaLow_eq, daaHigh_eq, correction_eq, test_nf, hn, flags_packed,
    packed_cf, hc]
  refine ⟨?_, hcarry⟩
  cases f.getLsbD 1 with
  | _ => rfl

/-- What is added or taken off, as a number. -/
theorem correction_toNat (low high : Bool) :
    (correction low high).toNat = 6 * low.toNat + 96 * high.toNat := by
  cases low with
  | _ => cases high with | _ => rfl

/-- The digits of a sum are corrected if they are ten or more. -/
theorem adc_corrections (a v : Byte) (c : Bool) :
    let q := Alu.adc.exact a v c
    daaLow q.1 q.2 =
        decide (10 ≤ a.toNat % 16 + v.toNat % 16 + c.toNat) ∧
      daaHigh q.1 q.2 = decide (0x9a ≤ a.toNat + v.toNat + c.toNat) := by
  intro q
  have hc := Bool.toNat_le c
  have hh : q.2.getLsbD 4 =
      decide (16 ≤ a.toNat % 16 + v.toNat % 16 + c.toNat) := exact_hf .adc a v c
  rw [daaLow, daaHigh, adc_toNat, hh, adc_cf]
  constructor
  · rw [Bool.eq_iff_iff]
    simp
    omega
  · rw [Bool.eq_iff_iff]
    simp
    omega

/-- The digits of a difference of decimal bytes are corrected if they
borrow. -/
theorem sbc_corrections {a v : Byte} (ha : IsBcd a) (hv : IsBcd v)
    (c : Bool) :
    let q := Alu.sbc.exact a v c
    daaLow q.1 q.2 = decide (a.toNat % 16 < v.toNat % 16 + c.toNat) ∧
      daaHigh q.1 q.2 = decide (a.toNat < v.toNat + c.toNat) := by
  intro q
  obtain ⟨_, hal⟩ := ha
  obtain ⟨_, hvl⟩ := hv
  have hc := Bool.toNat_le c
  have hh : q.2.getLsbD 4 =
      decide (a.toNat % 16 < v.toNat % 16 + c.toNat) := exact_hf .sbc a v c
  rw [daaLow, daaHigh, sbc_toNat, hh, sbc_cf]
  constructor
  · rw [Bool.eq_iff_iff]
    simp
    omega
  · rw [Bool.eq_iff_iff]
    simp
    omega

/-- `adc` and `daa` are a digit of a sum in base 100. -/
theorem adc_daa_digit {a v : Byte} (ha : IsBcd a) (hv : IsBcd v) (c : Bool) :
    let p := Alu.adc.exact a v c
    let q := daa8 p.1 p.2
    IsBcd q.1 ∧ bcd a + bcd v + c.toNat =
      bcd q.1 + 100 * (q.2.getLsbD 0).toNat := by
  intro p q
  obtain ⟨hlow, hhigh⟩ := adc_corrections a v c
  obtain ⟨hq, hcf⟩ := daa8_eq p.1 p.2
  have hn : p.2.getLsbD 1 = false := exact_nf .adc a v c
  have hr := adc_toNat a v c
  have hval : q.1.toNat = _ := congrArg BitVec.toNat hq
  rw [hn, if_neg (by decide), BitVec.toNat_add, correction_toNat, hlow,
    hhigh, hr] at hval
  rw [hcf, hhigh]
  obtain ⟨hah, hal⟩ := ha
  obtain ⟨hvh, hvl⟩ := hv
  have hc := Bool.toNat_le c
  unfold IsBcd bcd
  -- Each digit is corrected or not.
  rcases Nat.lt_or_ge (a.toNat % 16 + v.toNat % 16 + c.toNat) 10 with hl | hl
  · rcases Nat.lt_or_ge (a.toNat + v.toNat + c.toNat) 0x9a with hh | hh
    · rw [decide_eq_false (by omega), decide_eq_false (by omega),
        Bool.toNat_false] at hval
      rw [decide_eq_false (by omega), Bool.toNat_false]
      omega
    · rw [decide_eq_false (by omega), decide_eq_true hh, Bool.toNat_false,
        Bool.toNat_true] at hval
      rw [decide_eq_true hh, Bool.toNat_true]
      omega
  · rcases Nat.lt_or_ge (a.toNat + v.toNat + c.toNat) 0x9a with hh | hh
    · rw [decide_eq_true hl, decide_eq_false (by omega), Bool.toNat_true,
        Bool.toNat_false] at hval
      rw [decide_eq_false (by omega), Bool.toNat_false]
      omega
    · rw [decide_eq_true hl, decide_eq_true hh, Bool.toNat_true] at hval
      rw [decide_eq_true hh, Bool.toNat_true]
      omega

/-- `sbc` and `daa` are a digit of a difference in base 100. -/
theorem sbc_daa_digit {a v : Byte} (ha : IsBcd a) (hv : IsBcd v) (c : Bool) :
    let p := Alu.sbc.exact a v c
    let q := daa8 p.1 p.2
    IsBcd q.1 ∧ bcd q.1 + bcd v + c.toNat =
      bcd a + 100 * (q.2.getLsbD 0).toNat := by
  intro p q
  obtain ⟨hlow, hhigh⟩ := sbc_corrections ha hv c
  obtain ⟨hq, hcf⟩ := daa8_eq p.1 p.2
  have hn : p.2.getLsbD 1 = true := exact_nf .sbc a v c
  have hr := sbc_toNat a v c
  have hval : q.1.toNat = _ := congrArg BitVec.toNat hq
  rw [hn, if_pos rfl, BitVec.toNat_sub, correction_toNat, hlow, hhigh,
    hr] at hval
  rw [hcf, hhigh]
  obtain ⟨hah, hal⟩ := ha
  obtain ⟨hvh, hvl⟩ := hv
  have hc := Bool.toNat_le c
  unfold IsBcd bcd
  -- Each digit borrows or not.
  rcases Nat.lt_or_ge (a.toNat % 16) (v.toNat % 16 + c.toNat) with hl | hl
  · rcases Nat.lt_or_ge a.toNat (v.toNat + c.toNat) with hh | hh
    · rw [decide_eq_true hl, decide_eq_true hh, Bool.toNat_true] at hval
      rw [decide_eq_true hh, Bool.toNat_true]
      omega
    · rw [decide_eq_true hl, decide_eq_false (by omega), Bool.toNat_true,
        Bool.toNat_false] at hval
      rw [decide_eq_false (by omega), Bool.toNat_false]
      omega
  · rcases Nat.lt_or_ge a.toNat (v.toNat + c.toNat) with hh | hh
    · rw [decide_eq_false (by omega), decide_eq_true hh, Bool.toNat_false,
        Bool.toNat_true] at hval
      rw [decide_eq_true hh, Bool.toNat_true]
      omega
    · rw [decide_eq_false (by omega), decide_eq_false (by omega),
        Bool.toNat_false] at hval
      rw [decide_eq_false (by omega), Bool.toNat_false]
      omega

theorem bcd_lt {v : Byte} (h : IsBcd v) : bcd v < 100 := by
  obtain ⟨hh, hl⟩ := h
  unfold bcd
  omega

/-! ## Chains -/

/-- One operation of a chain: its form and the row of that form, and the state
it begins in. -/
structure Link (β : Type) where
  form : Form
  page : Page
  code : Nat
  start : Instance β

namespace Link

/-- The state is about to execute the operation. -/
structure Runs (I : Interface β) (op : Alu) (k : Link β) : Prop where
  coded : (k.form, k.page, k.code) ∈ places
  fetching : Fetching k.start
  decodes : k.page.Decodes I (op.code k.code) k.start

def acc (k : Link β) : Byte := k.start.regs.af.h

/-- The operand that the form fetches. -/
def operand (I : Interface β) (k : Link β) : Byte :=
  (k.form.operand I (k.page.fetched I k.start).calm).1

/-- The state behind the operation. -/
def after (I : Interface β) (k : Link β) : Instance β :=
  instruction I k.start

theorem Runs.after_af {op : Alu} {k : Link β} (h : k.Runs I op) :
    let q := op.exact k.acc (k.operand I) k.start.cf
    (k.after I).regs.af = ⟨q.1, q.2⟩ :=
  congrArg Regs.af (instruction_exact h.coded op h.fetching h.decodes).regs

/-- Operations in a chain that starts with the carry clear. -/
def Chain (I : Interface β) (op : Alu) (ks : List (Link β)) : Prop :=
  (∀ k ∈ ks, k.Runs I op) ∧
    Chained (fun k => k.start.cf) (fun k => (k.after I).cf) false ks

end Link

/-- An operation of a decimal chain, with the state that its `daa` begins
in. -/
structure DecimalLink (β : Type) extends Link β where
  adjust : Instance β

namespace DecimalLink

/-- The states are about to execute the operation, on decimal bytes, and
`daa` on what the operation left. -/
structure Runs (I : Interface β) (op : Alu) (k : DecimalLink β) : Prop where
  runs : k.toLink.Runs I op
  fetching : Fetching k.adjust
  decodes : Page.main.Decodes I 0x27 k.adjust
  af : k.adjust.regs.af = (k.toLink.after I).regs.af
  acc : IsBcd k.acc
  operand : IsBcd (k.operand I)

/-- The state behind `daa`. -/
def after (I : Interface β) (k : DecimalLink β) : Instance β :=
  instruction I k.adjust

theorem Runs.after_af {op : Alu} {k : DecimalLink β} (h : k.Runs I op) :
    let p := op.exact k.acc (k.operand I) k.start.cf
    (k.after I).regs.af = ⟨(daa8 p.1 p.2).1, (daa8 p.1 p.2).2⟩ := by
  intro p
  have hregs := (instruction_decodes h.fetching h.decodes).regs
  have haf : (Page.main.fetched I k.adjust).calm.regs.af = ⟨p.1, p.2⟩ :=
    h.af.trans h.runs.after_af
  generalize (Page.main.fetched I k.adjust).calm = b at hregs haf
  have hdaa : (k.after I).regs.af =
      ⟨(daa8 b.regs.af.h b.regs.af.l).1, (daa8 b.regs.af.h b.regs.af.l).2⟩ :=
    congrArg Regs.af hregs
  rw [hdaa, haf]

def Chain (I : Interface β) (op : Alu) (ks : List (DecimalLink β)) : Prop :=
  (∀ k ∈ ks, k.Runs I op) ∧
    Chained (fun k => k.start.cf) (fun k => (k.after I).cf) false ks

end DecimalLink

theorem adc_chain {ks : List (Link β)} (h : Link.Chain I .adc ks) :
    Adds 256 (fun k => k.acc.toNat) (fun k => (k.operand I).toNat)
      (fun k => (k.after I).regs.af.h.toNat) (fun k => (k.after I).cf) ks := by
  obtain ⟨hruns, hlink⟩ := h
  refine ripple_add (by decide) hlink (fun k _ => BitVec.isLt _) fun k hk => ?_
  obtain ⟨hacc, hcf⟩ := acc_cf (hruns k hk).after_af
  rw [hacc, hcf]
  exact adc_digit _ _ _

theorem sbc_chain {ks : List (Link β)} (h : Link.Chain I .sbc ks) :
    Subtracts 256 (fun k => k.acc.toNat) (fun k => (k.operand I).toNat)
      (fun k => (k.after I).regs.af.h.toNat) (fun k => (k.after I).cf) ks := by
  obtain ⟨hruns, hlink⟩ := h
  refine ripple_sub (by decide) hlink (fun k _ => BitVec.isLt _)
    (fun k _ => BitVec.isLt _) (fun k _ => BitVec.isLt _) fun k hk => ?_
  obtain ⟨hacc, hcf⟩ := acc_cf (hruns k hk).after_af
  rw [hacc, hcf]
  exact sbc_digit _ _ _

theorem adc_daa_chain {ks : List (DecimalLink β)}
    (h : DecimalLink.Chain I .adc ks) :
    (∀ k ∈ ks, IsBcd (k.after I).regs.af.h) ∧
      Adds 100 (fun k => bcd k.acc) (fun k => bcd (k.operand I))
        (fun k => bcd (k.after I).regs.af.h) (fun k => (k.after I).cf) ks := by
  obtain ⟨hruns, hlink⟩ := h
  have hdigit (k : DecimalLink β) (hk : k ∈ ks) :
      IsBcd (k.after I).regs.af.h ∧
        bcd k.acc + bcd (k.operand I) + k.start.cf.toNat =
          bcd (k.after I).regs.af.h + 100 * (k.after I).cf.toNat := by
    obtain ⟨hacc, hcf⟩ := acc_cf (hruns k hk).after_af
    rw [hacc, hcf]
    exact adc_daa_digit (hruns k hk).acc (hruns k hk).operand _
  exact ⟨fun k hk => (hdigit k hk).1,
    ripple_add (by decide) hlink (fun k hk => bcd_lt (hdigit k hk).1)
      fun k hk => (hdigit k hk).2⟩

theorem sbc_daa_chain {ks : List (DecimalLink β)}
    (h : DecimalLink.Chain I .sbc ks) :
    (∀ k ∈ ks, IsBcd (k.after I).regs.af.h) ∧
      Subtracts 100 (fun k => bcd k.acc) (fun k => bcd (k.operand I))
        (fun k => bcd (k.after I).regs.af.h) (fun k => (k.after I).cf) ks := by
  obtain ⟨hruns, hlink⟩ := h
  have hdigit (k : DecimalLink β) (hk : k ∈ ks) :
      IsBcd (k.after I).regs.af.h ∧
        bcd (k.after I).regs.af.h + bcd (k.operand I) + k.start.cf.toNat =
          bcd k.acc + 100 * (k.after I).cf.toNat := by
    obtain ⟨hacc, hcf⟩ := acc_cf (hruns k hk).after_af
    rw [hacc, hcf]
    exact sbc_daa_digit (hruns k hk).acc (hruns k hk).operand _
  exact ⟨fun k hk => (hdigit k hk).1,
    ripple_sub (by decide) hlink (fun k hk => bcd_lt (hdigit k hk).1)
      (fun k hk => bcd_lt (hruns k hk).acc)
      (fun k hk => bcd_lt (hruns k hk).operand) fun k hk => (hdigit k hk).2⟩

/-- Chains of `adc` and of `sbc`, in binary and, with `daa` after each, in
packed decimal. -/
theorem multi_byte (I : Interface β) :
    (∀ ks : List (Link β),
      (Link.Chain I .adc ks →
        Adds 256 (fun k => k.acc.toNat) (fun k => (k.operand I).toNat)
          (fun k => (k.after I).regs.af.h.toNat) (fun k => (k.after I).cf)
          ks) ∧
      (Link.Chain I .sbc ks →
        Subtracts 256 (fun k => k.acc.toNat) (fun k => (k.operand I).toNat)
          (fun k => (k.after I).regs.af.h.toNat) (fun k => (k.after I).cf)
          ks)) ∧
    ∀ ks : List (DecimalLink β),
      (DecimalLink.Chain I .adc ks →
        (∀ k ∈ ks, IsBcd (k.after I).regs.af.h) ∧
        Adds 100 (fun k => bcd k.acc) (fun k => bcd (k.operand I))
          (fun k => bcd (k.after I).regs.af.h) (fun k => (k.after I).cf)
          ks) ∧
      (DecimalLink.Chain I .sbc ks →
        (∀ k ∈ ks, IsBcd (k.after I).regs.af.h) ∧
        Subtracts 100 (fun k => bcd k.acc) (fun k => bcd (k.operand I))
          (fun k => bcd (k.after I).regs.af.h) (fun k => (k.after I).cf)
          ks) :=
  ⟨fun _ => ⟨adc_chain, sbc_chain⟩, fun _ => ⟨adc_daa_chain, sbc_daa_chain⟩⟩

/-- A program in front of an accumulator and flags. -/
def atProgram (code : List Byte) (af : Register) : Instance (Word → Byte) :=
  { Instance.reset (program code) with regs := { Regs.zero with af := af } }

theorem atProgram_pc (code : List Byte) (af : Register) :
    (atProgram code af).regs.pc.w = 0 := by
  show Register.zero.w = 0
  decide

theorem atProgram_af (code : List Byte) (af : Register) :
    (atProgram code af).regs.af = af := rfl

theorem atProgram_fetch (code : List Byte) (af : Register) :
    (Interface.ram.mreqM1 (atProgram code af).bus
      (atProgram code af).regs.pc.w).1 = program code 0 := by
  rw [atProgram_pc]
  rfl

/-- `adc 0x27` from an accumulator and flags, and `daa`. -/
def adcLink (a f : Byte) : DecimalLink (Word → Byte) :=
  ⟨⟨.immediate, .main, 0xc6, atProgram [0xce, 0x27] ⟨a, f⟩⟩,
    atProgram [0x27]
      (instruction .ram (atProgram [0xce, 0x27] ⟨a, f⟩)).regs.af⟩

theorem adcLink_operand (a f : Byte) :
    (adcLink a f).operand .ram = 0x27 := by
  show program [0xce, 0x27] ((atProgram [0xce, 0x27] ⟨a, f⟩).regs.setPc
    ((atProgram [0xce, 0x27] ⟨a, f⟩).regs.pc.w + 1)).pc.w = 0x27
  rw [Regs.setPc_pc, atProgram_pc]
  decide

theorem adcLink_runs {a : Byte} (f : Byte) (ha : IsBcd a) :
    (adcLink a f).Runs .ram .adc where
  runs := ⟨by simp [places, adcLink], ⟨rfl, rfl, rfl⟩,
    ⟨(atProgram_fetch _ _).trans
      (show program [0xce, 0x27] 0 = Alu.adc.code 0xc6 by decide), trivial⟩,
    rfl⟩
  fetching := ⟨rfl, rfl, rfl⟩
  decodes := ⟨⟨(atProgram_fetch _ _).trans (by decide), trivial⟩, rfl⟩
  af := atProgram_af _ _
  acc := ha
  operand := by
    rw [adcLink_operand]
    decide

/-- 2795 and 2727 in packed decimal. -/
theorem multi_byte_decimal :
    let ks := [adcLink 0x95 0x00, adcLink 0x27 0x01]
    ((∀ k ∈ ks, IsBcd (k.after .ram).regs.af.h) ∧
      Adds 100 (fun k => bcd k.acc) (fun k => bcd (k.operand .ram))
        (fun k => bcd (k.after .ram).regs.af.h)
        (fun k => (k.after .ram).cf) ks) ∧
      ks.map (fun k => (k.after .ram).regs.af.h) = [0x22, 0x55] :=
  ⟨((multi_byte .ram).2 _).1
      ⟨List.forall_mem_cons.2 ⟨adcLink_runs 0x00 (by decide),
        List.forall_mem_cons.2 ⟨adcLink_runs 0x01 (by decide),
          List.forall_mem_nil _⟩⟩,
        rfl, by decide +kernel, trivial⟩,
    by decide +kernel⟩

end Xcpc.Cpu
