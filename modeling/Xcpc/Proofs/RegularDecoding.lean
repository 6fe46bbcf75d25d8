import Xcpc.Proofs.Decode

/-!
# The regular half of the tables

Half of the main table and all of the `cb` table follow from the bits of the
opcode. The opcode is `64x + 8y + z`; `z` and `y` choose from one list of
eight operands, and `x` and `y` choose the operation. The source has a row for
each of them.

What the rows should do is stated from these bits: the results of the rotates
as the bits of the byte put together in another order, the flags as the
questions they answer.
-/

namespace Xcpc.Cpu

open Prog

variable {β : Type} {I : Interface β}

def fieldX (op : Byte) : Nat := op.toNat / 64

def fieldY (op : Byte) : Nat := op.toNat / 8 % 8

def fieldZ (op : Byte) : Nat := op.toNat % 8

/-- `B`, `C`, `D`, `E`, `H`, `L`, `(HL)` and `A`. The operand in memory has no
name. -/
def operands : List (Option R8) :=
  [some .bcH, some .bcL, some .deH, some .deL, some .hlH, some .hlL, none,
    some .afH]

def operand (n : Nat) : Option R8 := operands.getD n none

def alus : List Alu := [.add, .adc, .sub, .sbc, .and, .xor, .or, .cp]

def alu (n : Nat) : Alu := alus.getD n .cp

def rots : List Rot := [.rlc, .rrc, .rl, .rr, .sla, .sra, .sll, .srl]

def rot (n : Nat) : Rot := rots.getD n .srl

/-! ## What the rows should do -/

/-- The byte of an operand, and the instance that has read it. -/
def readOperand (I : Interface β) (n : Nat) (s : Instance β) :
    Byte × Instance β :=
  match operand n with
  | some r => (s.regs.get8 r, s)
  | none =>
      let r := I.mreqRd s.bus s.regs.hl.w
      (r.1, { s with bus := r.2 })

def writeOperand (I : Interface β) (n : Nat) (v : Byte) (s : Instance β) :
    Instance β :=
  match operand n with
  | some r => { s with regs := s.regs.set8 r v }
  | none => { s with bus := I.mreqWr s.bus s.regs.hl.w v }

def Instance.setF (s : Instance β) (f : Byte) : Instance β :=
  { s with regs := s.regs.setF f }

/-- The new accumulator of each operation. A comparison has none. -/
def computed (n : Nat) (a v : Byte) (c : Bool) : Byte :=
  match n with
  | 0 => a + v
  | 1 => a + v + BitVec.setWidth 8 (BitVec.ofBool c)
  | 2 => a - v
  | 3 => a - v - BitVec.setWidth 8 (BitVec.ofBool c)
  | 4 => a &&& v
  | 5 => a ^^^ v
  | 6 => a ||| v
  | _ => a

/-- The result of each rotate and shift, and the bit it shifts out. -/
def rotated (n : Nat) (v : Byte) (c : Bool) : Byte × Bool :=
  match n with
  | 0 => (v.extractLsb' 0 7 ++ v.extractLsb' 7 1, v.getLsbD 7)
  | 1 => (v.extractLsb' 0 1 ++ v.extractLsb' 1 7, v.getLsbD 0)
  | 2 => (v.extractLsb' 0 7 ++ BitVec.ofBool c, v.getLsbD 7)
  | 3 => (BitVec.ofBool c ++ v.extractLsb' 1 7, v.getLsbD 0)
  | 4 => (v.extractLsb' 0 7 ++ 0#1, v.getLsbD 7)
  | 5 => (v.extractLsb' 7 1 ++ v.extractLsb' 1 7, v.getLsbD 0)
  | 6 => (v.extractLsb' 0 7 ++ 1#1, v.getLsbD 7)
  | _ => (0#1 ++ v.extractLsb' 1 7, v.getLsbD 0)

/-- An even number of bits is set. -/
def evenParity (v : Byte) : Bool :=
  (List.range 8).countP (fun i => v.getLsbD i) % 2 == 0

/-- The flags that tell of a result `v` and of the bit that was shifted out. -/
structure ShiftFlags (f v : Byte) (out : Bool) : Prop where
  sf : f.getLsbD 7 = v.getLsbD 7
  zf : f.getLsbD 6 = (v == 0)
  hf : f.getLsbD 4 = false
  pf : f.getLsbD 2 = evenParity v
  nf : f.getLsbD 1 = false
  cf : f.getLsbD 0 = out

/-- `ld r[y],r[z]` -/
def Loads (I : Interface β) (y z : Nat) (s t : Instance β) : Prop :=
  let r := readOperand I z s
  Same t (writeOperand I y r.1 r.2)

/-- The `y`-th operation on the accumulator and `r[z]`. -/
def Computes (I : Interface β) (y z : Nat) (s t : Instance β) : Prop :=
  let r := readOperand I z s
  let a := s.regs.af.h
  let f := s.regs.af.l
  let v := computed y a r.1 (f.getLsbD 0)
  Same t { r.2 with
    regs := (s.regs.set8 .afH v).setF ((alu y).apply a r.1 f).2 }

/-- The `y`-th rotate or shift of `r[z]`. -/
def Rotates (I : Interface β) (y z : Nat) (s t : Instance β) : Prop :=
  let r := readOperand I z s
  let v := rotated y r.1 (s.regs.af.l.getLsbD 0)
  ∃ f, Same t (writeOperand I z v.1 (r.2.setF f)) ∧ ShiftFlags f v.1 v.2

/-- `bit y,r[z]` -/
def Tests (I : Interface β) (y z : Nat) (s t : Instance β) : Prop :=
  let r := readOperand I z s
  ∃ f, Same t (r.2.setF f) ∧ f.getLsbD 6 = !r.1.getLsbD y

/-- `res y,r[z]`, or `set y,r[z]` if `b` is true. -/
def Assigns (I : Interface β) (b : Bool) (y z : Nat) (s t : Instance β) :
    Prop :=
  let r := readOperand I z s
  ∃ v : Byte, (∀ i < 8, v.getLsbD i = if i = y then b else r.1.getLsbD i) ∧
    Same t (writeOperand I z v r.2)

/-! ## The arithmetic -/

theorem test_cf (f : Byte) : test f CF = f.getLsbD 0 := by
  revert f
  decide

theorem sel_cf (b : Bool) : (sel b).getLsbD 0 = b := by
  cases b with
  | true => rfl
  | false => rfl

theorem flags_bits (s z y h x p n v : Byte) :
    let f := flags s z y h x p n v
    f.getLsbD 7 = s.getLsbD 7 ∧ f.getLsbD 6 = z.getLsbD 6 ∧
      f.getLsbD 4 = h.getLsbD 4 ∧ f.getLsbD 2 = p.getLsbD 2 ∧
      f.getLsbD 1 = n.getLsbD 1 ∧ f.getLsbD 0 = v.getLsbD 0 := by
  simp [flags]

/-- What the table is said to hold. -/
theorem pzs_bits (v : Byte) :
    (pzs v).getLsbD 7 = v.getLsbD 7 ∧ (pzs v).getLsbD 6 = (v == 0) ∧
      (pzs v).getLsbD 2 = evenParity v := by
  revert v
  decide +kernel

theorem lo_eq (v : Word) : lo v = v.setWidth 8 := by
  ext i hi
  simp [lo]

theorem lo_add (v w : Word) : lo (v + w) = lo v + lo w := by
  rw [lo_eq, lo_eq, lo_eq]
  exact BitVec.setWidth_add v w (by decide)

theorem lo_sub (v w : Word) : lo (v - w) = lo v - lo w := by
  rw [lo_eq, lo_eq, lo_eq]
  bv_omega

theorem lo_zext (v : Byte) : lo (zext v) = v := by
  rw [lo_eq, zext, BitVec.setWidth_setWidth_of_le _ (by decide),
    BitVec.setWidth_eq]

theorem lo_carry (f : Byte) :
    lo (carry f) = (BitVec.ofBool (f.getLsbD 0)).setWidth 8 := by
  rw [carry, test_cf]
  cases f.getLsbD 0 with
  | true => rfl
  | false => rfl

/-- Only a comparison leaves the accumulator as it is. -/
theorem alu_value {n : Nat} (hn : n < 8) (a v f : Byte) :
    (if alu n != .cp then ((alu n).apply a v f).1 else a) =
      computed n a v (f.getLsbD 0) := by
  interval_cases n
  · show lo (zext a + zext v) = a + v
    rw [lo_add, lo_zext, lo_zext]
  · show lo (zext a + zext v + carry f) = _
    rw [lo_add, lo_add, lo_zext, lo_zext, lo_carry]
    rfl
  · show lo (zext a - zext v) = a - v
    rw [lo_sub, lo_zext, lo_zext]
  · show lo (zext a - zext v - carry f) = _
    rw [lo_sub, lo_sub, lo_zext, lo_zext, lo_carry]
    rfl
  · rfl
  · rfl
  · rfl
  · rfl

theorem shift_congr {f g : Byte} (h : f.getLsbD 0 = g.getLsbD 0) (op : Rot)
    (v : Byte) : op.shift v f = op.shift v g := by
  cases op with
  | _ => simp only [Rot.shift, test_cf, h]

theorem carryBit_cf (b : Bool) : (if b then 1 else 0 : Byte).getLsbD 0 = b := by
  cases b with
  | true => rfl
  | false => rfl

theorem rotated_eq : ∀ n < 8, ∀ b : Bool, ∀ v : Byte,
    (rot n).shift v (if b then 1 else 0) = (rotated n v b).1 ∧
      (rot n).out v = (rotated n v b).2 := by
  decide +kernel

theorem shift_eq {n : Nat} (hn : n < 8) (v f : Byte) :
    (rot n).shift v f = (rotated n v (f.getLsbD 0)).1 ∧
      (rot n).out v = (rotated n v (f.getLsbD 0)).2 := by
  rw [shift_congr (carryBit_cf (f.getLsbD 0)).symm]
  exact rotated_eq n hn (f.getLsbD 0) v

theorem rot_value {n : Nat} (hn : n < 8) (v f : Byte) :
    ((rot n).apply v f).1 = (rotated n v (f.getLsbD 0)).1 ∧
      ShiftFlags ((rot n).apply v f).2 (rotated n v (f.getLsbD 0)).1
        (rotated n v (f.getLsbD 0)).2 := by
  obtain ⟨hv, hout⟩ := shift_eq hn v f
  obtain ⟨hsf, hzf, hpf⟩ := pzs_bits (rotated n v (f.getLsbD 0)).1
  refine ⟨hv, ?_⟩
  simp only [Rot.apply, hv, hout]
  obtain ⟨f7, f6, f4, f2, f1, f0⟩ := flags_bits
    (pzs (rotated n v (f.getLsbD 0)).1) (pzs (rotated n v (f.getLsbD 0)).1)
    (pzs (rotated n v (f.getLsbD 0)).1) 0x00 (pzs (rotated n v (f.getLsbD 0)).1)
    (pzs (rotated n v (f.getLsbD 0)).1) 0x00 (sel (rotated n v (f.getLsbD 0)).2)
  exact ⟨f7.trans hsf, f6.trans hzf, f4, f2.trans hpf, f1,
    f0.trans (sel_cf _)⟩

/-- The mask of bit `y`. -/
def bitMask (y : Nat) : Byte := BitVec.twoPow 8 y

theorem bit_zf {y : Nat} (hy : y < 8) (v yx f : Byte) :
    (bitFlags (bitMask y) v yx f).getLsbD 6 = !v.getLsbD y := by
  have hz : (v &&& bitMask y == 0) = !v.getLsbD y := by
    revert v
    interval_cases y
    all_goals decide
  obtain ⟨_, hzf, _⟩ := pzs_bits (v &&& bitMask y)
  rw [← hz, ← hzf]
  exact (flags_bits _ _ _ _ _ _ _ _).2.1

theorem res_bit (y : Nat) (v : Byte) {i : Nat} (hi : i < 8) :
    (v &&& ~~~bitMask y).getLsbD i = if i = y then false else v.getLsbD i := by
  simp [bitMask, hi]
  grind

theorem set_bit (y : Nat) (v : Byte) {i : Nat} (hi : i < 8) :
    (v ||| bitMask y).getLsbD i = if i = y then true else v.getLsbD i := by
  simp [bitMask, hi]
  grind

/-! ## The rows -/

/-- The row of `ld r[y],r[z]`. -/
def loadRow (y z : Nat) : Instr :=
  match operand y, operand z with
  | some r, some r' => .ldR08R08 r r'
  | some r, none => .ldR08IndR16 r .hlW
  | none, some r => .ldIndR16R08 .hlW r
  | none, none => .halt

def aluRow (y z : Nat) : Instr :=
  match operand z with
  | some r => .aluR08R08 (alu y) .afH r
  | none => .aluR08IndR16 (alu y) .afH .hlW

def rotRow (y z : Nat) : Instr :=
  match operand z with
  | some r => .rotR08 (rot y) r
  | none => .rotIndR16 (rot y) .hlW

def bitRow (y z : Nat) : Instr :=
  match operand z with
  | some r => .bitBR08 (bitMask y) r
  | none => .bitBIndR16 (bitMask y) .hlW

def resRow (y z : Nat) : Instr :=
  match operand z with
  | some r => .resBR08 (bitMask y) r
  | none => .resBIndR16 (bitMask y) .hlW

def setRow (y z : Nat) : Instr :=
  match operand z with
  | some r => .setBR08 (bitMask y) r
  | none => .setBIndR16 (bitMask y) .hlW

theorem entryMain_regular (op : Byte) :
    (fieldX op = 1 → op ≠ 0x76 →
        (entryMain op).micro = loadRow (fieldY op) (fieldZ op)) ∧
      (fieldX op = 2 →
        (entryMain op).micro = aluRow (fieldY op) (fieldZ op)) :=
  lookup_zipIdx
    (Q := fun op e =>
      (fieldX op = 1 → op ≠ 0x76 →
        e.micro = loadRow (fieldY op) (fieldZ op)) ∧
      (fieldX op = 2 → e.micro = aluRow (fieldY op) (fieldZ op)))
    (by decide +kernel) (by decide +kernel) op

/-- The rows of the `cb` table, by `x`. -/
def cbRow (x y z : Nat) : Instr :=
  match x with
  | 0 => rotRow y z
  | 1 => bitRow y z
  | 2 => resRow y z
  | _ => setRow y z

theorem entryCb_regular (op : Byte) :
    (entryCb op).micro = cbRow (fieldX op) (fieldY op) (fieldZ op) :=
  lookup_zipIdx
    (Q := fun op e => e.micro = cbRow (fieldX op) (fieldY op) (fieldZ op))
    (by decide +kernel) (by decide +kernel) op

/-! ## The instructions -/

theorem exec_load (opP wz : Word) {y z : Nat}
    (h : ¬ (operand y = none ∧ operand z = none)) (s : Instance β) :
    Loads I y z s (exec I opP wz (loadRow y z) s).2 := by
  unfold Loads loadRow writeOperand readOperand
  cases hy : operand y with
  | none =>
      cases hz : operand z with
      | none => exact absurd ⟨hy, hz⟩ h
      | some r => exact Same.refl _
  | some r =>
      cases hz : operand z with
      | none => exact Same.refl _
      | some r' => exact Same.refl _

/-- What `aluAcc` does to the registers. -/
theorem aluAcc_run (op : Alu) (r1 r2 : Byte) (s : Instance β) :
    (aluAcc op r1 r2 s).2 =
      { s with
        regs := (s.regs.set8 .afH
          (if op != .cp then (op.apply r1 r2 s.regs.af.l).1
            else s.regs.af.h)).setF (op.apply r1 r2 s.regs.af.l).2 } := by
  unfold aluAcc branch
  generalize hop : (op != .cp) = b
  simp only [bind_apply, reads]
  generalize op.apply r1 r2 s.regs.af.l = q
  cases b with
  | true => rfl
  | false => rfl

theorem exec_aluRow (opP wz : Word) (y z : Nat) (s : Instance β) :
    exec I opP wz (aluRow y z) s =
      aluAcc (alu y) s.regs.af.h (readOperand I z s).1
        (readOperand I z s).2 := by
  unfold aluRow readOperand
  cases operand z with
  | none =>
      rw [exec, bind_apply, bind_apply, bind_apply]
      simp only [reads, mreqRd, Regs.get8, Regs.get16]
  | some r =>
      rw [exec, bind_apply, bind_apply]
      simp only [reads, Regs.get8]

theorem readOperand_regs (z : Nat) (s : Instance β) :
    (readOperand I z s).2.regs = s.regs := by
  unfold readOperand
  cases operand z with
  | none => rfl
  | some r => rfl

theorem exec_alu (opP wz : Word) {y : Nat} (hy : y < 8) (z : Nat)
    (s : Instance β) : Computes I y z s (exec I opP wz (aluRow y z) s).2 := by
  unfold Computes
  rw [exec_aluRow, aluAcc_run, readOperand_regs, alu_value hy]
  exact Same.refl _

/-- A byte that is read, changed and written back. -/
def modifyOperand (I : Interface β) (z : Nat)
    (f : Byte → Byte → Byte × Byte) (s : Instance β) : Instance β :=
  let r := readOperand I z s
  writeOperand I z (f r.1 s.regs.af.l).1 (r.2.setF (f r.1 s.regs.af.l).2)

theorem exec_rotRow (opP wz : Word) (y z : Nat) (s : Instance β) :
    (exec I opP wz (rotRow y z) s).2 =
      modifyOperand I z (rot y).apply s := by
  unfold rotRow modifyOperand readOperand writeOperand
  cases operand z with
  | _ => rfl

theorem exec_resRow (opP wz : Word) (y z : Nat) (s : Instance β) :
    (exec I opP wz (resRow y z) s).2 =
      modifyOperand I z (resB (bitMask y)) s := by
  unfold resRow modifyOperand readOperand writeOperand
  cases operand z with
  | _ => rfl

theorem exec_setRow (opP wz : Word) (y z : Nat) (s : Instance β) :
    (exec I opP wz (setRow y z) s).2 =
      modifyOperand I z (setB (bitMask y)) s := by
  unfold setRow modifyOperand readOperand writeOperand
  cases operand z with
  | _ => rfl

theorem exec_rot (opP wz : Word) {y : Nat} (hy : y < 8) (z : Nat)
    (s : Instance β) : Rotates I y z s (exec I opP wz (rotRow y z) s).2 := by
  obtain ⟨hv, hf⟩ := rot_value hy (readOperand I z s).1 s.regs.af.l
  refine ⟨_, ?_, hf⟩
  rw [exec_rotRow, modifyOperand, hv]
  exact Same.refl _

theorem exec_bit (opP wz : Word) {y : Nat} (hy : y < 8) (z : Nat)
    (s : Instance β) : Tests I y z s (exec I opP wz (bitRow y z) s).2 := by
  unfold Tests bitRow readOperand
  cases operand z with
  | none => exact ⟨_, Same.refl _, bit_zf hy _ _ _⟩
  | some r => exact ⟨_, Same.refl _, bit_zf hy _ _ _⟩

/-- Writing the flags back does not change them. -/
theorem readOperand_setF (z : Nat) (s : Instance β) :
    (readOperand I z s).2.setF s.regs.af.l = (readOperand I z s).2 := by
  unfold readOperand
  cases operand z with
  | _ => rfl

theorem exec_res (opP wz : Word) (y z : Nat) (s : Instance β) :
    Assigns I false y z s (exec I opP wz (resRow y z) s).2 := by
  refine ⟨_, fun i hi => res_bit y _ hi, ?_⟩
  rw [exec_resRow, modifyOperand, resB, readOperand_setF]
  exact Same.refl _

theorem exec_set (opP wz : Word) (y z : Nat) (s : Instance β) :
    Assigns I true y z s (exec I opP wz (setRow y z) s).2 := by
  refine ⟨_, fun i hi => set_bit y _ hi, ?_⟩
  rw [exec_setRow, modifyOperand, setB, readOperand_setF]
  exact Same.refl _

/-- Only `halt` has two operands in memory. -/
theorem operand_ne_none {op : Byte} (hx : fieldX op = 1) (h : op ≠ 0x76) :
    ¬ (operand (fieldY op) = none ∧ operand (fieldZ op) = none) := by
  revert op
  decide

theorem fieldY_lt (op : Byte) : fieldY op < 8 :=
  Nat.mod_lt _ (by decide)

/-- The instructions that follow from the bits of their opcode. Each begins
in the instance behind its opcode, whose program counter and refresh register
have moved. -/
theorem regular_decoding {op : Byte} {s : Instance β} (hs : Fetching s) :
    (Page.main.Decodes I op s →
      let b := (Page.main.fetched I s).calm
      (fieldX op = 1 → op ≠ 0x76 →
        Loads I (fieldY op) (fieldZ op) b (instruction I s)) ∧
      (fieldX op = 2 →
        Computes I (fieldY op) (fieldZ op) b (instruction I s))) ∧
    (Page.cb.Decodes I op s →
      let b := (Page.cb.fetched I s).calm
      (fieldX op = 0 →
        Rotates I (fieldY op) (fieldZ op) b (instruction I s)) ∧
      (fieldX op = 1 → Tests I (fieldY op) (fieldZ op) b (instruction I s)) ∧
      (fieldX op = 2 →
        Assigns I false (fieldY op) (fieldZ op) b (instruction I s)) ∧
      (fieldX op = 3 →
        Assigns I true (fieldY op) (fieldZ op) b (instruction I s))) := by
  have hy := fieldY_lt op
  constructor
  · intro hd b
    have h := instruction_decodes hs hd
    obtain ⟨hload, halu⟩ := entryMain_regular op
    constructor
    · intro hx hne
      rw [show (Page.main.entry op).micro = _ from hload hx hne] at h
      exact h.trans (exec_load _ _ (operand_ne_none hx hne) b)
    · intro hx
      rw [show (Page.main.entry op).micro = _ from halu hx] at h
      exact h.trans (exec_alu _ _ hy _ b)
  · intro hd b
    have h := instruction_decodes hs hd
    rw [show (Page.cb.entry op).micro = _ from entryCb_regular op] at h
    refine ⟨?_, ?_, ?_, ?_⟩
    · intro hx
      rw [hx] at h
      obtain ⟨f, hsame, hf⟩ := exec_rot _ _ hy _ b
      exact ⟨f, h.trans hsame, hf⟩
    · intro hx
      rw [hx] at h
      obtain ⟨f, hsame, hf⟩ := exec_bit _ _ hy _ b
      exact ⟨f, h.trans hsame, hf⟩
    · intro hx
      rw [hx] at h
      obtain ⟨v, hv, hsame⟩ := exec_res _ _ (fieldY op) _ b
      exact ⟨v, hv, h.trans hsame⟩
    · intro hx
      rw [hx] at h
      obtain ⟨v, hv, hsame⟩ := exec_set _ _ (fieldY op) _ b
      exact ⟨v, hv, h.trans hsame⟩

/-- `ld b,c` and `srl (hl)`. -/
theorem ld_and_srl_decoded :
    let s := Instance.reset (program [0x41])
    let t := Instance.reset (program [0xcb, 0x3e])
    Loads .ram 0 1 (Page.main.fetched .ram s).calm (instruction .ram s) ∧
      Rotates .ram 7 6 (Page.cb.fetched .ram t).calm (instruction .ram t) :=
  ⟨((@regular_decoding _ _ 0x41 _ ⟨rfl, rfl, rfl⟩).1
      ⟨⟨rfl, trivial⟩, rfl⟩).1 rfl (by decide),
    ((@regular_decoding _ _ 0x3e _ ⟨rfl, rfl, rfl⟩).2
      ⟨⟨by decide, by decide, trivial⟩, rfl⟩).1 rfl⟩

end Xcpc.Cpu
