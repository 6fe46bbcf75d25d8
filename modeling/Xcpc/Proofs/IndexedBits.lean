import Xcpc.Proofs.RegularDecoding

/-!
# The indexed page of bit instructions

Behind `dd cb` comes a displacement and then an opcode of the `cb` table. What
the opcode does to the byte at `(IX+d)` is what it does to `(HL)`, and the
register that its low bits name receives a copy.

The two instructions are compared on one memory, with the address of the
operand in `HL` for the plain one. The bytes of the plain one may stand
elsewhere in that memory or come from somewhere else.
-/

namespace Xcpc.Cpu

open Prog

variable {β : Type} {I : Interface β}

/-- The same operation on `(HL)`. -/
def plain (op : Byte) : Byte := (op &&& 0xf8) ||| 0x06

/-- The register that receives a copy of the byte that is written. -/
def copied (op : Byte) : Option R8 :=
  if fieldX op = 1 then none else operand (fieldZ op)

def ddcbRow (x y : Nat) (dst : Option R8) : Instr :=
  match x, dst with
  | 0, none => .rotIndR16PlusI08 (rot y) .ixW
  | 0, some r => .rotIndR16PlusI08R08 (rot y) .ixW r
  | 1, _ => .bitBIndR16PlusI08 (bitMask y) .ixW
  | 2, none => .resBIndR16PlusI08 (bitMask y) .ixW
  | 2, some r => .resBIndR16PlusI08R08 (bitMask y) .ixW r
  | _, none => .setBIndR16PlusI08 (bitMask y) .ixW
  | _, some r => .setBIndR16PlusI08R08 (bitMask y) .ixW r

theorem entryDdcb_regular (op : Byte) :
    (entryDdcb op).micro = ddcbRow (fieldX op) (fieldY op) (copied op) :=
  lookup_zipIdx
    (Q := fun op e => e.micro = ddcbRow (fieldX op) (fieldY op) (copied op))
    (by decide +kernel) (by decide +kernel) op

theorem plain_fields (op : Byte) :
    fieldX (plain op) = fieldX op ∧ fieldY (plain op) = fieldY op ∧
      operand (fieldZ (plain op)) = none := by
  revert op
  decide

/-! ## What the rows do -/

/-- What an operation makes of a byte and of the flags. The bits of the
address are those that `bit` shows in the flags. -/
def bitPage (x y : Nat) (a : Word) (v f : Byte) : Byte × Byte :=
  match x with
  | 0 => (rot y).apply v f
  | 1 => (v, bitFlags (bitMask y) v (hi a) f)
  | 2 => resB (bitMask y) v f
  | _ => setB (bitMask y) v f

/-- The byte at `a` read, and written back but by `bit`. -/
def bitPageAt (I : Interface β) (x y : Nat) (a : Word) (s : Instance β) :
    Instance β :=
  let r := I.mreqRd s.bus a
  let v := bitPage x y a r.1 s.regs.af.l
  { s with
    regs := s.regs.setF v.2
    bus := if x = 1 then r.2 else I.mreqWr r.2 a v.1 }

/-- The copy in a register, if there is one. -/
def copyTo (dst : Option R8) (v : Byte) (r : Regs) : Regs :=
  match dst with
  | none => r
  | some q => r.set8 q v

theorem exec_cbRow (opP wz : Word) {x : Nat} (hx : x < 4) (y : Nat) {z : Nat}
    (hz : operand z = none) (s : Instance β) :
    (exec I opP wz (cbRow x y z) s).2 =
      bitPageAt I x y s.regs.hl.w s := by
  interval_cases x
  · rw [show cbRow 0 y z = rotRow y z from rfl, rotRow, hz]
    rfl
  · rw [show cbRow 1 y z = bitRow y z from rfl, bitRow, hz]
    rfl
  · rw [show cbRow 2 y z = resRow y z from rfl, resRow, hz]
    rfl
  · rw [show cbRow 3 y z = setRow y z from rfl, setRow, hz]
    rfl

theorem exec_ddcbRow (opP wz : Word) {x : Nat} (hx : x < 4) (y : Nat)
    {dst : Option R8} (hdst : x = 1 → dst = none) (s : Instance β) :
    (exec I opP wz (ddcbRow x y dst) s).2 =
      let t := bitPageAt I x y wz s
      let v := bitPage x y wz (I.mreqRd s.bus wz).1 s.regs.af.l
      { t with regs := copyTo dst v.1 t.regs } := by
  cases dst with
  | none =>
      interval_cases x
      · rfl
      · rfl
      · rfl
      · rfl
  | some r =>
      interval_cases x
      · rfl
      · exact absurd (hdst rfl) (by simp)
      · rfl
      · rfl

/-! ## The two instructions -/

/-- The other state is about to execute the plain operation on the same
memory. It has the address of the operand in `HL`, and only its program counter
and its refresh register are its own. -/
structure Plain (I : Interface β) (f : β → Word → Byte × β) (op : Byte)
    (s t : Instance β) : Prop where
  fetching : Fetching t
  decodes : Page.cb.Decodes (I.fetchedBy f) (plain op) t
  regs : ∃ pc ir, t.regs =
    { s.regs with hl := .ofW (Page.ddcb.wz I s), pc := pc, ir := ir }
  bus : (Page.cb.fetched (I.fetchedBy f) t).bus =
    (Page.ddcb.fetched I s).bus

/-- There is always something to compare with. -/
theorem plain_exists (I : Interface β) (op : Byte) {s : Instance β}
    (hs : Fetching s) : ∃ f t, Plain I f op s t := by
  let f : β → Word → Byte × β := fun b x =>
    (if x = 0 then 0xcb else plain op, b)
  let t : Instance β :=
    { s with
      regs := { s.regs with hl := .ofW (Page.ddcb.wz I s), pc := .zero }
      bus := (Page.ddcb.fetched I s).bus }
  have hnext : (entryCb (plain op)).next = .epilog :=
    lookup_all (Q := fun e => e.next = .epilog) (by decide +kernel)
      (by decide) (plain op)
  have hpc : t.regs.pc.w = 0 := by
    show Register.zero.w = 0
    decide
  have hsucc : t.regs.pc.w + 1 ≠ 0 := by
    rw [hpc]
    decide
  exact ⟨f, t, ⟨hs.atBoundary, hs.hlt, hs.accepts⟩,
    ⟨⟨if_pos hpc, if_neg hsucc, trivial⟩, hnext⟩, ⟨.zero, s.regs.ir, rfl⟩, rfl⟩

theorem fieldX_lt (op : Byte) : fieldX op < 4 := by
  have h := op.isLt
  unfold fieldX
  omega

theorem copied_bit {op : Byte} (h : fieldX op = 1) : copied op = none :=
  if_pos h

/-- The flags are no operand. -/
theorem copied_ne_flags (op : Byte) : copied op ≠ some .afL := by
  revert op
  decide

theorem copyTo_flags {dst : Option R8} (h : dst ≠ some .afL) (v : Byte)
    (r : Regs) : (copyTo dst v r).af.l = r.af.l := by
  cases dst with
  | none => rfl
  | some q =>
      cases q with
      | afL => exact absurd rfl h
      | _ => rfl

/-- The copy and the flags do not get in each other's way. -/
theorem copyTo_setF {dst : Option R8} (h : dst ≠ some .afL) (v f : Byte)
    (r : Regs) (pc : Register) (l : Byte) :
    copyTo dst v (Regs.setF { r with pc := pc, ir := { r.ir with l := l } } f) =
      { (copyTo dst v r).setF f with
        pc := pc, ir := { r.ir with l := l } } := by
  cases dst with
  | none => rfl
  | some q =>
      cases q with
      | afL => exact absurd rfl h
      | _ => rfl

/-- The operation depends on the bus and on the flags. -/
theorem bitPageAt_congr {s t : Instance β} (hb : s.bus = t.bus)
    (hf : s.regs.af.l = t.regs.af.l) (x y : Nat) (a : Word) :
    (bitPageAt I x y a s).bus = (bitPageAt I x y a t).bus ∧
      (bitPageAt I x y a s).regs.af.l = (bitPageAt I x y a t).regs.af.l := by
  unfold bitPageAt
  rw [hb, hf]
  exact ⟨rfl, rfl⟩

/-- `dd cb d op` is `cb op` on `(IX+d)`, and a copy. -/
theorem indexed_bits {f : β → Word → Byte × β} {op : Byte} {s t : Instance β}
    (hs : Fetching s) (hd : Page.ddcb.Decodes I op s) (ht : Plain I f op s t) :
    let a := s.regs.ix.w + sbyte (fetchByte I (pass I 2 s)).1
    let b := (I.mreqRd (Page.ddcb.fetched I s).bus a).2
    let plainly := instruction (I.fetchedBy f) t
    (instruction I s).bus = plainly.bus ∧
      (instruction I s).regs.af.l = plainly.regs.af.l ∧
      (instruction I s).st = s.calm.st ∧
      ∃ v pc l,
        (fieldX op ≠ 1 → (instruction I s).bus = I.mreqWr b a v) ∧
        (instruction I s).regs =
          { (copyTo (copied op) v s.regs).setF (instruction I s).regs.af.l with
            pc := pc, ir := { s.regs.ir with l := l } } := by
  intro a b plainly
  obtain ⟨hx, hy, hz⟩ := plain_fields op
  obtain ⟨tpc, tir, htregs⟩ := ht.regs
  obtain ⟨pc, l, hsf⟩ := fetched_regs (I := I) .ddcb s
  obtain ⟨_, _, htf⟩ := fetched_regs (I := I.fetchedBy f) .cb t
  have his := instruction_decodes hs hd
  have hit := instruction_decodes ht.fetching ht.decodes
  have ha : Page.ddcb.wz I s = a := rfl
  have hhl : (Page.cb.fetched (I.fetchedBy f) t).calm.regs.hl.w = a := by
    show (Page.cb.fetched (I.fetchedBy f) t).regs.hl.w = a
    rw [htf, htregs, ← ha]
    exact Register.ofW_w _
  have hflags : (Page.ddcb.fetched I s).calm.regs.af.l =
      (Page.cb.fetched (I.fetchedBy f) t).calm.regs.af.l := by
    show (Page.ddcb.fetched I s).regs.af.l =
      (Page.cb.fetched (I.fetchedBy f) t).regs.af.l
    rw [hsf, htf, htregs]
  rw [show (Page.ddcb.entry op).micro = _ from entryDdcb_regular op,
    exec_ddcbRow _ _ (fieldX_lt op) _ copied_bit, ha] at his
  rw [show (Page.cb.entry (plain op)).micro = _ from entryCb_regular _, hx, hy,
    exec_fetchedBy, exec_cbRow _ _ (fieldX_lt op) _ hz, hhl] at hit
  obtain ⟨hbus, haf⟩ :=
    bitPageAt_congr (I := I) ht.bus.symm hflags (fieldX op) (fieldY op) a
  have hdst := copied_ne_flags op
  refine ⟨his.bus.trans (hbus.trans hit.bus.symm), ?_, ?_, ?_⟩
  · rw [his.regs, hit.regs]
    exact (copyTo_flags hdst _ _).trans haf
  · rw [his.st]
    exact congrArg (fun st => { st with aei := false }) (fetched_st .ddcb s)
  · let v := bitPage (fieldX op) (fieldY op) a
      (I.mreqRd (Page.ddcb.fetched I s).bus a).1
      (Page.ddcb.fetched I s).regs.af.l
    refine ⟨v.1, pc, l, ?_, ?_⟩
    · intro hbit
      rw [his.bus]
      exact if_neg hbit
    · have hf : (instruction I s).regs.af.l = v.2 := by
        rw [his.regs]
        exact copyTo_flags hdst _ _
      rw [hf, his.regs, ← copyTo_setF hdst]
      show copyTo _ v.1 ((Page.ddcb.fetched I s).regs.setF v.2) = _
      rw [hsf]

/-- `set 0,(ix-1),b`, and `set 0,(hl)` behind it. -/
def bitProgram : Word → Byte :=
  program [0xdd, 0xcb, 0xff, 0xc0, 0xcb, 0xc6]

theorem set_copies :
    let s := Instance.reset bitProgram
    let t := { s with regs := (s.regs.set16 .hlW 0xffff).setPc 4 }
    (instruction Interface.ram s).bus =
      (instruction (Interface.ram.fetchedBy Interface.ram.mreqM1) t).bus := by
  intro s t
  have hs : Fetching s := ⟨rfl, rfl, rfl⟩
  have hd : Page.ddcb.Decodes .ram 0xc0 s :=
    ⟨⟨by decide, by decide, trivial⟩, by decide⟩
  have ht : Plain .ram Interface.ram.mreqM1 0xc0 s t :=
    { fetching := ⟨rfl, rfl, rfl⟩
      decodes := ⟨⟨by decide, by decide, trivial⟩, by decide⟩
      regs := ⟨.ofW 4, .zero, by decide⟩
      bus := rfl }
  exact (indexed_bits hs hd ht).1

end Xcpc.Cpu
