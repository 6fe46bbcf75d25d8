import Xcpc.Proofs.Renaming
import Xcpc.Proofs.RegularDecoding

/-!
# The `dd` page is the main page

Behind the prefix `dd` an opcode of the main table works on `IX`. What this is
to mean is stated with the main table itself: the instruction is executed
behind the prefix, from the registers in which `HL` and `IX` are exchanged, and
they are exchanged back.

An operand in memory is another matter. Its address is `IX` and a displacement
that follows the opcode, and everything else keeps its place. For these,
`execAt` is the instruction with its address as a parameter.
-/

namespace Xcpc.Cpu

open Prog

variable {β : Type} {I : Interface β}

/-! ## Operands in memory -/

/-- The main table's opcodes that have the operand `(HL)`. -/
def inMemory (op : Byte) : Bool :=
  op == 0x34 || op == 0x35 || op == 0x36 ||
    fieldX op == 1 && op != 0x76 && (fieldY op == 6 || fieldZ op == 6) ||
    fieldX op == 2 && fieldZ op == 6

/-- The instructions of these opcodes. -/
def Instr.inMemory : Instr → Bool
  | .ldR08IndR16 _ .hlW | .ldIndR16R08 .hlW _ | .ldIndR16I08 .hlW => true
  | .aluR08IndR16 _ _ .hlW | .incIndR16 .hlW | .decIndR16 .hlW => true
  | _ => false

/-- The instruction, with the address of its operand computed first. -/
def execAt (I : Interface β) (addr : CpuM β Word) : Instr → CpuM β Unit
  | .ldR08IndR16 reg1 _ => do
      let a ← addr
      let v ← mreqRd I a
      writes (·.set8 reg1 v)
  | .ldIndR16R08 _ reg2 => do
      let a ← addr
      let v ← reads (·.get8 reg2)
      mreqWr I a v
  | .ldIndR16I08 _ => do
      let a ← addr
      let v ← fetchByte I
      mreqWr I a v
  | .aluR08IndR16 op reg1 _ => do
      let a ← addr
      let r1 ← reads (·.get8 reg1)
      let r2 ← mreqRd I a
      aluAcc op r1 r2
  | .incIndR16 _ => do
      let a ← addr
      let _ ← modifyInd I a inc8
  | .decIndR16 _ => do
      let a ← addr
      let _ ← modifyInd I a dec8
  | i => exec I 0 0 i

/-- With its address in `HL` it is the instruction itself. -/
theorem execAt_hl (opP wz : Word) {i : Instr} (h : i.inMemory = true)
    (s : Instance β) :
    execAt I (reads (·.get16 .hlW)) i s = exec I opP wz i s := by
  unfold Instr.inMemory at h
  split at h
  · rfl
  · rfl
  · rfl
  · rw [execAt, exec]
    simp only [bind_apply, reads, mreqRd]
  · rfl
  · rfl
  · exact absurd h Bool.false_ne_true

/-- The row with a displacement. -/
def Instr.indexed : Instr → Instr
  | .ldR08IndR16 reg1 _ => .ldR08IndR16PlusI08 reg1 .ixW
  | .ldIndR16R08 _ reg2 => .ldIndR16PlusI08R08 .ixW reg2
  | .ldIndR16I08 _ => .ldIndR16PlusI08I08 .ixW
  | .aluR08IndR16 op reg1 _ => .aluR08IndR16PlusI08 op reg1 .ixW
  | .incIndR16 _ => .incIndR16PlusI08 .ixW
  | .decIndR16 _ => .decIndR16PlusI08 .ixW
  | i => i

theorem exec_indexed (opP wz : Word) {i : Instr} (h : i.inMemory = true) :
    exec I opP wz i.indexed = execAt I (fetchIndexed I .ixW) i := by
  unfold Instr.inMemory at h
  split at h
  · rfl
  · rfl
  · rfl
  · rfl
  · rfl
  · rfl
  · exact absurd h Bool.false_ne_true

/-- `ex de,hl` and `exx` are not substituted. -/
def substitution (op : Byte) : Exchange :=
  if op = 0xeb ∨ op = 0xd9 then .none else .hlIx

/-- The opcodes that lead to another page. -/
def isPage (op : Byte) : Bool :=
  op == 0xcb || op == 0xdd || op == 0xed || op == 0xfd

/-- The row of the `dd` table, from that of the main table. -/
def Substituted (op : Byte) (e e' : Entry) : Prop :=
  e.next = .epilog ∧
    if inMemory op then e.micro.inMemory = true ∧ e'.micro = e.micro.indexed
    else e'.micro = e.micro.rename (substitution op) ∧
      e'.tStates = e.tStates ∧ e.micro.scratch = false ∧
      e.micro.impliesHl = (op == 0xd9)

instance (op : Byte) (e e' : Entry) : Decidable (Substituted op e e') :=
  inferInstanceAs (Decidable (_ ∧ ite _ _ _))

theorem entryDd_substituted {op : Byte} (h : isPage op = false) :
    Substituted op (entryMain op) (entryDd op) :=
  lookup_zipIdx
    (Q := fun op e => isPage op = false → Substituted op (entryMain op) e)
    (by decide +kernel) (by decide +kernel) op h

/-! ## The instructions -/

/-- The wait states that a fetch inserts. -/
def Timing.waits (t : Timing) : BitVec 32 := t.adjust.tStates - t.tStates

theorem Timing.exists_plus (t u : Timing) : ∃ k, t.plus k = u := by
  refine ⟨⟨u.mCycles - t.mCycles, u.tStates - t.tStates,
    u.iPeriod - t.iPeriod⟩, ?_⟩
  cases t
  cases u
  simp [Timing.plus]

theorem Same.on {s t : Instance β} (h : Same s t) (x : Exchange) :
    Same (x.on s) (x.on t) :=
  ⟨congrArg x.regs h.regs, h.st, h.bus⟩

theorem pass1_on (x : Exchange) (s : Instance β) :
    pass1 I (x.on s) = x.on (pass1 I s) := by
  cases x with
  | _ => rfl

theorem image_on (x : Exchange) {k t u : Timing} (s : Instance β)
    (h : t.plus k = u) :
    x.image k { x.on s with time := t } = { s with time := u } := by
  simp only [Exchange.image, Exchange.on, x.regs_regs, h]

/-- What a row does from states that are exchanged. -/
theorem execEntry_renames {x : Exchange} {k : Timing} {e e' : Entry}
    (hm : e'.micro = e.micro.rename x) (ht : e'.tStates = e.tStates)
    (hs : e.micro.scratch = false) (hs' : e'.micro.scratch = false)
    (hx : x = .hlIx → e.micro.impliesHl = false) (opP opP' : Word)
    (s : Instance β) :
    let u := (execEntry I opP 0 e s).2
    let u' := (execEntry I opP' 0 e' (x.image k s)).2
    Same u' (x.on u) ∧ u'.time.tStates = u.time.tStates + k.tStates := by
  have he : exec I opP 0 e.micro = exec I 0 0 e.micro := exec_scratch hs _ _
  have he' : exec I opP' 0 e'.micro = exec I 0 0 (e.micro.rename x) := by
    rw [exec_scratch hs', hm]
  have h := (Renames.exec (I := I) (k := k) 0 0 hx s _ rfl).2
  simp only [execEntry, bind_apply, consume, he, he', ht, h]
  generalize (exec I 0 0 e.micro s).2 = u
  exact ⟨⟨rfl, rfl, rfl⟩, add_right_comm _ _ _⟩

theorem clock_tStates {s : Instance β} (h : s.atBoundary = true) :
    (clock I s).time.tStates = (prolog I s).2.time.tStates := by
  rw [clock, h]
  rfl

theorem rename_scratch (x : Exchange) (i : Instr) :
    (i.rename x).scratch = i.scratch := by
  cases i with
  | _ => rfl

/-- An opcode without an operand in memory, behind `dd` and by itself. -/
theorem dd_exchanges {op : Byte} {s : Instance β} (hs : Fetching s)
    (hd : Page.dd.Decodes I op s) (hop : isPage op = false)
    (hmem : inMemory op = false) :
    let x := substitution op
    let t := x.on (pass1 I s)
    Fetching t ∧ Page.main.Decodes I op t ∧
      Same (instruction I s) (x.on (instruction I t)) ∧
      ∃ n, (clock I t).time.tStates = t.time.tStates + t.time.waits + n ∧
        (clock I s).time.tStates = s.time.tStates + s.time.waits + 4 +
          (s.time.adjust.consume 1 4).waits + n := by
  intro x t
  obtain ⟨hnext, hrow⟩ := entryDd_substituted hop
  rw [if_neg (by simp [hmem])] at hrow
  obtain ⟨hm, hstates, hscratch, hhl⟩ := hrow
  have hscratch' : (entryDd op).micro.scratch = false := by
    rw [hm, rename_scratch, hscratch]
  have hx : x = .hlIx → (entryMain op).micro.impliesHl = false := by
    intro hx
    have hne : op ≠ 0xd9 := by
      rintro rfl
      exact absurd hx (by decide)
    rw [hhl, beq_eq_false_iff_ne]
    exact hne
  have ht : Fetching t := ⟨hs.atBoundary, hs.hlt, hs.accepts⟩
  have hdt : Page.main.Decodes I op t := by
    refine ⟨⟨?_, trivial⟩, hnext⟩
    have hpc : t.regs.pc.w = s.regs.pc.w + 1 := by
      show (x.regs (pass1 I s).regs).pc.w = _
      rw [x.pc_regs, pass1_pc]
    rw [hpc]
    exact hd.1.2.1
  -- Where the two micro-instructions begin.
  let b := (Page.main.fetched I t).calm
  obtain ⟨k, hk⟩ := Timing.exists_plus (Page.main.fetchTime t.time)
    (Page.dd.fetchTime s.time)
  have hb : b = x.on (Page.dd.fetched I s).calm := by
    show (pass1 I (x.on (pass1 I s))).calm = _
    rw [pass1_on]
    rfl
  have hstart := image_on x (Page.dd.fetched I s).calm hk
  rw [← hb] at hstart
  obtain ⟨hsame, htime⟩ := execEntry_renames (I := I) (k := k) hm hstates
    hscratch hscratch' hx t.regs.pc.w s.regs.pc.w
    { b with time := Page.main.fetchTime t.time }
  rw [hstart] at hsame htime
  have hps : (prolog I s).2 = _ := congrArg Prod.snd (prolog_decodes hs hd)
  have hpt : (prolog I t).2 = _ := congrArg Prod.snd (prolog_decodes ht hdt)
  have hst : Same (prolog I s).2 (x.on (prolog I t).2) := by
    rw [hps, hpt]
    exact hsame
  have hk' : t.time.adjust.tStates + k.tStates =
      (s.time.adjust.consume 1 4).adjust.tStates :=
    congrArg Timing.tStates hk
  have htime' : (prolog I s).2.time.tStates =
      (prolog I t).2.time.tStates + k.tStates := by
    rw [hps, hpt]
    exact htime
  have hfour : (s.time.adjust.consume 1 4).tStates =
      s.time.adjust.tStates + 4 := rfl
  refine ⟨ht, hdt, ?_,
    (prolog I t).2.time.tStates - t.time.adjust.tStates, ?_, ?_⟩
  · have his := instruction_same (I := I) hs.atBoundary
    have hit := (instruction_same (I := I) ht.atBoundary).symm.on x
    exact his.trans (hst.trans hit)
  · rw [clock_tStates ht.atBoundary, Timing.waits]
    ring
  · rw [clock_tStates hs.atBoundary, htime', Timing.waits, Timing.waits,
      ← hk', hfour]
    ring

/-- The `dd` page is the main page with `IX` for `HL` and `(IX+d)` for
`(HL)`. -/
theorem dd_substitutes {op : Byte} {s : Instance β} (hs : Fetching s)
    (hd : Page.dd.Decodes I op s) (hop : isPage op = false) :
    (inMemory op = true →
      Same (instruction I s)
        (execAt I (fetchIndexed I .ixW) (entryMain op).micro
          (pass I 2 s).calm).2 ∧
      ∀ t, Fetching t → Page.main.Decodes I op t →
        Same (instruction I t)
          (execAt I (reads (·.get16 .hlW)) (entryMain op).micro
            (pass I 1 t).calm).2) ∧
    (inMemory op = false →
      let x := substitution op
      let t := x.on (pass1 I s)
      Fetching t ∧ Page.main.Decodes I op t ∧
        Same (instruction I s) (x.on (instruction I t)) ∧
        ∃ n, (clock I t).time.tStates = t.time.tStates + t.time.waits + n ∧
          (clock I s).time.tStates = s.time.tStates + s.time.waits + 4 +
            (s.time.adjust.consume 1 4).waits + n) := by
  refine ⟨fun hmem => ?_, dd_exchanges hs hd hop⟩
  obtain ⟨_, hrow⟩ := entryDd_substituted hop
  rw [if_pos hmem] at hrow
  obtain ⟨hi, hdd⟩ := hrow
  constructor
  · have h := instruction_decodes hs hd
    rw [show (Page.dd.entry op).micro = _ from hdd, exec_indexed _ _ hi] at h
    exact h
  · intro t ht hdt
    have h := instruction_decodes ht hdt
    rw [show (Page.main.entry op).micro = (entryMain op).micro from rfl,
      ← execAt_hl _ _ hi] at h
    exact h

/-- `inc (ix+5)` and `ld ix,0x1234`. -/
theorem inc_and_ld_substituted :
    let s := Instance.reset (program [0xdd, 0x34, 0x05])
    let t := Instance.reset (program [0xdd, 0x21, 0x34, 0x12])
    Same (instruction .ram s)
        (execAt .ram (fetchIndexed .ram .ixW) (.incIndR16 .hlW)
          (pass .ram 2 s).calm).2 ∧
      Same (instruction .ram t)
        (Exchange.hlIx.on (instruction .ram
          (Exchange.hlIx.on (pass1 .ram t)))) := by
  intro s t
  have hs : Page.dd.Decodes .ram 0x34 s :=
    ⟨⟨by decide, by decide, trivial⟩, rfl⟩
  have ht : Page.dd.Decodes .ram 0x21 t :=
    ⟨⟨by decide, by decide, trivial⟩, rfl⟩
  exact ⟨((dd_substitutes ⟨rfl, rfl, rfl⟩ hs rfl).1 rfl).1,
    ((dd_substitutes ⟨rfl, rfl, rfl⟩ ht rfl).2 rfl).2.2.1⟩

end Xcpc.Cpu
