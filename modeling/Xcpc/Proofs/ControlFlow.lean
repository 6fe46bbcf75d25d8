import Xcpc.Proofs.RegularDecoding

/-!
# Jumps, calls and returns

What the unconditional instructions do, and that the conditional ones do the
same if a flag is right and go on behind their operand bytes if it is not.
The source has a macro for each condition, and they come in three pages of the
tables.
-/

namespace Xcpc.Cpu

open Prog

variable {β : Type} {I : Interface β}

/-! ## What the instructions should do -/

/-- The flag that a condition looks at, and what it should be. -/
def Cond.asks : Cond → Nat × Bool
  | .nz => (6, false)
  | .z => (6, true)
  | .nc => (0, false)
  | .c => (0, true)
  | .po => (2, false)
  | .pe => (2, true)
  | .p => (7, false)
  | .m => (7, true)

def Cond.met (cc : Cond) (f : Byte) : Bool := f.getLsbD cc.asks.1 == cc.asks.2

/-- The word at an address, low byte first, and the instance that has read
it. -/
def readWord (I : Interface β) (a : Word) (s : Instance β) :
    Word × Instance β :=
  let l := I.mreqRd s.bus a
  let h := I.mreqRd l.2 (a + 1)
  (h.1 ++ l.1, { s with bus := h.2 })

namespace Instance

def withPc (s : Instance β) (a : Word) : Instance β :=
  { s with regs := s.regs.setPc a }

def withSp (s : Instance β) (a : Word) : Instance β :=
  { s with regs := s.regs.setSp a }

/-- A word put on the stack. -/
def pushed (I : Interface β) (s : Instance β) (v : Word) : Instance β :=
  { s with
    regs := s.regs.setSp (s.regs.sp.w - 2)
    bus := I.mreqWr (I.mreqWr s.bus (s.regs.sp.w - 1) (hi v))
      (s.regs.sp.w - 2) (lo v) }

/-- One taken from `B`. -/
def countedB (s : Instance β) : Instance β :=
  { s with regs := s.regs.set8 .bcH (s.regs.bc.h - 1) }

end Instance

/-- The ways to leave the order of the program. -/
inductive Flow where
  | jp | jr | call | ret
deriving DecidableEq, Repr

namespace Flow

/-- The bytes behind the opcode. -/
def operands : Flow → Nat
  | .jp => 2
  | .jr => 1
  | .call => 2
  | .ret => 0

/-- The instance that has left, from the one behind the opcode. -/
def takes (I : Interface β) (x : Flow) (s : Instance β) : Instance β :=
  match x with
  | .jp =>
      let a := readWord I s.regs.pc.w s
      a.2.withPc a.1
  | .jr =>
      let d := I.mreqRd s.bus s.regs.pc.w
      { s with bus := d.2 }.withPc (s.regs.pc.w + 1 + sbyte d.1)
  | .call =>
      let a := readWord I s.regs.pc.w s
      (a.2.pushed I (s.regs.pc.w + 2)).withPc a.1
  | .ret =>
      let a := readWord I s.regs.sp.w s
      (a.2.withSp (s.regs.sp.w + 2)).withPc a.1

/-- The instance that goes on behind the operand bytes. -/
def passes (x : Flow) (s : Instance β) : Instance β :=
  s.withPc (s.regs.pc.w + BitVec.ofNat 16 x.operands)

def row : Flow → Instr
  | .jp => .jpI16
  | .jr => .jrI08
  | .call => .callI16
  | .ret => .ret

def rowCc (x : Flow) (cc : Cond) : Instr :=
  match x with
  | .jp => .jpCcI16 cc
  | .jr => .jrCcI08 cc
  | .call => .callCcI16 cc
  | .ret => .retCc cc

end Flow

/-! ## The macros -/

theorem cond_holds (cc : Cond) (f : Byte) : cc.holds f = cc.met f := by
  revert f
  cases cc with
  | _ => decide

theorem fetchWord_run (s : Instance β) :
    fetchWord I s =
      ((readWord I s.regs.pc.w s).1,
        (readWord I s.regs.pc.w s).2.withPc (s.regs.pc.w + 2)) := by
  have hpc : (s.regs.setPc (s.regs.pc.w + 1)).pc.w = s.regs.pc.w + 1 :=
    Regs.setPc_pc _ _
  have htwo : s.regs.pc.w + 1 + 1 = s.regs.pc.w + 2 := by bv_omega
  simp only [fetchWord, fetchByte, bind_apply, reads, mreqRd, writes, pure,
    StateT.pure, hpc, htwo, readWord]
  rfl

theorem rstVec16_run (a : Word) (s : Instance β) :
    (rstVec16 I a s).2 = (s.pushed I s.regs.pc.w).withPc a := rfl

theorem jumpRelative_run (s : Instance β) :
    (jumpRelative I s).2 = Flow.jr.takes I s := by
  have hsum (d : Byte) : s.regs.pc.w + sbyte d + 1 =
      s.regs.pc.w + 1 + sbyte d := add_right_comm _ _ _
  simp only [jumpRelative, bind_apply, reads, mreqRd, writes, hsum]
  rfl

/-- An unconditional instruction. -/
theorem exec_takes (x : Flow) (opP wz : Word) (s : Instance β) :
    Same (exec I opP wz x.row s).2 (x.takes I s) := by
  cases x with
  | jp =>
      rw [Flow.row, exec, bind_apply, fetchWord_run]
      exact Same.refl _
  | jr =>
      rw [Flow.row, exec, jumpRelative_run]
      exact Same.refl _
  | call =>
      rw [Flow.row, exec, bind_apply, fetchWord_run, rstVec16_run]
      simp only [Instance.withPc, Regs.setPc_pc]
      exact Same.refl _
  | ret => exact Same.refl _

theorem branch_same {b : Bool} {m n : CpuM β Unit} {s t u : Instance β}
    (hm : Same (m s).2 t) (hn : Same (n s).2 u) :
    Same (branch b m n s).2 (if b then t else u) := by
  cases b with
  | true => exact hm
  | false => exact hn

/-- The cycles of a taken branch do not matter. -/
theorem Same.consumed {s t : Instance β} (h : Same s t) (c n : Nat) :
    Same { s with time := s.time.consume c n } t :=
  ⟨h.regs, h.st, h.bus⟩

/-- A conditional instruction. -/
theorem exec_rowCc (x : Flow) (cc : Cond) (opP wz : Word) (s : Instance β) :
    Same (exec I opP wz (x.rowCc cc) s).2
      (if cc.met s.regs.af.l then x.takes I s else x.passes s) := by
  have htakes := exec_takes (I := I) x opP wz s
  rw [← cond_holds]
  cases x with
  | jp => exact branch_same htakes (Same.refl _)
  | jr => exact branch_same (htakes.consumed 1 5) (Same.refl _)
  | call => exact branch_same (htakes.consumed 2 7) (Same.refl _)
  | ret =>
      have hpasses : Flow.ret.passes s = s := by
        rw [Flow.passes, Instance.withPc, Regs.setPc, Flow.operands,
          BitVec.add_zero, Register.ofW_of_w]
      rw [hpasses]
      exact branch_same (htakes.consumed 2 6) (Same.refl _)

theorem exec_djnz (opP wz : Word) (s : Instance β) :
    Same (exec I opP wz .djnzI08 s).2
      (if s.regs.bc.h - 1 != 0 then Flow.jr.takes I s.countedB
        else Flow.jr.passes s.countedB) := by
  have htakes := exec_takes (I := I) .jr opP wz s.countedB
  exact branch_same (htakes.consumed 1 5) (Same.refl _)

/-- The main page, and its two copies behind an index prefix. -/
def mainPages : List Page := [.main, .dd, .fd]

/-- The opcodes of the unconditional instructions. -/
def flowCodes : List (Flow × Byte) :=
  [(.jp, 0xc3), (.jr, 0x18), (.call, 0xcd), (.ret, 0xc9)]

/-- The opcodes of the conditional instructions. -/
def condCodes : List (Flow × Cond × Byte) :=
  [(.jp, .nz, 0xc2), (.jp, .z, 0xca), (.jp, .nc, 0xd2), (.jp, .c, 0xda),
    (.jp, .po, 0xe2), (.jp, .pe, 0xea), (.jp, .p, 0xf2), (.jp, .m, 0xfa),
    (.call, .nz, 0xc4), (.call, .z, 0xcc), (.call, .nc, 0xd4),
    (.call, .c, 0xdc), (.call, .po, 0xe4), (.call, .pe, 0xec),
    (.call, .p, 0xf4), (.call, .m, 0xfc),
    (.ret, .nz, 0xc0), (.ret, .z, 0xc8), (.ret, .nc, 0xd0), (.ret, .c, 0xd8),
    (.ret, .po, 0xe0), (.ret, .pe, 0xe8), (.ret, .p, 0xf0), (.ret, .m, 0xf8),
    (.jr, .nz, 0x20), (.jr, .z, 0x28), (.jr, .nc, 0x30), (.jr, .c, 0x38)]

theorem flowCodes_rows : ∀ p ∈ mainPages, ∀ q ∈ flowCodes,
    (p.entry q.2).micro = q.1.row := by
  decide +kernel

theorem condCodes_rows : ∀ p ∈ mainPages, ∀ q ∈ condCodes,
    (p.entry q.2.2).micro = q.1.rowCc q.2.1 := by
  decide +kernel

theorem djnz_rows : ∀ p ∈ mainPages, (p.entry 0x10).micro = .djnzI08 := by
  decide +kernel

/-! ## The instructions -/

/-- `t` has the registers of `s` but for the program counter, the stack
pointer and the refresh register. -/
def OnlyFlow (s t : Instance β) : Prop :=
  ∃ pc sp l, t.regs =
    { s.regs with pc := pc, sp := sp, ir := { s.regs.ir with l := l } }

theorem OnlyFlow.of_regs {s t u : Instance β} (h : OnlyFlow s t)
    (hu : u.regs = t.regs) : OnlyFlow s u := by
  obtain ⟨pc, sp, l, h⟩ := h
  exact ⟨pc, sp, l, hu.trans h⟩

theorem OnlyFlow.countedB {s t : Instance β} (h : OnlyFlow s t) :
    OnlyFlow s.countedB t.countedB := by
  obtain ⟨pc, sp, l, h⟩ := h
  refine ⟨pc, sp, l, ?_⟩
  simp only [Instance.countedB]
  rw [h]
  rfl

theorem takes_onlyFlow (x : Flow) {s t : Instance β} (h : OnlyFlow s t) :
    OnlyFlow s (x.takes I t) := by
  obtain ⟨pc, sp, l, h⟩ := h
  cases x with
  | jp => exact ⟨_, sp, l, congrArg (Regs.setPc · _) h⟩
  | jr => exact ⟨_, sp, l, congrArg (Regs.setPc · _) h⟩
  | call =>
      exact ⟨_, _, l, congrArg (fun r : Regs => (r.setSp _).setPc _) h⟩
  | ret =>
      exact ⟨_, _, l, congrArg (fun r : Regs => (r.setSp _).setPc _) h⟩

theorem passes_onlyFlow (x : Flow) {s t : Instance β} (h : OnlyFlow s t) :
    OnlyFlow s (x.passes t) := by
  obtain ⟨pc, sp, l, h⟩ := h
  exact ⟨_, sp, l, congrArg (Regs.setPc · _) h⟩

/-- The state behind the opcode. -/
theorem fetched_onlyFlow (p : Page) (s : Instance β) :
    OnlyFlow s (p.fetched I s).calm := by
  obtain ⟨pc, l, h⟩ := fetched_regs (I := I) p s
  exact ⟨pc, s.regs.sp, l, h⟩

/-- What jumps, calls and returns do, each from the state behind its opcode.
A conditional one takes its condition from the flags before it. -/
structure ControlLaw (I : Interface β) : Prop where
  takes : ∀ p ∈ mainPages, ∀ x op, (x, op) ∈ flowCodes →
    ∀ s : Instance β, Fetching s → p.Decodes I op s →
      Same (instruction I s) (x.takes I (p.fetched I s).calm)
  cond : ∀ p ∈ mainPages, ∀ x cc op, (x, cc, op) ∈ condCodes →
    ∀ s : Instance β, Fetching s → p.Decodes I op s →
      let b := (p.fetched I s).calm
      Same (instruction I s)
          (if cc.met s.regs.af.l then x.takes I b else x.passes b) ∧
        OnlyFlow s (instruction I s)
  djnz : ∀ p ∈ mainPages,
    ∀ s : Instance β, Fetching s → p.Decodes I 0x10 s →
      let b := (p.fetched I s).calm.countedB
      Same (instruction I s)
          (if s.regs.bc.h - 1 != 0 then Flow.jr.takes I b
            else Flow.jr.passes b) ∧
        OnlyFlow s.countedB (instruction I s)

theorem control_flow (I : Interface β) : ControlLaw I where
  takes p hp x op hop s hs hd := by
    have h := instruction_decodes hs hd
    rw [flowCodes_rows p hp _ hop] at h
    exact h.trans (exec_takes x _ _ _)
  cond p hp x cc op hop s hs hd := by
    intro b
    obtain ⟨pc, l, hregs⟩ := fetched_regs (I := I) p s
    have haf : b.regs.af = s.regs.af := by
      show (p.fetched I s).regs.af = _
      rw [hregs]
    have h := instruction_decodes hs hd
    rw [condCodes_rows p hp _ hop] at h
    have hsame := h.trans (exec_rowCc x cc _ _ b)
    rw [haf] at hsame
    refine ⟨hsame, OnlyFlow.of_regs ?_ hsame.regs⟩
    have hb : OnlyFlow s b := fetched_onlyFlow p s
    split
    · exact takes_onlyFlow x hb
    · exact passes_onlyFlow x hb
  djnz p hp s hs hd := by
    intro b
    obtain ⟨pc, l, hregs⟩ := fetched_regs (I := I) p s
    have hbc : (p.fetched I s).calm.regs.bc = s.regs.bc := by
      show (p.fetched I s).regs.bc = _
      rw [hregs]
    have h := instruction_decodes hs hd
    rw [djnz_rows p hp] at h
    have hsame := h.trans (exec_djnz _ _ (p.fetched I s).calm)
    rw [hbc] at hsame
    refine ⟨hsame, OnlyFlow.of_regs ?_ hsame.regs⟩
    have hb : OnlyFlow s.countedB b := (fetched_onlyFlow p s).countedB
    split
    · exact takes_onlyFlow .jr hb
    · exact passes_onlyFlow .jr hb

end Xcpc.Cpu
