import Xcpc.Proofs.Boundary

/-!
# Decoding

`clock` fetches an opcode byte at a time and goes from table to table. The
functions of the labels are taken apart here, once for every way a row can
leave its switch, and put together again for each of the seven pages: which
bytes lead to the row of an opcode, and in which state, with which address in
`WZ` and with which counters its micro-instruction begins.

The state before the micro-instruction is the one in which the opcode bytes
have been passed over. Facts about single instructions are facts about the
micro-instruction from there.
-/

namespace Xcpc.Cpu

open Prog

variable {β : Type} (I : Interface β)

/-- Opcode fetches from `a` on answer these bytes. -/
def Fetches : β → Word → List Byte → Prop
  | _, _, [] => True
  | b, a, op :: ops =>
      (I.mreqM1 b a).1 = op ∧ Fetches (I.mreqM1 b a).2 (a + 1) ops

/-- An opcode byte fetched and not executed. -/
def pass1 (s : Instance β) : Instance β :=
  { s with
    regs := refresh (s.regs.setPc (s.regs.pc.w + 1))
    bus := (I.mreqM1 s.bus s.regs.pc.w).2 }

def pass : Nat → Instance β → Instance β
  | 0, s => s
  | n + 1, s => pass n (pass1 I s)

variable {I}

theorem pass_add (m n : Nat) (s : Instance β) :
    pass I (m + n) s = pass I n (pass I m s) := by
  induction m generalizing s with
  | zero => rw [Nat.zero_add, pass]
  | succ m ih => rw [Nat.succ_add, pass, pass, ih]

theorem pass_succ (n : Nat) (s : Instance β) :
    pass I (n + 1) s = pass1 I (pass I n s) := by
  rw [pass_add]
  rfl

/-- Passing keeps the counters and the status. -/
theorem pass_keeps (n : Nat) (s : Instance β) :
    (pass I n s).time = s.time ∧ (pass I n s).st = s.st := by
  induction n generalizing s with
  | zero => exact ⟨rfl, rfl⟩
  | succ n ih => exact ih (pass1 I s)

theorem refresh_pc (r : Regs) : (refresh r).pc = r.pc := rfl

theorem pass1_pc (s : Instance β) :
    (pass1 I s).regs.pc.w = s.regs.pc.w + 1 := by
  simp [pass1, refresh_pc]

theorem fetches_append (ops ops' : List Byte) (s : Instance β) :
    Fetches I s.bus s.regs.pc.w (ops ++ ops') ↔
      Fetches I s.bus s.regs.pc.w ops ∧
        Fetches I (pass I ops.length s).bus (pass I ops.length s).regs.pc.w
          ops' := by
  induction ops generalizing s with
  | nil => exact ⟨fun h => ⟨trivial, h⟩, fun h => h.2⟩
  | cons op ops ih =>
      have hs := ih (pass1 I s)
      rw [pass1_pc] at hs
      exact (and_congr_right fun _ => hs).trans and_assoc.symm

theorem pass1_same {s t : Instance β} (h : Same s t) :
    Same (pass1 I s) (pass1 I t) := by
  unfold pass1
  rw [h.regs, h.bus]
  exact ⟨rfl, h.st, rfl⟩

theorem pass_same {s t : Instance β} (h : Same s t) (n : Nat) :
    Same (pass I n s) (pass I n t) := by
  induction n generalizing s t with
  | zero => exact h
  | succ n ih => exact ih (pass1_same h)

/-- The instance past the shadow of `ei`. -/
def Instance.calm (s : Instance β) : Instance β :=
  { s with st := { s.st with aei := false } }

theorem calm_of_aei {s : Instance β} (h : s.st.aei = false) : s.calm = s := by
  cases s with
  | mk regs st time bus =>
      cases st
      cases h
      rfl

theorem Same.calm {s t : Instance β} (h : Same s t) : Same s.calm t.calm :=
  ⟨h.regs, congrArg (fun st => { st with aei := false }) h.st, h.bus⟩

theorem pass_calm (n : Nat) (s : Instance β) :
    pass I n s.calm = (pass I n s).calm := by
  induction n generalizing s with
  | zero => rfl
  | succ n ih => exact ih (pass1 I s)

/-- The state has an interrupt of either kind that the prolog takes. -/
def Instance.accepts (s : Instance β) : Bool :=
  !s.st.aei && (s.st.nmi || s.st.iff1 && s.st.int)

theorem accepts_eq_false {s : Instance β} (h : s.accepts = false) :
    s.acceptsInt = false ∧ ¬ (s.st.nmi = true ∧ s.st.aei = false) := by
  simp only [Instance.accepts, Instance.acceptsInt] at *
  grind

/-- The prolog goes on to the fetch of an opcode. -/
structure Fetching (s : Instance β) : Prop where
  atBoundary : s.atBoundary = true
  hlt : s.st.hlt = false
  accepts : s.accepts = false

theorem prolog_fetching {s : Instance β} (h : Fetching s) :
    prolog I s = fetchOpcode I s.regs.pc.w s.calm := by
  obtain ⟨hint, hnmi⟩ := accepts_eq_false h.accepts
  cases haei : s.st.aei with
  | true =>
      rw [prolog_aei haei]
      exact checkHlt_run h.hlt
  | false =>
      have hn : s.st.nmi = false := by simpa [haei] using hnmi
      rw [prolog_none haei hn hint, calm_of_aei haei]
      exact checkHlt_run h.hlt

/-! ## The labels -/

/-- What the micro-instruction does does not depend on the counters. -/
theorem exec_same (opP wz : Word) (i : Instr) {s t : Instance β}
    (h : Same s t) : Same (exec I opP wz i s).2 (exec I opP wz i t).2 :=
  (judgment_exec judgment_same opP wz i (fun _ => sim_writesSt) s t h).2

/-- The instruction reads a scratch register of the prolog or of a fetch. -/
def Instr.scratch : Instr → Bool
  | .blockIn _ _ | .blockOut _ _ | .blockLd _ _ | .blockCp _ _ => true
  | .rotIndR16PlusI08 _ _ | .rotIndR16PlusI08R08 _ _ _ => true
  | .bitBIndR16PlusI08 _ _ => true
  | .resBIndR16PlusI08 _ _ | .resBIndR16PlusI08R08 _ _ _ => true
  | .setBIndR16PlusI08 _ _ | .setBIndR16PlusI08R08 _ _ _ => true
  | _ => false

theorem exec_scratch {i : Instr} (h : i.scratch = false) (opP wz : Word) :
    exec I opP wz i = exec I 0 0 i := by
  cases i with
  | blockIn | blockOut | blockLd | blockCp => cases h
  | rotIndR16PlusI08 | rotIndR16PlusI08R08 | bitBIndR16PlusI08 => cases h
  | resBIndR16PlusI08 | resBIndR16PlusI08R08 => cases h
  | setBIndR16PlusI08 | setBIndR16PlusI08R08 => cases h
  | _ => rfl

/-- The same bus, but `f` answers when an opcode byte is fetched. -/
def Interface.fetchedBy (I : Interface β) (f : β → Word → Byte × β) :
    Interface β :=
  { I with mreqM1 := f }

/-- A micro-instruction fetches no opcode bytes. -/
theorem exec_fetchedBy (f : β → Word → Byte × β) (opP wz : Word) (i : Instr) :
    exec (I.fetchedBy f) opP wz i = exec I opP wz i := by
  cases i with
  | _ => rfl

theorem execEntry_same (opP wz : Word) (e : Entry) (s : Instance β) :
    Same (execEntry I opP wz e s).2 (exec I opP wz e.micro s).2 :=
  ⟨rfl, rfl, rfl⟩

/-- The state in which an opcode byte has been fetched. -/
def fetched1 (I : Interface β) (s : Instance β) : Instance β :=
  { pass1 I s with time := s.time.adjust }

theorem fetchOpcode_eq (opP : Word) (s : Instance β) :
    fetchOpcode I opP s =
      let r := executeOpcode I opP (I.mreqM1 s.bus s.regs.pc.w).1 (fetched1 I s)
      (.exec (r.1.1 + 1) r.1.2, r.2) := rfl

theorem bind_apply {α γ : Type} (m : CpuM β α) (f : α → CpuM β γ)
    (s : Instance β) : (m >>= f) s = f (m s).1 (m s).2 := rfl

/-- A row of the main table that leaves the switch. The main table does not
lead to an indexed `cb` page. -/
theorem executeOpcode_row {op : Byte}
    (hn : (entryMain op).next = .epilog ∨ (entryMain op).next = .fetchDdcb ∨
      (entryMain op).next = .fetchFdcb) (opP : Word) (s : Instance β) :
    executeOpcode I opP op s =
      ((0, (entryMain op).micro), (execEntry I opP 0 (entryMain op) s).2) := by
  unfold executeOpcode
  rw [bind_apply]
  rcases hn with hn | hn | hn
  · simp only [hn]
    rfl
  · simp only [hn]
    rfl
  · simp only [hn]
    rfl

/-- A row of the main table that goes on runs `nop` first. -/
theorem executeOpcode_goto {op : Byte} {n : Next}
    (he : entryMain op = Opcodes.goto 1 4 n) {m : CpuM β (Nat × Instr)}
    {opP : Word}
    (hm : n = .fetchCb ∧ m = fetchCbOpcode I opP ∨
      n = .fetchEd ∧ m = fetchEdOpcode I opP ∨
      n = .fetchDd ∧ m = fetchDdOpcode I opP ∨
      n = .fetchFd ∧ m = fetchFdOpcode I opP) (s : Instance β) :
    executeOpcode I opP op s = m { s with time := s.time.consume 1 4 } := by
  unfold executeOpcode
  rw [he]
  rcases hm with ⟨rfl, rfl⟩ | ⟨rfl, rfl⟩ | ⟨rfl, rfl⟩ | ⟨rfl, rfl⟩
  · rfl
  · rfl
  · rfl
  · rfl

/-- The state in which a prefix has been fetched and its row has been run. -/
def prefixed (I : Interface β) (s : Instance β) : Instance β :=
  { pass1 I s with time := s.time.adjust.consume 1 4 }

/-- The fetch of a prefix goes on to its page. -/
theorem fetchOpcode_goto {op : Byte} {n : Next} {s : Instance β}
    (h : (I.mreqM1 s.bus s.regs.pc.w).1 = op)
    (he : entryMain op = Opcodes.goto 1 4 n) {m : CpuM β (Nat × Instr)}
    {opP : Word}
    (hm : n = .fetchCb ∧ m = fetchCbOpcode I opP ∨
      n = .fetchEd ∧ m = fetchEdOpcode I opP ∨
      n = .fetchDd ∧ m = fetchDdOpcode I opP ∨
      n = .fetchFd ∧ m = fetchFdOpcode I opP) :
    fetchOpcode I opP s =
      let r := m (prefixed I s)
      (.exec (r.1.1 + 1) r.1.2, r.2) := by
  rw [fetchOpcode_eq, h, executeOpcode_goto he hm]
  rfl

/-- The second of two opcode bytes is fetched behind the first. -/
theorem prefixed_fetches {a b : Byte} {s : Instance β} {ops : List Byte}
    (h : Fetches I s.bus s.regs.pc.w (a :: b :: ops)) :
    (I.mreqM1 (prefixed I s).bus (prefixed I s).regs.pc.w).1 = b := by
  have hpc : (prefixed I s).regs.pc.w = s.regs.pc.w + 1 := pass1_pc (I := I) s
  rw [hpc]
  exact h.2.1

theorem fetchM1_eq {s : Instance β} {op : Byte}
    (h : (I.mreqM1 s.bus s.regs.pc.w).1 = op) :
    fetchM1 I s = (op, fetched1 I s) := by
  subst h
  rfl

/-- A row of an index page that leaves the switch. -/
theorem fetchIndexedOpcode_row {entry : Byte → Entry}
    (fetchCb : Word → CpuM β (Nat × Instr)) (opP : Word) {s : Instance β}
    {op : Byte} (h : (I.mreqM1 s.bus s.regs.pc.w).1 = op)
    (hn : ¬ ((entry op).next = .fetchDdcb ∨ (entry op).next = .fetchFdcb)) :
    fetchIndexedOpcode I entry fetchCb opP s =
      ((1, (entry op).micro),
        (execEntry I opP 0 (entry op) (fetched1 I s)).2) := by
  unfold fetchIndexedOpcode
  rw [bind_apply, fetchM1_eq h, bind_apply]
  cases he : (entry op).next with
  | fetchDdcb => exact absurd (Or.inl he) hn
  | fetchFdcb => exact absurd (Or.inr he) hn
  | _ => rfl

/-- A row of an index page that goes on. -/
theorem fetchIndexedOpcode_goto {entry : Byte → Entry}
    (fetchCb : Word → CpuM β (Nat × Instr)) (opP : Word) {s : Instance β}
    {op : Byte} (h : (I.mreqM1 s.bus s.regs.pc.w).1 = op)
    (hn : (entry op).next = .fetchDdcb ∨ (entry op).next = .fetchFdcb) :
    fetchIndexedOpcode I entry fetchCb opP s =
      let r := fetchCb opP (execEntry I opP 0 (entry op) (fetched1 I s)).2
      ((r.1.1 + 1, r.1.2), r.2) := by
  unfold fetchIndexedOpcode
  rw [bind_apply, fetchM1_eq h, bind_apply]
  rcases hn with hn | hn
  · simp only [hn]
    rfl
  · simp only [hn]
    rfl

/-- The row of `cb` in an index page. -/
theorem fetchIndexedOpcode_cb {entry : Byte → Entry} {n : Next}
    (fetchCb : Word → CpuM β (Nat × Instr)) (opP : Word) {s : Instance β}
    (h : (I.mreqM1 s.bus s.regs.pc.w).1 = 0xcb)
    (he : entry 0xcb = Opcodes.goto1 2 8 n)
    (hn : n = .fetchDdcb ∨ n = .fetchFdcb) :
    fetchIndexedOpcode I entry fetchCb opP s =
      let r := fetchCb opP (prefixed I s)
      ((r.1.1 + 1, r.1.2), r.2) := by
  rw [fetchIndexedOpcode_goto fetchCb opP h (by rw [he]; exact hn), he]
  rfl

/-- The displacement and the opcode of an indexed `cb` page. -/
theorem fetchIndexedCbOpcode_eq (r : R16) (entry : Byte → Entry) (opP : Word)
    (s : Instance β) :
    fetchIndexedCbOpcode I r entry opP s =
      let d := fetchByte I s
      let o := fetchByte I d.2
      ((0, (entry o.1).micro),
        (execEntry I opP (d.2.regs.get16 r + sbyte d.1) (entry o.1) o.2).2) :=
  rfl

/-! ## The pages -/

/-- The seven tables. -/
inductive Page where
  | main | cb | ed | dd | fd | ddcb | fdcb
deriving DecidableEq, Repr

namespace Page

/-- The prefix bytes. -/
def codes : Page → List Byte
  | .main => []
  | .cb => [0xcb]
  | .ed => [0xed]
  | .dd => [0xdd]
  | .fd => [0xfd]
  | .ddcb => [0xdd, 0xcb]
  | .fdcb => [0xfd, 0xcb]

def entry : Page → Byte → Entry
  | .main => entryMain
  | .cb => entryCb
  | .ed => entryEd
  | .dd => entryDd
  | .fd => entryFd
  | .ddcb => entryDdcb
  | .fdcb => entryFdcb

/-- The index register of the pages behind two prefixes. Their displacement
and opcode are read and not fetched. -/
def index : Page → Option R16
  | .ddcb => some .ixW
  | .fdcb => some .iyW
  | _ => none

/-- The bytes at the program counter lead to the row of an opcode. -/
def Decodes (I : Interface β) (p : Page) (op : Byte) (s : Instance β) : Prop :=
  match p.index with
  | none => Fetches I s.bus s.regs.pc.w (p.codes ++ [op]) ∧
      (p.entry op).next = .epilog
  | some _ => Fetches I s.bus s.regs.pc.w p.codes ∧
      (fetchByte I (fetchByte I (pass I 2 s)).2).1 = op

/-- The state behind the bytes of the instruction. -/
def fetched (I : Interface β) (p : Page) (s : Instance β) : Instance β :=
  match p.index with
  | none => pass I (p.codes.length + 1) s
  | some _ => (fetchByte I (fetchByte I (pass I 2 s)).2).2

/-- The address that the fetch leaves in `WZ`. -/
def wz (I : Interface β) (p : Page) (s : Instance β) : Word :=
  match p.index with
  | none => 0
  | some r => s.regs.get16 r + sbyte (fetchByte I (pass I 2 s)).1

/-- The counters behind the fetches. -/
def fetchTime (p : Page) (t : Timing) : Timing :=
  match p with
  | .main => t.adjust
  | .ddcb | .fdcb => ((t.adjust.consume 1 4).adjust).consume 1 4
  | _ => (t.adjust.consume 1 4).adjust

/-- The number of bytes that are fetched with `m_mreq_m1`. -/
def fetches : Page → Nat
  | .main => 1
  | _ => 2

end Page

/-- What the prolog does with an instruction. -/
theorem prolog_decodes {p : Page} {op : Byte} {s : Instance β}
    (hs : Fetching s) (h : p.Decodes I op s) :
    prolog I s =
      (.exec p.fetches (p.entry op).micro,
        (execEntry I s.regs.pc.w (p.wz I s) (p.entry op)
          { (p.fetched I s).calm with time := p.fetchTime s.time }).2) := by
  -- The bus does not see the shadow of `ei`.
  have hcalm {ops : List Byte} (hc : Fetches I s.bus s.regs.pc.w ops) :
      Fetches I s.calm.bus s.calm.regs.pc.w ops := hc
  rw [prolog_fetching hs]
  cases p with
  | main =>
      obtain ⟨hc, hn⟩ := h
      rw [fetchOpcode_eq, (hcalm hc).1, executeOpcode_row (.inl hn)]
      rfl
  | cb =>
      obtain ⟨hc, _⟩ := h
      have hop := prefixed_fetches (hcalm hc)
      rw [fetchOpcode_goto (hcalm hc).1 (by decide) (.inl ⟨rfl, rfl⟩)]
      rw [← hop]
      rfl
  | ed =>
      obtain ⟨hc, _⟩ := h
      have hop := prefixed_fetches (hcalm hc)
      rw [fetchOpcode_goto (hcalm hc).1 (by decide) (.inr (.inl ⟨rfl, rfl⟩))]
      rw [← hop]
      rfl
  | dd =>
      obtain ⟨hc, hn⟩ := h
      have hrow : (entryDd op).next = .epilog := hn
      have hr : fetchDdOpcode I s.regs.pc.w (prefixed I s.calm) = _ :=
        fetchIndexedOpcode_row _ _ (prefixed_fetches (hcalm hc))
          (by simp [hrow])
      rw [fetchOpcode_goto (hcalm hc).1 (by decide)
        (.inr (.inr (.inl ⟨rfl, rfl⟩))), hr]
      rfl
  | fd =>
      obtain ⟨hc, hn⟩ := h
      have hrow : (entryFd op).next = .epilog := hn
      have hr : fetchFdOpcode I s.regs.pc.w (prefixed I s.calm) = _ :=
        fetchIndexedOpcode_row _ _ (prefixed_fetches (hcalm hc))
          (by simp [hrow])
      rw [fetchOpcode_goto (hcalm hc).1 (by decide)
        (.inr (.inr (.inr ⟨rfl, rfl⟩))), hr]
      rfl
  | ddcb =>
      obtain ⟨hc, hread⟩ := h
      have he : entryDd 0xcb = Opcodes.goto1 2 8 .fetchDdcb := by decide
      have hr : fetchDdOpcode I s.regs.pc.w (prefixed I s.calm) = _ :=
        fetchIndexedOpcode_cb _ _ (prefixed_fetches (hcalm hc)) he (.inl rfl)
      have hindex : (pass I 2 s).regs.get16 .ixW = s.regs.get16 .ixW := rfl
      have htwo : prefixed I (prefixed I s.calm) =
          { (pass I 2 s).calm with time := Page.ddcb.fetchTime s.time } := rfl
      rw [fetchOpcode_goto (hcalm hc).1 (by decide)
        (.inr (.inr (.inl ⟨rfl, rfl⟩))), hr]
      simp only [htwo, fetchDdcbOpcode, fetchIndexedCbOpcode_eq]
      simp only [Page.fetched, Page.wz, Page.index, ← hindex]
      subst hread
      generalize pass I 2 s = v
      rfl
  | fdcb =>
      obtain ⟨hc, hread⟩ := h
      have he : entryFd 0xcb = Opcodes.goto1 2 8 .fetchFdcb := by decide
      have hr : fetchFdOpcode I s.regs.pc.w (prefixed I s.calm) = _ :=
        fetchIndexedOpcode_cb _ _ (prefixed_fetches (hcalm hc)) he (.inr rfl)
      have hindex : (pass I 2 s).regs.get16 .iyW = s.regs.get16 .iyW := rfl
      have htwo : prefixed I (prefixed I s.calm) =
          { (pass I 2 s).calm with time := Page.fdcb.fetchTime s.time } := rfl
      rw [fetchOpcode_goto (hcalm hc).1 (by decide)
        (.inr (.inr (.inr ⟨rfl, rfl⟩))), hr]
      simp only [htwo, fetchFdcbOpcode, fetchIndexedCbOpcode_eq]
      simp only [Page.fetched, Page.wz, Page.index, ← hindex]
      subst hread
      generalize pass I 2 s = v
      rfl

/-- A whole instruction is its micro-instruction, run behind its bytes. -/
theorem instruction_decodes {p : Page} {op : Byte} {s : Instance β}
    (hs : Fetching s) (h : p.Decodes I op s) :
    Same (instruction I s)
      (exec I s.regs.pc.w (p.wz I s) (p.entry op).micro
        (p.fetched I s).calm).2 := by
  have hp := instruction_same (I := I) hs.atBoundary
  rw [prolog_decodes hs h] at hp
  have ht : Same { (p.fetched I s).calm with time := p.fetchTime s.time }
      (p.fetched I s).calm := ⟨rfl, rfl, rfl⟩
  exact hp.trans ((execEntry_same _ _ _ _).trans (exec_same _ _ _ ht))

/-- The registers behind some bytes: only the program counter and the refresh
register moved. -/
theorem pass_regs (n : Nat) (s : Instance β) :
    ∃ pc l, (pass I n s).regs =
      { s.regs with pc := pc, ir := { s.regs.ir with l := l } } := by
  induction n generalizing s with
  | zero => exact ⟨s.regs.pc, s.regs.ir.l, rfl⟩
  | succ n ih =>
      obtain ⟨pc, l, h⟩ := ih (pass1 I s)
      exact ⟨pc, l, h⟩

theorem fetchByte_st (s : Instance β) : (fetchByte I s).2.st = s.st := rfl

theorem fetched_st (p : Page) (s : Instance β) :
    (p.fetched I s).st = s.st := by
  cases hi : p.index with
  | none =>
      rw [Page.fetched, hi]
      exact (pass_keeps _ s).2
  | some r =>
      rw [Page.fetched, hi]
      show (fetchByte I (fetchByte I (pass I 2 s)).2).2.st = _
      rw [fetchByte_st, fetchByte_st]
      exact (pass_keeps 2 s).2

theorem fetched_regs (p : Page) (s : Instance β) :
    ∃ pc l, (p.fetched I s).regs =
      { s.regs with pc := pc, ir := { s.regs.ir with l := l } } := by
  cases hi : p.index with
  | none =>
      obtain ⟨pc, l, h⟩ := pass_regs (I := I) (p.codes.length + 1) s
      refine ⟨pc, l, ?_⟩
      rw [Page.fetched, hi]
      exact h
  | some r =>
      obtain ⟨pc, l, h⟩ := pass_regs (I := I) 2 s
      refine ⟨.ofW ((pass I 2 s).regs.pc.w + 1 + 1), l, ?_⟩
      rw [Page.fetched, hi]
      simp [fetchByte, bind, StateT.bind, reads, mreqRd, writes, pure,
        StateT.pure, h, Regs.setPc]

end Xcpc.Cpu
