import Xcpc.Cpu.Core
import Xcpc.Lib.StateRel

/-!
# Judgments about the microcode

There are ninety micro-instructions and a handful of things to know about
them: how many states they consume, that the counters do not influence what
they do, that they leave `ST_L` alone. Proving each of these by running
through the instructions would be the same walk several times over.

The walk is done once, for any judgment at all. `Judgment` asks what the
monad and the accesses have to satisfy, with a lower and an upper grade that
add up along a program, and the theorems below give the judgment of every
instruction, of every table and of the prolog. A judgment that does not count
ignores the grades.
-/

namespace Xcpc.Cpu

variable {β : Type} {I : Interface β}

/-- The rules that a judgment about programs of the microcode has to have.
`P lo hi α m` is read as: `m` has the property, and consumes between `lo` and
`hi` states. -/
structure Judgment (I : Interface β)
    (P : Nat → Nat → ∀ α : Type, CpuM β α → Prop) : Prop where
  pure : ∀ {α : Type} (a : α), P 0 0 α (pure a)
  bind : ∀ {α γ : Type} {lo hi lo' hi' : Nat} {m : CpuM β α}
    {f : α → CpuM β γ}, P lo hi α m → (∀ a, P lo' hi' γ (f a)) →
    P (lo + lo') (hi + hi') γ (m >>= f)
  weaken : ∀ {α : Type} {lo hi lo' hi' : Nat} {m : CpuM β α}, P lo hi α m →
    lo' ≤ lo → hi ≤ hi' → P lo' hi' α m
  reads : ∀ {α : Type} (f : Regs → α), P 0 0 α (reads f)
  writes : ∀ f, P 0 0 Unit (writes f)
  readsSt : ∀ {α : Type} (f : Status → α), P 0 0 α (readsSt f)
  mreqM1 : ∀ a, P 0 3 Byte (mreqM1 I a)
  mreqRd : ∀ a, P 0 0 Byte (mreqRd I a)
  mreqWr : ∀ a v, P 0 0 Unit (mreqWr I a v)
  iorqM1 : ∀ a, P 0 0 Byte (iorqM1 I a)
  iorqRd : ∀ a, P 0 0 Byte (iorqRd I a)
  iorqWr : ∀ a v, P 0 0 Unit (iorqWr I a v)
  consume : ∀ c n, P n n Unit (consume c n)

namespace Judgment

variable {P : Nat → Nat → ∀ α : Type, CpuM β α → Prop}

theorem andThen (hP : Judgment I P) {α γ : Type} {lo hi : Nat} {m : CpuM β α}
    {f : α → CpuM β γ} (hm : P 0 0 α m) (hf : ∀ a, P lo hi γ (f a)) :
    P lo hi γ (m >>= f) := by
  have h := hP.bind hm hf
  rwa [Nat.zero_add, Nat.zero_add] at h

theorem before (hP : Judgment I P) {α γ : Type} {lo hi : Nat} {m : CpuM β α}
    {f : α → CpuM β γ} (hm : P lo hi α m) (hf : ∀ a, P 0 0 γ (f a)) :
    P lo hi γ (m >>= f) :=
  hP.bind hm hf

theorem branch {b : Bool} {lo hi : Nat} {m n : CpuM β Unit}
    (hm : P lo hi Unit m) (hn : P lo hi Unit n) :
    P lo hi Unit (branch b m n) := by
  unfold Cpu.branch
  split
  · exact hm
  · exact hn

/-- A branch whose first side may consume and whose second does not. -/
theorem branchSpend (hP : Judgment I P) {b : Bool} {lo hi : Nat}
    {m n : CpuM β Unit} (hm : P lo hi Unit m) (hn : P 0 0 Unit n) :
    P 0 hi Unit (Cpu.branch b m n) :=
  branch (hP.weaken hm (Nat.zero_le _) (Nat.le_refl _))
    (hP.weaken hn (Nat.le_refl _) (Nat.zero_le _))

/-! ## The parts of the instructions -/

theorem fetchByte (hP : Judgment I P) : P 0 0 Byte (fetchByte I) :=
  hP.andThen (hP.reads _) fun _ =>
    hP.andThen (hP.mreqRd _) fun _ =>
      hP.andThen (hP.writes _) fun _ => hP.pure _

theorem fetchWord (hP : Judgment I P) : P 0 0 Word (fetchWord I) :=
  hP.andThen hP.fetchByte fun _ =>
    hP.andThen hP.fetchByte fun _ => hP.pure _

theorem fetchIndexed (hP : Judgment I P) (r : R16) :
    P 0 0 Word (fetchIndexed I r) :=
  hP.andThen hP.fetchByte fun _ =>
    hP.andThen (hP.reads _) fun _ => hP.pure _

theorem pushWord (hP : Judgment I P) (v : Word) :
    P 0 0 Unit (pushWord I v) :=
  hP.andThen (hP.reads _) fun _ =>
    hP.andThen (hP.mreqWr _ _) fun _ =>
      hP.andThen (hP.mreqWr _ _) fun _ => hP.writes _

theorem popWord (hP : Judgment I P) : P 0 0 Word (popWord I) :=
  hP.andThen (hP.reads _) fun _ =>
    hP.andThen (hP.mreqRd _) fun _ =>
      hP.andThen (hP.mreqRd _) fun _ =>
        hP.andThen (hP.writes _) fun _ => hP.pure _

theorem rstVec16 (hP : Judgment I P) (a : Word) :
    P 0 0 Unit (rstVec16 I a) :=
  hP.andThen (hP.reads _) fun _ =>
    hP.andThen (hP.pushWord _) fun _ => hP.writes _

theorem jumpRelative (hP : Judgment I P) : P 0 0 Unit (jumpRelative I) :=
  hP.andThen (hP.reads _) fun _ =>
    hP.andThen (hP.mreqRd _) fun _ => hP.writes _

theorem restorePc (hP : Judgment I P) (opP : Word) (b : Bool) :
    P 0 5 Unit (restorePc opP b) :=
  hP.branchSpend (hP.andThen (hP.writes _) fun _ => hP.consume 1 5)
    (hP.pure _)

theorem modifyInd (hP : Judgment I P) (a : Word)
    (f : Byte → Byte → Byte × Byte) : P 0 0 Byte (modifyInd I a f) :=
  hP.andThen (hP.mreqRd _) fun _ =>
    hP.andThen (hP.reads _) fun _ =>
      hP.andThen (hP.writes _) fun _ =>
        hP.andThen (hP.mreqWr _ _) fun _ => hP.pure _

theorem modifyR08 (hP : Judgment I P) (r : R8)
    (f : Byte → Byte → Byte × Byte) : P 0 0 Unit (modifyR08 r f) :=
  hP.andThen (hP.reads _) fun _ =>
    hP.andThen (hP.reads _) fun _ =>
      hP.andThen (hP.writes _) fun _ => hP.writes _

theorem aluAcc (hP : Judgment I P) (op : Alu) (r1 r2 : Byte) :
    P 0 0 Unit (aluAcc op r1 r2) :=
  hP.andThen (hP.reads _) fun _ =>
    hP.andThen (branch (hP.writes _) (hP.pure _)) fun _ => hP.writes _

theorem bitTest (hP : Judgment I P) (mask r1 yx : Byte) :
    P 0 0 Unit (bitTest mask r1 yx) :=
  hP.writes _

end Judgment

/-! ## Instructions -/

/-- The instructions that write `ST_L`. -/
def Instr.writesSt : Instr → Bool
  | .di | .ei | .halt | .im _ _ | .retn => true
  | _ => false

/-- The most states an instruction consumes besides those of its row. -/
def Instr.extra : Instr → Nat
  | .blockIn _ _ | .blockOut _ _ | .blockLd _ _ | .blockCp _ _ => 5
  | .djnzI08 | .jrCcI08 _ => 5
  | .callCcI16 _ => 7
  | .retCc _ => 6
  | _ => 0

theorem Instr.extra_le (i : Instr) : i.extra ≤ 7 := by
  unfold Instr.extra
  split <;> omega

theorem judgment_exec {P : Nat → Nat → ∀ α : Type, CpuM β α → Prop}
    (hP : Judgment I P) (opP wz : Word) (i : Instr)
    (hst : i.writesSt = true → ∀ f, P 0 0 Unit (writesSt f)) :
    P 0 i.extra Unit (exec I opP wz i) := by
  cases i with
  | di =>
      simp only [exec]
      exact hst rfl _
  | ei =>
      simp only [exec]
      exact hst rfl _
  | halt =>
      simp only [exec]
      exact hst rfl _
  | im im1 im2 =>
      simp only [exec]
      exact hst rfl _
  | retn =>
      exact hP.andThen (hst rfl _) fun _ =>
        hP.andThen hP.popWord fun _ => hP.writes _
  | blockIn d rep =>
      exact hP.andThen (hP.reads _) fun _ => hP.andThen (hP.reads _) fun _ =>
        hP.andThen (hP.iorqRd _) fun _ => hP.andThen (hP.mreqWr _ _) fun _ =>
        hP.andThen (hP.writes _) fun _ => hP.andThen (hP.writes _) fun _ =>
        hP.andThen (hP.reads _) fun _ =>
        hP.before (hP.restorePc _ _) fun _ => hP.writes _
  | blockOut d rep =>
      exact hP.andThen (hP.reads _) fun _ => hP.andThen (hP.mreqRd _) fun _ =>
        hP.andThen (hP.writes _) fun _ => hP.andThen (hP.writes _) fun _ =>
        hP.andThen (hP.reads _) fun _ => hP.andThen (hP.iorqWr _ _) fun _ =>
        hP.andThen (hP.reads _) fun _ =>
        hP.before (hP.restorePc _ _) fun _ => hP.writes _
  | blockLd d rep =>
      exact hP.andThen (hP.reads _) fun _ => hP.andThen (hP.reads _) fun _ =>
        hP.andThen (hP.mreqRd _) fun _ => hP.andThen (hP.reads _) fun _ =>
        hP.andThen (hP.mreqWr _ _) fun _ => hP.andThen (hP.writes _) fun _ =>
        hP.andThen (hP.writes _) fun _ => hP.andThen (hP.writes _) fun _ =>
        hP.andThen (hP.reads _) fun _ => hP.andThen (hP.writes _) fun _ =>
        hP.restorePc _ _
  | blockCp d rep =>
      exact hP.andThen (hP.reads _) fun _ => hP.andThen (hP.reads _) fun _ =>
        hP.andThen (hP.mreqRd _) fun _ => hP.andThen (hP.writes _) fun _ =>
        hP.andThen (hP.writes _) fun _ => hP.andThen (hP.reads _) fun _ =>
        hP.before (hP.restorePc _ _) fun _ => hP.writes _
  | djnzI08 =>
      exact hP.andThen (hP.writes _) fun _ => hP.andThen (hP.reads _) fun _ =>
        hP.branchSpend
          (hP.andThen hP.jumpRelative fun _ => hP.consume 1 5)
          (hP.writes _)
  | jrCcI08 cc =>
      exact hP.andThen (hP.reads _) fun _ =>
        hP.branchSpend
          (hP.andThen hP.jumpRelative fun _ => hP.consume 1 5)
          (hP.writes _)
  | jpCcI16 cc =>
      exact hP.andThen (hP.reads _) fun _ =>
        Judgment.branch (hP.andThen hP.fetchWord fun _ => hP.writes _)
          (hP.writes _)
  | callCcI16 cc =>
      exact hP.andThen (hP.reads _) fun _ =>
        hP.branchSpend
          (hP.andThen hP.fetchWord fun _ =>
            hP.andThen (hP.rstVec16 _) fun _ => hP.consume 2 7)
          (hP.writes _)
  | retCc cc =>
      exact hP.andThen (hP.reads _) fun _ =>
        hP.branchSpend
          (hP.andThen hP.popWord fun _ =>
            hP.andThen (hP.writes _) fun _ => hP.consume 2 6)
          (hP.pure _)
  | _ =>
      -- The rest are sequences of accesses that consume nothing.
      simp only [exec, Instr.extra]
      with_reducible repeat' first
        | exact hP.pure _ | exact hP.reads _ | exact hP.writes _
        | exact hP.readsSt _ | exact hP.mreqRd _ | exact hP.mreqWr _ _
        | exact hP.iorqRd _ | exact hP.iorqWr _ _ | exact hP.fetchByte
        | exact hP.fetchWord | exact hP.fetchIndexed _ | exact hP.popWord
        | exact hP.pushWord _ | exact hP.rstVec16 _ | exact hP.jumpRelative
        | exact hP.modifyInd _ _ | exact hP.modifyR08 _ _
        | exact hP.aluAcc _ _ _ | exact hP.bitTest _ _ _
        | refine hP.andThen ?_ fun _ => ?_

/-! ## Tables

The rows of all seven tables consume between four and nineteen states. -/

def Entry.Timed (e : Entry) : Prop := 4 ≤ e.tStates ∧ e.tStates ≤ 19

instance (e : Entry) : Decidable e.Timed :=
  inferInstanceAs (Decidable (_ ∧ _))

/-- What holds of every row and of the `default` row holds of the row that is
looked up. -/
theorem lookup_all {Q : Entry → Prop} {table : List Entry}
    {cycles states : Nat} (h : ∀ e ∈ table, Q e)
    (hd : Q (Opcodes.row cycles states .illegal)) (op : Byte) :
    Q (lookup table cycles states op) := by
  unfold lookup
  rw [List.getD_eq_getElem?_getD]
  cases he : table[op.toNat]? with
  | none => exact hd
  | some e => exact h e (List.mem_of_getElem? he)

/-- What holds of the rows of two tables one by one holds of the rows that
are looked up. -/
theorem lookup_forall₂ {Q : Entry → Entry → Prop} {as bs : List Entry}
    {cycles states : Nat} (h : List.Forall₂ Q as bs)
    (hd : Q (Opcodes.row cycles states .illegal)
      (Opcodes.row cycles states .illegal)) (op : Byte) :
    Q (lookup as cycles states op) (lookup bs cycles states op) := by
  unfold lookup
  generalize op.toNat = n
  induction h generalizing n with
  | nil => exact hd
  | cons hab _ ih =>
      cases n with
      | zero => exact hab
      | succ n => exact ih n

theorem lookup_getElem {table : List Entry} {cycles states : Nat} {op : Byte}
    (h : op.toNat < table.length) :
    lookup table cycles states op = table[op.toNat] := by
  rw [lookup, List.getD_eq_getElem?_getD, List.getElem?_eq_getElem h,
    Option.getD_some]

/-- The same with the opcode of each row, for tables that have them all. -/
theorem lookup_zipIdx {Q : Byte → Entry → Prop} {table : List Entry}
    {cycles states : Nat} (hl : table.length = 256)
    (h : ∀ r ∈ table.zipIdx, Q (BitVec.ofNat 8 r.2) r.1) (op : Byte) :
    Q op (lookup table cycles states op) := by
  have hop : op.toNat < table.length := by
    rw [hl]
    exact op.isLt
  have hmem : (table[op.toNat], op.toNat) ∈ table.zipIdx :=
    List.mk_mem_zipIdx_iff_getElem?.2 (List.getElem?_eq_getElem hop)
  rw [lookup_getElem hop]
  simpa using h _ hmem

/-- The same for the rows of two tables and their opcode. -/
theorem lookup_zip {Q : Byte → Entry → Entry → Prop} {as bs : List Entry}
    {cycles states : Nat} (ha : as.length = 256) (hb : bs.length = 256)
    (h : ∀ r ∈ (as.zip bs).zipIdx, Q (BitVec.ofNat 8 r.2) r.1.1 r.1.2)
    (op : Byte) :
    Q op (lookup as cycles states op) (lookup bs cycles states op) := by
  have hopa : op.toNat < as.length := by
    rw [ha]
    exact op.isLt
  have hopb : op.toNat < bs.length := by
    rw [hb]
    exact op.isLt
  have hrows : (as.zip bs)[op.toNat]? =
      some (as[op.toNat], bs[op.toNat]) :=
    List.getElem?_zip_eq_some.2
      ⟨List.getElem?_eq_getElem hopa, List.getElem?_eq_getElem hopb⟩
  have hmem := List.mk_mem_zipIdx_iff_getElem?.2 hrows
  rw [lookup_getElem hopa, lookup_getElem hopb]
  simpa using h _ hmem

theorem entryMain_timed (op : Byte) : (entryMain op).Timed :=
  lookup_all (by decide +kernel) (by decide) op

theorem entryCb_timed (op : Byte) : (entryCb op).Timed :=
  lookup_all (by decide +kernel) (by decide) op

theorem entryEd_timed (op : Byte) : (entryEd op).Timed :=
  lookup_all (by decide +kernel) (by decide) op

theorem entryDd_timed (op : Byte) : (entryDd op).Timed :=
  lookup_all (by decide +kernel) (by decide) op

theorem entryFd_timed (op : Byte) : (entryFd op).Timed :=
  lookup_all (by decide +kernel) (by decide) op

theorem entryDdcb_timed (op : Byte) : (entryDdcb op).Timed :=
  lookup_all (by decide +kernel) (by decide) op

theorem entryFdcb_timed (op : Byte) : (entryFdcb op).Timed :=
  lookup_all (by decide +kernel) (by decide) op

section Clock

variable {P : Nat → Nat → ∀ α : Type, CpuM β α → Prop}

theorem judgment_execEntry (hP : Judgment I P)
    (hst : ∀ f, P 0 0 Unit (writesSt f)) (opP wz : Word) {e : Entry}
    (he : e.Timed) : P 4 26 Unit (execEntry I opP wz e) := by
  have h := hP.bind (judgment_exec hP opP wz e.micro fun _ => hst) fun _ =>
    hP.consume e.mCycles e.tStates
  have hx := e.micro.extra_le
  exact hP.weaken h (by have := he.1; omega) (by have := he.2; omega)

theorem judgment_fetchM1 (hP : Judgment I P) : P 0 3 Byte (fetchM1 I) :=
  hP.andThen (hP.reads _) fun _ =>
    hP.before (hP.mreqM1 _) fun _ =>
      hP.andThen (hP.writes _) fun _ =>
        hP.andThen (hP.writes _) fun _ => hP.pure _

theorem judgment_fetchIndexedCb (hP : Judgment I P)
    (hst : ∀ f, P 0 0 Unit (writesSt f)) {entry : Byte → Entry}
    (he : ∀ op, (entry op).Timed) (r : R16) (opP : Word) :
    P 4 26 (Nat × Instr) (fetchIndexedCbOpcode I r entry opP) :=
  hP.andThen (hP.fetchIndexed r) fun _ =>
    hP.andThen hP.fetchByte fun op =>
      hP.before (judgment_execEntry hP hst opP _ (he op)) fun _ => hP.pure _

theorem judgment_fetchPlain (hP : Judgment I P)
    (hst : ∀ f, P 0 0 Unit (writesSt f)) {entry : Byte → Entry}
    (he : ∀ op, (entry op).Timed) (opP : Word) :
    P 4 29 (Nat × Instr) (fetchPlainOpcode I entry opP) := by
  have h := hP.bind (judgment_fetchM1 hP) fun op =>
    hP.before (judgment_execEntry hP hst opP 0 (he op)) fun _ =>
      hP.pure (1, (entry op).micro)
  exact hP.weaken h (Nat.le_refl _) (Nat.le_refl _)

theorem judgment_fetchIndexed (hP : Judgment I P)
    (hst : ∀ f, P 0 0 Unit (writesSt f)) {entry : Byte → Entry}
    {fetchCb : Word → CpuM β (Nat × Instr)} (he : ∀ op, (entry op).Timed)
    (opP : Word) (hcb : P 4 26 (Nat × Instr) (fetchCb opP)) :
    P 4 55 (Nat × Instr) (fetchIndexedOpcode I entry fetchCb opP) := by
  have h : P (0 + (4 + 0)) (3 + (26 + 26)) (Nat × Instr)
      (fetchIndexedOpcode I entry fetchCb opP) := by
    refine hP.bind (judgment_fetchM1 hP) fun op =>
      hP.bind (judgment_execEntry hP hst opP 0 (he op)) fun _ => ?_
    have hgo := hP.before hcb fun r => hP.pure (r.1 + 1, r.2)
    split
    · exact hP.weaken hgo (by omega) (by omega)
    · exact hP.weaken hgo (by omega) (by omega)
    · exact hP.weaken (hP.pure _) (by omega) (by omega)
  exact hP.weaken h (by omega) (by omega)

theorem judgment_executeOpcode (hP : Judgment I P)
    (hst : ∀ f, P 0 0 Unit (writesSt f)) (opP : Word) (op : Byte) :
    P 4 81 (Nat × Instr) (executeOpcode I opP op) := by
  have h : P (4 + 0) (26 + 55) (Nat × Instr) (executeOpcode I opP op) := by
    refine hP.bind (judgment_execEntry hP hst opP 0 (entryMain_timed op))
      fun _ => ?_
    split
    · exact hP.weaken (judgment_fetchPlain hP hst entryCb_timed opP)
        (by omega) (by omega)
    · exact hP.weaken (judgment_fetchPlain hP hst entryEd_timed opP)
        (by omega) (by omega)
    · exact hP.weaken (judgment_fetchIndexed hP hst entryDd_timed opP
        (judgment_fetchIndexedCb hP hst entryDdcb_timed _ opP))
        (by omega) (by omega)
    · exact hP.weaken (judgment_fetchIndexed hP hst entryFd_timed opP
        (judgment_fetchIndexedCb hP hst entryFdcb_timed _ opP))
        (by omega) (by omega)
    · exact hP.weaken (hP.pure _) (by omega) (by omega)
  exact h

theorem judgment_fetchOpcode (hP : Judgment I P)
    (hst : ∀ f, P 0 0 Unit (writesSt f)) (opP : Word) :
    P 4 84 Branch (fetchOpcode I opP) := by
  have h := hP.bind (judgment_fetchM1 hP) fun op =>
    hP.before (judgment_executeOpcode hP hst opP op) fun r =>
      hP.pure (Branch.exec (r.1 + 1) r.2)
  exact hP.weaken h (by omega) (by omega)

theorem judgment_serveNmi (hP : Judgment I P) :
    P 11 11 Unit (serveNmi I) :=
  hP.andThen (hP.rstVec16 _) fun _ => hP.consume 3 11

/-- Every served mode consumes, the empty `default` does not. -/
theorem judgment_serveInt (hP : Judgment I P)
    (hst : ∀ f, P 0 0 Unit (writesSt f)) (opP : Word) {mode : Nat}
    (hm : mode < 3) : P 4 81 Unit (serveInt I opP mode) := by
  match mode, hm with
  | 0, _ =>
      exact hP.andThen (hP.iorqM1 _) fun op =>
        hP.before (judgment_executeOpcode hP hst opP op) fun _ => hP.pure _
  | 1, _ =>
      have h := hP.andThen (hP.iorqM1 0x0000) fun _ =>
        hP.andThen (hP.rstVec16 VECTOR_38H) fun _ => hP.consume 3 13
      exact hP.weaken h (by omega) (by omega)
  | 2, _ =>
      have h := hP.andThen (hP.reads (·.pc.w)) fun pc =>
        hP.andThen (hP.pushWord pc) fun _ =>
        hP.andThen (hP.iorqM1 0x0000) fun l =>
        hP.andThen (hP.reads (·.ir.h)) fun h =>
        hP.andThen (hP.mreqRd (h ++ l)) fun pcL =>
        hP.andThen (hP.mreqRd (h ++ l + 1)) fun pcH =>
        hP.andThen (hP.writes (·.setPc (pcH ++ pcL))) fun _ =>
        hP.consume 5 19
      exact hP.weaken h (by omega) (by omega)

end Clock

/-! ## The prolog

A judgment that does not count has no bounds to lose in the empty `default` of
the mode switch, and it holds of the whole prolog. -/

section Ungraded

variable {Q : ∀ α : Type, CpuM β α → Prop}

theorem Judgment.seq (hQ : Judgment I fun _ _ α m => Q α m) {α γ : Type}
    {m : CpuM β α} {f : α → CpuM β γ} (hm : Q α m) (hf : ∀ a, Q γ (f a)) :
    Q γ (m >>= f) :=
  @Judgment.bind _ _ _ hQ _ _ 0 0 0 0 _ _ hm hf

theorem judgment_serveAnyInt (hQ : Judgment I fun _ _ α m => Q α m)
    (hst : ∀ f, Q Unit (writesSt f)) (opP : Word) (mode : Nat) :
    Q Unit (serveInt I opP mode) := by
  by_cases hm : mode < 3
  · exact judgment_serveInt hQ hst opP hm
  · match mode, hm with
    | _ + 3, _ => exact hQ.pure ()

theorem judgment_checkHlt (hQ : Judgment I fun _ _ α m => Q α m)
    (hst : ∀ f, Q Unit (writesSt f)) (opP : Word) :
    Q Branch (checkHlt I opP) := by
  refine hQ.seq (hQ.readsSt _) fun hlt => ?_
  split
  · exact hQ.seq (hQ.writes _) fun _ =>
      hQ.seq (hQ.consume 1 4) fun _ => hQ.pure _
  · exact judgment_fetchOpcode hQ hst opP

theorem judgment_prolog (hQ : Judgment I fun _ _ α m => Q α m)
    (hst : ∀ f, Q Unit (writesSt f)) : Q Branch (prolog I) := by
  have hint (opP : Word) : Q Branch (checkInt I opP) := by
    refine hQ.seq (hQ.readsSt _) fun take => ?_
    split
    · exact hQ.seq (hst _) fun _ => hQ.seq (hQ.readsSt _) fun mode =>
        hQ.seq (judgment_serveAnyInt hQ hst opP mode) fun _ => hQ.pure _
    · exact judgment_checkHlt hQ hst opP
  have hnmi (opP : Word) : Q Branch (checkNmi I opP) := by
    refine hQ.seq (hQ.readsSt _) fun take => ?_
    split
    · exact hQ.seq (hst _) fun _ =>
        hQ.seq (judgment_serveNmi hQ) fun _ => hQ.pure _
    · exact hint opP
  refine hQ.seq (hQ.reads _) fun opP => ?_
  refine hQ.seq (hQ.readsSt _) fun aei => ?_
  split
  · exact hQ.seq (hst _) fun _ => judgment_checkHlt hQ hst opP
  · exact hnmi opP

end Ungraded

end Xcpc.Cpu
