import Xcpc.Proofs.Decode

/-!
# What instructions do to `ST_L`

Five instructions write the bits of `ST_L`, and what they write is a function
of the bits alone. The fetches report the instruction that was executed, so
the status after one is read off the report. None of the five touches the two
pending bits, only `ei` opens the shadow, and only `halt` sets the latch.

After `halt` the program counter is behind the opcode bytes that were fetched:
the address an interrupt returns to.
-/

namespace Xcpc.Cpu

open Prog

variable {β : Type} {I : Interface β}

/-- What an instruction does to the bits. -/
def Instr.status : Instr → Status → Status
  | .di, st => { st with iff1 := false, iff2 := false, aei := false }
  | .ei, st => { st with iff1 := true, iff2 := true, aei := true }
  | .halt, st => { st with hlt := true }
  | .im im1 im2, st => { st with im1 := im1, im2 := im2 }
  | .retn, st => { st with iff1 := st.iff2 }
  | _, st => st

theorem status_of_not_writesSt {i : Instr} (h : i.writesSt = false)
    (st : Status) : i.status st = st := by
  cases i with
  | di => exact absurd h (by decide)
  | ei => exact absurd h (by decide)
  | halt => exact absurd h (by decide)
  | im im1 im2 => exact absurd h (by simp [Instr.writesSt])
  | retn => exact absurd h (by decide)
  | _ => rfl

@[simp] theorem status_int (i : Instr) (st : Status) :
    (i.status st).int = st.int := by
  cases i with
  | _ => rfl

@[simp] theorem status_nmi (i : Instr) (st : Status) :
    (i.status st).nmi = st.nmi := by
  cases i with
  | _ => rfl

theorem status_aei {st : Status} (h : st.aei = false) (i : Instr) :
    (i.status st).aei = true ↔ i = .ei := by
  cases i with
  | ei => simp [Instr.status]
  | _ => simp [Instr.status, h]

theorem status_hlt {st : Status} (h : st.hlt = false) (i : Instr) :
    (i.status st).hlt = true ↔ i = .halt := by
  cases i with
  | halt => simp [Instr.status]
  | _ => simp [Instr.status, h]

def KeepsSt {α : Type} (m : CpuM β α) : Prop :=
  Moves (fun s t => t.st = s.st) m

theorem preorder_st : Preorder fun s t : Instance β => t.st = s.st where
  refl _ := rfl
  trans h h' := h'.trans h

theorem judgment_keepsSt : Judgment I fun _ _ α m => KeepsSt (α := α) m where
  pure a := moves_pure preorder_st a
  bind hm hf := moves_bind preorder_st hm hf
  weaken hm _ _ := hm
  reads _ _ := rfl
  writes _ _ := rfl
  readsSt _ _ := rfl
  mreqM1 _ _ := rfl
  mreqRd _ _ := rfl
  mreqWr _ _ _ := rfl
  iorqM1 _ _ := rfl
  iorqRd _ _ := rfl
  iorqWr _ _ _ := rfl
  consume _ _ _ := rfl

/-- The status after an instruction. -/
theorem exec_st (opP wz : Word) (i : Instr) (s : Instance β) :
    (exec I opP wz i s).2.st = i.status s.st := by
  cases hw : i.writesSt with
  | true =>
      cases i with
      | di => rfl
      | ei => rfl
      | halt => rfl
      | im im1 im2 => rfl
      | retn => rfl
      | _ => exact absurd hw (by simp [Instr.writesSt])
  | false =>
      rw [status_of_not_writesSt hw]
      refine judgment_exec (P := fun _ _ _ m => KeepsSt m) judgment_keepsSt
        opP wz i (fun h => ?_) s
      rw [hw] at h
      exact absurd h (by decide)

/-! ## Reports -/

/-- The pair that `m` answers is the number of opcode bytes it fetched and the
instruction whose effect on the status it had. -/
structure Reports (m : CpuM β (Nat × Instr)) (s : Instance β) : Prop where
  st : (m s).2.st = (m s).1.2.status s.st
  halt : (m s).1.2 = .halt →
    (m s).2.regs.pc.w = s.regs.pc.w + BitVec.ofNat 16 (m s).1.1

theorem execEntry_st (opP wz : Word) (e : Entry) (s : Instance β) :
    (execEntry I opP wz e s).2.st = e.micro.status s.st :=
  exec_st opP wz e.micro s

theorem execEntry_halt (opP wz : Word) {e : Entry} (h : e.micro = .halt)
    (s : Instance β) : (execEntry I opP wz e s).2.regs = s.regs := by
  rw [execEntry, h]
  rfl

/-- A case that goes on to another fetch has done nothing. -/
theorem execEntry_nop (opP wz : Word) {e : Entry} (h : e.micro = .nop)
    (s : Instance β) : (execEntry I opP wz e s).2.regs = s.regs ∧
      (execEntry I opP wz e s).2.st = s.st := by
  rw [execEntry, h]
  exact ⟨rfl, rfl⟩

/-- The row has no effect if it goes on. -/
def Entry.Through (e : Entry) : Prop := e.next = .epilog ∨ e.micro = .nop

instance (e : Entry) : Decidable e.Through :=
  inferInstanceAs (Decidable (_ ∨ _))

theorem entryMain_through (op : Byte) : (entryMain op).Through :=
  lookup_all (by decide +kernel) (by decide) op

theorem entryDd_through (op : Byte) : (entryDd op).Through :=
  lookup_all (by decide +kernel) (by decide) op

theorem entryFd_through (op : Byte) : (entryFd op).Through :=
  lookup_all (by decide +kernel) (by decide) op

theorem entryDdcb_ne_halt (op : Byte) : (entryDdcb op).micro ≠ .halt :=
  lookup_all (Q := fun e => e.micro ≠ .halt) (by decide +kernel) (by decide) op

theorem entryFdcb_ne_halt (op : Byte) : (entryFdcb op).micro ≠ .halt :=
  lookup_all (Q := fun e => e.micro ≠ .halt) (by decide +kernel) (by decide) op

theorem fetchM1_pc (s : Instance β) :
    (fetchM1 I s).2.regs.pc.w = s.regs.pc.w + 1 := by
  show (Register.ofW (s.regs.pc.w + 1)).w = _
  rw [Register.ofW_w]

theorem fetchM1_st (s : Instance β) : (fetchM1 I s).2.st = s.st := rfl

/-- A row that is executed `k` opcode bytes on. -/
theorem reports_row {m : CpuM β (Nat × Instr)} {s t : Instance β} (k : Nat)
    (opP wz : Word) (e : Entry) (hst : t.st = s.st)
    (hpc : t.regs.pc.w = s.regs.pc.w + BitVec.ofNat 16 k)
    (heq : m s = ((k, e.micro), (execEntry I opP wz e t).2)) : Reports m s := by
  constructor
  · rw [heq, ← hst]
    exact execEntry_st opP wz e t
  · rw [heq, ← hpc]
    intro hh
    rw [execEntry_halt opP wz hh]

/-- A fetch that is gone on to `k` opcode bytes on. -/
theorem reports_goto {m m' : CpuM β (Nat × Instr)} {s t : Instance β} (k : Nat)
    (hst : t.st = s.st) (hpc : t.regs.pc.w = s.regs.pc.w + BitVec.ofNat 16 k)
    (hm : Reports m' t)
    (heq : m s = (((m' t).1.1 + k, (m' t).1.2), (m' t).2)) : Reports m s := by
  constructor
  · rw [heq, ← hst]
    exact hm.st
  · rw [heq]
    intro hh
    show (m' t).2.regs.pc.w = s.regs.pc.w + BitVec.ofNat 16 ((m' t).1.1 + k)
    rw [hm.halt hh, hpc, BitVec.add_assoc, BitVec.ofNat_add, BitVec.add_comm]
    bv_omega

theorem fetchPlain_reports (entry : Byte → Entry) (opP : Word)
    (s : Instance β) : Reports (fetchPlainOpcode I entry opP) s :=
  reports_row 1 opP 0 (entry (fetchM1 I s).1) (fetchM1_st s) (fetchM1_pc s) rfl

theorem fetchIndexedCb_reports (r : R16) {entry : Byte → Entry}
    (h : ∀ op, (entry op).micro ≠ .halt) (opP : Word) (s : Instance β) :
    Reports (fetchIndexedCbOpcode I r entry opP) s where
  st := execEntry_st opP _ _ _
  halt hh := absurd hh (h _)

theorem fetchIndexed_reports {entry : Byte → Entry}
    {fetchCb : Word → CpuM β (Nat × Instr)}
    (hthrough : ∀ op, (entry op).Through) (opP : Word)
    (hcb : ∀ s, Reports (fetchCb opP) s) (s : Instance β) :
    Reports (fetchIndexedOpcode I entry fetchCb opP) s := by
  generalize hop : (I.mreqM1 s.bus s.regs.pc.w).1 = op
  have hpc := fetchM1_pc (I := I) s
  by_cases hn : (entry op).next = .fetchDdcb ∨ (entry op).next = .fetchFdcb
  · have hnop : (entry op).micro = .nop := by
      refine (hthrough op).resolve_left fun he => ?_
      rw [he] at hn
      exact absurd hn (by decide)
    obtain ⟨hregs, hst⟩ := execEntry_nop (I := I) opP 0 hnop (fetched1 I s)
    refine reports_goto 1 hst ?_ (hcb _) (fetchIndexedOpcode_goto _ _ hop hn)
    rw [hregs]
    exact hpc
  · exact reports_row (I := I) 1 opP 0 (entry op) (fetchM1_st (I := I) s) hpc
      (fetchIndexedOpcode_row _ _ hop hn)

theorem fetchDd_reports (opP : Word) (s : Instance β) :
    Reports (fetchDdOpcode I opP) s :=
  fetchIndexed_reports entryDd_through opP
    (fetchIndexedCb_reports .ixW entryDdcb_ne_halt opP) s

theorem fetchFd_reports (opP : Word) (s : Instance β) :
    Reports (fetchFdOpcode I opP) s :=
  fetchIndexed_reports entryFd_through opP
    (fetchIndexedCb_reports .iyW entryFdcb_ne_halt opP) s

theorem executeOpcode_reports (opP : Word) (op : Byte) (s : Instance β) :
    Reports (executeOpcode I opP op) s := by
  have hzero : s.regs.pc.w = s.regs.pc.w + BitVec.ofNat 16 0 :=
    (BitVec.add_zero _).symm
  have hgo {n : Next} {m : CpuM β (Nat × Instr)}
      (hn : (entryMain op).next = n) (hne : n ≠ .epilog)
      (hm : ∀ t, Reports m t)
      (he : executeOpcode I opP op s = m (execEntry I opP 0 (entryMain op) s).2) :
      Reports (executeOpcode I opP op) s := by
    have hnop : (entryMain op).micro = .nop :=
      (entryMain_through op).resolve_left (by rw [hn]; exact hne)
    obtain ⟨hregs, hst⟩ := execEntry_nop (I := I) opP 0 hnop s
    refine reports_goto 0 hst ?_ (hm _) he
    rw [hregs]
    exact hzero
  have hrow (hn : (entryMain op).next = .epilog ∨
      (entryMain op).next = .fetchDdcb ∨ (entryMain op).next = .fetchFdcb) :
      Reports (executeOpcode I opP op) s :=
    reports_row (I := I) (t := s) 0 opP 0 (entryMain op) rfl hzero
      (executeOpcode_row hn opP s)
  have heq : executeOpcode I opP op s =
      executeOpcode I opP op s := rfl
  conv at heq => rhs; rw [executeOpcode, bind_apply]
  cases hn : (entryMain op).next with
  | epilog => exact hrow (.inl hn)
  | fetchDdcb => exact hrow (.inr (.inl hn))
  | fetchFdcb => exact hrow (.inr (.inr hn))
  | fetchCb =>
      refine hgo hn (by decide) (fetchPlain_reports (I := I) entryCb opP) ?_
      simp only [hn] at heq
      exact heq
  | fetchEd =>
      refine hgo hn (by decide) (fetchPlain_reports (I := I) entryEd opP) ?_
      simp only [hn] at heq
      exact heq
  | fetchDd =>
      refine hgo hn (by decide) (fetchDd_reports (I := I) opP) ?_
      simp only [hn] at heq
      exact heq
  | fetchFd =>
      refine hgo hn (by decide) (fetchFd_reports (I := I) opP) ?_
      simp only [hn] at heq
      exact heq

/-- The instruction that is fetched and executed, as the clock reports it. -/
theorem fetchOpcode_reports (opP : Word) (s : Instance β) :
    ∃ n i, (fetchOpcode I opP s).1 = .exec n i ∧
      (fetchOpcode I opP s).2.st = i.status s.st ∧
      (i = .halt → (fetchOpcode I opP s).2.regs.pc.w =
        s.regs.pc.w + BitVec.ofNat 16 n) := by
  have heq : fetchOpcode I opP s =
      let r := executeOpcode I opP (fetchM1 I s).1 (fetchM1 I s).2
      (.exec (r.1.1 + 1) r.1.2, r.2) := rfl
  obtain ⟨hst, hhalt⟩ :=
    executeOpcode_reports (I := I) opP (fetchM1 I s).1 (fetchM1 I s).2
  rw [heq]
  refine ⟨_, _, rfl, hst, fun hh => ?_⟩
  rw [hhalt hh, fetchM1_pc]
  bv_omega

end Xcpc.Cpu
