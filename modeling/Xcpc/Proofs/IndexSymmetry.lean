import Xcpc.Proofs.Renaming

/-!
# The two index registers

The four tables behind `dd` and `fd` were written out one by one. Row by row,
those of `fd` are those of `dd` with `IY` for `IX` and `IX` for `IY`.

Two instructions that differ in their prefix alone are compared on one and the
same bus, except that the fetch of the prefix is answered differently. The
state of the bus is arbitrary and may hold a record of all that it was asked:
when the two ends are equal, so are the accesses that led to them.
-/

namespace Xcpc.Cpu

open Prog

variable {β : Type} {I : Interface β}

/-- The same bus, but a fetch from `a` answers `v`. -/
def Interface.opcodeAt (I : Interface β) (a : Word) (v : Byte) : Interface β :=
  I.fetchedBy fun b x =>
    (if x = a then v else (I.mreqM1 b x).1, (I.mreqM1 b x).2)

/-- `IX` and `IY` exchanged. -/
def Instance.swap (s : Instance β) : Instance β := Exchange.ixIy.on s

theorem image_zero (s : Instance β) :
    Exchange.ixIy.image .zero s = s.swap := by
  rw [Exchange.image, Timing.plus_zero]
  rfl

/-- The second row is the first one for the other index register. -/
def Mirrored (e e' : Entry) : Prop :=
  e'.micro = e.micro.rename .ixIy ∧ e'.mCycles = e.mCycles ∧
    e'.tStates = e.tStates

instance (e e' : Entry) : Decidable (Mirrored e e') :=
  inferInstanceAs (Decidable (_ ∧ _ ∧ _))

theorem entryFd_mirrored (op : Byte) : Mirrored (entryDd op) (entryFd op) :=
  lookup_forall₂ (by decide +kernel) (by decide) op

theorem entryDd_mirrored (op : Byte) : Mirrored (entryFd op) (entryDd op) :=
  lookup_forall₂ (by decide +kernel) (by decide) op

theorem entryFdcb_mirrored (op : Byte) :
    Mirrored (entryDdcb op) (entryFdcb op) :=
  lookup_forall₂ (by decide +kernel) (by decide) op

/-- Only the row of `cb` does not end the instruction. -/
theorem entryDd_next {op : Byte} (h : op ≠ 0xcb) :
    (entryDd op).next = .epilog :=
  lookup_zipIdx (Q := fun op e => op ≠ 0xcb → e.next = .epilog)
    (by decide +kernel) (by decide +kernel) op h

theorem entryFd_next {op : Byte} (h : op ≠ 0xcb) :
    (entryFd op).next = .epilog :=
  lookup_zipIdx (Q := fun op e => op ≠ 0xcb → e.next = .epilog)
    (by decide +kernel) (by decide +kernel) op h

theorem execEntry_mirrored {e e' : Entry} (h : Mirrored e e') (opP wz : Word) :
    Renames .ixIy .zero (execEntry I opP wz e) (execEntry I opP wz e') := by
  obtain ⟨hm, hc, ht⟩ := h
  rw [execEntry, execEntry, hm, hc, ht]
  exact Renames.bind (Renames.exec opP wz fun h => nomatch h) fun _ =>
    Renames.consume _ _

/-! ## The bytes -/

theorem mreqM1_opcodeAt (a : Word) (v : Byte) (b : β) :
    (I.opcodeAt a v).mreqM1 b a = (v, (I.mreqM1 b a).2) := by
  simp [Interface.opcodeAt, Interface.fetchedBy]

/-- The second byte is the one that the bus itself answers. -/
theorem mreqM1_opcodeAt_succ (a : Word) (v : Byte) (b : β) :
    (I.opcodeAt a v).mreqM1 b (a + 1) = I.mreqM1 b (a + 1) := by
  simp [Interface.opcodeAt, Interface.fetchedBy]

/-- The byte behind the prefix. -/
def secondByte (I : Interface β) (s : Instance β) : Byte :=
  (I.mreqM1 (I.mreqM1 s.bus s.regs.pc.w).2 (s.regs.pc.w + 1)).1

theorem fetches_opcodeAt (v : Byte) (s : Instance β) :
    Fetches (I.opcodeAt s.regs.pc.w v) s.bus s.regs.pc.w
      [v, secondByte I s] := by
  refine ⟨?_, ?_, trivial⟩
  · rw [mreqM1_opcodeAt]
  · rw [mreqM1_opcodeAt, mreqM1_opcodeAt_succ]
    rfl

/-- What the prolog does with two instructions of mirrored rows. -/
theorem prolog_mirrored {J : Interface β} {p q : Page} {op : Byte}
    {s t : Instance β} (hs : Fetching s) (ht : Fetching t)
    (hp : p.Decodes I op s) (hq : q.Decodes J op t)
    (he : Mirrored (p.entry op) (q.entry op))
    (hexec : ∀ opP wz i, exec J opP wz i = exec I opP wz i)
    (hpc : t.regs.pc.w = s.regs.pc.w) (hwz : q.wz J t = p.wz I s)
    (hstart : { (q.fetched J t).calm with time := q.fetchTime t.time } =
      Exchange.ixIy.image .zero
        { (p.fetched I s).calm with time := p.fetchTime s.time }) :
    (prolog J t).2 = (prolog I s).2.swap := by
  have hrow (opP wz : Word) (e : Entry) :
      execEntry J opP wz e = execEntry I opP wz e := by
    rw [execEntry, hexec]
    rfl
  rw [prolog_decodes hs hp, prolog_decodes ht hq, hpc, hwz, hstart, hrow]
  exact (execEntry_mirrored he _ _ _ _ rfl).2.trans (image_zero _)

/-- An `fd` instruction is the `dd` instruction of the same bytes for the
other index register. -/
theorem index_symmetry {s : Instance β} (hs : Fetching s) :
    clock (I.opcodeAt s.regs.pc.w 0xfd) s.swap =
      (clock (I.opcodeAt s.regs.pc.w 0xdd) s).swap := by
  have ht : Fetching s.swap := ⟨hs.atBoundary, hs.hlt, hs.accepts⟩
  have hclock {t : Instance β} (h : Fetching t) (J : Interface β) :
      clock J t = (epilog (prolog J t).2).2 := by
    rw [clock, h.atBoundary]
    rfl
  have hexec (opP wz : Word) (i : Instr) :
      exec (I.opcodeAt s.regs.pc.w 0xfd) opP wz i =
        exec (I.opcodeAt s.regs.pc.w 0xdd) opP wz i := by
    exact (exec_fetchedBy _ _ _ _).trans (exec_fetchedBy _ _ _ _).symm
  have hdd := fetches_opcodeAt (I := I) 0xdd s
  have hfd := fetches_opcodeAt (I := I) 0xfd s
  have hprolog : (prolog (I.opcodeAt s.regs.pc.w 0xfd) s.swap).2 =
      (prolog (I.opcodeAt s.regs.pc.w 0xdd) s).2.swap := by
    by_cases hop : secondByte I s = 0xcb
    · rw [hop] at hdd hfd
      refine prolog_mirrored (p := .ddcb) (q := .fdcb) hs ht ⟨hdd, rfl⟩
        ⟨hfd, rfl⟩ (entryFdcb_mirrored _) hexec rfl rfl ?_
      rw [image_zero]
      rfl
    · refine prolog_mirrored (p := .dd) (q := .fd) hs ht
        ⟨hdd, entryDd_next hop⟩ ⟨hfd, entryFd_next hop⟩ (entryFd_mirrored _)
        hexec rfl rfl ?_
      rw [image_zero]
      rfl
  rw [hclock hs, hclock ht, hprolog]
  rfl

/-- `ld iy,0x1234` and `ld ix,0x1234`. -/
theorem ld_index_mirrored :
    let s := Instance.reset (program [0xdd, 0x21, 0x34, 0x12])
    clock (Interface.ram.opcodeAt s.regs.pc.w 0xfd) s.swap =
      (clock (Interface.ram.opcodeAt s.regs.pc.w 0xdd) s).swap :=
  index_symmetry ⟨rfl, rfl, rfl⟩

end Xcpc.Cpu
