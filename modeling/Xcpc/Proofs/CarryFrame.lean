import Xcpc.Proofs.Decode

/-!
# Instructions that are not to touch the carry

Every macro writes all of `AF_L` and takes from the old value the flags that
it is to leave alone. `in r08,(r08)` writes its destination before it does so,
and the destination of `in f,(c)` is `AF_L`: the carry that this one keeps is
bit 0 of the byte that it read.
-/

namespace Xcpc.Cpu

open Prog

variable {β : Type} {I : Interface β}

/-- The carry flag. -/
def Regs.carry (r : Regs) : Bool := r.af.l.getLsbD 0

/-- An assignment to `AF_L` sets the carry from its last term. -/
theorem flags_cf (s z y h x p n v : Byte) :
    (flags s z y h x p n v).getLsbD 0 = v.getLsbD 0 := by
  simp [flags]

theorem inc8_cf (r1 f : Byte) : (inc8 r1 f).2.getLsbD 0 = f.getLsbD 0 :=
  flags_cf _ _ _ _ _ _ _ _

theorem dec8_cf (r1 f : Byte) : (dec8 r1 f).2.getLsbD 0 = f.getLsbD 0 :=
  flags_cf _ _ _ _ _ _ _ _

theorem cpiFlags_cf (a data : Byte) (bc : Word) (f : Byte) :
    (cpiFlags a data bc f).getLsbD 0 = f.getLsbD 0 := by
  simp only [cpiFlags, BitVec.getLsbD_or, BitVec.getLsbD_and, flags_cf]
  simp

/-! ## Programs that keep the carry -/

def KeepsCarry {α : Type} (m : CpuM β α) : Prop :=
  Moves (fun s t => t.regs.carry = s.regs.carry) m

theorem preorder_carry :
    Preorder fun s t : Instance β => t.regs.carry = s.regs.carry where
  refl _ := rfl
  trans h h' := h'.trans h

namespace KeepsCarry

theorem pure {α : Type} (a : α) : KeepsCarry (β := β) (Pure.pure a) :=
  moves_pure preorder_carry a

theorem bind {α γ : Type} {m : CpuM β α} {f : α → CpuM β γ}
    (hm : KeepsCarry m) (hf : ∀ a, KeepsCarry (f a)) :
    KeepsCarry (m >>= f) :=
  moves_bind preorder_carry hm hf

theorem reads {α : Type} (f : Regs → α) : KeepsCarry (β := β) (Cpu.reads f) :=
  fun _ => rfl

theorem writes {f : Regs → Regs} (hf : ∀ r, (f r).carry = r.carry) :
    KeepsCarry (β := β) (Cpu.writes f) :=
  fun s => hf s.regs

theorem mreqRd (a : Word) : KeepsCarry (Cpu.mreqRd I a) := fun _ => rfl

theorem mreqWr (a : Word) (v : Byte) : KeepsCarry (Cpu.mreqWr I a v) :=
  fun _ => rfl

theorem iorqRd (a : Word) : KeepsCarry (Cpu.iorqRd I a) := fun _ => rfl

theorem iorqWr (a : Word) (v : Byte) : KeepsCarry (Cpu.iorqWr I a v) :=
  fun _ => rfl

theorem setF {f : Regs → Byte} (hf : ∀ r, (f r).getLsbD 0 = r.carry) :
    KeepsCarry (β := β) (Cpu.writes fun r => r.setF (f r)) :=
  writes hf

theorem set8 {r : R8} (hr : r ≠ .afL) (f : Regs → Byte) :
    KeepsCarry (β := β) (Cpu.writes fun s => s.set8 r (f s)) := by
  refine writes fun s => ?_
  cases r with
  | afL => exact absurd rfl hr
  | _ => rfl

theorem set16 {r : R16} (hr : r ≠ .afW) (f : Regs → Word) :
    KeepsCarry (β := β) (Cpu.writes fun s => s.set16 r (f s)) := by
  refine writes fun s => ?_
  cases r with
  | afW => exact absurd rfl hr
  | _ => rfl

theorem fetchIndexed (r : R16) : KeepsCarry (Cpu.fetchIndexed I r) :=
  bind (bind (reads _) fun _ => bind (mreqRd _) fun _ =>
    bind (writes fun _ => rfl) fun _ => pure _) fun _ =>
    bind (reads _) fun _ => pure _

theorem restorePc (opP : Word) (rep : Bool) :
    KeepsCarry (β := β) (Cpu.restorePc opP rep) := by
  cases rep with
  | true => exact fun _ => rfl
  | false => exact fun _ => rfl

theorem modifyInd (a : Word) {f : Byte → Byte → Byte × Byte}
    (hf : ∀ v g, (f v g).2.getLsbD 0 = g.getLsbD 0) :
    KeepsCarry (Cpu.modifyInd I a f) := by
  intro s
  exact hf (I.mreqRd s.bus a).1 s.regs.af.l

theorem modifyR08 {r : R8} (hr : r ≠ .afL) {f : Byte → Byte → Byte × Byte}
    (hf : ∀ v g, (f v g).2.getLsbD 0 = g.getLsbD 0) :
    KeepsCarry (β := β) (Cpu.modifyR08 r f) := by
  intro s
  have h := set8 (β := β) hr (fun _ => (f (s.regs.get8 r) s.regs.af.l).1)
    { s with regs := s.regs.setF (f (s.regs.get8 r) s.regs.af.l).2 }
  exact h.trans (hf _ _)

theorem bitTest (mask r1 yx : Byte) :
    KeepsCarry (β := β) (Cpu.bitTest mask r1 yx) :=
  setF fun _ => flags_cf _ _ _ _ _ _ _ _

end KeepsCarry

/-! ## The instructions -/

/-- The instructions that take the carry from the old flags, with a
destination that is not `AF_L` itself. -/
def Instr.copiesCarry : Instr → Bool
  | .inR08IndR08 data _ => data != .afL
  | .incR08 reg1 | .decR08 reg1 => reg1 != .afL
  | .incR16 reg1 | .decR16 reg1 => reg1 != .afW
  | .incIndR16 _ | .incIndR16PlusI08 _ | .decIndR16 _ | .decIndR16PlusI08 _ =>
      true
  | .nop | .cpl | .ldAI | .ldAR | .rld | .rrd => true
  | .bitBR08 _ _ | .bitBIndR16 _ _ | .bitBIndR16PlusI08 _ _ => true
  | .blockIn _ _ | .blockOut _ _ | .blockLd _ _ | .blockCp _ _ => true
  | _ => false

theorem KeepsCarry.exec (opP wz : Word) {i : Instr}
    (h : i.copiesCarry = true) : KeepsCarry (Cpu.exec I opP wz i) := by
  cases i with
  | nop => exact pure ()
  | cpl =>
      exact bind (set8 (by decide) _) fun _ =>
        setF fun _ => flags_cf _ _ _ _ _ _ _ _
  | ldAI =>
      exact bind (fun _ => rfl) fun _ => bind (set8 (by decide) _) fun _ =>
        setF fun _ => flags_cf _ _ _ _ _ _ _ _
  | ldAR =>
      exact bind (fun _ => rfl) fun _ => bind (set8 (by decide) _) fun _ =>
        setF fun _ => flags_cf _ _ _ _ _ _ _ _
  | inR08IndR08 data port =>
      have hr : data ≠ .afL := bne_iff_ne.1 h
      exact bind (reads _) fun _ => bind (reads _) fun _ =>
        bind (iorqRd _) fun _ => bind (set8 hr _) fun _ =>
        setF fun _ => flags_cf _ _ _ _ _ _ _ _
  | blockIn d rep =>
      exact bind (reads _) fun _ => bind (reads _) fun _ =>
        bind (iorqRd _) fun _ => bind (mreqWr _ _) fun _ =>
        bind (set8 (by decide) _) fun _ => bind (set16 (by decide) _) fun _ =>
        bind (reads _) fun _ => bind (restorePc _ _) fun _ =>
        setF fun _ => flags_cf _ _ _ _ _ _ _ _
  | blockOut d rep =>
      exact bind (reads _) fun _ => bind (mreqRd _) fun _ =>
        bind (set8 (by decide) _) fun _ => bind (set16 (by decide) _) fun _ =>
        bind (reads _) fun _ => bind (iorqWr _ _) fun _ =>
        bind (reads _) fun _ => bind (restorePc _ _) fun _ =>
        setF fun _ => flags_cf _ _ _ _ _ _ _ _
  | blockLd d rep =>
      exact bind (reads _) fun _ => bind (reads _) fun _ =>
        bind (mreqRd _) fun _ => bind (reads _) fun _ =>
        bind (mreqWr _ _) fun _ => bind (set16 (by decide) _) fun _ =>
        bind (set16 (by decide) _) fun _ => bind (set16 (by decide) _) fun _ =>
        bind (reads _) fun _ =>
        bind (setF fun _ => flags_cf _ _ _ _ _ _ _ _) fun _ =>
        restorePc _ _
  | blockCp d rep =>
      exact bind (reads _) fun _ => bind (reads _) fun _ =>
        bind (mreqRd _) fun _ => bind (set16 (by decide) _) fun _ =>
        bind (set16 (by decide) _) fun _ => bind (reads _) fun _ =>
        bind (restorePc _ _) fun _ => setF fun _ => cpiFlags_cf _ _ _ _
  | incR08 reg1 => exact modifyR08 (bne_iff_ne.1 h) inc8_cf
  | decR08 reg1 => exact modifyR08 (bne_iff_ne.1 h) dec8_cf
  | incIndR16 reg1 =>
      exact bind (reads _) fun _ => bind (modifyInd _ inc8_cf) fun _ => pure _
  | decIndR16 reg1 =>
      exact bind (reads _) fun _ => bind (modifyInd _ dec8_cf) fun _ => pure _
  | incIndR16PlusI08 reg1 =>
      exact bind (fetchIndexed _) fun _ =>
        bind (modifyInd _ inc8_cf) fun _ => pure _
  | decIndR16PlusI08 reg1 =>
      exact bind (fetchIndexed _) fun _ =>
        bind (modifyInd _ dec8_cf) fun _ => pure _
  | incR16 reg1 =>
      have hr : reg1 ≠ .afW := bne_iff_ne.1 h
      exact set16 hr fun s => s.get16 reg1 + 1
  | decR16 reg1 =>
      have hr : reg1 ≠ .afW := bne_iff_ne.1 h
      exact set16 hr fun s => s.get16 reg1 - 1
  | rld =>
      exact bind (reads _) fun _ => bind (mreqRd _) fun _ =>
        bind (reads _) fun _ => bind (set8 (by decide) _) fun _ =>
        bind (setF fun _ => flags_cf _ _ _ _ _ _ _ _) fun _ => mreqWr _ _
  | rrd =>
      exact bind (reads _) fun _ => bind (mreqRd _) fun _ =>
        bind (reads _) fun _ => bind (set8 (by decide) _) fun _ =>
        bind (setF fun _ => flags_cf _ _ _ _ _ _ _ _) fun _ => mreqWr _ _
  | bitBR08 mask data => exact bind (reads _) fun _ => bitTest _ _ _
  | bitBIndR16 mask addr =>
      exact bind (reads _) fun _ => bind (mreqRd _) fun _ => bitTest _ _ _
  | bitBIndR16PlusI08 mask reg1 =>
      exact bind (mreqRd _) fun _ => bitTest _ _ _
  | _ => exact absurd h Bool.false_ne_true

/-- `in f,(c)` takes the carry from the byte it has read. -/
theorem exec_inF (opP wz : Word) (port : R8) (s : Instance β) :
    (exec I opP wz (.inR08IndR08 .afL port) s).2.regs.carry =
      (I.iorqRd s.bus (s.regs.bc.h ++ s.regs.get8 port)).1.getLsbD 0 :=
  flags_cf _ _ _ _ _ _ _ _

/-! ## The opcodes -/

/-- The opcodes of the instructions that are to leave the carry alone: `inc`
and `dec` of bytes and words and `cpl`; `bit`; `in r,(c)`, `ld a,i`, `ld a,r`,
`rld`, `rrd` and the blocks. -/
def Page.sparesCarry (p : Page) (op : Byte) : Bool :=
  match p with
  | .main | .dd | .fd =>
      op &&& 0xc6 == 0x04 || op &&& 0xc7 == 0x03 || op == 0x2f
  | .cb | .ddcb | .fdcb => op &&& 0xc0 == 0x40
  | .ed =>
      op &&& 0xc7 == 0x40 || op == 0x57 || op == 0x5f || op == 0x67 ||
        op == 0x6f || op &&& 0xe4 == 0xa0

/-- Of these rows, only `in f,(c)` does not copy the carry. -/
theorem entry_copiesCarry {p : Page} {op : Byte} (h : p.sparesCarry op = true)
    (hne : ¬ (p = .ed ∧ op = 0x70)) : (p.entry op).micro.copiesCarry = true := by
  revert op
  cases p with
  | _ => decide +kernel

theorem carry_kept_iff {p : Page} {op : Byte} {s : Instance β}
    (hs : Fetching s) (hd : p.Decodes I op s) (hp : p.sparesCarry op = true) :
    (instruction I s).regs.carry = s.regs.carry ↔
      (p = .ed ∧ op = 0x70 →
        (I.iorqRd (pass I 2 s).bus s.regs.bc.w).1.getLsbD 0 = s.regs.carry) := by
  obtain ⟨pc, l, hr⟩ := fetched_regs (I := I) p s
  have hc : (p.fetched I s).calm.regs.carry = s.regs.carry := by
    show (p.fetched I s).regs.carry = s.regs.carry
    rw [hr]
    rfl
  rw [(instruction_decodes hs hd).regs]
  by_cases hne : p = .ed ∧ op = 0x70
  · obtain ⟨rfl, rfl⟩ := hne
    have he : (Page.ed.entry 0x70).micro = .inR08IndR08 .afL .bcL := by decide
    have hf : Page.ed.fetched I s = pass I 2 s := rfl
    have hbc : (pass I 2 s).regs.bc = s.regs.bc := rfl
    rw [he, exec_inF, hf]
    simp only [true_and, true_implies]
    exact Iff.rfl
  · have hk := KeepsCarry.exec (I := I) s.regs.pc.w (p.wz I s)
      (entry_copiesCarry hp hne) (p.fetched I s).calm
    exact iff_of_true (hk.trans hc) fun h => absurd h hne

/-- `inc a` is one of them. -/
theorem inc_a_keeps_carry :
    (instruction Interface.ram (.reset (program [0x3c]))).regs.carry =
      (Instance.reset (program [0x3c])).regs.carry :=
  (carry_kept_iff (p := .main) ⟨rfl, rfl, rfl⟩
    ⟨⟨rfl, trivial⟩, rfl⟩ rfl).2 (by decide)

/-- `in f,(c)` on a port that answers `0xff` sets the carry. -/
theorem in_f_changes_carry :
    let s := Instance.reset (program [0xed, 0x70])
    Fetching s ∧ Page.ed.Decodes Interface.ram 0x70 s ∧
      Page.ed.sparesCarry 0x70 = true ∧
      (instruction Interface.ram s).regs.carry ≠ s.regs.carry := by
  intro s
  have hs : Fetching s := ⟨rfl, rfl, rfl⟩
  have hd : Page.ed.Decodes Interface.ram 0x70 s :=
    ⟨⟨by decide, by decide, trivial⟩, rfl⟩
  refine ⟨hs, hd, rfl, ?_⟩
  rw [(instruction_decodes hs hd).regs]
  decide

end Xcpc.Cpu
