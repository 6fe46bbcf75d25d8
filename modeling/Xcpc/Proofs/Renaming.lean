import Xcpc.Proofs.Decode

/-!
# Exchanging registers

The `dd` and `fd` tables are the main table with other registers. What that
means for a micro-instruction is said here: exchange two registers in the
state and in the names of the operands, and it does the same.

The walk through the instructions is one over pairs of programs. It carries a
displacement of the counters along, because the tables are reached through
different numbers of fetches.
-/

namespace Xcpc.Cpu

open Prog

variable {β : Type} {I : Interface β}

/-- The registers that are exchanged, if any. -/
inductive Exchange where
  | ixIy
  | hlIx
  | none
deriving DecidableEq, Repr

namespace Exchange

def regs : Exchange → Regs → Regs
  | .ixIy, s => { s with ix := s.iy, iy := s.ix }
  | .hlIx, s => { s with hl := s.ix, ix := s.hl }
  | .none, s => s

def r8 : Exchange → R8 → R8
  | .ixIy, .ixH => .iyH
  | .ixIy, .ixL => .iyL
  | .ixIy, .iyH => .ixH
  | .ixIy, .iyL => .ixL
  | .hlIx, .hlH => .ixH
  | .hlIx, .hlL => .ixL
  | .hlIx, .ixH => .hlH
  | .hlIx, .ixL => .hlL
  | _, r => r

def r16 : Exchange → R16 → R16
  | .ixIy, .ixW => .iyW
  | .ixIy, .iyW => .ixW
  | .hlIx, .hlW => .ixW
  | .hlIx, .ixW => .hlW
  | _, r => r

variable (x : Exchange)

theorem regs_regs (s : Regs) : x.regs (x.regs s) = s := by
  cases x with
  | _ => rfl

@[simp] theorem get8_regs (s : Regs) (r : R8) :
    (x.regs s).get8 (x.r8 r) = s.get8 r := by
  cases x with
  | _ =>
      cases r with
      | _ => rfl

@[simp] theorem set8_regs (s : Regs) (r : R8) (v : Byte) :
    (x.regs s).set8 (x.r8 r) v = x.regs (s.set8 r v) := by
  cases x with
  | _ =>
      cases r with
      | _ => rfl

@[simp] theorem get16_regs (s : Regs) (r : R16) :
    (x.regs s).get16 (x.r16 r) = s.get16 r := by
  cases x with
  | _ =>
      cases r with
      | _ => rfl

@[simp] theorem set16_regs (s : Regs) (r : R16) (v : Word) :
    (x.regs s).set16 (x.r16 r) v = x.regs (s.set16 r v) := by
  cases x with
  | _ =>
      cases r with
      | _ => rfl

@[simp] theorem setF_regs (s : Regs) (v : Byte) :
    (x.regs s).setF v = x.regs (s.setF v) := by
  cases x with
  | _ => rfl

@[simp] theorem setPc_regs (s : Regs) (v : Word) :
    (x.regs s).setPc v = x.regs (s.setPc v) := by
  cases x with
  | _ => rfl

@[simp] theorem setSp_regs (s : Regs) (v : Word) :
    (x.regs s).setSp v = x.regs (s.setSp v) := by
  cases x with
  | _ => rfl

@[simp] theorem af_regs (s : Regs) : (x.regs s).af = s.af := by
  cases x with
  | _ => rfl

@[simp] theorem bc_regs (s : Regs) : (x.regs s).bc = s.bc := by
  cases x with
  | _ => rfl

@[simp] theorem sp_regs (s : Regs) : (x.regs s).sp = s.sp := by
  cases x with
  | _ => rfl

@[simp] theorem pc_regs (s : Regs) : (x.regs s).pc = s.pc := by
  cases x with
  | _ => rfl

@[simp] theorem ir_regs (s : Regs) : (x.regs s).ir = s.ir := by
  cases x with
  | _ => rfl

end Exchange

/-- The instance with the registers exchanged. -/
def Exchange.on (x : Exchange) (s : Instance β) : Instance β :=
  { s with regs := x.regs s.regs }

/-- The counters, displaced. -/
def Timing.plus (t k : Timing) : Timing where
  mCycles := t.mCycles + k.mCycles
  tStates := t.tStates + k.tStates
  iPeriod := t.iPeriod + k.iPeriod

theorem Timing.plus_zero (t : Timing) : t.plus .zero = t := by
  cases t
  simp [Timing.plus, Timing.zero]

theorem Timing.consume_plus (t k : Timing) (c n : Nat) :
    (t.plus k).consume c n = (t.consume c n).plus k := by
  simp only [Timing.plus, Timing.consume, Timing.mk.injEq]
  exact ⟨add_right_comm _ _ _, add_right_comm _ _ _, add_right_comm _ _ _⟩

/-- The instance with the registers exchanged and the counters displaced. -/
def Exchange.image (x : Exchange) (k : Timing) (s : Instance β) :
    Instance β :=
  { x.on s with time := s.time.plus k }

/-- From exchanged states the programs answer the same and end in exchanged
states. -/
def Renames (x : Exchange) (k : Timing) {α : Type} (m n : CpuM β α) : Prop :=
  Sim (fun s t => t = x.image k s) m n

namespace Renames

variable {x : Exchange} {k : Timing}

theorem pure {α : Type} (a : α) :
    Renames (β := β) x k (Pure.pure a) (Pure.pure a) :=
  sim_pure a

theorem bind {α γ : Type} {m n : CpuM β α} {f g : α → CpuM β γ}
    (hm : Renames x k m n) (hf : ∀ a, Renames x k (f a) (g a)) :
    Renames x k (m >>= f) (n >>= g) :=
  sim_bind hm hf

theorem branch {b : Bool} {m m' n n' : CpuM β Unit} (h : Renames x k m n)
    (h' : Renames x k m' n') :
    Renames x k (Cpu.branch b m m') (Cpu.branch b n n') := by
  cases b with
  | true => exact h
  | false => exact h'

theorem reads {α : Type} {f g : Regs → α} (h : ∀ r, f r = g (x.regs r)) :
    Renames (β := β) x k (Cpu.reads f) (Cpu.reads g) := by
  rintro s t rfl
  exact ⟨h s.regs, rfl⟩

theorem writes {f g : Regs → Regs} (h : ∀ r, g (x.regs r) = x.regs (f r)) :
    Renames (β := β) x k (Cpu.writes f) (Cpu.writes g) := by
  rintro s t rfl
  refine ⟨rfl, ?_⟩
  simp only [Cpu.writes, Exchange.image, Exchange.on, h]

theorem readsSt {α : Type} (f : Status → α) :
    Renames (β := β) x k (Cpu.readsSt f) (Cpu.readsSt f) := by
  rintro s t rfl
  exact ⟨rfl, rfl⟩

theorem writesSt (f : Status → Status) :
    Renames (β := β) x k (Cpu.writesSt f) (Cpu.writesSt f) := by
  rintro s t rfl
  exact ⟨rfl, rfl⟩

theorem mreqRd (a : Word) :
    Renames x k (Cpu.mreqRd I a) (Cpu.mreqRd I a) := by
  rintro s t rfl
  exact ⟨rfl, rfl⟩

theorem mreqWr (a : Word) (v : Byte) :
    Renames x k (Cpu.mreqWr I a v) (Cpu.mreqWr I a v) := by
  rintro s t rfl
  exact ⟨rfl, rfl⟩

theorem iorqRd (a : Word) :
    Renames x k (Cpu.iorqRd I a) (Cpu.iorqRd I a) := by
  rintro s t rfl
  exact ⟨rfl, rfl⟩

theorem iorqWr (a : Word) (v : Byte) :
    Renames x k (Cpu.iorqWr I a v) (Cpu.iorqWr I a v) := by
  rintro s t rfl
  exact ⟨rfl, rfl⟩

theorem consume (c n : Nat) :
    Renames (β := β) x k (Cpu.consume c n) (Cpu.consume c n) := by
  rintro s t rfl
  refine ⟨rfl, ?_⟩
  simp only [Cpu.consume, Exchange.image, Exchange.on, Timing.consume_plus]

theorem get8 (r : R8) :
    Renames (β := β) x k (Cpu.reads (·.get8 r)) (Cpu.reads (·.get8 (x.r8 r))) :=
  reads fun s => (x.get8_regs s r).symm

theorem get16 (r : R16) :
    Renames (β := β) x k (Cpu.reads (·.get16 r))
      (Cpu.reads (·.get16 (x.r16 r))) :=
  reads fun s => (x.get16_regs s r).symm

theorem set8 (r : R8) (v : Byte) :
    Renames (β := β) x k (Cpu.writes (·.set8 r v))
      (Cpu.writes (·.set8 (x.r8 r) v)) :=
  writes fun s => x.set8_regs s r v

theorem set16 (r : R16) (v : Word) :
    Renames (β := β) x k (Cpu.writes (·.set16 r v))
      (Cpu.writes (·.set16 (x.r16 r) v)) :=
  writes fun s => x.set16_regs s r v

/-- A computation on registers that are not exchanged. -/
theorem reads_same {α : Type} {f : Regs → α} (h : ∀ r, f (x.regs r) = f r) :
    Renames (β := β) x k (Cpu.reads f) (Cpu.reads f) :=
  reads fun r => (h r).symm

theorem setF {f g : Regs → Byte} (h : ∀ r, g (x.regs r) = f r) :
    Renames (β := β) x k (Cpu.writes fun r => r.setF (f r))
      (Cpu.writes fun r => r.setF (g r)) :=
  writes fun r => by rw [h, x.setF_regs]

theorem setPc (v : Word) :
    Renames (β := β) x k (Cpu.writes (·.setPc v)) (Cpu.writes (·.setPc v)) :=
  writes fun r => x.setPc_regs r v

theorem setA (f : Regs → Byte) (h : ∀ r, f (x.regs r) = f r) :
    Renames (β := β) x k (Cpu.writes fun r => r.set8 .afH (f r))
      (Cpu.writes fun r => r.set8 .afH (f r)) := by
  refine writes fun r => ?_
  rw [h]
  cases x with
  | _ => rfl

/-! ## The parts of the macros -/

theorem fetchByte : Renames x k (Cpu.fetchByte I) (Cpu.fetchByte I) :=
  bind (reads_same fun r => by rw [x.pc_regs]) fun _ => bind (mreqRd _) fun _ =>
    bind (setPc _) fun _ => pure _

theorem fetchWord : Renames x k (Cpu.fetchWord I) (Cpu.fetchWord I) :=
  bind fetchByte fun _ => bind fetchByte fun _ => pure _

theorem fetchIndexed (r : R16) :
    Renames x k (Cpu.fetchIndexed I r) (Cpu.fetchIndexed I (x.r16 r)) :=
  bind fetchByte fun _ => bind (get16 r) fun _ => pure _

theorem pushWord (v : Word) :
    Renames x k (Cpu.pushWord I v) (Cpu.pushWord I v) :=
  bind (reads_same fun r => by rw [x.sp_regs]) fun _ =>
    bind (mreqWr _ _) fun _ => bind (mreqWr _ _) fun _ =>
    writes fun r => x.setSp_regs r _

theorem popWord : Renames x k (Cpu.popWord I) (Cpu.popWord I) :=
  bind (reads_same fun r => by rw [x.sp_regs]) fun _ =>
    bind (mreqRd _) fun _ => bind (mreqRd _) fun _ =>
    bind (writes fun r => x.setSp_regs r _) fun _ => pure _

theorem rstVec16 (a : Word) :
    Renames x k (Cpu.rstVec16 I a) (Cpu.rstVec16 I a) :=
  bind (reads_same fun r => by rw [x.pc_regs]) fun _ =>
    bind (pushWord _) fun _ => setPc _

theorem jumpRelative : Renames x k (Cpu.jumpRelative I) (Cpu.jumpRelative I) :=
  bind (reads_same fun r => by rw [x.pc_regs]) fun _ =>
    bind (mreqRd _) fun _ => setPc _

theorem skipByte : Renames (β := β) x k Cpu.skipByte Cpu.skipByte :=
  writes fun r => by rw [x.pc_regs, x.setPc_regs]

theorem skipWord : Renames (β := β) x k Cpu.skipWord Cpu.skipWord :=
  writes fun r => by rw [x.pc_regs, x.setPc_regs]

theorem restorePc (opP : Word) (rep : Bool) :
    Renames (β := β) x k (Cpu.restorePc opP rep) (Cpu.restorePc opP rep) :=
  branch (bind (setPc _) fun _ => consume 1 5) (pure _)

theorem modifyInd (a : Word) (f : Byte → Byte → Byte × Byte) :
    Renames x k (Cpu.modifyInd I a f) (Cpu.modifyInd I a f) :=
  bind (mreqRd _) fun _ => bind (reads_same fun r => by rw [x.af_regs]) fun _ =>
    bind (setF fun _ => rfl) fun _ => bind (mreqWr _ _) fun _ => pure _

theorem modifyR08 (r : R8) (f : Byte → Byte → Byte × Byte) :
    Renames (β := β) x k (Cpu.modifyR08 r f) (Cpu.modifyR08 (x.r8 r) f) :=
  bind (get8 r) fun _ => bind (reads_same fun r => by rw [x.af_regs]) fun _ =>
    bind (setF fun _ => rfl) fun _ => set8 r _

theorem accumulator (f : Byte → Byte → Byte × Byte) :
    Renames (β := β) x k (Cpu.modifyR08 .afH f) (Cpu.modifyR08 .afH f) := by
  have h := modifyR08 (β := β) (x := x) (k := k) .afH f
  cases x with
  | _ => exact h

/-- `modifyInd` at an address that is computed first. -/
theorem modifyAt {m n : CpuM β Word} (h : Renames x k m n)
    (f : Byte → Byte → Byte × Byte) :
    Renames x k (do let a ← m; let _ ← Cpu.modifyInd I a f)
      (do let a ← n; let _ ← Cpu.modifyInd I a f) :=
  bind h fun _ => bind (modifyInd _ _) fun _ => pure _

/-- The 16-bit additions. -/
theorem addInto (f : Word → Word → Byte → Word × Byte) (r1 r2 : R16) :
    Renames (β := β) x k
      (Cpu.writes fun s =>
        let r := f (s.get16 r1) (s.get16 r2) s.af.l
        (s.setF r.2).set16 r1 r.1)
      (Cpu.writes fun s =>
        let r := f (s.get16 (x.r16 r1)) (s.get16 (x.r16 r2)) s.af.l
        (s.setF r.2).set16 (x.r16 r1) r.1) := by
  refine writes fun s => ?_
  simp only [x.get16_regs, x.af_regs, x.setF_regs, x.set16_regs]

theorem aluAcc (op : Alu) (r1 r2 : Byte) :
    Renames (β := β) x k (Cpu.aluAcc op r1 r2) (Cpu.aluAcc op r1 r2) :=
  bind (reads_same fun r => by rw [x.af_regs]) fun _ =>
    bind (branch (setA _ fun _ => rfl) (pure _)) fun _ => setF fun _ => rfl

theorem bitTest (mask r1 yx : Byte) :
    Renames (β := β) x k (Cpu.bitTest mask r1 yx) (Cpu.bitTest mask r1 yx) :=
  setF fun r => by rw [x.af_regs]

end Renames

/-! ## The instructions -/

/-- The instruction on the exchanged operands. -/
def Instr.rename (x : Exchange) : Instr → Instr
  | .inR08IndR08 data port => .inR08IndR08 (x.r8 data) (x.r8 port)
  | .inR08IndI08 reg1 => .inR08IndI08 (x.r8 reg1)
  | .outIndR08R08 port data => .outIndR08R08 (x.r8 port) (x.r8 data)
  | .outIndI08R08 reg1 => .outIndI08R08 (x.r8 reg1)
  | .ldR08R08 reg1 reg2 => .ldR08R08 (x.r8 reg1) (x.r8 reg2)
  | .ldR08I08 reg1 => .ldR08I08 (x.r8 reg1)
  | .ldR08IndR16 reg1 reg2 => .ldR08IndR16 (x.r8 reg1) (x.r16 reg2)
  | .ldIndR16R08 reg1 reg2 => .ldIndR16R08 (x.r16 reg1) (x.r8 reg2)
  | .ldR08IndI16 reg1 => .ldR08IndI16 (x.r8 reg1)
  | .ldIndI16R08 reg1 => .ldIndI16R08 (x.r8 reg1)
  | .ldIndR16I08 reg1 => .ldIndR16I08 (x.r16 reg1)
  | .ldR08IndR16PlusI08 reg1 reg2 => .ldR08IndR16PlusI08 (x.r8 reg1) (x.r16 reg2)
  | .ldIndR16PlusI08R08 reg1 reg2 => .ldIndR16PlusI08R08 (x.r16 reg1) (x.r8 reg2)
  | .ldIndR16PlusI08I08 reg1 => .ldIndR16PlusI08I08 (x.r16 reg1)
  | .ldR16R16 reg1 reg2 => .ldR16R16 (x.r16 reg1) (x.r16 reg2)
  | .ldR16I16 reg1 => .ldR16I16 (x.r16 reg1)
  | .ldR16IndI16 reg1 => .ldR16IndI16 (x.r16 reg1)
  | .ldIndI16R16 reg1 => .ldIndI16R16 (x.r16 reg1)
  | .pushR16 reg1 => .pushR16 (x.r16 reg1)
  | .popR16 reg1 => .popR16 (x.r16 reg1)
  | .aluR08R08 op reg1 reg2 => .aluR08R08 op (x.r8 reg1) (x.r8 reg2)
  | .aluR08I08 op reg1 => .aluR08I08 op (x.r8 reg1)
  | .aluR08IndR16 op reg1 reg2 => .aluR08IndR16 op (x.r8 reg1) (x.r16 reg2)
  | .aluR08IndR16PlusI08 op reg1 reg2 =>
      .aluR08IndR16PlusI08 op (x.r8 reg1) (x.r16 reg2)
  | .incR08 reg1 => .incR08 (x.r8 reg1)
  | .incIndR16 reg1 => .incIndR16 (x.r16 reg1)
  | .incIndR16PlusI08 reg1 => .incIndR16PlusI08 (x.r16 reg1)
  | .decR08 reg1 => .decR08 (x.r8 reg1)
  | .decIndR16 reg1 => .decIndR16 (x.r16 reg1)
  | .decIndR16PlusI08 reg1 => .decIndR16PlusI08 (x.r16 reg1)
  | .addR16R16 reg1 reg2 => .addR16R16 (x.r16 reg1) (x.r16 reg2)
  | .adcR16R16 reg1 reg2 => .adcR16R16 (x.r16 reg1) (x.r16 reg2)
  | .sbcR16R16 reg1 reg2 => .sbcR16R16 (x.r16 reg1) (x.r16 reg2)
  | .incR16 reg1 => .incR16 (x.r16 reg1)
  | .decR16 reg1 => .decR16 (x.r16 reg1)
  | .jpR16 reg1 => .jpR16 (x.r16 reg1)
  | .exR16R16 reg1 reg2 => .exR16R16 (x.r16 reg1) (x.r16 reg2)
  | .exIndR16R16 reg1 reg2 => .exIndR16R16 (x.r16 reg1) (x.r16 reg2)
  | .rotR08 op data => .rotR08 op (x.r8 data)
  | .rotIndR16 op addr => .rotIndR16 op (x.r16 addr)
  | .rotIndR16PlusI08 op reg1 => .rotIndR16PlusI08 op (x.r16 reg1)
  | .rotIndR16PlusI08R08 op reg1 reg2 =>
      .rotIndR16PlusI08R08 op (x.r16 reg1) (x.r8 reg2)
  | .bitBR08 mask data => .bitBR08 mask (x.r8 data)
  | .bitBIndR16 mask addr => .bitBIndR16 mask (x.r16 addr)
  | .bitBIndR16PlusI08 mask reg1 => .bitBIndR16PlusI08 mask (x.r16 reg1)
  | .resBR08 mask data => .resBR08 mask (x.r8 data)
  | .resBIndR16 mask addr => .resBIndR16 mask (x.r16 addr)
  | .resBIndR16PlusI08 mask reg1 => .resBIndR16PlusI08 mask (x.r16 reg1)
  | .resBIndR16PlusI08R08 mask reg1 reg2 =>
      .resBIndR16PlusI08R08 mask (x.r16 reg1) (x.r8 reg2)
  | .setBR08 mask data => .setBR08 mask (x.r8 data)
  | .setBIndR16 mask addr => .setBIndR16 mask (x.r16 addr)
  | .setBIndR16PlusI08 mask reg1 => .setBIndR16PlusI08 mask (x.r16 reg1)
  | .setBIndR16PlusI08R08 mask reg1 reg2 =>
      .setBIndR16PlusI08R08 mask (x.r16 reg1) (x.r8 reg2)
  | i => i

/-- The instructions that use `HL` without naming it. -/
def Instr.impliesHl : Instr → Bool
  | .blockIn _ _ | .blockOut _ _ | .blockLd _ _ | .blockCp _ _ => true
  | .rld | .rrd | .exx => true
  | _ => false

namespace Renames

variable {x : Exchange} {k : Timing}

/-- An exchange that leaves `HL` does not touch what is not named. -/
theorem exec_impliesHl (hx : x ≠ .hlIx) (opP wz : Word) {i : Instr}
    (h : i.impliesHl = true) :
    Renames x k (exec I opP wz i) (exec I opP wz (i.rename x)) := by
  cases x with
  | hlIx => exact absurd rfl hx
  | _ =>
      cases i with
      | blockIn d rep =>
          exact bind (reads fun _ => rfl) fun _ => bind (reads fun _ => rfl) fun _ =>
            bind (iorqRd _) fun _ => bind (mreqWr _ _) fun _ =>
            bind (writes fun _ => rfl) fun _ => bind (writes fun _ => rfl) fun _ =>
            bind (reads fun _ => rfl) fun _ => bind (restorePc _ _) fun _ =>
            writes fun _ => rfl
      | blockOut d rep =>
          exact bind (reads fun _ => rfl) fun _ => bind (mreqRd _) fun _ =>
            bind (writes fun _ => rfl) fun _ => bind (writes fun _ => rfl) fun _ =>
            bind (reads fun _ => rfl) fun _ => bind (iorqWr _ _) fun _ =>
            bind (reads fun _ => rfl) fun _ => bind (restorePc _ _) fun _ =>
            writes fun _ => rfl
      | blockLd d rep =>
          exact bind (reads fun _ => rfl) fun _ => bind (reads fun _ => rfl) fun _ =>
            bind (mreqRd _) fun _ => bind (reads fun _ => rfl) fun _ =>
            bind (mreqWr _ _) fun _ => bind (writes fun _ => rfl) fun _ =>
            bind (writes fun _ => rfl) fun _ => bind (writes fun _ => rfl) fun _ =>
            bind (reads fun _ => rfl) fun _ => bind (writes fun _ => rfl) fun _ =>
            restorePc _ _
      | blockCp d rep =>
          exact bind (reads fun _ => rfl) fun _ => bind (reads fun _ => rfl) fun _ =>
            bind (mreqRd _) fun _ => bind (writes fun _ => rfl) fun _ =>
            bind (writes fun _ => rfl) fun _ => bind (reads fun _ => rfl) fun _ =>
            bind (restorePc _ _) fun _ => writes fun _ => rfl
      | rld =>
          exact bind (reads fun _ => rfl) fun _ => bind (mreqRd _) fun _ =>
            bind (reads fun _ => rfl) fun _ => bind (writes fun _ => rfl) fun _ =>
            bind (writes fun _ => rfl) fun _ => mreqWr _ _
      | rrd =>
          exact bind (reads fun _ => rfl) fun _ => bind (mreqRd _) fun _ =>
            bind (reads fun _ => rfl) fun _ => bind (writes fun _ => rfl) fun _ =>
            bind (writes fun _ => rfl) fun _ => mreqWr _ _
      | exx => exact writes fun _ => rfl
      | _ => exact absurd h Bool.false_ne_true

/-- What an instruction does, it does to the exchanged registers. -/
theorem exec (opP wz : Word) {i : Instr}
    (h : x = .hlIx → i.impliesHl = false) :
    Renames x k (Cpu.exec I opP wz i) (Cpu.exec I opP wz (i.rename x)) := by
  have hhl : i.impliesHl = true → Renames x k (Cpu.exec I opP wz i)
      (Cpu.exec I opP wz (i.rename x)) := by
    intro hi
    refine exec_impliesHl (fun hx => ?_) opP wz hi
    exact absurd ((h hx).symm.trans hi) Bool.false_ne_true
  cases i with
  | blockIn d rep => exact hhl rfl
  | blockOut d rep => exact hhl rfl
  | blockLd d rep => exact hhl rfl
  | blockCp d rep => exact hhl rfl
  | rld => exact hhl rfl
  | rrd => exact hhl rfl
  | exx => exact hhl rfl
  | nop => exact pure ()
  | di => exact writesSt _
  | ei => exact writesSt _
  | halt => exact writesSt _
  | im im1 im2 => exact writesSt _
  | inR08IndR08 data port =>
      exact bind (reads_same fun r => by rw [x.bc_regs]) fun _ =>
        bind (get8 port) fun _ => bind (iorqRd _) fun _ =>
        bind (set8 data _) fun _ => setF fun r => by rw [x.af_regs]
  | inR08IndI08 reg1 =>
      exact bind (reads_same fun r => by rw [x.af_regs]) fun _ =>
        bind fetchByte fun _ => bind (iorqRd _) fun _ => set8 reg1 _
  | outIndR08R08 port data =>
      exact bind (reads_same fun r => by rw [x.bc_regs]) fun _ =>
        bind (get8 port) fun _ => bind (get8 data) fun _ => iorqWr _ _
  | outIndI08R08 reg1 =>
      exact bind (reads_same fun r => by rw [x.af_regs]) fun _ =>
        bind fetchByte fun _ => bind (get8 reg1) fun _ => iorqWr _ _
  | ldR08R08 reg1 reg2 =>
      exact writes fun r => by rw [x.get8_regs, x.set8_regs]
  | ldR08I08 reg1 => exact bind fetchByte fun _ => set8 reg1 _
  | ldR08IndR16 reg1 reg2 =>
      exact bind (get16 reg2) fun _ => bind (mreqRd _) fun _ => set8 reg1 _
  | ldIndR16R08 reg1 reg2 =>
      exact bind (get16 reg1) fun _ => bind (get8 reg2) fun _ => mreqWr _ _
  | ldR08IndI16 reg1 =>
      exact bind fetchWord fun _ => bind (mreqRd _) fun _ => set8 reg1 _
  | ldIndI16R08 reg1 =>
      exact bind fetchWord fun _ => bind (get8 reg1) fun _ => mreqWr _ _
  | ldIndR16I08 reg1 =>
      exact bind fetchByte fun _ => bind (get16 reg1) fun _ => mreqWr _ _
  | ldR08IndR16PlusI08 reg1 reg2 =>
      exact bind (fetchIndexed reg2) fun _ => bind (mreqRd _) fun _ =>
        set8 reg1 _
  | ldIndR16PlusI08R08 reg1 reg2 =>
      exact bind (fetchIndexed reg1) fun _ => bind (get8 reg2) fun _ =>
        mreqWr _ _
  | ldIndR16PlusI08I08 reg1 =>
      exact bind (fetchIndexed reg1) fun _ => bind fetchByte fun _ =>
        mreqWr _ _
  | ldAI =>
      exact bind (readsSt _) fun _ =>
        bind (setA _ fun r => by rw [x.ir_regs]) fun _ =>
        setF fun r => by rw [x.af_regs]
  | ldAR =>
      exact bind (readsSt _) fun _ =>
        bind (setA _ fun r => by rw [x.ir_regs]) fun _ =>
        setF fun r => by rw [x.af_regs]
  | ldIA =>
      refine writes fun r => ?_
      cases x with
      | _ => rfl
  | ldRA =>
      refine writes fun r => ?_
      cases x with
      | _ => rfl
  | ldR16R16 reg1 reg2 =>
      exact writes fun r => by rw [x.get16_regs, x.set16_regs]
  | ldR16I16 reg1 => exact bind fetchWord fun _ => set16 reg1 _
  | ldR16IndI16 reg1 =>
      exact bind fetchWord fun _ => bind (mreqRd _) fun _ =>
        bind (mreqRd _) fun _ => set16 reg1 _
  | ldIndI16R16 reg1 =>
      exact bind (get16 reg1) fun _ => bind fetchWord fun _ =>
        bind (mreqWr _ _) fun _ => mreqWr _ _
  | pushR16 reg1 => exact bind (get16 reg1) fun _ => pushWord _
  | popR16 reg1 => exact bind popWord fun _ => set16 reg1 _
  | cpl =>
      exact bind (setA _ fun r => by rw [x.af_regs]) fun _ =>
        setF fun r => by rw [x.af_regs]
  | ccf => exact setF fun r => by rw [x.af_regs]
  | scf => exact setF fun r => by rw [x.af_regs]
  | daa => exact accumulator _
  | neg => exact accumulator _
  | rotA op => exact accumulator _
  | aluR08R08 op reg1 reg2 =>
      exact bind (get8 reg1) fun _ => bind (get8 reg2) fun _ => aluAcc _ _ _
  | aluR08I08 op reg1 =>
      exact bind (get8 reg1) fun _ => bind fetchByte fun _ => aluAcc _ _ _
  | aluR08IndR16 op reg1 reg2 =>
      exact bind (get8 reg1) fun _ => bind (get16 reg2) fun _ =>
        bind (mreqRd _) fun _ => aluAcc _ _ _
  | aluR08IndR16PlusI08 op reg1 reg2 =>
      exact bind (fetchIndexed reg2) fun _ => bind (get8 reg1) fun _ =>
        bind (mreqRd _) fun _ => aluAcc _ _ _
  | incR08 reg1 => exact modifyR08 reg1 _
  | decR08 reg1 => exact modifyR08 reg1 _
  | rotR08 op data => exact modifyR08 data _
  | resBR08 mask data => exact modifyR08 data _
  | setBR08 mask data => exact modifyR08 data _
  | incIndR16 reg1 => exact modifyAt (get16 reg1) _
  | decIndR16 reg1 => exact modifyAt (get16 reg1) _
  | rotIndR16 op addr => exact modifyAt (get16 addr) _
  | resBIndR16 mask addr => exact modifyAt (get16 addr) _
  | setBIndR16 mask addr => exact modifyAt (get16 addr) _
  | incIndR16PlusI08 reg1 => exact modifyAt (fetchIndexed reg1) _
  | decIndR16PlusI08 reg1 => exact modifyAt (fetchIndexed reg1) _
  | rotIndR16PlusI08 op reg1 => exact bind (modifyInd _ _) fun _ => pure _
  | resBIndR16PlusI08 mask reg1 => exact bind (modifyInd _ _) fun _ => pure _
  | setBIndR16PlusI08 mask reg1 => exact bind (modifyInd _ _) fun _ => pure _
  | rotIndR16PlusI08R08 op reg1 reg2 =>
      exact bind (modifyInd _ _) fun _ => set8 reg2 _
  | resBIndR16PlusI08R08 mask reg1 reg2 =>
      exact bind (modifyInd _ _) fun _ => set8 reg2 _
  | setBIndR16PlusI08R08 mask reg1 reg2 =>
      exact bind (modifyInd _ _) fun _ => set8 reg2 _
  | addR16R16 reg1 reg2 => exact addInto add16 reg1 reg2
  | adcR16R16 reg1 reg2 => exact addInto adc16 reg1 reg2
  | sbcR16R16 reg1 reg2 => exact addInto sbc16 reg1 reg2
  | incR16 reg1 => exact writes fun r => by rw [x.get16_regs, x.set16_regs]
  | decR16 reg1 => exact writes fun r => by rw [x.get16_regs, x.set16_regs]
  | djnzI08 =>
      refine bind (writes fun r => ?_) fun _ =>
        bind (reads_same fun r => by rw [x.bc_regs]) fun _ =>
        branch (bind jumpRelative fun _ => consume 1 5) skipByte
      cases x with
      | _ => rfl
  | jpR16 reg1 => exact writes fun r => by rw [x.get16_regs, x.setPc_regs]
  | jpI16 => exact bind fetchWord fun _ => setPc _
  | jpCcI16 cc =>
      exact bind (reads_same fun r => by rw [x.af_regs]) fun _ =>
        branch (bind fetchWord fun _ => setPc _) skipWord
  | jrI08 => exact jumpRelative
  | jrCcI08 cc =>
      exact bind (reads_same fun r => by rw [x.af_regs]) fun _ =>
        branch (bind jumpRelative fun _ => consume 1 5) skipByte
  | rstVec16 addr => exact rstVec16 addr
  | callI16 => exact bind fetchWord fun _ => rstVec16 _
  | callCcI16 cc =>
      exact bind (reads_same fun r => by rw [x.af_regs]) fun _ =>
        branch (bind fetchWord fun _ => bind (rstVec16 _) fun _ => consume 2 7)
          skipWord
  | ret => exact bind popWord fun _ => setPc _
  | retCc cc =>
      exact bind (reads_same fun r => by rw [x.af_regs]) fun _ =>
        branch (bind popWord fun _ => bind (setPc _) fun _ => consume 2 6)
          (pure _)
  | reti => exact bind popWord fun _ => setPc _
  | retn =>
      exact bind (writesSt _) fun _ => bind popWord fun _ => setPc _
  | exR16R16 reg1 reg2 =>
      exact writes fun r => by
        rw [x.get16_regs, x.set16_regs, x.get16_regs, x.set16_regs]
  | exIndR16R16 reg1 reg2 =>
      exact bind (get16 reg1) fun _ => bind (get16 reg2) fun _ =>
        bind (mreqRd _) fun _ => bind (mreqRd _) fun _ =>
        bind (mreqWr _ _) fun _ => bind (mreqWr _ _) fun _ => set16 reg2 _
  | bitBR08 mask data => exact bind (get8 data) fun _ => bitTest _ _ _
  | bitBIndR16 mask addr =>
      exact bind (get16 addr) fun _ => bind (mreqRd _) fun _ => bitTest _ _ _
  | bitBIndR16PlusI08 mask reg1 =>
      exact bind (mreqRd _) fun _ => bitTest _ _ _

end Renames

end Xcpc.Cpu
