import Xcpc.Cpu.Microcode
import Xcpc.Cpu.Opcodes

/-!
# The clock

`cpu::Instance::clock` is one body of labels. It runs the prolog when
`i_period` is zero, that is at an instruction boundary, and the epilog takes
one from `i_period` in every case. The labels are functions here, the ones
that a `goto` can reach first.

The source's function returns nothing. The model's says what a call at a
boundary did, so that statements can speak of the instruction that was just
executed and of how many opcode bytes were fetched for it.
-/

namespace Xcpc.Cpu

variable {β : Type} (I : Interface β)

/-- What a call of `clock` at a boundary did: it took an interrupt, idled in
`halt`, or executed an instruction of so many opcode bytes fetched with
`m_mreq_m1`. -/
inductive Branch where
  | nmi
  | int
  | halted
  | exec (fetched : Nat) (micro : Instr)
deriving DecidableEq, Repr

/-- The row of an opcode, or that of the `default` label. -/
def lookup (table : List Entry) (cycles states : Nat) (op : Byte) : Entry :=
  table.getD op.toNat (Opcodes.row cycles states .illegal)

def entryMain : Byte → Entry := lookup Opcodes.main 1 4

def entryCb : Byte → Entry := lookup Opcodes.cb 1 4

def entryEd : Byte → Entry := lookup Opcodes.ed 1 4

def entryDd : Byte → Entry := lookup Opcodes.dd 1 4

def entryFd : Byte → Entry := lookup Opcodes.fd 1 4

def entryDdcb : Byte → Entry := lookup Opcodes.ddcb 2 8

def entryFdcb : Byte → Entry := lookup Opcodes.fdcb 2 8

/-- The statements of one case. -/
def execEntry (opP wz : Word) (e : Entry) : CpuM β Unit := do
  exec I opP wz e.micro
  consume e.mCycles e.tStates

/-- `m_fetch_opcode` and the fetches of the `cb`, `ed`, `dd` and `fd` tables,
with the refresh that follows them. -/
def fetchM1 : CpuM β Byte := do
  let pc ← reads (·.pc.w)
  let op ← mreqM1 I pc
  writes (·.setPc (pc + 1))
  refreshDram
  return op

/-! ## The tables

Each of the next functions is a pair of labels, the fetch and the switch. They
return the opcode bytes fetched with `m_mreq_m1` and the micro-instruction. -/

/-- `fetch_ddcb_opcode` and `fetch_fdcb_opcode` -/
def fetchIndexedCbOpcode (reg1 : R16) (entry : Byte → Entry) (opP : Word) :
    CpuM β (Nat × Instr) := do
  let wz ← fetchIndexed I reg1
  let op ← fetchByte I
  execEntry I opP wz (entry op)
  return (0, (entry op).micro)

def fetchDdcbOpcode : Word → CpuM β (Nat × Instr) :=
  fetchIndexedCbOpcode I .ixW entryDdcb

def fetchFdcbOpcode : Word → CpuM β (Nat × Instr) :=
  fetchIndexedCbOpcode I .iyW entryFdcb

/-- `fetch_cb_opcode` and `fetch_ed_opcode`, all of whose cases break. -/
def fetchPlainOpcode (entry : Byte → Entry) (opP : Word) :
    CpuM β (Nat × Instr) := do
  let op ← fetchM1 I
  execEntry I opP 0 (entry op)
  return (1, (entry op).micro)

def fetchCbOpcode : Word → CpuM β (Nat × Instr) := fetchPlainOpcode I entryCb

def fetchEdOpcode : Word → CpuM β (Nat × Instr) := fetchPlainOpcode I entryEd

/-- `fetch_dd_opcode` and `fetch_fd_opcode`. One case of each goes on to the
indexed `cb` table. -/
def fetchIndexedOpcode (entry : Byte → Entry)
    (fetchCb : Word → CpuM β (Nat × Instr)) (opP : Word) :
    CpuM β (Nat × Instr) := do
  let op ← fetchM1 I
  execEntry I opP 0 (entry op)
  match (entry op).next with
  | .fetchDdcb | .fetchFdcb => do
      let r ← fetchCb opP
      return (r.1 + 1, r.2)
  | _ => return (1, (entry op).micro)

def fetchDdOpcode : Word → CpuM β (Nat × Instr) :=
  fetchIndexedOpcode I entryDd (fetchDdcbOpcode I)

def fetchFdOpcode : Word → CpuM β (Nat × Instr) :=
  fetchIndexedOpcode I entryFd (fetchFdcbOpcode I)

/-- `execute_opcode` -/
def executeOpcode (opP : Word) (op : Byte) : CpuM β (Nat × Instr) := do
  execEntry I opP 0 (entryMain op)
  match (entryMain op).next with
  | .fetchCb => fetchCbOpcode I opP
  | .fetchEd => fetchEdOpcode I opP
  | .fetchDd => fetchDdOpcode I opP
  | .fetchFd => fetchFdOpcode I opP
  | _ => return (0, (entryMain op).micro)

/-- `fetch_opcode` -/
def fetchOpcode (opP : Word) : CpuM β Branch := do
  let op ← fetchM1 I
  let r ← executeOpcode I opP op
  return .exec (r.1 + 1) r.2

/-! ## Interrupts and the prolog -/

/-- `m_interrupt_mode` -/
def interruptMode (st : Status) : Nat :=
  (if st.im1 then 1 else 0) ||| (if st.im2 then 2 else 0)

/-- `m_take_nmi`, when it returns true. -/
def takeNmi (st : Status) : Status :=
  { st with hlt := false, nmi := false, iff1 := false }

/-- `m_take_int`, when it returns true. -/
def takeInt (st : Status) : Status :=
  { st with hlt := false, int := false, iff2 := false, iff1 := false }

/-- The `switch` on the interrupt mode. Its `default` is an empty `break`. -/
def serveInt (opP : Word) (mode : Nat) : CpuM β Unit :=
  match mode with
  | 0 => do
      let op ← iorqM1 I 0x0000
      let _ ← executeOpcode I opP op
  | 1 => do
      let _ ← iorqM1 I 0x0000
      rstVec16 I VECTOR_38H
      consume 3 13
  | 2 => do
      let pc ← reads (·.pc.w)
      pushWord I pc
      let l ← iorqM1 I 0x0000
      let h ← reads (·.ir.h)
      let pcL ← mreqRd I (h ++ l)
      let pcH ← mreqRd I (h ++ l + 1)
      writes (·.setPc (pcH ++ pcL))
      consume 5 19
  | _ => pure ()

/-- `check_hlt` -/
def checkHlt (opP : Word) : CpuM β Branch := do
  let hlt ← readsSt (·.hlt)
  if hlt then
    refreshDram
    consume 1 4
    return .halted
  else
    fetchOpcode I opP

/-- `check_int` -/
def checkInt (opP : Word) : CpuM β Branch := do
  let take ← readsSt fun st => st.iff1 && st.int
  if take then
    writesSt takeInt
    let mode ← readsSt interruptMode
    serveInt I opP mode
    return .int
  else
    checkHlt I opP

/-- The statements of `check_nmi` when an NMI is taken. -/
def serveNmi : CpuM β Unit := do
  rstVec16 I VECTOR_66H
  consume 3 11

/-- `check_nmi` -/
def checkNmi (opP : Word) : CpuM β Branch := do
  let take ← readsSt (·.nmi)
  if take then
    writesSt takeNmi
    serveNmi I
    return .nmi
  else
    checkInt I opP

/-- `prolog`, with `m_after_ei`. -/
def prolog : CpuM β Branch := do
  let opP ← reads (·.pc.w)
  let aei ← readsSt (·.aei)
  if aei then
    writesSt fun st => { st with aei := false }
    checkHlt I opP
  else
    checkNmi I opP

/-- `epilog` -/
def epilog : CpuM β Unit := fun s =>
  ((), { s with time := { s.time with iPeriod := s.time.iPeriod - 1 } })

/-- Whether the instance is at an instruction boundary. -/
def Instance.atBoundary (s : Instance β) : Bool := s.time.iPeriod == 0

/-- `cpu::Instance::clock` -/
def clock (s : Instance β) : Instance β :=
  if s.atBoundary then
    (epilog (prolog I s).2).2
  else
    (epilog s).2

def pulseNmi (s : Instance β) : Instance β :=
  { s with st := { s.st with nmi := true } }

def pulseInt (s : Instance β) : Instance β :=
  { s with st := { s.st with int := true } }

variable {I}

theorem prolog_aei {s : Instance β} (h : s.st.aei = true) :
    prolog I s =
      checkHlt I s.regs.pc.w { s with st := { s.st with aei := false } } := by
  simp [prolog, reads, readsSt, writesSt, bind, StateT.bind, h]

theorem prolog_nmi {s : Instance β} (ha : s.st.aei = false)
    (h : s.st.nmi = true) :
    prolog I s =
      (do serveNmi I; return .nmi : CpuM β Branch)
        { s with st := takeNmi s.st } := by
  simp [prolog, checkNmi, reads, readsSt, writesSt, bind, StateT.bind, ha, h]

/-- The state has an interrupt that the prolog takes. -/
def Instance.acceptsInt (s : Instance β) : Bool :=
  !s.st.aei && !s.st.nmi && s.st.iff1 && s.st.int

theorem prolog_int {s : Instance β} (h : s.acceptsInt = true) :
    prolog I s =
      (do serveInt I s.regs.pc.w (interruptMode s.st); return .int :
          CpuM β Branch)
        { s with st := takeInt s.st } := by
  simp only [Instance.acceptsInt, Bool.and_eq_true, Bool.not_eq_true'] at h
  obtain ⟨⟨⟨ha, hn⟩, hf⟩, hi⟩ := h
  simp [prolog, checkNmi, checkInt, reads, readsSt, writesSt, bind,
    StateT.bind, ha, hn, hf, hi, interruptMode, takeInt]

theorem prolog_none {s : Instance β} (ha : s.st.aei = false)
    (hn : s.st.nmi = false) (h : s.acceptsInt = false) :
    prolog I s = checkHlt I s.regs.pc.w s := by
  have hi : (s.st.iff1 && s.st.int) = false := by
    simpa [Instance.acceptsInt, ha, hn] using h
  simp [prolog, checkNmi, checkInt, reads, readsSt, bind, StateT.bind, ha, hn,
    hi]

theorem checkHlt_hlt {s : Instance β} {opP : Word} (h : s.st.hlt = true) :
    checkHlt I opP s =
      (.halted, { s with regs := refresh s.regs, time := s.time.consume 1 4 }) := by
  simp [checkHlt, refreshDram, writes, consume, readsSt, bind, StateT.bind, h,
    pure, StateT.pure]

theorem checkHlt_run {s : Instance β} {opP : Word} (h : s.st.hlt = false) :
    checkHlt I opP s = fetchOpcode I opP s := by
  simp [checkHlt, readsSt, bind, StateT.bind, h]

/-- What happens to a `cpu::Instance`: calls of its functions, and changes of
whatever is behind its interface in between. -/
inductive Event (β : Type) where
  | clock
  | pulseNmi
  | pulseInt
  | bus (b : β)

variable (I) in
def step (s : Instance β) : Event β → Instance β
  | .clock => clock I s
  | .pulseNmi => pulseNmi s
  | .pulseInt => pulseInt s
  | .bus b => { s with bus := b }

end Xcpc.Cpu
