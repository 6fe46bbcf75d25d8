import Xcpc.Cpu.Instr

/-!
# The microcode

The macros run in a state monad over the instance. Accesses to the bus go
through the interface, and whatever is behind it answers from its own state.

`OP_P`, the program counter that the prolog backed up, and `WZ_W`, the address
that the `ddcb` and `fdcb` fetches leave behind, are the only scratch
registers an instruction reads before it writes them. They are arguments of
`exec`. The others are local to one macro.
-/

namespace Xcpc.Cpu

abbrev CpuM (β : Type) := StateM (Instance β)

variable {β : Type} (I : Interface β)

/-! ## Accesses -/

/-- `m_mreq_m1`, with the wait states of the mainboard. -/
def mreqM1 (addr : Word) : CpuM β Byte := fun s =>
  let r := I.mreqM1 s.bus addr
  (r.1, { s with bus := r.2, time := s.time.adjust })

def mreqRd (addr : Word) : CpuM β Byte := fun s =>
  let r := I.mreqRd s.bus addr
  (r.1, { s with bus := r.2 })

def mreqWr (addr : Word) (data : Byte) : CpuM β Unit := fun s =>
  ((), { s with bus := I.mreqWr s.bus addr data })

def iorqM1 (port : Word) : CpuM β Byte := fun s =>
  let r := I.iorqM1 s.bus port
  (r.1, { s with bus := r.2 })

def iorqRd (port : Word) : CpuM β Byte := fun s =>
  let r := I.iorqRd s.bus port
  (r.1, { s with bus := r.2 })

def iorqWr (port : Word) (data : Byte) : CpuM β Unit := fun s =>
  ((), { s with bus := I.iorqWr s.bus port data })

/-- A value computed from the registers. -/
def reads {α : Type} (f : Regs → α) : CpuM β α := fun s => (f s.regs, s)

/-- An assignment to the registers. -/
def writes (f : Regs → Regs) : CpuM β Unit := fun s =>
  ((), { s with regs := f s.regs })

/-- A value computed from `ST_L`. -/
def readsSt {α : Type} (f : Status → α) : CpuM β α := fun s => (f s.st, s)

/-- An assignment to the bits of `ST_L`. -/
def writesSt (f : Status → Status) : CpuM β Unit := fun s =>
  ((), { s with st := f s.st })

/-- `m_consume` -/
def consume (cycles states : Nat) : CpuM β Unit := fun s =>
  ((), { s with time := s.time.consume cycles states })

/-- `m_refresh_dram` -/
def refresh (s : Regs) : Regs :=
  { s with ir := { s.ir with l := (s.ir.l &&& 0x80) ||| ((s.ir.l + 1) &&& 0x7f) } }

def refreshDram : CpuM β Unit := writes refresh

/-- One branch of a test inside a macro. -/
def branch (b : Bool) (m n : CpuM β Unit) : CpuM β Unit := if b then m else n

/-- The byte at `PC_W`, which moves past it. -/
def fetchByte : CpuM β Byte := do
  let pc ← reads (·.pc.w)
  let v ← mreqRd I pc
  writes (·.setPc (pc + 1))
  return v

/-- The word at `PC_W`, low byte first. -/
def fetchWord : CpuM β Word := do
  let l ← fetchByte I
  let h ← fetchByte I
  return h ++ l

/-- `WZ_W = reg1 + SBYTE(MREQ_RD(SELF, PC_W++, 0x00))` -/
def fetchIndexed (reg1 : R16) : CpuM β Word := do
  let d ← fetchByte I
  let r ← reads (·.get16 reg1)
  return r + sbyte d

/-- A word written below the stack pointer, high byte first. -/
def pushWord (v : Word) : CpuM β Unit := do
  let sp ← reads (·.sp.w)
  mreqWr I (sp - 1) (hi v)
  mreqWr I (sp - 2) (lo v)
  writes (·.setSp (sp - 2))

/-- The word at the stack pointer, which moves past it. -/
def popWord : CpuM β Word := do
  let sp ← reads (·.sp.w)
  let l ← mreqRd I sp
  let h ← mreqRd I (sp + 1)
  writes (·.setSp (sp + 2))
  return h ++ l

/-- `m_rst_vec16` -/
def rstVec16 (addr : Word) : CpuM β Unit := do
  let pc ← reads (·.pc.w)
  pushWord I pc
  writes (·.setPc addr)

/-- The jump of `jr` and `djnz`. -/
def jumpRelative : CpuM β Unit := do
  let pc ← reads (·.pc.w)
  let d ← mreqRd I pc
  writes (·.setPc (pc + sbyte d + 1))

/-- `PC_W += 1`, over the displacement of a jump that is not taken. -/
def skipByte : CpuM β Unit := writes fun s => s.setPc (s.pc.w + 1)

/-- `PC_W = PC_W + 2`, over the address of a jump that is not taken. -/
def skipWord : CpuM β Unit := writes fun s => s.setPc (s.pc.w + 2)

/-- `m_restore_pc` and the five states of a repeated block instruction. -/
def restorePc (opP : Word) (rep : Bool) : CpuM β Unit :=
  branch rep
    (do writes (·.setPc opP); consume 1 5)
    (pure ())

/-- The result and the flags of `f` on the byte at `addr`, which is written
back. The result is left in `R0_L`. -/
def modifyInd (addr : Word) (f : Byte → Byte → Byte × Byte) : CpuM β Byte := do
  let r1 ← mreqRd I addr
  let af ← reads (·.af.l)
  writes (·.setF (f r1 af).2)
  mreqWr I addr (f r1 af).1
  return (f r1 af).1

/-- The same on a register. -/
def modifyR08 (r : R8) (f : Byte → Byte → Byte × Byte) : CpuM β Unit := do
  let r1 ← reads (·.get8 r)
  let af ← reads (·.af.l)
  writes (·.setF (f r1 af).2)
  writes (·.set8 r (f r1 af).1)

/-- An operation on the accumulator. Only `cp` leaves `AF_H` alone. -/
def aluAcc (op : Alu) (r1 r2 : Byte) : CpuM β Unit := do
  let af ← reads (·.af.l)
  branch (op != .cp)
    (writes (·.set8 .afH (op.apply r1 r2 af).1))
    (pure ())
  writes (·.setF (op.apply r1 r2 af).2)

/-- `bit` of a byte. -/
def bitTest (mask r1 yx : Byte) : CpuM β Unit :=
  writes fun s => s.setF (bitFlags mask r1 yx s.af.l)

/-- `res`, which leaves the flags as they are. -/
def resB (mask r1 f : Byte) : Byte × Byte := (r1 &&& ~~~mask, f)

/-- `set`, which leaves the flags as they are. -/
def setB (mask r1 f : Byte) : Byte × Byte := (r1 ||| mask, f)

/-! ## Instructions -/

/-- What a case of the switches does before it consumes its cycles. -/
def exec (opP wz : Word) : Instr → CpuM β Unit
  | .nop => pure ()
  | .di => writesSt fun s => { s with iff1 := false, iff2 := false, aei := false }
  | .ei => writesSt fun s => { s with iff1 := true, iff2 := true, aei := true }
  | .halt => writesSt fun s => { s with hlt := true }
  | .im im1 im2 => writesSt fun s => { s with im1 := im1, im2 := im2 }
  | .inR08IndR08 data port => do
      let h ← reads (·.bc.h)
      let l ← reads (·.get8 port)
      let r0 ← iorqRd I (h ++ l)
      writes (·.set8 data r0)
      writes fun s => s.setF (inFlags r0 s.af.l)
  | .inR08IndI08 reg1 => do
      let h ← reads (·.af.h)
      let l ← fetchByte I
      let v ← iorqRd I (h ++ l)
      writes (·.set8 reg1 v)
  | .outIndR08R08 port data => do
      let h ← reads (·.bc.h)
      let l ← reads (·.get8 port)
      let v ← reads (·.get8 data)
      iorqWr I (h ++ l) v
  | .outIndI08R08 reg1 => do
      let h ← reads (·.af.h)
      let l ← fetchByte I
      let v ← reads (·.get8 reg1)
      iorqWr I (h ++ l) v
  | .blockIn d rep => do
      let bc ← reads (·.bc.w)
      let hl ← reads (·.hl.w)
      let v ← iorqRd I bc
      mreqWr I hl v
      writes fun s => s.set8 .bcH (s.bc.h - 1)
      writes fun s => s.set16 .hlW (d.move s.hl.w)
      let b ← reads (·.bc.h)
      restorePc opP (rep && b != 0)
      writes fun s => s.setF (iniFlags b s.af.l)
  | .blockOut d rep => do
      let hl ← reads (·.hl.w)
      let v ← mreqRd I hl
      writes fun s => s.set8 .bcH (s.bc.h - 1)
      writes fun s => s.set16 .hlW (d.move s.hl.w)
      let bc ← reads (·.bc.w)
      iorqWr I bc v
      let b ← reads (·.bc.h)
      restorePc opP (rep && b != 0)
      writes fun s => s.setF (iniFlags b s.af.l)
  | .ldR08R08 reg1 reg2 => writes fun s => s.set8 reg1 (s.get8 reg2)
  | .ldR08I08 reg1 => do
      let v ← fetchByte I
      writes (·.set8 reg1 v)
  | .ldR08IndR16 reg1 reg2 => do
      let a ← reads (·.get16 reg2)
      let v ← mreqRd I a
      writes (·.set8 reg1 v)
  | .ldIndR16R08 reg1 reg2 => do
      let a ← reads (·.get16 reg1)
      let v ← reads (·.get8 reg2)
      mreqWr I a v
  | .ldR08IndI16 reg1 => do
      let a ← fetchWord I
      let v ← mreqRd I a
      writes (·.set8 reg1 v)
  | .ldIndI16R08 reg1 => do
      let a ← fetchWord I
      let v ← reads (·.get8 reg1)
      mreqWr I a v
  | .ldIndR16I08 reg1 => do
      let v ← fetchByte I
      let a ← reads (·.get16 reg1)
      mreqWr I a v
  | .ldR08IndR16PlusI08 reg1 reg2 => do
      let a ← fetchIndexed I reg2
      let v ← mreqRd I a
      writes (·.set8 reg1 v)
  | .ldIndR16PlusI08R08 reg1 reg2 => do
      let a ← fetchIndexed I reg1
      let v ← reads (·.get8 reg2)
      mreqWr I a v
  | .ldIndR16PlusI08I08 reg1 => do
      let a ← fetchIndexed I reg1
      let v ← fetchByte I
      mreqWr I a v
  | .ldAI => do
      let iff2 ← readsSt (·.iff2)
      writes fun s => s.set8 .afH s.ir.h
      writes fun s => s.setF (ldAIrFlags s.af.h s.af.l iff2)
  | .ldIA => writes fun s => { s with ir := { s.ir with h := s.af.h } }
  | .ldAR => do
      let iff2 ← readsSt (·.iff2)
      writes fun s => s.set8 .afH s.ir.l
      writes fun s => s.setF (ldAIrFlags s.af.h s.af.l iff2)
  | .ldRA => writes fun s => { s with ir := { s.ir with l := s.af.h } }
  | .ldR16R16 reg1 reg2 => writes fun s => s.set16 reg1 (s.get16 reg2)
  | .ldR16I16 reg1 => do
      let v ← fetchWord I
      writes (·.set16 reg1 v)
  | .ldR16IndI16 reg1 => do
      let a ← fetchWord I
      let l ← mreqRd I a
      let h ← mreqRd I (a + 1)
      writes (·.set16 reg1 (h ++ l))
  | .ldIndI16R16 reg1 => do
      let v ← reads (·.get16 reg1)
      let a ← fetchWord I
      mreqWr I a (lo v)
      mreqWr I (a + 1) (hi v)
  | .pushR16 reg1 => do
      let v ← reads (·.get16 reg1)
      pushWord I v
  | .popR16 reg1 => do
      let v ← popWord I
      writes (·.set16 reg1 v)
  | .daa => modifyR08 .afH daa8
  | .cpl => do
      writes fun s => s.set8 .afH (~~~s.af.h)
      writes fun s => s.setF (cplFlags s.af.h s.af.l)
  | .neg => modifyR08 .afH fun a _ => neg8 a
  | .ccf => writes fun s => s.setF (ccfFlags s.af.h s.af.l)
  | .scf => writes fun s => s.setF (scfFlags s.af.h s.af.l)
  | .aluR08R08 op reg1 reg2 => do
      let r1 ← reads (·.get8 reg1)
      let r2 ← reads (·.get8 reg2)
      aluAcc op r1 r2
  | .aluR08I08 op reg1 => do
      let r1 ← reads (·.get8 reg1)
      let r2 ← fetchByte I
      aluAcc op r1 r2
  | .aluR08IndR16 op reg1 reg2 => do
      let r1 ← reads (·.get8 reg1)
      let a ← reads (·.get16 reg2)
      let r2 ← mreqRd I a
      aluAcc op r1 r2
  | .aluR08IndR16PlusI08 op reg1 reg2 => do
      let a ← fetchIndexed I reg2
      let r1 ← reads (·.get8 reg1)
      let r2 ← mreqRd I a
      aluAcc op r1 r2
  | .incR08 reg1 => modifyR08 reg1 inc8
  | .incIndR16 reg1 => do
      let a ← reads (·.get16 reg1)
      let _ ← modifyInd I a inc8
  | .incIndR16PlusI08 reg1 => do
      let a ← fetchIndexed I reg1
      let _ ← modifyInd I a inc8
  | .decR08 reg1 => modifyR08 reg1 dec8
  | .decIndR16 reg1 => do
      let a ← reads (·.get16 reg1)
      let _ ← modifyInd I a dec8
  | .decIndR16PlusI08 reg1 => do
      let a ← fetchIndexed I reg1
      let _ ← modifyInd I a dec8
  | .addR16R16 reg1 reg2 => writes fun s =>
      let r := add16 (s.get16 reg1) (s.get16 reg2) s.af.l
      (s.setF r.2).set16 reg1 r.1
  | .adcR16R16 reg1 reg2 => writes fun s =>
      let r := adc16 (s.get16 reg1) (s.get16 reg2) s.af.l
      (s.setF r.2).set16 reg1 r.1
  | .sbcR16R16 reg1 reg2 => writes fun s =>
      let r := sbc16 (s.get16 reg1) (s.get16 reg2) s.af.l
      (s.setF r.2).set16 reg1 r.1
  | .incR16 reg1 => writes fun s => s.set16 reg1 (s.get16 reg1 + 1)
  | .decR16 reg1 => writes fun s => s.set16 reg1 (s.get16 reg1 - 1)
  | .djnzI08 => do
      writes fun s => s.set8 .bcH (s.bc.h - 1)
      let b ← reads (·.bc.h)
      branch (b != 0)
        (do jumpRelative I; consume 1 5)
        skipByte
  | .jpR16 reg1 => writes fun s => s.setPc (s.get16 reg1)
  | .jpI16 => do
      let a ← fetchWord I
      writes (·.setPc a)
  | .jpCcI16 cc => do
      let f ← reads (·.af.l)
      branch (cc.holds f)
        (do let a ← fetchWord I; writes (·.setPc a))
        skipWord
  | .jrI08 => jumpRelative I
  | .jrCcI08 cc => do
      let f ← reads (·.af.l)
      branch (cc.holds f)
        (do jumpRelative I; consume 1 5)
        skipByte
  | .rstVec16 addr => rstVec16 I addr
  | .callI16 => do
      let a ← fetchWord I
      rstVec16 I a
  | .callCcI16 cc => do
      let f ← reads (·.af.l)
      branch (cc.holds f)
        (do let a ← fetchWord I; rstVec16 I a; consume 2 7)
        skipWord
  | .ret => do
      let a ← popWord I
      writes (·.setPc a)
  | .retCc cc => do
      let f ← reads (·.af.l)
      branch (cc.holds f)
        (do let a ← popWord I; writes (·.setPc a); consume 2 6)
        (pure ())
  | .reti => do
      let a ← popWord I
      writes (·.setPc a)
  | .retn => do
      writesSt fun s => { s with iff1 := s.iff2 }
      let a ← popWord I
      writes (·.setPc a)
  | .exx => writes fun s =>
      { s with
        bc := s.bcP, bcP := s.bc
        de := s.deP, deP := s.de
        hl := s.hlP, hlP := s.hl }
  | .exR16R16 reg1 reg2 => writes fun s =>
      (s.set16 reg1 (s.get16 reg2)).set16 reg2 (s.get16 reg1)
  | .exIndR16R16 reg1 reg2 => do
      let r1 ← reads (·.get16 reg1)
      let r2 ← reads (·.get16 reg2)
      let l ← mreqRd I r1
      let h ← mreqRd I (r1 + 1)
      mreqWr I r1 (lo r2)
      mreqWr I (r1 + 1) (hi r2)
      writes (·.set16 reg2 (h ++ l))
  | .blockLd d rep => do
      let a ← reads (·.af.h)
      let hl ← reads (·.hl.w)
      let v ← mreqRd I hl
      let de ← reads (·.de.w)
      mreqWr I de v
      writes fun s => s.set16 .hlW (d.move s.hl.w)
      writes fun s => s.set16 .deW (d.move s.de.w)
      writes fun s => s.set16 .bcW (s.bc.w - 1)
      let bc ← reads (·.bc.w)
      writes fun s => s.setF (ldiFlags a v bc s.af.l)
      restorePc opP (rep && bc != 0)
  | .blockCp d rep => do
      let a ← reads (·.af.h)
      let hl ← reads (·.hl.w)
      let v ← mreqRd I hl
      writes fun s => s.set16 .hlW (d.move s.hl.w)
      writes fun s => s.set16 .bcW (s.bc.w - 1)
      let bc ← reads (·.bc.w)
      restorePc opP (rep && bc != 0 && a - v != 0)
      writes fun s => s.setF (cpiFlags a v bc s.af.l)
  | .rotA op => modifyR08 .afH op.applyA
  | .rld => do
      let hl ← reads (·.hl.w)
      let r1 ← mreqRd I hl
      let a ← reads (·.af.h)
      writes (·.set8 .afH (hiNibble a ||| (hiNibble r1 >>> 4)))
      writes fun s => s.setF (nibbleFlags s.af.h s.af.l)
      mreqWr I hl ((loNibble r1 <<< 4) ||| loNibble a)
  | .rrd => do
      let hl ← reads (·.hl.w)
      let r1 ← mreqRd I hl
      let a ← reads (·.af.h)
      writes (·.set8 .afH (hiNibble a ||| loNibble r1))
      writes fun s => s.setF (nibbleFlags s.af.h s.af.l)
      mreqWr I hl ((loNibble a <<< 4) ||| (hiNibble r1 >>> 4))
  | .rotR08 op data => modifyR08 data op.apply
  | .rotIndR16 op addr => do
      let a ← reads (·.get16 addr)
      let _ ← modifyInd I a op.apply
  | .rotIndR16PlusI08 op _ => do
      let _ ← modifyInd I wz op.apply
  | .rotIndR16PlusI08R08 op _ reg2 => do
      let r0 ← modifyInd I wz op.apply
      writes (·.set8 reg2 r0)
  | .bitBR08 mask data => do
      let r1 ← reads (·.get8 data)
      bitTest mask r1 r1
  | .bitBIndR16 mask addr => do
      let a ← reads (·.get16 addr)
      let r1 ← mreqRd I a
      bitTest mask r1 (hi a)
  | .bitBIndR16PlusI08 mask _ => do
      let r1 ← mreqRd I wz
      bitTest mask r1 (hi wz)
  | .resBR08 mask data => modifyR08 data (resB mask)
  | .resBIndR16 mask addr => do
      let a ← reads (·.get16 addr)
      let _ ← modifyInd I a (resB mask)
  | .resBIndR16PlusI08 mask _ => do
      let _ ← modifyInd I wz (resB mask)
  | .resBIndR16PlusI08R08 mask _ reg2 => do
      let r0 ← modifyInd I wz (resB mask)
      writes (·.set8 reg2 r0)
  | .setBR08 mask data => modifyR08 data (setB mask)
  | .setBIndR16 mask addr => do
      let a ← reads (·.get16 addr)
      let _ ← modifyInd I a (setB mask)
  | .setBIndR16PlusI08 mask _ => do
      let _ ← modifyInd I wz (setB mask)
  | .setBIndR16PlusI08R08 mask _ reg2 => do
      let r0 ← modifyInd I wz (setB mask)
      writes (·.set8 reg2 r0)

end Xcpc.Cpu
