import Mathlib

/-!
# The register file

`cpu::Register` is a union of one long, two words and four bytes. The model
keeps the bytes, so that the byte and word views are the ones the source takes
of the same storage. The upper word of the union holds the shadow pair of
`AF`, `BC`, `DE` and `HL`, and it is a register of its own here. Of the other
registers nothing but `reset` touches it and it is left out.

`cpu::State` is split in three: the registers, the bits of `ST_L` and the
three counters. Every instruction touches the first, a few touch the second,
and the third is only ever added to. `Instance` puts the bus behind the
interface reference next to them.
-/

namespace Xcpc

abbrev Byte := BitVec 8

abbrev Word := BitVec 16

/-! The sizes of the arrays that are indexed with numerals. -/

instance neZeroTwo : NeZero 2 := ⟨by decide⟩

instance neZeroThree : NeZero 3 := ⟨by decide⟩

instance neZeroEight : NeZero 8 := ⟨by decide⟩

instance neZeroSixteen : NeZero 16 := ⟨by decide⟩

instance neZeroSeventeen : NeZero 17 := ⟨by decide⟩

instance neZeroEighteen : NeZero 18 := ⟨by decide⟩

instance neZeroThirtyOne : NeZero 31 := ⟨by decide⟩

instance neZeroThirtyTwo : NeZero 32 := ⟨by decide⟩

end Xcpc

namespace Xcpc.Cpu

/-- One word of a `cpu::Register`, by its two bytes. -/
structure Register where
  h : Byte
  l : Byte
deriving DecidableEq, Repr

namespace Register

def zero : Register := ⟨0, 0⟩

/-- The register as a word. -/
def w (r : Register) : Word := r.h ++ r.l

/-- The register that holds a word. -/
def ofW (v : Word) : Register := ⟨v.extractLsb' 8 8, v.extractLsb' 0 8⟩

@[simp] theorem ofW_w (v : Word) : (ofW v).w = v := by
  simp only [w, ofW]
  ext i hi
  grind

theorem ofW_of_w (r : Register) : ofW r.w = r := by
  cases r with
  | mk h l =>
      simp only [ofW, w, Register.mk.injEq]
      constructor
      · ext i hi
        grind
      · ext i hi
        grind

end Register

/-- The registers of `cpu::State`, `r_st` apart. The fields ending in `P` are
the shadow pairs. -/
structure Regs where
  af : Register
  bc : Register
  de : Register
  hl : Register
  ix : Register
  iy : Register
  sp : Register
  pc : Register
  ir : Register
  afP : Register
  bcP : Register
  deP : Register
  hlP : Register
deriving DecidableEq, Repr

def Regs.zero : Regs :=
  ⟨.zero, .zero, .zero, .zero, .zero, .zero, .zero, .zero, .zero, .zero, .zero,
    .zero, .zero⟩

/-- The bits of `ST_L`. -/
structure Status where
  iff1 : Bool
  iff2 : Bool
  im1 : Bool
  im2 : Bool
  aei : Bool
  nmi : Bool
  int : Bool
  hlt : Bool
deriving DecidableEq, Repr

def Status.zero : Status :=
  ⟨false, false, false, false, false, false, false, false⟩

/-- The counters of `cpu::State`. -/
structure Timing where
  mCycles : BitVec 32
  tStates : BitVec 32
  iPeriod : BitVec 32
deriving DecidableEq, Repr

def Timing.zero : Timing := ⟨0, 0, 0⟩

/-- `m_consume` on the counters. -/
def Timing.consume (t : Timing) (cycles states : Nat) : Timing where
  mCycles := t.mCycles + BitVec.ofNat 32 cycles
  tStates := t.tStates + BitVec.ofNat 32 states
  iPeriod := t.iPeriod + BitVec.ofNat 32 states

/-- The wait states that `Mainboard::cpu_mreq_m1` inserts: `t_states` is
rounded up to a multiple of four, and what that added is added to `i_period`
too. -/
def Timing.adjust (t : Timing) : Timing where
  mCycles := t.mCycles
  tStates := (t.tStates + 3) &&& ~~~3
  iPeriod := t.iPeriod + (((t.tStates + 3) &&& ~~~3) - t.tStates)

/-- A `cpu::Instance`: its state, and what its interface leads to. -/
structure Instance (β : Type) where
  regs : Regs
  st : Status
  time : Timing
  bus : β

/-- The registers and flags of `cpu::State` after `reset`, in front of a
bus. -/
def Instance.reset {β : Type} (bus : β) : Instance β :=
  ⟨.zero, .zero, .zero, bus⟩

/-! ## Operands

The macros of the microcode take the name of a register byte or word. -/

/-- The bytes that instructions name. -/
inductive R8 where
  | afH | afL | bcH | bcL | deH | deL | hlH | hlL | ixH | ixL | iyH | iyL
deriving DecidableEq, Repr

/-- The words that instructions name. -/
inductive R16 where
  | afW | afP | bcW | deW | hlW | ixW | iyW | spW
deriving DecidableEq, Repr

namespace Regs

def get8 (s : Regs) : R8 → Byte
  | .afH => s.af.h
  | .afL => s.af.l
  | .bcH => s.bc.h
  | .bcL => s.bc.l
  | .deH => s.de.h
  | .deL => s.de.l
  | .hlH => s.hl.h
  | .hlL => s.hl.l
  | .ixH => s.ix.h
  | .ixL => s.ix.l
  | .iyH => s.iy.h
  | .iyL => s.iy.l

def set8 (s : Regs) (r : R8) (v : Byte) : Regs :=
  match r with
  | .afH => { s with af := { s.af with h := v } }
  | .afL => { s with af := { s.af with l := v } }
  | .bcH => { s with bc := { s.bc with h := v } }
  | .bcL => { s with bc := { s.bc with l := v } }
  | .deH => { s with de := { s.de with h := v } }
  | .deL => { s with de := { s.de with l := v } }
  | .hlH => { s with hl := { s.hl with h := v } }
  | .hlL => { s with hl := { s.hl with l := v } }
  | .ixH => { s with ix := { s.ix with h := v } }
  | .ixL => { s with ix := { s.ix with l := v } }
  | .iyH => { s with iy := { s.iy with h := v } }
  | .iyL => { s with iy := { s.iy with l := v } }

def get16 (s : Regs) : R16 → Word
  | .afW => s.af.w
  | .afP => s.afP.w
  | .bcW => s.bc.w
  | .deW => s.de.w
  | .hlW => s.hl.w
  | .ixW => s.ix.w
  | .iyW => s.iy.w
  | .spW => s.sp.w

def set16 (s : Regs) (r : R16) (v : Word) : Regs :=
  match r with
  | .afW => { s with af := .ofW v }
  | .afP => { s with afP := .ofW v }
  | .bcW => { s with bc := .ofW v }
  | .deW => { s with de := .ofW v }
  | .hlW => { s with hl := .ofW v }
  | .ixW => { s with ix := .ofW v }
  | .iyW => { s with iy := .ofW v }
  | .spW => { s with sp := .ofW v }

/-- The assignment `PC_W = v`. -/
def setPc (s : Regs) (v : Word) : Regs := { s with pc := .ofW v }

/-- The assignment `SP_W = v`. -/
def setSp (s : Regs) (v : Word) : Regs := { s with sp := .ofW v }

/-- The assignment `AF_L = v`. -/
def setF (s : Regs) (v : Byte) : Regs := { s with af := { s.af with l := v } }

@[simp] theorem setPc_pc (s : Regs) (v : Word) : (s.setPc v).pc.w = v := by
  simp [setPc]

end Regs

/-- `cpu::Interface`: what a memory or port access does to the bus and what it
answers. -/
structure Interface (β : Type) where
  mreqM1 : β → Word → Byte × β
  mreqRd : β → Word → Byte × β
  mreqWr : β → Word → Byte → β
  iorqM1 : β → Word → Byte × β
  iorqRd : β → Word → Byte × β
  iorqWr : β → Word → Byte → β

/-- 64K of RAM with no device on the ports. The fixed programs of the
development run on it. -/
def Interface.ram : Interface (Word → Byte) where
  mreqM1 b a := (b a, b)
  mreqRd b a := (b a, b)
  mreqWr b a v := fun a' => if a' = a then v else b a'
  iorqM1 b _ := (0xff, b)
  iorqRd b _ := (0xff, b)
  iorqWr b _ _ := b

/-- A program at address zero, followed by zeros. -/
def program (code : List Byte) : Word → Byte := fun a => code.getD a.toNat 0

end Xcpc.Cpu
