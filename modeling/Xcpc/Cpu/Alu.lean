import Xcpc.Cpu.Registers

/-!
# The arithmetic of the microcode

The macros compute in scratch registers: `R1` and `R2` hold the operands, `R0`
the result and `R3` the row of the `PZS` table for its low byte. Here each of
them is a function from the operands and the old flags to the result and the
new flags, and the scratch registers are the names of the local values.

Every macro writes `AF_L` as the same expression, one term for each flag in
the order of the bits. That expression is `flags`, and a flag that a macro
takes from a test is `sel` of it.
-/

namespace Xcpc.Cpu

/-! ## Flags -/

abbrev CF : Byte := 0x01
abbrev NF : Byte := 0x02
abbrev VF : Byte := 0x04
abbrev PF : Byte := 0x04
abbrev XF : Byte := 0x08
abbrev HF : Byte := 0x10
abbrev YF : Byte := 0x20
abbrev ZF : Byte := 0x40
abbrev SF : Byte := 0x80

/-- The table of sign, zero, undocumented and parity flags of a byte. -/
def pzsTable : List Byte :=
  [0x44, 0x00, 0x00, 0x04, 0x00, 0x04, 0x04, 0x00, 0x08, 0x0c, 0x0c, 0x08,
    0x0c, 0x08, 0x08, 0x0c, 0x00, 0x04, 0x04, 0x00, 0x04, 0x00, 0x00, 0x04,
    0x0c, 0x08, 0x08, 0x0c, 0x08, 0x0c, 0x0c, 0x08, 0x20, 0x24, 0x24, 0x20,
    0x24, 0x20, 0x20, 0x24, 0x2c, 0x28, 0x28, 0x2c, 0x28, 0x2c, 0x2c, 0x28,
    0x24, 0x20, 0x20, 0x24, 0x20, 0x24, 0x24, 0x20, 0x28, 0x2c, 0x2c, 0x28,
    0x2c, 0x28, 0x28, 0x2c, 0x00, 0x04, 0x04, 0x00, 0x04, 0x00, 0x00, 0x04,
    0x0c, 0x08, 0x08, 0x0c, 0x08, 0x0c, 0x0c, 0x08, 0x04, 0x00, 0x00, 0x04,
    0x00, 0x04, 0x04, 0x00, 0x08, 0x0c, 0x0c, 0x08, 0x0c, 0x08, 0x08, 0x0c,
    0x24, 0x20, 0x20, 0x24, 0x20, 0x24, 0x24, 0x20, 0x28, 0x2c, 0x2c, 0x28,
    0x2c, 0x28, 0x28, 0x2c, 0x20, 0x24, 0x24, 0x20, 0x24, 0x20, 0x20, 0x24,
    0x2c, 0x28, 0x28, 0x2c, 0x28, 0x2c, 0x2c, 0x28, 0x80, 0x84, 0x84, 0x80,
    0x84, 0x80, 0x80, 0x84, 0x8c, 0x88, 0x88, 0x8c, 0x88, 0x8c, 0x8c, 0x88,
    0x84, 0x80, 0x80, 0x84, 0x80, 0x84, 0x84, 0x80, 0x88, 0x8c, 0x8c, 0x88,
    0x8c, 0x88, 0x88, 0x8c, 0xa4, 0xa0, 0xa0, 0xa4, 0xa0, 0xa4, 0xa4, 0xa0,
    0xa8, 0xac, 0xac, 0xa8, 0xac, 0xa8, 0xa8, 0xac, 0xa0, 0xa4, 0xa4, 0xa0,
    0xa4, 0xa0, 0xa0, 0xa4, 0xac, 0xa8, 0xa8, 0xac, 0xa8, 0xac, 0xac, 0xa8,
    0x84, 0x80, 0x80, 0x84, 0x80, 0x84, 0x84, 0x80, 0x88, 0x8c, 0x8c, 0x88,
    0x8c, 0x88, 0x88, 0x8c, 0x80, 0x84, 0x84, 0x80, 0x84, 0x80, 0x80, 0x84,
    0x8c, 0x88, 0x88, 0x8c, 0x88, 0x8c, 0x8c, 0x88, 0xa0, 0xa4, 0xa4, 0xa0,
    0xa4, 0xa0, 0xa0, 0xa4, 0xac, 0xa8, 0xa8, 0xac, 0xa8, 0xac, 0xac, 0xa8,
    0xa4, 0xa0, 0xa0, 0xa4, 0xa0, 0xa4, 0xa4, 0xa0, 0xa8, 0xac, 0xac, 0xa8,
    0xac, 0xa8, 0xa8, 0xac]

/-- `PZS[v]` -/
def pzs (v : Byte) : Byte := pzsTable.getD v.toNat 0

/-- The right-hand side of every assignment to `AF_L`. -/
def flags (s z y h x p n c : Byte) : Byte :=
  (SF &&& s) ||| (ZF &&& z) ||| (YF &&& y) ||| (HF &&& h) ||| (XF &&& x) |||
    (PF &&& p) ||| (NF &&& n) ||| (CF &&& c)

/-- `b ? 0xff : 0x00` -/
def sel (b : Bool) : Byte := if b then 0xff else 0x00

/-- `(f & mask) != 0` -/
def test (f mask : Byte) : Bool := f &&& mask != 0

/-- `((f & CF) != 0 ? 0x01 : 0x00)` as a word. -/
def carry (f : Byte) : Word := if test f CF then 1 else 0

/-- The high byte of a word. -/
def hi (v : Word) : Byte := v.extractLsb' 8 8

/-- The low byte of a word. -/
def lo (v : Word) : Byte := v.extractLsb' 0 8

/-- A byte as an `int`, cut to a word. -/
def zext (v : Byte) : Word := v.setWidth 16

/-- `SBYTE(v)` as an `int`, cut to a word. -/
def sbyte (v : Byte) : Word := v.signExtend 16

/-! ## 8-bit arithmetic -/

/-- The eight operations on the accumulator. -/
inductive Alu where
  | add | adc | sub | sbc | and | xor | or | cp
deriving DecidableEq, Repr

/-- Overflow of an addition. -/
def vfAdd (r0 r1 r2 : Byte) : Bool :=
  test ((r1 &&& r2 &&& ~~~r0) ||| (~~~r1 &&& ~~~r2 &&& r0)) SF

/-- Overflow of a subtraction. -/
def vfSub (r0 r1 r2 : Byte) : Bool :=
  test ((r1 &&& ~~~r2 &&& ~~~r0) ||| (~~~r1 &&& r2 &&& r0)) SF

/-- `R0_W` and `AF_L` of an addition whose sum is `r0`. -/
def addFlags (r0 : Word) (r1 r2 : Byte) : Byte :=
  let r3 := pzs (lo r0)
  flags r3 r3 r3 (lo r0 ^^^ r1 ^^^ r2) r3 (sel (vfAdd (lo r0) r1 r2)) 0x00
    (hi r0 &&& CF)

def subFlags (r0 : Word) (r1 r2 : Byte) : Byte :=
  let r3 := pzs (lo r0)
  flags r3 r3 r3 (lo r0 ^^^ r1 ^^^ r2) r3 (sel (vfSub (lo r0) r1 r2)) 0xff
    (hi r0 &&& CF)

/-- A comparison takes `YF` and `XF` from the operand. -/
def cpFlags (r0 : Word) (r1 r2 : Byte) : Byte :=
  let r3 := pzs (lo r0)
  flags r3 r3 r2 (lo r0 ^^^ r1 ^^^ r2) r2 (sel (vfSub (lo r0) r1 r2)) 0xff
    (hi r0 &&& CF)

def logicFlags (r0 h : Byte) : Byte :=
  let r3 := pzs r0
  flags r3 r3 r3 h r3 r3 0x00 0x00

/-- `R0_L` and the new `AF_L` of an operation on `R1_L` and `R2_L`. -/
def Alu.apply (op : Alu) (r1 r2 f : Byte) : Byte × Byte :=
  match op with
  | .add => let r0 := zext r1 + zext r2; (lo r0, addFlags r0 r1 r2)
  | .adc => let r0 := zext r1 + zext r2 + carry f; (lo r0, addFlags r0 r1 r2)
  | .sub => let r0 := zext r1 - zext r2; (lo r0, subFlags r0 r1 r2)
  | .sbc => let r0 := zext r1 - zext r2 - carry f; (lo r0, subFlags r0 r1 r2)
  | .and => let r0 := r1 &&& r2; (r0, logicFlags r0 0xff)
  | .xor => let r0 := r1 ^^^ r2; (r0, logicFlags r0 0x00)
  | .or => let r0 := r1 ||| r2; (r0, logicFlags r0 0x00)
  | .cp => let r0 := zext r1 - zext r2; (lo r0, cpFlags r0 r1 r2)

/-- `inc` of a byte: the result and the new flags. -/
def inc8 (r1 f : Byte) : Byte × Byte :=
  let r0 := zext r1 + 1
  let r3 := pzs (lo r0)
  (lo r0, flags r3 r3 r3 (lo r0 ^^^ r1 ^^^ 1) r3 (sel (r1 == 0x7f)) 0x00 f)

/-- `dec` of a byte: the result and the new flags. -/
def dec8 (r1 f : Byte) : Byte × Byte :=
  let r0 := zext r1 - 1
  let r3 := pzs (lo r0)
  (lo r0, flags r3 r3 r3 (lo r0 ^^^ r1 ^^^ 1) r3 (sel (r1 == 0x80)) 0xff f)

def neg8 (a : Byte) : Byte × Byte :=
  let r0 := zext 0x00 - zext a
  (lo r0, subFlags r0 0x00 a)

/-- `daa`: the correction of `R2_L`, with the carry it sets. -/
def daa8 (a f : Byte) : Byte × Byte :=
  let r2 : Byte := if test f HF || a &&& 0x0f > 0x09 then 0x06 else 0x00
  let c : Bool := test f CF || a &&& 0xff > 0x99
  let r2 : Byte := if c then r2 ||| 0x60 else r2
  let f : Byte := if c then f ||| CF else f
  let r0 : Byte := if f &&& NF == 0 then a + r2 else a - r2
  let r3 := pzs r0
  (r0, flags r3 r3 r0 (r0 ^^^ a ^^^ r2) r0 r3 f f)

def cplFlags (a f : Byte) : Byte := flags f f a 0xff a f 0xff f

def ccfFlags (a f : Byte) : Byte :=
  flags f f a (sel (test f CF)) a f 0x00 (sel (!test f CF))

def scfFlags (a f : Byte) : Byte := flags f f a 0x00 a f 0x00 0xff

/-- The flags of a byte that was read from a port. -/
def inFlags (r0 f : Byte) : Byte :=
  let r3 := pzs r0
  flags r3 r3 r3 0x00 r3 r3 0x00 f

/-- The flags of `ld a,i` and `ld a,r`. -/
def ldAIrFlags (a f : Byte) (iff2 : Bool) : Byte :=
  let r3 := pzs a
  flags r3 r3 r3 0x00 r3 (sel iff2) 0x00 f

/-- `v & 0x10000` of a sum or difference computed as an `int32_t`. -/
def bit16 (v : BitVec 32) : Bool := v &&& 0x10000 != 0

def slong (v : Word) : BitVec 32 := v.setWidth 32

def hf16 (r0 r1 r2 : Word) : Bool := (r0 ^^^ r1 ^^^ r2) &&& 0x1000 != 0

def add16 (r1 r2 : Word) (f : Byte) : Word × Byte :=
  let r0 := r1 + r2
  (r0, flags f f (hi r0) (sel (hf16 r0 r1 r2)) (hi r0) f 0x00
    (sel (bit16 (slong r1 + slong r2))))

def adc16 (r1 r2 : Word) (f : Byte) : Word × Byte :=
  let r3 := carry f
  let r0 := r1 + r2 + r3
  (r0, flags (hi r0) (sel (r0 == 0)) (hi r0) (sel (hf16 r0 r1 r2)) (hi r0)
    (sel (~~~(r1 ^^^ r2) &&& (r2 ^^^ r0) &&& 0x8000 != 0)) 0x00
    (sel (bit16 (slong r1 + slong r2 + slong r3))))

def sbc16 (r1 r2 : Word) (f : Byte) : Word × Byte :=
  let r3 := carry f
  let r0 := r1 - r2 - r3
  (r0, flags (hi r0) (sel (r0 == 0)) (hi r0) (sel (hf16 r0 r1 r2)) (hi r0)
    (sel ((r1 ^^^ r2) &&& (r1 ^^^ r0) &&& 0x8000 != 0)) 0xff
    (sel (bit16 (slong r1 - slong r2 - slong r3))))

/-! ## Rotates, shifts and bits -/

/-- The eight rotates and shifts. -/
inductive Rot where
  | rlc | rrc | rl | rr | sla | sra | sll | srl
deriving DecidableEq, Repr

/-- `R0_L` of a rotate or shift. -/
def Rot.shift (op : Rot) (r1 f : Byte) : Byte :=
  match op with
  | .rlc => (r1 <<< 1) ||| (r1 >>> 7)
  | .rrc => (r1 >>> 1) ||| (r1 <<< 7)
  | .rl => (r1 <<< 1) ||| (if test f CF then 0x01 else 0x00)
  | .rr => (r1 >>> 1) ||| (if test f CF then 0x80 else 0x00)
  | .sla => r1 <<< 1
  | .sra => r1.sshiftRight 1
  | .sll => (r1 <<< 1) ||| 0x01
  | .srl => (r1 >>> 1) &&& ~~~0x80

/-- The bit that a rotate or shift moves into the carry. -/
def Rot.out (op : Rot) (r1 : Byte) : Bool :=
  match op with
  | .rlc | .rl | .sla | .sll => test r1 0x80
  | .rrc | .rr | .sra | .srl => test r1 0x01

/-- `R0_L` and the new `AF_L` of a rotate or shift of `R1_L`. -/
def Rot.apply (op : Rot) (r1 f : Byte) : Byte × Byte :=
  let r0 := op.shift r1 f
  let r3 := pzs r0
  (r0, flags r3 r3 r3 0x00 r3 r3 0x00 (sel (op.out r1)))

/-- `rlca`, `rrca`, `rla` and `rra` keep `SF`, `ZF` and `PF`. -/
def Rot.applyA (op : Rot) (r1 f : Byte) : Byte × Byte :=
  let r0 := op.shift r1 f
  (r0, flags f f r0 0x00 r0 f 0x00 (sel (op.out r1)))

/-- The flags of `bit`, with the byte that `YF` and `XF` are taken from. -/
def bitFlags (mask r1 yx f : Byte) : Byte :=
  let r0 := r1 &&& mask
  let r3 := pzs r0
  flags r0 r3 yx 0xff yx (sel (r0 == 0x00)) 0x00 f

def loNibble (v : Byte) : Byte := v &&& 0x0f

def hiNibble (v : Byte) : Byte := v &&& 0xf0

/-- The flags of `rld` and `rrd`, from the new accumulator. -/
def nibbleFlags (a f : Byte) : Byte :=
  let r3 := pzs a
  flags r3 r3 a 0x00 a r3 0x00 f

/-- The flags of `ldi`, `ldd`, `ldir` and `lddr`. -/
def ldiFlags (a data : Byte) (bc : Word) (f : Byte) : Byte :=
  let r0 := a + data
  flags f f (sel (test r0 0x02)) 0x00 (sel (test r0 0x08)) (sel (bc != 0)) 0x00
    f

/-- The flags of `cpi`, `cpd`, `cpir` and `cpdr`: `AF_L` is written twice, the
second time with `YF` and `XF` of the difference less the half borrow. -/
def cpiFlags (a data : Byte) (bc : Word) (f : Byte) : Byte :=
  let r0 := a - data
  let r3 := pzs r0
  let f' := flags r3 r3 0x00 (r0 ^^^ a ^^^ data) 0x00 (sel (bc != 0)) 0xff f
  let r0 := r0 - (if test f' HF then 1 else 0)
  f' ||| (YF &&& sel (test r0 0x02)) ||| (XF &&& sel (test r0 0x08))

/-- The flags of the block inputs and outputs, from the new `BC_H`. -/
def iniFlags (b f : Byte) : Byte :=
  let r3 := pzs b
  flags r3 r3 r3 0x00 r3 0x00 0xff f

end Xcpc.Cpu
