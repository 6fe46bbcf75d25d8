import Xcpc.Cpu.Alu

/-!
# The micro-instructions

Each case of the opcode switches runs one macro of `cpu-microcode.inc` and
consumes the cycles of the case. `Instr` is the type of these macros with
their arguments.

The microcode repeats a macro for each operation, condition or direction of a
family. Here a family is one constructor, its member is an argument, and the
macro's own name is defined as the constructor at that argument. The opcode
tables use those names.
-/

namespace Xcpc.Cpu

abbrev BIT0 : Byte := 0x01
abbrev BIT1 : Byte := 0x02
abbrev BIT2 : Byte := 0x04
abbrev BIT3 : Byte := 0x08
abbrev BIT4 : Byte := 0x10
abbrev BIT5 : Byte := 0x20
abbrev BIT6 : Byte := 0x40
abbrev BIT7 : Byte := 0x80

/-- The conditions of jumps, calls and returns. -/
inductive Cond where
  | nz | z | nc | c | po | pe | p | m
deriving DecidableEq, Repr

def Cond.holds (cc : Cond) (f : Byte) : Bool :=
  match cc with
  | .nz => !test f ZF
  | .z => test f ZF
  | .nc => !test f CF
  | .c => test f CF
  | .po => !test f PF
  | .pe => test f PF
  | .p => !test f SF
  | .m => test f SF

/-- The direction of a block instruction. -/
inductive Dir where
  | up | down
deriving DecidableEq, Repr

/-- `++v` or `--v` -/
def Dir.move (d : Dir) (v : Word) : Word :=
  match d with
  | .up => v + 1
  | .down => v - 1

inductive Instr where
  | nop
  | di
  | ei
  | halt
  | im (im1 im2 : Bool)
  -- input and output
  | inR08IndR08 (data port : R8)
  | inR08IndI08 (reg1 : R8)
  | outIndR08R08 (port data : R8)
  | outIndI08R08 (reg1 : R8)
  | blockIn (d : Dir) (rep : Bool)
  | blockOut (d : Dir) (rep : Bool)
  -- 8-bit loads
  | ldR08R08 (reg1 reg2 : R8)
  | ldR08I08 (reg1 : R8)
  | ldR08IndR16 (reg1 : R8) (reg2 : R16)
  | ldIndR16R08 (reg1 : R16) (reg2 : R8)
  | ldR08IndI16 (reg1 : R8)
  | ldIndI16R08 (reg1 : R8)
  | ldIndR16I08 (reg1 : R16)
  | ldR08IndR16PlusI08 (reg1 : R8) (reg2 : R16)
  | ldIndR16PlusI08R08 (reg1 : R16) (reg2 : R8)
  | ldIndR16PlusI08I08 (reg1 : R16)
  | ldAI
  | ldIA
  | ldAR
  | ldRA
  -- 16-bit loads
  | ldR16R16 (reg1 reg2 : R16)
  | ldR16I16 (reg1 : R16)
  | ldR16IndI16 (reg1 : R16)
  | ldIndI16R16 (reg1 : R16)
  | pushR16 (reg1 : R16)
  | popR16 (reg1 : R16)
  -- arithmetic
  | daa
  | cpl
  | neg
  | ccf
  | scf
  | aluR08R08 (op : Alu) (reg1 reg2 : R8)
  | aluR08I08 (op : Alu) (reg1 : R8)
  | aluR08IndR16 (op : Alu) (reg1 : R8) (reg2 : R16)
  | aluR08IndR16PlusI08 (op : Alu) (reg1 : R8) (reg2 : R16)
  | incR08 (reg1 : R8)
  | incIndR16 (reg1 : R16)
  | incIndR16PlusI08 (reg1 : R16)
  | decR08 (reg1 : R8)
  | decIndR16 (reg1 : R16)
  | decIndR16PlusI08 (reg1 : R16)
  | addR16R16 (reg1 reg2 : R16)
  | adcR16R16 (reg1 reg2 : R16)
  | sbcR16R16 (reg1 reg2 : R16)
  | incR16 (reg1 : R16)
  | decR16 (reg1 : R16)
  -- jumps, calls and returns
  | djnzI08
  | jpR16 (reg1 : R16)
  | jpI16
  | jpCcI16 (cc : Cond)
  | jrI08
  | jrCcI08 (cc : Cond)
  | rstVec16 (addr : Word)
  | callI16
  | callCcI16 (cc : Cond)
  | ret
  | retCc (cc : Cond)
  | reti
  | retn
  -- exchanges, transfers and searches
  | exx
  | exR16R16 (reg1 reg2 : R16)
  | exIndR16R16 (reg1 reg2 : R16)
  | blockLd (d : Dir) (rep : Bool)
  | blockCp (d : Dir) (rep : Bool)
  -- rotates and shifts
  | rotA (op : Rot)
  | rld
  | rrd
  | rotR08 (op : Rot) (data : R8)
  | rotIndR16 (op : Rot) (addr : R16)
  | rotIndR16PlusI08 (op : Rot) (reg1 : R16)
  | rotIndR16PlusI08R08 (op : Rot) (reg1 : R16) (reg2 : R8)
  -- bits
  | bitBR08 (mask : Byte) (data : R8)
  | bitBIndR16 (mask : Byte) (addr : R16)
  | bitBIndR16PlusI08 (mask : Byte) (reg1 : R16)
  | resBR08 (mask : Byte) (data : R8)
  | resBIndR16 (mask : Byte) (addr : R16)
  | resBIndR16PlusI08 (mask : Byte) (reg1 : R16)
  | resBIndR16PlusI08R08 (mask : Byte) (reg1 : R16) (reg2 : R8)
  | setBR08 (mask : Byte) (data : R8)
  | setBIndR16 (mask : Byte) (addr : R16)
  | setBIndR16PlusI08 (mask : Byte) (reg1 : R16)
  | setBIndR16PlusI08R08 (mask : Byte) (reg1 : R16) (reg2 : R8)
deriving DecidableEq, Repr

namespace Instr

/-! ## The macros of the families -/

abbrev illegal : Instr := .nop
abbrev im0 : Instr := .im false false
abbrev im1 : Instr := .im true false
abbrev im2 : Instr := .im false true
abbrev im3 : Instr := .im true true

abbrev ini : Instr := .blockIn .up false
abbrev inir : Instr := .blockIn .up true
abbrev ind : Instr := .blockIn .down false
abbrev indr : Instr := .blockIn .down true
abbrev outi : Instr := .blockOut .up false
abbrev otir : Instr := .blockOut .up true
abbrev outd : Instr := .blockOut .down false
abbrev otdr : Instr := .blockOut .down true
abbrev ldi : Instr := .blockLd .up false
abbrev ldir : Instr := .blockLd .up true
abbrev ldd : Instr := .blockLd .down false
abbrev lddr : Instr := .blockLd .down true
abbrev cpi : Instr := .blockCp .up false
abbrev cpir : Instr := .blockCp .up true
abbrev cpd : Instr := .blockCp .down false
abbrev cpdr : Instr := .blockCp .down true

abbrev addR08R08 (r1 r2 : R8) : Instr := .aluR08R08 .add r1 r2
abbrev addR08I08 (r1 : R8) : Instr := .aluR08I08 .add r1
abbrev addR08IndR16 (r1 : R8) (r2 : R16) : Instr := .aluR08IndR16 .add r1 r2
abbrev addR08IndR16PlusI08 (r1 : R8) (r2 : R16) : Instr :=
  .aluR08IndR16PlusI08 .add r1 r2

abbrev adcR08R08 (r1 r2 : R8) : Instr := .aluR08R08 .adc r1 r2
abbrev adcR08I08 (r1 : R8) : Instr := .aluR08I08 .adc r1
abbrev adcR08IndR16 (r1 : R8) (r2 : R16) : Instr := .aluR08IndR16 .adc r1 r2
abbrev adcR08IndR16PlusI08 (r1 : R8) (r2 : R16) : Instr :=
  .aluR08IndR16PlusI08 .adc r1 r2

abbrev subR08R08 (r1 r2 : R8) : Instr := .aluR08R08 .sub r1 r2
abbrev subR08I08 (r1 : R8) : Instr := .aluR08I08 .sub r1
abbrev subR08IndR16 (r1 : R8) (r2 : R16) : Instr := .aluR08IndR16 .sub r1 r2
abbrev subR08IndR16PlusI08 (r1 : R8) (r2 : R16) : Instr :=
  .aluR08IndR16PlusI08 .sub r1 r2

abbrev sbcR08R08 (r1 r2 : R8) : Instr := .aluR08R08 .sbc r1 r2
abbrev sbcR08I08 (r1 : R8) : Instr := .aluR08I08 .sbc r1
abbrev sbcR08IndR16 (r1 : R8) (r2 : R16) : Instr := .aluR08IndR16 .sbc r1 r2
abbrev sbcR08IndR16PlusI08 (r1 : R8) (r2 : R16) : Instr :=
  .aluR08IndR16PlusI08 .sbc r1 r2

abbrev andR08R08 (r1 r2 : R8) : Instr := .aluR08R08 .and r1 r2
abbrev andR08I08 (r1 : R8) : Instr := .aluR08I08 .and r1
abbrev andR08IndR16 (r1 : R8) (r2 : R16) : Instr := .aluR08IndR16 .and r1 r2
abbrev andR08IndR16PlusI08 (r1 : R8) (r2 : R16) : Instr :=
  .aluR08IndR16PlusI08 .and r1 r2

abbrev xorR08R08 (r1 r2 : R8) : Instr := .aluR08R08 .xor r1 r2
abbrev xorR08I08 (r1 : R8) : Instr := .aluR08I08 .xor r1
abbrev xorR08IndR16 (r1 : R8) (r2 : R16) : Instr := .aluR08IndR16 .xor r1 r2
abbrev xorR08IndR16PlusI08 (r1 : R8) (r2 : R16) : Instr :=
  .aluR08IndR16PlusI08 .xor r1 r2

abbrev orR08R08 (r1 r2 : R8) : Instr := .aluR08R08 .or r1 r2
abbrev orR08I08 (r1 : R8) : Instr := .aluR08I08 .or r1
abbrev orR08IndR16 (r1 : R8) (r2 : R16) : Instr := .aluR08IndR16 .or r1 r2
abbrev orR08IndR16PlusI08 (r1 : R8) (r2 : R16) : Instr :=
  .aluR08IndR16PlusI08 .or r1 r2

abbrev cpR08R08 (r1 r2 : R8) : Instr := .aluR08R08 .cp r1 r2
abbrev cpR08I08 (r1 : R8) : Instr := .aluR08I08 .cp r1
abbrev cpR08IndR16 (r1 : R8) (r2 : R16) : Instr := .aluR08IndR16 .cp r1 r2
abbrev cpR08IndR16PlusI08 (r1 : R8) (r2 : R16) : Instr :=
  .aluR08IndR16PlusI08 .cp r1 r2

abbrev jpNzI16 : Instr := .jpCcI16 .nz
abbrev jpZI16 : Instr := .jpCcI16 .z
abbrev jpNcI16 : Instr := .jpCcI16 .nc
abbrev jpCI16 : Instr := .jpCcI16 .c
abbrev jpPoI16 : Instr := .jpCcI16 .po
abbrev jpPeI16 : Instr := .jpCcI16 .pe
abbrev jpPI16 : Instr := .jpCcI16 .p
abbrev jpMI16 : Instr := .jpCcI16 .m
abbrev jrNzI08 : Instr := .jrCcI08 .nz
abbrev jrZI08 : Instr := .jrCcI08 .z
abbrev jrNcI08 : Instr := .jrCcI08 .nc
abbrev jrCI08 : Instr := .jrCcI08 .c
abbrev callNzI16 : Instr := .callCcI16 .nz
abbrev callZI16 : Instr := .callCcI16 .z
abbrev callNcI16 : Instr := .callCcI16 .nc
abbrev callCI16 : Instr := .callCcI16 .c
abbrev callPoI16 : Instr := .callCcI16 .po
abbrev callPeI16 : Instr := .callCcI16 .pe
abbrev callPI16 : Instr := .callCcI16 .p
abbrev callMI16 : Instr := .callCcI16 .m
abbrev retNz : Instr := .retCc .nz
abbrev retZ : Instr := .retCc .z
abbrev retNc : Instr := .retCc .nc
abbrev retC : Instr := .retCc .c
abbrev retPo : Instr := .retCc .po
abbrev retPe : Instr := .retCc .pe
abbrev retP : Instr := .retCc .p
abbrev retM : Instr := .retCc .m

abbrev rlca : Instr := .rotA .rlc
abbrev rrca : Instr := .rotA .rrc
abbrev rla : Instr := .rotA .rl
abbrev rra : Instr := .rotA .rr

abbrev rlcR08 (data : R8) : Instr := .rotR08 .rlc data
abbrev rlcIndR16 (addr : R16) : Instr := .rotIndR16 .rlc addr
abbrev rlcIndR16PlusI08 (r1 : R16) : Instr := .rotIndR16PlusI08 .rlc r1
abbrev rlcIndR16PlusI08R08 (r1 : R16) (r2 : R8) : Instr :=
  .rotIndR16PlusI08R08 .rlc r1 r2

abbrev rrcR08 (data : R8) : Instr := .rotR08 .rrc data
abbrev rrcIndR16 (addr : R16) : Instr := .rotIndR16 .rrc addr
abbrev rrcIndR16PlusI08 (r1 : R16) : Instr := .rotIndR16PlusI08 .rrc r1
abbrev rrcIndR16PlusI08R08 (r1 : R16) (r2 : R8) : Instr :=
  .rotIndR16PlusI08R08 .rrc r1 r2

abbrev rlR08 (data : R8) : Instr := .rotR08 .rl data
abbrev rlIndR16 (addr : R16) : Instr := .rotIndR16 .rl addr
abbrev rlIndR16PlusI08 (r1 : R16) : Instr := .rotIndR16PlusI08 .rl r1
abbrev rlIndR16PlusI08R08 (r1 : R16) (r2 : R8) : Instr :=
  .rotIndR16PlusI08R08 .rl r1 r2

abbrev rrR08 (data : R8) : Instr := .rotR08 .rr data
abbrev rrIndR16 (addr : R16) : Instr := .rotIndR16 .rr addr
abbrev rrIndR16PlusI08 (r1 : R16) : Instr := .rotIndR16PlusI08 .rr r1
abbrev rrIndR16PlusI08R08 (r1 : R16) (r2 : R8) : Instr :=
  .rotIndR16PlusI08R08 .rr r1 r2

abbrev slaR08 (data : R8) : Instr := .rotR08 .sla data
abbrev slaIndR16 (addr : R16) : Instr := .rotIndR16 .sla addr
abbrev slaIndR16PlusI08 (r1 : R16) : Instr := .rotIndR16PlusI08 .sla r1
abbrev slaIndR16PlusI08R08 (r1 : R16) (r2 : R8) : Instr :=
  .rotIndR16PlusI08R08 .sla r1 r2

abbrev sraR08 (data : R8) : Instr := .rotR08 .sra data
abbrev sraIndR16 (addr : R16) : Instr := .rotIndR16 .sra addr
abbrev sraIndR16PlusI08 (r1 : R16) : Instr := .rotIndR16PlusI08 .sra r1
abbrev sraIndR16PlusI08R08 (r1 : R16) (r2 : R8) : Instr :=
  .rotIndR16PlusI08R08 .sra r1 r2

abbrev sllR08 (data : R8) : Instr := .rotR08 .sll data
abbrev sllIndR16 (addr : R16) : Instr := .rotIndR16 .sll addr
abbrev sllIndR16PlusI08 (r1 : R16) : Instr := .rotIndR16PlusI08 .sll r1
abbrev sllIndR16PlusI08R08 (r1 : R16) (r2 : R8) : Instr :=
  .rotIndR16PlusI08R08 .sll r1 r2

abbrev srlR08 (data : R8) : Instr := .rotR08 .srl data
abbrev srlIndR16 (addr : R16) : Instr := .rotIndR16 .srl addr
abbrev srlIndR16PlusI08 (r1 : R16) : Instr := .rotIndR16PlusI08 .srl r1
abbrev srlIndR16PlusI08R08 (r1 : R16) (r2 : R8) : Instr :=
  .rotIndR16PlusI08R08 .srl r1 r2

end Instr

end Xcpc.Cpu
