import Xcpc.Cpu.Instr

/-!
# The opcode tables

One row for each case of the seven `switch` statements, in the order of the
opcodes: the cycles it consumes, the micro-instruction it runs before that,
and where it goes. The cases of a prefixed opcode consume what the instruction
takes less what its prefix bytes consumed already, and the helpers that build
the rows do the same subtraction.
-/

namespace Xcpc.Cpu

/-- Where a case goes: out of the switch, or to the fetch of another table. -/
inductive Next where
  | epilog | fetchCb | fetchEd | fetchDd | fetchFd | fetchDdcb | fetchFdcb
deriving DecidableEq, Repr

structure Entry where
  mCycles : Nat
  tStates : Nat
  micro : Instr
  next : Next
deriving DecidableEq, Repr

abbrev VECTOR_00H : Word := 0x0000
abbrev VECTOR_08H : Word := 0x0008
abbrev VECTOR_10H : Word := 0x0010
abbrev VECTOR_18H : Word := 0x0018
abbrev VECTOR_20H : Word := 0x0020
abbrev VECTOR_28H : Word := 0x0028
abbrev VECTOR_30H : Word := 0x0030
abbrev VECTOR_38H : Word := 0x0038
abbrev VECTOR_66H : Word := 0x0066

namespace Opcodes

/-- A case that ends in `break`. -/
abbrev row (cycles states : Nat) (micro : Instr) : Entry :=
  ⟨cycles, states, micro, .epilog⟩

/-- A case that ends in `goto`. -/
abbrev goto (cycles states : Nat) (next : Next) : Entry :=
  ⟨cycles, states, .nop, next⟩

/-- A case after one prefix byte. -/
abbrev row1 (cycles states : Nat) (micro : Instr) : Entry :=
  row (cycles - 1) (states - 4) micro

abbrev goto1 (cycles states : Nat) (next : Next) : Entry :=
  goto (cycles - 1) (states - 4) next

/-- A case after two prefix bytes. -/
abbrev row2 (cycles states : Nat) (micro : Instr) : Entry :=
  row (cycles - 2) (states - 8) micro

/-- `cpu-opcodes.inc` -/
def main : List Entry :=
  [row 1 4 .nop, row 2 10 (.ldR16I16 .bcW), row 2 7 (.ldIndR16R08 .bcW .afH),
    row 1 6 (.incR16 .bcW), row 1 4 (.incR08 .bcH), row 1 4 (.decR08 .bcH),
    row 2 7 (.ldR08I08 .bcH), row 1 4 .rlca, row 1 4 (.exR16R16 .afW .afP),
    row 3 11 (.addR16R16 .hlW .bcW), row 2 7 (.ldR08IndR16 .afH .bcW),
    row 1 6 (.decR16 .bcW), row 1 4 (.incR08 .bcL), row 1 4 (.decR08 .bcL),
    row 2 7 (.ldR08I08 .bcL), row 1 4 .rrca, row 2 8 .djnzI08,
    row 2 10 (.ldR16I16 .deW), row 2 7 (.ldIndR16R08 .deW .afH),
    row 1 6 (.incR16 .deW), row 1 4 (.incR08 .deH), row 1 4 (.decR08 .deH),
    row 2 7 (.ldR08I08 .deH), row 1 4 .rla, row 3 12 .jrI08,
    row 3 11 (.addR16R16 .hlW .deW), row 2 7 (.ldR08IndR16 .afH .deW),
    row 1 6 (.decR16 .deW), row 1 4 (.incR08 .deL), row 1 4 (.decR08 .deL),
    row 2 7 (.ldR08I08 .deL), row 1 4 .rra, row 2 7 .jrNzI08,
    row 2 10 (.ldR16I16 .hlW), row 5 16 (.ldIndI16R16 .hlW),
    row 1 6 (.incR16 .hlW), row 1 4 (.incR08 .hlH), row 1 4 (.decR08 .hlH),
    row 2 7 (.ldR08I08 .hlH), row 1 4 .daa, row 2 7 .jrZI08,
    row 3 11 (.addR16R16 .hlW .hlW), row 5 16 (.ldR16IndI16 .hlW),
    row 1 6 (.decR16 .hlW), row 1 4 (.incR08 .hlL), row 1 4 (.decR08 .hlL),
    row 2 7 (.ldR08I08 .hlL), row 1 4 .cpl, row 2 7 .jrNcI08,
    row 2 10 (.ldR16I16 .spW), row 4 13 (.ldIndI16R08 .afH),
    row 1 6 (.incR16 .spW), row 3 11 (.incIndR16 .hlW),
    row 3 11 (.decIndR16 .hlW), row 3 10 (.ldIndR16I08 .hlW), row 1 4 .scf,
    row 2 7 .jrCI08, row 3 11 (.addR16R16 .hlW .spW),
    row 4 13 (.ldR08IndI16 .afH), row 1 6 (.decR16 .spW),
    row 1 4 (.incR08 .afH), row 1 4 (.decR08 .afH), row 2 7 (.ldR08I08 .afH),
    row 1 4 .ccf, row 1 4 (.ldR08R08 .bcH .bcH),
    row 1 4 (.ldR08R08 .bcH .bcL), row 1 4 (.ldR08R08 .bcH .deH),
    row 1 4 (.ldR08R08 .bcH .deL), row 1 4 (.ldR08R08 .bcH .hlH),
    row 1 4 (.ldR08R08 .bcH .hlL), row 2 7 (.ldR08IndR16 .bcH .hlW),
    row 1 4 (.ldR08R08 .bcH .afH), row 1 4 (.ldR08R08 .bcL .bcH),
    row 1 4 (.ldR08R08 .bcL .bcL), row 1 4 (.ldR08R08 .bcL .deH),
    row 1 4 (.ldR08R08 .bcL .deL), row 1 4 (.ldR08R08 .bcL .hlH),
    row 1 4 (.ldR08R08 .bcL .hlL), row 2 7 (.ldR08IndR16 .bcL .hlW),
    row 1 4 (.ldR08R08 .bcL .afH), row 1 4 (.ldR08R08 .deH .bcH),
    row 1 4 (.ldR08R08 .deH .bcL), row 1 4 (.ldR08R08 .deH .deH),
    row 1 4 (.ldR08R08 .deH .deL), row 1 4 (.ldR08R08 .deH .hlH),
    row 1 4 (.ldR08R08 .deH .hlL), row 2 7 (.ldR08IndR16 .deH .hlW),
    row 1 4 (.ldR08R08 .deH .afH), row 1 4 (.ldR08R08 .deL .bcH),
    row 1 4 (.ldR08R08 .deL .bcL), row 1 4 (.ldR08R08 .deL .deH),
    row 1 4 (.ldR08R08 .deL .deL), row 1 4 (.ldR08R08 .deL .hlH),
    row 1 4 (.ldR08R08 .deL .hlL), row 2 7 (.ldR08IndR16 .deL .hlW),
    row 1 4 (.ldR08R08 .deL .afH), row 1 4 (.ldR08R08 .hlH .bcH),
    row 1 4 (.ldR08R08 .hlH .bcL), row 1 4 (.ldR08R08 .hlH .deH),
    row 1 4 (.ldR08R08 .hlH .deL), row 1 4 (.ldR08R08 .hlH .hlH),
    row 1 4 (.ldR08R08 .hlH .hlL), row 2 7 (.ldR08IndR16 .hlH .hlW),
    row 1 4 (.ldR08R08 .hlH .afH), row 1 4 (.ldR08R08 .hlL .bcH),
    row 1 4 (.ldR08R08 .hlL .bcL), row 1 4 (.ldR08R08 .hlL .deH),
    row 1 4 (.ldR08R08 .hlL .deL), row 1 4 (.ldR08R08 .hlL .hlH),
    row 1 4 (.ldR08R08 .hlL .hlL), row 2 7 (.ldR08IndR16 .hlL .hlW),
    row 1 4 (.ldR08R08 .hlL .afH), row 2 7 (.ldIndR16R08 .hlW .bcH),
    row 2 7 (.ldIndR16R08 .hlW .bcL), row 2 7 (.ldIndR16R08 .hlW .deH),
    row 2 7 (.ldIndR16R08 .hlW .deL), row 2 7 (.ldIndR16R08 .hlW .hlH),
    row 2 7 (.ldIndR16R08 .hlW .hlL), row 1 4 .halt,
    row 2 7 (.ldIndR16R08 .hlW .afH), row 1 4 (.ldR08R08 .afH .bcH),
    row 1 4 (.ldR08R08 .afH .bcL), row 1 4 (.ldR08R08 .afH .deH),
    row 1 4 (.ldR08R08 .afH .deL), row 1 4 (.ldR08R08 .afH .hlH),
    row 1 4 (.ldR08R08 .afH .hlL), row 2 7 (.ldR08IndR16 .afH .hlW),
    row 1 4 (.ldR08R08 .afH .afH), row 1 4 (.addR08R08 .afH .bcH),
    row 1 4 (.addR08R08 .afH .bcL), row 1 4 (.addR08R08 .afH .deH),
    row 1 4 (.addR08R08 .afH .deL), row 1 4 (.addR08R08 .afH .hlH),
    row 1 4 (.addR08R08 .afH .hlL), row 2 7 (.addR08IndR16 .afH .hlW),
    row 1 4 (.addR08R08 .afH .afH), row 1 4 (.adcR08R08 .afH .bcH),
    row 1 4 (.adcR08R08 .afH .bcL), row 1 4 (.adcR08R08 .afH .deH),
    row 1 4 (.adcR08R08 .afH .deL), row 1 4 (.adcR08R08 .afH .hlH),
    row 1 4 (.adcR08R08 .afH .hlL), row 2 7 (.adcR08IndR16 .afH .hlW),
    row 1 4 (.adcR08R08 .afH .afH), row 1 4 (.subR08R08 .afH .bcH),
    row 1 4 (.subR08R08 .afH .bcL), row 1 4 (.subR08R08 .afH .deH),
    row 1 4 (.subR08R08 .afH .deL), row 1 4 (.subR08R08 .afH .hlH),
    row 1 4 (.subR08R08 .afH .hlL), row 2 7 (.subR08IndR16 .afH .hlW),
    row 1 4 (.subR08R08 .afH .afH), row 1 4 (.sbcR08R08 .afH .bcH),
    row 1 4 (.sbcR08R08 .afH .bcL), row 1 4 (.sbcR08R08 .afH .deH),
    row 1 4 (.sbcR08R08 .afH .deL), row 1 4 (.sbcR08R08 .afH .hlH),
    row 1 4 (.sbcR08R08 .afH .hlL), row 2 7 (.sbcR08IndR16 .afH .hlW),
    row 1 4 (.sbcR08R08 .afH .afH), row 1 4 (.andR08R08 .afH .bcH),
    row 1 4 (.andR08R08 .afH .bcL), row 1 4 (.andR08R08 .afH .deH),
    row 1 4 (.andR08R08 .afH .deL), row 1 4 (.andR08R08 .afH .hlH),
    row 1 4 (.andR08R08 .afH .hlL), row 2 7 (.andR08IndR16 .afH .hlW),
    row 1 4 (.andR08R08 .afH .afH), row 1 4 (.xorR08R08 .afH .bcH),
    row 1 4 (.xorR08R08 .afH .bcL), row 1 4 (.xorR08R08 .afH .deH),
    row 1 4 (.xorR08R08 .afH .deL), row 1 4 (.xorR08R08 .afH .hlH),
    row 1 4 (.xorR08R08 .afH .hlL), row 2 7 (.xorR08IndR16 .afH .hlW),
    row 1 4 (.xorR08R08 .afH .afH), row 1 4 (.orR08R08 .afH .bcH),
    row 1 4 (.orR08R08 .afH .bcL), row 1 4 (.orR08R08 .afH .deH),
    row 1 4 (.orR08R08 .afH .deL), row 1 4 (.orR08R08 .afH .hlH),
    row 1 4 (.orR08R08 .afH .hlL), row 2 7 (.orR08IndR16 .afH .hlW),
    row 1 4 (.orR08R08 .afH .afH), row 1 4 (.cpR08R08 .afH .bcH),
    row 1 4 (.cpR08R08 .afH .bcL), row 1 4 (.cpR08R08 .afH .deH),
    row 1 4 (.cpR08R08 .afH .deL), row 1 4 (.cpR08R08 .afH .hlH),
    row 1 4 (.cpR08R08 .afH .hlL), row 2 7 (.cpR08IndR16 .afH .hlW),
    row 1 4 (.cpR08R08 .afH .afH), row 1 5 .retNz, row 3 10 (.popR16 .bcW),
    row 3 10 .jpNzI16, row 3 10 .jpI16, row 3 10 .callNzI16,
    row 3 11 (.pushR16 .bcW), row 2 7 (.addR08I08 .afH),
    row 3 11 (.rstVec16 VECTOR_00H), row 1 5 .retZ, row 3 10 .ret,
    row 3 10 .jpZI16, goto 1 4 .fetchCb, row 3 10 .callZI16,
    row 5 17 .callI16, row 2 7 (.adcR08I08 .afH),
    row 3 11 (.rstVec16 VECTOR_08H), row 1 5 .retNc, row 3 10 (.popR16 .deW),
    row 3 10 .jpNcI16, row 3 11 (.outIndI08R08 .afH), row 3 10 .callNcI16,
    row 3 11 (.pushR16 .deW), row 2 7 (.subR08I08 .afH),
    row 3 11 (.rstVec16 VECTOR_10H), row 1 5 .retC, row 1 4 .exx,
    row 3 10 .jpCI16, row 3 11 (.inR08IndI08 .afH), row 3 10 .callCI16,
    goto 1 4 .fetchDd, row 2 7 (.sbcR08I08 .afH),
    row 3 11 (.rstVec16 VECTOR_18H), row 1 5 .retPo, row 3 10 (.popR16 .hlW),
    row 3 10 .jpPoI16, row 5 19 (.exIndR16R16 .spW .hlW), row 3 10 .callPoI16,
    row 3 11 (.pushR16 .hlW), row 2 7 (.andR08I08 .afH),
    row 3 11 (.rstVec16 VECTOR_20H), row 1 5 .retPe, row 1 4 (.jpR16 .hlW),
    row 3 10 .jpPeI16, row 1 4 (.exR16R16 .deW .hlW), row 3 10 .callPeI16,
    goto 1 4 .fetchEd, row 2 7 (.xorR08I08 .afH),
    row 3 11 (.rstVec16 VECTOR_28H), row 1 5 .retP, row 3 10 (.popR16 .afW),
    row 3 10 .jpPI16, row 1 4 .di, row 3 10 .callPI16,
    row 3 11 (.pushR16 .afW), row 2 7 (.orR08I08 .afH),
    row 3 11 (.rstVec16 VECTOR_30H), row 1 5 .retM,
    row 1 6 (.ldR16R16 .spW .hlW), row 3 10 .jpMI16, row 1 4 .ei,
    row 3 10 .callMI16, goto 1 4 .fetchFd, row 2 7 (.cpR08I08 .afH),
    row 3 11 (.rstVec16 VECTOR_38H)]

/-- `cpu-opcodes-cb.inc` -/
def cb : List Entry :=
  [row1 2 8 (.rlcR08 .bcH), row1 2 8 (.rlcR08 .bcL), row1 2 8 (.rlcR08 .deH),
    row1 2 8 (.rlcR08 .deL), row1 2 8 (.rlcR08 .hlH), row1 2 8 (.rlcR08 .hlL),
    row1 4 15 (.rlcIndR16 .hlW), row1 2 8 (.rlcR08 .afH),
    row1 2 8 (.rrcR08 .bcH), row1 2 8 (.rrcR08 .bcL), row1 2 8 (.rrcR08 .deH),
    row1 2 8 (.rrcR08 .deL), row1 2 8 (.rrcR08 .hlH), row1 2 8 (.rrcR08 .hlL),
    row1 4 15 (.rrcIndR16 .hlW), row1 2 8 (.rrcR08 .afH),
    row1 2 8 (.rlR08 .bcH), row1 2 8 (.rlR08 .bcL), row1 2 8 (.rlR08 .deH),
    row1 2 8 (.rlR08 .deL), row1 2 8 (.rlR08 .hlH), row1 2 8 (.rlR08 .hlL),
    row1 4 15 (.rlIndR16 .hlW), row1 2 8 (.rlR08 .afH),
    row1 2 8 (.rrR08 .bcH), row1 2 8 (.rrR08 .bcL), row1 2 8 (.rrR08 .deH),
    row1 2 8 (.rrR08 .deL), row1 2 8 (.rrR08 .hlH), row1 2 8 (.rrR08 .hlL),
    row1 4 15 (.rrIndR16 .hlW), row1 2 8 (.rrR08 .afH),
    row1 2 8 (.slaR08 .bcH), row1 2 8 (.slaR08 .bcL), row1 2 8 (.slaR08 .deH),
    row1 2 8 (.slaR08 .deL), row1 2 8 (.slaR08 .hlH), row1 2 8 (.slaR08 .hlL),
    row1 4 15 (.slaIndR16 .hlW), row1 2 8 (.slaR08 .afH),
    row1 2 8 (.sraR08 .bcH), row1 2 8 (.sraR08 .bcL), row1 2 8 (.sraR08 .deH),
    row1 2 8 (.sraR08 .deL), row1 2 8 (.sraR08 .hlH), row1 2 8 (.sraR08 .hlL),
    row1 4 15 (.sraIndR16 .hlW), row1 2 8 (.sraR08 .afH),
    row1 2 8 (.sllR08 .bcH), row1 2 8 (.sllR08 .bcL), row1 2 8 (.sllR08 .deH),
    row1 2 8 (.sllR08 .deL), row1 2 8 (.sllR08 .hlH), row1 2 8 (.sllR08 .hlL),
    row1 4 15 (.sllIndR16 .hlW), row1 2 8 (.sllR08 .afH),
    row1 2 8 (.srlR08 .bcH), row1 2 8 (.srlR08 .bcL), row1 2 8 (.srlR08 .deH),
    row1 2 8 (.srlR08 .deL), row1 2 8 (.srlR08 .hlH), row1 2 8 (.srlR08 .hlL),
    row1 4 15 (.srlIndR16 .hlW), row1 2 8 (.srlR08 .afH),
    row1 2 8 (.bitBR08 BIT0 .bcH), row1 2 8 (.bitBR08 BIT0 .bcL),
    row1 2 8 (.bitBR08 BIT0 .deH), row1 2 8 (.bitBR08 BIT0 .deL),
    row1 2 8 (.bitBR08 BIT0 .hlH), row1 2 8 (.bitBR08 BIT0 .hlL),
    row1 3 12 (.bitBIndR16 BIT0 .hlW), row1 2 8 (.bitBR08 BIT0 .afH),
    row1 2 8 (.bitBR08 BIT1 .bcH), row1 2 8 (.bitBR08 BIT1 .bcL),
    row1 2 8 (.bitBR08 BIT1 .deH), row1 2 8 (.bitBR08 BIT1 .deL),
    row1 2 8 (.bitBR08 BIT1 .hlH), row1 2 8 (.bitBR08 BIT1 .hlL),
    row1 3 12 (.bitBIndR16 BIT1 .hlW), row1 2 8 (.bitBR08 BIT1 .afH),
    row1 2 8 (.bitBR08 BIT2 .bcH), row1 2 8 (.bitBR08 BIT2 .bcL),
    row1 2 8 (.bitBR08 BIT2 .deH), row1 2 8 (.bitBR08 BIT2 .deL),
    row1 2 8 (.bitBR08 BIT2 .hlH), row1 2 8 (.bitBR08 BIT2 .hlL),
    row1 3 12 (.bitBIndR16 BIT2 .hlW), row1 2 8 (.bitBR08 BIT2 .afH),
    row1 2 8 (.bitBR08 BIT3 .bcH), row1 2 8 (.bitBR08 BIT3 .bcL),
    row1 2 8 (.bitBR08 BIT3 .deH), row1 2 8 (.bitBR08 BIT3 .deL),
    row1 2 8 (.bitBR08 BIT3 .hlH), row1 2 8 (.bitBR08 BIT3 .hlL),
    row1 3 12 (.bitBIndR16 BIT3 .hlW), row1 2 8 (.bitBR08 BIT3 .afH),
    row1 2 8 (.bitBR08 BIT4 .bcH), row1 2 8 (.bitBR08 BIT4 .bcL),
    row1 2 8 (.bitBR08 BIT4 .deH), row1 2 8 (.bitBR08 BIT4 .deL),
    row1 2 8 (.bitBR08 BIT4 .hlH), row1 2 8 (.bitBR08 BIT4 .hlL),
    row1 3 12 (.bitBIndR16 BIT4 .hlW), row1 2 8 (.bitBR08 BIT4 .afH),
    row1 2 8 (.bitBR08 BIT5 .bcH), row1 2 8 (.bitBR08 BIT5 .bcL),
    row1 2 8 (.bitBR08 BIT5 .deH), row1 2 8 (.bitBR08 BIT5 .deL),
    row1 2 8 (.bitBR08 BIT5 .hlH), row1 2 8 (.bitBR08 BIT5 .hlL),
    row1 3 12 (.bitBIndR16 BIT5 .hlW), row1 2 8 (.bitBR08 BIT5 .afH),
    row1 2 8 (.bitBR08 BIT6 .bcH), row1 2 8 (.bitBR08 BIT6 .bcL),
    row1 2 8 (.bitBR08 BIT6 .deH), row1 2 8 (.bitBR08 BIT6 .deL),
    row1 2 8 (.bitBR08 BIT6 .hlH), row1 2 8 (.bitBR08 BIT6 .hlL),
    row1 3 12 (.bitBIndR16 BIT6 .hlW), row1 2 8 (.bitBR08 BIT6 .afH),
    row1 2 8 (.bitBR08 BIT7 .bcH), row1 2 8 (.bitBR08 BIT7 .bcL),
    row1 2 8 (.bitBR08 BIT7 .deH), row1 2 8 (.bitBR08 BIT7 .deL),
    row1 2 8 (.bitBR08 BIT7 .hlH), row1 2 8 (.bitBR08 BIT7 .hlL),
    row1 3 12 (.bitBIndR16 BIT7 .hlW), row1 2 8 (.bitBR08 BIT7 .afH),
    row1 2 8 (.resBR08 BIT0 .bcH), row1 2 8 (.resBR08 BIT0 .bcL),
    row1 2 8 (.resBR08 BIT0 .deH), row1 2 8 (.resBR08 BIT0 .deL),
    row1 2 8 (.resBR08 BIT0 .hlH), row1 2 8 (.resBR08 BIT0 .hlL),
    row1 4 15 (.resBIndR16 BIT0 .hlW), row1 2 8 (.resBR08 BIT0 .afH),
    row1 2 8 (.resBR08 BIT1 .bcH), row1 2 8 (.resBR08 BIT1 .bcL),
    row1 2 8 (.resBR08 BIT1 .deH), row1 2 8 (.resBR08 BIT1 .deL),
    row1 2 8 (.resBR08 BIT1 .hlH), row1 2 8 (.resBR08 BIT1 .hlL),
    row1 4 15 (.resBIndR16 BIT1 .hlW), row1 2 8 (.resBR08 BIT1 .afH),
    row1 2 8 (.resBR08 BIT2 .bcH), row1 2 8 (.resBR08 BIT2 .bcL),
    row1 2 8 (.resBR08 BIT2 .deH), row1 2 8 (.resBR08 BIT2 .deL),
    row1 2 8 (.resBR08 BIT2 .hlH), row1 2 8 (.resBR08 BIT2 .hlL),
    row1 4 15 (.resBIndR16 BIT2 .hlW), row1 2 8 (.resBR08 BIT2 .afH),
    row1 2 8 (.resBR08 BIT3 .bcH), row1 2 8 (.resBR08 BIT3 .bcL),
    row1 2 8 (.resBR08 BIT3 .deH), row1 2 8 (.resBR08 BIT3 .deL),
    row1 2 8 (.resBR08 BIT3 .hlH), row1 2 8 (.resBR08 BIT3 .hlL),
    row1 4 15 (.resBIndR16 BIT3 .hlW), row1 2 8 (.resBR08 BIT3 .afH),
    row1 2 8 (.resBR08 BIT4 .bcH), row1 2 8 (.resBR08 BIT4 .bcL),
    row1 2 8 (.resBR08 BIT4 .deH), row1 2 8 (.resBR08 BIT4 .deL),
    row1 2 8 (.resBR08 BIT4 .hlH), row1 2 8 (.resBR08 BIT4 .hlL),
    row1 4 15 (.resBIndR16 BIT4 .hlW), row1 2 8 (.resBR08 BIT4 .afH),
    row1 2 8 (.resBR08 BIT5 .bcH), row1 2 8 (.resBR08 BIT5 .bcL),
    row1 2 8 (.resBR08 BIT5 .deH), row1 2 8 (.resBR08 BIT5 .deL),
    row1 2 8 (.resBR08 BIT5 .hlH), row1 2 8 (.resBR08 BIT5 .hlL),
    row1 4 15 (.resBIndR16 BIT5 .hlW), row1 2 8 (.resBR08 BIT5 .afH),
    row1 2 8 (.resBR08 BIT6 .bcH), row1 2 8 (.resBR08 BIT6 .bcL),
    row1 2 8 (.resBR08 BIT6 .deH), row1 2 8 (.resBR08 BIT6 .deL),
    row1 2 8 (.resBR08 BIT6 .hlH), row1 2 8 (.resBR08 BIT6 .hlL),
    row1 4 15 (.resBIndR16 BIT6 .hlW), row1 2 8 (.resBR08 BIT6 .afH),
    row1 2 8 (.resBR08 BIT7 .bcH), row1 2 8 (.resBR08 BIT7 .bcL),
    row1 2 8 (.resBR08 BIT7 .deH), row1 2 8 (.resBR08 BIT7 .deL),
    row1 2 8 (.resBR08 BIT7 .hlH), row1 2 8 (.resBR08 BIT7 .hlL),
    row1 4 15 (.resBIndR16 BIT7 .hlW), row1 2 8 (.resBR08 BIT7 .afH),
    row1 2 8 (.setBR08 BIT0 .bcH), row1 2 8 (.setBR08 BIT0 .bcL),
    row1 2 8 (.setBR08 BIT0 .deH), row1 2 8 (.setBR08 BIT0 .deL),
    row1 2 8 (.setBR08 BIT0 .hlH), row1 2 8 (.setBR08 BIT0 .hlL),
    row1 4 15 (.setBIndR16 BIT0 .hlW), row1 2 8 (.setBR08 BIT0 .afH),
    row1 2 8 (.setBR08 BIT1 .bcH), row1 2 8 (.setBR08 BIT1 .bcL),
    row1 2 8 (.setBR08 BIT1 .deH), row1 2 8 (.setBR08 BIT1 .deL),
    row1 2 8 (.setBR08 BIT1 .hlH), row1 2 8 (.setBR08 BIT1 .hlL),
    row1 4 15 (.setBIndR16 BIT1 .hlW), row1 2 8 (.setBR08 BIT1 .afH),
    row1 2 8 (.setBR08 BIT2 .bcH), row1 2 8 (.setBR08 BIT2 .bcL),
    row1 2 8 (.setBR08 BIT2 .deH), row1 2 8 (.setBR08 BIT2 .deL),
    row1 2 8 (.setBR08 BIT2 .hlH), row1 2 8 (.setBR08 BIT2 .hlL),
    row1 4 15 (.setBIndR16 BIT2 .hlW), row1 2 8 (.setBR08 BIT2 .afH),
    row1 2 8 (.setBR08 BIT3 .bcH), row1 2 8 (.setBR08 BIT3 .bcL),
    row1 2 8 (.setBR08 BIT3 .deH), row1 2 8 (.setBR08 BIT3 .deL),
    row1 2 8 (.setBR08 BIT3 .hlH), row1 2 8 (.setBR08 BIT3 .hlL),
    row1 4 15 (.setBIndR16 BIT3 .hlW), row1 2 8 (.setBR08 BIT3 .afH),
    row1 2 8 (.setBR08 BIT4 .bcH), row1 2 8 (.setBR08 BIT4 .bcL),
    row1 2 8 (.setBR08 BIT4 .deH), row1 2 8 (.setBR08 BIT4 .deL),
    row1 2 8 (.setBR08 BIT4 .hlH), row1 2 8 (.setBR08 BIT4 .hlL),
    row1 4 15 (.setBIndR16 BIT4 .hlW), row1 2 8 (.setBR08 BIT4 .afH),
    row1 2 8 (.setBR08 BIT5 .bcH), row1 2 8 (.setBR08 BIT5 .bcL),
    row1 2 8 (.setBR08 BIT5 .deH), row1 2 8 (.setBR08 BIT5 .deL),
    row1 2 8 (.setBR08 BIT5 .hlH), row1 2 8 (.setBR08 BIT5 .hlL),
    row1 4 15 (.setBIndR16 BIT5 .hlW), row1 2 8 (.setBR08 BIT5 .afH),
    row1 2 8 (.setBR08 BIT6 .bcH), row1 2 8 (.setBR08 BIT6 .bcL),
    row1 2 8 (.setBR08 BIT6 .deH), row1 2 8 (.setBR08 BIT6 .deL),
    row1 2 8 (.setBR08 BIT6 .hlH), row1 2 8 (.setBR08 BIT6 .hlL),
    row1 4 15 (.setBIndR16 BIT6 .hlW), row1 2 8 (.setBR08 BIT6 .afH),
    row1 2 8 (.setBR08 BIT7 .bcH), row1 2 8 (.setBR08 BIT7 .bcL),
    row1 2 8 (.setBR08 BIT7 .deH), row1 2 8 (.setBR08 BIT7 .deL),
    row1 2 8 (.setBR08 BIT7 .hlH), row1 2 8 (.setBR08 BIT7 .hlL),
    row1 4 15 (.setBIndR16 BIT7 .hlW), row1 2 8 (.setBR08 BIT7 .afH)]

/-- `cpu-opcodes-ed.inc` -/
def ed : List Entry :=
  [row1 2 8 .illegal, row1 2 8 .illegal, row1 2 8 .illegal,
    row1 2 8 .illegal, row1 2 8 .illegal, row1 2 8 .illegal,
    row1 2 8 .illegal, row1 2 8 .illegal, row1 2 8 .illegal,
    row1 2 8 .illegal, row1 2 8 .illegal, row1 2 8 .illegal,
    row1 2 8 .illegal, row1 2 8 .illegal, row1 2 8 .illegal,
    row1 2 8 .illegal, row1 2 8 .illegal, row1 2 8 .illegal,
    row1 2 8 .illegal, row1 2 8 .illegal, row1 2 8 .illegal,
    row1 2 8 .illegal, row1 2 8 .illegal, row1 2 8 .illegal,
    row1 2 8 .illegal, row1 2 8 .illegal, row1 2 8 .illegal,
    row1 2 8 .illegal, row1 2 8 .illegal, row1 2 8 .illegal,
    row1 2 8 .illegal, row1 2 8 .illegal, row1 2 8 .illegal,
    row1 2 8 .illegal, row1 2 8 .illegal, row1 2 8 .illegal,
    row1 2 8 .illegal, row1 2 8 .illegal, row1 2 8 .illegal,
    row1 2 8 .illegal, row1 2 8 .illegal, row1 2 8 .illegal,
    row1 2 8 .illegal, row1 2 8 .illegal, row1 2 8 .illegal,
    row1 2 8 .illegal, row1 2 8 .illegal, row1 2 8 .illegal,
    row1 2 8 .illegal, row1 2 8 .illegal, row1 2 8 .illegal,
    row1 2 8 .illegal, row1 2 8 .illegal, row1 2 8 .illegal,
    row1 2 8 .illegal, row1 2 8 .illegal, row1 2 8 .illegal,
    row1 2 8 .illegal, row1 2 8 .illegal, row1 2 8 .illegal,
    row1 2 8 .illegal, row1 2 8 .illegal, row1 2 8 .illegal,
    row1 2 8 .illegal, row1 3 12 (.inR08IndR08 .bcH .bcL),
    row1 3 12 (.outIndR08R08 .bcL .bcH), row1 4 15 (.sbcR16R16 .hlW .bcW),
    row1 6 20 (.ldIndI16R16 .bcW), row1 2 8 .neg, row1 4 14 .retn,
    row1 2 8 .im0, row1 2 9 .ldIA, row1 3 12 (.inR08IndR08 .bcL .bcL),
    row1 3 12 (.outIndR08R08 .bcL .bcL), row1 4 15 (.adcR16R16 .hlW .bcW),
    row1 6 20 (.ldR16IndI16 .bcW), row1 2 8 .neg, row1 4 14 .reti,
    row1 2 8 .im3, row1 2 9 .ldRA, row1 3 12 (.inR08IndR08 .deH .bcL),
    row1 3 12 (.outIndR08R08 .bcL .deH), row1 4 15 (.sbcR16R16 .hlW .deW),
    row1 6 20 (.ldIndI16R16 .deW), row1 2 8 .neg, row1 4 14 .retn,
    row1 2 8 .im1, row1 2 9 .ldAI, row1 3 12 (.inR08IndR08 .deL .bcL),
    row1 3 12 (.outIndR08R08 .bcL .deL), row1 4 15 (.adcR16R16 .hlW .deW),
    row1 6 20 (.ldR16IndI16 .deW), row1 2 8 .neg, row1 4 14 .reti,
    row1 2 8 .im2, row1 2 9 .ldAR, row1 3 12 (.inR08IndR08 .hlH .bcL),
    row1 3 12 (.outIndR08R08 .bcL .hlH), row1 4 15 (.sbcR16R16 .hlW .hlW),
    row1 6 20 (.ldIndI16R16 .hlW), row1 2 8 .neg, row1 4 14 .retn,
    row1 2 8 .im0, row1 5 18 .rrd, row1 3 12 (.inR08IndR08 .hlL .bcL),
    row1 3 12 (.outIndR08R08 .bcL .hlL), row1 4 15 (.adcR16R16 .hlW .hlW),
    row1 6 20 (.ldR16IndI16 .hlW), row1 2 8 .neg, row1 4 14 .reti,
    row1 2 8 .im3, row1 5 18 .rld, row1 3 12 (.inR08IndR08 .afL .bcL),
    row1 3 12 (.outIndR08R08 .bcL .afL), row1 4 15 (.sbcR16R16 .hlW .spW),
    row1 6 20 (.ldIndI16R16 .spW), row1 2 8 .neg, row1 4 14 .retn,
    row1 2 8 .im1, row1 2 8 .nop, row1 3 12 (.inR08IndR08 .afH .bcL),
    row1 3 12 (.outIndR08R08 .bcL .afH), row1 4 15 (.adcR16R16 .hlW .spW),
    row1 6 20 (.ldR16IndI16 .spW), row1 2 8 .neg, row1 4 14 .reti,
    row1 2 8 .im2, row1 2 8 .nop, row1 2 8 .illegal, row1 2 8 .illegal,
    row1 2 8 .illegal, row1 2 8 .illegal, row1 2 8 .illegal,
    row1 2 8 .illegal, row1 2 8 .illegal, row1 2 8 .illegal,
    row1 2 8 .illegal, row1 2 8 .illegal, row1 2 8 .illegal,
    row1 2 8 .illegal, row1 2 8 .illegal, row1 2 8 .illegal,
    row1 2 8 .illegal, row1 2 8 .illegal, row1 2 8 .illegal,
    row1 2 8 .illegal, row1 2 8 .illegal, row1 2 8 .illegal,
    row1 2 8 .illegal, row1 2 8 .illegal, row1 2 8 .illegal,
    row1 2 8 .illegal, row1 2 8 .illegal, row1 2 8 .illegal,
    row1 2 8 .illegal, row1 2 8 .illegal, row1 2 8 .illegal,
    row1 2 8 .illegal, row1 2 8 .illegal, row1 2 8 .illegal, row1 4 16 .ldi,
    row1 4 16 .cpi, row1 4 16 .ini, row1 4 16 .outi, row1 2 8 .illegal,
    row1 2 8 .illegal, row1 2 8 .illegal, row1 2 8 .illegal, row1 4 16 .ldd,
    row1 4 16 .cpd, row1 4 16 .ind, row1 4 16 .outd, row1 2 8 .illegal,
    row1 2 8 .illegal, row1 2 8 .illegal, row1 2 8 .illegal, row1 4 16 .ldir,
    row1 4 16 .cpir, row1 4 16 .inir, row1 4 16 .otir, row1 2 8 .illegal,
    row1 2 8 .illegal, row1 2 8 .illegal, row1 2 8 .illegal, row1 4 16 .lddr,
    row1 4 16 .cpdr, row1 4 16 .indr, row1 4 16 .otdr, row1 2 8 .illegal,
    row1 2 8 .illegal, row1 2 8 .illegal, row1 2 8 .illegal,
    row1 2 8 .illegal, row1 2 8 .illegal, row1 2 8 .illegal,
    row1 2 8 .illegal, row1 2 8 .illegal, row1 2 8 .illegal,
    row1 2 8 .illegal, row1 2 8 .illegal, row1 2 8 .illegal,
    row1 2 8 .illegal, row1 2 8 .illegal, row1 2 8 .illegal,
    row1 2 8 .illegal, row1 2 8 .illegal, row1 2 8 .illegal,
    row1 2 8 .illegal, row1 2 8 .illegal, row1 2 8 .illegal,
    row1 2 8 .illegal, row1 2 8 .illegal, row1 2 8 .illegal,
    row1 2 8 .illegal, row1 2 8 .illegal, row1 2 8 .illegal,
    row1 2 8 .illegal, row1 2 8 .illegal, row1 2 8 .illegal,
    row1 2 8 .illegal, row1 2 8 .illegal, row1 2 8 .illegal,
    row1 2 8 .illegal, row1 2 8 .illegal, row1 2 8 .illegal,
    row1 2 8 .illegal, row1 2 8 .illegal, row1 2 8 .illegal,
    row1 2 8 .illegal, row1 2 8 .illegal, row1 2 8 .illegal,
    row1 2 8 .illegal, row1 2 8 .illegal, row1 2 8 .illegal,
    row1 2 8 .illegal, row1 2 8 .illegal, row1 2 8 .illegal,
    row1 2 8 .illegal, row1 2 8 .illegal, row1 2 8 .illegal,
    row1 2 8 .illegal, row1 2 8 .illegal, row1 2 8 .illegal,
    row1 2 8 .illegal, row1 2 8 .illegal, row1 2 8 .illegal,
    row1 2 8 .illegal, row1 2 8 .illegal, row1 2 8 .illegal,
    row1 2 8 .illegal, row1 2 8 .illegal, row1 2 8 .illegal,
    row1 2 8 .illegal, row1 2 8 .illegal, row1 2 8 .illegal,
    row1 2 8 .illegal]

/-- `cpu-opcodes-dd.inc` -/
def dd : List Entry :=
  [row1 2 8 .nop, row1 3 14 (.ldR16I16 .bcW),
    row1 3 11 (.ldIndR16R08 .bcW .afH), row1 2 10 (.incR16 .bcW),
    row1 2 8 (.incR08 .bcH), row1 2 8 (.decR08 .bcH),
    row1 3 11 (.ldR08I08 .bcH), row1 2 8 .rlca,
    row1 2 8 (.exR16R16 .afW .afP), row1 4 15 (.addR16R16 .ixW .bcW),
    row1 3 11 (.ldR08IndR16 .afH .bcW), row1 2 10 (.decR16 .bcW),
    row1 2 8 (.incR08 .bcL), row1 2 8 (.decR08 .bcL),
    row1 3 11 (.ldR08I08 .bcL), row1 2 8 .rrca, row1 3 12 .djnzI08,
    row1 3 14 (.ldR16I16 .deW), row1 3 11 (.ldIndR16R08 .deW .afH),
    row1 2 10 (.incR16 .deW), row1 2 8 (.incR08 .deH),
    row1 2 8 (.decR08 .deH), row1 3 11 (.ldR08I08 .deH), row1 2 8 .rla,
    row1 4 16 .jrI08, row1 4 15 (.addR16R16 .ixW .deW),
    row1 3 11 (.ldR08IndR16 .afH .deW), row1 2 10 (.decR16 .deW),
    row1 2 8 (.incR08 .deL), row1 2 8 (.decR08 .deL),
    row1 3 11 (.ldR08I08 .deL), row1 2 8 .rra, row1 3 11 .jrNzI08,
    row1 3 14 (.ldR16I16 .ixW), row1 6 20 (.ldIndI16R16 .ixW),
    row1 2 10 (.incR16 .ixW), row1 2 8 (.incR08 .ixH),
    row1 2 8 (.decR08 .ixH), row1 3 11 (.ldR08I08 .ixH), row1 2 8 .daa,
    row1 3 11 .jrZI08, row1 4 15 (.addR16R16 .ixW .ixW),
    row1 6 20 (.ldR16IndI16 .ixW), row1 2 10 (.decR16 .ixW),
    row1 2 8 (.incR08 .ixL), row1 2 8 (.decR08 .ixL),
    row1 3 11 (.ldR08I08 .ixL), row1 2 8 .cpl, row1 3 11 .jrNcI08,
    row1 3 14 (.ldR16I16 .spW), row1 5 17 (.ldIndI16R08 .afH),
    row1 2 10 (.incR16 .spW), row1 6 23 (.incIndR16PlusI08 .ixW),
    row1 6 23 (.decIndR16PlusI08 .ixW), row1 5 19 (.ldIndR16PlusI08I08 .ixW),
    row1 2 8 .scf, row1 3 11 .jrCI08, row1 4 15 (.addR16R16 .ixW .spW),
    row1 5 17 (.ldR08IndI16 .afH), row1 2 10 (.decR16 .spW),
    row1 2 8 (.incR08 .afH), row1 2 8 (.decR08 .afH),
    row1 3 11 (.ldR08I08 .afH), row1 2 8 .ccf, row1 2 8 (.ldR08R08 .bcH .bcH),
    row1 2 8 (.ldR08R08 .bcH .bcL), row1 2 8 (.ldR08R08 .bcH .deH),
    row1 2 8 (.ldR08R08 .bcH .deL), row1 2 8 (.ldR08R08 .bcH .ixH),
    row1 2 8 (.ldR08R08 .bcH .ixL), row1 5 19 (.ldR08IndR16PlusI08 .bcH .ixW),
    row1 2 8 (.ldR08R08 .bcH .afH), row1 2 8 (.ldR08R08 .bcL .bcH),
    row1 2 8 (.ldR08R08 .bcL .bcL), row1 2 8 (.ldR08R08 .bcL .deH),
    row1 2 8 (.ldR08R08 .bcL .deL), row1 2 8 (.ldR08R08 .bcL .ixH),
    row1 2 8 (.ldR08R08 .bcL .ixL), row1 5 19 (.ldR08IndR16PlusI08 .bcL .ixW),
    row1 2 8 (.ldR08R08 .bcL .afH), row1 2 8 (.ldR08R08 .deH .bcH),
    row1 2 8 (.ldR08R08 .deH .bcL), row1 2 8 (.ldR08R08 .deH .deH),
    row1 2 8 (.ldR08R08 .deH .deL), row1 2 8 (.ldR08R08 .deH .ixH),
    row1 2 8 (.ldR08R08 .deH .ixL), row1 5 19 (.ldR08IndR16PlusI08 .deH .ixW),
    row1 2 8 (.ldR08R08 .deH .afH), row1 2 8 (.ldR08R08 .deL .bcH),
    row1 2 8 (.ldR08R08 .deL .bcL), row1 2 8 (.ldR08R08 .deL .deH),
    row1 2 8 (.ldR08R08 .deL .deL), row1 2 8 (.ldR08R08 .deL .ixH),
    row1 2 8 (.ldR08R08 .deL .ixL), row1 5 19 (.ldR08IndR16PlusI08 .deL .ixW),
    row1 2 8 (.ldR08R08 .deL .afH), row1 2 8 (.ldR08R08 .ixH .bcH),
    row1 2 8 (.ldR08R08 .ixH .bcL), row1 2 8 (.ldR08R08 .ixH .deH),
    row1 2 8 (.ldR08R08 .ixH .deL), row1 2 8 (.ldR08R08 .ixH .ixH),
    row1 2 8 (.ldR08R08 .ixH .ixL), row1 5 19 (.ldR08IndR16PlusI08 .hlH .ixW),
    row1 2 8 (.ldR08R08 .ixH .afH), row1 2 8 (.ldR08R08 .ixL .bcH),
    row1 2 8 (.ldR08R08 .ixL .bcL), row1 2 8 (.ldR08R08 .ixL .deH),
    row1 2 8 (.ldR08R08 .ixL .deL), row1 2 8 (.ldR08R08 .ixL .ixH),
    row1 2 8 (.ldR08R08 .ixL .ixL), row1 5 19 (.ldR08IndR16PlusI08 .hlL .ixW),
    row1 2 8 (.ldR08R08 .ixL .afH), row1 5 19 (.ldIndR16PlusI08R08 .ixW .bcH),
    row1 5 19 (.ldIndR16PlusI08R08 .ixW .bcL),
    row1 5 19 (.ldIndR16PlusI08R08 .ixW .deH),
    row1 5 19 (.ldIndR16PlusI08R08 .ixW .deL),
    row1 5 19 (.ldIndR16PlusI08R08 .ixW .hlH),
    row1 5 19 (.ldIndR16PlusI08R08 .ixW .hlL), row1 2 8 .halt,
    row1 5 19 (.ldIndR16PlusI08R08 .ixW .afH), row1 2 8 (.ldR08R08 .afH .bcH),
    row1 2 8 (.ldR08R08 .afH .bcL), row1 2 8 (.ldR08R08 .afH .deH),
    row1 2 8 (.ldR08R08 .afH .deL), row1 2 8 (.ldR08R08 .afH .ixH),
    row1 2 8 (.ldR08R08 .afH .ixL), row1 5 19 (.ldR08IndR16PlusI08 .afH .ixW),
    row1 2 8 (.ldR08R08 .afH .afH), row1 2 8 (.addR08R08 .afH .bcH),
    row1 2 8 (.addR08R08 .afH .bcL), row1 2 8 (.addR08R08 .afH .deH),
    row1 2 8 (.addR08R08 .afH .deL), row1 2 8 (.addR08R08 .afH .ixH),
    row1 2 8 (.addR08R08 .afH .ixL),
    row1 5 19 (.addR08IndR16PlusI08 .afH .ixW),
    row1 2 8 (.addR08R08 .afH .afH), row1 2 8 (.adcR08R08 .afH .bcH),
    row1 2 8 (.adcR08R08 .afH .bcL), row1 2 8 (.adcR08R08 .afH .deH),
    row1 2 8 (.adcR08R08 .afH .deL), row1 2 8 (.adcR08R08 .afH .ixH),
    row1 2 8 (.adcR08R08 .afH .ixL),
    row1 5 19 (.adcR08IndR16PlusI08 .afH .ixW),
    row1 2 8 (.adcR08R08 .afH .afH), row1 2 8 (.subR08R08 .afH .bcH),
    row1 2 8 (.subR08R08 .afH .bcL), row1 2 8 (.subR08R08 .afH .deH),
    row1 2 8 (.subR08R08 .afH .deL), row1 2 8 (.subR08R08 .afH .ixH),
    row1 2 8 (.subR08R08 .afH .ixL),
    row1 5 19 (.subR08IndR16PlusI08 .afH .ixW),
    row1 2 8 (.subR08R08 .afH .afH), row1 2 8 (.sbcR08R08 .afH .bcH),
    row1 2 8 (.sbcR08R08 .afH .bcL), row1 2 8 (.sbcR08R08 .afH .deH),
    row1 2 8 (.sbcR08R08 .afH .deL), row1 2 8 (.sbcR08R08 .afH .ixH),
    row1 2 8 (.sbcR08R08 .afH .ixL),
    row1 5 19 (.sbcR08IndR16PlusI08 .afH .ixW),
    row1 2 8 (.sbcR08R08 .afH .afH), row1 2 8 (.andR08R08 .afH .bcH),
    row1 2 8 (.andR08R08 .afH .bcL), row1 2 8 (.andR08R08 .afH .deH),
    row1 2 8 (.andR08R08 .afH .deL), row1 2 8 (.andR08R08 .afH .ixH),
    row1 2 8 (.andR08R08 .afH .ixL),
    row1 5 19 (.andR08IndR16PlusI08 .afH .ixW),
    row1 2 8 (.andR08R08 .afH .afH), row1 2 8 (.xorR08R08 .afH .bcH),
    row1 2 8 (.xorR08R08 .afH .bcL), row1 2 8 (.xorR08R08 .afH .deH),
    row1 2 8 (.xorR08R08 .afH .deL), row1 2 8 (.xorR08R08 .afH .ixH),
    row1 2 8 (.xorR08R08 .afH .ixL),
    row1 5 19 (.xorR08IndR16PlusI08 .afH .ixW),
    row1 2 8 (.xorR08R08 .afH .afH), row1 2 8 (.orR08R08 .afH .bcH),
    row1 2 8 (.orR08R08 .afH .bcL), row1 2 8 (.orR08R08 .afH .deH),
    row1 2 8 (.orR08R08 .afH .deL), row1 2 8 (.orR08R08 .afH .ixH),
    row1 2 8 (.orR08R08 .afH .ixL), row1 5 19 (.orR08IndR16PlusI08 .afH .ixW),
    row1 2 8 (.orR08R08 .afH .afH), row1 2 8 (.cpR08R08 .afH .bcH),
    row1 2 8 (.cpR08R08 .afH .bcL), row1 2 8 (.cpR08R08 .afH .deH),
    row1 2 8 (.cpR08R08 .afH .deL), row1 2 8 (.cpR08R08 .afH .ixH),
    row1 2 8 (.cpR08R08 .afH .ixL), row1 5 19 (.cpR08IndR16PlusI08 .afH .ixW),
    row1 2 8 (.cpR08R08 .afH .afH), row1 2 9 .retNz, row1 4 14 (.popR16 .bcW),
    row1 4 14 .jpNzI16, row1 4 14 .jpI16, row1 4 14 .callNzI16,
    row1 4 15 (.pushR16 .bcW), row1 3 11 (.addR08I08 .afH),
    row1 4 15 (.rstVec16 VECTOR_00H), row1 2 9 .retZ, row1 4 14 .ret,
    row1 4 14 .jpZI16, goto1 2 8 .fetchDdcb, row1 4 14 .callZI16,
    row1 6 21 .callI16,
    row1 3 11 (.adcR08I08 .afH), row1 4 15 (.rstVec16 VECTOR_08H),
    row1 2 9 .retNc, row1 4 14 (.popR16 .deW), row1 4 14 .jpNcI16,
    row1 4 15 (.outIndI08R08 .afH), row1 4 14 .callNcI16,
    row1 4 15 (.pushR16 .deW), row1 3 11 (.subR08I08 .afH),
    row1 4 15 (.rstVec16 VECTOR_10H), row1 2 9 .retC, row1 2 8 .exx,
    row1 4 14 .jpCI16, row1 4 15 (.inR08IndI08 .afH), row1 4 14 .callCI16,
    row1 2 8 .nop, row1 3 11 (.sbcR08I08 .afH),
    row1 4 15 (.rstVec16 VECTOR_18H), row1 2 9 .retPo,
    row1 4 14 (.popR16 .ixW), row1 4 14 .jpPoI16,
    row1 6 23 (.exIndR16R16 .spW .ixW), row1 4 14 .callPoI16,
    row1 4 15 (.pushR16 .ixW), row1 3 11 (.andR08I08 .afH),
    row1 4 15 (.rstVec16 VECTOR_20H), row1 2 9 .retPe, row1 2 8 (.jpR16 .ixW),
    row1 4 14 .jpPeI16, row1 2 8 (.exR16R16 .deW .hlW), row1 4 14 .callPeI16,
    row1 2 8 .nop, row1 3 11 (.xorR08I08 .afH),
    row1 4 15 (.rstVec16 VECTOR_28H), row1 2 9 .retP,
    row1 4 14 (.popR16 .afW), row1 4 14 .jpPI16, row1 2 8 .di,
    row1 4 14 .callPI16, row1 4 15 (.pushR16 .afW),
    row1 3 11 (.orR08I08 .afH), row1 4 15 (.rstVec16 VECTOR_30H),
    row1 2 9 .retM, row1 2 10 (.ldR16R16 .spW .ixW), row1 4 14 .jpMI16,
    row1 2 8 .ei, row1 4 14 .callMI16, row1 2 8 .nop,
    row1 3 11 (.cpR08I08 .afH), row1 4 15 (.rstVec16 VECTOR_38H)]

/-- `cpu-opcodes-fd.inc` -/
def fd : List Entry :=
  [row1 2 8 .nop, row1 3 14 (.ldR16I16 .bcW),
    row1 3 11 (.ldIndR16R08 .bcW .afH), row1 2 10 (.incR16 .bcW),
    row1 2 8 (.incR08 .bcH), row1 2 8 (.decR08 .bcH),
    row1 3 11 (.ldR08I08 .bcH), row1 2 8 .rlca,
    row1 2 8 (.exR16R16 .afW .afP), row1 4 15 (.addR16R16 .iyW .bcW),
    row1 3 11 (.ldR08IndR16 .afH .bcW), row1 2 10 (.decR16 .bcW),
    row1 2 8 (.incR08 .bcL), row1 2 8 (.decR08 .bcL),
    row1 3 11 (.ldR08I08 .bcL), row1 2 8 .rrca, row1 3 12 .djnzI08,
    row1 3 14 (.ldR16I16 .deW), row1 3 11 (.ldIndR16R08 .deW .afH),
    row1 2 10 (.incR16 .deW), row1 2 8 (.incR08 .deH),
    row1 2 8 (.decR08 .deH), row1 3 11 (.ldR08I08 .deH), row1 2 8 .rla,
    row1 4 16 .jrI08, row1 4 15 (.addR16R16 .iyW .deW),
    row1 3 11 (.ldR08IndR16 .afH .deW), row1 2 10 (.decR16 .deW),
    row1 2 8 (.incR08 .deL), row1 2 8 (.decR08 .deL),
    row1 3 11 (.ldR08I08 .deL), row1 2 8 .rra, row1 3 11 .jrNzI08,
    row1 3 14 (.ldR16I16 .iyW), row1 6 20 (.ldIndI16R16 .iyW),
    row1 2 10 (.incR16 .iyW), row1 2 8 (.incR08 .iyH),
    row1 2 8 (.decR08 .iyH), row1 3 11 (.ldR08I08 .iyH), row1 2 8 .daa,
    row1 3 11 .jrZI08, row1 4 15 (.addR16R16 .iyW .iyW),
    row1 6 20 (.ldR16IndI16 .iyW), row1 2 10 (.decR16 .iyW),
    row1 2 8 (.incR08 .iyL), row1 2 8 (.decR08 .iyL),
    row1 3 11 (.ldR08I08 .iyL), row1 2 8 .cpl, row1 3 11 .jrNcI08,
    row1 3 14 (.ldR16I16 .spW), row1 5 17 (.ldIndI16R08 .afH),
    row1 2 10 (.incR16 .spW), row1 6 23 (.incIndR16PlusI08 .iyW),
    row1 6 23 (.decIndR16PlusI08 .iyW), row1 5 19 (.ldIndR16PlusI08I08 .iyW),
    row1 2 8 .scf, row1 3 11 .jrCI08, row1 4 15 (.addR16R16 .iyW .spW),
    row1 5 17 (.ldR08IndI16 .afH), row1 2 10 (.decR16 .spW),
    row1 2 8 (.incR08 .afH), row1 2 8 (.decR08 .afH),
    row1 3 11 (.ldR08I08 .afH), row1 2 8 .ccf, row1 2 8 (.ldR08R08 .bcH .bcH),
    row1 2 8 (.ldR08R08 .bcH .bcL), row1 2 8 (.ldR08R08 .bcH .deH),
    row1 2 8 (.ldR08R08 .bcH .deL), row1 2 8 (.ldR08R08 .bcH .iyH),
    row1 2 8 (.ldR08R08 .bcH .iyL), row1 5 19 (.ldR08IndR16PlusI08 .bcH .iyW),
    row1 2 8 (.ldR08R08 .bcH .afH), row1 2 8 (.ldR08R08 .bcL .bcH),
    row1 2 8 (.ldR08R08 .bcL .bcL), row1 2 8 (.ldR08R08 .bcL .deH),
    row1 2 8 (.ldR08R08 .bcL .deL), row1 2 8 (.ldR08R08 .bcL .iyH),
    row1 2 8 (.ldR08R08 .bcL .iyL), row1 5 19 (.ldR08IndR16PlusI08 .bcL .iyW),
    row1 2 8 (.ldR08R08 .bcL .afH), row1 2 8 (.ldR08R08 .deH .bcH),
    row1 2 8 (.ldR08R08 .deH .bcL), row1 2 8 (.ldR08R08 .deH .deH),
    row1 2 8 (.ldR08R08 .deH .deL), row1 2 8 (.ldR08R08 .deH .iyH),
    row1 2 8 (.ldR08R08 .deH .iyL), row1 5 19 (.ldR08IndR16PlusI08 .deH .iyW),
    row1 2 8 (.ldR08R08 .deH .afH), row1 2 8 (.ldR08R08 .deL .bcH),
    row1 2 8 (.ldR08R08 .deL .bcL), row1 2 8 (.ldR08R08 .deL .deH),
    row1 2 8 (.ldR08R08 .deL .deL), row1 2 8 (.ldR08R08 .deL .iyH),
    row1 2 8 (.ldR08R08 .deL .iyL), row1 5 19 (.ldR08IndR16PlusI08 .deL .iyW),
    row1 2 8 (.ldR08R08 .deL .afH), row1 2 8 (.ldR08R08 .iyH .bcH),
    row1 2 8 (.ldR08R08 .iyH .bcL), row1 2 8 (.ldR08R08 .iyH .deH),
    row1 2 8 (.ldR08R08 .iyH .deL), row1 2 8 (.ldR08R08 .iyH .iyH),
    row1 2 8 (.ldR08R08 .iyH .iyL), row1 5 19 (.ldR08IndR16PlusI08 .hlH .iyW),
    row1 2 8 (.ldR08R08 .iyH .afH), row1 2 8 (.ldR08R08 .iyL .bcH),
    row1 2 8 (.ldR08R08 .iyL .bcL), row1 2 8 (.ldR08R08 .iyL .deH),
    row1 2 8 (.ldR08R08 .iyL .deL), row1 2 8 (.ldR08R08 .iyL .iyH),
    row1 2 8 (.ldR08R08 .iyL .iyL), row1 5 19 (.ldR08IndR16PlusI08 .hlL .iyW),
    row1 2 8 (.ldR08R08 .iyL .afH), row1 5 19 (.ldIndR16PlusI08R08 .iyW .bcH),
    row1 5 19 (.ldIndR16PlusI08R08 .iyW .bcL),
    row1 5 19 (.ldIndR16PlusI08R08 .iyW .deH),
    row1 5 19 (.ldIndR16PlusI08R08 .iyW .deL),
    row1 5 19 (.ldIndR16PlusI08R08 .iyW .hlH),
    row1 5 19 (.ldIndR16PlusI08R08 .iyW .hlL), row1 2 8 .halt,
    row1 5 19 (.ldIndR16PlusI08R08 .iyW .afH), row1 2 8 (.ldR08R08 .afH .bcH),
    row1 2 8 (.ldR08R08 .afH .bcL), row1 2 8 (.ldR08R08 .afH .deH),
    row1 2 8 (.ldR08R08 .afH .deL), row1 2 8 (.ldR08R08 .afH .iyH),
    row1 2 8 (.ldR08R08 .afH .iyL), row1 5 19 (.ldR08IndR16PlusI08 .afH .iyW),
    row1 2 8 (.ldR08R08 .afH .afH), row1 2 8 (.addR08R08 .afH .bcH),
    row1 2 8 (.addR08R08 .afH .bcL), row1 2 8 (.addR08R08 .afH .deH),
    row1 2 8 (.addR08R08 .afH .deL), row1 2 8 (.addR08R08 .afH .iyH),
    row1 2 8 (.addR08R08 .afH .iyL),
    row1 5 19 (.addR08IndR16PlusI08 .afH .iyW),
    row1 2 8 (.addR08R08 .afH .afH), row1 2 8 (.adcR08R08 .afH .bcH),
    row1 2 8 (.adcR08R08 .afH .bcL), row1 2 8 (.adcR08R08 .afH .deH),
    row1 2 8 (.adcR08R08 .afH .deL), row1 2 8 (.adcR08R08 .afH .iyH),
    row1 2 8 (.adcR08R08 .afH .iyL),
    row1 5 19 (.adcR08IndR16PlusI08 .afH .iyW),
    row1 2 8 (.adcR08R08 .afH .afH), row1 2 8 (.subR08R08 .afH .bcH),
    row1 2 8 (.subR08R08 .afH .bcL), row1 2 8 (.subR08R08 .afH .deH),
    row1 2 8 (.subR08R08 .afH .deL), row1 2 8 (.subR08R08 .afH .iyH),
    row1 2 8 (.subR08R08 .afH .iyL),
    row1 5 19 (.subR08IndR16PlusI08 .afH .iyW),
    row1 2 8 (.subR08R08 .afH .afH), row1 2 8 (.sbcR08R08 .afH .bcH),
    row1 2 8 (.sbcR08R08 .afH .bcL), row1 2 8 (.sbcR08R08 .afH .deH),
    row1 2 8 (.sbcR08R08 .afH .deL), row1 2 8 (.sbcR08R08 .afH .iyH),
    row1 2 8 (.sbcR08R08 .afH .iyL),
    row1 5 19 (.sbcR08IndR16PlusI08 .afH .iyW),
    row1 2 8 (.sbcR08R08 .afH .afH), row1 2 8 (.andR08R08 .afH .bcH),
    row1 2 8 (.andR08R08 .afH .bcL), row1 2 8 (.andR08R08 .afH .deH),
    row1 2 8 (.andR08R08 .afH .deL), row1 2 8 (.andR08R08 .afH .iyH),
    row1 2 8 (.andR08R08 .afH .iyL),
    row1 5 19 (.andR08IndR16PlusI08 .afH .iyW),
    row1 2 8 (.andR08R08 .afH .afH), row1 2 8 (.xorR08R08 .afH .bcH),
    row1 2 8 (.xorR08R08 .afH .bcL), row1 2 8 (.xorR08R08 .afH .deH),
    row1 2 8 (.xorR08R08 .afH .deL), row1 2 8 (.xorR08R08 .afH .iyH),
    row1 2 8 (.xorR08R08 .afH .iyL),
    row1 5 19 (.xorR08IndR16PlusI08 .afH .iyW),
    row1 2 8 (.xorR08R08 .afH .afH), row1 2 8 (.orR08R08 .afH .bcH),
    row1 2 8 (.orR08R08 .afH .bcL), row1 2 8 (.orR08R08 .afH .deH),
    row1 2 8 (.orR08R08 .afH .deL), row1 2 8 (.orR08R08 .afH .iyH),
    row1 2 8 (.orR08R08 .afH .iyL), row1 5 19 (.orR08IndR16PlusI08 .afH .iyW),
    row1 2 8 (.orR08R08 .afH .afH), row1 2 8 (.cpR08R08 .afH .bcH),
    row1 2 8 (.cpR08R08 .afH .bcL), row1 2 8 (.cpR08R08 .afH .deH),
    row1 2 8 (.cpR08R08 .afH .deL), row1 2 8 (.cpR08R08 .afH .iyH),
    row1 2 8 (.cpR08R08 .afH .iyL), row1 5 19 (.cpR08IndR16PlusI08 .afH .iyW),
    row1 2 8 (.cpR08R08 .afH .afH), row1 2 9 .retNz, row1 4 14 (.popR16 .bcW),
    row1 4 14 .jpNzI16, row1 4 14 .jpI16, row1 4 14 .callNzI16,
    row1 4 15 (.pushR16 .bcW), row1 3 11 (.addR08I08 .afH),
    row1 4 15 (.rstVec16 VECTOR_00H), row1 2 9 .retZ, row1 4 14 .ret,
    row1 4 14 .jpZI16, goto1 2 8 .fetchFdcb, row1 4 14 .callZI16,
    row1 6 21 .callI16,
    row1 3 11 (.adcR08I08 .afH), row1 4 15 (.rstVec16 VECTOR_08H),
    row1 2 9 .retNc, row1 4 14 (.popR16 .deW), row1 4 14 .jpNcI16,
    row1 4 15 (.outIndI08R08 .afH), row1 4 14 .callNcI16,
    row1 4 15 (.pushR16 .deW), row1 3 11 (.subR08I08 .afH),
    row1 4 15 (.rstVec16 VECTOR_10H), row1 2 9 .retC, row1 2 8 .exx,
    row1 4 14 .jpCI16, row1 4 15 (.inR08IndI08 .afH), row1 4 14 .callCI16,
    row1 2 8 .nop, row1 3 11 (.sbcR08I08 .afH),
    row1 4 15 (.rstVec16 VECTOR_18H), row1 2 9 .retPo,
    row1 4 14 (.popR16 .iyW), row1 4 14 .jpPoI16,
    row1 6 23 (.exIndR16R16 .spW .iyW), row1 4 14 .callPoI16,
    row1 4 15 (.pushR16 .iyW), row1 3 11 (.andR08I08 .afH),
    row1 4 15 (.rstVec16 VECTOR_20H), row1 2 9 .retPe, row1 2 8 (.jpR16 .iyW),
    row1 4 14 .jpPeI16, row1 2 8 (.exR16R16 .deW .hlW), row1 4 14 .callPeI16,
    row1 2 8 .nop, row1 3 11 (.xorR08I08 .afH),
    row1 4 15 (.rstVec16 VECTOR_28H), row1 2 9 .retP,
    row1 4 14 (.popR16 .afW), row1 4 14 .jpPI16, row1 2 8 .di,
    row1 4 14 .callPI16, row1 4 15 (.pushR16 .afW),
    row1 3 11 (.orR08I08 .afH), row1 4 15 (.rstVec16 VECTOR_30H),
    row1 2 9 .retM, row1 2 10 (.ldR16R16 .spW .iyW), row1 4 14 .jpMI16,
    row1 2 8 .ei, row1 4 14 .callMI16, row1 2 8 .nop,
    row1 3 11 (.cpR08I08 .afH), row1 4 15 (.rstVec16 VECTOR_38H)]

/-- `cpu-opcodes-ddcb.inc` -/
def ddcb : List Entry :=
  [row2 6 23 (.rlcIndR16PlusI08R08 .ixW .bcH),
    row2 6 23 (.rlcIndR16PlusI08R08 .ixW .bcL),
    row2 6 23 (.rlcIndR16PlusI08R08 .ixW .deH),
    row2 6 23 (.rlcIndR16PlusI08R08 .ixW .deL),
    row2 6 23 (.rlcIndR16PlusI08R08 .ixW .hlH),
    row2 6 23 (.rlcIndR16PlusI08R08 .ixW .hlL),
    row2 6 23 (.rlcIndR16PlusI08 .ixW),
    row2 6 23 (.rlcIndR16PlusI08R08 .ixW .afH),
    row2 6 23 (.rrcIndR16PlusI08R08 .ixW .bcH),
    row2 6 23 (.rrcIndR16PlusI08R08 .ixW .bcL),
    row2 6 23 (.rrcIndR16PlusI08R08 .ixW .deH),
    row2 6 23 (.rrcIndR16PlusI08R08 .ixW .deL),
    row2 6 23 (.rrcIndR16PlusI08R08 .ixW .hlH),
    row2 6 23 (.rrcIndR16PlusI08R08 .ixW .hlL),
    row2 6 23 (.rrcIndR16PlusI08 .ixW),
    row2 6 23 (.rrcIndR16PlusI08R08 .ixW .afH),
    row2 6 23 (.rlIndR16PlusI08R08 .ixW .bcH),
    row2 6 23 (.rlIndR16PlusI08R08 .ixW .bcL),
    row2 6 23 (.rlIndR16PlusI08R08 .ixW .deH),
    row2 6 23 (.rlIndR16PlusI08R08 .ixW .deL),
    row2 6 23 (.rlIndR16PlusI08R08 .ixW .hlH),
    row2 6 23 (.rlIndR16PlusI08R08 .ixW .hlL),
    row2 6 23 (.rlIndR16PlusI08 .ixW),
    row2 6 23 (.rlIndR16PlusI08R08 .ixW .afH),
    row2 6 23 (.rrIndR16PlusI08R08 .ixW .bcH),
    row2 6 23 (.rrIndR16PlusI08R08 .ixW .bcL),
    row2 6 23 (.rrIndR16PlusI08R08 .ixW .deH),
    row2 6 23 (.rrIndR16PlusI08R08 .ixW .deL),
    row2 6 23 (.rrIndR16PlusI08R08 .ixW .hlH),
    row2 6 23 (.rrIndR16PlusI08R08 .ixW .hlL),
    row2 6 23 (.rrIndR16PlusI08 .ixW),
    row2 6 23 (.rrIndR16PlusI08R08 .ixW .afH),
    row2 6 23 (.slaIndR16PlusI08R08 .ixW .bcH),
    row2 6 23 (.slaIndR16PlusI08R08 .ixW .bcL),
    row2 6 23 (.slaIndR16PlusI08R08 .ixW .deH),
    row2 6 23 (.slaIndR16PlusI08R08 .ixW .deL),
    row2 6 23 (.slaIndR16PlusI08R08 .ixW .hlH),
    row2 6 23 (.slaIndR16PlusI08R08 .ixW .hlL),
    row2 6 23 (.slaIndR16PlusI08 .ixW),
    row2 6 23 (.slaIndR16PlusI08R08 .ixW .afH),
    row2 6 23 (.sraIndR16PlusI08R08 .ixW .bcH),
    row2 6 23 (.sraIndR16PlusI08R08 .ixW .bcL),
    row2 6 23 (.sraIndR16PlusI08R08 .ixW .deH),
    row2 6 23 (.sraIndR16PlusI08R08 .ixW .deL),
    row2 6 23 (.sraIndR16PlusI08R08 .ixW .hlH),
    row2 6 23 (.sraIndR16PlusI08R08 .ixW .hlL),
    row2 6 23 (.sraIndR16PlusI08 .ixW),
    row2 6 23 (.sraIndR16PlusI08R08 .ixW .afH),
    row2 6 23 (.sllIndR16PlusI08R08 .ixW .bcH),
    row2 6 23 (.sllIndR16PlusI08R08 .ixW .bcL),
    row2 6 23 (.sllIndR16PlusI08R08 .ixW .deH),
    row2 6 23 (.sllIndR16PlusI08R08 .ixW .deL),
    row2 6 23 (.sllIndR16PlusI08R08 .ixW .hlH),
    row2 6 23 (.sllIndR16PlusI08R08 .ixW .hlL),
    row2 6 23 (.sllIndR16PlusI08 .ixW),
    row2 6 23 (.sllIndR16PlusI08R08 .ixW .afH),
    row2 6 23 (.srlIndR16PlusI08R08 .ixW .bcH),
    row2 6 23 (.srlIndR16PlusI08R08 .ixW .bcL),
    row2 6 23 (.srlIndR16PlusI08R08 .ixW .deH),
    row2 6 23 (.srlIndR16PlusI08R08 .ixW .deL),
    row2 6 23 (.srlIndR16PlusI08R08 .ixW .hlH),
    row2 6 23 (.srlIndR16PlusI08R08 .ixW .hlL),
    row2 6 23 (.srlIndR16PlusI08 .ixW),
    row2 6 23 (.srlIndR16PlusI08R08 .ixW .afH),
    row2 5 20 (.bitBIndR16PlusI08 BIT0 .ixW),
    row2 5 20 (.bitBIndR16PlusI08 BIT0 .ixW),
    row2 5 20 (.bitBIndR16PlusI08 BIT0 .ixW),
    row2 5 20 (.bitBIndR16PlusI08 BIT0 .ixW),
    row2 5 20 (.bitBIndR16PlusI08 BIT0 .ixW),
    row2 5 20 (.bitBIndR16PlusI08 BIT0 .ixW),
    row2 5 20 (.bitBIndR16PlusI08 BIT0 .ixW),
    row2 5 20 (.bitBIndR16PlusI08 BIT0 .ixW),
    row2 5 20 (.bitBIndR16PlusI08 BIT1 .ixW),
    row2 5 20 (.bitBIndR16PlusI08 BIT1 .ixW),
    row2 5 20 (.bitBIndR16PlusI08 BIT1 .ixW),
    row2 5 20 (.bitBIndR16PlusI08 BIT1 .ixW),
    row2 5 20 (.bitBIndR16PlusI08 BIT1 .ixW),
    row2 5 20 (.bitBIndR16PlusI08 BIT1 .ixW),
    row2 5 20 (.bitBIndR16PlusI08 BIT1 .ixW),
    row2 5 20 (.bitBIndR16PlusI08 BIT1 .ixW),
    row2 5 20 (.bitBIndR16PlusI08 BIT2 .ixW),
    row2 5 20 (.bitBIndR16PlusI08 BIT2 .ixW),
    row2 5 20 (.bitBIndR16PlusI08 BIT2 .ixW),
    row2 5 20 (.bitBIndR16PlusI08 BIT2 .ixW),
    row2 5 20 (.bitBIndR16PlusI08 BIT2 .ixW),
    row2 5 20 (.bitBIndR16PlusI08 BIT2 .ixW),
    row2 5 20 (.bitBIndR16PlusI08 BIT2 .ixW),
    row2 5 20 (.bitBIndR16PlusI08 BIT2 .ixW),
    row2 5 20 (.bitBIndR16PlusI08 BIT3 .ixW),
    row2 5 20 (.bitBIndR16PlusI08 BIT3 .ixW),
    row2 5 20 (.bitBIndR16PlusI08 BIT3 .ixW),
    row2 5 20 (.bitBIndR16PlusI08 BIT3 .ixW),
    row2 5 20 (.bitBIndR16PlusI08 BIT3 .ixW),
    row2 5 20 (.bitBIndR16PlusI08 BIT3 .ixW),
    row2 5 20 (.bitBIndR16PlusI08 BIT3 .ixW),
    row2 5 20 (.bitBIndR16PlusI08 BIT3 .ixW),
    row2 5 20 (.bitBIndR16PlusI08 BIT4 .ixW),
    row2 5 20 (.bitBIndR16PlusI08 BIT4 .ixW),
    row2 5 20 (.bitBIndR16PlusI08 BIT4 .ixW),
    row2 5 20 (.bitBIndR16PlusI08 BIT4 .ixW),
    row2 5 20 (.bitBIndR16PlusI08 BIT4 .ixW),
    row2 5 20 (.bitBIndR16PlusI08 BIT4 .ixW),
    row2 5 20 (.bitBIndR16PlusI08 BIT4 .ixW),
    row2 5 20 (.bitBIndR16PlusI08 BIT4 .ixW),
    row2 5 20 (.bitBIndR16PlusI08 BIT5 .ixW),
    row2 5 20 (.bitBIndR16PlusI08 BIT5 .ixW),
    row2 5 20 (.bitBIndR16PlusI08 BIT5 .ixW),
    row2 5 20 (.bitBIndR16PlusI08 BIT5 .ixW),
    row2 5 20 (.bitBIndR16PlusI08 BIT5 .ixW),
    row2 5 20 (.bitBIndR16PlusI08 BIT5 .ixW),
    row2 5 20 (.bitBIndR16PlusI08 BIT5 .ixW),
    row2 5 20 (.bitBIndR16PlusI08 BIT5 .ixW),
    row2 5 20 (.bitBIndR16PlusI08 BIT6 .ixW),
    row2 5 20 (.bitBIndR16PlusI08 BIT6 .ixW),
    row2 5 20 (.bitBIndR16PlusI08 BIT6 .ixW),
    row2 5 20 (.bitBIndR16PlusI08 BIT6 .ixW),
    row2 5 20 (.bitBIndR16PlusI08 BIT6 .ixW),
    row2 5 20 (.bitBIndR16PlusI08 BIT6 .ixW),
    row2 5 20 (.bitBIndR16PlusI08 BIT6 .ixW),
    row2 5 20 (.bitBIndR16PlusI08 BIT6 .ixW),
    row2 5 20 (.bitBIndR16PlusI08 BIT7 .ixW),
    row2 5 20 (.bitBIndR16PlusI08 BIT7 .ixW),
    row2 5 20 (.bitBIndR16PlusI08 BIT7 .ixW),
    row2 5 20 (.bitBIndR16PlusI08 BIT7 .ixW),
    row2 5 20 (.bitBIndR16PlusI08 BIT7 .ixW),
    row2 5 20 (.bitBIndR16PlusI08 BIT7 .ixW),
    row2 5 20 (.bitBIndR16PlusI08 BIT7 .ixW),
    row2 5 20 (.bitBIndR16PlusI08 BIT7 .ixW),
    row2 6 23 (.resBIndR16PlusI08R08 BIT0 .ixW .bcH),
    row2 6 23 (.resBIndR16PlusI08R08 BIT0 .ixW .bcL),
    row2 6 23 (.resBIndR16PlusI08R08 BIT0 .ixW .deH),
    row2 6 23 (.resBIndR16PlusI08R08 BIT0 .ixW .deL),
    row2 6 23 (.resBIndR16PlusI08R08 BIT0 .ixW .hlH),
    row2 6 23 (.resBIndR16PlusI08R08 BIT0 .ixW .hlL),
    row2 6 23 (.resBIndR16PlusI08 BIT0 .ixW),
    row2 6 23 (.resBIndR16PlusI08R08 BIT0 .ixW .afH),
    row2 6 23 (.resBIndR16PlusI08R08 BIT1 .ixW .bcH),
    row2 6 23 (.resBIndR16PlusI08R08 BIT1 .ixW .bcL),
    row2 6 23 (.resBIndR16PlusI08R08 BIT1 .ixW .deH),
    row2 6 23 (.resBIndR16PlusI08R08 BIT1 .ixW .deL),
    row2 6 23 (.resBIndR16PlusI08R08 BIT1 .ixW .hlH),
    row2 6 23 (.resBIndR16PlusI08R08 BIT1 .ixW .hlL),
    row2 6 23 (.resBIndR16PlusI08 BIT1 .ixW),
    row2 6 23 (.resBIndR16PlusI08R08 BIT1 .ixW .afH),
    row2 6 23 (.resBIndR16PlusI08R08 BIT2 .ixW .bcH),
    row2 6 23 (.resBIndR16PlusI08R08 BIT2 .ixW .bcL),
    row2 6 23 (.resBIndR16PlusI08R08 BIT2 .ixW .deH),
    row2 6 23 (.resBIndR16PlusI08R08 BIT2 .ixW .deL),
    row2 6 23 (.resBIndR16PlusI08R08 BIT2 .ixW .hlH),
    row2 6 23 (.resBIndR16PlusI08R08 BIT2 .ixW .hlL),
    row2 6 23 (.resBIndR16PlusI08 BIT2 .ixW),
    row2 6 23 (.resBIndR16PlusI08R08 BIT2 .ixW .afH),
    row2 6 23 (.resBIndR16PlusI08R08 BIT3 .ixW .bcH),
    row2 6 23 (.resBIndR16PlusI08R08 BIT3 .ixW .bcL),
    row2 6 23 (.resBIndR16PlusI08R08 BIT3 .ixW .deH),
    row2 6 23 (.resBIndR16PlusI08R08 BIT3 .ixW .deL),
    row2 6 23 (.resBIndR16PlusI08R08 BIT3 .ixW .hlH),
    row2 6 23 (.resBIndR16PlusI08R08 BIT3 .ixW .hlL),
    row2 6 23 (.resBIndR16PlusI08 BIT3 .ixW),
    row2 6 23 (.resBIndR16PlusI08R08 BIT3 .ixW .afH),
    row2 6 23 (.resBIndR16PlusI08R08 BIT4 .ixW .bcH),
    row2 6 23 (.resBIndR16PlusI08R08 BIT4 .ixW .bcL),
    row2 6 23 (.resBIndR16PlusI08R08 BIT4 .ixW .deH),
    row2 6 23 (.resBIndR16PlusI08R08 BIT4 .ixW .deL),
    row2 6 23 (.resBIndR16PlusI08R08 BIT4 .ixW .hlH),
    row2 6 23 (.resBIndR16PlusI08R08 BIT4 .ixW .hlL),
    row2 6 23 (.resBIndR16PlusI08 BIT4 .ixW),
    row2 6 23 (.resBIndR16PlusI08R08 BIT4 .ixW .afH),
    row2 6 23 (.resBIndR16PlusI08R08 BIT5 .ixW .bcH),
    row2 6 23 (.resBIndR16PlusI08R08 BIT5 .ixW .bcL),
    row2 6 23 (.resBIndR16PlusI08R08 BIT5 .ixW .deH),
    row2 6 23 (.resBIndR16PlusI08R08 BIT5 .ixW .deL),
    row2 6 23 (.resBIndR16PlusI08R08 BIT5 .ixW .hlH),
    row2 6 23 (.resBIndR16PlusI08R08 BIT5 .ixW .hlL),
    row2 6 23 (.resBIndR16PlusI08 BIT5 .ixW),
    row2 6 23 (.resBIndR16PlusI08R08 BIT5 .ixW .afH),
    row2 6 23 (.resBIndR16PlusI08R08 BIT6 .ixW .bcH),
    row2 6 23 (.resBIndR16PlusI08R08 BIT6 .ixW .bcL),
    row2 6 23 (.resBIndR16PlusI08R08 BIT6 .ixW .deH),
    row2 6 23 (.resBIndR16PlusI08R08 BIT6 .ixW .deL),
    row2 6 23 (.resBIndR16PlusI08R08 BIT6 .ixW .hlH),
    row2 6 23 (.resBIndR16PlusI08R08 BIT6 .ixW .hlL),
    row2 6 23 (.resBIndR16PlusI08 BIT6 .ixW),
    row2 6 23 (.resBIndR16PlusI08R08 BIT6 .ixW .afH),
    row2 6 23 (.resBIndR16PlusI08R08 BIT7 .ixW .bcH),
    row2 6 23 (.resBIndR16PlusI08R08 BIT7 .ixW .bcL),
    row2 6 23 (.resBIndR16PlusI08R08 BIT7 .ixW .deH),
    row2 6 23 (.resBIndR16PlusI08R08 BIT7 .ixW .deL),
    row2 6 23 (.resBIndR16PlusI08R08 BIT7 .ixW .hlH),
    row2 6 23 (.resBIndR16PlusI08R08 BIT7 .ixW .hlL),
    row2 6 23 (.resBIndR16PlusI08 BIT7 .ixW),
    row2 6 23 (.resBIndR16PlusI08R08 BIT7 .ixW .afH),
    row2 6 23 (.setBIndR16PlusI08R08 BIT0 .ixW .bcH),
    row2 6 23 (.setBIndR16PlusI08R08 BIT0 .ixW .bcL),
    row2 6 23 (.setBIndR16PlusI08R08 BIT0 .ixW .deH),
    row2 6 23 (.setBIndR16PlusI08R08 BIT0 .ixW .deL),
    row2 6 23 (.setBIndR16PlusI08R08 BIT0 .ixW .hlH),
    row2 6 23 (.setBIndR16PlusI08R08 BIT0 .ixW .hlL),
    row2 6 23 (.setBIndR16PlusI08 BIT0 .ixW),
    row2 6 23 (.setBIndR16PlusI08R08 BIT0 .ixW .afH),
    row2 6 23 (.setBIndR16PlusI08R08 BIT1 .ixW .bcH),
    row2 6 23 (.setBIndR16PlusI08R08 BIT1 .ixW .bcL),
    row2 6 23 (.setBIndR16PlusI08R08 BIT1 .ixW .deH),
    row2 6 23 (.setBIndR16PlusI08R08 BIT1 .ixW .deL),
    row2 6 23 (.setBIndR16PlusI08R08 BIT1 .ixW .hlH),
    row2 6 23 (.setBIndR16PlusI08R08 BIT1 .ixW .hlL),
    row2 6 23 (.setBIndR16PlusI08 BIT1 .ixW),
    row2 6 23 (.setBIndR16PlusI08R08 BIT1 .ixW .afH),
    row2 6 23 (.setBIndR16PlusI08R08 BIT2 .ixW .bcH),
    row2 6 23 (.setBIndR16PlusI08R08 BIT2 .ixW .bcL),
    row2 6 23 (.setBIndR16PlusI08R08 BIT2 .ixW .deH),
    row2 6 23 (.setBIndR16PlusI08R08 BIT2 .ixW .deL),
    row2 6 23 (.setBIndR16PlusI08R08 BIT2 .ixW .hlH),
    row2 6 23 (.setBIndR16PlusI08R08 BIT2 .ixW .hlL),
    row2 6 23 (.setBIndR16PlusI08 BIT2 .ixW),
    row2 6 23 (.setBIndR16PlusI08R08 BIT2 .ixW .afH),
    row2 6 23 (.setBIndR16PlusI08R08 BIT3 .ixW .bcH),
    row2 6 23 (.setBIndR16PlusI08R08 BIT3 .ixW .bcL),
    row2 6 23 (.setBIndR16PlusI08R08 BIT3 .ixW .deH),
    row2 6 23 (.setBIndR16PlusI08R08 BIT3 .ixW .deL),
    row2 6 23 (.setBIndR16PlusI08R08 BIT3 .ixW .hlH),
    row2 6 23 (.setBIndR16PlusI08R08 BIT3 .ixW .hlL),
    row2 6 23 (.setBIndR16PlusI08 BIT3 .ixW),
    row2 6 23 (.setBIndR16PlusI08R08 BIT3 .ixW .afH),
    row2 6 23 (.setBIndR16PlusI08R08 BIT4 .ixW .bcH),
    row2 6 23 (.setBIndR16PlusI08R08 BIT4 .ixW .bcL),
    row2 6 23 (.setBIndR16PlusI08R08 BIT4 .ixW .deH),
    row2 6 23 (.setBIndR16PlusI08R08 BIT4 .ixW .deL),
    row2 6 23 (.setBIndR16PlusI08R08 BIT4 .ixW .hlH),
    row2 6 23 (.setBIndR16PlusI08R08 BIT4 .ixW .hlL),
    row2 6 23 (.setBIndR16PlusI08 BIT4 .ixW),
    row2 6 23 (.setBIndR16PlusI08R08 BIT4 .ixW .afH),
    row2 6 23 (.setBIndR16PlusI08R08 BIT5 .ixW .bcH),
    row2 6 23 (.setBIndR16PlusI08R08 BIT5 .ixW .bcL),
    row2 6 23 (.setBIndR16PlusI08R08 BIT5 .ixW .deH),
    row2 6 23 (.setBIndR16PlusI08R08 BIT5 .ixW .deL),
    row2 6 23 (.setBIndR16PlusI08R08 BIT5 .ixW .hlH),
    row2 6 23 (.setBIndR16PlusI08R08 BIT5 .ixW .hlL),
    row2 6 23 (.setBIndR16PlusI08 BIT5 .ixW),
    row2 6 23 (.setBIndR16PlusI08R08 BIT5 .ixW .afH),
    row2 6 23 (.setBIndR16PlusI08R08 BIT6 .ixW .bcH),
    row2 6 23 (.setBIndR16PlusI08R08 BIT6 .ixW .bcL),
    row2 6 23 (.setBIndR16PlusI08R08 BIT6 .ixW .deH),
    row2 6 23 (.setBIndR16PlusI08R08 BIT6 .ixW .deL),
    row2 6 23 (.setBIndR16PlusI08R08 BIT6 .ixW .hlH),
    row2 6 23 (.setBIndR16PlusI08R08 BIT6 .ixW .hlL),
    row2 6 23 (.setBIndR16PlusI08 BIT6 .ixW),
    row2 6 23 (.setBIndR16PlusI08R08 BIT6 .ixW .afH),
    row2 6 23 (.setBIndR16PlusI08R08 BIT7 .ixW .bcH),
    row2 6 23 (.setBIndR16PlusI08R08 BIT7 .ixW .bcL),
    row2 6 23 (.setBIndR16PlusI08R08 BIT7 .ixW .deH),
    row2 6 23 (.setBIndR16PlusI08R08 BIT7 .ixW .deL),
    row2 6 23 (.setBIndR16PlusI08R08 BIT7 .ixW .hlH),
    row2 6 23 (.setBIndR16PlusI08R08 BIT7 .ixW .hlL),
    row2 6 23 (.setBIndR16PlusI08 BIT7 .ixW),
    row2 6 23 (.setBIndR16PlusI08R08 BIT7 .ixW .afH)]

/-- `cpu-opcodes-fdcb.inc` -/
def fdcb : List Entry :=
  [row2 6 23 (.rlcIndR16PlusI08R08 .iyW .bcH),
    row2 6 23 (.rlcIndR16PlusI08R08 .iyW .bcL),
    row2 6 23 (.rlcIndR16PlusI08R08 .iyW .deH),
    row2 6 23 (.rlcIndR16PlusI08R08 .iyW .deL),
    row2 6 23 (.rlcIndR16PlusI08R08 .iyW .hlH),
    row2 6 23 (.rlcIndR16PlusI08R08 .iyW .hlL),
    row2 6 23 (.rlcIndR16PlusI08 .iyW),
    row2 6 23 (.rlcIndR16PlusI08R08 .iyW .afH),
    row2 6 23 (.rrcIndR16PlusI08R08 .iyW .bcH),
    row2 6 23 (.rrcIndR16PlusI08R08 .iyW .bcL),
    row2 6 23 (.rrcIndR16PlusI08R08 .iyW .deH),
    row2 6 23 (.rrcIndR16PlusI08R08 .iyW .deL),
    row2 6 23 (.rrcIndR16PlusI08R08 .iyW .hlH),
    row2 6 23 (.rrcIndR16PlusI08R08 .iyW .hlL),
    row2 6 23 (.rrcIndR16PlusI08 .iyW),
    row2 6 23 (.rrcIndR16PlusI08R08 .iyW .afH),
    row2 6 23 (.rlIndR16PlusI08R08 .iyW .bcH),
    row2 6 23 (.rlIndR16PlusI08R08 .iyW .bcL),
    row2 6 23 (.rlIndR16PlusI08R08 .iyW .deH),
    row2 6 23 (.rlIndR16PlusI08R08 .iyW .deL),
    row2 6 23 (.rlIndR16PlusI08R08 .iyW .hlH),
    row2 6 23 (.rlIndR16PlusI08R08 .iyW .hlL),
    row2 6 23 (.rlIndR16PlusI08 .iyW),
    row2 6 23 (.rlIndR16PlusI08R08 .iyW .afH),
    row2 6 23 (.rrIndR16PlusI08R08 .iyW .bcH),
    row2 6 23 (.rrIndR16PlusI08R08 .iyW .bcL),
    row2 6 23 (.rrIndR16PlusI08R08 .iyW .deH),
    row2 6 23 (.rrIndR16PlusI08R08 .iyW .deL),
    row2 6 23 (.rrIndR16PlusI08R08 .iyW .hlH),
    row2 6 23 (.rrIndR16PlusI08R08 .iyW .hlL),
    row2 6 23 (.rrIndR16PlusI08 .iyW),
    row2 6 23 (.rrIndR16PlusI08R08 .iyW .afH),
    row2 6 23 (.slaIndR16PlusI08R08 .iyW .bcH),
    row2 6 23 (.slaIndR16PlusI08R08 .iyW .bcL),
    row2 6 23 (.slaIndR16PlusI08R08 .iyW .deH),
    row2 6 23 (.slaIndR16PlusI08R08 .iyW .deL),
    row2 6 23 (.slaIndR16PlusI08R08 .iyW .hlH),
    row2 6 23 (.slaIndR16PlusI08R08 .iyW .hlL),
    row2 6 23 (.slaIndR16PlusI08 .iyW),
    row2 6 23 (.slaIndR16PlusI08R08 .iyW .afH),
    row2 6 23 (.sraIndR16PlusI08R08 .iyW .bcH),
    row2 6 23 (.sraIndR16PlusI08R08 .iyW .bcL),
    row2 6 23 (.sraIndR16PlusI08R08 .iyW .deH),
    row2 6 23 (.sraIndR16PlusI08R08 .iyW .deL),
    row2 6 23 (.sraIndR16PlusI08R08 .iyW .hlH),
    row2 6 23 (.sraIndR16PlusI08R08 .iyW .hlL),
    row2 6 23 (.sraIndR16PlusI08 .iyW),
    row2 6 23 (.sraIndR16PlusI08R08 .iyW .afH),
    row2 6 23 (.sllIndR16PlusI08R08 .iyW .bcH),
    row2 6 23 (.sllIndR16PlusI08R08 .iyW .bcL),
    row2 6 23 (.sllIndR16PlusI08R08 .iyW .deH),
    row2 6 23 (.sllIndR16PlusI08R08 .iyW .deL),
    row2 6 23 (.sllIndR16PlusI08R08 .iyW .hlH),
    row2 6 23 (.sllIndR16PlusI08R08 .iyW .hlL),
    row2 6 23 (.sllIndR16PlusI08 .iyW),
    row2 6 23 (.sllIndR16PlusI08R08 .iyW .afH),
    row2 6 23 (.srlIndR16PlusI08R08 .iyW .bcH),
    row2 6 23 (.srlIndR16PlusI08R08 .iyW .bcL),
    row2 6 23 (.srlIndR16PlusI08R08 .iyW .deH),
    row2 6 23 (.srlIndR16PlusI08R08 .iyW .deL),
    row2 6 23 (.srlIndR16PlusI08R08 .iyW .hlH),
    row2 6 23 (.srlIndR16PlusI08R08 .iyW .hlL),
    row2 6 23 (.srlIndR16PlusI08 .iyW),
    row2 6 23 (.srlIndR16PlusI08R08 .iyW .afH),
    row2 5 20 (.bitBIndR16PlusI08 BIT0 .iyW),
    row2 5 20 (.bitBIndR16PlusI08 BIT0 .iyW),
    row2 5 20 (.bitBIndR16PlusI08 BIT0 .iyW),
    row2 5 20 (.bitBIndR16PlusI08 BIT0 .iyW),
    row2 5 20 (.bitBIndR16PlusI08 BIT0 .iyW),
    row2 5 20 (.bitBIndR16PlusI08 BIT0 .iyW),
    row2 5 20 (.bitBIndR16PlusI08 BIT0 .iyW),
    row2 5 20 (.bitBIndR16PlusI08 BIT0 .iyW),
    row2 5 20 (.bitBIndR16PlusI08 BIT1 .iyW),
    row2 5 20 (.bitBIndR16PlusI08 BIT1 .iyW),
    row2 5 20 (.bitBIndR16PlusI08 BIT1 .iyW),
    row2 5 20 (.bitBIndR16PlusI08 BIT1 .iyW),
    row2 5 20 (.bitBIndR16PlusI08 BIT1 .iyW),
    row2 5 20 (.bitBIndR16PlusI08 BIT1 .iyW),
    row2 5 20 (.bitBIndR16PlusI08 BIT1 .iyW),
    row2 5 20 (.bitBIndR16PlusI08 BIT1 .iyW),
    row2 5 20 (.bitBIndR16PlusI08 BIT2 .iyW),
    row2 5 20 (.bitBIndR16PlusI08 BIT2 .iyW),
    row2 5 20 (.bitBIndR16PlusI08 BIT2 .iyW),
    row2 5 20 (.bitBIndR16PlusI08 BIT2 .iyW),
    row2 5 20 (.bitBIndR16PlusI08 BIT2 .iyW),
    row2 5 20 (.bitBIndR16PlusI08 BIT2 .iyW),
    row2 5 20 (.bitBIndR16PlusI08 BIT2 .iyW),
    row2 5 20 (.bitBIndR16PlusI08 BIT2 .iyW),
    row2 5 20 (.bitBIndR16PlusI08 BIT3 .iyW),
    row2 5 20 (.bitBIndR16PlusI08 BIT3 .iyW),
    row2 5 20 (.bitBIndR16PlusI08 BIT3 .iyW),
    row2 5 20 (.bitBIndR16PlusI08 BIT3 .iyW),
    row2 5 20 (.bitBIndR16PlusI08 BIT3 .iyW),
    row2 5 20 (.bitBIndR16PlusI08 BIT3 .iyW),
    row2 5 20 (.bitBIndR16PlusI08 BIT3 .iyW),
    row2 5 20 (.bitBIndR16PlusI08 BIT3 .iyW),
    row2 5 20 (.bitBIndR16PlusI08 BIT4 .iyW),
    row2 5 20 (.bitBIndR16PlusI08 BIT4 .iyW),
    row2 5 20 (.bitBIndR16PlusI08 BIT4 .iyW),
    row2 5 20 (.bitBIndR16PlusI08 BIT4 .iyW),
    row2 5 20 (.bitBIndR16PlusI08 BIT4 .iyW),
    row2 5 20 (.bitBIndR16PlusI08 BIT4 .iyW),
    row2 5 20 (.bitBIndR16PlusI08 BIT4 .iyW),
    row2 5 20 (.bitBIndR16PlusI08 BIT4 .iyW),
    row2 5 20 (.bitBIndR16PlusI08 BIT5 .iyW),
    row2 5 20 (.bitBIndR16PlusI08 BIT5 .iyW),
    row2 5 20 (.bitBIndR16PlusI08 BIT5 .iyW),
    row2 5 20 (.bitBIndR16PlusI08 BIT5 .iyW),
    row2 5 20 (.bitBIndR16PlusI08 BIT5 .iyW),
    row2 5 20 (.bitBIndR16PlusI08 BIT5 .iyW),
    row2 5 20 (.bitBIndR16PlusI08 BIT5 .iyW),
    row2 5 20 (.bitBIndR16PlusI08 BIT5 .iyW),
    row2 5 20 (.bitBIndR16PlusI08 BIT6 .iyW),
    row2 5 20 (.bitBIndR16PlusI08 BIT6 .iyW),
    row2 5 20 (.bitBIndR16PlusI08 BIT6 .iyW),
    row2 5 20 (.bitBIndR16PlusI08 BIT6 .iyW),
    row2 5 20 (.bitBIndR16PlusI08 BIT6 .iyW),
    row2 5 20 (.bitBIndR16PlusI08 BIT6 .iyW),
    row2 5 20 (.bitBIndR16PlusI08 BIT6 .iyW),
    row2 5 20 (.bitBIndR16PlusI08 BIT6 .iyW),
    row2 5 20 (.bitBIndR16PlusI08 BIT7 .iyW),
    row2 5 20 (.bitBIndR16PlusI08 BIT7 .iyW),
    row2 5 20 (.bitBIndR16PlusI08 BIT7 .iyW),
    row2 5 20 (.bitBIndR16PlusI08 BIT7 .iyW),
    row2 5 20 (.bitBIndR16PlusI08 BIT7 .iyW),
    row2 5 20 (.bitBIndR16PlusI08 BIT7 .iyW),
    row2 5 20 (.bitBIndR16PlusI08 BIT7 .iyW),
    row2 5 20 (.bitBIndR16PlusI08 BIT7 .iyW),
    row2 6 23 (.resBIndR16PlusI08R08 BIT0 .iyW .bcH),
    row2 6 23 (.resBIndR16PlusI08R08 BIT0 .iyW .bcL),
    row2 6 23 (.resBIndR16PlusI08R08 BIT0 .iyW .deH),
    row2 6 23 (.resBIndR16PlusI08R08 BIT0 .iyW .deL),
    row2 6 23 (.resBIndR16PlusI08R08 BIT0 .iyW .hlH),
    row2 6 23 (.resBIndR16PlusI08R08 BIT0 .iyW .hlL),
    row2 6 23 (.resBIndR16PlusI08 BIT0 .iyW),
    row2 6 23 (.resBIndR16PlusI08R08 BIT0 .iyW .afH),
    row2 6 23 (.resBIndR16PlusI08R08 BIT1 .iyW .bcH),
    row2 6 23 (.resBIndR16PlusI08R08 BIT1 .iyW .bcL),
    row2 6 23 (.resBIndR16PlusI08R08 BIT1 .iyW .deH),
    row2 6 23 (.resBIndR16PlusI08R08 BIT1 .iyW .deL),
    row2 6 23 (.resBIndR16PlusI08R08 BIT1 .iyW .hlH),
    row2 6 23 (.resBIndR16PlusI08R08 BIT1 .iyW .hlL),
    row2 6 23 (.resBIndR16PlusI08 BIT1 .iyW),
    row2 6 23 (.resBIndR16PlusI08R08 BIT1 .iyW .afH),
    row2 6 23 (.resBIndR16PlusI08R08 BIT2 .iyW .bcH),
    row2 6 23 (.resBIndR16PlusI08R08 BIT2 .iyW .bcL),
    row2 6 23 (.resBIndR16PlusI08R08 BIT2 .iyW .deH),
    row2 6 23 (.resBIndR16PlusI08R08 BIT2 .iyW .deL),
    row2 6 23 (.resBIndR16PlusI08R08 BIT2 .iyW .hlH),
    row2 6 23 (.resBIndR16PlusI08R08 BIT2 .iyW .hlL),
    row2 6 23 (.resBIndR16PlusI08 BIT2 .iyW),
    row2 6 23 (.resBIndR16PlusI08R08 BIT2 .iyW .afH),
    row2 6 23 (.resBIndR16PlusI08R08 BIT3 .iyW .bcH),
    row2 6 23 (.resBIndR16PlusI08R08 BIT3 .iyW .bcL),
    row2 6 23 (.resBIndR16PlusI08R08 BIT3 .iyW .deH),
    row2 6 23 (.resBIndR16PlusI08R08 BIT3 .iyW .deL),
    row2 6 23 (.resBIndR16PlusI08R08 BIT3 .iyW .hlH),
    row2 6 23 (.resBIndR16PlusI08R08 BIT3 .iyW .hlL),
    row2 6 23 (.resBIndR16PlusI08 BIT3 .iyW),
    row2 6 23 (.resBIndR16PlusI08R08 BIT3 .iyW .afH),
    row2 6 23 (.resBIndR16PlusI08R08 BIT4 .iyW .bcH),
    row2 6 23 (.resBIndR16PlusI08R08 BIT4 .iyW .bcL),
    row2 6 23 (.resBIndR16PlusI08R08 BIT4 .iyW .deH),
    row2 6 23 (.resBIndR16PlusI08R08 BIT4 .iyW .deL),
    row2 6 23 (.resBIndR16PlusI08R08 BIT4 .iyW .hlH),
    row2 6 23 (.resBIndR16PlusI08R08 BIT4 .iyW .hlL),
    row2 6 23 (.resBIndR16PlusI08 BIT4 .iyW),
    row2 6 23 (.resBIndR16PlusI08R08 BIT4 .iyW .afH),
    row2 6 23 (.resBIndR16PlusI08R08 BIT5 .iyW .bcH),
    row2 6 23 (.resBIndR16PlusI08R08 BIT5 .iyW .bcL),
    row2 6 23 (.resBIndR16PlusI08R08 BIT5 .iyW .deH),
    row2 6 23 (.resBIndR16PlusI08R08 BIT5 .iyW .deL),
    row2 6 23 (.resBIndR16PlusI08R08 BIT5 .iyW .hlH),
    row2 6 23 (.resBIndR16PlusI08R08 BIT5 .iyW .hlL),
    row2 6 23 (.resBIndR16PlusI08 BIT5 .iyW),
    row2 6 23 (.resBIndR16PlusI08R08 BIT5 .iyW .afH),
    row2 6 23 (.resBIndR16PlusI08R08 BIT6 .iyW .bcH),
    row2 6 23 (.resBIndR16PlusI08R08 BIT6 .iyW .bcL),
    row2 6 23 (.resBIndR16PlusI08R08 BIT6 .iyW .deH),
    row2 6 23 (.resBIndR16PlusI08R08 BIT6 .iyW .deL),
    row2 6 23 (.resBIndR16PlusI08R08 BIT6 .iyW .hlH),
    row2 6 23 (.resBIndR16PlusI08R08 BIT6 .iyW .hlL),
    row2 6 23 (.resBIndR16PlusI08 BIT6 .iyW),
    row2 6 23 (.resBIndR16PlusI08R08 BIT6 .iyW .afH),
    row2 6 23 (.resBIndR16PlusI08R08 BIT7 .iyW .bcH),
    row2 6 23 (.resBIndR16PlusI08R08 BIT7 .iyW .bcL),
    row2 6 23 (.resBIndR16PlusI08R08 BIT7 .iyW .deH),
    row2 6 23 (.resBIndR16PlusI08R08 BIT7 .iyW .deL),
    row2 6 23 (.resBIndR16PlusI08R08 BIT7 .iyW .hlH),
    row2 6 23 (.resBIndR16PlusI08R08 BIT7 .iyW .hlL),
    row2 6 23 (.resBIndR16PlusI08 BIT7 .iyW),
    row2 6 23 (.resBIndR16PlusI08R08 BIT7 .iyW .afH),
    row2 6 23 (.setBIndR16PlusI08R08 BIT0 .iyW .bcH),
    row2 6 23 (.setBIndR16PlusI08R08 BIT0 .iyW .bcL),
    row2 6 23 (.setBIndR16PlusI08R08 BIT0 .iyW .deH),
    row2 6 23 (.setBIndR16PlusI08R08 BIT0 .iyW .deL),
    row2 6 23 (.setBIndR16PlusI08R08 BIT0 .iyW .hlH),
    row2 6 23 (.setBIndR16PlusI08R08 BIT0 .iyW .hlL),
    row2 6 23 (.setBIndR16PlusI08 BIT0 .iyW),
    row2 6 23 (.setBIndR16PlusI08R08 BIT0 .iyW .afH),
    row2 6 23 (.setBIndR16PlusI08R08 BIT1 .iyW .bcH),
    row2 6 23 (.setBIndR16PlusI08R08 BIT1 .iyW .bcL),
    row2 6 23 (.setBIndR16PlusI08R08 BIT1 .iyW .deH),
    row2 6 23 (.setBIndR16PlusI08R08 BIT1 .iyW .deL),
    row2 6 23 (.setBIndR16PlusI08R08 BIT1 .iyW .hlH),
    row2 6 23 (.setBIndR16PlusI08R08 BIT1 .iyW .hlL),
    row2 6 23 (.setBIndR16PlusI08 BIT1 .iyW),
    row2 6 23 (.setBIndR16PlusI08R08 BIT1 .iyW .afH),
    row2 6 23 (.setBIndR16PlusI08R08 BIT2 .iyW .bcH),
    row2 6 23 (.setBIndR16PlusI08R08 BIT2 .iyW .bcL),
    row2 6 23 (.setBIndR16PlusI08R08 BIT2 .iyW .deH),
    row2 6 23 (.setBIndR16PlusI08R08 BIT2 .iyW .deL),
    row2 6 23 (.setBIndR16PlusI08R08 BIT2 .iyW .hlH),
    row2 6 23 (.setBIndR16PlusI08R08 BIT2 .iyW .hlL),
    row2 6 23 (.setBIndR16PlusI08 BIT2 .iyW),
    row2 6 23 (.setBIndR16PlusI08R08 BIT2 .iyW .afH),
    row2 6 23 (.setBIndR16PlusI08R08 BIT3 .iyW .bcH),
    row2 6 23 (.setBIndR16PlusI08R08 BIT3 .iyW .bcL),
    row2 6 23 (.setBIndR16PlusI08R08 BIT3 .iyW .deH),
    row2 6 23 (.setBIndR16PlusI08R08 BIT3 .iyW .deL),
    row2 6 23 (.setBIndR16PlusI08R08 BIT3 .iyW .hlH),
    row2 6 23 (.setBIndR16PlusI08R08 BIT3 .iyW .hlL),
    row2 6 23 (.setBIndR16PlusI08 BIT3 .iyW),
    row2 6 23 (.setBIndR16PlusI08R08 BIT3 .iyW .afH),
    row2 6 23 (.setBIndR16PlusI08R08 BIT4 .iyW .bcH),
    row2 6 23 (.setBIndR16PlusI08R08 BIT4 .iyW .bcL),
    row2 6 23 (.setBIndR16PlusI08R08 BIT4 .iyW .deH),
    row2 6 23 (.setBIndR16PlusI08R08 BIT4 .iyW .deL),
    row2 6 23 (.setBIndR16PlusI08R08 BIT4 .iyW .hlH),
    row2 6 23 (.setBIndR16PlusI08R08 BIT4 .iyW .hlL),
    row2 6 23 (.setBIndR16PlusI08 BIT4 .iyW),
    row2 6 23 (.setBIndR16PlusI08R08 BIT4 .iyW .afH),
    row2 6 23 (.setBIndR16PlusI08R08 BIT5 .iyW .bcH),
    row2 6 23 (.setBIndR16PlusI08R08 BIT5 .iyW .bcL),
    row2 6 23 (.setBIndR16PlusI08R08 BIT5 .iyW .deH),
    row2 6 23 (.setBIndR16PlusI08R08 BIT5 .iyW .deL),
    row2 6 23 (.setBIndR16PlusI08R08 BIT5 .iyW .hlH),
    row2 6 23 (.setBIndR16PlusI08R08 BIT5 .iyW .hlL),
    row2 6 23 (.setBIndR16PlusI08 BIT5 .iyW),
    row2 6 23 (.setBIndR16PlusI08R08 BIT5 .iyW .afH),
    row2 6 23 (.setBIndR16PlusI08R08 BIT6 .iyW .bcH),
    row2 6 23 (.setBIndR16PlusI08R08 BIT6 .iyW .bcL),
    row2 6 23 (.setBIndR16PlusI08R08 BIT6 .iyW .deH),
    row2 6 23 (.setBIndR16PlusI08R08 BIT6 .iyW .deL),
    row2 6 23 (.setBIndR16PlusI08R08 BIT6 .iyW .hlH),
    row2 6 23 (.setBIndR16PlusI08R08 BIT6 .iyW .hlL),
    row2 6 23 (.setBIndR16PlusI08 BIT6 .iyW),
    row2 6 23 (.setBIndR16PlusI08R08 BIT6 .iyW .afH),
    row2 6 23 (.setBIndR16PlusI08R08 BIT7 .iyW .bcH),
    row2 6 23 (.setBIndR16PlusI08R08 BIT7 .iyW .bcL),
    row2 6 23 (.setBIndR16PlusI08R08 BIT7 .iyW .deH),
    row2 6 23 (.setBIndR16PlusI08R08 BIT7 .iyW .deL),
    row2 6 23 (.setBIndR16PlusI08R08 BIT7 .iyW .hlH),
    row2 6 23 (.setBIndR16PlusI08R08 BIT7 .iyW .hlL),
    row2 6 23 (.setBIndR16PlusI08 BIT7 .iyW),
    row2 6 23 (.setBIndR16PlusI08R08 BIT7 .iyW .afH)]

end Opcodes

end Xcpc.Cpu
