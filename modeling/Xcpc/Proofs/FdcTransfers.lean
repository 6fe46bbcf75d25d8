import Xcpc.Proofs.FdcPhases

/-!
# Transfers of the controller

What the phases do with lists of bytes. The bytes of a command are in the
command buffer when it is executed; the bytes of an execution phase are those
of the execution buffer, read or written in order, and with the last of them
the transfer is finished; the bytes of a report are those of the result
buffer, and with the last of them the controller is idle.
-/

namespace Xcpc.Lib765.Fdc

open Prog

variable {δ : Type} {V : Vtable δ}

/-- The interrupt that is left after an access to the data register. -/
def pending (n : Nat) : Nat := if 0 < n ∧ n < 4 then 0 else n

/-- The controller with a whole command in its buffer. -/
def loaded (s : Fdc δ) (c : Byte) (args : List Byte) : Fdc δ :=
  { s with
    mainstat := if args = [] then 0x80 else 0x90
    cmdId := some c, cmdPos := args.length
    cmdBuf := Buffer.put s.cmdBuf 0 (c :: args), cmdLen := 0
    interrupting := pending s.interrupting }

/-- The controller when the program has written some bytes. -/
def received (s : Fdc δ) (bytes : List Byte) : Fdc δ :=
  { s with
    execBuf := Buffer.put s.execBuf s.execPos bytes
    execPos := s.execPos + bytes.length, execLen := s.execLen - bytes.length
    interrupting := pending s.interrupting }

end Xcpc.Lib765.Fdc
