import Xcpc.Cpu.Registers

/-!
# The parallel interface

`ppi::Instance` is the 8255 with its three ports and the control port. A port
that is an output passes what is written to it on to the mainboard, a port
that is an input asks the mainboard when it is read. The control port takes
two kinds of bytes: a mode word, with bit 7 set, chooses the directions, and a
bit set/reset word, with bit 7 clear, changes one bit of port C.

The mainboard behind the interface is any state with the six functions of
`ppi::Interface`.
-/

namespace Xcpc.Ppi

structure State where
  portA : Byte
  portB : Byte
  portC : Byte
  ctrlP : Byte
  grpA : Byte
  grpB : Byte
  dirA : Byte
  dirB : Byte
  dirC : Byte
deriving DecidableEq, Repr

def reset : State := ⟨0, 0, 0, 0, 0, 0, 0, 0, 0⟩

/-- `ppi::Interface`. The value that a write returns is not used. -/
structure Interface (σ : Type) where
  aRd : σ → Byte → Byte × σ
  aWr : σ → Byte → σ
  bRd : σ → Byte → Byte × σ
  bWr : σ → Byte → σ
  cRd : σ → Byte → Byte × σ
  cWr : σ → Byte → σ

variable {σ : Type} (I : Interface σ)

/-- `rd_port_a` -/
def rdPortA (s : State) (m : σ) (value : Byte) : Byte × State × σ :=
  if s.dirA != 0 then
    let r := I.aRd m value
    (r.1, { s with portA := r.1 }, r.2)
  else
    (s.portA, s, m)

/-- `rd_port_b` -/
def rdPortB (s : State) (m : σ) (value : Byte) : Byte × State × σ :=
  if s.dirB != 0 then
    let r := I.bRd m value
    (r.1, { s with portB := r.1 }, r.2)
  else
    (s.portB, s, m)

/-- `rd_port_c` -/
def rdPortC (s : State) (m : σ) (value : Byte) : Byte × State × σ :=
  if s.dirC != 0 then
    let r := I.cRd m value
    (r.1, { s with portC := r.1 }, r.2)
  else
    (s.portC, s, m)

/-- `wr_port_a` -/
def wrPortA (s : State) (m : σ) (value : Byte) : State × σ :=
  ({ s with portA := value }, if s.dirA == 0 then I.aWr m value else m)

/-- `wr_port_b` -/
def wrPortB (s : State) (m : σ) (value : Byte) : State × σ :=
  ({ s with portB := value }, if s.dirB == 0 then I.bWr m value else m)

/-- `wr_port_c` -/
def wrPortC (s : State) (m : σ) (value : Byte) : State × σ :=
  ({ s with portC := value }, if s.dirC == 0 then I.cWr m value else m)

/-- The directions that a mode word gives to ports A, B and C. -/
def modeDirA (v : Byte) : Byte := (v >>> 4) &&& 0x01

def modeDirB (v : Byte) : Byte := (v >>> 1) &&& 0x01

def modeDirC (v : Byte) : Byte := ((v >>> 2) &&& 0x02) ||| (v &&& 0x01)

/-- A change of the direction of port A. -/
def turnA (s : State) (m : σ) (dir : Byte) : State × σ :=
  if dir != s.dirA then
    if dir != 0 then
      let r := I.aRd m s.portA
      ({ s with dirA := dir, portA := r.1 }, r.2)
    else
      ({ s with dirA := dir }, I.aWr m s.portA)
  else
    (s, m)

/-- A change of the direction of port B. -/
def turnB (s : State) (m : σ) (dir : Byte) : State × σ :=
  if dir != s.dirB then
    if dir != 0 then
      let r := I.bRd m s.portB
      ({ s with dirB := dir, portB := r.1 }, r.2)
    else
      ({ s with dirB := dir }, I.bWr m s.portB)
  else
    (s, m)

/-- A change of the direction of port C. -/
def turnC (s : State) (m : σ) (dir : Byte) : State × σ :=
  if dir != s.dirC then
    if dir != 0 then
      let r := I.cRd m s.portC
      ({ s with dirC := dir, portC := r.1 }, r.2)
    else
      ({ s with dirC := dir }, I.cWr m s.portC)
  else
    (s, m)

/-- The mode word of `wr_ctrl_p`: the groups, then ports A, B and C. -/
def setMode (s : State) (m : σ) (v : Byte) : State × σ :=
  let s := { s with grpA := (v >>> 5) &&& 0x03, grpB := (v >>> 2) &&& 0x01 }
  let a := turnA I s m (modeDirA v)
  let b := turnB I a.1 a.2 (modeDirB v)
  turnC I b.1 b.2 (modeDirC v)

/-- Port C after a bit set/reset word. -/
def bsr (portC v : Byte) : Byte :=
  let bit := ((v >>> 1) &&& 0x07).toNat
  (portC &&& ~~~((0x01 : Byte) <<< bit)) ||| ((v &&& 0x01) <<< bit)

/-- The bit set/reset word of `wr_ctrl_p`. -/
def setBit (s : State) (m : σ) (v : Byte) : State × σ :=
  if s.dirC == 0 then
    let portC := bsr s.portC v
    ({ s with portC := portC }, I.cWr m portC)
  else
    (s, m)

/-- `wr_ctrl_p` -/
def wrCtrlP (s : State) (m : σ) (v : Byte) : State × σ :=
  let s := { s with ctrlP := v }
  if v &&& 0x80 != 0 then setMode I s m v else setBit I s m v

end Xcpc.Ppi
