import Xcpc.Cpc.Snapshot
import Xcpc.Cpu.Core
import Xcpc.Lib.Runs

/-!
# The machine

The processor in front of the mainboard, and what happens to them:
`Mainboard::clock` gives ticks to the display controller, the processor and
the sound generator at their own rates, the user presses keys, resets the
machine and loads a snapshot. An event is one of these, and a run is any list
of events, which leaves the rates open.

The floppy disk controller is a library of its own. The machine takes it as a
parameter: a type of states and what the mainboard calls.
-/

namespace Xcpc.Cpc

/-- What the mainboard uses of `fdc::Instance`. -/
structure Fdc (φ : Type) where
  reset : φ → φ
  rdStat : φ → Byte → Byte × φ
  rdData : φ → Byte → Byte × φ
  wrStat : φ → Byte → φ
  wrData : φ → Byte → φ
  setMotor : φ → Byte → φ

/-- A controller that answers `0xff`, for fixed runs. -/
def Fdc.absent : Fdc Unit where
  reset _ := ()
  rdStat _ _ := (0xff, ())
  rdData _ _ := (0xff, ())
  wrStat _ _ := ()
  wrData _ _ := ()
  setMotor _ _ := ()

/-- What the processor sees. -/
structure Bus (φ : Type) where
  board : Board
  fdc : φ

variable {φ : Type} (F : Fdc φ)

namespace Bus

/-- `((port >> 7) & 2) | (port & 1)` -/
def fdcFunction (port : Word) : Nat :=
  (((port >>> 7) &&& 2) ||| (port &&& 1)).toNat

/-- `cpu_iorq_rd` -/
def iorqRd (s : Bus φ) (port : Word) : Byte × Bus φ :=
  let r := s.board.iorqRd port
  let s := { s with board := r.2 }
  if Board.selects port 0x0480 then
    match fdcFunction port with
    | 0 | 1 => (0xff, s)
    | 2 =>
        let d := F.rdStat s.fdc r.1
        (d.1, { s with fdc := d.2 })
    | _ =>
        let d := F.rdData s.fdc r.1
        (d.1, { s with fdc := d.2 })
  else
    (r.1, s)

/-- `cpu_iorq_wr` -/
def iorqWr (s : Bus φ) (port : Word) (data : Byte) : Bus φ :=
  let s := { s with board := s.board.iorqWr port data }
  if Board.selects port 0x0480 then
    match fdcFunction port with
    | 0 | 1 =>
        { s with fdc := F.setMotor s.fdc (((data &&& 1) <<< 1) ||| (data &&& 1)) }
    | 2 => { s with fdc := F.wrStat s.fdc data }
    | _ => { s with fdc := F.wrData s.fdc data }
  else
    s

/-- The mainboard as the `cpu::Interface`. -/
def interface : Cpu.Interface (Bus φ) where
  mreqM1 s addr := (s.board.mreqRd addr, s)
  mreqRd s addr := (s.board.mreqRd addr, s)
  mreqWr s addr data := { s with board := s.board.mreqWr addr data }
  iorqM1 s _ := (0xff, { s with board := s.board.iorqM1 })
  iorqRd := iorqRd F
  iorqWr := iorqWr F

end Bus

abbrev Machine (φ : Type) := Cpu.Instance (Bus φ)

namespace Machine

def board (m : Machine φ) : Board := m.bus.board

/-- A machine that is switched on, with blank ROMs. -/
def blank (size : MemorySize) : Machine Unit := .reset ⟨.blank size, ()⟩

def withBoard (m : Machine φ) (b : Board) : Machine φ :=
  { m with bus := { m.bus with board := b } }

/-- `Mainboard::reset` -/
def reset (m : Machine φ) : Machine φ :=
  Cpu.Instance.reset ⟨m.board.reset, F.reset m.bus.fdc⟩

/-- The handler of `vdc_hsync`, which can raise interrupts. -/
def hsync (m : Machine φ) (hsync : Bool) : Machine φ :=
  match m.board.assertHsync hsync with
  | some r => if r.2 = 0 then m.withBoard r.1 else Cpu.pulseInt (m.withBoard r.1)
  | none => m

/-- The handler of `vdc_vsync`. -/
def vsync (m : Machine φ) (vsync : Bool) : Machine φ :=
  m.withBoard (m.board.assertVsync vsync)

/-- `clock_vdc` -/
def clockVdc (m : Machine φ) : Machine φ :=
  let old := m.board.vdc.core
  let vdc := Vdc.clock m.board.vdc
  let m := m.withBoard { m.board with vdc := vdc }
  let m := if vdc.core.hsyncSignal != old.hsyncSignal
    then m.hsync vdc.core.hsyncSignal else m
  if vdc.core.vsyncSignal != old.vsyncSignal
    then m.vsync vdc.core.vsyncSignal else m

/-- `clock_cpu` -/
def clockCpu (m : Machine φ) : Machine φ := Cpu.clock (Bus.interface F) m

/-- `clock_psg` -/
def clockPsg (m : Machine φ) : Machine φ :=
  m.withBoard { m.board with psg := Psg.clock m.board.psg }

/-- `Mainboard::load_cpc` -/
def loadCpc (m : Machine φ) (s : Sna.State) : Machine φ :=
  let m : Machine φ := Cpu.Instance.load (m.reset F) s.header
  m.withBoard (m.board.load s)

/-- `Mainboard::save_cpc` -/
def saveCpc (m : Machine φ) (s : Sna.State) : Sna.State :=
  m.board.save { s with header := Cpu.Instance.save m s.header }

/-- `Mainboard::load_snapshot`. The exception is thrown again after the
reset. -/
def loadSnapshot (m : Machine φ) (file : List Byte) :
    Except String Unit × Machine φ :=
  match Sna.load Sna.fresh file with
  | .ok s => (.ok (), m.loadCpc F s)
  | .error e => (.error e, m.reset F)

/-- `Mainboard::save_snapshot`, the bytes of the file. -/
def saveSnapshot (m : Machine φ) : Except String (List Byte) :=
  Sna.save (m.saveCpc Sna.fresh)

inductive Event where
  | clockVdc
  | clockCpu
  | clockPsg
  | keys (keys : Fin 16 → Byte)
  | reset
  | loadSnapshot (file : List Byte)

def step (m : Machine φ) : Event → Machine φ
  | .clockVdc => m.clockVdc
  | .clockCpu => m.clockCpu F
  | .clockPsg => m.clockPsg
  | .keys keys =>
      m.withBoard { m.board with kbd := { m.board.kbd with keys := keys } }
  | .reset => m.reset F
  | .loadSnapshot file => (m.loadSnapshot F file).2

end Machine

end Xcpc.Cpc
