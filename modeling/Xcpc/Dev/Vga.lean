import Mathlib
import Xcpc.Cpu.Registers

/-!
# The gate array

`vga::Instance` holds the pen and ink registers, the ROM and mode register,
and two counters that make the interrupts out of the sync pulses. Three of its
functions index an array with a value that the array does not bound: a write
of an ink goes to `ink[pen]`, and a rising edge of hsync looks every ink up in
the colormap and latches them in the scanline of the current line. Such an
access is `none` when it falls outside.
-/

namespace Xcpc.Vga

structure Colormap where
  pixel0 : Fin 32 → BitVec 32
  pixel1 : Fin 32 → BitVec 32

/-- One of the colors of a scanline. -/
structure Color where
  ink : Byte
  pixel0 : BitVec 32
  pixel1 : BitVec 32

structure Scanline where
  mode : Byte
  color : Fin 17 → Color

def Scanline.zero : Scanline := ⟨0, fun _ => ⟨0, 0, 0⟩⟩

structure State where
  pen : Byte
  ink : Fin 17 → Byte
  rmr : Byte
  r52 : Byte
  r02 : Byte
  frameY : Word
  colormap : Colormap
  scanline : Fin 576 → Scanline

/-- `reset`, which keeps the colormap. -/
def reset (s : State) : State where
  pen := 0
  ink := fun _ => 0
  rmr := 0
  r52 := 0
  r02 := 0
  frameY := 0
  colormap := s.colormap
  scanline := fun _ => .zero

/-- What `set_value` asks of the mainboard: `vga_setup_rmr` and
`vga_setup_ram`, with the value written. -/
inductive Setup where
  | none
  | rmr (value : Byte)
  | ram (value : Byte)

/-- `set_value` -/
def setValue (s : State) (value : Byte) : Option (State × Setup) :=
  match (value >>> 6).toNat with
  | 0 =>
      let pen := if value &&& 0x10 != 0 then value &&& 0x10 else value &&& 0x0f
      some ({ s with pen := pen }, .none)
  | 1 =>
      if h : s.pen.toNat < 17 then
        let ink := Function.update s.ink ⟨s.pen.toNat, h⟩ (value &&& 0x1f)
        some ({ s with ink := ink }, .none)
      else
        none
  | 2 =>
      let r52 := if value &&& 0x10 != 0 then 0 else s.r52
      some ({ s with rmr := value &&& 0x1f, r52 := r52 }, .rmr value)
  | _ => some (s, .ram value)

/-- `ack_interrupt` -/
def ackInterrupt (s : State) : State := { s with r52 := s.r52 &&& 0xdf }

/-- The entry of the colormap for an ink. -/
def Colormap.color (c : Colormap) (ink : Byte) : Option Color :=
  if h : ink.toNat < 32 then
    some ⟨ink, c.pixel0 ⟨ink.toNat, h⟩, c.pixel1 ⟨ink.toNat, h⟩⟩
  else
    none

/-- The loop of `on_rising_edge` over the inks. -/
def latch (s : State) : Option Scanline :=
  if ∀ i, ((s.colormap.color (s.ink i)).isSome : Bool) then
    some ⟨s.rmr &&& 0x03,
      fun i => (s.colormap.color (s.ink i)).getD ⟨0, 0, 0⟩⟩
  else
    none

/-- `assert_hsync` on a rising edge. -/
def risingHsync (s : State) : Option State :=
  let frameY := s.frameY + 1
  if h : frameY.toNat < 576 then
    (latch s).map fun line =>
      { s with
        frameY := frameY
        scanline := Function.update s.scanline ⟨frameY.toNat, h⟩ line }
  else
    some { s with frameY := 575 }

/-- `assert_hsync` on a falling edge, and how many times it raises the
interrupt. -/
def fallingHsync (s : State) : State × Nat :=
  let wraps := s.r52 + 1 == 52
  let r52 := if wraps then 0 else s.r52 + 1
  let raised := if wraps then 1 else 0
  if s.r02 != 0 then
    let r02 := s.r02 - 1
    if r02 == 0 then
      let raised := if r52 ≥ 32 then raised + 1 else raised
      ({ s with r52 := 0, r02 := r02 }, raised)
    else
      ({ s with r52 := r52, r02 := r02 }, raised)
  else
    ({ s with r52 := r52 }, raised)

/-- `assert_hsync` -/
def assertHsync (s : State) (hsync : Bool) : Option (State × Nat) :=
  if hsync then
    (risingHsync s).map fun s => (s, 0)
  else
    some (fallingHsync s)

/-- `assert_vsync` -/
def assertVsync (s : State) (vsync : Bool) : State :=
  if vsync then { s with frameY := 0, r02 := 2 } else s

/-- The calls of the mainboard that change the state. -/
inductive Event where
  | setValue (value : Byte)
  | hsync (signal : Bool)
  | vsync (signal : Bool)
  | ackInterrupt
  deriving DecidableEq

/-- The state after a call, and how many times it raises the interrupt. -/
def call (s : State) : Event → Option (State × Nat)
  | .setValue value => (setValue s value).map fun r => (r.1, 0)
  | .hsync signal => assertHsync s signal
  | .vsync signal => some (assertVsync s signal, 0)
  | .ackInterrupt => some (ackInterrupt s, 0)

/-- The step of a run. A call that indexes outside of an array, which none does
in a run from a reset, changes nothing. -/
def step (s : State) (e : Event) : State := ((call s e).map (·.1)).getD s

/-- How many times the call raises the interrupt. -/
def raises (s : State) (e : Event) : Nat := ((call s e).map (·.2)).getD 0

end Xcpc.Vga
