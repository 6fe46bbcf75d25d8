import Mathlib
import Xcpc.Cpu.Registers

/-!
# The video display controller

`vdc::Instance` is the 6845: eighteen registers behind an address register,
and the counters that `clock` moves. A register is written through its mask,
and only if its capabilities allow it; the light pen registers do not.

`caps` and `mask` are constants of the source that `reset` copies into the
state and nothing changes, and they are functions of the register here.
-/

namespace Xcpc.Vdc

/-- The counters of `clock`. -/
structure Core where
  hcc : Byte
  vcc : Byte
  slc : Byte
  hsc : Byte
  vsc : Byte
  hsyncSignal : Bool
  vsyncSignal : Bool

structure State where
  addr : Byte
  data : Fin 18 → Byte
  core : Core

/-- `mask.data` -/
def mask : Fin 18 → Byte :=
  ![0xff, 0xff, 0xff, 0x0f, 0x7f, 0x1f, 0x7f, 0x7f, 0x03, 0x1f, 0x7f, 0x1f,
    0x3f, 0xff, 0x3f, 0xff, 0x3f, 0xff]

/-- `caps.data[i] & REG_WRITABLE` -/
def writable (i : Fin 18) : Bool := i.val < 16

/-- `caps.data[i] & REG_READABLE` -/
def readable (i : Fin 18) : Bool := 14 ≤ i.val

def resetRegs : Fin 18 → Byte :=
  ![0x3f, 0x28, 0x2e, 0x0e, 0x26, 0x00, 0x19, 0x1e, 0x00, 0x07, 0x00, 0x00,
    0x30, 0x00, 0x00, 0x00, 0x00, 0x00]

def reset : State where
  addr := 0
  data := resetRegs
  core := ⟨0, 0, 0, 0, 0, false, false⟩

/-- `set_index`. The address register is writable and its mask is `0xff`. -/
def setIndex (s : State) (index : Byte) : State :=
  { s with addr := index &&& 0xff }

/-- `get_index`. The address register is not readable, so the value passed in
comes back. -/
def getIndex (_ : State) (index : Byte) : Byte := index

/-- `set_value` -/
def setValue (s : State) (value : Byte) : State :=
  if h : s.addr.toNat < 18 then
    let i : Fin 18 := ⟨s.addr.toNat, h⟩
    if writable i then
      { s with data := Function.update s.data i (value &&& mask i) }
    else
      s
  else
    s

/-- `get_value`, which masks the register it reads. -/
def getValue (s : State) (value : Byte) : Byte × State :=
  if h : s.addr.toNat < 18 then
    let i : Fin 18 := ⟨s.addr.toNat, h⟩
    if readable i then
      let v := s.data i &&& mask i
      (v, { s with data := Function.update s.data i v })
    else
      (value, s)
  else
    (value, s)

/-! ## The counters -/

/-- One of the two sync pulses: its counter and its signal. While the signal
is up the counter runs to `width`, otherwise the pulse starts when `start`
holds. -/
def pulse (counter : Byte) (signal start : Bool) (width : Byte) :
    Byte × Bool :=
  if signal then
    let counter := (counter + 1) &&& 0x0f
    if counter == width then (0, false) else (counter, true)
  else
    if start then (0, true) else (counter, false)

/-- The horizontal part of `clock`, and whether a line ended. -/
def clockH (s : State) : Core × Bool :=
  let c := s.core
  let horizontalTotal := s.data 0 + 1
  let ends := c.hcc + 1 == horizontalTotal
  let hcc := if ends then 0 else c.hcc + 1
  let p := pulse c.hsc c.hsyncSignal (hcc == s.data 2) (s.data 3 &&& 0x0f)
  ({ c with hcc := hcc, hsc := p.1, hsyncSignal := p.2 }, ends)

/-- The scanline part of `clock`, and whether a character row ended. -/
def clockS (s : State) (c : Core) : Core × Bool :=
  let verticalTotal := s.data 4 + 1
  let scanlineTotal := s.data 9 + 1
  -- `vcc + 1` is an `int` in the source and does not wrap.
  let scanlineTotal :=
    if c.vcc.toNat + 1 = verticalTotal.toNat then scanlineTotal + s.data 5
    else scanlineTotal
  let ends := c.slc + 1 == scanlineTotal
  let slc := if ends then 0 else c.slc + 1
  let p := pulse c.vsc c.vsyncSignal (c.vcc == s.data 7)
    ((s.data 3 >>> 4) &&& 0x0f)
  ({ c with slc := slc, vsc := p.1, vsyncSignal := p.2 }, ends)

/-- The row part of `clock`. -/
def clockV (s : State) (c : Core) : Core :=
  let verticalTotal := s.data 4 + 1
  { c with vcc := if c.vcc + 1 == verticalTotal then 0 else c.vcc + 1 }

/-- `clock`. The mainboard compares the signals before and after it. -/
def clock (s : State) : State :=
  let h := clockH s
  if h.2 then
    let sl := clockS s h.1
    { s with core := if sl.2 then clockV s sl.1 else sl.1 }
  else
    { s with core := h.1 }

theorem clock_data (s : State) : (clock s).data = s.data := by
  unfold clock
  simp only []
  split
  · rfl
  · rfl

end Xcpc.Vdc
