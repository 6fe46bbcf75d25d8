import Xcpc.Dev.Kbd
import Xcpc.Dev.Ppi
import Xcpc.Dev.Psg
import Xcpc.Dev.Vdc
import Xcpc.Dev.Vga
import Xcpc.Formats.Sna

/-!
# The mainboard

`cpc::Mainboard` owns the devices and is the interface of each of them. The
board here is everything but the processor, which runs against the board as
its bus, and the floppy disk controller, which nothing on the board looks at.

Memory is banks of 16K. The maps `pal_rd` and `pal_wr` are arrays of pointers
into them; a pointer is the name of its bank. `reset` clears the pointers, and
sets all of them again before it returns, in `update_pal`.
-/

namespace Xcpc.Cpc

open Sna (Bank)

/-- `MemorySize` -/
inductive MemorySize where
  | unknown | default
  | k64 | k128 | k192 | k256 | k320 | k384 | k448 | k512
deriving DecidableEq, Repr

/-- `static_cast<uint32_t>(memory_size)` -/
def MemorySize.bytes : MemorySize → Nat
  | .unknown => 4294967295
  | .default => 0
  | .k64 => 65536
  | .k128 => 131072
  | .k192 => 196608
  | .k256 => 262144
  | .k320 => 327680
  | .k384 => 393216
  | .k448 => 458752
  | .k512 => 524288

/-- `memory_size >= XCPC_MEMORY_SIZE_128K`. The unknown size is `-1`. -/
def MemorySize.has128K : MemorySize → Bool
  | .unknown | .default | .k64 => false
  | _ => true

/-- What a pointer of `pal_rd` or `pal_wr` points to. -/
inductive BankRef where
  | ram (i : Fin 8)
  | rom (i : Fin 2)
  | exp (i : Byte)
deriving DecidableEq, Repr

structure Board where
  memorySize : MemorySize
  vdcHsync : Bool
  vdcVsync : Bool
  lnkLk1 : Byte
  lnkLk2 : Byte
  lnkLk3 : Byte
  lnkLk4 : Byte
  expBusy : Byte
  prtBusy : Byte
  psgData : Byte
  psgBdir : Byte
  psgBc1 : Byte
  psgBc2 : Byte
  casMotor : Byte
  casRdData : Byte
  casWrData : Byte
  ramConf : Byte
  romConf : Byte
  palRd : BitVec 2 → BankRef
  palWr : BitVec 2 → BankRef
  kbd : Kbd.State
  vga : Vga.State
  vdc : Vdc.State
  ppi : Ppi.State
  psg : Psg.State
  ram : Fin 8 → Bank
  rom : Fin 2 → Bank
  exp : Byte → Option Bank

namespace Board

/-- The mainboard that `construct` leaves behind: the links name an Amstrad
at 50Hz, nothing is connected, and `BC2` is always set. The pointers are null,
which no bank is; `reset` runs before the first access. -/
def construct (size : MemorySize) (colormap : Vga.Colormap)
    (rom : Fin 2 → Bank) (exp : Byte → Option Bank) : Board where
  memorySize := size
  vdcHsync := false
  vdcVsync := false
  lnkLk1 := 1
  lnkLk2 := 1
  lnkLk3 := 1
  lnkLk4 := 1
  expBusy := 1
  prtBusy := 1
  psgData := 0
  psgBdir := 0
  psgBc1 := 0
  psgBc2 := 1
  casMotor := 0
  casRdData := 0
  casWrData := 0
  ramConf := 0
  romConf := 0
  palRd := fun _ => .ram 0
  palWr := fun _ => .ram 0
  kbd := Kbd.reset
  vga := ⟨0, fun _ => 0, 0, 0, 0, 0, colormap, fun _ => .zero⟩
  vdc := Vdc.reset
  ppi := Ppi.reset
  psg := Psg.reset
  ram := fun _ _ => 0
  rom := rom
  exp := exp

/-- A machine with blank ROMs and no expansion, for fixed runs. -/
def blank (size : MemorySize) : Board :=
  construct size ⟨fun _ => 0, fun _ => 0⟩ (fun _ _ => 0) fun _ => none

/-! ## The memory map -/

/-- The RAM banks of a configuration that the switch of `update_pal` knows. -/
def layout (conf : Byte) : Option (BitVec 2 → Fin 8) :=
  match (conf &&& 0x3f).toNat with
  | 0 => some fun i => ![0, 1, 2, 3] i.toFin
  | 1 => some fun i => ![0, 1, 2, 7] i.toFin
  | 2 => some fun i => ![4, 5, 6, 7] i.toFin
  | 3 => some fun i => ![0, 3, 2, 7] i.toFin
  | 4 => some fun i => ![0, 4, 2, 3] i.toFin
  | 5 => some fun i => ![0, 5, 2, 3] i.toFin
  | 6 => some fun i => ![0, 6, 2, 3] i.toFin
  | 7 => some fun i => ![0, 7, 2, 3] i.toFin
  | _ => none

/-- `pal_rd[i] = pal_wr[i] = ram[banks i]` for the four pages. -/
def mapRam (b : Board) (banks : BitVec 2 → Fin 8) : Board :=
  { b with
    palRd := fun i => .ram (banks i)
    palWr := fun i => .ram (banks i) }

/-- The first part of `update_pal`. The `default` of its switch only logs. -/
def updateRam (b : Board) : Board :=
  if b.memorySize.has128K then
    match layout b.ramConf with
    | some banks => b.mapRam banks
    | none => b
  else
    b.mapRam fun i => ![0, 1, 2, 3] i.toFin

/-- The lower ROM of `update_pal`. -/
def updateLower (b : Board) : Board :=
  if b.vga.rmr &&& 0x04 == 0 then
    { b with palRd := Function.update b.palRd 0 (.rom 0) }
  else
    b

/-- What `update_pal` maps as the upper ROM. -/
def upperRom (b : Board) : BankRef :=
  if (b.exp b.romConf).isSome then .exp b.romConf else .rom 1

/-- The upper ROM of `update_pal`. -/
def updateUpper (b : Board) : Board :=
  if b.vga.rmr &&& 0x08 == 0 then
    { b with palRd := Function.update b.palRd 3 b.upperRom }
  else
    b

def updatePal (b : Board) : Board := b.updateRam.updateLower.updateUpper

/-- The bank behind a pointer. -/
def bank (b : Board) : BankRef → Bank
  | .ram i => b.ram i
  | .rom i => b.rom i
  | .exp i => (b.exp i).getD fun _ => 0

/-- The page and the offset of an address. -/
def page (addr : Word) : BitVec 2 := addr.extractLsb' 14 2

def offset (addr : Word) : BitVec 14 := addr.extractLsb' 0 14

/-- `cpu_mreq_rd`, and `cpu_mreq_m1` without its wait states. -/
def mreqRd (b : Board) (addr : Word) : Byte :=
  b.bank (b.palRd (page addr)) (offset addr)

/-- A store through a pointer. -/
def store (b : Board) (ref : BankRef) (o : BitVec 14) (v : Byte) : Board :=
  match ref with
  | .ram i => { b with
      ram := Function.update b.ram i (Function.update (b.ram i) o v) }
  | .rom i => { b with
      rom := Function.update b.rom i (Function.update (b.rom i) o v) }
  | .exp i => { b with
      exp := Function.update b.exp i
        ((b.exp i).map fun bank => Function.update bank o v) }

/-- `cpu_mreq_wr` -/
def mreqWr (b : Board) (addr : Word) (v : Byte) : Board :=
  b.store (b.palWr (page addr)) (offset addr) v

/-- `vga_setup_ram` -/
def vgaSetupRam (b : Board) (value : Byte) : Board :=
  updatePal { b with ramConf := value &&& 0x3f }

/-- `vga_setup_rom` -/
def vgaSetupRom (b : Board) (value : Byte) : Board :=
  updatePal { b with romConf := value &&& 0xff }

/-- `vga_setup_rmr` -/
def vgaSetupRmr (b : Board) (_ : Byte) : Board := b.updatePal

/-- `vga::Instance::set_value` with its calls of the mainboard. -/
def vgaSetValue (b : Board) (value : Byte) : Option Board :=
  (Vga.setValue b.vga value).map fun r =>
    let b := { b with vga := r.1 }
    match r.2 with
    | .none => b
    | .rmr v => b.vgaSetupRmr v
    | .ram v => b.vgaSetupRam v

/-- `cpu_iorq_m1`. The answer is `0xff`, which is `rst $38`. -/
def iorqM1 (b : Board) : Board := { b with vga := Vga.ackInterrupt b.vga }

/-- `vdc_hsync`, and how many interrupts the gate array raises. -/
def assertHsync (b : Board) (hsync : Bool) : Option (Board × Nat) :=
  (Vga.assertHsync b.vga hsync).map fun r =>
    ({ b with vdcHsync := hsync, vga := r.1 }, r.2)

/-- `vdc_vsync` -/
def assertVsync (b : Board) (vsync : Bool) : Board :=
  { b with vdcVsync := vsync, vga := Vga.assertVsync b.vga vsync }

/-! ## The parallel interface and the sound generator -/

/-- What the mainboard answers on the ports of the sound generator. -/
def psgPorts (b : Board) : Psg.Ports := ⟨Kbd.getData b.kbd, 0xff, 0xff, 0xff⟩

/-- `psg_function` -/
def psgFunction (b : Board) : Byte :=
  ((b.psgBdir <<< 2) ||| (b.psgBc2 <<< 1) ||| b.psgBc1) &&& 0x07

/-- The cases of `psg_update` that write: latch the index, or the value. -/
def psgUpdate (b : Board) (data : Byte) : Board :=
  if b.psgFunction == 0x06 then
    { b with psg := Psg.setValue b.psg b.psgPorts data }
  else if b.psgFunction == 0x07 then
    { b with psg := Psg.setIndex b.psg data }
  else
    b

/-- `ppi_port_a_rd` -/
def ppiPortARd (b : Board) (data : Byte) : Byte × Board :=
  if b.psgFunction == 0x03 then
    let r := Psg.getValue b.psg b.psgPorts data
    (r.1, { b with psg := r.2 })
  else
    (0xff, b)

/-- `ppi_port_a_wr` -/
def ppiPortAWr (b : Board) (data : Byte) : Board :=
  psgUpdate { b with psgData := data } data

/-- `ppi_port_b_rd` -/
def ppiPortBRd (b : Board) : Byte :=
  ((b.casRdData &&& 0x01) <<< 7) ||| ((b.prtBusy &&& 0x01) <<< 6) |||
    ((b.expBusy &&& 0x01) <<< 5) ||| ((b.lnkLk4 &&& 0x01) <<< 4) |||
    ((b.lnkLk3 &&& 0x01) <<< 3) ||| ((b.lnkLk2 &&& 0x01) <<< 2) |||
    ((b.lnkLk1 &&& 0x01) <<< 1) ||| (if b.vdcVsync then 0x01 else 0x00)

/-- `ppi_port_c_wr` -/
def ppiPortCWr (b : Board) (data : Byte) : Board :=
  let b := { b with
    psgBdir := (data &&& 0x80) >>> 7
    psgBc1 := (data &&& 0x40) >>> 6
    casWrData := (data &&& 0x20) >>> 5
    casMotor := (data &&& 0x10) >>> 4
    kbd := Kbd.setLine b.kbd (data &&& 0x0f) }
  b.psgUpdate b.psgData

/-- The mainboard as the `ppi::Interface`. Reading port C is illegal and
answers `0xff`, writing port B does nothing. -/
def ppiInterface : Ppi.Interface Board where
  aRd := ppiPortARd
  aWr := ppiPortAWr
  bRd b _ := (b.ppiPortBRd, b)
  bWr b _ := b
  cRd b _ := (0xff, b)
  cWr := ppiPortCWr

/-- A read of a port of the parallel interface. -/
def ppiRead (b : Board)
    (rd : Ppi.State → Board → Byte → Byte × Ppi.State × Board) (data : Byte) :
    Byte × Board :=
  let r := rd b.ppi b data
  (r.1, { r.2.2 with ppi := r.2.1 })

/-- A write to a port of the parallel interface. -/
def ppiWrite (b : Board) (wr : Ppi.State → Board → Byte → Ppi.State × Board)
    (data : Byte) : Board :=
  let r := wr b.ppi b data
  { r.2 with ppi := r.1 }

def rdPortA (b : Board) : Byte → Byte × Board := b.ppiRead (Ppi.rdPortA ppiInterface)

def rdPortB (b : Board) : Byte → Byte × Board := b.ppiRead (Ppi.rdPortB ppiInterface)

def rdPortC (b : Board) : Byte → Byte × Board := b.ppiRead (Ppi.rdPortC ppiInterface)

def wrPortA (b : Board) : Byte → Board := b.ppiWrite (Ppi.wrPortA ppiInterface)

def wrPortB (b : Board) : Byte → Board := b.ppiWrite (Ppi.wrPortB ppiInterface)

def wrPortC (b : Board) : Byte → Board := b.ppiWrite (Ppi.wrPortC ppiInterface)

def wrCtrlP (b : Board) : Byte → Board := b.ppiWrite (Ppi.wrCtrlP ppiInterface)

/-! ## The ports

A port is decoded by single address lines, so one access can reach several
devices, in the order of the source. -/

/-- `(port & mask) == 0` -/
def selects (port mask : Word) : Bool := port &&& mask == 0

/-- `(port >> 8) & 3` -/
def function (port : Word) : BitVec 2 := port.extractLsb' 8 2

/-- The part of `cpu_iorq_rd` that reads the display controller. -/
def iorqRdVdc (b : Board) (port : Word) (data : Byte) : Byte × Board :=
  if selects port 0x4000 then
    match (function port).toNat with
    | 0 => (0xff, b)
    | 1 => (0xff, b)
    | 2 => (Vdc.getIndex b.vdc data, b)
    | _ =>
        let r := Vdc.getValue b.vdc data
        (r.1, { b with vdc := r.2 })
  else
    (data, b)

/-- The part of `cpu_iorq_rd` that reads the parallel interface. -/
def iorqRdPpi (b : Board) (port : Word) (data : Byte) : Byte × Board :=
  if selects port 0x0800 then
    match (function port).toNat with
    | 0 => b.rdPortA data
    | 1 => b.rdPortB data
    | 2 =>
        let r := b.rdPortC data
        (r.1 &&& 0xf0, r.2)
    | _ => (0xff, b)
  else
    (data, b)

/-- `cpu_iorq_rd` up to the disk controller. Reading the gate array answers
`0xff`. -/
def iorqRd (b : Board) (port : Word) : Byte × Board :=
  let data : Byte := if selects port 0x8000 then 0xff else 0x00
  let r := b.iorqRdVdc port data
  r.2.iorqRdPpi port r.1

/-- The part of `cpu_iorq_wr` that writes the gate array. An access outside
its array is undefined in the source; this total version drops it. -/
def iorqWrVga (b : Board) (port : Word) (data : Byte) : Board :=
  if selects port 0x8000 then (b.vgaSetValue data).getD b else b

/-- The part of `cpu_iorq_wr` that writes the display controller. -/
def iorqWrVdc (b : Board) (port : Word) (data : Byte) : Board :=
  if selects port 0x4000 then
    match (function port).toNat with
    | 0 => { b with vdc := Vdc.setIndex b.vdc data }
    | 1 => { b with vdc := Vdc.setValue b.vdc data }
    | _ => b
  else
    b

/-- The part of `cpu_iorq_wr` that selects a ROM. -/
def iorqWrRom (b : Board) (port : Word) (data : Byte) : Board :=
  if selects port 0x2000 then b.vgaSetupRom data else b

/-- The part of `cpu_iorq_wr` that writes the parallel interface. -/
def iorqWrPpi (b : Board) (port : Word) (data : Byte) : Board :=
  if selects port 0x0800 then
    match (function port).toNat with
    | 0 => b.wrPortA data
    | 1 => b.wrPortB data
    | 2 => b.wrPortC data
    | _ => b.wrCtrlP data
  else
    b

/-- `cpu_iorq_wr` up to the disk controller. -/
def iorqWr (b : Board) (port : Word) (data : Byte) : Board :=
  (((b.iorqWrVga port data).iorqWrVdc port data).iorqWrRom port
    data).iorqWrPpi port data

/-- `Mainboard::reset` but for the processor and the disk controller. The
links, the busy lines and `BC2` keep their levels, and the ROMs their
content. -/
def reset (b : Board) : Board :=
  updatePal
    { b with
      vdcHsync := false
      vdcVsync := false
      psgData := 0
      psgBdir := 0
      psgBc1 := 0
      casMotor := 0
      casRdData := 0
      casWrData := 0
      ramConf := 0
      romConf := 0
      kbd := Kbd.reset
      vga := Vga.reset b.vga
      vdc := Vdc.reset
      ppi := Ppi.reset
      psg := Psg.reset
      ram := fun _ _ => 0 }

end Board

end Xcpc.Cpc
