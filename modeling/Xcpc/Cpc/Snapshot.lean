import Xcpc.Cpc.Board

/-!
# Saving and loading the machine

`Mainboard::save_cpc` fills a snapshot from the devices and
`Mainboard::load_cpc` does the reverse, after a reset. They are a sequence of
local functions, one for each device, and each of these is a function here.

Three kinds of state travel differently. The registers of the processor and of
the gate array are copied. The display controller, the sound generator and the
parallel interface are restored by writing to their ports again, which masks
what is written and has the side effects of a write. Memory is copied by whole
banks, as many as the header's size asks for.
-/

namespace Xcpc.Cpu

/-- `get_im_l` -/
def getIm (st : Status) : Byte :=
  (if st.im1 then 1 else 0) ||| (if st.im2 then 2 else 0)

/-- `set_im_l` -/
def setIm (st : Status) (data : Byte) : Status :=
  match data.toNat with
  | 1 => { st with im1 := true, im2 := false }
  | 2 => { st with im1 := false, im2 := true }
  | 3 => { st with im1 := true, im2 := true }
  | _ => { st with im1 := false, im2 := false }

/-- `get_iff1` and `get_iff2` -/
def getIff (iff : Bool) : Byte := if iff then 1 else 0

/-- `load_cpu` -/
def Instance.load {β : Type} (s : Instance β) (h : Sna.Header) : Instance β :=
  { s with
    regs :=
      { af := ⟨h.cpuPAfH, h.cpuPAfL⟩
        bc := ⟨h.cpuPBcH, h.cpuPBcL⟩
        de := ⟨h.cpuPDeH, h.cpuPDeL⟩
        hl := ⟨h.cpuPHlH, h.cpuPHlL⟩
        ix := ⟨h.cpuPIxH, h.cpuPIxL⟩
        iy := ⟨h.cpuPIyH, h.cpuPIyL⟩
        sp := ⟨h.cpuPSpH, h.cpuPSpL⟩
        pc := ⟨h.cpuPPcH, h.cpuPPcL⟩
        ir := ⟨h.cpuPIrH, h.cpuPIrL⟩
        afP := ⟨h.cpuAAfH, h.cpuAAfL⟩
        bcP := ⟨h.cpuABcH, h.cpuABcL⟩
        deP := ⟨h.cpuADeH, h.cpuADeL⟩
        hlP := ⟨h.cpuAHlH, h.cpuAHlL⟩ }
    st := setIm
      { s.st with iff1 := h.cpuPIff1 != 0, iff2 := h.cpuPIff2 != 0 }
      h.cpuPImL }

/-- `save_cpu` -/
def Instance.save {β : Type} (s : Instance β) (h : Sna.Header) : Sna.Header :=
  { h with
    cpuPAfL := s.regs.af.l, cpuPAfH := s.regs.af.h
    cpuPBcL := s.regs.bc.l, cpuPBcH := s.regs.bc.h
    cpuPDeL := s.regs.de.l, cpuPDeH := s.regs.de.h
    cpuPHlL := s.regs.hl.l, cpuPHlH := s.regs.hl.h
    cpuPIrL := s.regs.ir.l, cpuPIrH := s.regs.ir.h
    cpuPIff1 := getIff s.st.iff1
    cpuPIff2 := getIff s.st.iff2
    cpuPIxL := s.regs.ix.l, cpuPIxH := s.regs.ix.h
    cpuPIyL := s.regs.iy.l, cpuPIyH := s.regs.iy.h
    cpuPSpL := s.regs.sp.l, cpuPSpH := s.regs.sp.h
    cpuPPcL := s.regs.pc.l, cpuPPcH := s.regs.pc.h
    cpuPImL := getIm s.st
    cpuAAfL := s.regs.afP.l, cpuAAfH := s.regs.afP.h
    cpuABcL := s.regs.bcP.l, cpuABcH := s.regs.bcP.h
    cpuADeL := s.regs.deP.l, cpuADeH := s.regs.deP.h
    cpuAHlL := s.regs.hlP.l, cpuAHlH := s.regs.hlP.h }

end Xcpc.Cpu

namespace Xcpc.Cpc.Board

open Sna (Header Bank)

/-- The banks that the loops of `load_mem` and `save_mem` go through. The size
that remains is a `size_t`, so a size that is not whole banks wraps. -/
def banks : List (Fin 32) → BitVec 64 → List (Fin 8)
  | [], _ => []
  | i :: is, ramSize =>
      if h : ramSize ≠ 0 ∧ i.val < 8 then
        ⟨i, h.2⟩ :: banks is (ramSize - 16384)
      else
        []

/-- `load_mem` without the `update_pal` that it ends with. -/
def storeMem (b : Board) (s : Sna.State) : Board :=
  let size := min s.header.ramSize b.memorySize.bytes
  { b with
    ram := (banks (List.finRange 32) (BitVec.ofNat 64 size)).foldl
      (fun ram i => Function.update ram i (s.memory (i.castLE (by decide))))
      b.ram }

/-- `load_mem` -/
def loadMem (b : Board) (s : Sna.State) : Board := (b.storeMem s).updatePal

/-- `save_mem` -/
def saveMem (b : Board) (s : Sna.State) : Sna.State where
  header :=
    { s.header with
      ramSizeH := BitVec.ofNat 8 (b.memorySize.bytes >>> 18)
      ramSizeL := BitVec.ofNat 8 (b.memorySize.bytes >>> 10) }
  memory :=
    (banks (List.finRange 32) (BitVec.ofNat 64 b.memorySize.bytes)).foldl
      (fun memory i =>
        Function.update memory (i.castLE (by decide)) (b.ram i))
      s.memory

/-! ## Devices -/

/-- `load_vga` -/
def loadVga (b : Board) (h : Header) : Board :=
  { b with
    vga := { b.vga with pen := h.vgaInkIx, ink := h.vgaInk, rmr := h.vgaConfig } }

/-- `save_vga` -/
def saveVga (b : Board) (h : Header) : Header :=
  { h with vgaInkIx := b.vga.pen, vgaInk := b.vga.ink, vgaConfig := b.vga.rmr }

/-- `load_vdc`. The index `0xff` of `set_vdc` restores the address register. -/
def loadVdc (b : Board) (h : Header) : Board :=
  let vdc := (List.finRange 18).foldl
    (fun vdc (i : Fin 18) =>
      Vdc.setValue (Vdc.setIndex vdc (BitVec.ofNat 8 i.val)) (h.vdcReg i))
    b.vdc
  { b with vdc := Vdc.setIndex vdc h.vdcRegIx }

/-- `save_vdc` -/
def saveVdc (b : Board) (h : Header) : Header :=
  { h with vdcRegIx := b.vdc.addr, vdcReg := b.vdc.data }

/-- `load_ppi` -/
def loadPpi (b : Board) (h : Header) : Board :=
  (((b.wrPortA h.ppiPortA).wrPortB h.ppiPortB).wrPortC h.ppiPortC).wrCtrlP
    h.ppiCtrlP

/-- `save_ppi` -/
def savePpi (b : Board) (h : Header) : Header :=
  { h with
    ppiPortA := b.ppi.portA
    ppiPortB := b.ppi.portB
    ppiPortC := b.ppi.portC
    ppiCtrlP := b.ppi.ctrlP }

/-- `load_psg` -/
def loadPsg (b : Board) (h : Header) : Board :=
  let psg := (List.finRange 16).foldl
    (fun psg (i : Fin 16) =>
      Psg.setValue (Psg.setIndex psg (BitVec.ofNat 8 i.val)) b.psgPorts
        (h.psgReg i))
    b.psg
  { b with psg := Psg.setIndex psg h.psgRegIx }

/-- `save_psg` -/
def savePsg (b : Board) (h : Header) : Header :=
  { h with psgRegIx := b.psg.index, psgReg := b.psg.array }

/-- `load_ram` -/
def loadRam (b : Board) (h : Header) : Board := { b with ramConf := h.ramSelect }

/-- `load_rom` -/
def loadRom (b : Board) (h : Header) : Board := { b with romConf := h.romSelect }

/-- `save_ram` and `save_rom` -/
def saveConf (b : Board) (h : Header) : Header :=
  { h with ramSelect := b.ramConf, romSelect := b.romConf }

/-- `load_all` of `load_cpc`, from the gate array on. -/
def load (b : Board) (s : Sna.State) : Board :=
  ((((((b.loadVga s.header).loadVdc s.header).loadPpi s.header).loadPsg
    s.header).loadRam s.header).loadRom s.header).loadMem s

/-- `save_all` of `save_cpc`, from the gate array on. -/
def save (b : Board) (s : Sna.State) : Sna.State :=
  b.saveMem
    { s with
      header := b.saveConf (b.savePsg (b.savePpi (b.saveVdc
        (b.saveVga s.header)))) }

end Xcpc.Cpc.Board
