import Mathlib
import Xcpc.Cpu.Registers

/-!
# The snapshot format

A snapshot file is a header of 256 bytes and some memory banks of 16384. The
header names its fields and ends in padding; two of them hold the size of the
memory in kilobytes. The reader and the writer both decode that size and go
through the banks for as long as a whole one remains, up to the 32 of a
snapshot.

The reader reads into a snapshot that exists already, so a bank that the file
does not have keeps what it held. Reading past the end of the file is an
error, and so is a header with the wrong signature or version.
-/

namespace Xcpc.Sna

/-- `sna::Header`. A run of fields that differ by an index is one field. -/
structure Header where
  signature : Fin 8 → Byte
  reserved : Fin 8 → Byte
  version : Byte
  cpuPAfL : Byte
  cpuPAfH : Byte
  cpuPBcL : Byte
  cpuPBcH : Byte
  cpuPDeL : Byte
  cpuPDeH : Byte
  cpuPHlL : Byte
  cpuPHlH : Byte
  cpuPIrL : Byte
  cpuPIrH : Byte
  cpuPIff1 : Byte
  cpuPIff2 : Byte
  cpuPIxL : Byte
  cpuPIxH : Byte
  cpuPIyL : Byte
  cpuPIyH : Byte
  cpuPSpL : Byte
  cpuPSpH : Byte
  cpuPPcL : Byte
  cpuPPcH : Byte
  cpuPImL : Byte
  cpuAAfL : Byte
  cpuAAfH : Byte
  cpuABcL : Byte
  cpuABcH : Byte
  cpuADeL : Byte
  cpuADeH : Byte
  cpuAHlL : Byte
  cpuAHlH : Byte
  vgaInkIx : Byte
  vgaInk : Fin 17 → Byte
  vgaConfig : Byte
  ramSelect : Byte
  vdcRegIx : Byte
  vdcReg : Fin 18 → Byte
  romSelect : Byte
  ppiPortA : Byte
  ppiPortB : Byte
  ppiPortC : Byte
  ppiCtrlP : Byte
  psgRegIx : Byte
  psgReg : Fin 16 → Byte
  ramSizeL : Byte
  ramSizeH : Byte
  padding : Fin 147 → Byte

/-- The content of a bank, by its offset. -/
abbrev Bank := BitVec 14 → Byte

/-- `sna::State` -/
structure State where
  header : Header
  memory : Fin 32 → Bank

/-- The next `n` bytes as a field, and the bytes after it. -/
def field (n : Nat) (bs : List Byte) : (Fin n → Byte) × List Byte :=
  (fun i => bs.getD i 0, bs.drop n)

/-- The bytes of a header in the order of its fields, which is how
`SnapshotWriter` writes them. -/
def Header.toBytes (h : Header) : List Byte :=
  List.ofFn h.signature ++
    List.ofFn h.reserved ++
    List.ofFn ![h.version, h.cpuPAfL, h.cpuPAfH, h.cpuPBcL, h.cpuPBcH,
      h.cpuPDeL, h.cpuPDeH, h.cpuPHlL, h.cpuPHlH, h.cpuPIrL, h.cpuPIrH,
      h.cpuPIff1, h.cpuPIff2, h.cpuPIxL, h.cpuPIxH, h.cpuPIyL, h.cpuPIyH,
      h.cpuPSpL, h.cpuPSpH, h.cpuPPcL, h.cpuPPcH, h.cpuPImL, h.cpuAAfL,
      h.cpuAAfH, h.cpuABcL, h.cpuABcH, h.cpuADeL, h.cpuADeH, h.cpuAHlL,
      h.cpuAHlH, h.vgaInkIx] ++
    List.ofFn h.vgaInk ++
    List.ofFn ![h.vgaConfig, h.ramSelect, h.vdcRegIx] ++
    List.ofFn h.vdcReg ++
    List.ofFn ![h.romSelect, h.ppiPortA, h.ppiPortB, h.ppiPortC, h.ppiCtrlP,
      h.psgRegIx] ++
    List.ofFn h.psgReg ++
    List.ofFn ![h.ramSizeL, h.ramSizeH] ++
    List.ofFn h.padding

/-- The header that `fread` leaves behind. -/
def Header.ofBytes (bs : List Byte) : Header :=
  let signature := field 8 bs
  let reserved := field 8 signature.2
  let cpu := field 31 reserved.2
  let vgaInk := field 17 cpu.2
  let vga := field 3 vgaInk.2
  let vdcReg := field 18 vga.2
  let ppi := field 6 vdcReg.2
  let psgReg := field 16 ppi.2
  let ram := field 2 psgReg.2
  let padding := field 147 ram.2
  { signature := signature.1
    reserved := reserved.1
    version := cpu.1 0
    cpuPAfL := cpu.1 1
    cpuPAfH := cpu.1 2
    cpuPBcL := cpu.1 3
    cpuPBcH := cpu.1 4
    cpuPDeL := cpu.1 5
    cpuPDeH := cpu.1 6
    cpuPHlL := cpu.1 7
    cpuPHlH := cpu.1 8
    cpuPIrL := cpu.1 9
    cpuPIrH := cpu.1 10
    cpuPIff1 := cpu.1 11
    cpuPIff2 := cpu.1 12
    cpuPIxL := cpu.1 13
    cpuPIxH := cpu.1 14
    cpuPIyL := cpu.1 15
    cpuPIyH := cpu.1 16
    cpuPSpL := cpu.1 17
    cpuPSpH := cpu.1 18
    cpuPPcL := cpu.1 19
    cpuPPcH := cpu.1 20
    cpuPImL := cpu.1 21
    cpuAAfL := cpu.1 22
    cpuAAfH := cpu.1 23
    cpuABcL := cpu.1 24
    cpuABcH := cpu.1 25
    cpuADeL := cpu.1 26
    cpuADeH := cpu.1 27
    cpuAHlL := cpu.1 28
    cpuAHlH := cpu.1 29
    vgaInkIx := cpu.1 30
    vgaInk := vgaInk.1
    vgaConfig := vga.1 0
    ramSelect := vga.1 1
    vdcRegIx := vga.1 2
    vdcReg := vdcReg.1
    romSelect := ppi.1 0
    ppiPortA := ppi.1 1
    ppiPortB := ppi.1 2
    ppiPortC := ppi.1 3
    ppiCtrlP := ppi.1 4
    psgRegIx := ppi.1 5
    psgReg := psgReg.1
    ramSizeL := ram.1 0
    ramSizeH := ram.1 1
    padding := padding.1 }

theorem field_ofFn {n : Nat} (f : Fin n → Byte) (rest : List Byte) :
    field n (List.ofFn f ++ rest) = (f, rest) := by
  unfold field
  congr 1
  · funext i
    rw [List.getD_eq_getElem?_getD, List.getElem?_append_left (by simp)]
    simp
  · exact List.drop_left' (List.length_ofFn)

theorem Header.length_toBytes (h : Header) : h.toBytes.length = 256 := by
  simp only [toBytes, List.length_append, List.length_ofFn]

/-- A header comes back from its bytes, whatever follows them. -/
theorem Header.ofBytes_toBytes (h : Header) (rest : List Byte) :
    ofBytes (h.toBytes ++ rest) = h := by
  simp only [ofBytes, toBytes, List.append_assoc, field_ofFn]
  rfl

/-- `(ram_size_h << 18) | (ram_size_l << 10)` -/
def Header.ramSize (h : Header) : Nat :=
  (h.ramSizeH.toNat <<< 18) ||| (h.ramSizeL.toNat <<< 10)

/-- `"MV - SNA"` -/
def signature : Fin 8 → Byte :=
  ![0x4d, 0x56, 0x20, 0x2d, 0x20, 0x53, 0x4e, 0x41]

/-- `StateTraits::check` -/
def check (h : Header) : Except String Unit :=
  if List.ofFn h.signature != List.ofFn signature then
    throw "bad signature"
  else if h.version != 1 && h.version != 2 && h.version != 3 then
    throw "bad version"
  else
    return ()

/-- `sizeof(memory.data)` -/
def memorySize : Nat := 16384

def Bank.toBytes (b : Bank) : List Byte :=
  List.ofFn fun i : Fin memorySize => b (BitVec.ofNat 14 i)

/-- The bank that `fread` leaves behind. -/
def Bank.ofBytes (bs : List Byte) : Bank := fun o => bs.getD o.toNat 0

/-- The loop of `SnapshotReader::load` over the banks that are left. -/
def loadBanks : List (Fin 32) → Nat → List Byte → (Fin 32 → Bank) →
    Except String (Fin 32 → Bank)
  | [], _, _, memory => return memory
  | i :: is, remaining, file, memory =>
      if remaining ≥ memorySize then
        if file.length < memorySize then
          throw "unable to load snapshot memory"
        else
          loadBanks is (remaining - memorySize) (file.drop memorySize)
            (Function.update memory i (Bank.ofBytes file))
      else
        return memory

/-- `SnapshotReader::load` of a file into a snapshot. -/
def load (s : State) (file : List Byte) : Except String State := do
  check s.header
  if file.length < 256 then
    throw "unable to load snapshot header"
  let header := Header.ofBytes file
  check header
  let memory ← loadBanks (List.finRange 32) header.ramSize (file.drop 256)
    s.memory
  return ⟨header, memory⟩

/-- The loop of `SnapshotWriter::save` over the banks that are left. -/
def saveBanks : List (Fin 32) → Nat → (Fin 32 → Bank) → List Byte
  | [], _, _ => []
  | i :: is, remaining, memory =>
      if remaining ≥ memorySize then
        (memory i).toBytes ++ saveBanks is (remaining - memorySize) memory
      else
        []

/-- `SnapshotWriter::save`, the bytes of the file. -/
def save (s : State) : Except String (List Byte) := do
  check s.header
  return s.header.toBytes ++
    saveBanks (List.finRange 32) s.header.ramSize s.memory

/-- The `Snapshot` that the constructor makes: zeros, the signature and the
first version. -/
def fresh : State where
  header :=
    { Header.ofBytes [] with signature := signature, version := 1 }
  memory := fun _ _ => 0

end Xcpc.Sna
