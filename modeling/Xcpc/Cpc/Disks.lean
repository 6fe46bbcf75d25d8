import Xcpc.Cpc.Machine
import Xcpc.Dev.Ldsk
import Xcpc.Formats.DskWriter

/-!
# The machine with its disk drives

`fdc::Instance` with the two drives that the mainboard attaches, as the disk
controller of the machine. The user inserts disks, removes them and creates new
ones, where a disk is the content of its file, an image of CPCEMU. Once the
controller has left what its language defines there is none, and reading leaves
the data as it was.
-/

namespace Xcpc.Cpc

open LibDsk Lib765

/-- `fdc::Instance` -/
abbrev Disks := Option (Lib765.Fdc Ldsk)

namespace Disks

/-- `fd_newldsk`. Nothing reads the geometry before there is a disk. -/
def newldsk : FloppyDrive Ldsk where
  type := .none
  heads := 0
  readonly := false
  motor := false
  cylinder := 0
  image := ⟨none, none, ⟨0, 0, 0, 0, 0, .hd, 0, false, false, false⟩⟩

/-- The controller after `fdc_new` with drives 0 and 1 attached. -/
def create : Lib765.Fdc Ldsk where
  mainstat := 0x80
  cmdId := none
  cmdLen := 0
  cmdPos := 0
  cmdBuf := fun _ => 0
  execBuf := fun _ => 0
  execLen := 0
  execPos := 0
  resultBuf := fun _ => 0
  resultLen := 0
  resultPos := 0
  interrupting := 0
  specify := (0, 0)
  lastidread := 0
  writeDeleted := false
  st0 := 0
  st1 := 0
  st2 := 0
  st3 := 0
  curunit := 0
  curhead := 0
  drive n := if n = 0 ∨ n = 1 then some newldsk else none

/-- `StateTraits::reset`. A drive keeps its motor and its cylinder. -/
def reset (s : Lib765.Fdc Ldsk) : Lib765.Fdc Ldsk :=
  { s.reset with drive := fun n => (s.drive n).map Ldsk.eject }

/-- `insert_disk` and `remove_disk`, which is to insert none. -/
def insert (s : Lib765.Fdc Ldsk) (n : BitVec 2) (disk : Option Disk) :
    Lib765.Fdc Ldsk :=
  { s with
    drive := Function.update s.drive n ((s.drive n).map fun fd =>
      { Ldsk.eject fd with
        image := { (Ldsk.eject fd).image with disk := disk } }) }

/-- An image of one track with one sector, for fixed runs. -/
def oneSector (writable : Bool) : Disk where
  bytes :=
    stdMagic ++ List.replicate 40 0 ++ [1, 1, 0x00, 0x03] ++
      List.replicate 204 0 ++
      (trkMagic ++
        [0, 0, 0, 0, 0, 0, 0, 0, 0, 0, 2, 1, 0x2a, 0xe5, 0, 0, 0xc1, 2] ++
        List.replicate 228 0) ++
      List.replicate 512 0xe5
  writable := writable
  isImage := by decide +kernel

variable (rand : Nat → Nat)

/-- The controller as the mainboard uses it. -/
def device : Fdc Disks where
  reset s := s.map reset
  rdStat s data := ((s.map Lib765.Fdc.readCtrl).getD data, s)
  rdData s data :=
    match s.bind (Lib765.Fdc.readData (Ldsk.vtable rand)) with
    | some (value, s) => (value, some s)
    | none => (data, none)
  wrStat s _ := s
  wrData s data := s.bind fun s => s.writeData (Ldsk.vtable rand) data
  setMotor s running := s.bind fun s => s.setMotor (Ldsk.vtable rand) running

end Disks

namespace Machine

def withDisks (m : Machine Disks) (f : Disks) : Machine Disks :=
  { m with bus := { m.bus with fdc := f } }

/-- `insert_disk_into_drive0`, `remove_disk_from_drive0` and the same for
drive 1. -/
def insertDisk (m : Machine Disks) (n : BitVec 2) (disk : Option Disk) :
    Machine Disks :=
  m.withDisks (m.bus.fdc.map fun s => Disks.insert s n disk)

end Machine

end Xcpc.Cpc
