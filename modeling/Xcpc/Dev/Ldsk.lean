import Xcpc.Dev.Fdc
import Xcpc.Formats.DskGeom

/-!
# Drives with a disk image

`LIBDSK_FLOPPY_DRIVE` is the class of drives that the emulator has. A drive
holds a disk, which is a file, and opens it when it is first used with the
motor on. From then on it passes what the controller wants to the driver of
the image.

Files are images of CPCEMU, standard or extended. The library has drivers for
other formats, which it tries after these two, and last one that takes any file
for a raw image. So other files can be in a drive too, but not here.

The geometry of an image is probed when it is opened, and again after track 0
was formatted. A disk whose geometry cannot be found for some errors is dropped.
-/

namespace Xcpc.Lib765

open Prog LibDsk

/-- The file of a disk and whether it can be written. -/
structure Disk where
  bytes : List Byte
  writable : Bool
  isImage : IsImage bytes

/-- What `LIBDSK_FLOPPY_DRIVE` adds to a drive: the disk that its file name
stands for, the open image and its geometry. -/
structure Ldsk where
  disk : Option Disk
  diskp : Option Cpcemu
  diskg : Geometry

namespace Ldsk

/-- `fdl_reset` -/
def reset (fd : FloppyDrive Ldsk) : FloppyDrive Ldsk :=
  { fd with image := { fd.image with disk := none, diskp := none } }

/-- `dsk_open` for an image of CPCEMU. The drivers that come before these two
are for what is no regular file. -/
def dskOpen (disk : Disk) : Option Cpcemu :=
  cpcOpen disk.bytes disk.writable false <|>
    cpcOpen disk.bytes disk.writable true

variable (rand : Nat → Nat)

/-- The drive with its image in a new state. -/
def withImage (fd : FloppyDrive Ldsk) (c : Cpcemu) (geom : Geometry) :
    FloppyDrive Ldsk :=
  { fd with image := { fd.image with diskp := some c, diskg := geom } }

/-- The errors of the probe that are ignored, which could be those of disks
that are not formatted. -/
def ignored : List DskErr := [.ok, .noAddr, .noData, .badFmt]

/-- `fdl_regeom` for an image that is open. -/
def regeom (fd : FloppyDrive Ldsk) (c : Cpcemu) : Bool × FloppyDrive Ldsk :=
  let (err, geom, c) := c.getgeom rand
  if err ∈ ignored then (true, withImage fd c geom) else (false, reset fd)

/-- `fdl_isready` -/
def isready (fd : FloppyDrive Ldsk) : Bool × FloppyDrive Ldsk :=
  if !fd.motor then (false, fd)
  else if fd.image.diskp.isSome then (true, fd)
  else
    match fd.image.disk with
    | none => (false, fd)
    | some disk =>
        match dskOpen disk with
        | none => (false, reset fd)
        | some c => regeom rand fd c

/-- `fdl_xlt_error` -/
def xltError : DskErr → FdErr
  | .ok => .ok
  | .seekFail => .seekFail
  | .noAddr => .noAddr
  | .noData => .noData
  | .dataErr => .dataErr
  | .notRdy => .notRdy
  | .rdonly => .readOnly
  | .notImpl | .overrun | .badFmt => .noSector

/-- `fdl_seek_cylinder` -/
def seekCylinder (fd : FloppyDrive Ldsk) (cylinder : Byte) :
    FdErr × FloppyDrive Ldsk :=
  match fd.image.diskp with
  | none => (.notRdy, fd)
  | some c =>
      let err := c.xseek cylinder.toNat 0
      if err = .ok then (.ok, { fd with cylinder := cylinder })
      else (xltError err, fd)

/-- `fdl_read_id` -/
def readId (fd : FloppyDrive Ldsk) (head : Byte) (_sector : Nat) :
    Transfer Ldsk Unit :=
  match fd.image.diskp with
  | none => ⟨.notRdy, [], (), fd⟩
  | some c =>
      let r := c.readSecid fd.image.diskg fd.cylinder.toNat head.toNat
      let fd := withImage fd r.2.2 fd.image.diskg
      match r.2.1 with
      | some fmt =>
          ⟨.ok, [.ofNat 8 fmt.cylinder, .ofNat 8 fmt.head, .ofNat 8 fmt.sector,
            getPsh fmt.secsize], (), fd⟩
      | none => ⟨xltError r.1, [], (), fd⟩

/-- The geometry with the flags of a command. -/
def flags (geom : Geometry) (t : Target) : Geometry :=
  { geom with noskip := !t.skipDeleted, fm := !t.mfm, nomulti := !t.multi }

/-- `fdl_read_sector` -/
def readSector (fd : FloppyDrive Ldsk) (t : Target) (len : Nat)
    (deleted : Option Bool) : Transfer Ldsk Bool :=
  match fd.image.diskp with
  | none => ⟨.notRdy, [], deleted.getD false, fd⟩
  | some c =>
      let geom := flags fd.image.diskg t
      let r := c.xread rand geom fd.cylinder.toNat t.head.toNat
        t.xcylinder.toNat t.xhead.toNat t.sector.toNat len deleted
      ⟨xltError r.1.err, r.1.stored, r.1.deleted, withImage fd r.2 geom⟩

/-- `dsk_xtread`, with the sectors that are left. The driver has no function
for tracks. -/
def xtread (geom : Geometry) (cylinder head cylExpect headExpect : Nat) :
    Nat → Nat → Cpcemu → DskErr × List Byte × Cpcemu
  | 0, _, c => (.ok, [], c)
  | n + 1, sector, c =>
      let (x, c) := c.xread rand geom cylinder head cylExpect headExpect
        sector geom.secsize none
      if x.err = .ok then
        let (err, bytes, c) :=
          xtread geom cylinder head cylExpect headExpect n (sector + 1) c
        (err, x.stored ++ bytes, c)
      else (x.err, x.stored, c)

/-- `fdl_read_track`, which leaves `*len` alone -/
def readTrack (fd : FloppyDrive Ldsk) (xcylinder xhead head : Byte)
    (len : Nat) : Transfer Ldsk Nat :=
  match fd.image.diskp with
  | none => ⟨.notRdy, [], len, fd⟩
  | some c =>
      let geom := fd.image.diskg
      let r := xtread rand geom fd.cylinder.toNat head.toNat xcylinder.toNat
        xhead.toNat geom.sectors geom.secbase c
      ⟨xltError r.1, r.2.1, len, withImage fd r.2.2 geom⟩

/-- `fdl_write_sector` -/
def writeSector (fd : FloppyDrive Ldsk) (t : Target) (buf : Nat → Byte)
    (len : Nat) (deleted : Bool) : FdErr × FloppyDrive Ldsk :=
  match fd.image.diskp with
  | none => (.notRdy, fd)
  | some c =>
      let geom := flags fd.image.diskg t
      let r := c.xwrite rand geom buf fd.cylinder.toNat t.head.toNat
        t.xcylinder.toNat t.xhead.toNat t.sector.toNat len deleted
      (xltError r.1, withImage fd r.2 geom)

/-- A sector of the table that the program sends. -/
def formbuf (track : Nat → Byte) (n : Nat) : Option Format :=
  (secsize (track (4 * n + 3))).map fun size =>
    ⟨(track (4 * n)).toNat, (track (4 * n + 1)).toNat,
      (track (4 * n + 2)).toNat, size⟩

/-- `fdl_format_track`. The number of sectors in the geometry is put back. -/
def formatTrack (fd : FloppyDrive Ldsk) (head sectors : Byte)
    (track : Nat → Byte) (filler : Byte) : Option (FdErr × FloppyDrive Ldsk) :=
  match fd.image.diskp with
  | none => some (.notRdy, fd)
  | some c => do
      let format ← (List.range sectors.toNat).mapM (formbuf track)
      let r := c.format fd.image.diskg fd.cylinder.toNat head.toNat format filler
      let fd := withImage fd r.2.2 r.2.1
      let fd := if fd.cylinder = 0 then (regeom rand fd r.2.2).2 else fd
      return (xltError r.1, fd)

/-- `fdl_eject` -/
def eject (fd : FloppyDrive Ldsk) : FloppyDrive Ldsk := reset fd

/-- `dsk_drive_status` and `cpcemu_status` for head 0. -/
def imageStatus (c : Cpcemu) (geom : Geometry) : Byte :=
  0x20 ||| (if geom.heads > 1 then 0x08 else 0) |||
    (if c.readonly then 0x40 else 0)

/-- `fdl_drive_status` -/
def driveStatus (fd : FloppyDrive Ldsk) : Byte × FloppyDrive Ldsk :=
  let r : Byte × FloppyDrive Ldsk :=
    match fd.image.diskp with
    | some c => (imageStatus c fd.image.diskg, fd)
    | none =>
        let r := isready rand fd
        (if r.1 then 0x20 else 0, r.2)
  let st := r.1
  let fd := r.2
  let st :=
    if fd.type = .fd525 then
      if st &&& 0x60 = 0x40 then st &&& ~~~0x40 else st
    else
      let st := if st &&& 0x20 = 0 then st ||| 0x40 else st
      if fd.readonly then st ||| 0x40 else st
  let st := if fd.cylinder = 0 then st ||| 0x10 else st
  let st := if fd.type = .fd35 ∧ !fd.motor then st &&& ~~~0x10 else st
  let st := if fd.heads > 1 then st ||| 0x08 else st
  (if !fd.motor then st &&& ~~~0x20 else st, fd)

/-- `fdv_libdsk` -/
def vtable : Vtable Ldsk where
  seekCylinder := seekCylinder
  readId := readId
  readSector := readSector rand
  readTrack := readTrack rand
  writeSector := writeSector rand
  formatTrack := formatTrack rand
  driveStatus := driveStatus rand
  isready := isready rand
  eject := eject

end Ldsk

end Xcpc.Lib765
