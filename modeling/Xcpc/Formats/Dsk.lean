import Xcpc.Cpu.Registers
import Xcpc.Lib.Reader

/-!
# The disk image format

A disk image is a header of 256 bytes and a block for each track, in the order
of the tracks and of the sides within a track. A block is a track header of 24
bytes, a table of 29 sector headers of 8 bytes, and the data of as many
sectors as the track header says, each as long as its own header says.

The reader keeps one track: each block is read over the one before. It takes
what it needs from the file and has no other position than that; the size of a
track, which the disk header gives, is fetched and not used.
-/

namespace Xcpc.Dsk

open Prog

/-- `"MV - CPCEMU Disk-File\r\n"` -/
def stdMagic : List Byte :=
  [0x4d, 0x56, 0x20, 0x2d, 0x20, 0x43, 0x50, 0x43, 0x45, 0x4d, 0x55, 0x20, 0x44,
    0x69, 0x73, 0x6b, 0x2d, 0x46, 0x69, 0x6c, 0x65, 0x0d, 0x0a]

/-- `"EXTENDED CPC DSK File\r\n"` -/
def extMagic : List Byte :=
  [0x45, 0x58, 0x54, 0x45, 0x4e, 0x44, 0x45, 0x44, 0x20, 0x43, 0x50, 0x43, 0x20,
    0x44, 0x53, 0x4b, 0x20, 0x46, 0x69, 0x6c, 0x65, 0x0d, 0x0a]

/-- `"Disk-Info\r\n"` -/
def dskInfo : List Byte :=
  [0x44, 0x69, 0x73, 0x6b, 0x2d, 0x49, 0x6e, 0x66, 0x6f, 0x0d, 0x0a]

/-- `"Track-Info\r\n"` -/
def trkInfo : List Byte :=
  [0x54, 0x72, 0x61, 0x63, 0x6b, 0x2d, 0x49, 0x6e, 0x66, 0x6f, 0x0d, 0x0a]

def minNumberOfSides : Byte := 1
def maxNumberOfSides : Byte := 2
def minNumberOfTracks : Byte := 1
def maxNumberOfTracks : Byte := 80
def maxNumberOfSectors : Byte := 29
def maxSectorSize : Byte := 7

/-- The loops that compare a text. The result is `none` if the bytes differ
before the first `minCount`, and otherwise whether they differ later, which
makes the rest of the check relaxed. -/
def compareText (minCount : Nat) : Nat → List Byte → List Byte → Option Bool
  | index, text :: texts, byte :: bytes =>
      if byte ≠ text then
        if index ≥ minCount then some true else none
      else
        compareText minCount (index + 1) texts bytes
  | _, _, _ => some false

/-! ## The records -/

/-- The bytes of a field of a record. -/
def slice {n : Nat} (raw : Fin n → Byte) (start len : Nat) : List Byte :=
  ((List.ofFn raw).drop start).take len

structure DiskRecord where
  raw : Fin 256 → Byte

namespace DiskRecord

def magic (d : DiskRecord) : List Byte := slice d.raw 0 23
def signature (d : DiskRecord) : List Byte := slice d.raw 23 11
def numberOfTracks (d : DiskRecord) : Byte := d.raw 48
def numberOfSides (d : DiskRecord) : Byte := d.raw 49

/-- `get_track_size` -/
def trackSize (d : DiskRecord) : Nat :=
  (d.raw 51).toNat <<< 8 ||| (d.raw 50).toNat

/-- `DiskInfoAdapter::check` -/
def check (d : DiskRecord) : Except String Unit :=
  match compareText 8 0 stdMagic d.magic <|>
      compareText 8 0 extMagic d.magic with
  | none => throw "disk has a bad magic"
  | some relaxed =>
      -- A relaxed comparison goes through the signature without a failure.
      if !relaxed && (compareText 9 0 dskInfo d.signature).isNone then
        throw "disk has a bad signature"
      else if d.numberOfTracks < minNumberOfTracks ∨
          d.numberOfTracks > maxNumberOfTracks then
        throw "disk has a bad number of tracks"
      else if d.numberOfSides < minNumberOfSides ∨
          d.numberOfSides > maxNumberOfSides then
        throw "disk has a bad number of sides"
      else
        return ()

end DiskRecord

structure TrackRecord where
  raw : Fin 24 → Byte

namespace TrackRecord

def signature (t : TrackRecord) : List Byte := slice t.raw 0 12
def trackNumber (t : TrackRecord) : Byte := t.raw 16
def sideNumber (t : TrackRecord) : Byte := t.raw 17
def sectorSize (t : TrackRecord) : Byte := t.raw 20
def numberOfSectors (t : TrackRecord) : Byte := t.raw 21
def fillerByte (t : TrackRecord) : Byte := t.raw 23

/-- `TrackInfoAdapter::check` -/
def check (t : TrackRecord) : Except String Unit :=
  if (compareText 10 0 trkInfo t.signature).isNone then
    throw "track has a bad signature"
  else if t.trackNumber ≥ maxNumberOfTracks then
    throw "track has a bad track number"
  else if t.sideNumber ≥ maxNumberOfSides then
    throw "track has a bad side number"
  else if t.sectorSize ≥ maxSectorSize then
    throw "track has a bad sector size"
  else if t.numberOfSectors ≥ maxNumberOfSectors then
    throw "track has a bad number of sectors"
  else
    return ()

end TrackRecord

/-- The `info` of a `SectorRecord`. -/
structure SectorInfo where
  raw : Fin 8 → Byte

namespace SectorInfo

def fdcC (s : SectorInfo) : Byte := s.raw 0
def fdcH (s : SectorInfo) : Byte := s.raw 1
def fdcN (s : SectorInfo) : Byte := s.raw 3

/-- `SectorInfoAdapter::check` -/
def check (s : SectorInfo) : Except String Unit :=
  if s.fdcC ≥ maxNumberOfTracks then
    throw "sector has a bad track number"
  else if s.fdcH ≥ maxNumberOfSides then
    throw "sector has a bad side number"
  else if s.fdcN ≥ maxSectorSize then
    throw "sector has a bad sector size"
  else
    return ()

end SectorInfo

/-- The `data` of a `SectorRecord`, as long as its longest member. -/
abbrev SectorData := Fin 8192 → Byte

structure SectorRecord where
  info : SectorInfo
  data : SectorData

structure ImageRecord where
  disk : DiskRecord
  track : TrackRecord
  sector : Fin 29 → SectorRecord

/-! ## The reader -/

/-- `fetch_data` of `n` bytes -/
def fetchData (n : Nat) : Reader Byte String (Fin n → Byte) := fun file =>
  if file.length < n then
    .error "fetch_data() has failed"
  else
    .ok (fun i => file.getD i 0, file.drop n)

/-- `fetch_header` -/
def fetchHeader (image : ImageRecord) : Reader Byte String ImageRecord := do
  let raw ← fetchData 256
  let disk : DiskRecord := ⟨raw⟩
  disk.check
  return { image with disk := disk }

/-- `fetch_track_info` -/
def fetchTrackInfo : Reader Byte String TrackRecord := do
  let raw ← fetchData 24
  let track : TrackRecord := ⟨raw⟩
  track.check
  return track

/-- `fetch_sector_info`: all the sector headers of the table are read, and the
first ones are checked. -/
def fetchSectorInfo (numberOfSectors : Byte) :
    Reader Byte String (Fin 29 → SectorInfo) :=
  .fin 29 fun currentSector => do
    let raw ← fetchData 8
    let info : SectorInfo := ⟨raw⟩
    if currentSector.val < numberOfSectors.toNat then
      info.check
    return info

/-- The size of the member of `data` that `SectorDataAdapter::fetch` reads for
a size code. -/
def rawSize (fdcN : Byte) : Option Nat :=
  match fdcN.toNat with
  | 0 => some 128
  | 1 => some 256
  | 2 => some 512
  | 3 => some 1024
  | 4 => some 2048
  | 5 => some 4096
  | 6 => some 8192
  | _ => none

/-- `SectorDataAdapter::fetch` over the data that is there. -/
def SectorInfo.fetchData (info : SectorInfo) (data : SectorData) :
    Reader Byte String SectorData :=
  match rawSize info.fdcN with
  | some size => do
      let raw ← Dsk.fetchData size
      return fun i => if h : i.val < size then raw ⟨i, h⟩ else data i
  | none => throw "unsupported sector size"

/-- `fetch_sector_data`: the data of every sector is cleared, and the first
ones are read. -/
def fetchSectorData (track : TrackRecord) (info : Fin 29 → SectorInfo) :
    Reader Byte String (Fin 29 → SectorData) :=
  .fin 29 fun currentSector =>
    if currentSector.val < track.numberOfSectors.toNat then
      (info currentSector).fetchData fun _ => track.fillerByte
    else
      return fun _ => track.fillerByte

/-- The body of the loop over the sides. -/
def fetchTrack (image : ImageRecord) : Reader Byte String ImageRecord := do
  let track ← fetchTrackInfo
  let info ← fetchSectorInfo track.numberOfSectors
  let data ← fetchSectorData track info
  return { image with
    track := track
    sector := fun i => ⟨info i, data i⟩ }

/-- `fetch_tracks` -/
def fetchTracks (image : ImageRecord) : Reader Byte String ImageRecord :=
  .loop image.disk.numberOfTracks.toNat
    (.loop image.disk.numberOfSides.toNat fetchTrack) image

/-- `ImageAdapter::fetch` from a file that is open or not. -/
def fetch (file : Option (List Byte)) (image : ImageRecord) :
    Except String ImageRecord :=
  match file with
  | none => throw "file is not opened"
  | some bytes =>
      (·.1) <$> (fetchHeader image >>= fetchTracks) bytes

end Xcpc.Dsk
