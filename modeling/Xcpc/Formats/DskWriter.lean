import Xcpc.Formats.Dsk

/-!
# Blank disks

What the emulator writes when it creates a disk: an image of the standard
format with 40 tracks of 9 sectors on one side. Every header goes through the
checks of the reader before it is stored, and the first that fails would end
the file there.
-/

namespace Xcpc.Dsk.Writer

/-- `"Disk-Utilities"` -/
def dskTool : List Byte :=
  [0x44, 0x69, 0x73, 0x6b, 0x2d, 0x55, 0x74, 0x69, 0x6c, 0x69, 0x74, 0x69, 0x65,
    0x73]

/-- The `constexpr` values of `ImageAdapter::store`. -/
def numberOfSides : Nat := 1
def numberOfTracks : Nat := 40
def numberOfSectors : Nat := 9
def sectorSize : Nat := 2
def trackSize : Nat := (24 + 29 * 8) + numberOfSectors * (128 * (1 <<< sectorSize))
def sectorBase : Nat := 0xc0
def gap3Length : Byte := 0x2a
def fillerByte : Byte := 0xe5

/-- A record with these bytes. -/
def record {n : Nat} (bytes : List Byte) : Fin n → Byte := fun i => bytes.getD i 0

/-- The disk header that `store_header` makes. -/
def headerBytes : List Byte :=
  stdMagic ++ dskInfo ++ dskTool ++
    [.ofNat 8 numberOfTracks, .ofNat 8 numberOfSides, .ofNat 8 trackSize,
      .ofNat 8 (trackSize >>> 8)] ++
    List.replicate 204 0

/-- `store_header` -/
def storeHeader : Except String (List Byte) := do
  let disk : DiskRecord := ⟨record headerBytes⟩
  disk.check
  return List.ofFn disk.raw

/-- The track header that `store_track_info` makes. -/
def trackBytes (currentTrack currentSide : Nat) : List Byte :=
  trkInfo ++
    [0, 0, 0, 0, .ofNat 8 currentTrack, .ofNat 8 currentSide, 0, 0,
      .ofNat 8 sectorSize, .ofNat 8 numberOfSectors, gap3Length, fillerByte]

/-- `store_track_info` -/
def storeTrackInfo (currentTrack currentSide : Nat) :
    Except String TrackRecord := do
  let track : TrackRecord := ⟨record (trackBytes currentTrack currentSide)⟩
  track.check
  return track

/-- A sector header that `store_sector_info` makes. -/
def infoBytes (currentTrack currentSide currentSector : Nat) : List Byte :=
  if currentSector < numberOfSectors then
    [.ofNat 8 currentTrack, .ofNat 8 currentSide,
      .ofNat 8 (sectorBase + (currentSector + 1)), .ofNat 8 sectorSize, 0, 0, 0, 0]
  else List.replicate 8 0

/-- The body of the loop of `store_sector_info`. -/
def storeSectorInfo (currentTrack currentSide currentSector : Nat) :
    Except String SectorInfo := do
  let info : SectorInfo :=
    ⟨record (infoBytes currentTrack currentSide currentSector)⟩
  info.check
  return info

/-- The body of the loop of `store_sector_data`, where `clear` has filled the
sector: `SectorDataAdapter::store`. -/
def storeSectorData (track : TrackRecord) (info : SectorInfo) :
    Except String (List Byte) :=
  match rawSize info.fdcN with
  | some size => return List.replicate size track.fillerByte
  | none => throw "unsupported sector size"

/-- The body of the loop over the sides. -/
def storeTrack (currentTrack currentSide : Nat) : Except String (List Byte) := do
  let track ← storeTrackInfo currentTrack currentSide
  let infos ← (List.range 29).mapM (storeSectorInfo currentTrack currentSide)
  let data ← (infos.take numberOfSectors).mapM (storeSectorData track)
  return List.ofFn track.raw ++ infos.flatMap (fun info => List.ofFn info.raw) ++
    data.flatten

/-- `ImageAdapter::store`, what it writes to a file that is open. -/
def store : Except String (List Byte) := do
  let header ← storeHeader
  let tracks ← (List.range numberOfTracks).mapM fun currentTrack =>
    (List.range numberOfSides).mapM fun currentSide =>
      storeTrack currentTrack currentSide
  return header ++ (tracks.map List.flatten).flatten

end Xcpc.Dsk.Writer
