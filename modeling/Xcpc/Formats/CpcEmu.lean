import Xcpc.Dev.Floppy
import Xcpc.Lib.Buffer

/-!
# The disk image driver

The driver of libdsk for the images of CPCEMU, standard and extended. It keeps
the disk header of the image, which is read when the image is opened, and the
header of the track it used last. Sectors are looked up in the track header
and transferred at their place in the file.

A track may hold several records with the ID of one sector, and a sector may
be longer in the file than its header says. Both are ways to store a sector
that reads differently each time, and `rand` picks the copy. The values of
`rand` are a parameter and the driver counts how many it has drawn.

What lies behind a header of 256 bytes in memory is left open. Writing to the
file does not fail.
-/

namespace Xcpc.LibDsk

open Prog

/-- The `DSK_ERR_*` that occur. -/
inductive DskErr where
  | ok
  | notImpl
  | notRdy
  | rdonly
  | seekFail
  | dataErr
  | noData
  | noAddr
  | overrun
  | badFmt
deriving DecidableEq, Repr

/-- A `FILE`: its bytes and the position in it. -/
structure File where
  bytes : List Byte
  pos : Nat

namespace File

def seek (f : File) (pos : Nat) : File := { f with pos := pos }

/-- `fread` -/
def read (f : File) (n : Nat) : List Byte × File :=
  let xs := (f.bytes.drop f.pos).take n
  (xs, { f with pos := f.pos + xs.length })

/-- The bytes with `xs` in them from `pos` on, after zeros where the file is
too short. -/
def splice (bytes : List Byte) (pos : Nat) (xs : List Byte) : List Byte :=
  if xs = [] then bytes
  else
    (bytes ++ List.replicate (pos - bytes.length) 0).take pos ++ xs ++
      bytes.drop (pos + xs.length)

/-- `fwrite` -/
def write (f : File) (xs : List Byte) : File :=
  ⟨splice f.bytes f.pos xs, f.pos + xs.length⟩

end File

/-- `dsk_rate_t` -/
inductive Rate where
  | hd
  | dd
  | sd
  | ed
deriving DecidableEq, Repr

/-- `DSK_GEOMETRY`. The recording mode is FM or MFM. -/
structure Geometry where
  cylinders : Nat
  heads : Nat
  sectors : Nat
  secbase : Nat
  secsize : Nat
  datarate : Rate
  fmtgap : Byte
  fm : Bool
  nomulti : Bool
  noskip : Bool
deriving DecidableEq, Repr

/-- The loop of `dsk_get_psh`, for sizes below `2 ^ n`. -/
def getPshLoop : Nat → Nat → Nat
  | 0, _ => 0
  | n + 1, secsize => if secsize > 128 then 1 + getPshLoop n (secsize / 2) else 0

/-- `dsk_get_psh` -/
def getPsh (secsize : Nat) : Byte := BitVec.ofNat 8 (getPshLoop secsize secsize)

/-! ## The driver -/

/-- `CPCEMU_DSK_DRIVER` -/
structure Cpcemu where
  file : File
  readonly : Bool
  sector : Int
  dskhead : Nat → Byte
  trkhead : Nat → Byte
  draws : Nat

/-- `"EXTENDED"` -/
def extMagic : List Byte := [0x45, 0x58, 0x54, 0x45, 0x4e, 0x44, 0x45, 0x44]

/-- `"MV - CPC"` -/
def stdMagic : List Byte := [0x4d, 0x56, 0x20, 0x2d, 0x20, 0x43, 0x50, 0x43]

/-- `"Track-Info"` -/
def trkMagic : List Byte :=
  [0x54, 0x72, 0x61, 0x63, 0x6b, 0x2d, 0x49, 0x6e, 0x66, 0x6f]

/-- The file of an image: a disk header, with one of the two magics. -/
def IsImage (bytes : List Byte) : Prop :=
  256 ≤ bytes.length ∧ (bytes.take 8 = stdMagic ∨ bytes.take 8 = extMagic)

instance (bytes : List Byte) : Decidable (IsImage bytes) :=
  inferInstanceAs (Decidable (_ ∧ _))

/-- `cpc_open` with a file and whether it can be written. -/
def cpcOpen (bytes : List Byte) (writable extended : Bool) : Option Cpcemu :=
  let (head, file) := File.read ⟨bytes, 0⟩ 256
  if head.length < 256 then none
  else
    let dskhead := Buffer.put (fun _ => 0) 0 head
    let magic := if extended then extMagic else stdMagic
    if Buffer.slice dskhead 0 8 ≠ magic then none
    else some ⟨file, !writable, 0, dskhead, fun _ => 0, 0⟩

namespace Cpcemu

def extended (c : Cpcemu) : Bool := Buffer.slice c.dskhead 0 8 = extMagic

/-- The CPCEMU number of a track. -/
def trackNumber (c : Cpcemu) (cylinder head : Nat) : Nat :=
  (if c.dskhead 0x31 > 1 then cylinder * 2 else cylinder) + head

/-- The place of a track in the file. -/
def trackOffset (c : Cpcemu) (track : Nat) : Nat :=
  if c.extended then
    256 + ((List.range track).map fun nt =>
      256 * (c.dskhead (0x34 + nt)).toNat).sum
  else
    ((c.dskhead 0x33).toNat * 256 + (c.dskhead 0x32).toNat) * track + 256

/-- `lookup_track`, which lets the head go one track over the edge -/
def lookupTrack (c : Cpcemu) (cylinder head : Nat) : Option Nat :=
  if cylinder > (c.dskhead 0x30).toNat then none
  else if head > (c.dskhead 0x31).toNat then none
  else some (c.trackOffset (c.trackNumber cylinder head))

/-- The rate that a track was recorded at, 0 in the header for a guess. -/
def trackRate (trkhead : Nat → Byte) : Nat :=
  let sectorSize := 128 <<< (trkhead 0x14).toNat
  if trkhead 0x12 = 0 then
    if sectorSize = 1024 ∧ trkhead 0x15 ≥ 7 then 2
    else if sectorSize = 512 ∧ trkhead 0x15 ≥ 15 then 2
    else 1
  else (trkhead 0x12).toNat

/-- The recording mode of a track, 0 in the header for a guess. -/
def trackRecording (trkhead : Nat → Byte) : Nat :=
  let sectorSize := 128 <<< (trkhead 0x14).toNat
  if trkhead 0x13 = 0 then
    if sectorSize = 256 ∧ trkhead 0x15 = 10 then 1 else 2
  else (trkhead 0x13).toNat

def rateMatches : Nat → Rate → Bool
  | 1, .sd | 1, .dd => true
  | 2, .hd => true
  | 3, .ed => true
  | _, _ => false

def recordingMatches : Nat → Bool → Bool
  | 1, true => true
  | 2, false => true
  | _, _ => false

/-- `load_track_header` -/
def loadTrackHeader (c : Cpcemu) (geom : Geometry) (cylinder head : Nat) :
    DskErr × Cpcemu :=
  match c.lookupTrack cylinder head with
  | none => (.seekFail, c)
  | some track =>
      let (xs, file) := (c.file.seek track).read 256
      let trkhead := Buffer.put c.trkhead 0 xs
      let c := { c with file := file, trkhead := trkhead }
      if xs.length < 256 then (.noAddr, c)
      else if Buffer.slice trkhead 0 10 ≠ trkMagic then (.noAddr, c)
      else if !rateMatches (trackRate trkhead) geom.datarate then (.noAddr, c)
      else if !recordingMatches (trackRecording trkhead) geom.fm then
        (.noAddr, c)
      else (.ok, c)

/-- The number of records in the track header. -/
def maxsec (c : Cpcemu) : Nat := (c.trkhead 0x15).toNat

/-- Where the record of the `n`-th sector is in the track header. -/
def secid (n : Nat) : Nat := 0x18 + 8 * n

/-- The ID of the `n`-th sector. -/
def recordId (c : Cpcemu) (n : Nat) : Byte := c.trkhead (secid n + 2)

/-- The bytes that the `n`-th sector takes in the file: in an extended image
each has its own. -/
def recordLen (c : Cpcemu) (n : Nat) : Nat :=
  if c.extended then
    (c.trkhead (secid n + 6)).toNat + 256 * (c.trkhead (secid n + 7)).toNat
  else 128 <<< (c.trkhead 0x14).toNat

/-- What `sector_offset` finds: the offset of the data behind the track
header, what it leaves in `*seclen`, and the record. -/
structure Found where
  offset : Nat
  seclen : Nat
  record : Nat
deriving DecidableEq, Repr

/-- The offset of the data of the `n`-th sector. -/
def recordOffset (c : Cpcemu) (n : Nat) : Nat :=
  ((List.range n).map c.recordLen).sum

/-- The search of `sector_offset` from the `n`-th record on, with `todo`
records left, for the copy of number `pick`. -/
def search (c : Cpcemu) (sector : Nat) :
    Nat → Nat → Nat → Nat → Option Found
  | 0, _, _, _ => none
  | todo + 1, n, pick, offset =>
      let seclen := c.recordLen n
      if (c.recordId n).toNat = sector then
        if pick = 0 then some ⟨offset, seclen, n⟩
        else c.search sector todo (n + 1) (pick - 1) (offset + seclen)
      else c.search sector todo (n + 1) pick (offset + seclen)

/-- The look at the current sector in `sector_offset`. In an extended image
`*seclen` is set on the way to it, so it is the length of the sector before. -/
def current (c : Cpcemu) (sector : Nat) : Option Found :=
  if 0 ≤ c.sector ∧ c.sector < c.maxsec then
    let n := c.sector.toNat
    if (c.recordId n).toNat = sector then
      let base := 128 <<< (c.trkhead 0x14).toNat
      let seclen := if n = 0 then base else c.recordLen (n - 1)
      some ⟨c.recordOffset n, seclen, n⟩
    else none
  else none

/-- The number of records with an ID. -/
def nmatch (c : Cpcemu) (sector : Nat) : Nat :=
  ((List.range c.maxsec).filter fun n => (c.recordId n).toNat = sector).length

variable (rand : Nat → Nat)

/-- The copy that `sector_offset` picks. -/
def pick (c : Cpcemu) (sector : Nat) (pickRandom : Bool) : Nat × Cpcemu :=
  if pickRandom ∧ c.nmatch sector > 1 then
    (rand c.draws % c.nmatch sector, { c with draws := c.draws + 1 })
  else (0, c)

/-- `sector_offset` -/
def sectorOffset (c : Cpcemu) (sector : Nat) (pickRandom : Bool) :
    Option Found × Cpcemu :=
  let (pick, c) := c.pick rand sector pickRandom
  let found := if c.nmatch sector ≤ 1 then c.current sector else none
  (found <|> c.search sector c.maxsec 0 pick 0, c)

/-- `sector_head`, with the records that are left -/
def sectorHead (c : Cpcemu) (sector : Nat) : Option Nat :=
  (List.range c.maxsec).find? fun n => (c.recordId n).toNat = sector

/-- What `seekto_sector` leaves behind its pointers. -/
structure Seeked where
  err : DskErr
  requestLen : Nat
  weakCopies : Nat
  sseclen : Nat
  chosen : Option Nat
deriving DecidableEq, Repr

/-- `seekto_sector`. `chosen` is set only when the sector is found. -/
def seektoSector (c : Cpcemu) (geom : Geometry)
    (cylinder head cylExpected headExpected sector requestLen : Nat)
    (pickRandom : Bool) : Seeked × Cpcemu :=
  let (err, c) := c.loadTrackHeader geom cylinder head
  if err ≠ .ok then (⟨err, requestLen, 1, 0, none⟩, c)
  else
    let trkbase := c.file.pos
    let (found, c) := c.sectorOffset rand sector pickRandom
    match found with
    | none => (⟨.noAddr, requestLen, 1, 0, none⟩, c)
    | some f =>
        let id := secid f.record
        if cylExpected ≠ (c.trkhead id).toNat ∨
            headExpected ≠ (c.trkhead (id + 1)).toNat then
          (⟨.noAddr, requestLen, 1, 0, none⟩, c)
        else
          let sseclen := 128 <<< (c.trkhead (id + 3) &&& 7).toNat
          let err := if sseclen = requestLen then .ok else .dataErr
          let weak := if sseclen * 2 ≤ f.seclen then f.seclen / sseclen else 1
          (⟨err, min sseclen requestLen, weak, sseclen, some f.record⟩,
            { c with file := c.file.seek (trkbase + f.offset) })

/-- What `cpcemu_xread` stores and leaves in `*deleted`. -/
structure Xread where
  err : DskErr
  stored : List Byte
  deleted : Bool
deriving DecidableEq, Repr

/-- The end of a round of `cpcemu_xread`, at a sector of the right kind: `st2`
is the last byte of its record. -/
def readHere (c : Cpcemu) (s : Seeked) (sectorSize : Nat) (st2 : Byte)
    (deleted : Bool) : Xread × Cpcemu :=
  let len := min s.requestLen sectorSize
  let c :=
    if s.weakCopies > 1 then
      let offset := rand c.draws % s.weakCopies * s.sseclen
      { c with
        file := c.file.seek (c.file.pos + offset), draws := c.draws + 1 }
    else c
  let (xs, file) := c.file.read len
  let err := if xs.length < len then .dataErr else s.err
  let err := if st2.getLsbD 5 then .dataErr else err
  (⟨err, xs, deleted⟩, { c with file := file })

/-- The loop of `cpcemu_xread`. `deleted` is what the pointer holds, if there
is one; `rdeleted` tells which kind of sector is asked for. A sector of the
other kind is skipped, unless skipping is off. Behind the last sector of head
0 the search goes on at head 1. -/
def xreadLoop (geom : Geometry) (cylinder cylExpect headExpect sectorSize : Nat)
    (rdeleted : Bool) : Nat → Nat → Nat → Nat → Bool → Option Bool → Cpcemu →
      Xread × Cpcemu
  | 0, _, _, _, _, deleted, c => (⟨.noAddr, [], deleted.getD false⟩, c)
  | fuel + 1, head, sector, len, tryAgain, deleted, c =>
      let (s, c) := c.seektoSector rand geom cylinder head cylExpect headExpect
        sector len true
      let left := deleted.getD false
      if tryAgain ∧ s.err = .noAddr then
        if !geom.nomulti ∧ head = 0 ∧ c.dskhead 0x31 > 0 then
          xreadLoop geom cylinder cylExpect headExpect sectorSize rdeleted fuel
            1 geom.secbase s.requestLen true deleted c
        else (⟨.noData, [], left⟩, c)
      else
        let c := if s.err = .noAddr then { c with sector := -1 } else c
        match s.chosen with
        | none => (⟨s.err, [], left⟩, c)
        | some n =>
            let st2 := c.trkhead (secid n + 5)
            if rdeleted ≠ st2.getLsbD 6 then
              if geom.noskip then
                c.readHere rand s sectorSize st2 deleted.isSome
              else
                xreadLoop geom cylinder cylExpect headExpect sectorSize rdeleted
                  fuel head (sector + 1) s.requestLen true
                  (deleted.map fun _ => false) c
            else c.readHere rand s sectorSize st2 false

/-- More rounds than there are: the IDs of the two tracks that can be
searched. -/
def xreadFuel : Nat := 1024

/-- `cpcemu_xread` -/
def xread (c : Cpcemu) (geom : Geometry)
    (cylinder head cylExpect headExpect sector sectorSize : Nat)
    (deleted : Option Bool) : Xread × Cpcemu :=
  xreadLoop rand geom cylinder cylExpect headExpect sectorSize
    (deleted.getD false) xreadFuel head sector sectorSize false deleted c

/-- The copies of a sector, one behind the other. -/
def writeCopies (xs : List Byte) : Nat → File → File
  | 0, f => f
  | n + 1, f => writeCopies xs n (f.write xs)

/-- The mark of deleted data in the last byte of a record. -/
def markDeleted (st2 : Byte) (deleted : Bool) : Byte :=
  if deleted then st2 ||| 0x40 else st2 &&& ~~~0x40

/-- `cpcemu_xwrite` -/
def xwrite (c : Cpcemu) (geom : Geometry) (buf : Nat → Byte)
    (cylinder head cylExpect headExpect sector sectorSize : Nat)
    (deleted : Bool) : DskErr × Cpcemu :=
  if c.readonly then (.rdonly, c)
  else
    let (s, c) := c.seektoSector rand geom cylinder head cylExpect headExpect
      sector sectorSize false
    if s.err = .dataErr ∨ s.err = .ok then
      let len := min (min s.requestLen sectorSize) s.sseclen
      let file := writeCopies (Buffer.slice buf 0 len) s.weakCopies c.file
      let c := { c with file := file }
      match c.sectorHead sector with
      | none => (.ok, c)
      | some n =>
          let old := c.trkhead (secid n + 5)
          let new := markDeleted old deleted
          let c := { c with trkhead := Buffer.put c.trkhead (secid n + 5) [new] }
          if new = old then (.ok, c)
          else
            match c.lookupTrack cylinder head with
            | none => (.seekFail, c)
            | some track =>
                let file := (c.file.seek track).write
                  (Buffer.slice c.trkhead 0 256)
                (.ok, { c with file := file })
    else (s.err, c)

/-- `cpcemu_secid` -/
def readSecid (c : Cpcemu) (geom : Geometry) (cylinder head : Nat) :
    DskErr × Option Format × Cpcemu :=
  if cylinder ≥ (c.dskhead 0x30).toNat then (.noAddr, none, c)
  else if head ≥ (c.dskhead 0x31).toNat then (.noAddr, none, c)
  else
    let (err, c) := c.loadTrackHeader geom cylinder head
    if err ≠ .ok then (err, none, c)
    else if c.trkhead 0x15 = 0 then (.noAddr, none, c)
    else
      let c := { c with sector := c.sector + 1 }
      let offs := secid (c.sector % c.maxsec).toNat
      (.ok, some
        ⟨(c.trkhead offs).toNat, (c.trkhead (offs + 1)).toNat,
          (c.trkhead (offs + 2)).toNat, 128 <<< (c.trkhead (offs + 3)).toNat⟩, c)

/-- `cpcemu_xseek` -/
def xseek (c : Cpcemu) (cylinder head : Nat) : DskErr :=
  if cylinder > (c.dskhead 0x30).toNat ∨ head > (c.dskhead 0x31).toNat then
    .seekFail
  else .ok

/-! ## Formatting -/

/-- `"Track-Info\r\n"` -/
def trkInfo : List Byte := trkMagic ++ [0x0d, 0x0a]

/-- The record that formatting writes for a sector. -/
def formatRecord (ext : Bool) (f : Format) : List Byte :=
  [.ofNat 8 f.cylinder, .ofNat 8 f.head, .ofNat 8 f.sector, getPsh f.secsize,
    0, 0] ++
    if ext then [.ofNat 8 f.secsize, .ofNat 8 (f.secsize / 256)] else [0, 0]

/-- The track header that formatting writes. -/
def formatHeader (geom : Geometry) (cylinder head : Nat) (ext : Bool)
    (format : List Format) (filler : Byte) : List Byte :=
  let rate : Byte := match geom.datarate with
    | .sd | .dd => 1
    | .hd => 2
    | .ed => 3
  let mode : Byte := if geom.fm then 1 else 2
  let psh := match format with
    | [] => 0
    | f :: _ => getPsh f.secsize
  trkInfo ++ [0, 0, 0, 0] ++
    [.ofNat 8 cylinder, .ofNat 8 head, rate, mode, psh,
      .ofNat 8 format.length, geom.fmtgap, filler] ++
    format.flatMap (formatRecord ext)

/-- Where the new track goes, and the disk header that says so. -/
structure Placed where
  offset : Nat
  dskhead : Nat → Byte

/-- The steps 1 to 4 of `cpcemu_format`. A refusal comes with the disk header
that is left in memory, which is not always the old one. -/
def place (c : Cpcemu) (cylinder head trklen : Nat) :
    Except (Nat → Byte) Placed :=
  let old := c.dskhead
  if head ≠ 0 ∧ old 0x31 = 1 ∧ old 0x30 > 1 then .error old
  else
    let d := if head ≠ 0 ∧ old 0x31 = 1 then Buffer.put old 0x31 [2] else old
    let d := if d 0x31 < 1 then Buffer.put d 0x31 [1] else d
    let trkno := cylinder * (d 0x31).toNat + head
    if Buffer.slice d 0 8 = extMagic then
      let img := (d (0x34 + trkno)).toNat * 256
      if img ≠ 0 ∧ trklen > img then .error d
      else if img = 0 ∧ trkno > 0 ∧ d (0x34 + trkno - 1) = 0 then .error old
      else
        let offset := 256 + ((List.range trkno).map fun n =>
          256 * (d (0x34 + n)).toNat).sum
        .ok ⟨offset, Buffer.put d (0x34 + trkno)
          [BitVec.ofNat 8 ((trklen + 255) / 256)]⟩
    else
      let img := (d 0x32).toNat + 256 * (d 0x33).toNat
      let first := d 0x30 = 0 ∨ (d 0x30 = 1 ∧ d 0x31 = 1)
      let grown := first ∧ trklen > img
      let d := if grown then
          Buffer.put d 0x32 [BitVec.ofNat 8 trklen, BitVec.ofNat 8 (trklen / 256)]
        else d
      let img := if grown then trklen else img
      if trklen > img then .error old
      else .ok ⟨256 + img * trkno, d⟩

/-- The sectors that formatting writes. -/
def blankSectors (format : List Format) (filler : Byte) : List Byte :=
  format.flatMap fun f => List.replicate f.secsize filler

/-- `cpcemu_format`, for as many sectors as there are in `format` -/
def format (c : Cpcemu) (geom : Geometry) (cylinder head : Nat)
    (format : List Format) (filler : Byte) : DskErr × Geometry × Cpcemu :=
  if c.readonly then (.rdonly, geom, c)
  else
    let trklen := (format.map Format.secsize).sum + 256
    match c.place cylinder head trklen with
    | .error d => (.rdonly, geom, { c with dskhead := d })
    | .ok p =>
        let ext := c.extended
        let header := formatHeader geom cylinder head ext format filler
        let trkhead := Buffer.put
          (Buffer.put c.trkhead 0 (List.replicate 256 0)) 0 (header.take 256)
        let file := c.file.seek p.offset
        let c := { c with dskhead := p.dskhead, trkhead := trkhead, file := file }
        -- There is room for 29 records in a track header.
        if format.length > 29 then (.overrun, geom, c)
        else
          let file := c.file.write (Buffer.slice trkhead 0 256)
          let file := file.write (blankSectors format filler)
          let d := if cylinder ≥ (p.dskhead 0x30).toNat then
              Buffer.put p.dskhead 0x30 [BitVec.ofNat 8 (cylinder + 1)]
            else p.dskhead
          let file := (file.seek 0).write (Buffer.slice d 0 256)
          let geom := { geom with
            heads := max geom.heads (d 0x31).toNat
            cylinders := max geom.cylinders (d 0x30).toNat }
          (.ok, geom, { c with dskhead := d, file := file })

end Cpcemu

end Xcpc.LibDsk
