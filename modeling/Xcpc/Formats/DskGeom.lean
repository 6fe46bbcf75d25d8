import Xcpc.Formats.CpcEmu

/-!
# Probing the geometry of a disk

`dsk_getgeom` for an image of CPCEMU, which leaves the probe to the general
one. It tries to read a sector ID on the first track at one data rate after
the other, and goes by the ID. If that does not tell the format it goes by the
boot sector. An error comes with the geometry as far as it was set.

The buffer of the boot sector is zero where nothing was read into it.
-/

namespace Xcpc.LibDsk

/-! ## Standard formats -/

/-- A geometry of `stdg` with `dg_nomulti` and `dg_noskip` off. -/
def stdg (cylinders heads sectors secbase secsize : Nat) (datarate : Rate)
    (fmtgap : Byte) (fm : Bool) : Geometry :=
  ⟨cylinders, heads, sectors, secbase, secsize, datarate, fmtgap, fm, false, false⟩

/-- The `FMT_*` that the probe knows. -/
inductive StdFormat where
  | pcw180
  | cpcsys
  | cpcdata
  | pcw720
  | ibm160
  | ibm320
  | ibm360
  | ibm720
  | ibm1200
  | ibm1440
  | acorn160
  | acorn320
  | acorn640
  | acorn800
  | acorn1600
  | bbc100
  | ampro400d
  | ampro800
deriving DecidableEq, Repr

/-- `dg_stdformat` -/
def stdformat : StdFormat → Geometry
  | .pcw180 => stdg 40 1 9 1 512 .sd 0x52 false
  | .cpcsys => stdg 40 1 9 0x41 512 .sd 0x52 false
  | .cpcdata => stdg 40 1 9 0xc1 512 .sd 0x52 false
  | .pcw720 => stdg 80 2 9 1 512 .sd 0x52 false
  | .ibm160 => stdg 40 1 8 1 512 .sd 0x50 false
  | .ibm320 => stdg 40 2 8 1 512 .sd 0x50 false
  | .ibm360 => stdg 40 2 9 1 512 .sd 0x52 false
  | .ibm720 => stdg 80 2 9 1 512 .sd 0x52 false
  | .ibm1200 => stdg 80 2 15 1 512 .hd 0x54 false
  | .ibm1440 => stdg 80 2 18 1 512 .hd 0x54 false
  | .acorn160 => stdg 40 1 16 0 256 .sd 0x60 false
  | .acorn320 => stdg 80 1 16 0 256 .sd 0x60 false
  | .acorn640 => stdg 80 2 16 0 256 .sd 0x60 false
  | .acorn800 => stdg 80 2 5 0 1024 .sd 0x05 false
  | .acorn1600 => stdg 80 2 10 0 1024 .hd 0x05 false
  | .bbc100 => stdg 40 1 10 0 256 .sd 0x50 true
  | .ampro400d => stdg 40 2 10 17 512 .sd 0x17 false
  | .ampro800 => stdg 80 2 5 17 1024 .sd 0x05 false

/-! ## Boot sectors -/

/-- Two bytes of a boot sector. -/
def word (boot : Nat → Byte) (n : Nat) : Nat :=
  (boot n).toNat + 256 * (boot (n + 1)).toNat

/-- The gap of a format that has so many sectors on a track. -/
def gapFor : Nat → Byte
  | 8 => 0x50
  | 10 => 0x17
  | 15 => 0x50
  | 18 => 0x50
  | _ => 0x52

/-- `dg_dosgeom` -/
def dosgeom (geom : Geometry) (boot : Nat → Byte) : DskErr × Geometry :=
  if (boot 0 ≠ 0xe9 ∧ boot 0 ≠ 0xeb) ∧
      (boot 0x0b ≠ 0 ∨ boot 0x0c ≠ 2 ∨ boot 0x15 < 0xf8 ∨ boot 0x1b ≠ 0) ∧
      (boot 0 ≠ 0 ∨ boot 1 ≠ 0 ∨ boot 2 ≠ 0) then (.badFmt, geom)
  else if boot 511 = 144 ∨ boot 511 = 72 ∨ boot 511 = 12 then (.badFmt, geom)
  else
    let geom := { geom with secsize := word boot 11 }
    if geom.secsize % 128 ≠ 0 ∨ geom.secsize = 0 then (.badFmt, geom)
    else
      let geom := { geom with
        secbase := 1, heads := word boot 26, sectors := word boot 24 }
      if geom.heads = 0 ∨ geom.sectors = 0 then (.badFmt, geom)
      else (.ok, { geom with
        cylinders := word boot 19 / geom.heads / geom.sectors
        datarate := if geom.sectors ≥ 12 then .hd else .sd
        fmtgap := gapFor geom.sectors
        fm := false
        nomulti := false })

/-- `boot_pcw180` -/
def bootPcw180 : List Byte := [0, 0, 40, 9, 2, 1, 3, 2, 0x2a, 0x52]

/-- `"CP/M"` -/
def cpmMagic : List Byte := [0x43, 0x50, 0x2f, 0x4d]

/-- `"DSK"` -/
def dskMagic : List Byte := [0x44, 0x53, 0x4b]

/-- `dg_pcwgeom` -/
def pcwgeom (geom : Geometry) (boot : Nat → Byte) : DskErr × Geometry :=
  let boot := if Prog.Buffer.slice boot 0 10 = List.replicate 10 0xe5 then
      fun n => bootPcw180.getD n 0
    else boot
  let pcw16 := boot 0 = 0xe9 ∨ boot 0 = 0xea
  if pcw16 ∧ (Prog.Buffer.slice boot 0x2b 4 ≠ cpmMagic ∨
      Prog.Buffer.slice boot 0x33 3 ≠ dskMagic ∨
      Prog.Buffer.slice boot 0x7c 4 ≠ cpmMagic) then (.badFmt, geom)
  else
    let boot := if pcw16 then fun n => boot (0x80 + n) else boot
    if boot 0 ≠ 3 ∧ boot 0 ≠ 0 then (.badFmt, geom)
    else if boot 1 &&& 3 = 3 then (.badFmt, geom)
    else
      let geom := { geom with
        heads := if boot 1 &&& 3 = 0 then 1 else 2
        cylinders := (boot 2).toNat
        sectors := (boot 3).toNat }
      if geom.cylinders = 0 ∨ geom.sectors = 0 then (.badFmt, geom)
      else (.ok, { geom with
        secbase := 1
        datarate := if boot 1 &&& 0x40 ≠ 0 then .hd else .sd
        fm := false
        nomulti := false
        fmtgap := boot 9
        secsize := 128 <<< (boot 4).toNat })

/-- `dg_aprigeom` -/
def aprigeom (geom : Geometry) (boot : Nat → Byte) : DskErr × Geometry :=
  if (Prog.Buffer.slice boot 0 8).any fun b =>
      b ≠ 0 && (b < 0x20 || b > 0x7e) then (.badFmt, geom)
  else
    let geom := { geom with secsize := word boot 0x0e }
    if geom.secsize % 128 ≠ 0 ∨ geom.secsize = 0 then (.badFmt, geom)
    else
      let geom := { geom with
        secbase := 1, heads := (boot 0x16).toNat, sectors := word boot 0x10 }
      if geom.heads = 0 ∨ geom.sectors = 0 then (.badFmt, geom)
      else (.ok, { geom with
        cylinders := word boot 0x12
        datarate := if geom.sectors ≥ 12 then .hd else .sd
        fmtgap := gapFor geom.sectors
        fm := false
        nomulti := false })

/-- `dg_cpm86geom` -/
def cpm86geom (geom : Geometry) (boot : Nat → Byte) : DskErr × Geometry :=
  match (boot 511).toNat with
  | 0x00 => (.ok, stdformat .ibm160)
  | 0x01 => (.ok, stdformat .ibm320)
  | 0x0c => (.ok, stdformat .ibm1200)
  | 0x10 | 0x40 => (.ok, stdformat .ibm360)
  | 0x11 => (.ok, stdformat .pcw720)
  | 0x48 => (.ok, stdformat .ibm720)
  | 0x90 => (.ok, stdformat .ibm1440)
  | _ => (.badFmt, geom)

/-- `dg_opusgeom`, where the size of the sectors comes from their number -/
def opusgeom (geom : Geometry) (boot : Nat → Byte) : DskErr × Geometry :=
  if boot 0 ≠ 0x18 then (.badFmt, geom)
  else (.ok, { geom with
    cylinders := (boot 2).toNat
    heads := (boot 3).toNat
    sectors := (boot 4).toNat
    secbase := 1
    datarate := .sd
    fm := false
    nomulti := false
    fmtgap := 0x52
    secsize := 128 <<< (boot 4).toNat })

/-- The boot sector is tried as one kind after the other. -/
def tryGeoms (boot : Nat → Byte) :
    List (Geometry → (Nat → Byte) → DskErr × Geometry) → Geometry →
      DskErr × Geometry
  | [], geom => (.badFmt, geom)
  | f :: fs, geom =>
      let (err, geom) := f geom boot
      if err = .badFmt then tryGeoms boot fs geom else (err, geom)

/-! ## The probe -/

namespace Cpcemu

variable (rand : Nat → Nat)

/-- `dsk_lread` of a sector of the first track. -/
def lread (c : Cpcemu) (geom : Geometry) (sector : Nat) :
    DskErr × (Nat → Byte) × Cpcemu :=
  let r := c.xread rand geom 0 0 0 0 (geom.secbase + sector) geom.secsize none
  (r.1.err, fun n => r.1.stored.getD n 0, r.2)

/-- What the first track answers to `dsk_lsecid`. -/
structure Answer where
  err : DskErr
  secid : Option Format
  geom : Geometry
  driver : Cpcemu

def lsecid (c : Cpcemu) (geom : Geometry) : Answer :=
  let r := c.readSecid geom 0 0
  ⟨r.1, r.2.1, geom, r.2.2⟩

/-- A try with another geometry, if there was no address mark. -/
def Answer.orElse (a : Answer) (geom : Geometry) : Answer :=
  if a.err = .noAddr then a.driver.lsecid geom else a

/-- The search for the data rate and the recording mode. -/
def probeRate (c : Cpcemu) : Answer :=
  let geom := stdformat .pcw180
  (((c.lsecid geom).orElse { geom with datarate := .hd }).orElse
    { geom with datarate := .dd }).orElse (stdformat .bbc100)

/-- The format of a disk of Acorn with so many sectors. -/
def acornFormat : Nat → Option StdFormat
  | 640 => some .acorn160
  | 1280 => some .acorn320
  | 2560 => some .acorn640
  | 2720 => some .acorn640
  | _ => none

/-- A disk with sectors of 256 bytes: of the BBC Micro in FM, or of Acorn. -/
def probe256 (c : Cpcemu) (geom : Geometry) : DskErr × Geometry × Cpcemu :=
  if geom.fm then
    let (err, boot, c) := c.lread rand geom 1
    let total := (boot 7).toNat + 256 * (boot 6 &&& 3).toNat
    (if err = .ok ∧ total ≠ 400 ∧ total ≠ 800 then .badFmt else err,
      { geom with cylinders := total / (geom.heads * geom.sectors) }, c)
  else
    let geom := stdformat .acorn160
    let (err, boot, c) := c.lread rand geom 0
    if err ≠ .ok then (.badFmt, geom, c)
    else
      match acornFormat (word boot 0xfc + 65536 * (boot 0xfe).toNat) with
      | some format => (.ok, stdformat format, c)
      | none => (.badFmt, geom, c)

/-- Is this the first sector of a disk of Acorn? -/
def acornBoot (geom : Geometry) (boot : Nat → Byte) : Prop :=
  geom.datarate = .hd ∨ word boot 0xfc + 65536 * (boot 0xfe).toNat = 3200 ∨
    (boot 4 = 10 ∧ boot 5 = 5 ∧ boot 6 = 2 ∧ boot 7 = 2)

instance acornBootDecidable (geom : Geometry) (boot : Nat → Byte) :
    Decidable (acornBoot geom boot) :=
  inferInstanceAs (Decidable (_ ∨ _ ∨ _))

/-- A disk with sectors of 1024 bytes, at the rate that was found. -/
def probe1024 (c : Cpcemu) (rate : Rate) : DskErr × Geometry × Cpcemu :=
  let geom := { stdformat (if rate = .hd then .acorn1600 else .acorn800) with
    datarate := rate }
  let (err, boot, c) := c.lread rand geom 0
  if err = .ok ∧ acornBoot geom boot then (.ok, geom, c)
  else
    -- DOS Plus counts its sectors from 1.
    let geom := { geom with secbase := 1 }
    let (err, boot, c) := c.lread rand geom 0
    if err = .ok ∧ boot 0 = 0xfd ∧ boot 1 = 0xff ∧ boot 2 = 0xff then
      (.ok, geom, c)
    else (.badFmt, geom, c)

/-- The look at the boot sector. The data rate is the one that was found. -/
def probeBoot (c : Cpcemu) (geom : Geometry) : DskErr × Geometry × Cpcemu :=
  let (err, boot, c) := c.lread rand geom 0
  if err ≠ .ok then (err, geom, c)
  else
    let (err, found) :=
      tryGeoms boot [dosgeom, pcwgeom, aprigeom, cpm86geom, opusgeom] geom
    (err, { found with datarate := geom.datarate }, c)

/-- `dsk_getgeom`, which is `dsk_defgetgeom` here -/
def getgeom (c : Cpcemu) : DskErr × Geometry × Cpcemu :=
  let a := c.probeRate
  let geom := a.geom
  let c := a.driver
  match a.secid with
  | none => if a.err = .notImpl then c.probeBoot rand geom else (a.err, geom, c)
  | some id =>
      if id.sector &&& 0xf0 = 0x10 ∧ id.secsize = 512 then
        (.ok, stdformat .ampro400d, c)
      else if id.sector &&& 0xc0 = 0x40 ∧ id.secsize = 512 then
        (.ok, stdformat .cpcsys, c)
      else if id.sector &&& 0xc0 = 0xc0 ∧ id.secsize = 512 then
        (.ok, stdformat .cpcdata, c)
      else if id.secsize = 256 then c.probe256 rand geom
      else if id.secsize = 1024 then
        if id.sector &&& 0xf0 = 0x10 then (.ok, stdformat .ampro800, c)
        else c.probe1024 rand geom.datarate
      else if id.secsize ≠ 512 then (.badFmt, geom, c)
      else c.probeBoot rand geom

end Cpcemu

end Xcpc.LibDsk
