import Xcpc.Formats.DskWriter
import Xcpc.Proofs.DiskDrive

/-!
# Disks that the emulator creates

The writer stores a disk header and a block for each track, and none of its
checks fails. What it stores is an image that holds a disk of blank tracks. A
program that uses the disk from the moment it is inserted gets what that disk
gives.
-/

namespace Xcpc.Dsk.Writer

/-! ## What is stored -/

/-- The track header with its sector headers, and the sectors. -/
def trackBlock (track : Nat) : List Byte :=
  trackBytes track 0 ++ (List.range 29).flatMap (infoBytes track 0) ++
    List.replicate 4608 fillerByte

/-- The file of a new disk. -/
def blankImage : List Byte :=
  headerBytes ++ (List.range 40).flatMap trackBlock

theorem length_infoBytes (track sector : Nat) :
    (infoBytes track 0 sector).length = 8 := by
  rw [infoBytes]
  split <;> rfl

end Xcpc.Dsk.Writer

namespace Xcpc.LibDsk

open Prog Dsk.Writer

/-! ## What the driver finds -/

/-- The sectors of a track of a new disk. -/
def freshIds (track : Nat) : List Format :=
  (List.range 9).map fun n => ⟨track, 0, 0xc1 + n, 512⟩

/-- A new disk. -/
def freshFloppy : Floppy := fun cylinder head =>
  if cylinder < 40 ∧ head < 1 then blankTrack (freshIds cylinder) 0xe5
  else fun _ => none

theorem legal_freshIds {track : Nat} (h : track < 40) :
    Legal (freshIds track) 512 := by
  refine ⟨by show 9 ≤ 29; omega, ?_, fun x hx => ?_, fun x hx => ?_, 2, by decide,
    rfl⟩
  · exact (by decide : ((List.range 9).map fun n => 0xc1 + n).Nodup)
  · obtain ⟨n, hn, rfl⟩ := List.mem_map.1 hx
    rw [List.mem_range] at hn
    exact ⟨by show track < 256; omega, by show 0 < 256; omega,
      by show 0xc1 + n < 256; omega⟩
  · obtain ⟨n, -, rfl⟩ := List.mem_map.1 hx
    rfl

namespace Cpcemu

/-- The driver that has opened a new disk. -/
def fresh : Cpcemu where
  file := ⟨blankImage, 256⟩
  readonly := false
  sector := 0
  dskhead := Buffer.put (fun _ => 0) 0 headerBytes
  trkhead := fun _ => 0
  draws := 0

theorem length_headerBytes : headerBytes.length = 256 := by
  rw [headerBytes, List.length_append, List.length_replicate]
  rfl

theorem length_trackHead (track : Nat) : (trackBytes track 0 ++
    (List.range 29).flatMap (infoBytes track 0)).length = 256 := by
  rw [List.length_append, Buffer.length_blocks (length_infoBytes track)]
  rfl

theorem length_trackBlock (track : Nat) : (trackBlock track).length = 4864 := by
  rw [trackBlock, List.length_append, length_trackHead, List.length_replicate]

theorem length_blankImage : blankImage.length = 256 + 40 * 4864 := by
  rw [blankImage, List.length_append, length_headerBytes,
    Buffer.length_blocks length_trackBlock, List.length_range]

theorem cpcOpen_fresh : cpcOpen blankImage true false = some fresh := by
  have htake : blankImage.take 256 = headerBytes := by
    rw [blankImage, List.take_left' length_headerBytes]
  have hmagic : Buffer.slice (Buffer.put (fun _ => (0 : Byte)) 0 headerBytes) 0 8 =
      stdMagic := by
    simp only [Buffer.slice]
    rfl
  simp only [cpcOpen, File.read, List.drop_zero, htake, length_headerBytes]
  rw [if_neg (by decide), if_neg fun h => h hmagic]
  rfl

theorem dskhead_fresh (i : Nat) : fresh.dskhead i = headerBytes.getD i 0 :=
  Buffer.put_const

theorem extended_fresh : fresh.extended = false := by
  have hmagic : Buffer.slice fresh.dskhead 0 8 = stdMagic := by
    simp only [Buffer.slice]
    rfl
  rw [extended, hmagic]
  decide

theorem trackOffset_fresh (track : Nat) :
    fresh.trackOffset track = 4864 * track + 256 := by
  rw [trackOffset, extended_fresh]
  simp only [dskhead_fresh]
  rfl

theorem trackNumber_fresh (cylinder head : Nat) :
    fresh.trackNumber cylinder head = cylinder + head := by
  rw [trackNumber, dskhead_fresh]
  rfl

theorem inRange_fresh {cylinder head : Nat} :
    fresh.InRange cylinder head ↔ cylinder < 40 ∧ head < 1 := by
  rw [InRange, dskhead_fresh, dskhead_fresh]
  rfl

/-- The bytes of a track. -/
theorem data_fresh {track i : Nat} (h : track < 40) (hi : i < 4864) :
    fresh.file.data (fresh.trackOffset track + i) = (trackBlock track).getD i 0 := by
  have hblock := Buffer.getD_blocks (d := 0) length_trackBlock
    (l := List.range 40) (n := track) (k := i) (by simpa using h) hi
  rw [List.getElem_range] at hblock
  have hdata (j : Nat) : fresh.file.data j = blankImage.getD j 0 := rfl
  have hpos : 4864 * track + 256 + i - 256 = track * 4864 + i := by omega
  rw [trackOffset_fresh, ← hblock, hdata, blankImage, List.getD_append_right _ _ _ _
    (by rw [length_headerBytes]; omega), length_headerBytes, hpos]

section track

variable {track : Nat} (h : track < 40)

include h

theorem trkhead_fresh {i : Nat} (hi : i < 24) :
    (fresh.view track).trkhead i = (trackBytes track 0).getD i 0 := by
  have hlen : (trackBytes track 0).length = 24 := rfl
  show fresh.file.data _ = _
  rw [data_fresh h (by omega), trackBlock, List.append_assoc,
    List.getD_append _ _ _ _ (by omega)]

theorem trkhead_fresh_record {n k : Nat} (hn : n < 9) (hk : k < 8) :
    (fresh.view track).trkhead (secid n + k) =
      (infoBytes track 0 n).getD k 0 := by
  have hlen : (trackBytes track 0).length = 24 := rfl
  have hblock := Buffer.getD_blocks (d := 0) (length_infoBytes track)
    (l := List.range 29) (n := n) (k := k) (by simp; omega) hk
  rw [List.getElem_range] at hblock
  rw [← hblock]
  show fresh.file.data _ = _
  rw [data_fresh h (by simp only [secid]; omega), trackBlock,
    List.getD_append _ _ _ _ (by rw [length_trackHead]; simp only [secid]; omega),
    List.getD_append_right _ _ _ _ (by rw [hlen]; simp only [secid]; omega), hlen]
  congr 1
  simp only [secid]
  omega

theorem blank_fresh {rate : Rate} (hr : rate = .sd ∨ rate = .dd) :
    Blank rate false fresh track (freshIds track) 512 0xe5 := by
  have hlen : (freshIds track).length = 9 := rfl
  have hid (n : Nat) (hn : n < 9) : (freshIds track)[n] = ⟨track, 0, 0xc1 + n, 512⟩ := by
    simp [freshIds]
  have hinfo (n : Nat) (hn : n < 9) : infoBytes track 0 n =
      [.ofNat 8 track, 0, .ofNat 8 (0xc1 + n), 2, 0, 0, 0, 0] := by
    rw [infoBytes, if_pos (show n < numberOfSectors from hn),
      show sectorBase + (n + 1) = 0xc1 + n by simp only [sectorBase]; omega]
    rfl
  have hnum : (BitVec.ofNat 8 track).toNat = track := by
    rw [BitVec.toNat_ofNat, Nat.mod_eq_of_lt (by omega)]
  have hrate : (fresh.view track).trkhead 0x12 = 0 := trkhead_fresh h (by omega)
  have hmode : (fresh.view track).trkhead 0x13 = 0 := trkhead_fresh h (by omega)
  have hsize : (fresh.view track).trkhead 0x14 = 2 := trkhead_fresh h (by omega)
  have hcount : (fresh.view track).trkhead 0x15 = 9 := trkhead_fresh h (by omega)
  have hbase : (fresh.view track).base = 512 := by
    rw [base, hsize]
    rfl
  refine ⟨?_, ?_, ?_, ?_, fun _ => hbase, ?_, ?_, ?_, ?_, ?_, ?_, ?_, ?_⟩
  · refine List.ext_getElem rfl fun i hi hi' => ?_
    have hi : i < 10 := hi'
    rw [Buffer.getElem_slice, Nat.zero_add, trkhead_fresh h (by omega)]
    interval_cases i <;> rfl
  · simp only [trackRate, hrate, hsize, hcount]
    rcases hr with rfl | rfl <;> rfl
  · simp only [trackRecording, hmode, hsize, hcount]
    rfl
  · rw [maxsec, hcount]
    rfl
  · intro n hn
    have hrec := trkhead_fresh_record h hn (k := 0) (by omega)
    rw [Nat.add_zero] at hrec
    rw [hrec, hinfo n hn, hid n hn]
    exact hnum
  · intro n hn
    rw [trkhead_fresh_record h hn (by omega), hinfo n hn, hid n hn]
    rfl
  · intro n hn
    rw [recordId, trkhead_fresh_record h hn (by omega), hinfo n hn, hid n hn]
    show (BitVec.ofNat 8 (0xc1 + n)).toNat = 0xc1 + n
    rw [BitVec.toNat_ofNat, Nat.mod_eq_of_lt (by omega)]
  · intro n hn
    rw [size, trkhead_fresh_record h hn (by omega), hinfo n hn]
    exact (by decide : 128 <<< ((2 : Byte) &&& 7).toNat = 512)
  · intro n hn
    rw [trkhead_fresh_record h hn (by omega), hinfo n hn]
    rfl
  · intro n hn
    rw [trkhead_fresh_record h hn (by omega), hinfo n hn]
    rfl
  · intro n hn
    rw [recordLen, show (fresh.view track).extended = false from extended_fresh]
    exact hbase
  · intro i hi
    rw [Nat.add_assoc, data_fresh h (by omega), trackBlock,
      List.getD_append_right _ _ _ _ (by rw [length_trackHead]; omega),
      length_trackHead, Nat.add_sub_cancel_left, List.getD_replicate _ (by omega)]
    rfl

end track

theorem trackAt_fresh {track : Nat} {rate : Rate} (h : track < 40)
    (hr : rate = .sd ∨ rate = .dd) : fresh.TrackAt rate false track := by
  have hlen : (freshIds track).length = 9 := rfl
  refine (blank_fresh h hr).trackAt (legal_freshIds h) ?_ ?_
  · rw [trackOffset_fresh, trackOffset_fresh, hlen]
    omega
  · have hfile : fresh.file.bytes.length = 256 + 40 * 4864 := length_blankImage
    rw [trackOffset_fresh, hlen, hfile]
    omega

theorem floppy_fresh : fresh.floppy = freshFloppy := by
  funext cylinder head sector
  by_cases hin : cylinder < 40 ∧ head < 1
  · obtain ⟨hc, hh⟩ := hin
    obtain rfl : head = 0 := by omega
    rw [floppy, if_pos (inRange_fresh.2 ⟨hc, hh⟩), trackNumber_fresh, Nat.add_zero,
      freshFloppy, if_pos ⟨hc, hh⟩]
    exact (blank_fresh hc (.inl rfl)).sectors (legal_freshIds hc) sector
  · rw [floppy, if_neg fun h => hin (inRange_fresh.1 h), freshFloppy, if_neg hin]

end Cpcemu

/-- What a new disk is like. -/
def freshMedium (rate : Rate) : Medium where
  rate := rate
  fm := false
  cylinders := 40
  heads := 1
  room := fun _ _ n => n ≤ 4864

/-- The image that the writer stores holds a disk with 40 blank tracks. -/
theorem holds_fresh {rate : Rate} (hr : rate = .sd ∨ rate = .dd) :
    Holds (freshMedium rate) Cpcemu.fresh freshFloppy where
  formatted := by
    refine ⟨by rw [Cpcemu.dskhead_fresh]; decide, fun cylinder head hin => ?_⟩
    obtain ⟨hc, hh⟩ := Cpcemu.inRange_fresh.1 hin
    rw [Cpcemu.trackNumber_fresh]
    exact Cpcemu.trackAt_fresh (by omega) hr
  opened := Cpcemu.opened_cpcOpen Cpcemu.cpcOpen_fresh
  writable := rfl
  cylinders := by
    rw [Cpcemu.dskhead_fresh]
    rfl
  heads := by
    rw [Cpcemu.dskhead_fresh]
    rfl
  room cylinder head n hn := by
    rw [Cpcemu.Room, Cpcemu.extended_fresh, Cpcemu.dskhead_fresh,
      Cpcemu.dskhead_fresh]
    exact hn
  floppy := Cpcemu.floppy_fresh

theorem find_fresh : freshFloppy.find ⟨5, 0, 5, 0, 0xc1⟩ =
    some ⟨5, 0, List.replicate 512 0xe5, false, false⟩ :=
  Floppy.find_some.2 ⟨rfl, rfl, rfl⟩

/-- A sector of the new disk is read, and its track is formatted. -/
theorem image_run_fresh : ∃ c' c'',
    answers (fun c r => some (Cpcemu.serve (fun _ => 0) c r)) Cpcemu.fresh
        [.read (stdformat .cpcdata) ⟨5, 0, 5, 0, 0xc1⟩ 512 none,
          .format (stdformat .cpcdata) 5 0 (freshIds 5) 0x00] =
      some ([⟨.ok, List.replicate 512 0xe5, false⟩, ⟨.ok, [], false⟩], c') ∧
    cpcOpen c'.file.bytes true c'.extended = some c'' ∧
    Holds (freshMedium .sd) c''
      (freshFloppy.format 5 0 (blankTrack (freshIds 5) 0x00)) := by
  have hread : Floppy.serve freshFloppy
      (.read (stdformat .cpcdata) ⟨5, 0, 5, 0, 0xc1⟩ 512 none) =
      (⟨.ok, List.replicate 512 0xe5, false⟩, freshFloppy) := by
    simp only [Floppy.serve, find_fresh]
    rfl
  have hallowed : Allowed Floppy.serve (Floppy.Serves (freshMedium .sd)) freshFloppy
      [.read (stdformat .cpcdata) ⟨5, 0, 5, 0, 0xc1⟩ 512 none,
        .format (stdformat .cpcdata) 5 0 (freshIds 5) 0x00] := by
    refine ⟨⟨⟨by decide, by decide⟩, rfl, rfl, fun s hs => ?_⟩,
      ⟨⟨by decide, by decide⟩, rfl, rfl, 512, legal_freshIds (by decide), ?_⟩,
      trivial⟩
    · rw [find_fresh] at hs
      cases hs
      exact ⟨List.length_replicate.symm, .inl rfl⟩
    · show 9 * 512 + 256 ≤ 4864
      omega
  obtain ⟨c', c'', hrun, hopen, hc⟩ :=
    image_run (fun _ => 0) (holds_fresh (.inl rfl)) hallowed
  simp only [observe, hread] at hrun hc
  exact ⟨c', c'', hrun, hopen, hc⟩

end Xcpc.LibDsk

namespace Xcpc.Lib765.Ldsk

open LibDsk

end Xcpc.Lib765.Ldsk
