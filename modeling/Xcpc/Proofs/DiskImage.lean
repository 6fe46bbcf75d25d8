import Xcpc.Formats.Dsk

/-!
# Disk images

A track is read as a text: its header, the table of sector headers, and the
data of the sectors that the header counts. `fetchTrack` succeeds exactly on
the streams that begin with the text of a track that passes the checks, and
leaves what comes after. So the tracks of an image are found if and only if
their texts stand back to back behind the disk header. The blocks of an image
have a size of their own, and what a block has left after its track is in the
way of the next.
-/

namespace Xcpc.Dsk

open Prog Prog.Reader

namespace SectorInfo

/-- The size that the size code stands for. -/
def size (s : SectorInfo) : Nat := 128 * 2 ^ s.fdcN.toNat

end SectorInfo

/-- The data of a sector, as long as its size code says. -/
def sectorBytes (info : SectorInfo) (data : SectorData) : List Byte :=
  (List.ofFn data).take info.size

/-- The text of a track: the header, the table, the data. -/
def trackBytes (track : TrackRecord) (sector : Fin 29 → SectorRecord) :
    List Byte :=
  List.ofFn track.raw ++
    ((List.ofFn fun i => List.ofFn (sector i).info.raw).flatten ++
      (List.ofFn fun i =>
        if i.val < track.numberOfSectors.toNat then
          sectorBytes (sector i).info (sector i).data
        else []).flatten)

theorem TrackRecord.check_ok_iff (t : TrackRecord) :
    t.check = .ok () ↔ (compareText 10 0 trkInfo t.signature).isSome ∧
      t.trackNumber < maxNumberOfTracks ∧ t.sideNumber < maxNumberOfSides ∧
      t.sectorSize < maxSectorSize ∧
      t.numberOfSectors < maxNumberOfSectors := by
  rw [check, guard_ok, guard_ok, guard_ok, guard_ok, guard_ok]
  simp only [ge_iff_le, BitVec.not_le, Bool.not_eq_true,
    Option.isNone_eq_false_iff, pure, Except.pure, and_true]

theorem SectorInfo.check_ok_iff (s : SectorInfo) :
    s.check = .ok () ↔ s.fdcC < maxNumberOfTracks ∧
      s.fdcH < maxNumberOfSides ∧ s.fdcN < maxSectorSize := by
  rw [check, guard_ok, guard_ok, guard_ok]
  simp only [ge_iff_le, BitVec.not_le, pure, Except.pure, and_true]

/-! ## The readers -/

theorem reads_fetchData (n : Nat) :
    Reads (fetchData n) (fun _ => True) List.ofFn := by
  intro s f s'
  rw [fetchData, true_and]
  constructor
  · intro h
    split at h
    · cases h
    · rename_i hlen
      cases h
      refine (List.take_append_drop n s).symm.trans ?_
      congr 1
      refine List.ext_getElem (by simp; omega) fun i h₁ h₂ => ?_
      rw [List.getElem_take, List.getElem_ofFn, List.getD_eq_getElem]
  · rintro rfl
    have hlen : (List.ofFn f).length = n := List.length_ofFn
    rw [if_neg (by rw [List.length_append]; omega), List.drop_left' hlen]
    congr 2
    funext i
    rw [List.getD_eq_getElem?_getD, List.getElem?_append_left (by simp)]
    simp

theorem reads_fetchTrackInfo :
    Reads fetchTrackInfo (fun t => t.check = .ok ())
      (fun t => List.ofFn t.raw) := by
  intro s t s'
  simp only [fetchTrackInfo, bind_ok, lift_ok, pure_ok,
    reads_fetchData _ _ _ _, true_and]
  constructor
  · rintro ⟨raw, s₁, rfl, _, s₂, ⟨hcheck, rfl⟩, rfl, rfl⟩
    exact ⟨hcheck, rfl⟩
  · rintro ⟨hcheck, rfl⟩
    exact ⟨t.raw, s', rfl, (), s', ⟨hcheck, rfl⟩, rfl, rfl⟩

theorem reads_fetchSectorInfo (n : Byte) :
    Reads (fetchSectorInfo n)
      (fun info => ∀ i, i.val < n.toNat → (info i).check = .ok ())
      (fun info => (List.ofFn fun i => List.ofFn (info i).raw).flatten) := by
  refine reads_fin
    (V := fun i (info : SectorInfo) => i.val < n.toNat → info.check = .ok ())
    (E := fun _ info => List.ofFn info.raw) fun i s info s' => ?_
  by_cases hi : i.val < n.toNat
  · simp only [hi, if_true, bind_ok, lift_ok, pure_ok,
      reads_fetchData _ _ _ _, true_and, true_implies]
    constructor
    · rintro ⟨raw, s₁, rfl, _, s₂, ⟨hcheck, rfl⟩, rfl, rfl⟩
      exact ⟨hcheck, rfl⟩
    · rintro ⟨hcheck, rfl⟩
      exact ⟨info.raw, s', rfl, (), s', ⟨hcheck, rfl⟩, rfl, rfl⟩
  · simp only [hi, if_false, bind_ok, pure_ok,
      reads_fetchData _ _ _ _, true_and, false_implies]
    constructor
    · rintro ⟨raw, s₁, rfl, rfl, rfl⟩
      rfl
    · rintro rfl
      exact ⟨info.raw, s', rfl, rfl, rfl⟩

theorem rawSize_eq (c : Byte) :
    rawSize c = if c.toNat < 7 then some (128 * 2 ^ c.toNat) else none := by
  rw [rawSize]
  by_cases hc : c.toNat < 7
  · rw [if_pos hc]
    interval_cases c.toNat <;> rfl
  · rw [if_neg hc]
    split <;> first | omega | rfl

/-- What is behind the data of a sector is the filler. -/
def FilledFrom (start : Nat) (filler : Byte) (data : SectorData) : Prop :=
  ∀ o : Fin 8192, start ≤ o.val → data o = filler

theorem SectorInfo.size_le {s : SectorInfo} (h : s.fdcN.toNat < 7) :
    s.size ≤ 8192 :=
  Nat.mul_le_mul_left 128 (Nat.pow_le_pow_right (by omega)
    (by omega : s.fdcN.toNat ≤ 6))

theorem length_sectorBytes (info : SectorInfo) (data : SectorData) :
    (sectorBytes info data).length = min info.size 8192 := by
  rw [sectorBytes, List.length_take, List.length_ofFn]

theorem sectorBytes_eq {info : SectorInfo} (h : info.size ≤ 8192)
    (data : SectorData) :
    sectorBytes info data = List.ofFn fun i => data (Fin.castLE h i) := by
  refine List.ext_getElem ?_ fun i h₁ h₂ => ?_
  · rw [length_sectorBytes, List.length_ofFn]
    omega
  · simp only [sectorBytes, List.getElem_take, List.getElem_ofFn]
    rfl

theorem reads_fetchSector (info : SectorInfo) (filler : Byte) :
    Reads (info.fetchData fun _ => filler)
      (fun data => info.fdcN.toNat < 7 ∧ FilledFrom info.size filler data)
      (sectorBytes info) := by
  intro s data s'
  rw [SectorInfo.fetchData, rawSize_eq]
  by_cases hn : info.fdcN.toNat < 7
  · have hle := info.size_le hn
    rw [if_pos hn]
    simp only [hn, true_and, bind_ok, pure_ok, reads_fetchData _ _ _ _]
    constructor
    · rintro ⟨raw, s₁, rfl, rfl, rfl⟩
      refine ⟨fun o ho => dif_neg (Nat.not_lt.2 ho), ?_⟩
      rw [sectorBytes_eq hle]
      congr 2
      funext i
      have hi : (i.castLE hle).val < 128 * 2 ^ info.fdcN.toNat := i.isLt
      rw [dif_pos hi]
      rfl
    · rintro ⟨hfill, rfl⟩
      refine ⟨fun i => data (i.castLE hle), s', ?_, ?_, rfl⟩
      · rw [sectorBytes_eq hle]
        rfl
      · funext o
        by_cases ho : o.val < info.size
        · exact dif_pos ho
        · exact (dif_neg ho).trans (hfill o (Nat.not_lt.1 ho)).symm
  · rw [if_neg hn]
    exact ⟨fun h => (nomatch h), fun h => absurd h.1.1 hn⟩

theorem reads_fetchSectorData (track : TrackRecord)
    (info : Fin 29 → SectorInfo) :
    Reads (fetchSectorData track info)
      (fun data => ∀ i, if i.val < track.numberOfSectors.toNat then
          (info i).fdcN.toNat < 7 ∧
            FilledFrom (info i).size track.fillerByte (data i)
        else FilledFrom 0 track.fillerByte (data i))
      (fun data => (List.ofFn fun i =>
        if i.val < track.numberOfSectors.toNat then
          sectorBytes (info i) (data i)
        else []).flatten) := by
  refine reads_fin
    (V := fun i data => if i.val < track.numberOfSectors.toNat then
        (info i).fdcN.toNat < 7 ∧
          FilledFrom (info i).size track.fillerByte data
      else FilledFrom 0 track.fillerByte data)
    (E := fun i data => if i.val < track.numberOfSectors.toNat then
      sectorBytes (info i) data else []) fun i => ?_
  by_cases hi : i.val < track.numberOfSectors.toNat
  · simp only [if_pos hi]
    exact reads_fetchSector (info i) track.fillerByte
  · simp only [if_neg hi]
    intro s data s'
    rw [pure_ok]
    constructor
    · rintro ⟨rfl, rfl⟩
      exact ⟨fun o _ => rfl, rfl⟩
    · rintro ⟨hfill, rfl⟩
      exact ⟨funext fun o => (hfill o (Nat.zero_le _)).symm, rfl⟩

/-- A track that passes the checks. -/
structure Checked (track : TrackRecord) (sector : Fin 29 → SectorRecord) :
    Prop where
  header : track.check = .ok ()
  table : ∀ i, i.val < track.numberOfSectors.toNat →
    (sector i).info.check = .ok ()

/-- The data that is not read is the filler. -/
def Filled (track : TrackRecord) (sector : Fin 29 → SectorRecord) : Prop :=
  ∀ i, FilledFrom (if i.val < track.numberOfSectors.toNat then
    (sector i).info.size else 0) track.fillerByte (sector i).data

theorem Checked.fdcN_lt {track : TrackRecord} {sector : Fin 29 → SectorRecord}
    (h : Checked track sector) {i : Fin 29}
    (hi : i.val < track.numberOfSectors.toNat) :
    (sector i).info.fdcN.toNat < 7 :=
  BitVec.lt_def.1 ((SectorInfo.check_ok_iff _).1 (h.table i hi)).2.2

/-- A track is read from its text, and from nothing else. -/
theorem reads_fetchTrack (image : ImageRecord) :
    Reads (fetchTrack image)
      (fun r => r.disk = image.disk ∧ Checked r.track r.sector ∧
        Filled r.track r.sector)
      (fun r => trackBytes r.track r.sector) := by
  intro s r s'
  simp only [fetchTrack, bind_ok, pure_ok, reads_fetchTrackInfo _ _ _,
    reads_fetchSectorInfo _ _ _ _, reads_fetchSectorData _ _ _ _ _]
  constructor
  · rintro ⟨track, s₁, ⟨htrack, rfl⟩, info, s₂, ⟨hinfo, rfl⟩, data, s₃,
      ⟨hdata, rfl⟩, rfl, rfl⟩
    refine ⟨⟨rfl, ⟨htrack, hinfo⟩, fun i => ?_⟩, ?_⟩
    · have h := hdata i
      by_cases hi : i.val < track.numberOfSectors.toNat
      · rw [if_pos hi] at h ⊢
        exact h.2
      · rw [if_neg hi] at h ⊢
        exact h
    · simp only [trackBytes, List.append_assoc]
  · rintro ⟨⟨hdisk, hcheck, hfill⟩, rfl⟩
    refine ⟨r.track, _, ⟨hcheck.header, by rw [trackBytes, List.append_assoc]⟩,
      fun i => (r.sector i).info, _, ⟨hcheck.table, List.append_assoc ..⟩,
      fun i => (r.sector i).data, s', ⟨fun i => ?_, rfl⟩, ?_, rfl⟩
    · have h := hfill i
      by_cases hi : i.val < r.track.numberOfSectors.toNat
      · rw [if_pos hi] at h ⊢
        exact ⟨hcheck.fdcN_lt hi, h⟩
      · rw [if_neg hi] at h ⊢
        exact h
    · rw [← hdisk]

/-! ## One text for one track -/

theorem length_flatten_ofFn {n : Nat} {f g : Fin n → List Byte}
    (h : ∀ i, (f i).length = (g i).length) :
    (List.ofFn f).flatten.length = (List.ofFn g).flatten.length := by
  simp only [List.length_flatten, List.map_ofFn]
  congr 2
  exact funext h

theorem flatten_ofFn_inj {n : Nat} {f g : Fin n → List Byte}
    (hlen : ∀ i, (f i).length = (g i).length)
    (h : (List.ofFn f).flatten = (List.ofFn g).flatten) : f = g := by
  refine List.ofFn_injective (List.eq_iff_flatten_eq.2 ⟨h, ?_⟩)
  rw [List.map_ofFn, List.map_ofFn]
  exact congrArg List.ofFn (funext hlen)

/-- The header and the table say how long the text is, so that a stream begins
with the text of one track at most. -/
theorem trackBytes_inj {track track' : TrackRecord}
    {sector sector' : Fin 29 → SectorRecord} {s : List Byte}
    (h : trackBytes track sector <+: s) (h' : trackBytes track' sector' <+: s) :
    track = track' ∧ (∀ i, (sector i).info = (sector' i).info) ∧
      trackBytes track sector = trackBytes track' sector' := by
  obtain ⟨rest, rfl⟩ := h
  obtain ⟨rest', hs⟩ := h'
  simp only [trackBytes, List.append_assoc] at hs
  obtain ⟨htrack, hs⟩ := List.append_inj hs (by simp)
  obtain ⟨hinfo, hs⟩ := List.append_inj hs
    (length_flatten_ofFn fun i => by simp)
  have hraw := List.ofFn_injective htrack
  have htable := flatten_ofFn_inj (fun i => by simp) hinfo
  obtain rfl : track' = track := by
    cases track'
    cases track
    exact congrArg TrackRecord.mk hraw
  have hsector (i : Fin 29) : (sector' i).info = (sector i).info :=
    congrArg SectorInfo.mk (List.ofFn_injective (congrFun htable i))
  refine ⟨rfl, fun i => (hsector i).symm, ?_⟩
  simp only [trackBytes, hsector]
  simp only [hsector] at hs
  obtain ⟨hdata, -⟩ := List.append_inj hs (length_flatten_ofFn fun i => by
    split
    · rw [length_sectorBytes, length_sectorBytes]
    · rfl)
  rw [hdata]

/-- The bytes of a track that are not in its text can be the filler. -/
theorem exists_filled {track : TrackRecord} {sector : Fin 29 → SectorRecord}
    (h : Checked track sector) (disk : DiskRecord) :
    ∃ r : ImageRecord, (r.disk = disk ∧ Checked r.track r.sector ∧
      Filled r.track r.sector) ∧
      trackBytes r.track r.sector = trackBytes track sector := by
  let data (i : Fin 29) : SectorData := fun o =>
    if i.val < track.numberOfSectors.toNat ∧ o.val < (sector i).info.size then
      (sector i).data o
    else track.fillerByte
  refine ⟨⟨disk, track, fun i => ⟨(sector i).info, data i⟩⟩,
    ⟨rfl, ⟨h.header, h.table⟩, fun i o ho => if_neg ?_⟩, ?_⟩
  · rintro ⟨hi, hlt⟩
    rw [if_pos hi] at ho
    exact Nat.not_lt.2 ho hlt
  · refine congrArg (fun f => List.ofFn track.raw ++
      ((List.ofFn fun i => List.ofFn (sector i).info.raw).flatten ++
        (List.ofFn f).flatten)) (funext fun i => ?_)
    by_cases hi : i.val < track.numberOfSectors.toNat
    · have hle := SectorInfo.size_le (h.fdcN_lt hi)
      rw [if_pos hi, if_pos hi, sectorBytes_eq hle, sectorBytes_eq hle]
      congr 1
      funext o
      exact if_pos ⟨hi, o.isLt⟩
    · rw [if_neg hi, if_neg hi]

/-! ## Images -/

theorem compareText_isSome {minCount index : Nat} {text bytes : List Byte}
    (h : bytes.take (minCount - index) = text.take (minCount - index)) :
    (compareText minCount index text bytes).isSome := by
  induction text generalizing index bytes with
  | nil => rfl
  | cons t text ih =>
      cases bytes with
      | nil => rfl
      | cons b bytes =>
          rw [compareText]
          by_cases hlt : index < minCount
          · obtain ⟨m, hm⟩ : ∃ m, minCount - index = m + 1 :=
              Nat.exists_eq_succ_of_ne_zero (by omega)
            rw [hm, List.take_succ_cons, List.take_succ_cons] at h
            obtain ⟨rfl, h⟩ := List.cons.inj h
            rw [if_neg (not_not.2 rfl)]
            exact ih (by rwa [show minCount - (index + 1) = m by omega])
          · split
            · rw [if_pos (by omega)]
              rfl
            · exact ih (by
                rw [show minCount - (index + 1) = 0 by omega]
                rfl)

/-- A track block of a standard image: the text of a track with from 1 to 29
sectors, and padding. The numbers in the headers may be any. -/
structure Block where
  track : TrackRecord
  sector : Fin 29 → SectorRecord
  padding : List Byte
  signature : track.signature.take 10 = trkInfo.take 10
  sectors : 1 ≤ track.numberOfSectors ∧ track.numberOfSectors ≤ 29
  codes : ∀ i, i.val < track.numberOfSectors.toNat →
    (sector i).info.fdcN ≤ 6

namespace Block

/-- The block without its padding. -/
def text (b : Block) : List Byte := trackBytes b.track b.sector

def bytes (b : Block) : List Byte := b.text ++ b.padding

/-- What the checks ask of a block: numbers of a disk in its headers, and room
for one more sector in its table. -/
structure Accepted (b : Block) : Prop where
  trackNumber : b.track.trackNumber < 80
  sideNumber : b.track.sideNumber < 2
  sectorSize : b.track.sectorSize ≤ 6
  sectors : b.track.numberOfSectors ≤ 28
  ids : ∀ i, i.val < b.track.numberOfSectors.toNat →
    (b.sector i).info.fdcC < 80 ∧ (b.sector i).info.fdcH < 2

theorem checked_iff (b : Block) : Checked b.track b.sector ↔ b.Accepted := by
  constructor
  · rintro ⟨hheader, htable⟩
    obtain ⟨-, htrack, hside, hsize, hsectors⟩ :=
      (TrackRecord.check_ok_iff _).1 hheader
    rw [maxSectorSize] at hsize
    rw [maxNumberOfSectors] at hsectors
    refine ⟨htrack, hside, by bv_omega, by bv_omega, fun i hi => ?_⟩
    obtain ⟨hc, hh, -⟩ := (SectorInfo.check_ok_iff _).1 (htable i hi)
    exact ⟨hc, hh⟩
  · rintro ⟨htrack, hside, hsize, hsectors, hids⟩
    refine ⟨(TrackRecord.check_ok_iff _).2 ⟨compareText_isSome b.signature,
      htrack, hside, ?_, ?_⟩, fun i hi => ?_⟩
    · rw [maxSectorSize]
      bv_omega
    · rw [maxNumberOfSectors]
      bv_omega
    · have hcode := b.codes i hi
      refine (SectorInfo.check_ok_iff _).2 ⟨(hids i hi).1, (hids i hi).2, ?_⟩
      rw [maxSectorSize]
      bv_omega

/-- The text of a block is that of a track that passes the checks. -/
theorem exists_checked_iff (b : Block) :
    (∃ track sector, Checked track sector ∧ trackBytes track sector = b.text) ↔
      b.Accepted := by
  rw [← checked_iff]
  constructor
  · rintro ⟨track, sector, h, htext⟩
    have hpre : trackBytes track sector <+: b.text :=
      htext ▸ List.prefix_refl _
    obtain ⟨rfl, hinfo, -⟩ := trackBytes_inj hpre (List.prefix_refl _)
    exact ⟨h.header, fun i hi => hinfo i ▸ h.table i hi⟩
  · intro h
    exact ⟨b.track, b.sector, h, rfl⟩

end Block

/-- A standard image: a disk header, and a block of the size it gives for each
side of each track. -/
structure Image where
  disk : DiskRecord
  blocks : List Block
  magic : disk.magic.take 8 = stdMagic.take 8
  signature : disk.signature.take 9 = dskInfo.take 9
  tracks : 1 ≤ disk.numberOfTracks ∧ disk.numberOfTracks ≤ 80
  sides : 1 ≤ disk.numberOfSides ∧ disk.numberOfSides ≤ 2
  count : blocks.length =
    disk.numberOfTracks.toNat * disk.numberOfSides.toNat
  size : ∀ b ∈ blocks, b.bytes.length = disk.trackSize

namespace Image

/-- The file. -/
def bytes (d : Image) : List Byte :=
  List.ofFn d.disk.raw ++ d.blocks.flatMap Block.bytes

theorem check_disk (d : Image) : d.disk.check = .ok () := by
  have hsignature : (compareText 9 0 dskInfo d.disk.signature).isSome :=
    compareText_isSome d.signature
  obtain ⟨relaxed, hmagic⟩ :
      ∃ relaxed, compareText 8 0 stdMagic d.disk.magic = some relaxed :=
    Option.isSome_iff_exists.1 (compareText_isSome d.magic)
  have hfirst (o : Option Bool) : (some relaxed <|> o) = some relaxed := rfl
  have htracks := d.tracks
  have hsides := d.sides
  rw [DiskRecord.check, hmagic, hfirst]
  dsimp only
  rw [guard_ok, guard_ok, guard_ok, minNumberOfTracks, maxNumberOfTracks,
    minNumberOfSides, maxNumberOfSides]
  refine ⟨?_, ?_, ?_, rfl⟩
  · simp [Option.isSome_iff_ne_none.1 hsignature]
  · bv_omega
  · bv_omega

/-- The record when the header has been read. -/
def start (d : Image) (record : ImageRecord) : ImageRecord :=
  { record with disk := d.disk }

theorem fetchHeader_eq (d : Image) (record : ImageRecord) :
    fetchHeader record d.bytes =
      .ok (d.start record, d.blocks.flatMap Block.bytes) :=
  bind_ok.2 ⟨d.disk.raw, _, (reads_fetchData _ _ _ _).2 ⟨trivial, rfl⟩,
    bind_ok.2 ⟨(), _, lift_ok.2 ⟨d.check_disk, rfl⟩, rfl⟩⟩

/-- Where a block stands in the file. -/
theorem bytes_drop (d : Image) {k : Nat} (hk : k < d.blocks.length) :
    ∃ rest, d.bytes.drop (256 + k * d.disk.trackSize) =
      d.blocks[k].text ++ rest := by
  have hlen (bs : List Block) (h : ∀ b ∈ bs, b.bytes.length = d.disk.trackSize) :
      (bs.flatMap Block.bytes).length = bs.length * d.disk.trackSize := by
    rw [List.length_flatMap, List.map_congr_left h, List.map_const',
      List.sum_replicate, smul_eq_mul]
  have hfst := hlen (d.blocks.take k) fun b hb => d.size b (List.mem_of_mem_take hb)
  rw [List.length_take, Nat.min_eq_left hk.le] at hfst
  refine ⟨d.blocks[k].padding ++ (d.blocks.drop (k + 1)).flatMap Block.bytes, ?_⟩
  have hsplit : d.blocks.flatMap Block.bytes =
      (d.blocks.take k).flatMap Block.bytes ++ (d.blocks[k].bytes ++
        (d.blocks.drop (k + 1)).flatMap Block.bytes) := by
    rw [← List.flatMap_cons, ← List.drop_eq_getElem_cons hk,
      ← List.flatMap_append, List.take_append_drop]
  rw [bytes, ← List.drop_drop, List.drop_left' List.length_ofFn, hsplit,
    List.drop_left' hfst, Block.bytes, List.append_assoc]

theorem fetch_ok (d : Image) (record r : ImageRecord) :
    fetch (some d.bytes) record = .ok r ↔
      ∃ s', loop d.blocks.length fetchTrack (d.start record)
        (d.blocks.flatMap Block.bytes) = .ok (r, s') := by
  rw [fetch, fst_ok]
  simp only [bind_ok, d.fetchHeader_eq record, d.count, ← loop_loop]
  refine exists_congr fun s' => ⟨?_, fun h => ⟨_, _, rfl, h⟩⟩
  rintro ⟨a, s, h, hr⟩
  cases h
  exact hr

/-- The texts of the tracks stand back to back behind the disk header. -/
def Packed (d : Image) : Prop :=
  d.blocks.flatMap Block.text <+: d.blocks.flatMap Block.bytes

end Image

/-- The record when the `k`-th track has been read. -/
def fetchedTrack (file : List Byte) (image : ImageRecord) (k : Nat) :
    Except String ImageRecord :=
  (·.1) <$> (fetchHeader image >>= .loop (k + 1) fetchTrack) file

namespace Image

theorem fetchedTrack_ok (d : Image) (record r : ImageRecord) (k : Nat) :
    fetchedTrack d.bytes record k = .ok r ↔
      ∃ s', loop (k + 1) fetchTrack (d.start record)
        (d.blocks.flatMap Block.bytes) = .ok (r, s') := by
  rw [fetchedTrack, fst_ok]
  simp only [bind_ok, d.fetchHeader_eq record]
  refine exists_congr fun s' => ⟨?_, fun h => ⟨_, _, rfl, h⟩⟩
  rintro ⟨a, s, h, hr⟩
  cases h
  exact hr

/-- The image is accepted, and for each block the text of the track that is in
the record then is how the block begins. -/
structure Decodes (d : Image) (record : ImageRecord) : Prop where
  accepts : ∃ r, fetch (some d.bytes) record = .ok r
  track : ∀ k < d.blocks.length, ∃ r,
    fetchedTrack d.bytes record k = .ok r ∧
      trackBytes r.track r.sector <+:
        d.bytes.drop (256 + k * d.disk.trackSize)

theorem decodes_iff (d : Image) (record : ImageRecord) :
    d.Decodes record ↔ (∀ b ∈ d.blocks, b.Accepted) ∧ d.Packed := by
  have htext {k : Nat} (hk : k < d.blocks.length) (r : ImageRecord) :
      trackBytes r.track r.sector <+:
          d.bytes.drop (256 + k * d.disk.trackSize) ↔
        trackBytes r.track r.sector = d.blocks[k].text := by
    obtain ⟨rest, hrest⟩ := d.bytes_drop hk
    rw [hrest]
    constructor
    · intro h
      exact (trackBytes_inj h (List.prefix_append _ rest)).2.2
    · intro h
      rw [h]
      exact List.prefix_append _ rest
  have hloop := loop_texts reads_fetchTrack
    (T := fun t => ∃ track sector, Checked track sector ∧
      trackBytes track sector = t)
    (fun image t => ⟨fun ⟨track, sector, h, ht⟩ => ht ▸
        exists_filled h image.disk,
      fun ⟨r, h, ht⟩ => ⟨r.track, r.sector, h.2.1, ht⟩⟩)
    (d.blocks.map Block.text) (d.start record) (d.blocks.flatMap Block.bytes)
  simp only [List.forall_mem_map, Block.exists_checked_iff] at hloop
  rw [Packed, List.flatMap_def, and_comm, ← hloop]
  simp only [List.length_map, List.getElem_map]
  constructor
  · intro h k hk
    obtain ⟨r, hr, hpre⟩ := h.track k hk
    obtain ⟨s', hs'⟩ := (d.fetchedTrack_ok record r k).1 hr
    exact ⟨r, s', hs', (htext hk r).1 hpre⟩
  · intro h
    refine ⟨?_, fun k hk => ?_⟩
    · -- The record of the last track is the one that is left.
      have htracks := d.tracks
      have hsides := d.sides
      obtain ⟨m, hm⟩ : ∃ m, d.blocks.length = m + 1 := by
        refine Nat.exists_eq_succ_of_ne_zero (Nat.ne_of_gt ?_)
        rw [d.count]
        exact Nat.mul_pos (by bv_omega) (by bv_omega)
      obtain ⟨r, s', hr, -⟩ := h m (by omega)
      exact ⟨r, (d.fetch_ok record r).2 ⟨s', hm ▸ hr⟩⟩
    · obtain ⟨r, s', hr, heq⟩ := h k hk
      exact ⟨r, (d.fetchedTrack_ok record r k).2 ⟨s', hr⟩, (htext hk r).2 heq⟩

/-- Blocks without padding, except for the last, are back to back. -/
theorem packed_of_no_padding (d : Image) {bs : List Block} {b : Block}
    (hd : d.blocks = bs ++ [b]) (h : ∀ b ∈ bs, b.padding = []) : d.Packed := by
  have hbs : bs.flatMap Block.text = bs.flatMap Block.bytes :=
    List.flatMap_congr fun c hc => by
      rw [Block.bytes, h c hc, List.append_nil]
  rw [Packed, hd, List.flatMap_append, List.flatMap_append, hbs,
    List.prefix_append_right_inj, List.flatMap_singleton,
    List.flatMap_singleton]
  exact List.prefix_append _ _

end Image

/-- An image is decoded, every track from its own block, exactly if its blocks
pass the checks and the texts of the tracks stand back to back. -/
theorem disk_image_decoding (d : Image) (record : ImageRecord) :
    d.Decodes record ↔ (∀ b ∈ d.blocks, b.Accepted) ∧ d.Packed :=
  d.decodes_iff record

/-! ## Two images -/

theorem length_trackBytes (track : TrackRecord)
    (sector : Fin 29 → SectorRecord) :
    (trackBytes track sector).length =
      256 + ∑ i : Fin 29, if i.val < track.numberOfSectors.toNat then
        min (sector i).info.size 8192 else 0 := by
  have hdata (i : Fin 29) : (if i.val < track.numberOfSectors.toNat then
        sectorBytes (sector i).info (sector i).data else []).length =
      if i.val < track.numberOfSectors.toNat then
        min (sector i).info.size 8192 else 0 := by
    split
    · exact length_sectorBytes _ _
    · rfl
  simp only [trackBytes, List.length_append, List.length_ofFn,
    List.length_flatten, List.map_ofFn, Function.comp_def, hdata,
    List.sum_ofFn, Finset.sum_const, Finset.card_univ, Fintype.card_fin,
    smul_eq_mul]
  omega

/-- The disk header of `tracks` tracks on one side. -/
def diskHeader (tracks sizeLsb sizeMsb : Byte) : DiskRecord :=
  ⟨fun i => (stdMagic ++ dskInfo ++ List.replicate 14 0 ++
    [tracks, 1, sizeLsb, sizeMsb]).getD i.val 0⟩

/-- A track of `n` sectors of 128 bytes. -/
def trackHeader (track n : Byte) : TrackRecord :=
  ⟨fun i => (trkInfo ++
    [0, 0, 0, 0, track, 0, 0, 0, 0, n, 0x4e, 0xe5]).getD i.val 0⟩

def sectorTable (track : Byte) (i : Fin 29) : SectorRecord :=
  ⟨⟨fun j => [track, 0, .ofNat 8 (i.val + 1), 0].getD j.val 0⟩, fun _ => 0xe5⟩

def block (track n : Byte) (padding : List Byte) (hn : 1 ≤ n ∧ n ≤ 29) :
    Block where
  track := trackHeader track n
  sector := sectorTable track
  padding := padding
  signature := rfl
  sectors := hn
  codes := fun _ _ => (by decide : (0 : Byte) ≤ 6)

/-- One track with the table full, and nothing else in its block. -/
def fullTable : Image where
  disk := diskHeader 1 0x80 0x0f
  blocks := [block 0 29 [] (by decide)]
  magic := rfl
  signature := rfl
  tracks := by decide
  sides := by decide
  count := rfl
  size := by
    intro b hb
    obtain rfl := List.mem_singleton.1 hb
    rw [Block.bytes, List.length_append, Block.text, length_trackBytes]
    decide +kernel

/-- Two tracks of one sector, in blocks with room for a second. -/
def roomy : Image where
  disk := diskHeader 2 0x00 0x02
  blocks := [block 0 1 (List.replicate 128 0) (by decide),
    block 1 1 (List.replicate 128 0) (by decide)]
  magic := rfl
  signature := rfl
  tracks := by decide
  sides := by decide
  count := rfl
  size := by
    intro b hb
    rw [Block.bytes, List.length_append, Block.text, length_trackBytes]
    simp only [List.mem_cons, List.not_mem_nil, or_false] at hb
    rcases hb with rfl | rfl <;> decide +kernel

/-- The record that `clear` makes. -/
def cleared : ImageRecord :=
  ⟨⟨fun _ => 0⟩, ⟨fun _ => 0⟩, fun _ => ⟨⟨fun _ => 0⟩, fun _ => 0⟩⟩

/-- Neither of them is decoded. -/
theorem fullTable_roomy_rejected :
    ¬ fullTable.Decodes cleared ∧ ¬ roomy.Decodes cleared := by
  constructor
  · intro h
    have hb := (fullTable.decodes_iff cleared).1 h |>.1 _
      (List.mem_singleton_self _)
    exact absurd hb.sectors (by decide)
  · intro h
    have hpacked := ((roomy.decodes_iff cleared).1 h).2
    rw [Image.Packed] at hpacked
    simp only [roomy, List.flatMap_cons, List.flatMap_nil, List.append_nil,
      Block.bytes, List.append_assoc, List.prefix_append_right_inj] at hpacked
    obtain ⟨rest, hrest⟩ := hpacked
    -- A track begins with a T, the padding does not.
    have hhead := congrArg List.head? hrest
    rw [Block.text, trackBytes, List.append_assoc] at hhead
    cases hhead

end Xcpc.Dsk
