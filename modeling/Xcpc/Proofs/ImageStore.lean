import Xcpc.Dev.Floppy
import Xcpc.Formats.CpcEmu

/-!
# The image as a store of sectors

An image whose tracks are formatted is a floppy disk: `floppy` reads the
sectors of the disk off the file. The driver reads and writes them: what it
reads is what the disk has, and after a write the file is the disk with that
sector in it.

Formatted means that every track that the disk header counts has a track header
of at most 29 sectors with different IDs, that the sectors fit into their
records, that no record looks as if it had copies, and that no track reaches
into the next.
-/

namespace Xcpc.LibDsk

open Prog

/-! ## Files -/

namespace File

/-- The bytes of a file as a buffer. -/
def data (f : File) : Nat → Byte := fun i => f.bytes.getD i 0

theorem data_of_lt {f : File} {i : Nat} (h : i < f.bytes.length) :
    f.data i = f.bytes[i] := by
  rw [data, List.getD_eq_getElem?_getD, List.getElem?_eq_getElem h,
    Option.getD_some]

theorem read_eq {f : File} {n : Nat} (h : f.pos + n ≤ f.bytes.length) :
    f.read n = (Buffer.slice f.data f.pos n, f.seek (f.pos + n)) := by
  have hlen : ((f.bytes.drop f.pos).take n).length = n := by
    rw [List.length_take, List.length_drop]
    omega
  have hxs : (f.bytes.drop f.pos).take n = Buffer.slice f.data f.pos n := by
    refine List.ext_getElem (by rw [hlen, Buffer.length_slice]) ?_
    intro i hi hi'
    rw [Buffer.getElem_slice, data_of_lt (by omega)]
    simp
  simp only [read, hlen, seek]
  rw [hxs]

theorem length_write {f : File} {xs : List Byte} (h : xs ≠ []) :
    (f.write xs).bytes.length = max f.bytes.length (f.pos + xs.length) := by
  simp only [write, splice, if_neg h, List.length_append, List.length_take,
    List.length_replicate, List.length_drop]
  omega

/-- Inside of the file nothing is added. -/
theorem length_write_of_le {f : File} {xs : List Byte}
    (h : f.pos + xs.length ≤ f.bytes.length) :
    (f.write xs).bytes.length = f.bytes.length := by
  by_cases hxs : xs = []
  · simp [write, splice, hxs]
  · rw [length_write hxs, Nat.max_eq_left h]

/-- Writing is storing: a gap behind the old end reads as zeros before and
after. -/
theorem data_write (f : File) (xs : List Byte) :
    (f.write xs).data = Buffer.put f.data f.pos xs := by
  by_cases hxs : xs = []
  · simp [write, splice, hxs]
  · generalize hl : (f.bytes ++ List.replicate (f.pos - f.bytes.length) 0).take
      f.pos = l
    have hlen : l.length = f.pos := by
      rw [← hl, List.length_take, List.length_append, List.length_replicate]
      omega
    funext i
    simp only [data, write, splice, if_neg hxs, hl]
    rcases lt_or_ge i f.pos with hi | hi
    · rw [Buffer.put_of_lt hi, List.append_assoc, List.getD_append _ _ _ _
        (by omega), ← hl, List.getD_eq_getElem?_getD,
        List.getElem?_take_of_lt hi, ← List.getD_eq_getElem?_getD, data]
      rcases lt_or_ge i f.bytes.length with hb | hb
      · rw [List.getD_append _ _ _ _ hb]
      · rw [List.getD_append_right _ _ _ _ hb, List.getD_eq_default _ _ hb]
        simp
    · obtain ⟨k, rfl⟩ := Nat.exists_eq_add_of_le hi
      rcases lt_or_ge k xs.length with hk | hk
      · rw [Buffer.put_add hk, List.append_assoc,
          List.getD_append_right _ _ _ _ (by omega), hlen,
          Nat.add_sub_cancel_left, List.getD_append _ _ _ _ hk,
          List.getD_eq_getElem _ _ hk]
      · rw [Buffer.put_of_le (by omega), List.getD_append_right _ _ _ _
          (by rw [List.length_append]; omega), List.length_append, hlen, data,
          List.getD_eq_getElem?_getD, List.getElem?_drop,
          ← List.getD_eq_getElem?_getD]
        congr 1
        omega

end File

namespace Cpcemu

/-! ## Looking up a sector -/

section lookup

variable {c : Cpcemu} {sector : Nat}

/-- The length of the sectors of the track, as its header has it. -/
def base (c : Cpcemu) : Nat := 128 <<< (c.trkhead 0x14).toNat

/-- The length of the `n`-th sector, as its record has it. -/
def size (c : Cpcemu) (n : Nat) : Nat :=
  128 <<< (c.trkhead (secid n + 3) &&& 7).toNat

/-- The sectors of the track have different IDs. -/
def Unique (c : Cpcemu) : Prop := ∀ m n, m < c.maxsec → n < c.maxsec →
  c.recordId m = c.recordId n → m = n

theorem recordOffset_succ (n : Nat) :
    c.recordOffset (n + 1) = c.recordOffset n + c.recordLen n := by
  simp [recordOffset, List.range_succ]

theorem recordOffset_mono {m n : Nat} (h : m ≤ n) :
    c.recordOffset m ≤ c.recordOffset n := by
  induction h with
  | refl => exact Nat.le_refl _
  | step _ ih =>
      rw [Nat.succ_eq_add_one, recordOffset_succ]
      omega

/-- The search from a record on finds the first one with the ID. -/
theorem search_eq (c : Cpcemu) (sector todo n : Nat) :
    c.search sector todo n 0 (c.recordOffset n) =
      ((List.range' n todo).find? fun m => (c.recordId m).toNat = sector).map
        fun m => ⟨c.recordOffset m, c.recordLen m, m⟩ := by
  induction todo generalizing n with
  | zero => rfl
  | succ todo ih =>
      rw [search, List.range'_succ, List.find?_cons]
      simp only [if_true]
      by_cases h : (c.recordId n).toNat = sector
      · simp [h]
      · rw [if_neg h, ← recordOffset_succ, ih]
        simp [h]

theorem sectorHead_some {n : Nat} (hu : c.Unique) :
    c.sectorHead sector = some n ↔
      n < c.maxsec ∧ (c.recordId n).toNat = sector := by
  rw [sectorHead]
  constructor
  · intro h
    have hm := List.mem_of_find?_eq_some h
    have hp := List.find?_some h
    exact ⟨List.mem_range.1 hm, by simpa using hp⟩
  · rintro ⟨hn, hid⟩
    cases h : (List.range c.maxsec).find? fun m =>
        decide ((c.recordId m).toNat = sector) with
    | none =>
        rw [List.find?_eq_none] at h
        have := h n (List.mem_range.2 hn)
        simp [hid] at this
    | some m =>
        have hm := List.mem_range.1 (List.mem_of_find?_eq_some h)
        have hp : (c.recordId m).toNat = sector := by
          simpa using List.find?_some h
        rw [hu m n hm hn (BitVec.toNat_inj.1 (hp.trans hid.symm))]

theorem nmatch_le_one (hu : c.Unique) (sector : Nat) : c.nmatch sector ≤ 1 := by
  have hnd : ((List.range c.maxsec).filter fun n =>
      (c.recordId n).toNat = sector).Nodup := List.nodup_range.filter _
  rw [nmatch]
  by_contra hgt
  generalize hxs : (List.range c.maxsec).filter _ = xs at hnd hgt
  have hmem : ∀ n ∈ xs, n < c.maxsec ∧ (c.recordId n).toNat = sector := by
    intro n hn
    rw [← hxs, List.mem_filter, List.mem_range] at hn
    simpa using hn
  obtain ⟨a, b, ys, rfl⟩ : ∃ a b ys, xs = a :: b :: ys := by
    match xs, hgt with
    | a :: b :: ys, _ => exact ⟨a, b, ys, rfl⟩
    | [_], h => exact absurd (Nat.le_refl 1) h
    | [], h => exact absurd (Nat.zero_le 1) h
  obtain ⟨ha, hida⟩ := hmem a (by simp)
  obtain ⟨hb, hidb⟩ := hmem b (by simp)
  have hab := hu a b ha hb (BitVec.toNat_inj.1 (hida.trans hidb.symm))
  simp [hab] at hnd

/-- The length that is found with the `n`-th sector. If it is the current one
the length is that of the sector before. -/
def foundLen (c : Cpcemu) (n : Nat) : Nat :=
  if c.sector = n then if n = 0 then c.base else c.recordLen (n - 1)
  else c.recordLen n

theorem current_eq : c.current sector =
    if 0 ≤ c.sector ∧ c.sector < c.maxsec ∧
        (c.recordId c.sector.toNat).toNat = sector then
      some ⟨c.recordOffset c.sector.toNat, c.foundLen c.sector.toNat,
        c.sector.toNat⟩
    else none := by
  by_cases h : 0 ≤ c.sector ∧ c.sector < c.maxsec
  · by_cases hid : (c.recordId c.sector.toNat).toNat = sector
    · have hs : c.sector = (c.sector.toNat : Int) := by omega
      rw [if_pos ⟨h.1, h.2, hid⟩, current, if_pos h, foundLen, if_pos hs]
      simp only [hid, if_true, base]
    · rw [if_neg fun hn => hid hn.2.2, current, if_pos h]
      simp only [hid, if_false]
  · rw [if_neg fun hn => h ⟨hn.1, hn.2.1⟩, current, if_neg h]

variable (rand : Nat → Nat)

/-- On a track with different IDs `sector_offset` finds the record of the
sector, and `rand` is not used. -/
theorem sectorOffset_eq (hu : c.Unique) (pickRandom : Bool) :
    c.sectorOffset rand sector pickRandom =
      ((c.sectorHead sector).map fun n =>
        ⟨c.recordOffset n, c.foundLen n, n⟩, c) := by
  have h1 := nmatch_le_one hu sector
  have hpick : c.pick rand sector pickRandom = (0, c) :=
    if_neg fun h => by omega
  have hsearch := search_eq c sector c.maxsec 0
  have h0 : c.recordOffset 0 = 0 := rfl
  rw [h0, ← List.range_eq_range', ← sectorHead] at hsearch
  simp only [sectorOffset, hpick, if_pos h1, current_eq]
  split
  · next h =>
    have hn : c.sectorHead sector = some c.sector.toNat :=
      (sectorHead_some hu).2 ⟨by omega, h.2.2⟩
    rw [hn]
    rfl
  · next h =>
    rw [hsearch]
    cases hn : c.sectorHead sector with
    | none => rfl
    | some n =>
        obtain ⟨hlt, hid⟩ := (sectorHead_some hu).1 hn
        have hne : c.sector ≠ n := by
          intro hs
          refine h ⟨by omega, by omega, ?_⟩
          rw [hs]
          exact hid
        simp [foundLen, hne]

end lookup

/-! ## Track headers -/

/-- The driver with the header of a track as it is in the file. -/
def view (c : Cpcemu) (track : Nat) : Cpcemu :=
  { c with trkhead := fun i => c.file.data (c.trackOffset track + i) }

/-- Two headers agree, up to the last bytes of their records. Nothing but the
marks of the sectors is told by these. -/
structure Agree (c c' : Cpcemu) : Prop where
  dskhead : c.dskhead = c'.dskhead
  trkhead : ∀ i, i < 256 → (∀ n, i ≠ secid n + 5) → c.trkhead i = c'.trkhead i

section agree

variable {c c' : Cpcemu} (ha : Agree c c')

include ha

theorem agree_secid {n k : Nat} (hn : n < 29) (hk : k < 8) (h5 : k ≠ 5) :
    c.trkhead (secid n + k) = c'.trkhead (secid n + k) :=
  ha.trkhead _ (by simp only [secid]; omega) fun m => by
    simp only [secid]
    omega

theorem agree_head {i : Nat} (hi : i < 0x18) : c.trkhead i = c'.trkhead i :=
  ha.trkhead i (by omega) fun m => by
    simp only [secid]
    omega

theorem agree_slice {n : Nat} (hn : n ≤ 0x18) :
    Buffer.slice c.trkhead 0 n = Buffer.slice c'.trkhead 0 n :=
  Buffer.slice_congr fun i _ hi => agree_head ha (by omega)

theorem maxsec_congr : c.maxsec = c'.maxsec := by
  rw [maxsec, maxsec, agree_head ha (by omega)]

theorem base_congr : c.base = c'.base := by
  rw [base, base, agree_head ha (by omega)]

theorem recordId_congr {n : Nat} (hn : n < 29) :
    c.recordId n = c'.recordId n :=
  agree_secid ha hn (by omega) (by omega)

theorem size_congr {n : Nat} (hn : n < 29) : c.size n = c'.size n := by
  rw [size, size, agree_secid ha hn (by omega) (by omega)]

theorem recordLen_congr {n : Nat} (hn : n < 29) :
    c.recordLen n = c'.recordLen n := by
  have he : c.extended = c'.extended := by
    rw [extended, extended, ha.dskhead]
  rw [recordLen, recordLen, he, agree_secid ha hn (by omega) (by omega),
    agree_secid ha hn (by omega) (by omega), agree_head ha (by omega)]

theorem recordOffset_congr {n : Nat} (hn : n ≤ 29) :
    c.recordOffset n = c'.recordOffset n := by
  rw [recordOffset, recordOffset]
  refine congrArg List.sum (List.map_congr_left fun m hm => ?_)
  have := List.mem_range.1 hm
  exact recordLen_congr ha (by omega)

theorem foundLen_congr {n : Nat} (hn : n < 29) (hs : c.sector = c'.sector) :
    c.foundLen n = c'.foundLen n := by
  rw [foundLen, foundLen, hs, base_congr ha, recordLen_congr ha hn,
    recordLen_congr (n := n - 1) ha (by omega)]

theorem unique_congr (hn : c.maxsec ≤ 29) (hu : c.Unique) : c'.Unique := by
  intro m n hm hn' hid
  rw [← maxsec_congr ha] at hm hn'
  rw [← recordId_congr ha (by omega), ← recordId_congr ha (by omega)] at hid
  exact hu m n hm hn' hid

theorem sectorHead_congr (hn : c.maxsec ≤ 29) (sector : Nat) :
    c.sectorHead sector = c'.sectorHead sector := by
  rw [sectorHead, sectorHead, ← maxsec_congr ha]
  refine List.find?_congr fun n hm => ?_
  have := List.mem_range.1 hm
  rw [recordId_congr ha (by omega)]

theorem trackRate_congr : trackRate c.trkhead = trackRate c'.trkhead := by
  simp only [trackRate, agree_head ha (i := 0x12) (by omega),
    agree_head ha (i := 0x14) (by omega), agree_head ha (i := 0x15) (by omega)]

theorem trackRecording_congr :
    trackRecording c.trkhead = trackRecording c'.trkhead := by
  simp only [trackRecording, agree_head ha (i := 0x13) (by omega),
    agree_head ha (i := 0x14) (by omega), agree_head ha (i := 0x15) (by omega)]

end agree

/-! ## Formatted images -/

/-- A track that is formatted: `track` is its number. No sector of it has
copies. A record that is twice as long as its sector is one of a sector with
copies to the driver, and so is a sector that comes after such a record: the
driver looks at the record before, when the sector was the last one used. -/
structure TrackAt (rate : Rate) (fm : Bool) (c : Cpcemu) (track : Nat) :
    Prop where
  magic : Buffer.slice (c.view track).trkhead 0 10 = trkMagic
  rate : rateMatches (trackRate (c.view track).trkhead) rate
  mode : recordingMatches (trackRecording (c.view track).trkhead) fm
  few : (c.view track).maxsec ≤ 29
  ids : (c.view track).Unique
  fits : ∀ n, n < (c.view track).maxsec →
    (c.view track).size n ≤ (c.view track).recordLen n
  plain : ∀ n, n < (c.view track).maxsec →
    (n = 0 → (c.view track).base < 2 * (c.view track).size n) ∧
      ∀ m, m = n ∨ m + 1 = n →
        (c.view track).recordLen m < 2 * (c.view track).size n
  room : c.trackOffset track + 256 +
    (c.view track).recordOffset (c.view track).maxsec ≤
      c.trackOffset (track + 1)
  stored : c.trackOffset track + 256 +
    (c.view track).recordOffset (c.view track).maxsec ≤ c.file.bytes.length

/-- The tracks that the disk header counts. -/
def InRange (c : Cpcemu) (cylinder head : Nat) : Prop :=
  cylinder < (c.dskhead 0x30).toNat ∧ head < (c.dskhead 0x31).toNat

instance inRangeDecidable (c : Cpcemu) (cylinder head : Nat) :
    Decidable (c.InRange cylinder head) :=
  inferInstanceAs (Decidable (_ ∧ _))

/-- An image whose tracks are formatted, for drives of a rate and a mode. -/
structure Formatted (rate : Rate) (fm : Bool) (c : Cpcemu) : Prop where
  heads : (c.dskhead 0x31).toNat ≤ 2
  tracks : ∀ cylinder head, c.InRange cylinder head →
    c.TrackAt rate fm (c.trackNumber cylinder head)

/-- The `n`-th sector of a track. -/
def sectorAt (c : Cpcemu) (track n : Nat) : Sector where
  cylinder := ((c.view track).trkhead (secid n)).toNat
  head := ((c.view track).trkhead (secid n + 1)).toNat
  data := Buffer.slice c.file.data
    (c.trackOffset track + 256 + (c.view track).recordOffset n)
    ((c.view track).size n)
  deleted := ((c.view track).trkhead (secid n + 5)).getLsbD 6
  crc := ((c.view track).trkhead (secid n + 5)).getLsbD 5

/-- The disk that is in an image. -/
def floppy (c : Cpcemu) : Floppy := fun cylinder head sector =>
  if c.InRange cylinder head then
    ((c.view (c.trackNumber cylinder head)).sectorHead sector).map
      (c.sectorAt (c.trackNumber cylinder head))
  else none

section formatted

variable {rate : Rate} {fm : Bool} {c : Cpcemu} {track : Nat}

/-- The driver when it has read the header of a track. -/
def loaded (c : Cpcemu) (track : Nat) : Cpcemu :=
  { c with
    trkhead := Buffer.put c.trkhead 0
      (Buffer.slice c.file.data (c.trackOffset track) 256)
    file := c.file.seek (c.trackOffset track + 256) }

theorem trkhead_loaded (c : Cpcemu) (track : Nat) {i : Nat} (hi : i < 256) :
    (c.loaded track).trkhead i = (c.view track).trkhead i := by
  have h : Buffer.put c.trkhead 0
      (Buffer.slice c.file.data (c.trackOffset track) 256) (0 + i) =
      c.file.data (c.trackOffset track + i) := by
    rw [Buffer.put_add (by rw [Buffer.length_slice]; exact hi),
      Buffer.getElem_slice]
  rw [Nat.zero_add] at h
  exact h

theorem agree_loaded (c : Cpcemu) (track : Nat) :
    Agree (c.view track) (c.loaded track) :=
  ⟨rfl, fun _ hi _ => (trkhead_loaded c track hi).symm⟩

theorem lookupTrack_eq {cylinder head : Nat} (h : c.InRange cylinder head) :
    c.lookupTrack cylinder head =
      some (c.trackOffset (c.trackNumber cylinder head)) := by
  obtain ⟨hc, hh⟩ := h
  rw [lookupTrack, if_neg (by omega), if_neg (by omega)]

theorem loadTrackHeader_eq {cylinder head : Nat} (h : c.InRange cylinder head)
    (ht : c.TrackAt rate fm (c.trackNumber cylinder head)) {geom : Geometry}
    (hr : geom.datarate = rate) (hm : geom.fm = fm) :
    c.loadTrackHeader geom cylinder head =
      (.ok, c.loaded (c.trackNumber cylinder head)) := by
  rw [loadTrackHeader, lookupTrack_eq h]
  generalize c.trackNumber cylinder head = track at ht
  have ha := agree_loaded c track
  have hread : (c.file.seek (c.trackOffset track)).read 256 =
      (Buffer.slice c.file.data (c.trackOffset track) 256,
        c.file.seek (c.trackOffset track + 256)) := by
    have := ht.stored
    exact File.read_eq (by simp only [File.seek]; omega)
  have hmagic := (agree_slice ha (n := 10) (by omega)).symm.trans ht.magic
  have hrate := ht.rate
  have hmode := ht.mode
  rw [trackRate_congr ha] at hrate
  rw [trackRecording_congr ha] at hmode
  subst hr hm
  simp only [hread, Buffer.length_slice]
  rw [if_neg (Nat.lt_irrefl _), if_neg, if_neg, if_neg]
  · rfl
  · simpa [loaded] using hmode
  · simpa [loaded] using hrate
  · exact not_not.2 hmagic

/-- The driver in front of the data of a sector. -/
def atSector (c : Cpcemu) (track n : Nat) : Cpcemu :=
  { c.loaded track with
    file := c.file.seek
      (c.trackOffset track + 256 + (c.view track).recordOffset n) }

/-! ## Places -/

/-- The number of the track of a place. -/
def trackOf (c : Cpcemu) (p : Place) : Nat := c.trackNumber p.cylinder p.head

/-- The record of the sector that is found at a place. -/
def lookup (c : Cpcemu) (p : Place) : Option Nat :=
  ((c.view (c.trackOf p)).sectorHead p.sector).filter fun n =>
    Floppy.Expected p (c.sectorAt (c.trackOf p) n)

theorem floppy_find {p : Place} (hp : c.InRange p.cylinder p.head) :
    c.floppy.find p = (c.lookup p).map (c.sectorAt (c.trackOf p)) := by
  rw [Floppy.find, floppy, if_pos hp, lookup]
  show Option.filter _ (Option.map (c.sectorAt (c.trackOf p)) _) = _
  cases h : (c.view (c.trackOf p)).sectorHead p.sector with
  | none =>
      have h' : (c.view (c.trackNumber p.cylinder p.head)).sectorHead p.sector =
          none := h
      rw [h']
      rfl
  | some n =>
      have h' : (c.view (c.trackNumber p.cylinder p.head)).sectorHead p.sector =
          some n := h
      rw [h']
      by_cases he : Floppy.Expected p (c.sectorAt (c.trackOf p) n)
      · simp [Option.filter, he]
      · simp [Option.filter, he]

theorem lookup_lt {p : Place} {n : Nat}
    (ht : c.TrackAt rate fm (c.trackOf p)) (h : c.lookup p = some n) :
    n < (c.view (c.trackOf p)).maxsec := by
  rw [lookup, Option.filter_eq_some_iff] at h
  exact ((sectorHead_some ht.ids).1 h.1).1

/-- No sector of the track looks as if it had copies. -/
theorem foundLen_lt {n : Nat} (ht : c.TrackAt rate fm track)
    (hn : n < (c.view track).maxsec) :
    (c.view track).foundLen n < 2 * (c.view track).size n := by
  obtain ⟨hb, hl⟩ := ht.plain n hn
  rw [foundLen]
  split
  · split
    · next h0 => exact hb h0
    · exact hl _ (.inr (by omega))
  · exact hl n (.inl rfl)

/-- What `seekto_sector` does on a formatted track. -/
theorem seektoSector_eq (rand : Nat → Nat) {p : Place} {geom : Geometry}
    (hp : c.InRange p.cylinder p.head) (ht : c.TrackAt rate fm (c.trackOf p))
    (hr : geom.datarate = rate) (hm : geom.fm = fm) (len : Nat)
    (pickRandom : Bool) :
    c.seektoSector rand geom p.cylinder p.head p.cylExpect p.headExpect
      p.sector len pickRandom =
    ((c.lookup p).map fun n =>
        let size := (c.view (c.trackOf p)).size n
        (⟨if size = len then .ok else .dataErr, min size len, 1, size, some n⟩,
          c.atSector (c.trackOf p) n)).getD
      (⟨.noAddr, len, 1, 0, none⟩, c.loaded (c.trackOf p)) := by
  have hload : c.loadTrackHeader geom p.cylinder p.head =
      (.ok, c.loaded (c.trackOf p)) := loadTrackHeader_eq hp ht hr hm
  have ha := agree_loaded c (c.trackOf p)
  have hu : (c.loaded (c.trackOf p)).Unique := unique_congr ha ht.few ht.ids
  have hhead : (c.loaded (c.trackOf p)).sectorHead p.sector =
      (c.view (c.trackOf p)).sectorHead p.sector :=
    (sectorHead_congr ha ht.few p.sector).symm
  rw [seektoSector, hload]
  simp only [sectorOffset_eq rand hu, ne_eq, not_true_eq_false, if_false]
  rw [hhead, lookup]
  cases hn : (c.view (c.trackOf p)).sectorHead p.sector with
  | none => rfl
  | some n =>
      obtain ⟨hlt, -⟩ := (sectorHead_some ht.ids).1 hn
      have h29 : n < 29 := Nat.lt_of_lt_of_le hlt ht.few
      have hsize : 128 <<< ((c.loaded (c.trackOf p)).trkhead (secid n + 3) &&&
          7).toNat = (c.view (c.trackOf p)).size n := (size_congr ha h29).symm
      have hplain := foundLen_lt ht hlt
      have hfound : (c.loaded (c.trackOf p)).foundLen n =
          (c.view (c.trackOf p)).foundLen n := (foundLen_congr ha h29 rfl).symm
      have hoff : (c.loaded (c.trackOf p)).recordOffset n =
          (c.view (c.trackOf p)).recordOffset n :=
        (recordOffset_congr ha (by omega)).symm
      have h0 : (c.loaded (c.trackOf p)).trkhead (secid n) =
          (c.view (c.trackOf p)).trkhead (secid n) :=
        (agree_secid ha h29 (k := 0) (by omega) (by omega)).symm
      have h1 : (c.loaded (c.trackOf p)).trkhead (secid n + 1) =
          (c.view (c.trackOf p)).trkhead (secid n + 1) :=
        (agree_secid ha h29 (by omega) (by omega)).symm
      have hexp : (p.cylExpect ≠
            ((c.loaded (c.trackOf p)).trkhead (secid n)).toNat ∨
          p.headExpect ≠
            ((c.loaded (c.trackOf p)).trkhead (secid n + 1)).toNat) ↔
          ¬ Floppy.Expected p (c.sectorAt (c.trackOf p) n) := by
        rw [h0, h1, Floppy.Expected, sectorAt]
        simp only [not_and_or, ne_eq, eq_comm]
      have hone : ¬ (c.view (c.trackOf p)).size n * 2 ≤
          (c.view (c.trackOf p)).foundLen n := by omega
      simp only [Option.map_some, hsize, hfound, hoff, hone, if_false]
      by_cases he : Floppy.Expected p (c.sectorAt (c.trackOf p) n)
      · rw [if_neg fun h => hexp.1 h he]
        simp only [Option.filter, he]
        rfl
      · rw [if_pos (hexp.2 he)]
        simp only [Option.filter, he]
        rfl

/-! ## Reading -/

/-- The same image, whatever track is loaded. -/
structure SameImage (c c' : Cpcemu) : Prop where
  bytes : c'.file.bytes = c.file.bytes
  dskhead : c'.dskhead = c.dskhead
  readonly : c'.readonly = c.readonly

theorem SameImage.floppy {c' : Cpcemu} (h : SameImage c c') :
    c'.floppy = c.floppy := by
  obtain ⟨⟨bytes, pos⟩, readonly, sector, dskhead, trkhead, draws⟩ := c
  obtain ⟨⟨bytes', pos'⟩, readonly', sector', dskhead', trkhead', draws'⟩ := c'
  obtain ⟨h₁, h₂, h₃⟩ := h
  simp only at h₁ h₂ h₃
  subst h₁ h₂
  rfl

theorem SameImage.trackAt {c' : Cpcemu} (h : SameImage c c')
    (ht : c.TrackAt rate fm track) : c'.TrackAt rate fm track := by
  obtain ⟨⟨bytes, pos⟩, readonly, sector, dskhead, trkhead, draws⟩ := c
  obtain ⟨⟨bytes', pos'⟩, readonly', sector', dskhead', trkhead', draws'⟩ := c'
  obtain ⟨h₁, h₂, h₃⟩ := h
  simp only at h₁ h₂ h₃
  subst h₁ h₂
  exact ⟨ht.magic, ht.rate, ht.mode, ht.few, ht.ids, ht.fits, ht.plain, ht.room,
    ht.stored⟩

theorem SameImage.formatted {c' : Cpcemu} (h : SameImage c c')
    (hf : c.Formatted rate fm) : c'.Formatted rate fm := by
  have hn (cylinder head : Nat) :
      c'.trackNumber cylinder head = c.trackNumber cylinder head := by
    rw [trackNumber, trackNumber, h.dskhead]
  refine ⟨by rw [h.dskhead]; exact hf.heads, fun cylinder head hr => ?_⟩
  rw [InRange, h.dskhead] at hr
  rw [hn]
  exact h.trackAt (hf.tracks cylinder head hr)

theorem length_data (n : Nat) :
    (c.sectorAt track n).data.length = (c.view track).size n :=
  Buffer.length_slice

/-- The data of a sector lies in the file. -/
theorem sector_stored {n : Nat} (ht : c.TrackAt rate fm track)
    (hn : n < (c.view track).maxsec) :
    c.trackOffset track + 256 + (c.view track).recordOffset n +
        (c.view track).size n ≤
      c.trackOffset track + 256 +
        (c.view track).recordOffset (c.view track).maxsec := by
  have hfit := ht.fits n hn
  have hmono := recordOffset_mono (c := c.view track) (m := n + 1) hn
  rw [recordOffset_succ] at hmono
  omega

theorem seektoSector_found (rand : Nat → Nat) {p : Place} {geom : Geometry}
    {n : Nat} (hp : c.InRange p.cylinder p.head)
    (ht : c.TrackAt rate fm (c.trackOf p)) (hr : geom.datarate = rate)
    (hm : geom.fm = fm) (hn : c.lookup p = some n) (pickRandom : Bool) :
    c.seektoSector rand geom p.cylinder p.head p.cylExpect p.headExpect
      p.sector ((c.view (c.trackOf p)).size n) pickRandom =
    (⟨.ok, (c.view (c.trackOf p)).size n, 1, (c.view (c.trackOf p)).size n,
      some n⟩, c.atSector (c.trackOf p) n) := by
  rw [seektoSector_eq rand hp ht hr hm, hn]
  simp

theorem seektoSector_absent (rand : Nat → Nat) {p : Place} {geom : Geometry}
    (hp : c.InRange p.cylinder p.head) (ht : c.TrackAt rate fm (c.trackOf p))
    (hr : geom.datarate = rate) (hm : geom.fm = fm) (hn : c.lookup p = none)
    (len : Nat) (pickRandom : Bool) :
    c.seektoSector rand geom p.cylinder p.head p.cylExpect p.headExpect
      p.sector len pickRandom =
    (⟨.noAddr, len, 1, 0, none⟩, c.loaded (c.trackOf p)) := by
  rw [seektoSector_eq rand hp ht hr hm, hn]
  rfl

theorem readHere_eq (rand : Nat → Nat) {n : Nat} (ht : c.TrackAt rate fm track)
    (hn : n < (c.view track).maxsec) (deleted : Bool) :
    ∃ c', (c.atSector track n).readHere rand
        ⟨.ok, (c.view track).size n, 1, (c.view track).size n, some n⟩
        ((c.view track).size n) ((c.atSector track n).trkhead (secid n + 5))
        deleted =
      (⟨if (c.sectorAt track n).crc then .dataErr else .ok,
        (c.sectorAt track n).data, deleted⟩, c') ∧ SameImage c c' := by
  have hstored := ht.stored
  have hin := sector_stored ht hn
  have hread : (c.atSector track n).file.read ((c.view track).size n) =
      ((c.sectorAt track n).data, (c.atSector track n).file.seek
        ((c.atSector track n).file.pos + (c.view track).size n)) := by
    refine File.read_eq ?_
    simp only [atSector, File.seek]
    omega
  have hmark : (c.atSector track n).trkhead (secid n + 5) =
      (c.view track).trkhead (secid n + 5) :=
    trkhead_loaded c track (by have := ht.few; simp only [secid]; omega)
  rw [readHere, hmark]
  simp only [Nat.min_self, gt_iff_lt, Nat.lt_irrefl, if_false, hread,
    length_data]
  exact ⟨_, rfl, rfl, rfl, rfl⟩

/-- A sector that is there is read. Without skipping its mark does not matter,
and a mark that was not asked for is reported. -/
theorem xread_found (rand : Nat → Nat) {p : Place} {geom : Geometry} {s : Sector}
    (hf : c.Formatted rate fm) (hp : c.InRange p.cylinder p.head)
    (hr : geom.datarate = rate) (hm : geom.fm = fm)
    (hs : c.floppy.find p = some s) (deleted : Option Bool)
    (hk : deleted.getD false = s.deleted ∨ geom.noskip) :
    ∃ c', c.xread rand geom p.cylinder p.head p.cylExpect p.headExpect p.sector
        s.data.length deleted =
      (⟨if s.crc then .dataErr else .ok, s.data,
        deleted.isSome && (deleted.getD false != s.deleted)⟩, c') ∧
      SameImage c c' := by
  have ht : c.TrackAt rate fm (c.trackOf p) := hf.tracks _ _ hp
  rw [floppy_find hp, Option.map_eq_some_iff] at hs
  obtain ⟨n, hn, rfl⟩ := hs
  have hlt := lookup_lt ht hn
  have hseek := seektoSector_found rand hp ht hr hm hn true
  have hmark : (c.atSector (c.trackOf p) n).trkhead (secid n + 5) =
      (c.view (c.trackOf p)).trkhead (secid n + 5) :=
    trkhead_loaded c _ (by have := ht.few; simp only [secid]; omega)
  rw [length_data]
  show ∃ c', xreadLoop rand geom _ _ _ _ _ (1023 + 1) _ _ _ _ _ _ = _ ∧ _
  rw [xreadLoop, hseek]
  simp only [Bool.false_eq_true, false_and, if_false, reduceCtorEq]
  have hdel : (c.sectorAt (c.trackOf p) n).deleted =
      ((c.view (c.trackOf p)).trkhead (secid n + 5)).getLsbD 6 := rfl
  rw [hdel] at hk ⊢
  rw [hmark]
  by_cases hmis : deleted.getD false =
      ((c.view (c.trackOf p)).trkhead (secid n + 5)).getLsbD 6
  · rw [if_neg (not_not.2 hmis), ← hmark]
    obtain ⟨c', h, hsame⟩ := readHere_eq rand ht hlt false
    refine ⟨c', h.trans ?_, hsame⟩
    rw [hmark, hmis]
    simp
  · rw [if_pos hmis, if_pos (hk.resolve_left hmis), ← hmark]
    obtain ⟨c', h, hsame⟩ := readHere_eq rand ht hlt deleted.isSome
    refine ⟨c', h.trans ?_, hsame⟩
    rw [hmark, bne_iff_ne.2 hmis, Bool.and_true]

/-- A sector that is not there is not found. -/
theorem xread_absent (rand : Nat → Nat) {p : Place} {geom : Geometry}
    (hf : c.Formatted rate fm) (hp : c.InRange p.cylinder p.head)
    (hr : geom.datarate = rate) (hm : geom.fm = fm)
    (hs : c.floppy.find p = none) (len : Nat) (deleted : Option Bool) :
    ∃ c', c.xread rand geom p.cylinder p.head p.cylExpect p.headExpect p.sector
        len deleted = (⟨.noAddr, [], deleted.getD false⟩, c') ∧
      SameImage c c' := by
  have ht : c.TrackAt rate fm (c.trackOf p) := hf.tracks _ _ hp
  rw [floppy_find hp, Option.map_eq_none_iff] at hs
  have hseek := seektoSector_absent rand hp ht hr hm hs len true
  refine ⟨{ c.loaded (c.trackOf p) with sector := -1 }, ?_, rfl, rfl, rfl⟩
  show xreadLoop rand geom _ _ _ _ _ (1023 + 1) _ _ _ _ _ _ = _
  rw [xreadLoop, hseek]
  simp

/-! ## Writing -/

/-- What writing a sector makes of the file: its data and the last byte of its
record. -/
def written (c : Cpcemu) (track n : Nat) (bytes : List Byte) (deleted : Bool) :
    Nat → Byte :=
  Buffer.put
    (Buffer.put c.file.data
      (c.trackOffset track + 256 + (c.view track).recordOffset n) bytes)
    (c.trackOffset track + (secid n + 5))
    [markDeleted ((c.view track).trkhead (secid n + 5)) deleted]

/-- Storing a whole header of which one byte is new. -/
theorem put_header {b h : Nat → Byte} {o k : Nat} (hk : k < 256)
    (hh : ∀ i, i < 256 → i ≠ k → h i = b (o + i)) :
    Buffer.put b o (Buffer.slice h 0 256) =
      Buffer.put b (o + k) [h k] := by
  funext i
  rcases lt_or_ge i o with hi | hi
  · rw [Buffer.put_of_lt hi, Buffer.put_of_lt (by omega)]
  · obtain ⟨j, rfl⟩ := Nat.exists_eq_add_of_le hi
    rcases lt_or_ge j 256 with hj | hj
    · rw [Buffer.put_add (by rw [Buffer.length_slice]; exact hj),
        Buffer.getElem_slice, Nat.zero_add]
      by_cases hjk : j = k
      · subst hjk
        rw [Buffer.put_self]
      · rw [hh j hj hjk, Buffer.put_of_ne (by omega)]
    · rw [Buffer.put_of_le (by rw [Buffer.length_slice]; omega),
        Buffer.put_of_le (by simp; omega)]

theorem written_same {n : Nat} (bytes : List Byte) {deleted : Bool} (hn : n < 29)
    (hsame : markDeleted ((c.view track).trkhead (secid n + 5)) deleted =
      (c.view track).trkhead (secid n + 5)) :
    c.written track n bytes deleted = Buffer.put c.file.data
      (c.trackOffset track + 256 + (c.view track).recordOffset n) bytes := by
  have hk : secid n + 5 < 256 := by simp only [secid]; omega
  funext i
  rw [written, hsame]
  by_cases hi : i = c.trackOffset track + (secid n + 5)
  · subst hi
    rw [Buffer.put_self, Buffer.put_of_lt (by omega)]
    rfl
  · rw [Buffer.put_of_ne hi]

theorem sectorHead_of_trkhead {c' : Cpcemu} {sector : Nat}
    (h : c'.trkhead = c.trkhead) :
    c'.sectorHead sector = c.sectorHead sector := by
  obtain ⟨file, readonly, sector, dskhead, trkhead, draws⟩ := c
  cases h
  rfl

theorem lookupTrack_of_dskhead {c' : Cpcemu} {cylinder head : Nat}
    (h : c'.dskhead = c.dskhead) :
    c'.lookupTrack cylinder head = c.lookupTrack cylinder head := by
  obtain ⟨file, readonly, sector, dskhead, trkhead, draws⟩ := c
  cases h
  rfl

/-- A sector that is there is written, whatever it held. -/
theorem xwrite_found (rand : Nat → Nat) {p : Place} {geom : Geometry} {n : Nat}
    (hp : c.InRange p.cylinder p.head) (ht : c.TrackAt rate fm (c.trackOf p))
    (hr : geom.datarate = rate) (hm : geom.fm = fm) (hro : c.readonly = false)
    (hn : c.lookup p = some n) (buf : Nat → Byte) (deleted : Bool) :
    ∃ c', c.xwrite rand geom buf p.cylinder p.head p.cylExpect p.headExpect
        p.sector ((c.view (c.trackOf p)).size n) deleted = (.ok, c') ∧
      c'.file.data = c.written (c.trackOf p) n
        (Buffer.slice buf 0 ((c.view (c.trackOf p)).size n)) deleted ∧
      c'.file.bytes.length = c.file.bytes.length ∧ c'.dskhead = c.dskhead ∧
      c'.readonly = c.readonly := by
  have hlt := lookup_lt ht hn
  have h29 : n < 29 := Nat.lt_of_lt_of_le hlt ht.few
  have hk : secid n + 5 < 256 := by simp only [secid]; omega
  have hstored := ht.stored
  have hin := sector_stored ht hlt
  have hseek := seektoSector_found rand hp ht hr hm hn false
  have hlook := lookupTrack_eq hp
  have ha := agree_loaded c (c.trackOf p)
  have hhead : (c.loaded (c.trackOf p)).sectorHead p.sector = some n := by
    rw [lookup, Option.filter_eq_some_iff] at hn
    exact (sectorHead_congr ha ht.few p.sector).symm.trans hn.1
  rw [xwrite, hro, hseek]
  simp only [Bool.false_eq_true, if_false, or_true, if_true, Nat.min_self,
    writeCopies]
  have hmark : (c.atSector (c.trackOf p) n).trkhead (secid n + 5) =
      (c.view (c.trackOf p)).trkhead (secid n + 5) :=
    trkhead_loaded c _ hk
  generalize hfile : (c.atSector (c.trackOf p) n).file.write
    (Buffer.slice buf 0 ((c.view (c.trackOf p)).size n)) = f
  have hroom : (c.atSector (c.trackOf p) n).file.pos +
      (Buffer.slice buf 0 ((c.view (c.trackOf p)).size n)).length ≤
        (c.atSector (c.trackOf p) n).file.bytes.length := by
    rw [Buffer.length_slice]
    simp only [atSector, File.seek]
    omega
  have hdata : f.data = Buffer.put c.file.data
      (c.trackOffset (c.trackOf p) + 256 +
        (c.view (c.trackOf p)).recordOffset n)
      (Buffer.slice buf 0 ((c.view (c.trackOf p)).size n)) := by
    rw [← hfile]
    exact File.data_write ..
  have hlen : f.bytes.length = c.file.bytes.length := by
    rw [← hfile]
    exact File.length_write_of_le hroom
  rw [sectorHead_of_trkhead (c := c.loaded (c.trackOf p)), hhead]
  · simp only [hmark]
    split
    · next hsame =>
      exact ⟨_, rfl, hdata.trans (written_same _ h29 hsame).symm, hlen, rfl, hro⟩
    · rw [lookupTrack_of_dskhead (c := c), hlook]
      · have hput := put_header (b := f.data)
          (h := Buffer.put (c.atSector (c.trackOf p) n).trkhead (secid n + 5)
            [markDeleted ((c.view (c.trackOf p)).trkhead (secid n + 5)) deleted])
          (o := c.trackOffset (c.trackOf p)) hk (fun i hi hne => by
            rw [Buffer.put_of_ne hne, hdata, Buffer.put_of_lt (by omega)]
            exact trkhead_loaded c _ hi)
        have hroom' : c.trackOffset (c.trackOf p) + (Buffer.slice
            (Buffer.put (c.atSector (c.trackOf p) n).trkhead (secid n + 5)
              [markDeleted ((c.view (c.trackOf p)).trkhead (secid n + 5))
                deleted]) 0 256).length ≤ f.bytes.length := by
          rw [Buffer.length_slice, hlen]
          omega
        refine ⟨_, rfl, ?_, ?_, rfl, hro⟩
        · refine (File.data_write ..).trans (hput.trans ?_)
          rw [Buffer.put_self, hdata]
          rfl
        · exact (File.length_write_of_le hroom').trans hlen
      · rfl
  · rfl

end formatted

end Cpcemu

end Xcpc.LibDsk
