import Xcpc.Proofs.SectorStore

/-!
# Tracks that are formatted

Formatting a track puts a track header with a record for each sector on its
place, and as many blank sectors behind it. The disk in the image has these
sectors then, and the other tracks are as they were. That takes a track that
is as long as the one it replaces: in an extended image the length of a track
is in the disk header, in units of 256 bytes, and formatting puts the new one
there, with which every later track is looked for at another place.
-/

namespace Xcpc.LibDsk

open Prog

namespace Cpcemu

variable {rate : Rate} {fm : Bool} {c c' : Cpcemu} {track : Nat}
  {ids : List Format} {len : Nat} {filler : Byte}

/-! ## Blank tracks -/

/-- A track as formatting leaves it. -/
structure Blank (rate : Rate) (fm : Bool) (c : Cpcemu) (track : Nat)
    (ids : List Format) (len : Nat) (filler : Byte) : Prop where
  magic : Buffer.slice (c.view track).trkhead 0 10 = trkMagic
  rate : rateMatches (trackRate (c.view track).trkhead) rate
  mode : recordingMatches (trackRecording (c.view track).trkhead) fm
  count : (c.view track).maxsec = ids.length
  base : ids ≠ [] → (c.view track).base = len
  cylinder : ∀ n (h : n < ids.length),
    ((c.view track).trkhead (secid n)).toNat = ids[n].cylinder
  head : ∀ n (h : n < ids.length),
    ((c.view track).trkhead (secid n + 1)).toNat = ids[n].head
  sector : ∀ n (h : n < ids.length),
    ((c.view track).recordId n).toNat = ids[n].sector
  size : ∀ n, n < ids.length → (c.view track).size n = len
  code : ∀ n, n < ids.length → (c.view track).trkhead (secid n + 3) = getPsh len
  mark : ∀ n, n < ids.length → (c.view track).trkhead (secid n + 5) = 0
  recordLen : ∀ n, n < ids.length → (c.view track).recordLen n = len
  data : ∀ i, i < ids.length * len →
    c.file.data (c.trackOffset track + 256 + i) = filler

section blank

variable (hb : Blank rate fm c track ids len filler) (hl : Legal ids len)

include hb

theorem Blank.recordOffset {n : Nat} (hn : n ≤ ids.length) :
    (c.view track).recordOffset n = n * len := by
  induction n with
  | zero => simp [Cpcemu.recordOffset]
  | succ n ih =>
      rw [recordOffset_succ, ih (by omega), hb.recordLen n (by omega),
        Nat.succ_mul]

/-- The sectors of a blank track are blank. -/
theorem Blank.sectorAt {n : Nat} (hn : n < ids.length) :
    c.sectorAt track n = ⟨ids[n].cylinder, ids[n].head,
      List.replicate len filler, false, false⟩ := by
  have hdata : Buffer.slice c.file.data
      (c.trackOffset track + 256 + n * len) len = List.replicate len filler := by
    refine List.ext_getElem (by simp) fun i hi _ => ?_
    rw [Buffer.length_slice] at hi
    have hlt : n * len + i < ids.length * len := by
      have := Nat.mul_le_mul_right len (Nat.succ_le_of_lt hn)
      rw [Nat.succ_mul] at this
      omega
    rw [Buffer.getElem_slice, List.getElem_replicate, Nat.add_assoc _ (n * len),
      hb.data _ hlt]
  rw [Cpcemu.sectorAt, hb.cylinder n hn, hb.head n hn, hb.size n hn, hb.mark n hn,
    hb.recordOffset (Nat.le_of_lt hn), hdata]
  rfl

include hl

theorem Blank.unique : (c.view track).Unique := by
  intro m n hm hn hid
  rw [hb.count] at hm hn
  have h := congrArg BitVec.toNat hid
  rw [hb.sector m hm, hb.sector n hn] at h
  have hinj := List.nodup_iff_injective_get.1 hl.different
  have := @hinj ⟨m, by simpa using hm⟩ ⟨n, by simpa using hn⟩ (by simpa using h)
  simpa using this

theorem Blank.trackAt
    (room : c.trackOffset track + 256 + ids.length * len ≤
      c.trackOffset (track + 1))
    (stored : c.trackOffset track + 256 + ids.length * len ≤
      c.file.bytes.length) : c.TrackAt rate fm track := by
  have hoff := hb.recordOffset (Nat.le_refl ids.length)
  have hpos : 0 < len := by
    obtain ⟨k, -, rfl⟩ := hl.len
    rw [Nat.shiftLeft_eq]
    exact Nat.mul_pos (by omega) (Nat.two_pow_pos k)
  refine ⟨hb.magic, hb.rate, hb.mode, hb.count ▸ hl.few, hb.unique hl,
    fun n hn => ?_, fun n hn => ?_, ?_, ?_⟩
  · rw [hb.count] at hn
    rw [hb.size n hn, hb.recordLen n hn]
  · rw [hb.count] at hn
    refine ⟨fun _ => ?_, fun m hm => ?_⟩
    · rw [hb.base (List.ne_nil_of_length_pos (by omega)), hb.size n hn]
      omega
    · rw [hb.recordLen m (by omega), hb.size n hn]
      omega
  · rw [hb.count, hoff]
    exact room
  · rw [hb.count, hoff]
    exact stored

theorem Blank.sectors (sector : Nat) :
    ((c.view track).sectorHead sector).map (c.sectorAt track) =
      blankTrack ids filler sector := by
  rw [blankTrack]
  cases hs : (c.view track).sectorHead sector with
  | none =>
      have hnone : (ids.find? fun x => x.sector = sector) = none := by
        rw [List.find?_eq_none]
        intro x hx hsec
        obtain ⟨n, hn, rfl⟩ := List.getElem_of_mem hx
        have := (sectorHead_some (hb.unique hl)).2
          ⟨hb.count ▸ hn, (hb.sector n hn).trans (by simpa using hsec)⟩
        rw [hs] at this
        cases this
      rw [hnone]
      rfl
  | some n =>
      obtain ⟨hn, hid⟩ := (sectorHead_some (hb.unique hl)).1 hs
      rw [hb.count] at hn
      rw [hb.sector n hn] at hid
      have hfind : (ids.find? fun x => x.sector = sector) = some ids[n] := by
        cases hx : ids.find? fun x => x.sector = sector with
        | none =>
            rw [List.find?_eq_none] at hx
            exact absurd hid (by simpa using hx ids[n] (List.getElem_mem hn))
        | some x =>
            have hsec := List.find?_some hx
            obtain ⟨m, hm, rfl⟩ :=
              List.getElem_of_mem (List.mem_of_find?_eq_some hx)
            have : m = n := hb.unique hl m n (hb.count ▸ hm) (hb.count ▸ hn)
              (BitVec.toNat_inj.1 (by
                rw [hb.sector m hm, hb.sector n hn, hid]
                simpa using hsec))
            subst this
            rfl
      rw [hfind, Option.map_some, hb.sectorAt hn, Option.map_some,
        hl.secsize _ (List.getElem_mem hn)]

end blank

/-! ## Tracks that are left alone -/

/-- Two images are the same on a track. -/
structure Keeps (c c' : Cpcemu) (track : Nat) : Prop where
  dskhead : c'.dskhead = c.dskhead
  length : c.file.bytes.length ≤ c'.file.bytes.length
  data : ∀ i, c.trackOffset track ≤ i → i < c.trackEnd track →
    c'.file.data i = c.file.data i

theorem trackOffset_of_dskhead (h : c'.dskhead = c.dskhead) (t : Nat) :
    c'.trackOffset t = c.trackOffset t := by
  obtain ⟨file, readonly, sector, dskhead, trkhead, draws⟩ := c
  cases h
  rfl

theorem trackNumber_of_dskhead (h : c'.dskhead = c.dskhead)
    (cylinder head : Nat) :
    c'.trackNumber cylinder head = c.trackNumber cylinder head := by
  rw [trackNumber, trackNumber, h]

theorem inRange_of_dskhead (h : c'.dskhead = c.dskhead) {cylinder head : Nat} :
    c'.InRange cylinder head ↔ c.InRange cylinder head := by
  rw [InRange, InRange, h]

section keeps

variable (hk : Keeps c c' track)

include hk

theorem Keeps.agree : Agree (c.view track) (c'.view track) := by
  refine ⟨hk.dskhead.symm, fun i hi _ => ?_⟩
  show c.file.data _ = c'.file.data _
  rw [trackOffset_of_dskhead hk.dskhead]
  refine (hk.data _ (by omega) ?_).symm
  rw [trackEnd]
  omega

theorem Keeps.trackAt (ht : c.TrackAt rate fm track) :
    c'.TrackAt rate fm track := by
  have ha := hk.agree
  have hmax := maxsec_congr ha
  have hfew := ht.few
  have hlen := hk.length
  have hoff : (c'.view track).recordOffset (c'.view track).maxsec =
      (c.view track).recordOffset (c.view track).maxsec := by
    rw [← hmax, recordOffset_congr ha hfew]
  refine ⟨?_, ?_, ?_, ?_, unique_congr ha hfew ht.ids, ?_, ?_, ?_, ?_⟩
  · rw [← agree_slice ha (by omega)]
    exact ht.magic
  · rw [← trackRate_congr ha]
    exact ht.rate
  · rw [← trackRecording_congr ha]
    exact ht.mode
  · rw [← hmax]
    exact hfew
  · intro m hm
    rw [← hmax] at hm
    rw [← size_congr ha (by omega), ← recordLen_congr ha (by omega)]
    exact ht.fits m hm
  · intro m hm
    rw [← hmax] at hm
    rw [← base_congr ha, ← size_congr ha (by omega)]
    refine ⟨(ht.plain m hm).1, fun k hk => ?_⟩
    rw [← recordLen_congr ha (by omega)]
    exact (ht.plain m hm).2 k hk
  · rw [trackOffset_of_dskhead hk.dskhead, trackOffset_of_dskhead hk.dskhead,
      hoff]
    exact ht.room
  · rw [trackOffset_of_dskhead hk.dskhead, hoff]
    exact Nat.le_trans ht.stored hlen

theorem Keeps.sectors (ht : c.TrackAt rate fm track) (sector : Nat) :
    ((c'.view track).sectorHead sector).map (c'.sectorAt track) =
      ((c.view track).sectorHead sector).map (c.sectorAt track) := by
  have ha := hk.agree
  rw [← sectorHead_congr ha ht.few]
  cases hn : (c.view track).sectorHead sector with
  | none => rfl
  | some n =>
      have hlt := ((sectorHead_some ht.ids).1 hn).1
      have h29 : n < 29 := Nat.lt_of_lt_of_le hlt ht.few
      have hin := sector_stored ht hlt
      have hdata : Buffer.slice c'.file.data
          (c.trackOffset track + 256 + (c.view track).recordOffset n)
          ((c.view track).size n) = Buffer.slice c.file.data
            (c.trackOffset track + 256 + (c.view track).recordOffset n)
            ((c.view track).size n) := by
        refine Buffer.slice_congr fun i hi hi' => hk.data i (by omega) ?_
        rw [trackEnd]
        omega
      have hid (k : Nat) (hk' : k < 8) : (c'.view track).trkhead (secid n + k) =
          (c.view track).trkhead (secid n + k) := by
        show c'.file.data _ = c.file.data _
        rw [trackOffset_of_dskhead hk.dskhead]
        refine hk.data _ (by omega) ?_
        rw [trackEnd]
        simp only [secid]
        omega
      have h0 := hid 0 (by omega)
      rw [Nat.add_zero] at h0
      refine congrArg some ?_
      rw [sectorAt, sectorAt, trackOffset_of_dskhead hk.dskhead,
        ← recordOffset_congr ha (Nat.le_of_lt h29), ← size_congr ha h29, hdata, h0,
        hid 1 (by omega), hid 5 (by omega)]

end keeps

/-! ## Formatting -/

/-- There is room for a track of `n` bytes in place of the one that is there,
and it is as long as that one. -/
def Room (c : Cpcemu) (cylinder head n : Nat) : Prop :=
  if c.extended then (n + 255) / 256 =
    (c.dskhead (0x34 + c.trackNumber cylinder head)).toNat
  else n ≤ (c.dskhead 0x33).toNat * 256 + (c.dskhead 0x32).toNat

theorem trackOffset_succ (t : Nat) : c.trackOffset (t + 1) =
    c.trackOffset t + if c.extended then 256 * (c.dskhead (0x34 + t)).toNat
      else (c.dskhead 0x33).toNat * 256 + (c.dskhead 0x32).toNat := by
  rw [trackOffset, trackOffset]
  cases c.extended with
  | true =>
      rw [if_pos rfl, if_pos rfl, if_pos rfl, List.range_succ, List.map_append,
        List.sum_append, List.map_singleton, List.sum_singleton, Nat.add_assoc]
  | false =>
      simp only [Bool.false_eq_true, if_false]
      rw [Nat.mul_succ]
      omega

theorem Room.le {cylinder head n : Nat} (h : c.Room cylinder head n) :
    c.trackOffset (c.trackNumber cylinder head) + n ≤
      c.trackOffset (c.trackNumber cylinder head + 1) := by
  rw [trackOffset_succ]
  rw [Room] at h
  split at h
  · next hext =>
    rw [if_pos hext]
    omega
  · next hext =>
    rw [if_neg hext]
    omega

/-- A track of the right length is put on the place of the one that is there,
and the disk header stays. -/
theorem place_eq {cylinder head n : Nat} (hin : c.InRange cylinder head)
    (hh : (c.dskhead 0x31).toNat ≤ 2) (hr : c.Room cylinder head n)
    (hn : 256 ≤ n) : c.place cylinder head n =
      .ok ⟨c.trackOffset (c.trackNumber cylinder head), c.dskhead⟩ := by
  obtain ⟨hcyl, hhead⟩ := hin
  have hnum : cylinder * (c.dskhead 0x31).toNat + head =
      c.trackNumber cylinder head := by
    rw [trackNumber]
    have hgt : (c.dskhead 0x31 > 1) ↔ (c.dskhead 0x31).toNat > 1 := Iff.rfl
    by_cases h1 : c.dskhead 0x31 > 1
    · rw [if_pos h1]
      rw [hgt] at h1
      have : (c.dskhead 0x31).toNat = 2 := by omega
      rw [this]
    · rw [if_neg h1]
      rw [hgt] at h1
      have : (c.dskhead 0x31).toNat = 1 := by omega
      rw [this, Nat.mul_one]
  have hone : ¬ (head ≠ 0 ∧ c.dskhead 0x31 = 1) := by
    rintro ⟨h0, h1⟩
    rw [h1] at hhead
    simp at hhead
    omega
  have hlow : ¬ c.dskhead 0x31 < 1 := by
    rw [BitVec.lt_def]
    simp
    omega
  have hfirst : ¬ (head ≠ 0 ∧ c.dskhead 0x31 = 1 ∧ c.dskhead 0x30 > 1) :=
    fun h => hone ⟨h.1, h.2.1⟩
  simp only [place, if_neg hfirst, if_neg hone, if_neg hlow, hnum]
  rw [Room] at hr
  have hext : decide (Buffer.slice c.dskhead 0 8 = extMagic) = c.extended := rfl
  cases he : c.extended with
  | true =>
      rw [he] at hext
      rw [he, if_pos rfl] at hr
      rw [if_pos (of_decide_eq_true hext), if_neg (by omega), if_neg (by omega),
        trackOffset, if_pos he, hr, BitVec.ofNat_toNat, BitVec.setWidth_eq,
        Buffer.put_same]
  | false =>
      rw [he] at hext
      rw [he, if_neg (by decide)] at hr
      have hle : ¬ n > (c.dskhead 0x32).toNat + 256 * (c.dskhead 0x33).toNat := by
        omega
      rw [if_neg (of_decide_eq_false hext), trackOffset, he]
      simp only [hle, and_false, if_false, Bool.false_eq_true]
      congr 2
      rw [Nat.add_comm, Nat.add_comm (c.dskhead 0x32).toNat,
        Nat.mul_comm 256 (c.dskhead 0x33).toNat]

/-- What formatting makes of the file. -/
def formatted (c : Cpcemu) (geom : Geometry) (cylinder head : Nat)
    (ids : List Format) (filler : Byte) : Nat → Byte :=
  Buffer.put c.file.data (c.trackOffset (c.trackNumber cylinder head))
    (Buffer.slice (Buffer.put (fun _ => 0) 0
      (formatHeader geom cylinder head c.extended ids filler)) 0 256 ++
      blankSectors ids filler)

theorem blankSectors_eq (ids : List Format) (filler : Byte) :
    blankSectors ids filler =
      List.replicate (ids.map Format.secsize).sum filler := by
  induction ids with
  | nil => rfl
  | cons x ids ih =>
      rw [blankSectors, List.flatMap_cons, List.map_cons, List.sum_cons,
        List.replicate_add, ← ih]
      rfl

theorem length_formatRecord (ext : Bool) (f : Format) :
    (formatRecord ext f).length = 8 := by
  cases ext <;> rfl

theorem length_formatHeader (geom : Geometry) (cylinder head : Nat) (ext : Bool)
    (ids : List Format) (filler : Byte) :
    (formatHeader geom cylinder head ext ids filler).length =
      24 + 8 * ids.length := by
  simp only [formatHeader, List.length_append,
    Buffer.length_blocks (length_formatRecord ext)]
  rw [Nat.mul_comm]
  rfl

theorem sum_secsize (h : ∀ x ∈ ids, x.secsize = len) :
    (ids.map Format.secsize).sum = ids.length * len := by
  rw [List.map_congr_left (g := fun _ => len) h, List.map_const', List.sum_replicate,
    smul_eq_mul]

/-- Formatting a track in place. -/
theorem format_eq (geom : Geometry) (filler : Byte) {cylinder head : Nat}
    (ho : c.Opened) (hin : c.InRange cylinder head)
    (hh : (c.dskhead 0x31).toNat ≤ 2) (hl : Legal ids len)
    (hr : c.Room cylinder head (ids.length * len + 256))
    (hro : c.readonly = false) :
    ∃ geom' c', c.format geom cylinder head ids filler = (.ok, geom', c') ∧
      c'.file.data = c.formatted geom cylinder head ids filler ∧
      c'.file.bytes.length = max c.file.bytes.length
        (c.trackOffset (c.trackNumber cylinder head) + 256 +
          ids.length * len) ∧
      c'.dskhead = c.dskhead ∧ c'.readonly = c.readonly ∧
      geom'.datarate = geom.datarate ∧ geom'.fm = geom.fm := by
  have hsum := sum_secsize hl.secsize
  have hplace := place_eq hin hh hr (by omega)
  have hfew := hl.few
  generalize hgh : formatHeader geom cylinder head c.extended ids filler = header
  have hlen : header.length ≤ 256 := by
    rw [← hgh, length_formatHeader]
    omega
  have hcyl : ¬ cylinder ≥ (c.dskhead 0x30).toNat := by
    have := hin.1
    omega
  simp only [format, hro, hsum, hplace, hgh, List.take_of_length_le hlen, hcyl,
    Bool.false_eq_true, if_false]
  rw [if_neg (by omega)]
  generalize hoff : c.trackOffset (c.trackNumber cylinder head) = off
  have hge : 256 ≤ off := hoff ▸ trackOffset_ge c _
  have hhead : Buffer.slice (Buffer.put (Buffer.put c.trkhead 0
      (List.replicate 256 0)) 0 header) 0 256 =
      Buffer.slice (Buffer.put (fun _ => 0) 0 header) 0 256 :=
    Buffer.slice_put_congr fun _ hi hi' => Buffer.put_replicate hi hi'
  rw [hhead]
  generalize hH : Buffer.slice (Buffer.put (fun _ => 0) 0 header) 0 256 = H
  have hHlen : H.length = 256 := by rw [← hH, Buffer.length_slice]
  have hHne : H ≠ [] := List.ne_nil_of_length_pos (by omega)
  generalize hB : blankSectors ids filler = B
  have hBlen : B.length = ids.length * len := by
    rw [← hB, blankSectors_eq, List.length_replicate, hsum]
  generalize hw : ((c.file.seek off).write H).write B = w
  have hdata : w.data = Buffer.put c.file.data off (H ++ B) := by
    rw [← hw, File.data_write, File.data_write, Buffer.put_append, hHlen]
    simp only [File.write, hHlen]
    rfl
  have hwlen : w.bytes.length =
      max c.file.bytes.length (off + 256 + ids.length * len) := by
    have h₁ : ((c.file.seek off).write H).bytes.length =
        max c.file.bytes.length (off + 256) := by
      rw [File.length_write hHne, hHlen]
      rfl
    rw [← hw]
    by_cases hBne : B = []
    · rw [hBne, List.length_nil] at hBlen
      rw [hBne, ← hBlen, Nat.add_zero, ← h₁]
      rfl
    · rw [File.length_write hBne, h₁, hBlen]
      simp only [File.write, hHlen, File.seek]
      omega
  have hlow (i : Nat) (hi : i < 256) : w.data i = c.file.data i := by
    rw [hdata, Buffer.put_of_lt (by omega)]
  have hsame : Buffer.slice c.dskhead 0 256 = Buffer.slice w.data 0 256 := by
    refine Buffer.slice_congr fun i _ hi => ?_
    rw [hlow i (by omega), ho.head (by omega)]
  refine ⟨_, _, rfl, ?_, ?_, rfl, rfl, rfl, rfl⟩
  · rw [File.data_write, hsame]
    show Buffer.put w.data 0 (Buffer.slice w.data 0 256) = _
    rw [Buffer.put_slice, hdata, formatted, hgh, hoff, hH, hB]
  · rw [File.length_write_of_le, ← hwlen]
    · rfl
    · rw [Buffer.length_slice]
      show 0 + 256 ≤ w.bytes.length
      omega

theorem trackRate_eq {trkhead : Nat → Byte} {b : Byte}
    (h : trkhead 0x12 = b) (hb : b ≠ 0) : trackRate trkhead = b.toNat := by
  simp only [trackRate, h, if_neg hb]

theorem trackRecording_eq {trkhead : Nat → Byte} {b : Byte}
    (h : trkhead 0x13 = b) (hb : b ≠ 0) : trackRecording trkhead = b.toNat := by
  simp only [trackRecording, h, if_neg hb]

section formatted

variable {geom : Geometry} {cylinder head : Nat} (hl : Legal ids len)
  (hdata : c'.file.data = c.formatted geom cylinder head ids filler)
  (hd : c'.dskhead = c.dskhead)

include hdata hd

/-- The header of a track that was formatted. -/
theorem trkhead_formatted {i : Nat} (hi : i < 256) :
    (c'.view (c.trackNumber cylinder head)).trkhead i =
      (formatHeader geom cylinder head c.extended ids filler).getD i 0 := by
  show c'.file.data _ = _
  rw [trackOffset_of_dskhead hd, hdata, formatted, Buffer.put_append]
  have hlen : (Buffer.slice (Buffer.put (fun _ => (0 : Byte)) 0
      (formatHeader geom cylinder head c.extended ids filler)) 0 256).length =
      256 := Buffer.length_slice
  rw [Buffer.put_of_lt (by omega), Buffer.put_add (by omega),
    Buffer.getElem_slice, Nat.zero_add, Buffer.put_const]

/-- The records of the header. -/
theorem trkhead_formatted_record {n k : Nat} (hfew : ids.length ≤ 29)
    (hn : n < ids.length) (hk : k < 8) :
    (c'.view (c.trackNumber cylinder head)).trkhead (secid n + k) =
      (formatRecord c.extended ids[n]).getD k 0 := by
  have hpos : secid n + k - 24 = n * 8 + k := by
    rw [secid]
    omega
  rw [trkhead_formatted hdata hd (by simp only [secid]; omega)]
  simp only [formatHeader]
  rw [List.getD_append_right _ _ _ _ (by simp [trkInfo, trkMagic, secid]; omega)]
  refine Eq.trans ?_ (Buffer.getD_blocks (length_formatRecord c.extended) hn hk)
  rw [← hpos]
  rfl

theorem magic_formatted :
    Buffer.slice (c'.view (c.trackNumber cylinder head)).trkhead 0 10 =
      trkMagic := by
  refine List.ext_getElem rfl fun i hi hi' => ?_
  have hlt : i < 10 := by
    rwa [Buffer.length_slice] at hi
  rw [Buffer.getElem_slice, Nat.zero_add, trkhead_formatted hdata hd (by omega)]
  simp only [formatHeader, trkInfo]
  rw [List.append_assoc, List.append_assoc, List.append_assoc,
    List.getD_append _ _ _ _ hi', List.getD_eq_getElem _ _ hi']

theorem rate_formatted :
    rateMatches (trackRate (c'.view (c.trackNumber cylinder head)).trkhead)
      geom.datarate := by
  have h := trkhead_formatted hdata hd (i := 0x12) (by omega)
  simp only [formatHeader] at h
  cases hr : geom.datarate with
  | hd =>
      rw [hr] at h
      rw [trackRate_eq (b := 2) (h.trans rfl) (by decide)]
      rfl
  | dd =>
      rw [hr] at h
      rw [trackRate_eq (b := 1) (h.trans rfl) (by decide)]
      rfl
  | sd =>
      rw [hr] at h
      rw [trackRate_eq (b := 1) (h.trans rfl) (by decide)]
      rfl
  | ed =>
      rw [hr] at h
      rw [trackRate_eq (b := 3) (h.trans rfl) (by decide)]
      rfl

theorem mode_formatted :
    recordingMatches
      (trackRecording (c'.view (c.trackNumber cylinder head)).trkhead)
      geom.fm := by
  have h := trkhead_formatted hdata hd (i := 0x13) (by omega)
  cases hm : geom.fm with
  | true =>
      simp only [formatHeader, hm] at h
      rw [trackRecording_eq (b := 1) (h.trans rfl) (by decide)]
      rfl
  | false =>
      simp only [formatHeader, hm] at h
      rw [trackRecording_eq (b := 2) (h.trans rfl) (by decide)]
      rfl

include hl

theorem count_formatted :
    (c'.view (c.trackNumber cylinder head)).maxsec = ids.length := by
  have hfew := hl.few
  rw [maxsec, trkhead_formatted hdata hd (by omega)]
  show (BitVec.ofNat 8 ids.length).toNat = _
  rw [BitVec.toNat_ofNat, Nat.mod_eq_of_lt (by omega)]

theorem base_formatted (hne : ids ≠ []) :
    (c'.view (c.trackNumber cylinder head)).base = len := by
  obtain ⟨k, hk, rfl⟩ := hl.len
  obtain ⟨x, xs, rfl⟩ := List.exists_cons_of_ne_nil hne
  rw [base, trkhead_formatted hdata hd (by omega)]
  show 128 <<< (getPsh x.secsize).toNat = _
  rw [hl.secsize x (by simp)]
  interval_cases k <;> rfl

/-- The id of a record. -/
theorem id_formatted {n : Nat} (hn : n < ids.length) :
    ((c'.view (c.trackNumber cylinder head)).trkhead (secid n)).toNat =
        ids[n].cylinder ∧
      ((c'.view (c.trackNumber cylinder head)).trkhead (secid n + 1)).toNat =
        ids[n].head ∧
      ((c'.view (c.trackNumber cylinder head)).recordId n).toNat =
        ids[n].sector := by
  obtain ⟨hc, hh, hr⟩ := hl.bytes _ (List.getElem_mem hn)
  have hcyl := trkhead_formatted_record hdata hd hl.few hn (k := 0) (by omega)
  rw [Nat.add_zero] at hcyl
  rw [recordId, hcyl, trkhead_formatted_record hdata hd hl.few hn (by omega),
    trkhead_formatted_record hdata hd hl.few hn (by omega)]
  refine ⟨?_, ?_, ?_⟩
  · exact (BitVec.toNat_ofNat _ _).trans (Nat.mod_eq_of_lt hc)
  · exact (BitVec.toNat_ofNat _ _).trans (Nat.mod_eq_of_lt hh)
  · exact (BitVec.toNat_ofNat _ _).trans (Nat.mod_eq_of_lt hr)

theorem size_formatted {n : Nat} (hn : n < ids.length) :
    (c'.view (c.trackNumber cylinder head)).size n = len ∧
      (c'.view (c.trackNumber cylinder head)).trkhead (secid n + 3) =
        getPsh len := by
  obtain ⟨k, hk, rfl⟩ := hl.len
  have hsize := hl.secsize _ (List.getElem_mem hn)
  rw [size, trkhead_formatted_record hdata hd hl.few hn (by omega)]
  refine ⟨?_, congrArg getPsh hsize⟩
  show 128 <<< (getPsh ids[n].secsize &&& 7).toNat = _
  rw [hsize]
  interval_cases k <;> rfl

theorem recordLen_formatted {n : Nat} (hn : n < ids.length) :
    (c'.view (c.trackNumber cylinder head)).recordLen n = len := by
  have hext : (c'.view (c.trackNumber cylinder head)).extended =
      c.extended := by
    show c'.extended = _
    rw [extended, extended, hd]
  rw [recordLen, hext]
  split
  · next he =>
    obtain ⟨k, hk, rfl⟩ := hl.len
    rw [trkhead_formatted_record hdata hd hl.few hn (by omega),
      trkhead_formatted_record hdata hd hl.few hn (by omega), he]
    show (BitVec.ofNat 8 ids[n].secsize).toNat +
      256 * (BitVec.ofNat 8 (ids[n].secsize / 256)).toNat = _
    rw [hl.secsize _ (List.getElem_mem hn)]
    interval_cases k <;> rfl
  · exact base_formatted hl hdata hd (List.ne_nil_of_length_pos (by omega))

theorem data_formatted {i : Nat} (hi : i < ids.length * len) :
    c'.file.data (c'.trackOffset (c.trackNumber cylinder head) + 256 + i) =
      filler := by
  rw [trackOffset_of_dskhead hd, hdata, formatted, blankSectors_eq,
    sum_secsize hl.secsize, Buffer.put_append]
  have hlen : (Buffer.slice (Buffer.put (fun _ => (0 : Byte)) 0
      (formatHeader geom cylinder head c.extended ids filler)) 0 256).length =
      256 := Buffer.length_slice
  rw [hlen]
  exact Buffer.put_replicate (by omega) (by omega)

/-- The new track is blank. -/
theorem blank_formatted : Blank geom.datarate geom.fm c'
    (c.trackNumber cylinder head) ids len filler where
  magic := magic_formatted hdata hd
  rate := rate_formatted hdata hd
  mode := mode_formatted hdata hd
  count := count_formatted hl hdata hd
  base := base_formatted hl hdata hd
  cylinder _ hn := (id_formatted hl hdata hd hn).1
  head _ hn := (id_formatted hl hdata hd hn).2.1
  sector _ hn := (id_formatted hl hdata hd hn).2.2
  size _ hn := (size_formatted hl hdata hd hn).1
  code _ hn := (size_formatted hl hdata hd hn).2
  mark _ hn := trkhead_formatted_record hdata hd hl.few hn (by omega)
  recordLen _ hn := recordLen_formatted hl hdata hd hn
  data _ hi := data_formatted hl hdata hd hi

end formatted

/-- A track that is formatted in place is blank, and the rest of the disk is as
it was. -/
theorem format_floppy {geom : Geometry} {cylinder head : Nat}
    (hf : c.Formatted rate fm) (ho : c.Opened) (hin : c.InRange cylinder head)
    (hr : geom.datarate = rate) (hm : geom.fm = fm) (hro : c.readonly = false)
    (hl : Legal ids len) (hroom : c.Room cylinder head (ids.length * len + 256))
    (filler : Byte) :
    ∃ geom' c', c.format geom cylinder head ids filler = (.ok, geom', c') ∧
      geom'.datarate = rate ∧ geom'.fm = fm ∧ c'.Formatted rate fm ∧ c'.Opened ∧
      c'.floppy = c.floppy.format cylinder head (blankTrack ids filler) ∧
      c'.dskhead = c.dskhead ∧ c'.readonly = c.readonly ∧
      Blank rate fm c' (c.trackNumber cylinder head) ids len filler := by
  obtain ⟨geom', c', hx, hdata, hlen, hd, hro', hr', hm'⟩ :=
    format_eq geom filler ho hin hf.heads hl hroom hro
  have hb := blank_formatted hl hdata hd
  rw [hr, hm] at hb
  have hle := hroom.le
  generalize ht : c.trackNumber cylinder head = t at *
  have hblen : (blankSectors ids filler).length = ids.length * len := by
    rw [blankSectors_eq, List.length_replicate, sum_secsize hl.secsize]
  have hkeep (u : Nat) (hu : c.TrackAt rate fm u) (hne : u ≠ t) :
      Keeps c c' u := by
    refine ⟨hd, by omega, fun i hi hi' => ?_⟩
    rw [hdata, formatted, ht]
    rcases Nat.lt_or_gt_of_ne hne with h | h
    · have := trackEnd_le hu h
      exact Buffer.put_of_lt (by omega)
    · have := trackOffset_le (c := c) (show t + 1 ≤ u from h)
      refine Buffer.put_of_le ?_
      rw [List.length_append, Buffer.length_slice, hblen]
      omega
  have hnew : c'.TrackAt rate fm t := by
    refine hb.trackAt hl ?_ ?_
    · rw [trackOffset_of_dskhead hd, trackOffset_of_dskhead hd]
      omega
    · rw [trackOffset_of_dskhead hd, hlen]
      omega
  have hge := trackOffset_ge c t
  refine ⟨geom', c', hx, hr'.trans hr, hm'.trans hm, ⟨hd ▸ hf.heads, ?_⟩,
    ho.of_data hd (by omega) fun i hi => ?_, ?_, hd, hro', hb⟩
  · intro cyl hd' hin'
    rw [inRange_of_dskhead hd] at hin'
    rw [trackNumber_of_dskhead hd]
    by_cases hne : c.trackNumber cyl hd' = t
    · rw [hne]
      exact hnew
    · have hu := hf.tracks cyl hd' hin'
      exact (hkeep _ hu hne).trackAt hu
  · rw [hdata, formatted, ht]
    exact Buffer.put_of_lt (by omega)
  · funext cyl hd' sector
    rw [Floppy.format]
    by_cases hin' : c.InRange cyl hd'
    · have hleft : c'.floppy cyl hd' sector =
          ((c'.view (c.trackNumber cyl hd')).sectorHead sector).map
            (c'.sectorAt (c.trackNumber cyl hd')) := by
        rw [floppy, if_pos ((inRange_of_dskhead hd).2 hin'),
          trackNumber_of_dskhead hd]
      have hold : c.floppy cyl hd' sector =
          ((c.view (c.trackNumber cyl hd')).sectorHead sector).map
            (c.sectorAt (c.trackNumber cyl hd')) := by
        rw [floppy, if_pos hin']
      rw [hleft, hold]
      by_cases hne : c.trackNumber cyl hd' = t
      · obtain ⟨rfl, rfl⟩ := trackNumber_inj hf.heads hin'.2 hin.2
          (hne.trans ht.symm)
        rw [if_pos ⟨rfl, rfl⟩, hne]
        exact hb.sectors hl sector
      · have hu := hf.tracks cyl hd' hin'
        rw [(hkeep _ hu hne).sectors hu, if_neg]
        rintro ⟨rfl, rfl⟩
        exact hne ht
    · have hleft : c'.floppy cyl hd' sector = none := by
        rw [floppy, if_neg fun h => hin' ((inRange_of_dskhead hd).1 h)]
      have hold : c.floppy cyl hd' sector = none := by
        rw [floppy, if_neg hin']
      rw [hleft, hold, if_neg]
      rintro ⟨rfl, rfl⟩
      exact hin' hin

end Cpcemu

end Xcpc.LibDsk
