import Xcpc.Proofs.ImageStore

/-!
# Sectors that are written

After a sector was written the image is still formatted, and the disk that is
in it differs in that sector alone. Nothing of that is in memory alone: the
file that is left behind is an image that can be opened.
-/

namespace Xcpc.LibDsk

open Prog

namespace Cpcemu

variable {rate : Rate} {fm : Bool} {c c' : Cpcemu} {track n : Nat}

theorem trackOffset_le {t u : Nat} (h : t ≤ u) :
    c.trackOffset t ≤ c.trackOffset u := by
  rw [trackOffset, trackOffset]
  split
  · refine Nat.add_le_add_left ?_ 256
    obtain ⟨k, rfl⟩ := Nat.exists_eq_add_of_le h
    rw [List.range_add, List.map_append, List.sum_append]
    omega
  · exact Nat.add_le_add_right (Nat.mul_le_mul_left _ h) 256

/-- The place behind the last sector of a track. -/
def trackEnd (c : Cpcemu) (track : Nat) : Nat :=
  c.trackOffset track + 256 + (c.view track).recordOffset (c.view track).maxsec

theorem trackEnd_le {t u : Nat} (ht : c.TrackAt rate fm t) (h : t < u) :
    c.trackEnd t ≤ c.trackOffset u :=
  Nat.le_trans ht.room (trackOffset_le h)

/-- The sectors of a track are in order. -/
theorem record_before {m : Nat} (ht : c.TrackAt rate fm track)
    (hm : m < (c.view track).maxsec) (h : m < n) :
    (c.view track).recordOffset m + (c.view track).size m ≤
      (c.view track).recordOffset n := by
  have hfit := ht.fits m hm
  have hmono := recordOffset_mono (c := c.view track) (m := m + 1) h
  rw [recordOffset_succ] at hmono
  omega

/-- With at most two heads a track has one number. -/
theorem trackNumber_inj (hh : (c.dskhead 0x31).toNat ≤ 2) {cyl head cyl' head' : Nat}
    (h : head < (c.dskhead 0x31).toNat) (h' : head' < (c.dskhead 0x31).toNat)
    (heq : c.trackNumber cyl head = c.trackNumber cyl' head') :
    cyl = cyl' ∧ head = head' := by
  have hgt : (c.dskhead 0x31 > 1) ↔ (c.dskhead 0x31).toNat > 1 := Iff.rfl
  rw [trackNumber, trackNumber] at heq
  by_cases h1 : c.dskhead 0x31 > 1
  · rw [if_pos h1, if_pos h1] at heq
    omega
  · rw [if_neg h1, if_neg h1] at heq
    rw [hgt] at h1
    omega

/-! ## What is written and what is not -/

/-- The image with one sector written. -/
structure Wrote (c c' : Cpcemu) (track n : Nat) (bytes : List Byte)
    (deleted : Bool) : Prop where
  data : c'.file.data = c.written track n bytes deleted
  length : c'.file.bytes.length = c.file.bytes.length
  dskhead : c'.dskhead = c.dskhead
  size : bytes.length = (c.view track).size n

theorem written_of_not {bytes : List Byte} {deleted : Bool} {i : Nat}
    (h5 : i ≠ c.trackOffset track + (secid n + 5))
    (hi : i < c.trackOffset track + 256 + (c.view track).recordOffset n ∨
      c.trackOffset track + 256 + (c.view track).recordOffset n +
        bytes.length ≤ i) :
    c.written track n bytes deleted i = c.file.data i := by
  rw [written, Buffer.put_of_ne h5]
  rcases hi with hi | hi
  · exact Buffer.put_of_lt hi
  · exact Buffer.put_of_le hi

theorem markDeleted_bits (st2 : Byte) (deleted : Bool) :
    (markDeleted st2 deleted).getLsbD 6 = deleted ∧
      (markDeleted st2 deleted).getLsbD 5 = st2.getLsbD 5 := by
  revert st2 deleted
  decide

section wrote

variable {bytes : List Byte} {deleted : Bool} (hw : Wrote c c' track n bytes deleted)
  (ht : c.TrackAt rate fm track) (hn : n < (c.view track).maxsec)

include hw

theorem Wrote.trackOffset (t : Nat) : c'.trackOffset t = c.trackOffset t := by
  obtain ⟨file, readonly, sector, dskhead, trkhead, draws⟩ := c
  obtain ⟨file', readonly', sector', dskhead', trkhead', draws'⟩ := c'
  cases hw.dskhead
  rfl

theorem Wrote.trackNumber (cyl head : Nat) :
    c'.trackNumber cyl head = c.trackNumber cyl head := by
  rw [Cpcemu.trackNumber, Cpcemu.trackNumber, hw.dskhead]

theorem Wrote.inRange {cyl head : Nat} :
    c'.InRange cyl head ↔ c.InRange cyl head := by
  rw [InRange, InRange, hw.dskhead]

include ht hn

/-- The headers are as they were, up to the mark of the sector. -/
theorem Wrote.header {t i : Nat} (hu : c.TrackAt rate fm t) (hi : i < 256)
    (h5 : t = track → i ≠ secid n + 5) :
    (c'.view t).trkhead i = (c.view t).trkhead i := by
  have hsize := hw.size
  have hk : secid n + 5 < 256 := by
    have := ht.few
    simp only [secid]
    omega
  have hroom := sector_stored ht hn
  show c'.file.data (c'.trackOffset t + i) = c.file.data (c.trackOffset t + i)
  rw [hw.data, hw.trackOffset]
  rcases Nat.lt_trichotomy t track with h | h | h
  · have := trackEnd_le hu h
    rw [trackEnd] at this
    exact written_of_not (by omega) (.inl (by omega))
  · subst h
    have := h5 rfl
    exact written_of_not (by omega) (.inl (by omega))
  · have := trackEnd_le ht h
    rw [trackEnd] at this
    exact written_of_not (by omega) (.inr (by omega))

theorem Wrote.agree {t : Nat} (hu : c.TrackAt rate fm t) :
    Agree (c.view t) (c'.view t) :=
  ⟨hw.dskhead.symm, fun _ hi h5 => (hw.header ht hn hu hi fun _ => h5 n).symm⟩

/-- Every track is still formatted. -/
theorem Wrote.trackAt {t : Nat} (hu : c.TrackAt rate fm t) :
    c'.TrackAt rate fm t := by
  have ha := hw.agree ht hn hu
  have hmax := maxsec_congr ha
  have hfew := hu.few
  have hoff : (c'.view t).recordOffset (c'.view t).maxsec =
      (c.view t).recordOffset (c.view t).maxsec := by
    rw [← hmax, recordOffset_congr ha hfew]
  refine ⟨?_, ?_, ?_, ?_, unique_congr ha hfew hu.ids, ?_, ?_, ?_, ?_⟩
  · rw [← agree_slice ha (by omega)]
    exact hu.magic
  · rw [← trackRate_congr ha]
    exact hu.rate
  · rw [← trackRecording_congr ha]
    exact hu.mode
  · rw [← hmax]
    exact hfew
  · intro m hm
    rw [← hmax] at hm
    rw [← size_congr ha (by omega), ← recordLen_congr ha (by omega)]
    exact hu.fits m hm
  · intro m hm
    rw [← hmax] at hm
    rw [← base_congr ha, ← size_congr ha (by omega)]
    refine ⟨(hu.plain m hm).1, fun k hk => ?_⟩
    rw [← recordLen_congr ha (by omega)]
    exact (hu.plain m hm).2 k hk
  · rw [hw.trackOffset, hw.trackOffset, hoff]
    exact hu.room
  · rw [hw.trackOffset, hw.length, hoff]
    exact hu.stored

theorem Wrote.formatted (hf : c.Formatted rate fm) : c'.Formatted rate fm := by
  refine ⟨by rw [hw.dskhead]; exact hf.heads, fun cyl head hr => ?_⟩
  rw [hw.trackNumber]
  exact hw.trackAt ht hn (hf.tracks cyl head (hw.inRange.1 hr))

/-- The other sectors are as they were. -/
theorem Wrote.sectorAt_of_ne {t m : Nat} (hu : c.TrackAt rate fm t)
    (hm : m < (c.view t).maxsec) (hne : t = track → m ≠ n) :
    c'.sectorAt t m = c.sectorAt t m := by
  have ha := hw.agree ht hn hu
  have hfew := hu.few
  have hid (k : Nat) (hk : k < 8) : (c'.view t).trkhead (secid m + k) =
      (c.view t).trkhead (secid m + k) := by
    refine hw.header ht hn hu (by simp only [secid]; omega) fun h => ?_
    have := hne h
    simp only [secid]
    omega
  have hdata : Buffer.slice c'.file.data
      (c.trackOffset t + 256 + (c.view t).recordOffset m) ((c.view t).size m) =
      Buffer.slice c.file.data
        (c.trackOffset t + 256 + (c.view t).recordOffset m)
        ((c.view t).size m) := by
    refine Buffer.slice_congr fun i hi hi' => ?_
    have hin := sector_stored hu hm
    have hout := sector_stored ht hn
    have hsize := hw.size
    have hk : secid n + 5 < 256 := by
      have := ht.few
      simp only [secid]
      omega
    rw [hw.data]
    rcases Nat.lt_trichotomy t track with h | h | h
    · have := trackEnd_le hu h
      rw [trackEnd] at this
      exact written_of_not (by omega) (.inl (by omega))
    · subst h
      rcases Nat.lt_or_gt_of_ne (hne rfl) with h | h
      · have := record_before ht hm h
        exact written_of_not (by omega) (.inl (by omega))
      · have := record_before ht hn h
        exact written_of_not (by omega) (.inr (by omega))
    · have := trackEnd_le ht h
      rw [trackEnd] at this
      exact written_of_not (by omega) (.inr (by omega))
  rw [sectorAt, sectorAt, hw.trackOffset, ← recordOffset_congr ha (by omega),
    ← size_congr ha (by omega), hdata]
  have h0 := hid 0 (by omega)
  rw [Nat.add_zero] at h0
  rw [h0, hid 1 (by omega), hid 5 (by omega)]

/-- The sector holds what was written. -/
theorem Wrote.sectorAt_self : c'.sectorAt track n =
    { c.sectorAt track n with data := bytes, deleted := deleted } := by
  have ha := hw.agree ht hn ht
  have hfew := ht.few
  have hsize := hw.size
  have hk : secid n + 5 < 256 := by simp only [secid]; omega
  have hid (k : Nat) (hk : k < 8) (h5 : k ≠ 5) :
      (c'.view track).trkhead (secid n + k) =
        (c.view track).trkhead (secid n + k) :=
    (agree_secid ha (by omega) hk h5).symm
  have hmark : (c'.view track).trkhead (secid n + 5) =
      markDeleted ((c.view track).trkhead (secid n + 5)) deleted := by
    show c'.file.data (c'.trackOffset track + _) = _
    rw [hw.data, hw.trackOffset, written, Buffer.put_self]
  have hdata : Buffer.slice c'.file.data
      (c.trackOffset track + 256 + (c.view track).recordOffset n)
      ((c.view track).size n) = bytes := by
    rw [hw.data, written, Buffer.slice_put_behind (by simp; omega)]
    exact Buffer.slice_put_of_eq hsize.symm
  obtain ⟨h6, h5⟩ := markDeleted_bits
    ((c.view track).trkhead (secid n + 5)) deleted
  rw [sectorAt, sectorAt, hw.trackOffset, ← recordOffset_congr ha (by omega),
    ← size_congr ha (by omega), hdata, hmark, h6, h5]
  have h0 := hid 0 (by omega) (by omega)
  rw [Nat.add_zero] at h0
  rw [h0, hid 1 (by omega) (by omega)]

end wrote

/-- The disk has the sector in place of the one it had. -/
theorem Wrote.floppy {p : Place} {bytes : List Byte} {deleted : Bool}
    (hf : c.Formatted rate fm) (hp : c.InRange p.cylinder p.head)
    (hn : c.lookup p = some n)
    (hw : Wrote c c' (c.trackOf p) n bytes deleted) :
    c'.floppy = c.floppy.write p bytes deleted := by
  have ht : c.TrackAt rate fm (c.trackOf p) := hf.tracks _ _ hp
  have hlt := lookup_lt ht hn
  have hhead : (c.view (c.trackOf p)).sectorHead p.sector = some n := by
    rw [lookup, Option.filter_eq_some_iff] at hn
    exact hn.1
  funext cyl head sector
  by_cases hr : c.InRange cyl head
  · have hu := hf.tracks cyl head hr
    have ha := hw.agree ht hlt hu
    have hleft : c'.floppy cyl head sector =
        ((c.view (c.trackNumber cyl head)).sectorHead sector).map
          (c'.sectorAt (c.trackNumber cyl head)) := by
      rw [Cpcemu.floppy, if_pos (hw.inRange.2 hr), hw.trackNumber,
        ← sectorHead_congr ha hu.few]
    have hold : c.floppy cyl head sector =
        ((c.view (c.trackNumber cyl head)).sectorHead sector).map
          (c.sectorAt (c.trackNumber cyl head)) := by
      rw [Cpcemu.floppy, if_pos hr]
    rw [hleft, Floppy.write, hold]
    split
    · next heq =>
      obtain ⟨rfl, rfl, rfl⟩ := heq
      have hn' : (c.view (c.trackNumber p.cylinder p.head)).sectorHead
          p.sector = some n := hhead
      rw [hn']
      exact congrArg some (hw.sectorAt_self ht hlt)
    · next hne =>
      cases hm : (c.view (c.trackNumber cyl head)).sectorHead sector with
      | none => rfl
      | some m =>
          obtain ⟨hml, hmid⟩ := (sectorHead_some hu.ids).1 hm
          refine congrArg some (hw.sectorAt_of_ne ht hlt hu hml ?_)
          rintro htrack rfl
          obtain ⟨hc, hh⟩ := trackNumber_inj hf.heads hr.2 hp.2 htrack
          obtain ⟨-, hid⟩ := (sectorHead_some ht.ids).1 hhead
          rw [htrack] at hmid
          exact hne ⟨hc, hh, hmid.symm.trans hid⟩
  · have hleft : c'.floppy cyl head sector = none := by
      rw [Cpcemu.floppy, if_neg fun h => hr (hw.inRange.1 h)]
    have hold : c.floppy cyl head sector = none := by
      rw [Cpcemu.floppy, if_neg hr]
    rw [hleft, Floppy.write, hold]
    simp

/-! ## The header of the disk -/

/-- The disk header in memory is the one in the file. -/
structure Opened (c : Cpcemu) : Prop where
  length : 256 ≤ c.file.bytes.length
  dskhead : c.dskhead = Buffer.put (fun _ => 0) 0 (c.file.bytes.take 256)
  magic : c.extended = false → Buffer.slice c.dskhead 0 8 = stdMagic

theorem opened_cpcOpen {bytes : List Byte} {writable ext : Bool}
    (h : cpcOpen bytes writable ext = some c) : c.Opened := by
  simp only [cpcOpen, File.read, List.drop_zero, List.length_take,
    Option.ite_none_left_eq_some, Option.some.injEq] at h
  obtain ⟨hlen, hmagic, rfl⟩ := h
  refine ⟨?_, rfl, fun hext => ?_⟩
  · show 256 ≤ bytes.length
    omega
  · rw [extended, decide_eq_false_iff_not] at hext
    cases ext with
    | true => exact absurd (not_not.1 hmagic) hext
    | false => exact not_not.1 hmagic

/-- An image that was closed is opened again. -/
theorem cpcOpen_again (h : c.Opened) (writable : Bool) :
    cpcOpen c.file.bytes writable c.extended =
      some ⟨⟨c.file.bytes, 256⟩, !writable, 0, c.dskhead, fun _ => 0, 0⟩ := by
  obtain ⟨hlen, hhead, hmagic⟩ := h
  have hl : (c.file.bytes.take 256).length = 256 := by
    rw [List.length_take]
    omega
  simp only [cpcOpen, File.read, List.drop_zero, hl, ← hhead]
  rw [if_neg (by omega), if_neg]
  cases hext : c.extended with
  | true =>
      rw [extended, decide_eq_true_eq] at hext
      exact not_not.2 hext
  | false => exact not_not.2 (hmagic hext)

theorem Opened.head (h : c.Opened) {i : Nat} (hi : i < 256) :
    c.dskhead i = c.file.data i := by
  have hlen := h.length
  rw [h.dskhead, Buffer.put_getElem (by rw [List.length_take]; omega),
    List.getElem_take, File.data_of_lt (by omega)]

theorem Opened.of_data (h : c.Opened) (hd : c'.dskhead = c.dskhead)
    (hl : c.file.bytes.length ≤ c'.file.bytes.length)
    (hdata : ∀ i, i < 256 → c'.file.data i = c.file.data i) : c'.Opened := by
  have hlen := h.length
  have htake : c'.file.bytes.take 256 = c.file.bytes.take 256 := by
    refine List.ext_getElem (by simp; omega) fun i hi hi' => ?_
    rw [List.length_take] at hi hi'
    have := hdata i (by omega)
    rw [File.data_of_lt (by omega), File.data_of_lt (by omega)] at this
    rw [List.getElem_take, List.getElem_take]
    exact this
  refine ⟨Nat.le_trans hlen hl, ?_, fun hext => ?_⟩
  · rw [hd, htake]
    exact h.dskhead
  · rw [extended, hd] at hext
    rw [hd]
    exact h.magic hext

theorem trackOffset_ge (c : Cpcemu) (track : Nat) :
    256 ≤ c.trackOffset track := by
  rw [trackOffset]
  split <;> omega

/-- Writing a sector leaves the disk header alone. -/
theorem Wrote.opened {bytes : List Byte} {deleted : Bool} (h : c.Opened)
    (hw : Wrote c c' track n bytes deleted) : c'.Opened := by
  have := trackOffset_ge c track
  refine h.of_data hw.dskhead (Nat.le_of_eq hw.length.symm) fun i hi => ?_
  rw [hw.data]
  exact written_of_not (by omega) (.inl (by omega))

/-- A sector that is there is written. -/
theorem xwrite_eq (rand : Nat → Nat) {p : Place} {geom : Geometry} {s : Sector}
    (hf : c.Formatted rate fm) (ho : c.Opened)
    (hp : c.InRange p.cylinder p.head) (hr : geom.datarate = rate)
    (hm : geom.fm = fm) (hro : c.readonly = false)
    (hs : c.floppy.find p = some s) (buf : Nat → Byte) (deleted : Bool) :
    ∃ c', c.xwrite rand geom buf p.cylinder p.head p.cylExpect p.headExpect
        p.sector s.data.length deleted = (.ok, c') ∧
      c'.Formatted rate fm ∧ c'.Opened ∧
      c'.floppy =
        c.floppy.write p (Buffer.slice buf 0 s.data.length) deleted ∧
      c'.dskhead = c.dskhead ∧ c'.readonly = c.readonly := by
  have ht : c.TrackAt rate fm (c.trackOf p) := hf.tracks _ _ hp
  rw [floppy_find hp, Option.map_eq_some_iff] at hs
  obtain ⟨n, hn, rfl⟩ := hs
  rw [length_data]
  obtain ⟨c', hx, hdata, hlen, hhead, hro'⟩ :=
    xwrite_found rand hp ht hr hm hro hn buf deleted
  have hw : Wrote c c' (c.trackOf p) n (Buffer.slice buf 0
      ((c.view (c.trackOf p)).size n)) deleted :=
    ⟨hdata, hlen, hhead, Buffer.length_slice⟩
  exact ⟨c', hx, hw.formatted ht (lookup_lt ht hn) hf, hw.opened ho,
    hw.floppy hf hp hn, hhead, hro'⟩

/-- A sector that is not there is not written. -/
theorem xwrite_absent (rand : Nat → Nat) {p : Place} {geom : Geometry}
    (hf : c.Formatted rate fm) (hp : c.InRange p.cylinder p.head)
    (hr : geom.datarate = rate) (hm : geom.fm = fm) (hro : c.readonly = false)
    (hs : c.floppy.find p = none) (buf : Nat → Byte) (len : Nat)
    (deleted : Bool) :
    ∃ c', c.xwrite rand geom buf p.cylinder p.head p.cylExpect p.headExpect
        p.sector len deleted = (.noAddr, c') ∧ SameImage c c' := by
  have ht : c.TrackAt rate fm (c.trackOf p) := hf.tracks _ _ hp
  rw [floppy_find hp, Option.map_eq_none_iff] at hs
  have hseek := seektoSector_absent rand hp ht hr hm hs len false
  refine ⟨c.loaded (c.trackOf p), ?_, rfl, rfl, rfl⟩
  rw [xwrite, hro, hseek]
  simp

end Cpcemu

end Xcpc.LibDsk
