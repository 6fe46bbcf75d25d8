import Xcpc.Formats.DskGeom
import Xcpc.Proofs.TrackStore

/-!
# Probing leaves the image alone

Nothing that only reads changes the file or the disk header, and so probing the
geometry does not. A first track with the sector IDs of a CPC tells the rate and
the mode that the disk was recorded with.
-/

namespace Xcpc.LibDsk

open Prog

namespace Cpcemu

/-! ## Reading leaves the image alone -/

theorem SameImage.refl (c : Cpcemu) : SameImage c c := ⟨rfl, rfl, rfl⟩

theorem SameImage.trans {c₁ c₂ c₃ : Cpcemu} (h : SameImage c₁ c₂)
    (h' : SameImage c₂ c₃) : SameImage c₁ c₃ :=
  ⟨h'.bytes.trans h.bytes, h'.dskhead.trans h.dskhead,
    h'.readonly.trans h.readonly⟩

theorem loadTrackHeader_same (c : Cpcemu) (geom : Geometry)
    (cylinder head : Nat) :
    SameImage c (c.loadTrackHeader geom cylinder head).2 := by
  rw [loadTrackHeader]
  cases c.lookupTrack cylinder head with
  | none => exact .refl c
  | some track =>
      simp only
      split_ifs <;> exact ⟨rfl, rfl, rfl⟩

theorem readSecid_same (c : Cpcemu) (geom : Geometry) (cylinder head : Nat) :
    SameImage c (c.readSecid geom cylinder head).2.2 := by
  have hload := loadTrackHeader_same c geom cylinder head
  simp only [readSecid]
  split_ifs
  · exact .refl c
  · exact .refl c
  · exact hload
  · exact hload
  · exact hload.trans ⟨rfl, rfl, rfl⟩

variable (rand : Nat → Nat)

theorem sectorOffset_same (c : Cpcemu) (sector : Nat) (pickRandom : Bool) :
    SameImage c (c.sectorOffset rand sector pickRandom).2 := by
  simp only [sectorOffset, pick]
  split_ifs <;> exact ⟨rfl, rfl, rfl⟩

theorem seektoSector_same (c : Cpcemu) (geom : Geometry)
    (cylinder head cylExpected headExpected sector requestLen : Nat)
    (pickRandom : Bool) :
    SameImage c (c.seektoSector rand geom cylinder head cylExpected headExpected
      sector requestLen pickRandom).2 := by
  have hload := loadTrackHeader_same c geom cylinder head
  rw [seektoSector]
  generalize c.loadTrackHeader geom cylinder head = r at hload
  obtain ⟨err, c₁⟩ := r
  have hoffset := sectorOffset_same rand c₁ sector pickRandom
  simp only
  generalize c₁.sectorOffset rand sector pickRandom = r at hoffset
  obtain ⟨found, c₂⟩ := r
  have hsame := hload.trans hoffset
  split
  · exact hload
  · cases found with
    | none => exact hsame
    | some f =>
        simp only
        split
        · exact hsame
        · exact hsame.trans ⟨rfl, rfl, rfl⟩

theorem readHere_same (c : Cpcemu) (s : Seeked) (size : Nat) (st2 : Byte)
    (deleted : Bool) : SameImage c (c.readHere rand s size st2 deleted).2 := by
  simp only [readHere]
  split_ifs <;> exact ⟨rfl, rfl, rfl⟩

theorem xreadLoop_same (geom : Geometry)
    (cylinder cylExpect headExpect size : Nat) (rdeleted : Bool) (fuel : Nat)
    (head sector len : Nat) (again : Bool) (deleted : Option Bool)
    (c : Cpcemu) :
    SameImage c (xreadLoop rand geom cylinder cylExpect headExpect size rdeleted
      fuel head sector len again deleted c).2 := by
  induction fuel generalizing head sector len again deleted c with
  | zero => exact .refl c
  | succ fuel ih =>
      have hseek := seektoSector_same rand c geom cylinder head cylExpect
        headExpect sector len true
      rw [xreadLoop]
      generalize c.seektoSector rand geom cylinder head cylExpect headExpect
        sector len true = r at hseek
      obtain ⟨s, c₁⟩ := r
      have hnone : SameImage c (if s.err = .noAddr then
          { c₁ with sector := -1 } else c₁) := by
        split
        · exact hseek.trans ⟨rfl, rfl, rfl⟩
        · exact hseek
      simp only
      split
      · split
        · exact hseek.trans (ih ..)
        · exact hseek
      · generalize (if s.err = .noAddr then { c₁ with sector := -1 } else c₁) =
          c₂ at hnone ⊢
        cases s.chosen with
        | none => exact hnone
        | some n =>
            simp only
            -- The sector is read, skipped or read in spite of its mark.
            split
            · split
              · exact hnone.trans (readHere_same ..)
              · exact hnone.trans (ih ..)
            · exact hnone.trans (readHere_same ..)

theorem xread_same (c : Cpcemu) (geom : Geometry)
    (cylinder head cylExpect headExpect sector size : Nat)
    (deleted : Option Bool) :
    SameImage c (c.xread rand geom cylinder head cylExpect headExpect sector size
      deleted).2 :=
  xreadLoop_same rand geom cylinder cylExpect headExpect size _ _ head sector size
    false deleted c

/-! ## The probe -/

theorem lread_same (c : Cpcemu) (geom : Geometry) (sector : Nat) :
    SameImage c (c.lread rand geom sector).2.2 :=
  xread_same rand c geom 0 0 0 0 _ _ none

theorem Answer.orElse_same {c : Cpcemu} {a : Answer} (h : SameImage c a.driver)
    (geom : Geometry) : SameImage c (a.orElse geom).driver := by
  rw [Answer.orElse]
  split
  · exact h.trans (readSecid_same ..)
  · exact h

theorem probeRate_same (c : Cpcemu) : SameImage c c.probeRate.driver := by
  have hfirst : SameImage c (c.lsecid (stdformat .pcw180)).driver :=
    readSecid_same ..
  exact Answer.orElse_same (Answer.orElse_same (Answer.orElse_same hfirst _) _) _

theorem probe256_same (c : Cpcemu) (geom : Geometry) :
    SameImage c (c.probe256 rand geom).2.2 := by
  simp only [probe256]
  split
  · exact lread_same rand c geom 1
  · have h := lread_same rand c (stdformat .acorn160) 0
    split
    · exact h
    · generalize acornFormat _ = format
      cases format <;> exact h

theorem probe1024_same (c : Cpcemu) (rate : Rate) :
    SameImage c (c.probe1024 rand rate).2.2 := by
  rw [probe1024]
  generalize stdformat (if rate = .hd then .acorn1600 else .acorn800) = geom
  have h := lread_same rand c { geom with datarate := rate } 0
  generalize c.lread rand { geom with datarate := rate } 0 = r at h ⊢
  obtain ⟨err, boot, c₁⟩ := r
  simp only
  split
  · exact h
  · have h' := lread_same rand c₁ { geom with datarate := rate, secbase := 1 } 0
    generalize c₁.lread rand { geom with datarate := rate, secbase := 1 } 0 = r
      at h' ⊢
    obtain ⟨err', boot', c₂⟩ := r
    simp only
    split <;> exact h.trans h'

theorem probeBoot_same (c : Cpcemu) (geom : Geometry) :
    SameImage c (c.probeBoot rand geom).2.2 := by
  rw [probeBoot]
  have h := lread_same rand c geom 0
  generalize c.lread rand geom 0 = r at h ⊢
  obtain ⟨err, boot, c₁⟩ := r
  simp only
  split <;> exact h

theorem getgeom_same (c : Cpcemu) : SameImage c (c.getgeom rand).2.2 := by
  have h := probeRate_same c
  simp only [getgeom]
  cases c.probeRate.secid with
  | none =>
      simp only
      split
      · exact h.trans (probeBoot_same ..)
      · exact h
  | some id =>
      simp only
      split_ifs
      · exact h
      · exact h
      · exact h
      · exact h.trans (probe256_same ..)
      · exact h
      · exact h.trans (probe1024_same ..)
      · exact h
      · exact h.trans (probeBoot_same ..)

/-! ## Disks of a CPC -/

/-- The first track has the sector IDs of a system or a data disk. -/
structure System (c : Cpcemu) : Prop where
  nonempty : 0 < (c.view 0).maxsec
  ids : ∀ n, n < (c.view 0).maxsec → ((c.view 0).recordId n).toNat &&& 0x40 = 0x40
  size : ∀ n, n < (c.view 0).maxsec → (c.view 0).trkhead (secid n + 3) = 2

theorem trackNumber_zero (c : Cpcemu) : c.trackNumber 0 0 = 0 := by
  rw [trackNumber]
  split <;> rfl

/-- A table of a CPC: some sectors of 512 bytes, with the IDs of a system or
a data disk. -/
def SystemIds (ids : List Format) : Prop :=
  ids ≠ [] ∧ ∀ x ∈ ids, x.secsize = 512 ∧ x.sector &&& 0x40 = 0x40

theorem cpc_ids (id : Byte) (h : id.toNat &&& 0x40 = 0x40) :
    id.toNat &&& 0xf0 ≠ 0x10 ∧
      (id.toNat &&& 0xc0 = 0x40 ∨ id.toNat &&& 0xc0 = 0xc0) := by
  revert id
  decide

variable {c : Cpcemu}

/-- Any ID that is read from the first track is one of a CPC. -/
theorem readSecid_system (geom : Geometry) (hin : c.InRange 0 0)
    (ht : c.TrackAt geom.datarate geom.fm 0) (hs : c.System) :
    ∃ id : Byte, id.toNat &&& 0x40 = 0x40 ∧
      ∃ cylinder head c', c.readSecid geom 0 0 =
        (.ok, some ⟨cylinder, head, id.toNat, 512⟩, c') := by
  have hload : c.loadTrackHeader geom 0 0 = (.ok, c.loaded (c.trackNumber 0 0)) :=
    loadTrackHeader_eq hin ((trackNumber_zero c).symm ▸ ht) rfl rfl
  rw [trackNumber_zero] at hload
  have ha := agree_loaded c 0
  have hmax := maxsec_congr ha
  have hpos := hs.nonempty
  have hfew := ht.few
  obtain ⟨hc, hh⟩ := hin
  have hne : (c.loaded 0).trkhead 0x15 ≠ 0 := by
    intro h
    rw [hmax, maxsec, h] at hpos
    exact absurd hpos (by decide)
  generalize hn : ((c.sector + 1) % (c.view 0).maxsec).toNat = n
  have hlt : n < (c.view 0).maxsec := by
    have h₁ := Int.emod_lt_of_pos (c.sector + 1) (b := (c.view 0).maxsec)
      (by omega)
    have h₂ := Int.emod_nonneg (c.sector + 1) (b := (c.view 0).maxsec) (by omega)
    omega
  have hn' : ((c.sector + 1) % (c.loaded 0).maxsec).toNat = n := hmax ▸ hn
  have hid : (c.loaded 0).trkhead (secid n + 2) = (c.view 0).recordId n :=
    trkhead_loaded c 0 (by simp only [secid]; omega)
  have hsize : (c.loaded 0).trkhead (secid n + 3) = 2 :=
    (trkhead_loaded c 0 (by simp only [secid]; omega)).trans (hs.size n hlt)
  have hread : c.readSecid geom 0 0 = (.ok, some
      ⟨((c.loaded 0).trkhead (secid n)).toNat,
        ((c.loaded 0).trkhead (secid n + 1)).toNat,
        ((c.loaded 0).trkhead (secid n + 2)).toNat,
        128 <<< ((c.loaded 0).trkhead (secid n + 3)).toNat⟩,
      { c.loaded 0 with sector := c.sector + 1 }) := by
    simp only [readSecid]
    rw [if_neg (by omega), if_neg (by omega), hload]
    simp only
    rw [if_neg (by decide), if_neg hne, ← hn']
    rfl
  rw [hid, hsize] at hread
  exact ⟨(c.view 0).recordId n, hs.ids n hlt, _, _, _, hread⟩

/-- The probe knows a disk of a CPC. -/
theorem getgeom_system (hin : c.InRange 0 0) (ht : c.TrackAt .sd false 0)
    (hs : c.System) : ∃ geom c', c.getgeom rand = (.ok, geom, c') ∧
      geom.datarate = .sd ∧ geom.fm = false ∧ SameImage c c' := by
  obtain ⟨id, hid, cylinder, head, c', hread⟩ :=
    readSecid_system (stdformat .pcw180) hin ht hs
  obtain ⟨hne, hcpc⟩ := cpc_ids id hid
  have hrate : c.probeRate =
      ⟨.ok, some ⟨cylinder, head, id.toNat, 512⟩, stdformat .pcw180, c'⟩ := by
    simp only [probeRate, lsecid, hread]
    rfl
  have hsame := getgeom_same rand c
  have hgeom : c.getgeom rand = (.ok, stdformat (if id.toNat &&& 0xc0 = 0x40 then
      .cpcsys else .cpcdata), c') := by
    simp only [getgeom, hrate]
    rw [if_neg fun h => hne h.1]
    rcases hcpc with h | h
    · rw [if_pos ⟨h, trivial⟩, if_pos h]
    · rw [if_neg (by rw [h]; decide), if_pos ⟨h, trivial⟩, if_neg (by rw [h]; decide)]
  rw [hgeom] at hsame
  refine ⟨_, c', hgeom, ?_, ?_, hsame⟩ <;> split <;> rfl

end Cpcemu

end Xcpc.LibDsk
