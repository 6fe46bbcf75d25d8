import Xcpc.Dev.Ldsk
import Xcpc.Proofs.DiskStore
import Xcpc.Proofs.FdcDisk
import Xcpc.Proofs.GeometryProbe

/-!
# The controller in front of an image

The drives of the emulator are drives as the controller needs them, and one
with an open image holds the disk that is in the image. So what a program reads
through the controller is what the disk gives, down to the bytes of the file.
-/

namespace Xcpc.Lib765

open Prog LibDsk

namespace Ldsk

theorem readHere_le (rand : Nat → Nat) (c : Cpcemu) (s : Cpcemu.Seeked)
    (size : Nat) (st2 : Byte) (deleted : Bool) :
    (c.readHere rand s size st2 deleted).1.stored.length ≤ size := by
  simp only [Cpcemu.readHere, File.read, List.length_take]
  omega

theorem xreadLoop_le (rand : Nat → Nat) (geom : Geometry)
    (cylinder cylExpect headExpect size : Nat) (rdeleted : Bool) (fuel : Nat)
    (head sector len : Nat) (again : Bool) (deleted : Option Bool)
    (c : Cpcemu) :
    (Cpcemu.xreadLoop rand geom cylinder cylExpect headExpect size rdeleted fuel
      head sector len again deleted c).1.stored.length ≤ size := by
  induction fuel generalizing head sector len again deleted c with
  | zero => exact Nat.zero_le _
  | succ fuel ih =>
      -- A round reads here, goes on, or gives nothing.
      simp only [Cpcemu.xreadLoop]
      repeat' split
      all_goals first
        | exact ih ..
        | exact readHere_le ..
        | exact Nat.zero_le _

theorem mapM_eq_map {α β : Type} {f : α → Option β} {g : α → β} {l : List α}
    (h : ∀ a ∈ l, f a = some (g a)) : l.mapM f = some (l.map g) := by
  induction l with
  | nil => rfl
  | cons a l ih =>
      rw [List.forall_mem_cons] at h
      rw [List.mapM_cons, h.1, ih h.2]
      rfl

theorem mapM_formbuf {table : Nat → Byte} {n : Nat} (h : Shiftable table n) :
    (List.range n).mapM (formbuf table) = some (tableIds table n) := by
  refine mapM_eq_map fun i hi => ?_
  rw [formbuf, secsize, if_pos (h i (List.mem_range.1 hi))]
  rfl

/-- The drives of the emulator. -/
theorem vtable_lawful (rand : Nat → Nat) : (vtable rand).Lawful := by
  refine ⟨fun d t len deleted => ?_, fun d head n => ?_,
    fun d head n table filler h => ?_⟩
  · show (readSector rand d t len deleted).stored.length ≤ len
    rw [readSector]
    cases d.image.diskp with
    | none => exact Nat.zero_le _
    | some c => exact xreadLoop_le ..
  · show (readId d head n).stored.length ≤ 4
    rw [readId]
    cases d.image.diskp with
    | none => exact Nat.zero_le _
    | some c =>
        simp only
        split
        · exact Nat.le_refl 4
        · exact Nat.zero_le _
  · show (formatTrack rand d head n table filler).isSome
    rw [formatTrack]
    cases d.image.diskp with
    | none => rfl
    | some c =>
        simp only [mapM_formbuf h]
        rfl

/-! ## An open image -/

/-- The disk as the controller sees it. -/
def layout (m : Medium) : Layout where
  mfm := !m.fm
  cylinders := m.cylinders
  heads := m.heads
  room := m.room
  first head ids := m.rate = .sd ∧ m.fm = false ∧ head = 0 ∧
    Cpcemu.SystemIds ids

/-- The motor runs, and the head is where it should be. -/
structure Running (d : FloppyDrive Ldsk) (q : DiskState) : Prop where
  motor : d.motor = true
  readonly : d.readonly = false
  cylinder : d.cylinder = q.cylinder

/-- The image in the drive is open and holds the disk. -/
structure Mounted (m : Medium) (d : FloppyDrive Ldsk) (q : DiskState) : Prop
    extends Running d q where
  rate : d.image.diskg.datarate = m.rate
  mode : d.image.diskg.fm = m.fm
  image : ∃ c, d.image.diskp = some c ∧ Holds m c q.floppy

variable {m : Medium} {d : FloppyDrive Ldsk} {q : DiskState}

theorem Running.withImage {f : Floppy} {c : Cpcemu} {geom : Geometry}
    (h : Running d q) (hr : geom.datarate = m.rate) (hm : geom.fm = m.fm)
    (hc : Holds m c f) :
    Mounted m (withImage d c geom) { q with floppy := f } :=
  ⟨⟨h.motor, h.readonly, h.cylinder⟩, hr, hm, c, rfl, hc⟩

/-- The geometry of a disk of a CPC is found again. -/
theorem regeom_mounted (rand : Nat → Nat) {c : Cpcemu} (h : Running d q) (hi : Holds m c q.floppy)
    (hr : m.rate = .sd) (hm : m.fm = false) (hin : c.InRange 0 0)
    (hs : c.System) :
    ∃ d', regeom rand d c = (true, d') ∧ Mounted m d' q := by
  have ht : c.TrackAt .sd false 0 := by
    have := hi.formatted.tracks 0 0 hin
    rwa [Cpcemu.trackNumber_zero, hr, hm] at this
  obtain ⟨geom, c', hget, hrate, hmode, hsame⟩ :=
    Cpcemu.getgeom_system rand hin ht hs
  refine ⟨Ldsk.withImage d c' geom, ?_, h.withImage (f := q.floppy)
    (hrate.trans hr.symm) (hmode.trans hm.symm) (hi.same hsame)⟩
  rw [regeom, hget]
  rfl

/-- A disk that was inserted and is not open yet. -/
structure Inserted (m : Medium) (d : FloppyDrive Ldsk) (q : DiskState) :
    Prop extends Running d q where
  closed : d.image.diskp = none
  rate : m.rate = .sd
  mode : m.fm = false
  image : ∃ disk c, d.image.disk = some disk ∧ dskOpen disk = some c ∧
    Holds m c q.floppy ∧ c.InRange 0 0 ∧ c.System

/-- The disk is opened when the drive is asked whether it is ready. -/
theorem Inserted.ready (rand : Nat → Nat) (h : Inserted m d q) :
    (vtable rand).Ready (Mounted m) d q := by
  obtain ⟨disk, c, hdisk, hopen, hc, hin, hs⟩ := h.image
  obtain ⟨d', hre, hm⟩ := regeom_mounted rand h.toRunning hc h.rate h.mode hin hs
  refine ⟨d', ?_, hm⟩
  show isready rand d = _
  simp only [isready, h.motor, h.closed, hdisk, hopen, hre]
  rfl

end Ldsk

end Xcpc.Lib765
