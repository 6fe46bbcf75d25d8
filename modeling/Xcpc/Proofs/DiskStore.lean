import Xcpc.Lib.Refinement
import Xcpc.Proofs.TrackStore

/-!
# The driver refines the disk

What a drive asks of the driver is to read a sector, to write one and to format
a track. An image that holds a disk answers as the disk does, through any
sequence of such requests, and what is left in the file is the disk as it would
be then.
-/

namespace Xcpc.LibDsk

open Prog

/-- What a disk is like: the rate and the mode that it is recorded with, its
tracks, and the lengths that a new track can have. -/
structure Medium where
  rate : Rate
  fm : Bool
  cylinders : Nat
  heads : Nat
  room : Nat → Nat → Nat → Prop

/-- What a drive asks of the driver. -/
inductive Request where
  | read (geom : Geometry) (p : Place) (len : Nat) (deleted : Option Bool)
  | write (geom : Geometry) (p : Place) (len : Nat) (buf : Nat → Byte)
    (deleted : Bool)
  | format (geom : Geometry) (cylinder head : Nat) (ids : List Format)
    (filler : Byte)

/-- The driver with a request. Only reading gives bytes. -/
def Cpcemu.serve (rand : Nat → Nat) (c : Cpcemu) :
    Request → Cpcemu.Xread × Cpcemu
  | .read geom p len deleted =>
      c.xread rand geom p.cylinder p.head p.cylExpect p.headExpect p.sector len
        deleted
  | .write geom p len buf deleted =>
      let r := c.xwrite rand geom buf p.cylinder p.head p.cylExpect p.headExpect
        p.sector len deleted
      (⟨r.1, [], deleted⟩, r.2)
  | .format geom cylinder head ids filler =>
      let r := c.format geom cylinder head ids filler
      (⟨r.1, [], false⟩, r.2.2)

namespace Floppy

def serve (f : Floppy) : Request → Cpcemu.Xread × Floppy
  | .read _ p _ deleted =>
      match f.find p with
      | none => (⟨.noAddr, [], deleted.getD false⟩, f)
      | some s =>
          (⟨if s.crc then .dataErr else .ok, s.data,
            deleted.isSome && (deleted.getD false != s.deleted)⟩, f)
  | .write _ p len buf deleted =>
      match f.find p with
      | none => (⟨.noAddr, [], deleted⟩, f)
      | some _ =>
          (⟨.ok, [], deleted⟩, f.write p (Buffer.slice buf 0 len) deleted)
  | .format _ cylinder head ids filler =>
      (⟨.ok, [], false⟩,
        f.format cylinder head (blankTrack ids filler))

/-- The requests for whole sectors and tracks of a disk: on a track that there
is, at the rate and in the mode of the disk, of the length of the sector, and
for its mark unless skipping is off. A new track has to have room. -/
def Serves (m : Medium) (f : Floppy) : Request → Prop
  | .read geom p len deleted =>
      (p.cylinder < m.cylinders ∧ p.head < m.heads) ∧
        geom.datarate = m.rate ∧ geom.fm = m.fm ∧ ∀ s, f.find p = some s →
          len = s.data.length ∧ (deleted.getD false = s.deleted ∨ geom.noskip)
  | .write geom p len _ _ =>
      (p.cylinder < m.cylinders ∧ p.head < m.heads) ∧
        geom.datarate = m.rate ∧ geom.fm = m.fm ∧ ∀ s, f.find p = some s →
          len = s.data.length
  | .format geom cylinder head ids _ =>
      (cylinder < m.cylinders ∧ head < m.heads) ∧
        geom.datarate = m.rate ∧ geom.fm = m.fm ∧ ∃ len,
          Legal ids len ∧ m.room cylinder head (ids.length * len + 256)

end Floppy

/-- A writable image holds a disk. -/
structure Holds (m : Medium) (c : Cpcemu) (f : Floppy) : Prop where
  formatted : c.Formatted m.rate m.fm
  opened : c.Opened
  writable : c.readonly = false
  cylinders : (c.dskhead 0x30).toNat = m.cylinders
  heads : (c.dskhead 0x31).toNat = m.heads
  room : ∀ cylinder head n, m.room cylinder head n → c.Room cylinder head n
  floppy : c.floppy = f

variable {m : Medium}

theorem room_of_dskhead {c c' : Cpcemu} (h : c'.dskhead = c.dskhead)
    {cylinder head n : Nat} :
    c'.Room cylinder head n ↔ c.Room cylinder head n := by
  rw [Cpcemu.Room, Cpcemu.Room, Cpcemu.extended, Cpcemu.extended,
    Cpcemu.trackNumber_of_dskhead h, h]

theorem Holds.next {c c' : Cpcemu} {f f' : Floppy} (h : Holds m c f)
    (hf : c'.Formatted m.rate m.fm) (ho : c'.Opened)
    (hd : c'.dskhead = c.dskhead) (hro : c'.readonly = c.readonly)
    (hfl : c'.floppy = f') : Holds m c' f' :=
  ⟨hf, ho, hro.trans h.writable, by rw [hd, h.cylinders], by rw [hd, h.heads],
    fun cylinder head n hr => (room_of_dskhead hd).2 (h.room cylinder head n hr),
    hfl⟩

theorem Holds.same {c c' : Cpcemu} {f : Floppy} (h : Holds m c f)
    (hs : Cpcemu.SameImage c c') : Holds m c' f :=
  h.next (hs.formatted h.formatted)
    (h.opened.of_data hs.dskhead (by rw [hs.bytes]) fun _ _ => by
      rw [File.data, File.data, hs.bytes])
    hs.dskhead hs.readonly (hs.floppy.trans h.floppy)

theorem Holds.inRange {c : Cpcemu} {f : Floppy} (h : Holds m c f)
    {cylinder head : Nat} (hr : cylinder < m.cylinders ∧ head < m.heads) :
    c.InRange cylinder head := by
  rw [Cpcemu.InRange, h.cylinders, h.heads]
  exact hr

/-- The driver refines the disk. -/
theorem serve_refines (rand : Nat → Nat) :
    Refines (Holds m) (Floppy.Serves m)
      (fun c r => some (c.serve rand r)) Floppy.serve := by
  intro c f r hc hr
  cases r with
  | read geom p len deleted =>
      obtain ⟨hp, hrate, hmode, hlen⟩ := hr
      cases hs : f.find p with
      | none =>
          obtain ⟨c', hx, hsame⟩ := Cpcemu.xread_absent rand hc.formatted
            (hc.inRange hp) hrate hmode (hc.floppy ▸ hs) len deleted
          refine ⟨c', ?_, ?_⟩
          · simp only [Cpcemu.serve, hx, Floppy.serve, hs]
          · simp only [Floppy.serve, hs]
            exact hc.same hsame
      | some s =>
          obtain ⟨rfl, hk⟩ := hlen s hs
          obtain ⟨c', hx, hsame⟩ := Cpcemu.xread_found rand hc.formatted
            (hc.inRange hp) hrate hmode (hc.floppy ▸ hs) deleted hk
          refine ⟨c', ?_, ?_⟩
          · simp only [Cpcemu.serve, hx, Floppy.serve, hs]
          · simp only [Floppy.serve, hs]
            exact hc.same hsame
  | write geom p len buf deleted =>
      obtain ⟨hp, hrate, hmode, hlen⟩ := hr
      cases hs : f.find p with
      | none =>
          obtain ⟨c', hx, hsame⟩ := Cpcemu.xwrite_absent rand hc.formatted
            (hc.inRange hp) hrate hmode hc.writable (hc.floppy ▸ hs) buf len
            deleted
          refine ⟨c', ?_, ?_⟩
          · simp only [Cpcemu.serve, hx, Floppy.serve, hs]
          · simp only [Floppy.serve, hs]
            exact hc.same hsame
      | some s =>
          obtain rfl := hlen s hs
          obtain ⟨c', hx, hf, ho, hfl, hd, hro⟩ := Cpcemu.xwrite_eq rand
            hc.formatted hc.opened (hc.inRange hp) hrate hmode hc.writable
            (hc.floppy ▸ hs) buf deleted
          refine ⟨c', ?_, ?_⟩
          · simp only [Cpcemu.serve, hx, Floppy.serve, hs]
          · simp only [Floppy.serve, hs]
            exact hc.next hf ho hd hro (hc.floppy ▸ hfl)
  | format geom cylinder head ids filler =>
      obtain ⟨hp, hrate, hmode, len, hl, hroom⟩ := hr
      obtain ⟨geom', c', hx, -, -, hf, ho, hfl, hd, hro, -⟩ :=
        Cpcemu.format_floppy hc.formatted hc.opened (hc.inRange hp) hrate hmode
          hc.writable hl (hc.room cylinder head _ hroom) filler
      refine ⟨c', ?_, hc.next hf ho hd hro (hc.floppy ▸ hfl)⟩
      simp only [Cpcemu.serve, hx, Floppy.serve]

theorem Holds.again {c : Cpcemu} {f : Floppy} (h : Holds m c f) :
    ∃ c', cpcOpen c.file.bytes true c.extended = some c' ∧ Holds m c' f :=
  ⟨_, Cpcemu.cpcOpen_again h.opened true, h.same ⟨rfl, rfl, h.writable.symm⟩⟩

/-- Whatever is read from an image is what the disk in it would give, through
any sequence of reads, writes and formats. The image that is left behind can be
closed at any time: opened again, its file holds the disk as it would be then. -/
theorem image_run (rand : Nat → Nat) {c : Cpcemu} {f : Floppy}
    {rs : List Request} (hc : Holds m c f)
    (hrs : Allowed Floppy.serve (Floppy.Serves m) f rs) :
    ∃ c' c'', answers (fun c r => some (Cpcemu.serve rand c r)) c rs =
        some ((observe Floppy.serve f rs).1, c') ∧
      cpcOpen c'.file.bytes true c'.extended = some c'' ∧
      Holds m c'' (observe Floppy.serve f rs).2 := by
  obtain ⟨c', hrun, hc'⟩ := (serve_refines rand).run hc hrs
  obtain ⟨c'', hopen, hc''⟩ := hc'.again
  exact ⟨c', c'', hrun, hopen, hc''⟩

end Xcpc.LibDsk
