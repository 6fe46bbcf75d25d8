import Xcpc.Cpu.Registers

/-!
# Floppy disks

What a floppy disk is for, without files and controllers. A sector has a place,
which is a cylinder, a head and a number, and holds what was written to it
last. Its header tells a cylinder and a head as well. A sector is found only if
the header says what the program expects.
-/

namespace Xcpc.LibDsk

/-- A sector: its header, its data, the mark of deleted data and whether its
checksum is wrong. -/
structure Sector where
  cylinder : Nat
  head : Nat
  data : List Byte
  deleted : Bool
  crc : Bool
deriving DecidableEq, Repr

/-- The place of a sector and what its header is expected to tell. -/
structure Place where
  cylinder : Nat
  head : Nat
  cylExpect : Nat
  headExpect : Nat
  sector : Nat
deriving DecidableEq, Repr

/-- `DSK_FORMAT`, a sector of a track that is to be formatted. -/
structure Format where
  cylinder : Nat
  head : Nat
  sector : Nat
  secsize : Nat
deriving DecidableEq, Repr

/-- The sectors of a blank track. -/
def blankTrack (ids : List Format) (filler : Byte) :
    Nat → Option Sector := fun sector =>
  (ids.find? fun x => x.sector = sector).map fun x =>
    ⟨x.cylinder, x.head, List.replicate x.secsize filler, false, false⟩

/-- A track can be formatted like this: up to 29 sectors of one length with
different numbers. -/
structure Legal (ids : List Format) (len : Nat) : Prop where
  few : ids.length ≤ 29
  different : (ids.map Format.sector).Nodup
  bytes : ∀ x ∈ ids, x.cylinder < 256 ∧ x.head < 256 ∧ x.sector < 256
  secsize : ∀ x ∈ ids, x.secsize = len
  len : ∃ k, k ≤ 7 ∧ len = 128 <<< k

/-- The sectors of a disk by cylinder, head and number. -/
abbrev Floppy := Nat → Nat → Nat → Option Sector

namespace Floppy

/-- Does the header of the sector tell what is expected? -/
def Expected (p : Place) (s : Sector) : Prop :=
  s.cylinder = p.cylExpect ∧ s.head = p.headExpect

instance expectedDecidable (p : Place) (s : Sector) :
    Decidable (Expected p s) :=
  inferInstanceAs (Decidable (_ ∧ _))

/-- The sector that is found at a place. -/
def find (f : Floppy) (p : Place) : Option Sector :=
  (f p.cylinder p.head p.sector).filter fun s => Expected p s

/-- The disk with other data in one of its sectors. -/
def write (f : Floppy) (p : Place) (data : List Byte) (deleted : Bool) :
    Floppy := fun cylinder head sector =>
  if cylinder = p.cylinder ∧ head = p.head ∧ sector = p.sector then
    (f cylinder head sector).map fun s =>
      { s with data := data, deleted := deleted }
  else f cylinder head sector

/-- The disk with other sectors on one of its tracks. -/
def format (f : Floppy) (cylinder head : Nat) (track : Nat → Option Sector) :
    Floppy := fun c h s =>
  if c = cylinder ∧ h = head then track s else f c h s

variable {f : Floppy} {p q : Place} {s : Sector} {data : List Byte}
  {deleted : Bool}

theorem find_some : f.find p = some s ↔
    f p.cylinder p.head p.sector = some s ∧ Expected p s := by
  simp [find, Option.filter_eq_some_iff]

/-- The other sectors are as they were. -/
theorem find_write_of_ne (h : ¬ (q.cylinder = p.cylinder ∧ q.head = p.head ∧
    q.sector = p.sector)) : (f.write p data deleted).find q = f.find q := by
  rw [find, find, write, if_neg h]

end Floppy

end Xcpc.LibDsk
