import Xcpc.Dev.Floppy
import Xcpc.Lib.Refinement
import Xcpc.Proofs.FdcTransfers

/-!
# Commands on a disk

A program that gives READ DATA, WRITE DATA and SEEK to the controller sees a
disk. `DiskState.serve` is that disk: what it holds, where its head is, and
what it answers to a command, which is the bytes of the execution phase and
the report. The controller refines it in front of any drive that holds the
disk.
-/

namespace Xcpc.Lib765

open Prog LibDsk

/-- Where a drive looks for the sector that a command names. -/
def Target.place (t : Target) (cylinder : Byte) : Place where
  cylinder := cylinder.toNat
  head := t.head.toNat
  cylExpect := t.xcylinder.toNat
  headExpect := t.xhead.toNat
  sector := t.sector.toNat

/-- The target of the next round. -/
def Target.next (t : Target) : Target := { t with sector := t.sector + 1 }

/-- A disk in a drive and the cylinder that its head is on. -/
structure DiskState where
  floppy : Floppy
  cylinder : Byte

/-- The sector that the drive finds. -/
def DiskState.find (q : DiskState) (t : Target) : Option Sector :=
  q.floppy.find (t.place q.cylinder)

/-- The disk after a sector was written, if it is there. -/
def DiskState.write (q : DiskState) (t : Target) (data : List Byte)
    (deleted : Bool) : DiskState :=
  if (q.find t).isSome then
    { q with floppy := q.floppy.write (t.place q.cylinder) data deleted }
  else q

/-- How a drive reads: the error, the bytes, and the mark. -/
def readAnswer (o : Option Sector) (deleted : Option Bool) :
    FdErr × List Byte × Bool :=
  match o with
  | none => (.noAddr, [], deleted.getD false)
  | some s =>
      (if s.crc then .dataErr else .ok, s.data,
        deleted.isSome && (deleted.getD false != s.deleted))

/-- The disk after the track under a head was formatted. -/
def DiskState.format (q : DiskState) (head : Byte) (ids : List Format)
    (filler : Byte) : DiskState :=
  { q with floppy :=
      q.floppy.format q.cylinder.toNat head.toNat (blankTrack ids filler) }

/-- The sectors in the table of a format command, four bytes for each. -/
def tableIds (table : Nat → Byte) (n : Nat) : List Format :=
  (List.range n).map fun i =>
    ⟨(table (4 * i)).toNat, (table (4 * i + 1)).toNat, (table (4 * i + 2)).toNat,
      128 <<< (table (4 * i + 3)).toNat⟩

/-- What a disk is like: its recording mode, its tracks, the lengths that a new
track can have, and the tables that the first track can be formatted with. After
that the drive looks at the disk anew. -/
structure Layout where
  mfm : Bool
  cylinders : Nat
  heads : Nat
  room : Nat → Nat → Nat → Prop
  first : Byte → List Format → Prop

/-- The sectors that a command can name: on the disk, in its recording mode. -/
structure DiskState.Reaches (l : Layout) (q : DiskState) (t : Target) :
    Prop where
  mode : t.mfm = l.mfm
  cylinder : q.cylinder.toNat < l.cylinders
  head : t.head.toNat < l.heads

/-- The tracks that can be formatted, and with which tables. -/
structure DiskState.Formats (l : Layout) (q : DiskState) (head : Byte)
    (ids : List Format) : Prop where
  first : q.cylinder = 0 → l.first head ids
  reaches : q.cylinder.toNat < l.cylinders ∧ head.toNat < l.heads
  track : ∃ len, Legal ids len ∧
    l.room q.cylinder.toNat head.toNat (ids.length * len + 256)

/-- A drive that holds a disk as soon as it is asked whether it is ready. -/
def Vtable.Ready {δ : Type} (V : Vtable δ)
    (R : FloppyDrive δ → DiskState → Prop) (d : FloppyDrive δ) (q : DiskState) :
    Prop := ∃ d', V.isready d = (true, d') ∧ R d' q

/-- The drives that hold a disk, by the relation `R`. -/
structure Vtable.Serves {δ : Type} (V : Vtable δ) (l : Layout)
    (R : FloppyDrive δ → DiskState → Prop) : Prop where
  writable : ∀ {d q}, R d q → d.readonly = false
  cylinder : ∀ {d q}, R d q → d.cylinder = q.cylinder
  isready : ∀ {d q}, R d q → V.Ready R d q
  readSector : ∀ {d q} t len deleted, R d q →
    q.Reaches l t →
    (∀ s, q.find t = some s → s.data.length = len ∧
      (deleted.getD false = s.deleted ∨ t.skipDeleted = false)) →
    ∃ d', V.readSector d t len deleted =
      ⟨(readAnswer (q.find t) deleted).1, (readAnswer (q.find t) deleted).2.1,
        (readAnswer (q.find t) deleted).2.2, d'⟩ ∧ R d' q
  writeSector : ∀ {d q} t buf len deleted, R d q →
    q.Reaches l t →
    (∀ s, q.find t = some s → s.data.length = len) →
    ∃ d', V.writeSector d t buf len deleted =
      (if (q.find t).isSome then .ok else .noAddr, d') ∧
      R d' (q.write t (Buffer.slice buf 0 len) deleted)
  formatTrack : ∀ {d q} head n table filler, R d q →
    q.Formats l head (tableIds table (BitVec.toNat n)) →
    ∃ d', V.formatTrack d head n table filler = some (.ok, d') ∧
      R d' (q.format head (tableIds table n.toNat) filler)
  seekCylinder : ∀ {d q} cylinder, R d q → cylinder.toNat < l.cylinders →
    ∃ d', V.seekCylinder d cylinder = (.ok, d') ∧
      R d' { q with cylinder := cylinder }

/-! ## Reading sectors -/

/-- A bit of a status register. -/
def bit (b : Bool) (value : Byte) : Byte := if b then value else 0

/-- What a read command makes of the disk: whether all its sectors are there,
their data, the bits of the status registers, and the sector number in the
report. -/
structure ReadRun where
  all : Bool
  data : List Byte
  st1 : Byte
  st2 : Byte
  sector : Byte

/-- Reading `n` sectors. The mark that is asked for is `kind`, and the next
sector is asked for what the comparison with this one left. -/
def DiskState.readRun (q : DiskState) : Target → Bool → Nat → ReadRun
  | t, _, 0 => ⟨true, [], 0, 0, t.sector⟩
  | t, kind, n + 1 =>
      match q.find t with
      | none => ⟨false, [], 0, 0x01 ||| bit kind 0x40, t.sector⟩
      | some s =>
          let r := readRun q t.next (kind != s.deleted) n
          { r with
            data := s.data ++ r.data, st1 := bit s.crc 0x20 ||| r.st1
            st2 := bit s.crc 0x20 ||| bit (kind != s.deleted) 0x40 ||| r.st2 }

/-- The sectors that are there have the length of the command, and are of the
kind that is asked for unless skipping is off. -/
def DiskState.ReadFits (q : DiskState) (len : Nat) :
    Target → Bool → Nat → Prop
  | _, _, 0 => True
  | t, kind, n + 1 => ∀ s, q.find t = some s → s.data.length = len ∧
      (kind = s.deleted ∨ t.skipDeleted = false) ∧
      ReadFits q len t.next (kind != s.deleted) n

namespace Fdc

variable {δ : Type} {V : Vtable δ} {l : Layout}
  {R : FloppyDrive δ → DiskState → Prop}

/-- What reading leaves alone of the controller, and the drive that it leaves.
-/
structure Reads (s s' : Fdc δ) (d' : FloppyDrive δ) : Prop where
  drive : s'.drive = Function.update s.drive s.curunit (some d')
  curunit : s'.curunit = s.curunit
  curhead : s'.curhead = s.curhead

/-- The status registers with more bits. -/
structure Marks (s s' : Fdc δ) (st0 st1 st2 : Byte) : Prop where
  st0 : s'.st0 = s.st0 ||| st0
  st1 : s'.st1 = s.st1 ||| st1
  st2 : s'.st2 = s.st2 ||| st2

/-- The controller with its drive ready. -/
def readied (s : Fdc δ) (d : FloppyDrive δ) : Fdc δ :=
  { s.setFd d with st3 := s.st3 ||| 0x20 }

theorem isready_serves {s : Fdc δ} {d : FloppyDrive δ} {q : DiskState}
    (hd : s.fd = some d) (hR : V.Ready R d q) :
    ∃ d', s.isready V = (true, s.readied d') ∧ R d' q := by
  obtain ⟨d', hready, hR'⟩ := hR
  refine ⟨d', ?_, hR'⟩
  rw [isready_of_fd hd, hready]
  rfl

@[simp] theorem fd_readied (s : Fdc δ) (d : FloppyDrive δ) :
    (s.readied d).fd = some d := fd_setFd s d

theorem transferFd_of_fd {ω : Type} {s : Fdc δ} {d : FloppyDrive δ}
    (h : s.fd = some d) (out : ω) (f : FloppyDrive δ → Transfer δ ω) :
    s.transferFd out f =
      (((f d).err, (f d).stored, (f d).out), s.setFd (f d).drive) :=
  withFd_of_fd h ..

/-- The drive of the current unit is set twice. -/
theorem setFd_setFd (s : Fdc δ) (d d' : FloppyDrive δ) :
    ((s.setFd d).setFd d').drive = (s.setFd d').drive :=
  Function.update_idem ..

/-- The controller with another buffer of the execution phase. -/
def setExecBuf (s : Fdc δ) (buf : Nat → Byte) : Fdc δ := { s with execBuf := buf }

theorem storeExec_eq {s : Fdc δ} {o : Nat} {xs : List Byte}
    (h : o + xs.length ≤ execSize) :
    s.storeExec o xs = some (s.setExecBuf (Buffer.put s.execBuf o xs)) :=
  storeExec_some h

/-- The status registers after a sector of a read command. -/
def marked (s : Fdc δ) (err : FdErr) (deleted : Bool) : Fdc δ :=
  if deleted then { s.xltError err with st2 := (s.xltError err).st2 ||| 0x40 }
  else s.xltError err

theorem toBuffers_marked (s : Fdc δ) (err : FdErr) (deleted : Bool) :
    (s.marked err deleted).toBuffers = s.toBuffers := by
  rw [marked]
  split <;> exact toBuffers_xltError s err

theorem marked_drive (s : Fdc δ) (err : FdErr) (deleted : Bool) :
    (s.marked err deleted).drive = s.drive ∧
      (s.marked err deleted).curunit = s.curunit ∧
      (s.marked err deleted).curhead = s.curhead := by
  cases deleted <;> cases err <;> exact ⟨rfl, rfl, rfl⟩

/-- The bits of the second status register for a sector. -/
def sectorSt2 (o : Option Sector) (kind : Bool) : Byte :=
  match o with
  | none => 0x01 ||| bit kind 0x40
  | some x => bit x.crc 0x20 ||| bit (kind != x.deleted) 0x40

theorem marked_marks (s : Fdc δ) (o : Option Sector) (kind : Bool) :
    Marks s (s.marked (readAnswer o (some kind)).1 (readAnswer o (some kind)).2.2)
      (bit o.isNone 0x40) (bit (o.any Sector.crc) 0x20) (sectorSt2 o kind) := by
  cases o with
  | none =>
      cases kind
      · constructor <;> simp [readAnswer, marked, xltError, bit, sectorSt2]
      · constructor <;>
          simp [readAnswer, marked, xltError, bit, sectorSt2, BitVec.or_assoc]
  | some x =>
      obtain ⟨cylinder, head, data, deleted, crc⟩ := x
      cases crc <;> cases h : kind != deleted <;> constructor <;>
        simp [readAnswer, marked, xltError, bit, sectorSt2, h, BitVec.or_assoc]

/-- A sector of a read command. -/
theorem readSector_eq (hV : V.Serves l R) {s : Fdc δ}
    {d : FloppyDrive δ} {q : DiskState} {len o : Nat} {kind : Bool}
    (hd : s.fd = some d) (hR : V.Ready R d q)
    (hr : q.Reaches l s.target) (hroom : o + len ≤ execSize)
    (hfit : ∀ x, q.find s.target = some x → x.data.length = len ∧
      (kind = x.deleted ∨ s.target.skipDeleted = false)) :
    ∃ s' d', s.readSector V o len kind =
        some (((readAnswer (q.find s.target) (some kind)).1,
          (readAnswer (q.find s.target) (some kind)).2.2), s') ∧ R d' q ∧
      Reads s s' d' ∧
      s'.toBuffers = { s.toBuffers with
        execBuf := Buffer.put (Buffer.put s.execBuf o (List.replicate len 0)) o
          (readAnswer (q.find s.target) (some kind)).2.1 } ∧
      Marks s s' (bit (q.find s.target).isNone 0x40)
        (bit ((q.find s.target).any Sector.crc) 0x20)
        (sectorSt2 (q.find s.target) kind) := by
  have hlen : (readAnswer (q.find s.target) (some kind)).2.1.length ≤ len := by
    cases hx : q.find s.target with
    | none => exact Nat.zero_le len
    | some x => exact Nat.le_of_eq (hfit x hx).1
  simp only [readSector, Option.bind_eq_bind]
  rw [storeExec_eq (by rw [List.length_replicate]; exact hroom),
    Option.bind_some]
  generalize Buffer.put s.execBuf o (List.replicate len 0) = b₁
  obtain ⟨d₁, hready, hR₁⟩ :=
    isready_serves (s := s.setExecBuf b₁) (d := d) hd hR
  obtain ⟨d₂, hread, hR₂⟩ := hV.readSector s.target len (some kind) hR₁ hr hfit
  have htarget : ((s.setExecBuf b₁).readied d₁).target = s.target := rfl
  rw [hready]
  simp only [if_true, transferFd_of_fd (fd_readied (s.setExecBuf b₁) d₁),
    htarget, hread]
  rw [storeExec_eq (by omega), Option.bind_some]
  generalize hu : (((s.setExecBuf b₁).readied d₁).setFd d₂).setExecBuf _ = u
  refine ⟨u.marked (readAnswer (q.find s.target) (some kind)).1
    (readAnswer (q.find s.target) (some kind)).2.2, d₂, rfl, hR₂, ?_, ?_, ?_⟩
  · obtain ⟨h₁, h₂, h₃⟩ := marked_drive u
      (readAnswer (q.find s.target) (some kind)).1
      (readAnswer (q.find s.target) (some kind)).2.2
    refine ⟨h₁.trans ?_, h₂.trans ?_, h₃.trans ?_⟩
    · rw [← hu]
      exact setFd_setFd s d₁ d₂
    · rw [← hu]
      rfl
    · rw [← hu]
      rfl
  · rw [toBuffers_marked, ← hu]
    rfl
  · have h := marked_marks u (q.find s.target) kind
    have hst : u.st0 = s.st0 ∧ u.st1 = s.st1 ∧ u.st2 = s.st2 := by
      rw [← hu]
      exact ⟨rfl, rfl, rfl⟩
    exact ⟨h.st0.trans (by rw [hst.1]), h.st1.trans (by rw [hst.2.1]),
      h.st2.trans (by rw [hst.2.2])⟩

theorem Reads.trans {s t u : Fdc δ} {d d' : FloppyDrive δ} (h : Reads s t d)
    (h' : Reads t u d') : Reads s u d' := by
  refine ⟨?_, h'.curunit.trans h.curunit, h'.curhead.trans h.curhead⟩
  rw [h'.drive, h.drive, h.curunit, Function.update_idem]

theorem Reads.fd {s s' : Fdc δ} {d' : FloppyDrive δ} (h : Reads s s' d') :
    s'.fd = some d' := by
  rw [Fdc.fd, h.drive, h.curunit, Function.update_self]

theorem reads_self {s : Fdc δ} {d : FloppyDrive δ} (hd : s.fd = some d) :
    Reads s s d := by
  refine ⟨?_, rfl, rfl⟩
  rw [← hd, Fdc.fd, Function.update_eq_self]

/-- What the sectors of a run leave: their `n` bytes from `o` on, if all of them
were read. -/
structure Ran (s s' : Fdc δ) (r : ReadRun) (o n : Nat) : Prop where
  buffers : s'.toBuffers = { s.toBuffers with
    execBuf := s'.execBuf, execLen := s'.execLen
    cmdBuf := Buffer.put s.cmdBuf 4 [r.sector] }
  marks : Marks s s' (bit (!r.all) 0x40) r.st1 r.st2
  kept : ∀ i < o, s'.execBuf i = s.execBuf i
  data : r.all → Buffer.slice s'.execBuf o n = r.data ∧
    s'.execLen = s.execLen + n

theorem ran_zero (s : Fdc δ) (q : DiskState) (kind : Bool) (o : Nat) :
    Ran s s (q.readRun s.target kind 0) o 0 := by
  have hsector : Buffer.put s.cmdBuf 4 [s.target.sector] = s.cmdBuf :=
    Buffer.put_same
  refine ⟨?_, ⟨?_, ?_, ?_⟩, fun _ _ => rfl, fun _ => ⟨rfl, ?_⟩⟩
  · rw [DiskState.readRun, hsector]
  · exact BitVec.or_zero.symm
  · exact BitVec.or_zero.symm
  · exact BitVec.or_zero.symm
  · exact (Int.add_zero _).symm

theorem target_nextSector {s t : Fdc δ} (hb : t.cmdBuf = s.cmdBuf)
    (hh : t.curhead = s.curhead) (len : Nat) :
    (t.nextSector len).target = s.target.next := by
  simp only [target, nextSector, hb, hh, Target.next]
  simp [Buffer.put]

theorem lensector_nextSector (s : Fdc δ) (len : Nat) :
    (s.nextSector len).lensector = s.lensector := by
  have hput {i : Nat} (hi : i ≠ 4) :
      (s.nextSector len).cmdBuf i = s.cmdBuf i := by
    show Buffer.put s.cmdBuf 4 [s.cmdBuf 4 + 1] i = _
    rw [Buffer.put_of_ne hi]
  rw [Buffers.lensector, Buffers.lensector, hput (by omega), hput (by omega)]

section round

variable {s t u : Fdc δ} {q : DiskState} {kind : Bool} {len o n m : Nat}

/-- A sector that is not found ends the run. -/
theorem ran_none (hx : q.find s.target = none)
    (hb : t.toBuffers = { s.toBuffers with
      execBuf := Buffer.put (Buffer.put s.execBuf o (List.replicate len 0)) o [] })
    (hm : Marks s t 0x40 0 (sectorSt2 none kind)) :
    Ran s t (q.readRun s.target kind (n + 1)) o m := by
  have hsector : Buffer.put s.cmdBuf 4 [s.target.sector] = s.cmdBuf :=
    Buffer.put_same
  have hexec : t.execBuf = Buffer.put
      (Buffer.put s.execBuf o (List.replicate len 0)) o [] :=
    (congrArg Buffers.execBuf hb).trans rfl
  have hlen : t.execLen = s.execLen := (congrArg Buffers.execLen hb).trans rfl
  simp only [DiskState.readRun, hx]
  refine ⟨?_, hm, fun i hi => ?_, fun h => absurd h Bool.false_ne_true⟩
  · rw [hexec, hlen, hsector]
    exact hb
  · rw [hexec, Buffer.put_of_lt hi, Buffer.put_of_lt hi]

/-- A sector that is found is in front of the rest of the run. -/
theorem Ran.cons {x : Sector} (hx : q.find s.target = some x)
    (hlen : x.data.length = len)
    (hb : t.toBuffers = { s.toBuffers with
      execBuf :=
        Buffer.put (Buffer.put s.execBuf o (List.replicate len 0)) o x.data })
    (hm : Marks s t 0 (bit x.crc 0x20) (sectorSt2 (some x) kind))
    (h : Ran (t.nextSector len) u
      (q.readRun s.target.next (kind != x.deleted) n) (o + len) m) :
    Ran s u (q.readRun s.target kind (n + 1)) o (len + m) := by
  have hexec : t.execBuf = Buffer.put
      (Buffer.put s.execBuf o (List.replicate len 0)) o x.data :=
    (congrArg Buffers.execBuf hb).trans rfl
  have helen : t.execLen = s.execLen := (congrArg Buffers.execLen hb).trans rfl
  simp only [DiskState.readRun, hx]
  refine ⟨?_, ⟨?_, ?_, ?_⟩, fun i hi => ?_, fun hall => ?_⟩
  · have hput (a b : Byte) : Buffer.put (Buffer.put s.cmdBuf 4 [a]) 4 [b] =
        Buffer.put s.cmdBuf 4 [b] :=
      Buffer.put_put (Nat.le_refl 1)
    rw [h.buffers]
    simp only [nextSector, hb, hput]
  · rw [h.marks.st0]
    show t.st0 ||| _ = _
    rw [hm.st0]
    exact congrArg (· ||| _) BitVec.or_zero
  · rw [h.marks.st1]
    show t.st1 ||| _ = _
    rw [hm.st1, BitVec.or_assoc]
  · rw [h.marks.st2]
    show t.st2 ||| _ = _
    rw [hm.st2, BitVec.or_assoc]
    rfl
  · rw [h.kept i (by omega)]
    show t.execBuf i = _
    rw [hexec, Buffer.put_of_lt hi, Buffer.put_of_lt hi]
  · obtain ⟨hdata, he⟩ := h.data hall
    refine ⟨?_, ?_⟩
    · have hfirst : Buffer.slice u.execBuf o len = x.data := by
        rw [Buffer.slice_congr fun i _ hi => h.kept i hi]
        show Buffer.slice t.execBuf o len = _
        rw [hexec]
        exact Buffer.slice_put_of_eq hlen.symm
      rw [Buffer.slice_add, hfirst, hdata]
    · rw [he]
      show t.execLen + _ + _ = _
      rw [helen]
      push_cast
      omega

end round

/-- The loop of a read command. -/
theorem readSectors_eq (hV : V.Serves l R) {q : DiskState}
    {len : Nat} (n : Nat) {s : Fdc δ} {d : FloppyDrive δ} {o : Nat}
    (kind : Bool) (err : FdErr) (hd : s.fd = some d)
    (hR : V.Ready R d q) (hr : q.Reaches l s.target) (hl : s.lensector = some len)
    (hroom : o + n * len ≤ execSize)
    (hfit : q.ReadFits len s.target kind n) (herr : err.fatal = false) :
    ∃ err' s' d', readSectors V n err kind o s = some (err', s') ∧
      err'.fatal = !(q.readRun s.target kind n).all ∧ V.Ready R d' q ∧
      Reads s s' d' ∧ Ran s s' (q.readRun s.target kind n) o (n * len) := by
  induction n generalizing s d o kind err with
  | zero =>
      rw [Nat.zero_mul]
      exact ⟨err, s, d, rfl, herr, hR, reads_self hd, ran_zero s q kind o⟩
  | succ n ih =>
      have hsucc : (n + 1) * len = len + n * len := by
        rw [Nat.succ_mul, Nat.add_comm]
      obtain ⟨s₁, d₁, h₁, hR₁, hreads, hb, hmarks⟩ := readSector_eq hV hd hR hr
        (o := o) (by omega)
        fun x hx => ⟨(hfit x hx).1, (hfit x hx).2.1⟩
      simp only [readSectors, Option.bind_eq_bind, hl, Option.bind_some, h₁]
      cases hx : q.find s.target with
      | none =>
          rw [hx] at hmarks hb
          refine ⟨.noAddr, s₁, d₁, rfl, ?_, hV.isready hR₁, hreads,
            ran_none hx hb hmarks⟩
          simp only [DiskState.readRun, hx]
          rfl
      | some x =>
          obtain ⟨hxl, -, hrest⟩ := hfit x hx
          rw [hx] at hmarks hb
          have hbuf : s₁.cmdBuf = s.cmdBuf :=
            (congrArg Buffers.cmdBuf hb).trans rfl
          have htarget : (s₁.nextSector len).target = s.target.next :=
            target_nextSector hbuf hreads.curhead len
          have hlens : (s₁.nextSector len).lensector = some len := by
            rw [lensector_nextSector, ← hl]
            simp only [Buffers.lensector, hbuf]
          have hfatal : (readAnswer (some x) (some kind)).1.fatal = false := by
            simp only [readAnswer]
            split <;> rfl
          have hkind : (readAnswer (some x) (some kind)).2.2 =
              (kind != x.deleted) := rfl
          obtain ⟨err', s', d', h', hf', hR', hreads', hran⟩ :=
            ih (s := s₁.nextSector len) (d := d₁) (o := o + len)
              (kind != x.deleted) (readAnswer (some x) (some kind)).1 hreads.fd
              (hV.isready hR₁) (htarget ▸ ⟨hr.mode, hr.cylinder, hr.head⟩) hlens
              (by omega) (by rw [htarget]; exact hrest) hfatal
          rw [htarget] at hf' hran
          have hran := Ran.cons hx hxl hb hmarks hran
          rw [← hsucc] at hran
          simp only [hfatal, hkind, Bool.false_eq_true, if_false, h']
          refine ⟨err', s', d', rfl, ?_, hR', hreads.trans
            ⟨hreads'.drive, hreads'.curunit, hreads'.curhead⟩, hran⟩
          rw [hf']
          simp only [DiskState.readRun, hx]

/-! ## Read commands -/

/-- The controller with a report of seven bytes. -/
def reported (s : Fdc δ) : Fdc δ :=
  { s with mainstat := 0xd0, resultPos := 0, resultLen := 7, interrupting := 1 }

theorem finish_read {s : Fdc δ} (hc : s.code = 6 ∨ s.code = 12) :
    s.finish V = some s.reported := by
  have hcode : ({ s with mainstat := 0xd0, resultPos := 0 } : Fdc δ).code =
      s.code := rfl
  rw [finish]
  simp only [endExecutionPhase, hcode]
  rcases hc with hc | hc <;> rw [hc] <;> rfl

theorem start_marks (s : Fdc δ) : s.start.st0 = s.cmdBuf 1 &&& 7 ∧
    s.start.st1 = 0 ∧ s.start.st2 = 0 := by
  refine ⟨?_, rfl, rfl⟩
  show (0 &&& 0xf8) ||| (s.cmdBuf 1 &&& 7) = _
  simp

/-- The report of a command, and the drive that it leaves. -/
structure Leaves (s s' : Fdc δ) (d' : FloppyDrive δ) (report : List Byte) :
    Prop where
  drive : s'.drive = Function.update s.drive ((s.cmdBuf 1).setWidth 2) (some d')
  code : s'.code = s.code
  report : Buffer.slice s'.resultBuf 0 7 = report

theorem slice_results7 (s : Fdc δ) :
    Buffer.slice s.results7.resultBuf 0 7 = s.resultBytes := by
  show Buffer.slice (Buffer.put s.resultBuf 0 s.resultBytes) 0 7 = _
  exact Buffer.slice_put_of_eq rfl

/-- The execution of a read command. -/
theorem read_eq (hV : V.Serves l R) {s : Fdc δ}
    {d : FloppyDrive δ} {q : DiskState} {len : Nat} (kind : Bool)
    (hc : s.code = 6 ∨ s.code = 12) (hd : s.unit = some d)
    (hR : V.Ready R d q) (hr : q.Reaches l s.start.target)
    (hl : s.lensector = some len) (hroom : s.rounds * len ≤ execSize)
    (hfit : q.ReadFits len s.start.target kind s.rounds) :
    ∃ s' d', s.read V kind = some s' ∧ V.Ready R d' q ∧
      Leaves s s' d' [
        (s.cmdBuf 1 &&& 7) |||
          bit (!(q.readRun s.start.target kind s.rounds).all) 0x40,
        (q.readRun s.start.target kind s.rounds).st1,
        (q.readRun s.start.target kind s.rounds).st2, s.cmdBuf 2, s.cmdBuf 3,
        (q.readRun s.start.target kind s.rounds).sector, s.cmdBuf 5] ∧
      if (q.readRun s.start.target kind s.rounds).all then
        s'.mainstat = 0xf0 ∧ s'.execPos = 0 ∧
          s'.execLen = (s.rounds * len : Nat) ∧
          Buffer.slice s'.execBuf 0 (s.rounds * len) =
            (q.readRun s.start.target kind s.rounds).data
      else s'.mainstat = 0xd0 ∧ s'.resultLen = 7 ∧ s'.resultPos = 0 := by
  obtain ⟨h0, h1, h2⟩ := start_marks s
  obtain ⟨err, u, d', hrun, hfatal, hR', hreads, hran⟩ :=
    readSectors_eq hV s.rounds (s := s.start.setExecLen 0) (o := 0)
      kind .ok hd hR hr hl (by omega) hfit rfl
  have htarget : (s.start.setExecLen 0).target = s.start.target := rfl
  rw [htarget] at hfatal hran
  obtain ⟨hb, hmarks, -, hall⟩ := hran
  generalize q.readRun s.start.target kind s.rounds = r at *
  have hcode : u.results7.code = s.code := by
    show u.code = s.code
    rw [hb]
    exact code_put (by omega)
  have hreport : Buffer.slice u.results7.resultBuf 0 7 =
      [(s.cmdBuf 1 &&& 7) ||| bit (!r.all) 0x40, r.st1, r.st2, s.cmdBuf 2,
        s.cmdBuf 3, r.sector, s.cmdBuf 5] := by
    have hst1 : u.st1 = r.st1 := by
      rw [hmarks.st1]
      show s.start.st1 ||| r.st1 = _
      rw [h1]
      exact BitVec.zero_or
    have hst2 : u.st2 = r.st2 := by
      rw [hmarks.st2]
      show s.start.st2 ||| r.st2 = _
      rw [h2]
      exact BitVec.zero_or
    have hst0 : u.st0 = (s.cmdBuf 1 &&& 7) ||| bit (!r.all) 0x40 := by
      rw [hmarks.st0]
      show s.start.st0 ||| _ = _
      rw [h0]
    have hbuf : u.cmdBuf = Buffer.put s.cmdBuf 4 [r.sector] :=
      (congrArg Buffers.cmdBuf hb).trans rfl
    rw [slice_results7, resultBytes, hst0, hst1, hst2, hbuf]
    simp [Buffer.put]
  have hdrive : u.drive =
      Function.update s.drive ((s.cmdBuf 1).setWidth 2) (some d') := hreads.drive
  simp only [read, Option.bind_eq_bind]
  have hrounds : ((s.start.setExecLen 0).cmdBuf 6).toNat + 1 -
      ((s.start.setExecLen 0).cmdBuf 4).toNat = s.rounds := rfl
  rw [hrounds, hrun, Option.bind_some]
  cases ha : r.all with
  | true =>
      rw [ha] at hfatal hreport
      obtain ⟨hdata, hlen⟩ := hall ha
      simp only [hfatal, Bool.not_true, Bool.false_eq_true, if_false, if_true]
      refine ⟨_, d', rfl, hR', ⟨hdrive, hcode, hreport⟩, rfl, rfl, ?_, ?_⟩
      · exact hlen.trans (Int.zero_add _)
      · exact hdata
  | false =>
      rw [ha] at hfatal hreport
      simp only [hfatal, Bool.not_false, if_true]
      rw [finish_read (hcode ▸ hc)]
      exact ⟨_, d', rfl, hR', ⟨hdrive, hcode, hreport⟩, rfl, rfl, rfl⟩

end Fdc

end Xcpc.Lib765
