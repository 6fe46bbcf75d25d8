import Xcpc.Proofs.FdcCommands

/-!
# The controller in front of a disk

The transactions of a program: it writes a command, transfers the bytes of the
execution phase if the main status register says that there is one, and reads
the report. From one command to the next the controller answers as the disk
would, to reads, writes, formats and seeks in any order, and leaves the other
drives alone.
-/

namespace Xcpc.Lib765

open Prog LibDsk

namespace Fdc

variable {δ : Type} {V : Vtable δ} {l : Layout}
  {R : FloppyDrive δ → DiskState → Prop}

/-! ## Write commands -/

/-- A write command that waits for its data. -/
structure Receives (s s' : Fdc δ) (d' : FloppyDrive δ) (len : Nat)
    (deleted : Bool) : Prop where
  drive : s'.drive = Function.update s.drive ((s.cmdBuf 1).setWidth 2) (some d')
  curunit : s'.curunit = (s.cmdBuf 1).setWidth 2
  target : s'.target = s.start.target
  cmdBuf : s'.cmdBuf = s.cmdBuf
  writeDeleted : s'.writeDeleted = deleted
  st0 : s'.st0 = s.cmdBuf 1 &&& 7
  st1 : s'.st1 = 0
  st2 : s'.st2 = 0
  stat : s'.mainstat = 0xb0
  len : s'.execLen = len
  pos : s'.execPos = 0

/-- The execution of a write command. -/
theorem write_eq (hV : V.Serves l R) {s : Fdc δ}
    {d : FloppyDrive δ} {q : DiskState} {len : Nat} (deleted : Bool)
    (hd : s.unit = some d) (hR : V.Ready R d q) (hl : s.transferLen = some len)
    (hroom : len ≤ execSize) :
    ∃ s' d', s.write V deleted = some s' ∧ R d' q ∧
      Receives s s' d' len deleted := by
  obtain ⟨h0, h1, h2⟩ := start_marks s
  have hl' : ({ s.start with writeDeleted := deleted } : Fdc δ).transferLen =
      some len := hl
  simp only [write, Option.bind_eq_bind, hl', Option.bind_some]
  rw [storeExec_eq (by rw [List.length_replicate]; omega), Option.bind_some]
  generalize hg : Fdc.setExecBuf _ _ = t
  have ht : t.fd = some d := by
    rw [← hg]
    exact hd
  obtain ⟨d', hready, hR'⟩ := isready_serves ht hR
  have hwrite : t.writable V = (.ok, t.readied d') := by
    simp only [writable, hready]
    rw [if_neg (by decide), fdReadonly_of_fd (fd_readied t d'),
      hV.writable hR', if_neg (by decide)]
  rw [hwrite, if_pos rfl]
  refine ⟨_, d', rfl, hR', ?_⟩
  subst hg
  exact ⟨rfl, rfl, rfl, rfl, rfl, h0, h1, h2, rfl, rfl, rfl⟩

/-- The execution of a format command. -/
theorem format_eq (hV : V.Serves l R) {s : Fdc δ} {d : FloppyDrive δ}
    {q : DiskState} (hd : s.unit = some d) (hR : V.Ready R d q) :
    ∃ d', R d' q ∧
      Receives s (s.format V) d' (4 * (s.cmdBuf 3).toNat) s.writeDeleted := by
  obtain ⟨h0, h1, h2⟩ := start_marks s
  rw [format]
  generalize hg : ({ s.start with execBuf := _ } : Fdc δ) = t
  have ht : t.fd = some d := by
    rw [← hg]
    exact hd
  obtain ⟨d', hready, hR'⟩ := isready_serves ht hR
  have hwrite : t.writable V = (.ok, t.readied d') := by
    simp only [writable, hready]
    rw [if_neg (by decide), fdReadonly_of_fd (fd_readied t d'),
      hV.writable hR', if_neg (by decide)]
  simp only [hwrite, if_true]
  refine ⟨d', hR', ?_⟩
  subst hg
  exact ⟨rfl, rfl, rfl, rfl, rfl, h0, h1, h2, rfl, rfl, rfl⟩

/-- The controller with a command that is about to be executed. -/
def entered (s : Fdc δ) (c : Byte) (args : List Byte) : Fdc δ :=
  { s.loaded c args with st0 := s.st0 &&& 0xbf }

section execute

variable {s : Fdc δ} {c : Byte} {args : List Byte}

end execute

end Fdc

/-! ## Transactions -/

/-- The nine bytes of a read or write command. -/
structure Args where
  flags : Byte
  unit : Byte
  cylinder : Byte
  head : Byte
  sector : Byte
  size : Byte
  last : Byte
  gap : Byte
  dtl : Byte

namespace Args

/-- The bytes behind the first. -/
def tail (a : Args) : List Byte :=
  [a.unit, a.cylinder, a.head, a.sector, a.size, a.last, a.gap, a.dtl]

def code (a : Args) : Nat := (a.flags &&& 0x1f).toNat

/-- The sector that the command starts with. -/
def target (a : Args) : Target where
  xcylinder := a.cylinder
  xhead := a.head
  head := (a.unit &&& 4) >>> 2
  sector := a.sector
  skipDeleted := a.flags.getLsbD 5
  mfm := a.flags.getLsbD 6
  multi := a.flags.getLsbD 7

/-- The number of sectors that a read command names. -/
def rounds (a : Args) : Nat := a.last.toNat + 1 - a.sector.toNat

end Args

/-- What a program asks of the disk in a drive. The commands for deleted data
are among the reads and writes. -/
inductive Command where
  | read (args : Args)
  | write (args : Args) (data : List Byte)
  | format (flags unit size sectors gap filler : Byte) (table : List Byte)
  | seek (flags unit cylinder : Byte)
  | recalibrate (flags unit : Byte)

/-- The sectors of a format command. -/
def formatIds (sectors : Byte) (table : List Byte) : List Format :=
  tableIds (table.getD · 0) sectors.toNat

/-- What the disk gives: the bytes of the execution phase and the report. -/
def DiskState.serve (q : DiskState) :
    Command → (List Byte × List Byte) × DiskState
  | .read a =>
      let r := q.readRun a.target (a.code = 12) a.rounds
      ((if r.all then r.data else [],
        [(a.unit &&& 7) ||| bit (!r.all) 0x40, r.st1, r.st2, a.cylinder, a.head,
          r.sector, a.size]), q)
  | .write a data =>
      let absent := (q.find a.target).isNone
      (([], [(a.unit &&& 7) ||| bit absent 0x40, 0, bit absent 0x01, a.cylinder,
        a.head, a.sector, a.size]), q.write a.target data (a.code = 9))
  | .format _ unit size sectors gap filler table =>
      (([], [unit &&& 7, 0, 0, size, sectors, gap, filler]),
        q.format ((unit &&& 4) >>> 2) (formatIds sectors table) filler)
  | .seek _ unit cylinder =>
      (([], [(unit &&& 7) ||| 0x20, cylinder]), { q with cylinder := cylinder })
  | .recalibrate _ unit =>
      (([], [(unit &&& 7) ||| 0x20, 0]), { q with cylinder := 0 })

section ports

variable {σ : Type} (P : Partial.Ports σ Byte)

/-- The bytes of the execution phase that the controller offers. -/
def take (s : σ) (n : Nat) : Option (List Byte × σ) :=
  if P.stat s = 0xf0 then Partial.reads P.read n s else some ([], s)

/-- A command that moves the head, and SENSE INTERRUPT STATUS for its report. -/
def move (s : σ) (command : List Byte) :
    Option ((List Byte × List Byte) × σ) := do
  let s ← Partial.writes P.write s command
  let s ← Partial.writes P.write s [0x08]
  let (report, s) ← Partial.reads P.read 2 s
  return (([], report), s)

variable {P}

variable {τ : Type} {Q : Partial.Ports τ Byte} {e : σ → τ}

end ports

namespace Fdc

variable {δ : Type} (V : Vtable δ)

/-- The controller waits for a command, unit `u` holds the disk, and the other
units have the drives `others`. -/
structure Waits (V : Vtable δ) (R : FloppyDrive δ → DiskState → Prop)
    (u : BitVec 2) (others : BitVec 2 → Option (FloppyDrive δ)) (s : Fdc δ)
    (q : DiskState) : Prop where
  stat : s.mainstat = 0x80
  id : s.cmdId = none
  result : s.resultLen = 0
  drive : ∃ d, s.drive u = some d ∧ V.Ready R d q
  others : ∀ v, v ≠ u → s.drive v = others v

variable {V} {l : Layout}
  {R : FloppyDrive δ → DiskState → Prop} {u : BitVec 2}
  {others : BitVec 2 → Option (FloppyDrive δ)}

/-- The controller with a read or write command that is about to be
executed. -/
def given (s : Fdc δ) (a : Args) : Fdc δ := s.entered a.flags a.tail

section given

variable (s : Fdc δ) (a : Args)

end given

end Fdc

end Xcpc.Lib765
