import Xcpc.Cpu.Registers
import Xcpc.Lib.Buffer

/-!
# The floppy disk controller

`FDC_765` of lib765 is the uPD765A. The program writes a command a byte at a
time into the data register, transfers the bytes of the execution phase
through it, and reads the bytes of the result phase from it. The main status
register says which of these is going on.

The controller indexes its buffers without a check and reads through the
pointers of its drives. Where the program would leave a buffer, follow a null
pointer or overflow a shift the functions here answer `none`.

The digital output register is never written, so it stays at -1 and the drives
of `fdc_dor_drive` are those of `fdc_drive`. No interrupt routine is set and
`fdc_tick` is never called, which leaves nothing to read the countdown.
-/

namespace Xcpc.Lib765

open Prog

/-! ## Drives -/

/-- `FD_E_OK` and the errors -/
inductive FdErr where
  | ok
  | seekFail
  | noAddr
  | noData
  | dataErr
  | noSector
  | notRdy
  | readOnly
deriving DecidableEq, Repr

/-- An error that ends the command. The data of a data error is delivered. -/
def FdErr.fatal (err : FdErr) : Bool := err != .ok && err != .dataErr

/-- `fd_type` -/
inductive FdType where
  | none
  | fd30
  | fd35
  | fd525
deriving DecidableEq, Repr

/-- `FLOPPY_DRIVE`, with the state of its class. -/
structure FloppyDrive (δ : Type) where
  type : FdType
  heads : Nat
  readonly : Bool
  motor : Bool
  cylinder : Byte
  image : δ

/-- The sector that a command names: what its header is expected to say, the
head that is used and the three flags of the command byte. -/
structure Target where
  xcylinder : Byte
  xhead : Byte
  head : Byte
  sector : Byte
  skipDeleted : Bool
  mfm : Bool
  multi : Bool
deriving DecidableEq, Repr

/-- What a drive does with a buffer: the bytes that it stores from the start
of it, and what it leaves in `*deleted` or `*len`. -/
structure Transfer (δ ω : Type) where
  err : FdErr
  stored : List Byte
  out : ω
  drive : FloppyDrive δ

/-- `FLOPPY_DRIVE_VTABLE`, what the controller calls of it. The null `deleted`
of the scan commands is `none`. Formatting is undefined for some tables. -/
structure Vtable (δ : Type) where
  seekCylinder : FloppyDrive δ → Byte → FdErr × FloppyDrive δ
  readId : FloppyDrive δ → Byte → Nat → Transfer δ Unit
  readSector : FloppyDrive δ → Target → Nat → Option Bool → Transfer δ Bool
  readTrack : FloppyDrive δ → Byte → Byte → Byte → Nat → Transfer δ Nat
  writeSector : FloppyDrive δ → Target → (Nat → Byte) → Nat → Bool →
    FdErr × FloppyDrive δ
  formatTrack : FloppyDrive δ → Byte → Byte → (Nat → Byte) → Byte →
    Option (FdErr × FloppyDrive δ)
  driveStatus : FloppyDrive δ → Byte × FloppyDrive δ
  isready : FloppyDrive δ → Bool × FloppyDrive δ
  eject : FloppyDrive δ → FloppyDrive δ

/-! ## The controller -/

/-- `bytes_in_cmd` -/
def bytesInCmd : Nat → Nat
  | 2 | 5 | 6 | 9 | 12 | 17 | 25 | 30 => 9
  | 13 => 6
  | 3 | 15 => 3
  | 4 | 7 | 10 => 2
  | _ => 1

def cmdSize : Nat := 20
def execSize : Nat := 16384
def resultSize : Nat := 20
def maxSectorLen : Nat := 8192

/-- The part of `FDC_765` that moves bytes: the main status register and the
buffers of the three phases. The command id -1 is `none`. -/
structure Buffers where
  mainstat : Byte
  cmdId : Option Byte
  cmdLen : Int
  cmdPos : Nat
  cmdBuf : Nat → Byte
  execBuf : Nat → Byte
  execLen : Int
  execPos : Nat
  resultBuf : Nat → Byte
  resultLen : Int
  resultPos : Nat

/-- `FDC_765` -/
structure Fdc (δ : Type) extends Buffers where
  interrupting : Nat
  specify : Byte × Byte
  lastidread : Nat
  writeDeleted : Bool
  st0 : Byte
  st1 : Byte
  st2 : Byte
  st3 : Byte
  curunit : BitVec 2
  curhead : Byte
  drive : BitVec 2 → Option (FloppyDrive δ)

/-- `128 << n`, which does not fit an `int` from 24 on. -/
def secsize (n : Byte) : Option Nat :=
  if n.toNat < 24 then some (128 <<< n.toNat) else none

namespace Buffers

/-- The command that is in the buffer, without its flags. -/
def code (s : Buffers) : Nat := (s.cmdBuf 0 &&& 0x1f).toNat

/-- The length that the write and scan commands go by. -/
def transferLen (s : Buffers) : Option Nat :=
  (secsize (s.cmdBuf 5)).map fun len =>
    if s.cmdBuf 8 < 255 then (s.cmdBuf 8).toNat else len

/-- The length of a sector in the read commands. -/
def lensector (s : Buffers) : Option Nat :=
  (secsize (s.cmdBuf 5)).map fun len =>
    if s.cmdBuf 5 = 0 ∧ s.cmdBuf 8 < 255 then (s.cmdBuf 8).toNat else len

end Buffers

variable {δ : Type}

namespace Fdc

/-- `fdc_part_reset` -/
def partReset (s : Fdc δ) : Fdc δ :=
  { s with
    mainstat := 0x80, st0 := 0, st1 := 0, st2 := 0, st3 := 0, curunit := 0,
    curhead := 0, cmdId := none, cmdLen := 0, cmdPos := 0, execLen := 0,
    execPos := 0, resultLen := 0, resultPos := 0, cmdBuf := fun _ => 0,
    execBuf := fun _ => 0, resultBuf := fun _ => 0 }

/-- `fdc_reset` -/
def reset (s : Fdc δ) : Fdc δ :=
  partReset { s with
    interrupting := 0, specify := (0, 0), lastidread := 0,
    drive := fun _ => none }

/-- `fdc_dor_drive[fdc_curunit]` -/
def fd (s : Fdc δ) : Option (FloppyDrive δ) := s.drive s.curunit

/-- The current drive in a new state. -/
def setFd (s : Fdc δ) (d : FloppyDrive δ) : Fdc δ :=
  { s with drive := Function.update s.drive s.curunit (some d) }

/-- The wrappers `fd_*`: a drive that is not there gives a default. -/
def withFd {α : Type} (s : Fdc δ) (absent : α)
    (f : FloppyDrive δ → α × FloppyDrive δ) : α × Fdc δ :=
  match s.fd with
  | none => (absent, s)
  | some d => ((f d).1, s.setFd (f d).2)

/-- The wrappers around the functions that fill a buffer. -/
def transferFd {ω : Type} (s : Fdc δ) (out : ω)
    (f : FloppyDrive δ → Transfer δ ω) : (FdErr × List Byte × ω) × Fdc δ :=
  s.withFd (.notRdy, [], out) fun d =>
    let t := f d
    ((t.err, t.stored, t.out), t.drive)

variable (V : Vtable δ)

/-- `fdc_get_st3`, which does not look whether there is a drive -/
def getSt3 (s : Fdc δ) : Option (Fdc δ) :=
  match s.fd with
  | none => none
  | some d =>
      let r := V.driveStatus d
      let value := r.1 &&& 0xf8
      let value := value ||| (if s.curhead != 0 then 4 else 0)
      let value := value ||| s.curunit.setWidth 8
      some { s.setFd r.2 with st3 := value }

/-- `fdc_isready` -/
def isready (s : Fdc δ) : Bool × Fdc δ :=
  let r := s.withFd false V.isready
  if r.1 then (true, { r.2 with st3 := r.2.st3 ||| 0x20 })
  else (false, { r.2 with st3 := r.2.st3 &&& 0xdf })

/-- `fdc_xlt_error` -/
def xltError (s : Fdc δ) : FdErr → Fdc δ
  | .ok => s
  | .notRdy => { s with st0 := s.st0 ||| 0x48 }
  | .seekFail => { s with st0 := s.st0 ||| 0x40, st2 := s.st2 ||| 0x02 }
  | .noAddr => { s with st0 := s.st0 ||| 0x40, st2 := s.st2 ||| 0x01 }
  | .noData => { s with st0 := s.st0 ||| 0x40, st1 := s.st1 ||| 0x04 }
  | .dataErr => { s with st1 := s.st1 ||| 0x20, st2 := s.st2 ||| 0x20 }
  | .noSector => { s with st0 := s.st0 ||| 0x40, st1 := s.st1 ||| 0x82 }
  | .readOnly => { s with st0 := s.st0 ||| 0x40, st1 := s.st1 ||| 0x02 }

/-- The bytes of `fdc_results_7`. -/
def resultBytes (s : Fdc δ) : List Byte :=
  [s.st0, s.st1, s.st2, s.cmdBuf 2, s.cmdBuf 3, s.cmdBuf 4, s.cmdBuf 5]

/-- `fdc_results_7` -/
def results7 (s : Fdc δ) : Fdc δ :=
  { s with
    resultBuf := Buffer.put s.resultBuf 0 s.resultBytes, mainstat := 0xd0 }

/-- `fdc_end_result_phase` -/
def endResultPhase (s : Fdc δ) : Fdc δ :=
  { s with
    mainstat := 0x80
    interrupting := if s.interrupting < 3 then 0 else s.interrupting
    cmdId := none }

/-- `fdc_error` -/
def error (s : Fdc δ) : Fdc δ :=
  let st0 := (s.st0 &&& 0x3f) ||| 0x80
  { s with
    st0 := st0, mainstat := 0xd0, resultLen := 1, resultPos := 0
    resultBuf := Buffer.put s.resultBuf 0 [st0] }

/-- `fdc_result_interrupt` -/
def resultInterrupt (s : Fdc δ) : Fdc δ := { s with interrupting := 1 }

/-- `fdc_exec_interrupt` -/
def execInterrupt (s : Fdc δ) : Fdc δ := { s with interrupting := 2 }

/-- `fdc_scan_byte` -/
def scanByte (s : Fdc δ) (fdcbyte cpubyte : Byte) : Fdc δ :=
  if (s.st2 &&& 0x0c) != 8 then s
  else if fdcbyte == cpubyte || fdcbyte == 0xff || cpubyte == 0xff then s
  else
    match s.code with
    | 17 => { s with st2 := (s.st2 &&& 0xf3) ||| 4 }
    | 25 =>
        if fdcbyte < cpubyte then { s with st2 := s.st2 &&& 0xf3 }
        else { s with st2 := (s.st2 &&& 0xf3) ||| 4 }
    | 30 =>
        if fdcbyte < cpubyte then { s with st2 := (s.st2 &&& 0xf3) ||| 4 }
        else { s with st2 := s.st2 &&& 0xf3 }
    | _ => s

/-- `fdc_get_drive` -/
def getDrive (s : Fdc δ) : Fdc δ :=
  let b := s.cmdBuf 1
  { s with
    curunit := b.setWidth 2, curhead := (b &&& 4) >>> 2
    st0 := (s.st0 &&& 0xf8) ||| (b &&& 7)
    st3 := (s.st3 &&& 0xf8) ||| (b &&& 7) }

/-- The arguments that the sector functions of a drive are called with. -/
def target (s : Fdc δ) : Target where
  xcylinder := s.cmdBuf 2
  xhead := s.cmdBuf 3
  head := s.curhead
  sector := s.cmdBuf 4
  skipDeleted := (s.cmdBuf 0).getLsbD 5
  mfm := (s.cmdBuf 0).getLsbD 6
  multi := (s.cmdBuf 0).getLsbD 7

/-- `fdc_write_end` -/
def writeEnd (s : Fdc δ) : Option (Fdc δ) := do
  let len ← s.transferLen
  let r := s.withFd .notRdy fun d =>
    V.writeSector d s.target s.execBuf len s.writeDeleted
  return resultInterrupt (results7 (r.2.xltError r.1))

/-- `fdc_format_end` -/
def formatEnd (s : Fdc δ) : Option (Fdc δ) := do
  let r ← match s.fd with
    | none => some (.notRdy, s)
    | some d =>
        (V.formatTrack d s.curhead (s.cmdBuf 3) s.execBuf (s.cmdBuf 5)).map
          fun r => (r.1, s.setFd r.2)
  return resultInterrupt (results7 (r.2.xltError r.1))

/-- `fdc_end_execution_phase` -/
def endExecutionPhase (s : Fdc δ) : Option (Fdc δ) :=
  let s := { s with mainstat := 0xd0, resultPos := 0 }
  match s.code with
  | 17 | 25 | 30 => some (resultInterrupt { results7 s with resultLen := 7 })
  | 12 | 6 => some (resultInterrupt { s with resultLen := 7 })
  | 9 | 5 => do
      let s ← s.writeEnd V
      return { s with resultLen := 7 }
  | 13 => do
      let s ← s.formatEnd V
      return { s with resultLen := 7 }
  | _ => some s

/-! ## Commands -/

/-- The status registers at the start of a command. -/
def clearStatus (s : Fdc δ) : Fdc δ :=
  { s with st0 := 0, st1 := 0, st2 := 0 }

/-- How the commands start that go to a sector or to a cylinder. -/
def start (s : Fdc δ) : Fdc δ :=
  { s.clearStatus.getDrive with lastidread := 0 }

/-- `fdc_end_execution_phase` and the interrupt, as most commands end. -/
def finish (s : Fdc δ) : Option (Fdc δ) :=
  (s.endExecutionPhase V).map resultInterrupt

def setExecLen (s : Fdc δ) (len : Int) : Fdc δ := { s with execLen := len }

/-- Stores into the buffer of the execution phase. -/
def storeExec (s : Fdc δ) (pos : Nat) (bytes : List Byte) : Option (Fdc δ) :=
  (Buffer.store execSize s.execBuf pos bytes).map fun buf =>
    { s with execBuf := buf }

/-- `fdc_read_track` -/
def readTrack (s : Fdc δ) : Option (Fdc δ) := do
  let s := s.start.setExecLen maxSectorLen
  let (ready, s) := s.isready V
  let ((err, stored, len), s) :=
    if ready then
      s.transferFd maxSectorLen fun d =>
        V.readTrack d (s.cmdBuf 2) (s.cmdBuf 3) s.curhead maxSectorLen
    else ((.notRdy, [], maxSectorLen), s)
  let s ← (s.setExecLen len).storeExec 0 stored
  let s := results7 (s.xltError err)
  if err.fatal then s.finish V
  else return { s.execInterrupt with mainstat := 0xf0, execPos := 0 }

/-- `fdc_specify` -/
def specifyCmd (s : Fdc δ) : Fdc δ :=
  endResultPhase { s with specify := (s.cmdBuf 1, s.cmdBuf 2) }

/-- `fdc_sense_drive` -/
def senseDrive (s : Fdc δ) : Option (Fdc δ) := do
  let s ← s.getDrive.getSt3 V
  let s := { s with
    resultBuf := Buffer.put s.resultBuf 0 [s.st3], resultLen := 1 }
  s.endExecutionPhase V

/-- A sector of `fdc_read`, which goes to `off`. `deleted` is what the drive
found there and what it leaves. -/
def readSector (s : Fdc δ) (off len : Nat) (deleted : Bool) :
    Option ((FdErr × Bool) × Fdc δ) := do
  let s ← s.storeExec off (List.replicate len 0)
  let (ready, s) := s.isready V
  let ((err, stored, deleted), s) :=
    if ready then
      s.transferFd deleted fun d => V.readSector d s.target len (some deleted)
    else ((.notRdy, [], deleted), s)
  let s ← s.storeExec off stored
  let s := s.xltError err
  return ((err, deleted),
    if deleted then { s with st2 := s.st2 ||| 0x40 } else s)

/-- On to the next sector. -/
def nextSector (s : Fdc δ) (len : Nat) : Fdc δ :=
  { s with
    execLen := s.execLen + len
    cmdBuf := Buffer.put s.cmdBuf 4 [s.cmdBuf 4 + 1] }

/-- The loop of `fdc_read`, with the number of rounds that are left. -/
def readSectors : Nat → FdErr → Bool → Nat → Fdc δ → Option (FdErr × Fdc δ)
  | 0, err, _, _, s => some (err, s)
  | n + 1, _, deleted, off, s => do
      let len ← s.lensector
      let ((err, deleted), s) ← s.readSector V off len deleted
      if err.fatal then return (err, s)
      else readSectors n err deleted (off + len) (s.nextSector len)

/-- `fdc_read` -/
def read (s : Fdc δ) (deleted : Bool) : Option (Fdc δ) := do
  let s := s.start.setExecLen 0
  let rounds := (s.cmdBuf 6).toNat + 1 - (s.cmdBuf 4).toNat
  let (err, s) ← readSectors V rounds .ok deleted 0 s
  let s := results7 s
  if err.fatal then s.finish V
  else return { s.execInterrupt with mainstat := 0xf0, execPos := 0 }

/-- Is there a drive that is write-protected? -/
def fdReadonly (s : Fdc δ) : Bool :=
  match s.fd with
  | some d => d.readonly
  | none => false

/-- The check before the write commands. -/
def writable (s : Fdc δ) : FdErr × Fdc δ :=
  let (ready, s) := s.isready V
  if !ready then (.notRdy, s)
  else if s.fdReadonly then (.readOnly, s)
  else (.ok, s)

/-- `fdc_write` -/
def write (s : Fdc δ) (deleted : Bool) : Option (Fdc δ) := do
  let s := { s.start with writeDeleted := deleted }
  let len ← s.transferLen
  let s ← (s.setExecLen len).storeExec 0 (List.replicate len 0)
  let (err, s) := s.writable V
  if err = .ok then
    return { s.execInterrupt with mainstat := 0xb0, execPos := 0 }
  else
    let s := results7 { s.xltError err with mainstat := 0xd0, resultPos := 0 }
    return resultInterrupt { s with resultPos := 0, resultLen := 7 }

/-- The end of `fdc_recalibrate` and `fdc_seek`. -/
def seekTo (s : Fdc δ) (cylinder : Byte) : Fdc δ :=
  let s := endResultPhase s
  let s := { s with
    interrupting := 4, st2 := s.st2 &&& 0xfd, st0 := s.st0 ||| 0x20 }
  let (ready, s) := s.isready V
  if !ready then { s with st0 := s.st0 ||| 0x48 }
  else
    let (err, s) := s.withFd .notRdy fun d => V.seekCylinder d cylinder
    if err = .ok then s
    else { s with st2 := s.st2 ||| 2, st0 := s.st0 ||| 0x40 }

/-- `fdc_recalibrate` -/
def recalibrate (s : Fdc δ) : Fdc δ :=
  s.start.seekTo V 0

/-- `fdc_sense_int` -/
def senseInt (s : Fdc δ) : Option (Fdc δ) := do
  let s :=
    if s.interrupting > 2 then
      let cyl := match s.fd with
        | some d => d.cylinder
        | none => 0
      { s with
        resultBuf := Buffer.put s.resultBuf 0 [s.st0, cyl], resultLen := 2 }
    else
      { s with
        st0 := 0x80, resultBuf := Buffer.put s.resultBuf 0 [0x80]
        resultLen := 1 }
  let s ← s.endExecutionPhase V
  return { s with interrupting := 0 }

/-- The errors of `fdc_read_id`. -/
def idError (s : Fdc δ) : FdErr → Fdc δ
  | .seekFail => { s with st1 := s.st1 ||| 1, st0 := s.st0 ||| 0x40 }
  | .noAddr => { s with st2 := s.st2 ||| 1, st0 := s.st0 ||| 0x40 }
  | _ => s

/-- The ID of the next sector, which goes into the command. The table of the
drive is used without a look, but only of a drive that said it is ready. -/
def nextId (s : Fdc δ) : Option (Fdc δ) := do
  let ((ret, stored, _), s) := s.transferFd () fun d =>
    V.readId d s.curhead s.lastidread
  let buf ← Buffer.store cmdSize s.cmdBuf 2 stored
  return idError { s with cmdBuf := buf, lastidread := s.lastidread + 1 } ret

/-- `fdc_read_id` -/
def readId (s : Fdc δ) : Option (Fdc δ) := do
  let s := { s.clearStatus.getDrive with resultLen := 7 }
  let (ready, s) := s.isready V
  let s ← if ready then s.nextId V else some { s with st0 := s.st0 ||| 0x48 }
  s.results7.resultInterrupt.endExecutionPhase V

/-- `fdc_format` -/
def format (s : Fdc δ) : Fdc δ :=
  let s := s.start
  let s := { s with
    execBuf := Buffer.put s.execBuf 0 (List.replicate maxSectorLen 0) }
  let (err, s) := s.writable V
  if err = .ok then
    { s.execInterrupt with
      mainstat := 0xb0, execPos := 0, execLen := 4 * (s.cmdBuf 3).toNat }
  else
    resultInterrupt
      (results7 { s.xltError err with mainstat := 0xd0, resultPos := 0 })

/-- `fdc_seek` -/
def seek (s : Fdc δ) : Fdc δ :=
  s.start.seekTo V (s.cmdBuf 2)

/-- `fdc_scan` -/
def scan (s : Fdc δ) : Option (Fdc δ) := do
  let s := s.start
  let len ← s.transferLen
  let s ← (s.setExecLen len).storeExec 0 (List.replicate len 0)
  let ((err, stored, _), s) := s.transferFd false fun d =>
    V.readSector d s.target len none
  let s ← s.storeExec 0 stored
  let s := results7 (s.xltError err)
  if err.fatal then s.finish V
  else
    let s := s.execInterrupt
    return { s with st2 := s.st2 ||| 8, mainstat := 0xb0, execPos := 0 }

/-- `fdc_execute` -/
def execute (s : Fdc δ) : Option (Fdc δ) :=
  let s := { s with st0 := s.st0 &&& 0xbf }
  match s.code with
  | 2 => s.readTrack V
  | 3 => some s.specifyCmd
  | 4 => s.senseDrive V
  | 5 => s.write V false
  | 6 => s.read V false
  | 7 => some (s.recalibrate V)
  | 8 => s.senseInt V
  | 9 => s.write V true
  | 10 => s.readId V
  | 12 => s.read V true
  | 13 => some (s.format V)
  | 15 => some (s.seek V)
  | 17 | 25 | 30 => s.scan V
  | _ => some s.error

/-! ## The registers -/

/-- `fdc_clear_pending_interrupt` -/
def clearPendingInterrupt (s : Fdc δ) : Fdc δ :=
  if 0 < s.interrupting ∧ s.interrupting < 4 then { s with interrupting := 0 }
  else s

/-- The end of a byte of the execution phase. -/
def execByteDone (s : Fdc δ) : Option (Fdc δ) :=
  let s := { s with execPos := s.execPos + 1, execLen := s.execLen - 1 }
  if s.execLen = 0 then s.finish V else some s

/-- A byte of the execution phase that comes from the program. -/
def execByte (s : Fdc δ) (value : Byte) : Option (Fdc δ) := do
  let s ← match s.code with
    | 17 | 25 | 30 =>
        (Buffer.load? execSize s.execBuf s.execPos).map fun b =>
          s.scanByte b value
    | _ =>
        (Buffer.store execSize s.execBuf s.execPos [value]).map fun buf =>
          { s with execBuf := buf }
  s.execByteDone V

/-- The first byte of a command. -/
def firstByte (s : Fdc δ) (value : Byte) : Fdc δ :=
  { s with
    cmdId := some value, cmdPos := 0
    cmdBuf := Buffer.put s.cmdBuf 0 [value]
    cmdLen := bytesInCmd (value &&& 0x1f).toNat - 1 }

/-- A further byte of a command. -/
def nextByte (s : Fdc δ) (value : Byte) : Option (Fdc δ) :=
  (Buffer.store cmdSize s.cmdBuf (s.cmdPos + 1) [value]).map fun buf =>
    { s with cmdPos := s.cmdPos + 1, cmdBuf := buf, cmdLen := s.cmdLen - 1 }

/-- `fdc_write_data`. No command has less than a byte. -/
def writeData (s : Fdc δ) (value : Byte) : Option (Fdc δ) :=
  let s := s.clearPendingInterrupt
  if s.mainstat.getLsbD 5 then s.execByte V value
  else if s.cmdId.isSome ∧ s.cmdLen ≤ 0 then some { s with cmdId := none }
  else if s.cmdId.isNone then do
    let s := s.firstByte value
    let s ← if s.cmdLen = 0 then s.execute V else some s
    return { s with mainstat := s.mainstat ||| 0x10 }
  else do
    let s ← s.nextByte value
    if s.cmdLen = 0 then s.execute V else some s

/-- `fdc_read_data` -/
def readData (s : Fdc δ) : Option (Byte × Fdc δ) :=
  let s := s.clearPendingInterrupt
  if s.mainstat.getLsbD 7 then
    if s.mainstat.getLsbD 5 then do
      let v ← Buffer.load? execSize s.execBuf s.execPos
      let s ← s.execByteDone V
      return (v, s)
    else do
      let v ← Buffer.load? resultSize s.resultBuf s.resultPos
      let s := { s with
        resultPos := s.resultPos + 1, resultLen := s.resultLen - 1 }
      return (v, if s.resultLen = 0 then s.endResultPhase else s)
  else
    some (s.mainstat ||| (1 <<< s.curunit.toNat), s)

/-- `fdc_read_ctrl` -/
def readCtrl (s : Fdc δ) : Byte := s.mainstat

/-- Is the motor of the current unit on? -/
def curMotor (s : Fdc δ) : Bool :=
  match s.fd with
  | some d => d.motor
  | none => false

/-- The drives with their motors started and stopped. -/
def motors (s : Fdc δ) (running : Byte) : Fdc δ :=
  { s with
    drive := fun n =>
      (s.drive n).map fun d => { d with motor := running.getLsbD n.toNat } }

/-- `fdc_set_motor` -/
def setMotor (s : Fdc δ) (running : Byte) : Option (Fdc δ) := do
  let old := s.curMotor
  let s := s.motors running
  let new := s.curMotor
  if new = old then return s
  else
    let s := { s with
      st0 := if new then s.st0 &&& 0xf7 else s.st0 ||| 8 }
    let s ← s.getSt3 V
    if (s.mainstat &&& 0xf0) ≠ 0x80 ∧ !new then
      endExecutionPhase V { s with st0 := s.st0 ||| 0xc0 }
    else return s

/-- What the mainboard does with the controller between two resets. -/
inductive Access where
  | read
  | write (value : Byte)
  | motor (running : Byte)

def access (s : Fdc δ) : Access → Option (Fdc δ)
  | .read => (s.readData V).map (·.2)
  | .write value => s.writeData V value
  | .motor running => s.setMotor V running

end Fdc

end Xcpc.Lib765
