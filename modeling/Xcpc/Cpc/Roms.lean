import Xcpc.Cpc.Board

/-!
# The loading of ROMs

`mem::Instance::load` reads a bank from a file straight into the memory of the
bank, and throws when the file does not open, does not seek, or ends early. The
mainboard has a bank for each of the system ROMs from its construction on, and
a bank for an expansion as soon as something is loaded into its slot.

Files are outside of the program. What matters of one is whether its position
can be set, and the bytes that `fread` gets from there until the end or an
error; the bytes are in the memory either way.
-/

namespace Xcpc.Cpc

open Sna (Bank)

structure File where
  /-- `fseek` to a position succeeds. -/
  seek : Nat → Bool
  /-- The bytes from a position on, as far as `fread` gets them. -/
  read : Nat → List Byte

/-- The files that `fopen` opens, and the directory of the ROMs. -/
structure Files where
  fopen : String → Option File
  romdir : String

/-- The size of the data of a bank. -/
def bankSize : Nat := 16384

/-- What `fread` of a bank stores from a position on. -/
def File.chunk (file : File) (offset : Nat) : List Byte :=
  (file.read offset).take bankSize

/-- Bytes stored from the start of a bank. -/
def storeBytes (bank : Bank) (data : List Byte) : Bank :=
  fun o => data.getD o.toNat (bank o)

/-- `mem::Instance::load`: the bank that it leaves behind, and what it throws. -/
def memLoad (files : Files) (bank : Bank) (filename : String) (offset : Nat) :
    Bank × Except String Unit :=
  match files.fopen filename with
  | none => (bank, .error "fopen() has failed")
  | some file =>
      if file.seek offset then
        let data := file.chunk offset
        if data.length = bankSize then
          (storeBytes bank data, .ok ())
        else
          (storeBytes bank data, .error "fread() has failed")
      else
        (bank, .error "fseek() has failed")

/-- A name that does not begin with a dot or a slash is in the directory of the
ROMs. -/
def romPath (files : Files) (filename : String) : String :=
  match filename.toList with
  | [] => filename
  | c :: _ =>
      if c != '.' && c != '/' then files.romdir ++ "/" ++ filename else filename

namespace Board

/-- `load_lower_rom` -/
def loadLowerRom (files : Files) (b : Board) (filename : String) :
    Board × Except String Unit :=
  let r := memLoad files (b.rom 0) (romPath files filename) 0x0000
  ({ b with rom := Function.update b.rom 0 r.1 }, r.2)

/-- `load_upper_rom` -/
def loadUpperRom (files : Files) (b : Board) (filename : String) :
    Board × Except String Unit :=
  let r := memLoad files (b.rom 1) (romPath files filename) 0x4000
  ({ b with rom := Function.update b.rom 1 r.1 }, r.2)

/-- `load_expansion`. An empty slot gets a bank first, which is blank. -/
def loadExpansion (files : Files) (b : Board) (filename : String)
    (index : Byte) : Board × Except String Unit :=
  let rom := (b.exp index).getD fun _ => 0
  let r := memLoad files rom (romPath files filename) 0x0000
  ({ b with exp := Function.update b.exp index (some r.1) }, r.2)

/-- The settings `opt_rom000` to `opt_rom015`. -/
structure RomSettings where
  optRom : Fin 16 → String

/-- `is_set` -/
def isSet (string : String) : Bool :=
  string != "" && string != "\x7bnot-set\x7d"

/-- `delete exp, nullptr` -/
def unplug (b : Board) (slot : Byte) : Board :=
  { b with exp := Function.update b.exp slot none }

/-- A turn of the loop of `load_expansions_roms`, at the slot `exp` and the
separate `index`. What `load_expansion` throws is only logged. -/
def expansionTurn (files : Files) (settings : RomSettings)
    (s : Board × Nat) (exp : Byte) : Board × Nat :=
  let (b, index) := s
  let expansion := if h : index < 16 then settings.optRom ⟨index, h⟩ else ""
  if index == 7 && !isSet expansion then
    -- the `continue` leaves `index` behind as well
    (b, index)
  else if isSet expansion then
    ((b.loadExpansion files expansion (BitVec.ofNat 8 index)).1, index + 1)
  else
    (b.unplug exp, index + 1)

/-- `load_expansions_roms` -/
def loadExpansionsRoms (files : Files) (settings : RomSettings) (b : Board) :
    Board :=
  (((List.range 256).map (BitVec.ofNat 8)).foldl
    (expansionTurn files settings) (b, 0)).1

end Board

end Xcpc.Cpc
