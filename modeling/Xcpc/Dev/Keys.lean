import Xcpc.Dev.Kbd

/-!
# The keyboard decoders

A key event of the display becomes a key of the matrix by way of its keysym:
`decode_english` and `decode_french` are two tables from keysyms to a place in
the matrix, with the Shift and Control keys that the CPC needs for the same
character. A release is decoded again, on its own, and lets up what its own
decoding says.

`XLookupString` is a parameter: the keysym of a keycode under the Shift and
Control modifiers that the event carries.
-/

namespace Xcpc.Kbd

/-- `XcpcKeyboardType` -/
inductive KeyboardType where
  | unknown
  | default
  | english
  | french
  | german
  | spanish
  | danish
deriving DecidableEq, Repr

/-- The fields of an `XKeyEvent` that a lookup reads: the keycode, and the
Shift and Control bits of `state`. -/
structure XKeyEvent (κ : Type) where
  keycode : κ
  shift : Bool
  control : Bool
deriving DecidableEq, Repr

/-- `XLookupString`, as a function of the keycode, Shift and Control. -/
abbrev Lookup (κ : Type) := κ → Bool → Bool → Nat

/-- A call of `SET_KEY`, `SFT_KEY` or `EXT_KEY`. -/
structure Key where
  mods : Byte
  line : Byte
  data : Byte
deriving DecidableEq, Repr

/-- `SET_KEY(ROWn, BITn)` -/
def setKey (row bit : Nat) : Key := ⟨0x00, .ofNat 8 row, 1 <<< bit⟩

/-- `SFT_KEY(ROWn, BITn)` -/
def sftKey (row bit : Nat) : Key := ⟨0x01, .ofNat 8 row, 1 <<< bit⟩

/-- `EXT_KEY(ROWn, BITn)` -/
def extKey (row bit : Nat) : Key := ⟨0x03, .ofNat 8 row, 1 <<< bit⟩

/-- The keysyms of page 0x00 in `decode_english`. -/
def englishLatin : List (Nat × Key) :=
  [(0x0020, setKey 5 7), (0x0021, sftKey 8 0), (0x0022, sftKey 8 1),
    (0x0023, sftKey 7 1), (0x0024, sftKey 7 0), (0x0025, sftKey 6 1),
    (0x0026, sftKey 6 0), (0x0027, sftKey 5 1), (0x0028, sftKey 5 0),
    (0x0029, sftKey 4 1), (0x002a, sftKey 3 5), (0x002b, sftKey 3 4),
    (0x002c, setKey 4 7), (0x002d, setKey 3 1), (0x002e, setKey 3 7),
    (0x002f, setKey 3 6), (0x0030, setKey 4 0), (0x0031, setKey 8 0),
    (0x0032, setKey 8 1), (0x0033, setKey 7 1), (0x0034, setKey 7 0),
    (0x0035, setKey 6 1), (0x0036, setKey 6 0), (0x0037, setKey 5 1),
    (0x0038, setKey 5 0), (0x0039, setKey 4 1), (0x003a, setKey 3 5),
    (0x003b, setKey 3 4), (0x003c, sftKey 4 7), (0x003d, sftKey 3 1),
    (0x003e, sftKey 3 7), (0x003f, sftKey 3 6), (0x0040, setKey 3 2),
    (0x0041, sftKey 8 5), (0x0042, sftKey 6 6), (0x0043, sftKey 7 6),
    (0x0044, sftKey 7 5), (0x0045, sftKey 7 2), (0x0046, sftKey 6 5),
    (0x0047, sftKey 6 4), (0x0048, sftKey 5 4), (0x0049, sftKey 4 3),
    (0x004a, sftKey 5 5), (0x004b, sftKey 4 5), (0x004c, sftKey 4 4),
    (0x004d, sftKey 4 6), (0x004e, sftKey 5 6), (0x004f, sftKey 4 2),
    (0x0050, sftKey 3 3), (0x0051, sftKey 8 3), (0x0052, sftKey 6 2),
    (0x0053, sftKey 7 4), (0x0054, sftKey 6 3), (0x0055, sftKey 5 2),
    (0x0056, sftKey 6 7), (0x0057, sftKey 7 3), (0x0058, sftKey 7 7),
    (0x0059, sftKey 5 3), (0x005a, sftKey 8 7), (0x005b, setKey 2 1),
    (0x005c, setKey 2 6), (0x005d, setKey 2 3), (0x005e, setKey 3 0),
    (0x005f, sftKey 4 0), (0x0060, sftKey 2 6), (0x0061, setKey 8 5),
    (0x0062, setKey 6 6), (0x0063, setKey 7 6), (0x0064, setKey 7 5),
    (0x0065, setKey 7 2), (0x0066, setKey 6 5), (0x0067, setKey 6 4),
    (0x0068, setKey 5 4), (0x0069, setKey 4 3), (0x006a, setKey 5 5),
    (0x006b, setKey 4 5), (0x006c, setKey 4 4), (0x006d, setKey 4 6),
    (0x006e, setKey 5 6), (0x006f, setKey 4 2), (0x0070, setKey 3 3),
    (0x0071, setKey 8 3), (0x0072, setKey 6 2), (0x0073, setKey 7 4),
    (0x0074, setKey 6 3), (0x0075, setKey 5 2), (0x0076, setKey 6 7),
    (0x0077, setKey 7 3), (0x0078, setKey 7 7), (0x0079, setKey 5 3),
    (0x007a, setKey 8 7), (0x007b, sftKey 2 1), (0x007c, sftKey 3 2),
    (0x007d, sftKey 2 3), (0x007e, extKey 8 1), (0x00a3, sftKey 3 0)]

/-- The keysyms of page 0xfe in `decode_english`: the dead grave, circumflex
and tilde. -/
def englishDead : List (Nat × Key) :=
  [(0xfe50, sftKey 2 6), (0xfe52, setKey 3 0), (0xfe53, extKey 8 1)]

/-- The keysyms of page 0x00 in `decode_french`. The pound sign 0x00a3 is a
case without a key there. -/
def frenchLatin : List (Nat × Key) :=
  [(0x0020, setKey 5 7), (0x0021, setKey 5 0), (0x0022, setKey 7 1),
    (0x0023, setKey 2 3), (0x0024, setKey 2 6), (0x0025, sftKey 3 4),
    (0x0026, setKey 8 0), (0x0027, setKey 7 0), (0x0028, setKey 6 1),
    (0x0029, setKey 3 1), (0x002a, setKey 2 1), (0x002b, sftKey 3 6),
    (0x002c, setKey 4 6), (0x002d, setKey 3 0), (0x002e, sftKey 4 7),
    (0x002f, sftKey 3 7), (0x0030, sftKey 4 0), (0x0031, sftKey 8 0),
    (0x0032, sftKey 8 1), (0x0033, sftKey 7 1), (0x0034, sftKey 7 0),
    (0x0035, sftKey 6 1), (0x0036, sftKey 6 0), (0x0037, sftKey 5 1),
    (0x0038, sftKey 5 0), (0x0039, sftKey 4 1), (0x003a, setKey 3 7),
    (0x003b, setKey 4 7), (0x003c, sftKey 2 1), (0x003d, setKey 3 6),
    (0x003e, sftKey 2 3), (0x003f, sftKey 4 6), (0x0040, sftKey 2 6),
    (0x0041, sftKey 8 3), (0x0042, sftKey 6 6), (0x0043, sftKey 7 6),
    (0x0044, sftKey 7 5), (0x0045, sftKey 7 2), (0x0046, sftKey 6 5),
    (0x0047, sftKey 6 4), (0x0048, sftKey 5 4), (0x0049, sftKey 4 3),
    (0x004a, sftKey 5 5), (0x004b, sftKey 4 5), (0x004c, sftKey 4 4),
    (0x004d, sftKey 3 5), (0x004e, sftKey 5 6), (0x004f, sftKey 4 2),
    (0x0050, sftKey 3 3), (0x0051, sftKey 8 5), (0x0052, sftKey 6 2),
    (0x0053, sftKey 7 4), (0x0054, sftKey 6 3), (0x0055, sftKey 5 2),
    (0x0056, sftKey 6 7), (0x0057, sftKey 8 7), (0x0058, sftKey 7 7),
    (0x0059, sftKey 5 3), (0x005a, sftKey 7 3), (0x005b, sftKey 3 1),
    (0x005c, extKey 2 6), (0x005d, setKey 6 0), (0x005e, setKey 3 2),
    (0x005f, sftKey 3 0), (0x0060, setKey 5 1), (0x0061, setKey 8 3),
    (0x0062, setKey 6 6), (0x0063, setKey 7 6), (0x0064, setKey 7 5),
    (0x0065, setKey 7 2), (0x0066, setKey 6 5), (0x0067, setKey 6 4),
    (0x0068, setKey 5 4), (0x0069, setKey 4 3), (0x006a, setKey 5 5),
    (0x006b, setKey 4 5), (0x006c, setKey 4 4), (0x006d, setKey 3 5),
    (0x006e, setKey 5 6), (0x006f, setKey 4 2), (0x0070, setKey 3 3),
    (0x0071, setKey 8 5), (0x0072, setKey 6 2), (0x0073, setKey 7 4),
    (0x0074, setKey 6 3), (0x0075, setKey 5 2), (0x0076, setKey 6 7),
    (0x0077, setKey 8 7), (0x0078, setKey 7 7), (0x0079, setKey 5 3),
    (0x007a, setKey 7 3), (0x007b, setKey 8 1), (0x007c, sftKey 3 2),
    (0x007d, setKey 5 1), (0x007e, extKey 8 1)]

/-- The keysyms of page 0xfe in `decode_french`. -/
def frenchDead : List (Nat × Key) :=
  [(0xfe50, setKey 5 1), (0xfe52, setKey 3 2), (0xfe53, extKey 8 1)]

/-- The keysyms of page 0xff, the same in both. -/
def functionKeys : List (Nat × Key) :=
  [ -- BackSpace, Tab, Return, Escape, Delete
    (0xff08, setKey 9 7), (0xff09, setKey 8 4), (0xff0d, setKey 2 2),
    (0xff1b, setKey 8 2), (0xffff, setKey 2 0),
    -- Left, Up, Right, Down
    (0xff51, setKey 1 0), (0xff52, setKey 0 0), (0xff53, setKey 0 1),
    (0xff54, setKey 0 2),
    -- KP_Space, KP_Tab, KP_Enter
    (0xff80, setKey 5 7), (0xff89, setKey 8 4), (0xff8d, setKey 0 6),
    -- KP_Left, KP_Up, KP_Right, KP_Down
    (0xff96, setKey 9 2), (0xff97, setKey 9 0), (0xff98, setKey 9 3),
    (0xff99, setKey 9 1),
    -- KP_Insert, KP_Delete, KP_Decimal
    (0xff9e, setKey 9 5), (0xff9f, setKey 9 4), (0xffae, setKey 0 7),
    -- KP_0 to KP_9
    (0xffb0, setKey 1 7), (0xffb1, setKey 1 5), (0xffb2, setKey 1 6),
    (0xffb3, setKey 0 5), (0xffb4, setKey 2 4), (0xffb5, setKey 1 4),
    (0xffb6, setKey 0 4), (0xffb7, setKey 1 2), (0xffb8, setKey 1 3),
    (0xffb9, setKey 0 3),
    -- Shift_L, Control_L, Alt_L, Caps_Lock
    (0xffe1, setKey 2 5), (0xffe3, setKey 2 7), (0xffe9, setKey 1 1),
    (0xffe5, setKey 8 6)]

/-- The three local variables that a decoder fills in. -/
structure Decoded where
  line : Byte
  data : Byte
  mods : Byte
deriving DecidableEq, Repr

/-- The body of `SET_KEY`, `SFT_KEY` and `EXT_KEY`. -/
def Key.decode (k : Key) (d : Decoded) : Decoded :=
  ⟨k.line, k.data, (d.mods &&& ~~~0x03) ||| k.mods⟩

/-- The key of a keysym: `keypag`, its high bytes, chooses the table. -/
def keyOf (latin dead : List (Nat × Key)) (keysym : Nat) : Option Key :=
  let keypag := keysym >>> 8
  if keypag = 0x00 then latin.lookup keysym
  else if keypag = 0xfe then dead.lookup keysym
  else if keypag = 0xff then functionKeys.lookup keysym
  else none

/-- A keysym that no case of the switch names leaves the variables as they
are. -/
def decodeKey : Option Key → Decoded → Decoded
  | some k, d => k.decode d
  | none, d => d

variable {κ : Type}

/-- `decode_english` -/
def decodeEnglish (lookup : Lookup κ) (event : XKeyEvent κ) (d : Decoded) :
    Decoded :=
  decodeKey (keyOf englishLatin englishDead
    (lookup event.keycode event.shift event.control)) d

/-- `decode_french` -/
def decodeFrench (lookup : Lookup κ) (event : XKeyEvent κ) (d : Decoded) :
    Decoded :=
  decodeKey (keyOf frenchLatin frenchDead
    (lookup event.keycode event.shift event.control)) d

/-- The switch over `keyboard_type`. -/
def decode (type : KeyboardType) (lookup : Lookup κ) (event : XKeyEvent κ)
    (d : Decoded) : Decoded :=
  match type with
  | .english => decodeEnglish lookup event d
  | .french => decodeFrench lookup event d
  | _ => decodeEnglish lookup event d

/-- `keys[line] &= ~data` -/
def State.pull (s : State) (line data : Byte) : State :=
  { s with keys := fun row =>
      if row.val = line.toNat then s.keys row &&& ~~~data else s.keys row }

/-- `keys[line] |= data` -/
def State.letUp (s : State) (line data : Byte) : State :=
  { s with keys := fun row =>
      if row.val = line.toNat then s.keys row ||| data else s.keys row }

/-- `keys[0x0f] = ~mods` -/
def State.setMods (s : State) (mods : Byte) : State :=
  { s with keys := Function.update s.keys 0x0f (~~~mods) }

/-- `on_key_press` -/
def onKeyPress (type : KeyboardType) (lookup : Lookup κ) (s : State)
    (event : XKeyEvent κ) : State :=
  let d := decode type lookup event ⟨0xff, 0x00, ~~~(s.keys 0x0f)⟩
  if d.line ≤ 0x0f ∧ d.data ≠ 0x00 then
    let s := if d.mods &&& 0x01 ≠ 0 then s.pull 2 0x20 else s
    let s := if d.mods &&& 0x02 ≠ 0 then s.pull 2 0x80 else s
    (s.pull d.line d.data).setMods d.mods
  else
    s

/-- `on_key_release` -/
def onKeyRelease (type : KeyboardType) (lookup : Lookup κ) (s : State)
    (event : XKeyEvent κ) : State :=
  let d := decode type lookup event ⟨0xff, 0x00, ~~~(s.keys 0x0f)⟩
  if d.line ≤ 0x0f ∧ d.data ≠ 0x00 then
    let s := if d.mods &&& 0x01 ≠ 0 then s.letUp 2 0x20 else s
    let s := if d.mods &&& 0x02 ≠ 0 then s.letUp 2 0x80 else s
    (s.letUp d.line d.data).setMods d.mods
  else
    s

/-- A key event of the display. -/
inductive KeyEvent (κ : Type) where
  | press (event : XKeyEvent κ)
  | release (event : XKeyEvent κ)
deriving DecidableEq, Repr

/-- What the mainboard calls on a key event. -/
def onKey (type : KeyboardType) (lookup : Lookup κ) (s : State) :
    KeyEvent κ → State
  | .press event => onKeyPress type lookup s event
  | .release event => onKeyRelease type lookup s event

end Xcpc.Kbd
