import Xcpc.Cpc.Board

/-!
# The renderers

`Mainboard::render_08bpp`, `render_16bpp`, `render_32bpp` and `render_rgba`
draw a frame from the scanlines that the gate array has latched. They are one
function at four pixel formats: a top border, the active display between a
left and a right border, and a bottom border. Every line of the display is
drawn on two lines of the image.

The source advances two pointers along a pair of image lines, and takes the
lines from the height of the image. Nothing bounds the pointers by the width.
The canvas here keeps the pixels of each pair as they are written, the pairs
in order, and the scanline entries that were read.
-/

namespace Xcpc.Cpc.Render

open Sna (Bank)
open Vga (Scanline)

/-- `HorzProps`, without the sync width that nothing draws. -/
structure HorzProps where
  cw : Int
  ht : Int
  hd : Int
  hsp : Int

/-- `VertProps`, without the sync width that nothing draws. -/
structure VertProps where
  ch : Int
  vt : Int
  vd : Int
  vsp : Int

structure Borders where
  top : Int
  bot : Int
  lft : Int
  rgt : Int

/-- A register as an `int`. -/
def reg (regs : Fin 18 → Byte) (i : Fin 18) : Int := (regs i).toNat

def horzProps (regs : Fin 18 → Byte) : HorzProps where
  cw := 16
  ht := 1 + (if reg regs 0 < 63 then reg regs 0 else 63)
  hd := 0 + (if reg regs 1 < 52 then reg regs 1 else 52)
  hsp := 0 + reg regs 2

def vertProps (regs : Fin 18 → Byte) : VertProps where
  ch := 1 + reg regs 9
  vt := 1 + (if reg regs 4 < 40 then reg regs 4 else 40)
  vd := 0 + (if reg regs 6 < 40 then reg regs 6 else 40)
  vsp := 0 + reg regs 7

def borders (regs : Fin 18 → Byte) : Borders :=
  let h := horzProps regs
  let v := vertProps regs
  { top := (v.vt - v.vsp) * v.ch + reg regs 5
    bot := (v.vsp - v.vd) * v.ch
    lft := (h.ht - h.hsp) * h.cw
    rgt := (h.hsp - h.hd) * h.cw }

/-- The start address. -/
def startAddress (regs : Fin 18 → Byte) : BitVec 32 :=
  (regs 12).setWidth 32 <<< 8 ||| (regs 13).setWidth 32

/-! ## Pixels -/

/-- What sets the four renderers apart: the pixel that a color value becomes,
and the color value of the odd lines. -/
structure Format (β : Type) where
  pixel : BitVec 32 → β
  odd : Vga.Color → BitVec 32

/-- The pixels of a color on the two lines of a pair. -/
def Format.pair {β : Type} (f : Format β) (color : Vga.Color) : β × β :=
  (f.pixel color.pixel0, f.pixel (f.odd color))

/-- A case of the switch over the mode. A byte goes through the table of the
mode and is shifted out, some bits for each pixel, which is repeated. -/
structure Mode where
  table : Byte → Byte
  pixels : Nat
  mask : Byte
  shift : Nat
  width : Nat

/-- `setup_mode0` -/
def table0 (index : Byte) : Byte :=
  ((index &&& 0x80) >>> 7) ||| ((index &&& 0x08) >>> 2) |||
  ((index &&& 0x20) >>> 3) ||| ((index &&& 0x02) <<< 2) |||
  ((index &&& 0x40) >>> 2) ||| ((index &&& 0x04) <<< 3) |||
  ((index &&& 0x10) <<< 2) ||| ((index &&& 0x01) <<< 7)

/-- `setup_mode1` -/
def table1 (index : Byte) : Byte :=
  ((index &&& 0x80) >>> 7) ||| ((index &&& 0x08) >>> 2) |||
  ((index &&& 0x40) >>> 4) ||| ((index &&& 0x04) <<< 1) |||
  ((index &&& 0x20) >>> 1) ||| ((index &&& 0x02) <<< 4) |||
  ((index &&& 0x10) <<< 2) ||| ((index &&& 0x01) <<< 7)

/-- `setup_mode2` -/
def table2 (index : Byte) : Byte :=
  ((index &&& 0x80) >>> 7) ||| ((index &&& 0x40) >>> 5) |||
  ((index &&& 0x20) >>> 3) ||| ((index &&& 0x10) >>> 1) |||
  ((index &&& 0x08) <<< 1) ||| ((index &&& 0x04) <<< 3) |||
  ((index &&& 0x02) <<< 5) ||| ((index &&& 0x01) <<< 7)

def mode0 : Mode := ⟨table0, 2, 0x0f, 4, 4⟩

def mode1 : Mode := ⟨table1, 4, 0x03, 2, 2⟩

def mode2 : Mode := ⟨table2, 8, 0x01, 1, 1⟩

/-- The switch over `scanline->mode`. Its default only logs. -/
def modeOf (mode : Byte) : Option Mode :=
  match mode.toNat with
  | 0 => some mode0
  | 1 => some mode1
  | 2 => some mode2
  | _ => none

/-- The inks that a byte of `n` pixels shifts out. -/
def Mode.inks (m : Mode) : Nat → Byte → List (Fin 17)
  | 0, _ => []
  | n + 1, byte => Fin.ofNat 17 (byte &&& m.mask).toNat :: m.inks n (byte >>> m.shift)

/-- The address of a character in the screen memory. -/
def charAddress (address : BitVec 32) (ras col : Nat) : Word :=
  (((address &&& 0x3000) <<< 2) |||
    ((BitVec.ofNat 32 ras &&& 0x0007) <<< 11) |||
    (((address + BitVec.ofNat 32 col) &&& 0x03ff) <<< 1)).setWidth 16

/-- `ram[bank][disp | k]`. The banks are the four of the base memory. -/
def screenByte (ram : Fin 8 → Bank) (addr : Word) (k : BitVec 14) : Byte :=
  ram ((Board.page addr).toFin.castLE (by decide)) (Board.offset addr ||| k)

section

variable {β : Type} (f : Format β)

/-- The pixels of a byte of the screen memory. -/
def drawByte (m : Mode) (line : Scanline) (byte : Byte) : List (β × β) :=
  (m.inks m.pixels (m.table byte)).flatMap fun ink =>
    List.replicate m.width (f.pair (line.color ink))

/-- The pixels of a character, which is two bytes. -/
def drawChar (m : Mode) (line : Scanline) (ram : Fin 8 → Bank) (addr : Word) :
    List (β × β) :=
  drawByte f m line (screenByte ram addr 0) ++
    drawByte f m line (screenByte ram addr 1)

/-- The pixels of a border. A border of a negative width is not drawn. -/
def drawBorder (line : Scanline) (cols : Int) : List (β × β) :=
  List.replicate cols.toNat (f.pair (line.color 16))

/-- The columns of the active display, up to the sync position. -/
def columns (h : HorzProps) : List Nat :=
  (List.range h.hd.toNat).takeWhile fun col => decide ((col : Int) < h.hsp)

/-- The pixels of a row of the active display, between its borders. -/
def drawActive (regs : Fin 18 → Byte) (ram : Fin 8 → Bank)
    (address : BitVec 32) (ras : Nat) (line : Scanline) : List (β × β) :=
  let active :=
    match modeOf line.mode with
    | some m => (columns (horzProps regs)).flatMap fun col =>
        drawChar f m line ram (charAddress address ras col)
    | none => []
  drawBorder f line (borders regs).lft ++ active ++
    drawBorder f line (borders regs).rgt

end

/-! ## Frames -/

/-- What has been drawn. `scanline` is the entry that the pointer is at. -/
structure Canvas (β : Type) where
  scanline : Nat
  remaining : Int
  pairs : List (List (β × β))
  reads : List Nat

/-- The image lines, each with the pixels written from its start. -/
def Canvas.lines {β : Type} (c : Canvas β) : List (List β) :=
  c.pairs.flatMap fun pair => [pair.map Prod.fst, pair.map Prod.snd]

/-- A scanline entry. The model reads a blank one past the array. -/
def entry (s : Vga.State) (i : Nat) : Scanline :=
  if h : i < 576 then s.scanline ⟨i, h⟩ else .zero

section

variable {β : Type} (f : Format β) (s : Vga.State)

/-- One turn of the loops over line pairs. -/
def put (draw : Scanline → List (β × β)) (c : Canvas β) : Canvas β where
  scanline := c.scanline + 1
  remaining := c.remaining - 2
  pairs := c.pairs ++ [draw (entry s c.scanline)]
  reads := c.reads ++ [c.scanline]

/-- A loop over `n` line pairs, numbered from `i`. It breaks when the image has
no two lines left. -/
def drawRows (draw : Nat → Scanline → List (β × β)) :
    Nat → Nat → Canvas β → Canvas β
  | _, 0, c => c
  | i, n + 1, c =>
      if c.remaining ≥ 2 then drawRows draw (i + 1) n (put s (draw i) c) else c

/-- A vertical border. -/
def drawVertical (regs : Fin 18 → Byte) (rows : Int) : Canvas β → Canvas β :=
  let h := horzProps regs
  drawRows s (fun _ line => drawBorder f line (h.ht * h.cw)) 0 rows.toNat

/-- The rows of characters. A break leaves the loop over the raster lines of
one row only. -/
def drawDisplay (regs : Fin 18 → Byte) (ram : Fin 8 → Bank) :
    Nat → BitVec 32 → Canvas β → Canvas β
  | 0, _, c => c
  | n + 1, address, c =>
      let ch := (vertProps regs).ch
      drawDisplay regs ram n (address + BitVec.ofInt 32 (horzProps regs).hd)
        (drawRows s (drawActive f regs ram address) 0 ch.toNat c)

/-- A renderer, on an image of the given height. -/
def render (regs : Fin 18 → Byte) (ram : Fin 8 → Bank) (height : Int) :
    Canvas β :=
  let b := borders regs
  let c : Canvas β := ⟨0, height, [], []⟩
  let c := drawVertical f s regs b.top c
  let c := drawDisplay f s regs ram (vertProps regs).vd.toNat
    (startAddress regs) c
  drawVertical f s regs b.bot c

end

/-- `render_08bpp` -/
def render08bpp : Vga.State → (Fin 18 → Byte) → (Fin 8 → Bank) → Int → Canvas Byte :=
  render ⟨fun p => p.setWidth 8, Vga.Color.pixel1⟩

/-- `render_16bpp` -/
def render16bpp : Vga.State → (Fin 18 → Byte) → (Fin 8 → Bank) → Int → Canvas Word :=
  render ⟨fun p => p.setWidth 16, Vga.Color.pixel1⟩

/-- `render_32bpp` -/
def render32bpp :
    Vga.State → (Fin 18 → Byte) → (Fin 8 → Bank) → Int → Canvas (BitVec 32) :=
  render ⟨id, Vga.Color.pixel1⟩

/-- `render_rgba`, which draws the same color on both lines. -/
def renderRgba :
    Vga.State → (Fin 18 → Byte) → (Fin 8 → Bank) → Int → Canvas (BitVec 32) :=
  render ⟨id, Vga.Color.pixel0⟩

end Xcpc.Cpc.Render
