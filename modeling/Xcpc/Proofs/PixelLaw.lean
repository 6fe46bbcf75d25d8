import Xcpc.Proofs.LineCoverage

/-!
# The pixels of the screen

What a pixel of the image shows is a matter of where it is: the raster line and
the character tell the byte of the screen memory, and the place in the byte
tells the bits of the pen. The renderers find the pen by shifting a byte that a
table has scrambled, and the address by masks, with the bank and the
displacement apart.

The four of them agree on the first line of each pair. On the second they show
the other pixel of the same color, but for the one that draws a color alike on
both.
-/

namespace Xcpc.Cpc.Render

open Sna (Bank)
open Vga (Scanline)

/-- The bits of a byte at some positions, the lowest first. -/
def bitsAt (byte : Byte) : List Nat → Nat
  | [] => 0
  | i :: is => (byte.getLsbD i).toNat + 2 * bitsAt byte is

/-- The pen of the pixel `j` of a byte. -/
def pen (mode : Nat) (byte : Byte) (j : Nat) : Nat :=
  match mode with
  | 0 => bitsAt byte [7 - j / 4, 3 - j / 4, 5 - j / 4, 1 - j / 4]
  | 1 => bitsAt byte [7 - j / 2, 3 - j / 2]
  | _ => bitsAt byte [7 - j]

/-- The address of a byte of a character. -/
def screenAddress (address ras col b : Nat) : Nat :=
  ((address &&& 0x3000) <<< 2) ||| ((ras &&& 7) <<< 11) |||
    (((address + col) &&& 0x3ff) <<< 1) ||| b

/-- A byte of the base memory, which is the first four banks. -/
def baseByte (ram : Fin 8 → Bank) (addr : Word) : Byte :=
  ram ((Board.page addr).toFin.castLE (Nat.le_add_right 4 4))
    (Board.offset addr)

/-! ## Inks -/

theorem inks_getElem? (m : Mode) {n p : Nat} (hp : p < n) (byte : Byte) :
    (m.inks n byte)[p]? =
      some (Fin.ofNat 17 ((byte >>> (m.shift * p)) &&& m.mask).toNat) := by
  induction n generalizing byte p with
  | zero => exact absurd hp (Nat.not_lt_zero p)
  | succ n ih =>
      rw [Mode.inks]
      cases p with
      | zero => rfl
      | succ p =>
          rw [List.getElem?_cons_succ, ih (Nat.lt_of_succ_lt_succ hp),
            ← BitVec.shiftRight_add, Nat.mul_succ, Nat.add_comm]

theorem table0_bits : ∀ byte : Byte, ∀ p : Fin 2,
    ((table0 byte >>> (4 * p.val)) &&& 0x0f).toNat =
      bitsAt byte [7 - p, 3 - p, 5 - p, 1 - p] := by
  decide +kernel

theorem table1_bits : ∀ byte : Byte, ∀ p : Fin 4,
    ((table1 byte >>> (2 * p.val)) &&& 0x03).toNat =
      bitsAt byte [7 - p, 3 - p] := by
  decide +kernel

theorem table2_bits : ∀ byte : Byte, ∀ p : Fin 8,
    ((table2 byte >>> (1 * p.val)) &&& 0x01).toNat = bitsAt byte [7 - p] := by
  decide +kernel

section

variable {β : Type} (f : Format β)

/-- The pixel `j` of a byte is that of the ink `j / width`. -/
theorem drawByte_ink {m : Mode} (hw : m.pixels * m.width = 8) (line : Scanline)
    (byte : Byte) {j : Nat} (hj : j < 8) :
    (drawByte f m line byte)[j]? = some (f.pair (line.color (Fin.ofNat 17
      ((m.table byte >>> (m.shift * (j / m.width))) &&& m.mask).toNat))) := by
  have hpos : 0 < m.width := by
    refine Nat.pos_of_ne_zero fun h0 => ?_
    rw [h0] at hw
    omega
  have hp : j / m.width < m.pixels := by
    rw [Nat.div_lt_iff_lt_mul hpos, hw]
    exact hj
  have hsplit : j = m.width * (j / m.width) + j % m.width :=
    (Nat.div_add_mod j m.width).symm
  rw [drawByte]
  conv_lhs => rw [hsplit]
  rw [getElem?_flatMap_const (fun _ => List.length_replicate) _ _
    (Nat.mod_lt j hpos), inks_getElem? m hp, Option.bind_some,
    List.getElem?_replicate, if_pos (Nat.mod_lt j hpos)]

/-- In every mode that is drawn a pixel shows its pen. -/
theorem drawByte_pen {mode : Byte} {m : Mode} (h : modeOf mode = some m)
    (line : Scanline) (byte : Byte) {j : Nat} (hj : j < 8) :
    (drawByte f m line byte)[j]? =
      some (f.pair (line.color (Fin.ofNat 17 (pen mode.toNat byte j)))) := by
  rw [drawByte_ink f (modeOf_width h) line byte hj]
  refine congrArg (fun p => some (f.pair (line.color (Fin.ofNat 17 p)))) ?_
  unfold modeOf at h
  split at h
  · rename_i h0
    cases h
    rw [h0]
    exact table0_bits byte ⟨j / 4, by omega⟩
  · rename_i h1
    cases h
    rw [h1]
    exact table1_bits byte ⟨j / 2, by omega⟩
  · rename_i h2
    cases h
    have hone : j / mode2.width = j := Nat.div_one j
    rw [h2, hone]
    exact table2_bits byte ⟨j, hj⟩
  · cases h

end

theorem ofNat_screenAddress (address ras col b : Nat) :
    BitVec.ofNat 16 (screenAddress address ras col b) =
      charAddress (BitVec.ofNat 32 address) ras col ||| BitVec.ofNat 16 b := by
  unfold charAddress screenAddress
  rw [← BitVec.ofNat_add]
  refine BitVec.eq_of_getLsbD_eq fun i hi => ?_
  have h32 : i < 32 := by omega
  have h1 : i - 1 < 32 := by omega
  have h2 : i - 2 < 32 := by omega
  have h11 : i - 11 < 32 := by omega
  simp only [BitVec.ofNat_eq_ofNat, ge_iff_le, ← Nat.not_lt, decide_not,
    BitVec.getLsbD_ofNat, BitVec.getLsbD_or, BitVec.getLsbD_setWidth,
    BitVec.getLsbD_shiftLeft, BitVec.getLsbD_and, Nat.testBit_or,
    Nat.testBit_shiftLeft, Nat.testBit_and, hi, h32, h1, h2, h11, decide_true,
    Bool.true_and]

/-- The second byte of a character is next to the first, in the same bank. -/
theorem screenByte_eq (ram : Fin 8 → Bank) (addr : Word) (b : Fin 2) :
    screenByte ram addr (BitVec.ofNat 14 b) =
      baseByte ram (addr ||| BitVec.ofNat 16 b) := by
  have hp : ∀ b : Fin 2, Board.page (BitVec.ofNat 16 b) = 0 := by decide
  have ho : ∀ b : Fin 2,
      Board.offset (BitVec.ofNat 16 b) = BitVec.ofNat 14 b := by decide
  have hpage : Board.page (addr ||| BitVec.ofNat 16 b) = Board.page addr := by
    rw [Board.page, BitVec.extractLsb'_or]
    exact (congrArg _ (hp b)).trans BitVec.or_zero
  have hoffset : Board.offset (addr ||| BitVec.ofNat 16 b) =
      Board.offset addr ||| BitVec.ofNat 14 b := by
    rw [Board.offset, BitVec.extractLsb'_or]
    exact congrArg _ (ho b)
  rw [screenByte, baseByte, hpage, hoffset]

/-! ## Lines -/

section

variable {β : Type} (f : Format β) (regs : Fin 18 → Byte)

/-- The characters that the registers display are drawn when the sync position
comes after them. -/
theorem columns_eq (hd : charsDisplayed regs ≤ charsSync regs) :
    columns (horzProps regs) = List.range (charsDisplayed regs) := by
  have hhd : (horzProps regs).hd.toNat = charsDisplayed regs :=
    displayed_eq regs
  rw [columns, hhd, List.takeWhile_eq_self_iff]
  intro col hcol
  have hcol := List.mem_range.1 hcol
  rw [hsp_eq]
  exact decide_eq_true (by omega)

/-- A pixel of a character. -/
theorem drawChar_pen {m : Mode} {line : Scanline}
    (h : modeOf line.mode = some m) (ram : Fin 8 → Bank) (addr : Word)
    (b : Fin 2) {j : Nat} (hj : j < 8) :
    (drawChar f m line ram addr)[8 * b.val + j]? =
      some (f.pair (line.color (Fin.ofNat 17 (pen line.mode.toNat
        (baseByte ram (addr ||| BitVec.ofNat 16 b)) j)))) := by
  have hlen : (drawByte f m line (screenByte ram addr 0)).length = 8 := by
    rw [length_drawByte, modeOf_width h]
  rw [← screenByte_eq, ← drawByte_pen f h line _ hj, drawChar]
  rcases b with ⟨_ | _ | b, hb⟩
  · have hlt : 8 * 0 + j <
        (drawByte f m line (screenByte ram addr 0)).length := by
      omega
    rw [List.getElem?_append_left hlt, Nat.mul_zero, Nat.zero_add]
    rfl
  · have hle : (drawByte f m line (screenByte ram addr 0)).length ≤ 8 + j := by
      omega
    show (_ ++ _)[8 + j]? = _
    rw [List.getElem?_append_right hle, hlen, Nat.add_sub_cancel_left]
    rfl
  · omega

/-- A line of the display, pixel by pixel. -/
theorem displayLine_pen {line : Scanline} (hmode : line.mode.toNat ≤ 2)
    (hd : charsDisplayed regs ≤ charsSync regs) (ram : Fin 8 → Bank)
    (start n : Nat) {col : Nat} (hcol : col < charsDisplayed regs)
    (b : Fin 2) {j : Nat} (hj : j < 8) :
    (displayLine f regs ram start n line)[
        16 * (charsTotal regs - charsSync regs) + 16 * col + 8 * b.val + j]? =
      some (f.pair (line.color (Fin.ofNat 17 (pen line.mode.toNat (baseByte ram
        (BitVec.ofNat 16 (screenAddress (start + n / rowLines regs *
          displayed regs) (n % rowLines regs) col b))) j)))) := by
  have hsome := modeOf_isSome line.mode
  rw [decide_eq_true hmode] at hsome
  obtain ⟨m, hm⟩ := Option.isSome_iff_exists.1 hsome
  have hi : 8 * b.val + j < 16 := by omega
  have hchars := getElem?_flatMap_const (g := fun col => drawChar f m line ram
    (charAddress (BitVec.ofNat 32 (start + n / rowLines regs * displayed regs))
      (n % rowLines regs) col)) (fun _ => length_drawChar f hm line ram _)
    (columns (horzProps regs)) col hi
  rw [columns_eq regs hd, List.getElem?_range hcol, Option.bind_some,
    drawChar_pen f hm ram _ b hj, ← ofNat_screenAddress] at hchars
  have hleft : (drawBorder f line (borders regs).lft).length =
      16 * (charsTotal regs - charsSync regs) := by
    rw [drawBorder, List.length_replicate, lft_eq]
  have hindex : 16 * (charsTotal regs - charsSync regs) + 16 * col +
      8 * b.val + j - 16 * (charsTotal regs - charsSync regs) =
        16 * col + (8 * b.val + j) := by omega
  simp only [displayLine, drawActive, hm, columns_eq regs hd]
  rw [List.append_assoc, List.getElem?_append_right (by omega), hleft, hindex,
    List.getElem?_append_left ?_, hchars]
  rw [length_flatMap_const fun _ => length_drawChar f hm line ram _,
    List.length_range]
  omega

/-- The borders of a line of the display. -/
theorem displayLine_border {line : Scanline} (hmode : line.mode.toNat ≤ 2)
    (hd : charsDisplayed regs ≤ charsSync regs)
    (hsync : charsSync regs ≤ charsTotal regs) (ram : Fin 8 → Bank)
    (start n : Nat) {x : Nat} (hx : x < 16 * charsTotal regs)
    (hout : x < 16 * (charsTotal regs - charsSync regs) ∨
      16 * (charsTotal regs - charsSync regs) + 16 * charsDisplayed regs ≤ x) :
    (displayLine f regs ram start n line)[x]? =
      some (f.pair (line.color 16)) := by
  obtain ⟨active, hlen, hparts⟩ := displayLine_parts f regs ram start n line
  rw [if_pos hmode, Nat.min_eq_left hd] at hlen
  rw [hparts]
  rcases hout with hleft | hright
  · rw [List.append_assoc, List.getElem?_append_left
      (by rw [List.length_replicate]; exact hleft), List.getElem?_replicate,
      if_pos hleft]
  · have hl : (List.replicate (16 * (charsTotal regs - charsSync regs))
        (f.pair (line.color 16)) ++ active).length =
          16 * (charsTotal regs - charsSync regs) +
            16 * charsDisplayed regs := by
      rw [List.length_append, List.length_replicate, hlen]
    rw [List.getElem?_append_right (by omega), List.getElem?_replicate,
      if_pos (by omega)]

end

/-! ## Frames -/

/-- The lines above the display. -/
def screenTop (regs : Fin 18 → Byte) : Nat :=
  ((1 + min (regs 4).toNat 40 - (regs 7).toNat : Int) *
    ((regs 9).toNat + 1) + (regs 5).toNat).toNat

/-- The address of the first character. -/
def screenStart (regs : Fin 18 → Byte) : Nat :=
  256 * (regs 12).toNat + (regs 13).toNat

/-- The pixels of the screen on an image. `ink` is what a color becomes on the
two lines of a pair. -/
def PixelLaw {β : Type} (ink : Vga.Color → β × β) (s : Vga.State)
    (regs : Fin 18 → Byte) (ram : Fin 8 → Bank) (c : Canvas β) : Prop :=
  ∀ r < min (regs 6).toNat 40, ∀ a < (regs 9).toNat + 1,
    let k := screenTop regs + r * ((regs 9).toNat + 1) + a
    k < 384 →
    let line := entry s k
    let left := 16 * (charsTotal regs - charsSync regs)
    ∃ even odd, c.lines[2 * k]? = some even ∧
      c.lines[2 * k + 1]? = some odd ∧
      (∀ col < charsDisplayed regs, ∀ b < 2, ∀ j < 8,
        let byte := baseByte ram (BitVec.ofNat 16 (screenAddress
          (screenStart regs + r * charsDisplayed regs) a col b))
        let color := line.color (Fin.ofNat 17 (pen line.mode.toNat byte j))
        even[left + 16 * col + 8 * b + j]? = some (ink color).1 ∧
          odd[left + 16 * col + 8 * b + j]? = some (ink color).2) ∧
      ∀ x < 16 * charsTotal regs,
        (x < left ∨ left + 16 * charsDisplayed regs ≤ x) →
        even[x]? = some (ink (line.color 16)).1 ∧
          odd[x]? = some (ink (line.color 16)).2

theorem topLines_eq (regs : Fin 18 → Byte) :
    topLines regs = screenTop regs := by
  have hvt : (vertProps regs).vt = 1 + min (regs 4).toNat 40 := by
    simp only [vertProps, reg]
    omega
  have hvsp : (vertProps regs).vsp = (regs 7).toNat := Int.zero_add _
  have hch : (vertProps regs).ch = (regs 9).toNat + 1 := Int.add_comm _ _
  show (((vertProps regs).vt - (vertProps regs).vsp) * (vertProps regs).ch +
    (regs 5).toNat).toNat = _
  rw [hvt, hvsp, hch, screenTop]

theorem rowLines_eq (regs : Fin 18 → Byte) :
    rowLines regs = (regs 9).toNat + 1 := by
  simp only [rowLines, vertProps, reg]
  omega

theorem displayLines_eq (regs : Fin 18 → Byte) :
    displayLines regs = min (regs 6).toNat 40 * ((regs 9).toNat + 1) := by
  have hvd : (vertProps regs).vd.toNat = min (regs 6).toNat 40 := by
    simp only [vertProps, reg]
    omega
  rw [displayLines, rowLines_eq, hvd]

theorem startAddress_eq (regs : Fin 18 → Byte) :
    (startAddress regs).toNat = screenStart regs := by
  have h12 := (regs 12).isLt
  have h13 := (regs 13).isLt
  rw [startAddress, BitVec.toNat_or, BitVec.toNat_shiftLeft,
    BitVec.toNat_setWidth, BitVec.toNat_setWidth,
    Nat.mod_eq_of_lt (by omega : (regs 12).toNat < 2 ^ 32),
    Nat.mod_eq_of_lt (by omega : (regs 13).toNat < 2 ^ 32),
    Nat.mod_eq_of_lt (by rw [Nat.shiftLeft_eq]; omega),
    ← Nat.shiftLeft_add_eq_or_of_lt h13, Nat.shiftLeft_eq, screenStart]
  omega

theorem render_pixelLaw {β : Type} (f : Format β) (s : Vga.State)
    (regs : Fin 18 → Byte) (ram : Fin 8 → Bank)
    (hd : charsDisplayed regs ≤ charsSync regs)
    (hsync : charsSync regs ≤ charsTotal regs)
    (hmode : ∀ k, (s.scanline k).mode.toNat ≤ 2) :
    PixelLaw f.pair s regs ram (render f s regs ram 768) := by
  intro r hr a ha k hk line left
  have hmode : line.mode.toNat ≤ 2 := by
    show (entry s k).mode.toNat ≤ 2
    rw [entry, dif_pos (by omega)]
    exact hmode _
  have hrow : r * rowLines regs + a < displayLines regs := by
    rw [displayLines_eq, rowLines_eq]
    have hle := Nat.mul_le_mul_right ((regs 9).toNat + 1) (Nat.succ_le_of_lt hr)
    rw [Nat.succ_mul] at hle
    omega
  have hk' : k = topLines regs + (r * rowLines regs + a) := by
    rw [topLines_eq, rowLines_eq, ← Nat.add_assoc]
  have hdisplay : Displayed regs k :=
    (displayed_iff regs).2 ⟨by omega, by omega, hk⟩
  have hpair := pairs_getElem? f s regs ram k
  rw [if_pos (by rw [frameLines]; omega),
    linePair_display f s regs ram hdisplay,
    hk', Nat.add_sub_cancel_left, startAddress_eq, ← hk'] at hpair
  rw [← rowLines_eq] at ha
  have hdiv : (r * rowLines regs + a) / rowLines regs = r := by
    rw [Nat.mul_comm, Nat.mul_add_div (rowLines_pos regs), Nat.div_eq_of_lt ha,
      Nat.add_zero]
  have hmod : (r * rowLines regs + a) % rowLines regs = a := by
    rw [Nat.mul_comm, Nat.mul_add_mod, Nat.mod_eq_of_lt ha]
  refine ⟨_, _, (lines_even _ k).trans (congrArg _ hpair),
    (lines_odd _ k).trans (congrArg _ hpair), ?_, ?_⟩
  · intro col hcol b hb j hj byte color
    have hpen := displayLine_pen f regs hmode hd ram (screenStart regs)
      (r * rowLines regs + a) hcol ⟨b, hb⟩ hj
    rw [hdiv, hmod, displayed_eq] at hpen
    rw [List.getElem?_map, List.getElem?_map, hpen]
    exact ⟨rfl, rfl⟩
  · intro x hx hout
    have hborder := displayLine_border f regs hmode hd hsync ram
      (screenStart regs) (r * rowLines regs + a) hx hout
    rw [List.getElem?_map, List.getElem?_map, hborder]
    exact ⟨rfl, rfl⟩

/-- The four renderers draw the same screen. On the second line of a pair three
of them show the other pixel of a color. -/
theorem renderers_pixelLaw (s : Vga.State) (regs : Fin 18 → Byte)
    (ram : Fin 8 → Bank) (hd : charsDisplayed regs ≤ charsSync regs)
    (hsync : charsSync regs ≤ charsTotal regs)
    (hmode : ∀ k, (s.scanline k).mode.toNat ≤ 2) :
    PixelLaw (fun c => (c.pixel0.setWidth 8, c.pixel1.setWidth 8)) s regs ram
        (render08bpp s regs ram 768) ∧
      PixelLaw (fun c => (c.pixel0.setWidth 16, c.pixel1.setWidth 16)) s regs
        ram (render16bpp s regs ram 768) ∧
      PixelLaw (fun c => (c.pixel0, c.pixel1)) s regs ram
        (render32bpp s regs ram 768) ∧
      PixelLaw (fun c => (c.pixel0, c.pixel0)) s regs ram
        (renderRgba s regs ram 768) :=
  ⟨render_pixelLaw _ s regs ram hd hsync hmode,
    render_pixelLaw _ s regs ram hd hsync hmode,
    render_pixelLaw _ s regs ram hd hsync hmode,
    render_pixelLaw _ s regs ram hd hsync hmode⟩

/-- Lines of the three modes in turn, where the color of a pen shows the pen. -/
def stripes : Vga.State :=
  { (Board.blank .k64).vga with
    scanline := fun k => ⟨BitVec.ofNat 8 (k.val % 3), fun i =>
      ⟨BitVec.ofNat 8 i.val, BitVec.ofNat 32 (0x100 + i.val),
        BitVec.ofNat 32 (0x200 + i.val)⟩⟩ }

/-- A memory that has other bytes in other places. -/
def pattern : Fin 8 → Bank := fun _ o => o.setWidth 8 ^^^ 0x1b

/-- The screen of the reset registers. The second line of the display is of
mode 1, and the second byte of its third character is `1e`, of which the first
pixels show the pen 2 and the last ones the pen 1. -/
theorem stripes_pixelLaw :
    PixelLaw (fun c => (c.pixel0, c.pixel1)) stripes Vdc.resetRegs pattern
        (render32bpp stripes Vdc.resetRegs pattern 768) ∧
      ∃ even odd,
        (render32bpp stripes Vdc.resetRegs pattern 768).lines[146]? =
            some even ∧
          (render32bpp stripes Vdc.resetRegs pattern 768).lines[147]? =
            some odd ∧
          (even[328]? = some 0x102 ∧ odd[328]? = some 0x202) ∧
          (even[334]? = some 0x101 ∧ odd[334]? = some 0x201) ∧
          even[0]? = some 0x110 ∧ odd[0]? = some 0x210 := by
  have hmode (k : Fin 576) : (stripes.scanline k).mode.toNat ≤ 2 := by
    show (BitVec.ofNat 8 (k.val % 3)).toNat ≤ 2
    rw [BitVec.toNat_ofNat]
    omega
  obtain ⟨-, -, hlaw, -⟩ := renderers_pixelLaw stripes Vdc.resetRegs pattern
    (by decide) (by decide) hmode
  obtain ⟨even, odd, heven, hodd, hpixel, hborder⟩ :=
    hlaw 0 (by decide) 1 (by decide) (by decide)
  exact ⟨hlaw, even, odd, heven, hodd,
    hpixel 2 (by decide) 1 (by decide) 0 (by decide),
    hpixel 2 (by decide) 1 (by decide) 6 (by decide),
    hborder 0 (by decide) (by decide)⟩

end Xcpc.Cpc.Render
