import Xcpc.Cpc.Render

/-!
# The lines of a frame

A renderer draws line pairs in the order of the scanline entries, so the pair
`k` of a frame is a function of the entry `k` and of where `k` falls: in the
top border, in a raster line of a row of characters, or in the bottom border.
The loops stop where the image has no two lines left. They then stop for good,
since nothing gives lines back, even though the break of the inner loop leaves
one row only.
-/

namespace Xcpc.Cpc.Render

open Sna (Bank)
open Vga (Scanline)

/-! ## Canvases -/

/-- A canvas of 768 lines on the way: a scanline entry is read for each pair,
in order, and they share the height. -/
structure Canvas.Regular {β : Type} (c : Canvas β) : Prop where
  scanline : c.scanline = c.pairs.length
  remaining : c.remaining = 768 - 2 * (c.scanline : Int)
  le : c.scanline ≤ 384
  reads : c.reads = List.range c.scanline

/-- `n` line pairs, as far as they fit, come to the canvas. The pair that reads
entry `k` is `g k`. -/
structure Canvas.Fills {β : Type} (g : Nat → List (β × β)) (n : Nat)
    (c c' : Canvas β) : Prop where
  regular : c'.Regular
  scanline : c'.scanline = c.scanline + min n (384 - c.scanline)
  pairs : c'.pairs = c.pairs ++
    (List.range' c.scanline (min n (384 - c.scanline))).map g

namespace Canvas.Fills

variable {β : Type} {g : Nat → List (β × β)} {c c' c'' : Canvas β}

theorem zero (h : c.Regular) : Fills g 0 c c := by
  refine ⟨h, ?_, ?_⟩
  · omega
  · simp

/-- Nothing comes to a full canvas. -/
theorem full (h : c.Regular) (hc : ¬ c.remaining ≥ 2) (n : Nat) :
    Fills g n c c := by
  have hr := h.remaining
  have hs : 384 - c.scanline = 0 := by omega
  refine ⟨h, ?_, ?_⟩
  · omega
  · rw [hs]
    simp

theorem trans {m n : Nat} (h : Fills g m c c') (h' : Fills g n c' c'')
    (hc : c.scanline ≤ 384) : Fills g (m + n) c c'' := by
  have hs := h.scanline
  have hs' := h'.scanline
  have hmin : min (m + n) (384 - c.scanline) =
      min m (384 - c.scanline) + min n (384 - c'.scanline) := by
    omega
  refine ⟨h'.regular, ?_, ?_⟩
  · omega
  · rw [h'.pairs, h.pairs, hmin, List.append_assoc, ← List.map_append, hs,
      List.range'_append_1]

/-- Only the pairs that come count. -/
theorem congr {g' : Nat → List (β × β)} {n : Nat} (h : Fills g n c c')
    (hg : ∀ k, c.scanline ≤ k → k < c.scanline + n → k < 384 → g k = g' k) :
    Fills g' n c c' := by
  refine ⟨h.regular, h.scanline, h.pairs.trans ?_⟩
  refine congrArg _ (List.map_congr_left fun k hk => ?_)
  obtain ⟨hlow, hhigh⟩ := List.mem_range'_1.1 hk
  exact hg k hlow (by omega) (by omega)

end Canvas.Fills

section

variable {β : Type} (s : Vga.State)

theorem put_fills (draw : Scanline → List (β × β)) {c : Canvas β}
    (h : c.Regular) (hc : c.remaining ≥ 2) :
    Canvas.Fills (fun k => draw (entry s k)) 1 c (put s draw c) := by
  have hr := h.remaining
  have hs : c.scanline < 384 := by omega
  have hone : min 1 (384 - c.scanline) = 1 := by omega
  refine ⟨⟨?_, ?_, hs, ?_⟩, ?_, ?_⟩
  · simp only [put, List.length_append, List.length_singleton, h.scanline]
  · simp only [put]
    omega
  · simp only [put, h.reads, List.range_succ]
  · rw [hone]
    rfl
  · rw [hone]
    rfl

theorem drawRows_fills (draw : Nat → Scanline → List (β × β)) (i n : Nat)
    {c : Canvas β} (h : c.Regular) :
    Canvas.Fills (fun k => draw (i + (k - c.scanline)) (entry s k)) n c
      (drawRows s draw i n c) := by
  induction n generalizing i c with
  | zero => exact Canvas.Fills.zero h
  | succ n ih =>
      rw [drawRows]
      split
      · rename_i hc
        have hput := put_fills s (draw i) h hc
        have hrest := ih (i + 1) hput.regular
        rw [Nat.add_comm]
        refine Canvas.Fills.trans (hput.congr fun k hlow hhigh _ => ?_)
          (hrest.congr fun k hlow _ _ => ?_) h.le
        · have hk : k - c.scanline = 0 := by omega
          simp only [hk, Nat.add_zero]
        · have hk : i + 1 + (k - (c.scanline + 1)) = i + (k - c.scanline) := by
            have hlow : c.scanline + 1 ≤ k := hlow
            omega
          exact congrArg (fun j => draw j (entry s k)) hk
      · rename_i hc
        exact Canvas.Fills.full h hc (n + 1)

variable (f : Format β) (regs : Fin 18 → Byte)

/-- The characters displayed in a row. -/
def displayed : Nat := (horzProps regs).hd.toNat

/-- The lines of a row. -/
def rowLines : Nat := (vertProps regs).ch.toNat

/-- The line of the display that is `n` lines from its first, when that begins
at `start`. -/
def displayLine (ram : Fin 8 → Bank) (start n : Nat) (line : Scanline) :
    List (β × β) :=
  drawActive f regs ram
    (BitVec.ofNat 32 (start + n / rowLines regs * displayed regs))
    (n % rowLines regs) line

theorem hd_eq : (horzProps regs).hd = displayed regs := by
  simp only [displayed, horzProps, reg]
  omega

theorem rowLines_pos : 0 < rowLines regs := by
  simp only [rowLines, vertProps, reg]
  omega

theorem drawDisplay_fills (ram : Fin 8 → Bank) (n start : Nat) {c : Canvas β}
    (h : c.Regular) :
    Canvas.Fills (fun k =>
        displayLine f regs ram start (k - c.scanline) (entry s k))
      (n * rowLines regs) c
      (drawDisplay f s regs ram n (BitVec.ofNat 32 start) c) := by
  induction n generalizing start c with
  | zero =>
      rw [Nat.zero_mul]
      exact Canvas.Fills.zero h
  | succ n ih =>
      have hnext : BitVec.ofNat 32 start + BitVec.ofInt 32 (horzProps regs).hd =
          BitVec.ofNat 32 (start + displayed regs) := by
        rw [hd_eq, BitVec.ofInt_natCast, ← BitVec.ofNat_add]
      have hrow := drawRows_fills s
        (drawActive f regs ram (BitVec.ofNat 32 start)) 0 (rowLines regs) h
      rw [Nat.succ_mul, Nat.add_comm, drawDisplay, hnext]
      have hs := hrow.scanline
      refine Canvas.Fills.trans (hrow.congr fun k hlow hhigh _ => ?_)
        ((ih (start + displayed regs) hrow.regular).congr
          fun k hlow hhigh hend => ?_) h.le
      · have hk : k - c.scanline < rowLines regs := by omega
        rw [displayLine, Nat.div_eq_of_lt hk, Nat.mod_eq_of_lt hk, Nat.zero_mul,
          Nat.add_zero, Nat.zero_add]
      · have hstart : (drawRows s (drawActive f regs ram
            (BitVec.ofNat 32 start)) 0 (rowLines regs) c).scanline =
              c.scanline + rowLines regs := by omega
        have hk : k - c.scanline =
            k - (c.scanline + rowLines regs) + rowLines regs := by omega
        rw [hstart, displayLine, displayLine, hk,
          Nat.add_div_right _ (rowLines_pos regs), Nat.add_mod_right,
          Nat.succ_mul, Nat.add_assoc start, Nat.add_comm (displayed regs)]

end

/-! ## Frames -/

section

variable {β : Type} (f : Format β) (s : Vga.State) (regs : Fin 18 → Byte)
  (ram : Fin 8 → Bank)

/-- The lines of the top border. -/
def topLines : Nat := (borders regs).top.toNat

/-- The lines of the display. -/
def displayLines : Nat := (vertProps regs).vd.toNat * rowLines regs

/-- The lines that a renderer draws, two on an image of 768. -/
def frameLines : Nat :=
  min (topLines regs + displayLines regs + (borders regs).bot.toNat) 384

/-- The line pair `k` of a frame. -/
def linePair (k : Nat) : List (β × β) :=
  if k < topLines regs ∨ topLines regs + displayLines regs ≤ k then
    drawBorder f (entry s k) ((horzProps regs).ht * (horzProps regs).cw)
  else
    displayLine f regs ram (startAddress regs).toNat (k - topLines regs)
      (entry s k)

theorem render_fills : Canvas.Fills (linePair f s regs ram)
    (topLines regs + displayLines regs + (borders regs).bot.toNat)
    ⟨0, 768, [], []⟩ (render f s regs ram 768) := by
  have h₀ : (⟨0, 768, [], []⟩ : Canvas β).Regular :=
    ⟨rfl, rfl, Nat.zero_le _, rfl⟩
  have border (rows : Int) {c : Canvas β} (h : c.Regular) :
      Canvas.Fills (fun k => drawBorder f (entry s k)
        ((horzProps regs).ht * (horzProps regs).cw)) rows.toNat c
        (drawVertical f s regs rows c) :=
    drawRows_fills s (fun _ line => drawBorder f line _) 0 rows.toNat h
  have h₁ := border (borders regs).top h₀
  have h₂ := drawDisplay_fills s f regs ram (vertProps regs).vd.toNat
    (startAddress regs).toNat h₁.regular
  rw [BitVec.ofNat_toNat, BitVec.setWidth_eq] at h₂
  have h₃ := border (borders regs).bot h₂.regular
  have hs₁ : _ = 0 + min (topLines regs) (384 - 0) := h₁.scanline
  have hs₂ := h₂.scanline
  have hlines : displayLines regs = (vertProps regs).vd.toNat * rowLines regs :=
    rfl
  refine Canvas.Fills.trans (Canvas.Fills.trans (h₁.congr ?_) (h₂.congr ?_)
    (Nat.zero_le _)) (h₃.congr ?_) (Nat.zero_le _)
  · intro k _ hk _
    have hk : k < 0 + topLines regs := hk
    rw [Nat.zero_add] at hk
    rw [linePair, if_pos (.inl hk)]
  · intro k hlow hhigh hend
    have htop : (drawVertical f s regs (borders regs).top
        ⟨0, 768, [], []⟩).scanline = topLines regs := by omega
    rw [linePair, if_neg (by omega), htop]
  · intro k hlow _ hend
    rw [linePair, if_pos (.inr (by omega))]

/-- The pairs of a frame, in their order. -/
theorem render_pairs : (render f s regs ram 768).pairs =
    (List.range (frameLines regs)).map (linePair f s regs ram) := by
  have h := (render_fills f s regs ram).pairs
  rw [List.nil_append] at h
  rw [h, List.range_eq_range']
  rfl

end

/-- A part of a list that is drawn item by item, each of one width. -/
theorem getElem?_flatMap_const {α γ : Type} {g : α → List γ} {n : Nat}
    (h : ∀ a, (g a).length = n) (l : List α) (i : Nat) {j : Nat} (hj : j < n) :
    (l.flatMap g)[n * i + j]? = l[i]?.bind fun a => (g a)[j]? := by
  induction l generalizing i with
  | nil => rfl
  | cons a l ih =>
      rw [List.flatMap_cons]
      cases i with
      | zero =>
          have hlt : n * 0 + j < (g a).length := by
            rw [h]
            omega
          rw [List.getElem?_append_left hlt, Nat.mul_zero, Nat.zero_add]
          rfl
      | succ i =>
          have hle : (g a).length ≤ n * (i + 1) + j := by
            rw [h, Nat.mul_succ]
            omega
          have hsub : n * (i + 1) + j - n = n * i + j := by
            rw [Nat.mul_succ]
            omega
          rw [List.getElem?_append_right hle, h, hsub, ih]
          rfl

theorem lines_even {β : Type} (c : Canvas β) (k : Nat) :
    c.lines[2 * k]? = c.pairs[k]?.map (List.map Prod.fst) := by
  have h := getElem?_flatMap_const (g := fun pair : List (β × β) =>
    [pair.map Prod.fst, pair.map Prod.snd]) (fun _ => rfl) c.pairs k
    (Nat.zero_lt_two)
  rw [Nat.add_zero] at h
  exact h.trans Option.map_eq_bind.symm

theorem lines_odd {β : Type} (c : Canvas β) (k : Nat) :
    c.lines[2 * k + 1]? = c.pairs[k]?.map (List.map Prod.snd) := by
  have h := getElem?_flatMap_const (g := fun pair : List (β × β) =>
    [pair.map Prod.fst, pair.map Prod.snd]) (fun _ => rfl) c.pairs k
    (Nat.one_lt_two)
  exact h.trans Option.map_eq_bind.symm

section

variable (regs : Fin 18 → Byte)

/-- The characters of a line, the displayed ones, and those up to the sync
position. -/
def charsTotal : Nat := 1 + min (regs 0).toNat 63

def charsDisplayed : Nat := min (regs 1).toNat 52

def charsSync : Nat := (regs 2).toNat

theorem ht_eq : (horzProps regs).ht = charsTotal regs := by
  simp only [charsTotal, horzProps, reg]
  omega

theorem displayed_eq : displayed regs = charsDisplayed regs := by
  simp only [displayed, charsDisplayed, horzProps, reg]
  omega

theorem hsp_eq : (horzProps regs).hsp = charsSync regs := by
  simp only [charsSync, horzProps, reg]
  omega

theorem lft_eq : (borders regs).lft.toNat =
    16 * (charsTotal regs - charsSync regs) := by
  show (((horzProps regs).ht - (horzProps regs).hsp) * 16).toNat = _
  rw [ht_eq, hsp_eq]
  omega

theorem rgt_eq : (borders regs).rgt.toNat =
    16 * (charsSync regs - charsDisplayed regs) := by
  show (((horzProps regs).hsp - (horzProps regs).hd) * 16).toNat = _
  rw [hsp_eq, hd_eq, displayed_eq]
  omega

end

end Xcpc.Cpc.Render
