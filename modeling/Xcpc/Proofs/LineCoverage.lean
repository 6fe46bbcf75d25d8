import Xcpc.Proofs.RenderBounds
import Xcpc.Lib.Runs

/-!
# The coverage of a line

A line of the display is written through one pointer: the left border, the
characters, the right border. What each part covers depends on how many pixels
the parts before it have written. In the modes 0 to 2 the characters fill their
columns, and the three parts make up the total.

The gate array latches a mode 3 as well, and it has a table for it, but the
switch of the renderers has no case that reads the table. The characters of
such a line are not written, and its right border begins where they should: the
line ends short of the total by what they would have taken.
-/

namespace Xcpc.Cpc.Render

open Sna (Bank)
open Vga (Scanline)

section

variable {β : Type}

/-- The three parts of a line pair of the display, each at its column. `ink` is
what a color becomes on the two lines. -/
def Parts (ink : Vga.Color → β × β) (regs : Fin 18 → Byte) (line : Scanline)
    (pair : List (β × β)) : Prop :=
  ∃ active : List (β × β),
    active.length = 16 * min (charsDisplayed regs) (charsSync regs) ∧
    pair = List.replicate (16 * (charsTotal regs - charsSync regs))
        (ink (line.color 16)) ++ active ++
      List.replicate (16 * (charsSync regs - charsDisplayed regs))
        (ink (line.color 16))

/-- Every line of the image that is written is written up to the total, and the
lines of the display part by part. -/
structure LineCoverage (ink : Vga.Color → β × β) (s : Vga.State)
    (regs : Fin 18 → Byte) (c : Canvas β) : Prop where
  total : ∀ line ∈ c.lines, line.length = 16 * charsTotal regs
  parts : ∀ k pair, c.pairs[k]? = some pair → Displayed regs k →
    Parts ink regs (entry s k) pair

variable (f : Format β) (s : Vga.State) (regs : Fin 18 → Byte)
  (ram : Fin 8 → Bank)

/-- The characters of a line fill their columns, or are not written. -/
theorem displayLine_parts (start n : Nat) (line : Scanline) :
    ∃ active : List (β × β), active.length = (if line.mode.toNat ≤ 2
        then 16 * min (charsDisplayed regs) (charsSync regs) else 0) ∧
      displayLine f regs ram start n line =
        List.replicate (16 * (charsTotal regs - charsSync regs))
          (f.pair (line.color 16)) ++ active ++
        List.replicate (16 * (charsSync regs - charsDisplayed regs))
          (f.pair (line.color 16)) := by
  have hlen : (displayLine f regs ram start n line).length =
      rowWidth regs line.mode := length_drawActive f regs ram _ _ line
  have hdraw : ∃ active : List (β × β), displayLine f regs ram start n line =
      drawBorder f line (borders regs).lft ++ active ++
        drawBorder f line (borders regs).rgt := ⟨_, rfl⟩
  obtain ⟨active, hactive⟩ := hdraw
  rw [hactive] at hlen ⊢
  simp only [drawBorder, lft_eq, rgt_eq] at hlen ⊢
  refine ⟨active, ?_, rfl⟩
  simp only [List.length_append, List.length_replicate, rowWidth, lft_eq,
    rgt_eq] at hlen
  have hhd : (horzProps regs).hd.toNat = charsDisplayed regs :=
    displayed_eq regs
  have hhsp : (regs 2).toNat = charsSync regs := rfl
  rw [hhd, hhsp] at hlen
  split at hlen
  · rw [if_pos ‹_›]
    omega
  · rw [if_neg ‹_›]
    omega

theorem displayed_iff {k : Nat} : Displayed regs k ↔
    topLines regs ≤ k ∧ k < topLines regs + displayLines regs ∧ k < 384 :=
  Iff.rfl

theorem pairs_getElem? (k : Nat) :
    (render f s regs ram 768).pairs[k]? =
      if k < frameLines regs then some (linePair f s regs ram k) else none := by
  rw [render_pairs, List.getElem?_map]
  split
  · rename_i hk
    rw [List.getElem?_range hk]
    rfl
  · rename_i hk
    rw [List.getElem?_eq_none (by rw [List.length_range]; omega)]
    rfl

theorem linePair_display {k : Nat} (hk : Displayed regs k) :
    linePair f s regs ram k = displayLine f regs ram (startAddress regs).toNat
      (k - topLines regs) (entry s k) := by
  obtain ⟨hlow, hhigh, -⟩ := (displayed_iff regs).1 hk
  exact if_neg (by omega)

/-- When the sync position is in the line, a renderer covers the lines exactly
when there is no column to draw, or no line of the display in the mode 3. -/
theorem render_covers_iff (hsync : charsSync regs ≤ charsTotal regs) :
    LineCoverage f.pair s regs (render f s regs ram 768) ↔
      (min (charsDisplayed regs) (charsSync regs) = 0 ∨
        ∀ k, Displayed regs k → (entry s k).mode.toNat ≤ 2) := by
  constructor
  · intro h
    refine Classical.or_iff_not_imp_left.2 fun hmin k hk => ?_
    by_contra hmode
    obtain ⟨hlow, hhigh, hend⟩ := (displayed_iff regs).1 hk
    have hpair := pairs_getElem? f s regs ram k
    rw [if_pos (by rw [frameLines]; omega), linePair_display f s regs ram hk]
      at hpair
    obtain ⟨active, hlen, hparts⟩ := h.parts k _ hpair hk
    obtain ⟨active', hlen', hparts'⟩ := displayLine_parts f regs ram
      (startAddress regs).toNat (k - topLines regs) (entry s k)
    rw [if_neg hmode] at hlen'
    rw [hparts'] at hparts
    have heq := congrArg List.length hparts
    simp only [List.length_append, List.length_replicate] at heq
    omega
  · intro h
    have hparts (k : Nat) (hk : Displayed regs k) :
        Parts f.pair regs (entry s k) (linePair f s regs ram k) := by
      obtain ⟨active, hlen, hdraw⟩ := displayLine_parts f regs ram
        (startAddress regs).toNat (k - topLines regs) (entry s k)
      refine ⟨active, ?_, ?_⟩
      · rcases h with hmin | hmode
        · rw [hlen, hmin, ite_self]
        · rw [hlen, if_pos (hmode k hk)]
      · rw [linePair_display f s regs ram hk]
        exact hdraw
    have hwidth (k : Nat) (hk : k < frameLines regs) :
        (linePair f s regs ram k).length = 16 * charsTotal regs := by
      by_cases hb : k < topLines regs ∨ topLines regs + displayLines regs ≤ k
      · rw [length_linePair, if_pos hb, ht_eq]
        omega
      · have hend : k < 384 := Nat.lt_of_lt_of_le hk (Nat.min_le_right _ _)
        have hdisplay : Displayed regs k :=
          (displayed_iff regs).2 ⟨by omega, by omega, hend⟩
        obtain ⟨active, hlen, hpair⟩ := hparts k hdisplay
        rw [hpair, List.length_append, List.length_append, hlen,
          List.length_replicate, List.length_replicate]
        omega
    refine ⟨fun line hline => ?_, fun k pair hpair hk => ?_⟩
    · obtain ⟨pair, hp, hline⟩ := List.mem_flatMap.1 hline
      rw [render_pairs] at hp
      obtain ⟨k, hk, rfl⟩ := List.mem_map.1 hp
      rw [← hwidth k (List.mem_range.1 hk)]
      rcases List.mem_pair.1 hline with rfl | rfl
      · exact List.length_map _
      · exact List.length_map _
    · rw [pairs_getElem?] at hpair
      split at hpair
      · cases hpair
        exact hparts k hk
      · cases hpair

end

theorem renderers_cover_iff (s : Vga.State) (regs : Fin 18 → Byte)
    (ram : Fin 8 → Bank) (hsync : charsSync regs ≤ charsTotal regs) :
    (LineCoverage (fun c => (c.pixel0.setWidth 8, c.pixel1.setWidth 8)) s regs
        (render08bpp s regs ram 768) ∧
      LineCoverage (fun c => (c.pixel0.setWidth 16, c.pixel1.setWidth 16)) s
        regs (render16bpp s regs ram 768) ∧
      LineCoverage (fun c => (c.pixel0, c.pixel1)) s regs
        (render32bpp s regs ram 768) ∧
      LineCoverage (fun c => (c.pixel0, c.pixel0)) s regs
        (renderRgba s regs ram 768)) ↔
      (min (charsDisplayed regs) (charsSync regs) = 0 ∨
        ∀ k, Displayed regs k → (entry s k).mode.toNat ≤ 2) := by
  have h8 := render_covers_iff ⟨fun p => p.setWidth 8, Vga.Color.pixel1⟩ s regs
    ram hsync
  have h16 := render_covers_iff ⟨fun p => p.setWidth 16, Vga.Color.pixel1⟩ s
    regs ram hsync
  have h32 := render_covers_iff ⟨id, Vga.Color.pixel1⟩ s regs ram hsync
  have hrgba := render_covers_iff ⟨id, Vga.Color.pixel0⟩ s regs ram hsync
  constructor
  · intro h
    exact h8.1 h.1
  · intro h
    exact ⟨h8.2 h, h16.2 h, h32.2 h, hrgba.2 h⟩

theorem mode0_covered :
    LineCoverage (fun c => (c.pixel0, c.pixel0)) (Board.blank .k64).vga
      Vdc.resetRegs (renderRgba (Board.blank .k64).vga Vdc.resetRegs
        (Board.blank .k64).ram 768) := by
  refine ((renderers_cover_iff (Board.blank .k64).vga Vdc.resetRegs
    (Board.blank .k64).ram (by decide)).2 (.inr fun k _ => ?_)).2.2.2
  unfold entry
  split
  · exact Nat.zero_le 2
  · exact Nat.zero_le 2

/-- The gate array after a write of the mode 3 and the lines up to the
display. -/
def mode3 : Vga.State :=
  Prog.run Vga.step (Vga.reset (Board.blank .k64).vga)
    (.setValue 0x83 :: List.replicate 72 (.hsync true))

/-- With the reset registers the line 72 is the first of the display. It ends
40 characters short. -/
theorem mode3_uncovered :
    ¬ LineCoverage (fun c => (c.pixel0, c.pixel0)) mode3 Vdc.resetRegs
      (renderRgba mode3 Vdc.resetRegs (Board.blank .k64).ram 768) := by
  intro h
  have hmode : (entry mode3 72).mode = 3 := by decide +kernel
  rcases (render_covers_iff ⟨id, Vga.Color.pixel0⟩ mode3 Vdc.resetRegs _
    (by decide)).1 h with hmin | hmodes
  · exact absurd hmin (by decide)
  · have hle := hmodes 72 (by decide)
    rw [hmode] at hle
    exact absurd hle (by decide)

end Xcpc.Cpc.Render
