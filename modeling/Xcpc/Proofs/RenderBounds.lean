import Xcpc.Proofs.RenderLines

/-!
# The bounds of the renderers

A renderer takes the lines of the image two at a time, as long as there are
two left, so it stays within its 768 lines and reads at most 384 scanline
entries. The columns are another matter. A line of the display is a left
border, the characters up to the sync position, and a right border. As long as
the sync position is within the clamped total, the three make up the total.
Past it there is no left border, and the right border runs up to the sync
position, which nothing clamps.
-/

namespace Xcpc.Cpc.Render

open Sna (Bank)
open Vga (Scanline)

/-! ## Widths -/

theorem length_inks (m : Mode) (n : Nat) (byte : Byte) :
    (m.inks n byte).length = n := by
  induction n generalizing byte with
  | zero => rfl
  | succ n ih => rw [Mode.inks, List.length_cons, ih]

/-- A list drawn item by item, each of one width. -/
theorem length_flatMap_const {α γ : Type} {l : List α} {g : α → List γ} {n : Nat}
    (h : ∀ a, (g a).length = n) : (l.flatMap g).length = l.length * n := by
  induction l with
  | nil => simp
  | cons a l ih =>
      rw [List.flatMap_cons, List.length_append, h, ih, List.length_cons,
        Nat.succ_mul, Nat.add_comm]

section

variable {β : Type} (f : Format β)

theorem length_drawByte (m : Mode) (line : Scanline) (byte : Byte) :
    (drawByte f m line byte).length = m.pixels * m.width := by
  rw [drawByte, length_flatMap_const fun _ => List.length_replicate, length_inks]

/-- A byte is eight pixels wide in every mode. -/
theorem modeOf_width {mode : Byte} {m : Mode} (h : modeOf mode = some m) :
    m.pixels * m.width = 8 := by
  unfold modeOf at h
  split at h
  · cases h
    rfl
  · cases h
    rfl
  · cases h
    rfl
  · cases h

theorem modeOf_isSome (mode : Byte) :
    (modeOf mode).isSome = decide (mode.toNat ≤ 2) := by
  unfold modeOf
  split
  · rename_i h
    rw [h]
    rfl
  · rename_i h
    rw [h]
    rfl
  · rename_i h
    rw [h]
    rfl
  · rename_i h0 h1 h2
    have h0 : mode.toNat ≠ 0 := h0
    have h1 : mode.toNat ≠ 1 := h1
    have h2 : mode.toNat ≠ 2 := h2
    have h : ¬ mode.toNat ≤ 2 := by omega
    rw [decide_eq_false h]
    rfl

theorem length_drawChar {mode : Byte} {m : Mode} (h : modeOf mode = some m)
    (line : Scanline) (ram : Fin 8 → Bank) (addr : Word) :
    (drawChar f m line ram addr).length = 16 := by
  rw [drawChar, List.length_append, length_drawByte, length_drawByte,
    modeOf_width h]

theorem takeWhile_range (n k : Nat) :
    ((List.range n).takeWhile fun i : Nat => decide ((i : Int) < k)).length =
      min n k := by
  induction n with
  | zero => simp
  | succ n ih =>
      rw [List.range_succ, List.takeWhile_append, List.length_range, ih]
      by_cases hn : min n k = n
      · rw [if_pos hn, List.length_append, List.length_range]
        by_cases hk : n < k
        · simp only [List.takeWhile_cons, Int.ofNat_lt, hk, decide_true,
            if_true, List.takeWhile_nil, List.length_singleton]
          omega
        · simp only [List.takeWhile_cons, Int.ofNat_lt, hk, decide_false,
            if_neg (by decide : ¬ false = true), List.length_nil]
          omega
      · rw [if_neg hn, ih]
        omega

theorem length_columns (regs : Fin 18 → Byte) :
    (columns (horzProps regs)).length =
      min (horzProps regs).hd.toNat (regs 2).toNat := by
  have h : (horzProps regs).hsp = ((regs 2).toNat : Int) := by
    simp [horzProps, reg]
  rw [columns, h, takeWhile_range]

/-- The pixels of a line of the active display. -/
def rowWidth (regs : Fin 18 → Byte) (mode : Byte) : Nat :=
  (borders regs).lft.toNat +
    (if mode.toNat ≤ 2
      then min (horzProps regs).hd.toNat (regs 2).toNat * 16 else 0) +
    (borders regs).rgt.toNat

theorem length_drawActive (regs : Fin 18 → Byte) (ram : Fin 8 → Bank)
    (address : BitVec 32) (ras : Nat) (line : Scanline) :
    (drawActive f regs ram address ras line).length =
      rowWidth regs line.mode := by
  have hmode := modeOf_isSome line.mode
  unfold drawActive rowWidth drawBorder
  rw [List.length_append, List.length_append, List.length_replicate,
    List.length_replicate]
  cases hm : modeOf line.mode with
  | none =>
      rw [hm] at hmode
      rw [if_neg (of_decide_eq_false hmode.symm)]
      rfl
  | some m =>
      rw [hm] at hmode
      rw [if_pos (of_decide_eq_true hmode.symm), ← length_columns]
      rw [length_flatMap_const fun _ => length_drawChar f hm line ram _]

end

/-- A line of the active display fits when the sync position is at most 64, or,
without characters, when the right border is at most 64 characters. -/
theorem rowWidth_le (regs : Fin 18 → Byte) (mode : Byte) :
    rowWidth regs mode ≤ 1024 ↔
      (regs 2).toNat ≤
        if mode.toNat ≤ 2 then 64 else 64 + min (regs 1).toNat 52 := by
  simp only [rowWidth, borders, horzProps, reg]
  by_cases hm : mode.toNat ≤ 2
  · rw [if_pos hm, if_pos hm]
    omega
  · rw [if_neg hm, if_neg hm]
    omega

/-! ## Frames -/

/-- The pixels stay in their lines, the lines in the image, and the reads in
the scanlines. -/
structure InBounds {β : Type} (c : Canvas β) : Prop where
  columns : ∀ line ∈ c.lines, line.length ≤ 1024
  lines : c.lines.length ≤ 768
  reads : ∀ i ∈ c.reads, i < 576

/-- The scanline entries of the active display. -/
def Displayed (regs : Fin 18 → Byte) (k : Nat) : Prop :=
  let v := vertProps regs
  (borders regs).top.toNat ≤ k ∧
    k < (borders regs).top.toNat + v.vd.toNat * v.ch.toNat ∧ k < 384

instance (regs : Fin 18 → Byte) (k : Nat) : Decidable (Displayed regs k) :=
  inferInstanceAs (Decidable (_ ∧ _ ∧ _))

/-- The sync position is at most 64 on the lines of the display, and in a mode
that draws no characters at most 64 past the displayed ones. -/
def Fits (regs : Fin 18 → Byte) (s : Vga.State) : Prop :=
  ∀ k, Displayed regs k →
    (regs 2).toNat ≤ if (entry s k).mode.toNat ≤ 2 then 64
      else 64 + min (regs 1).toNat 52

theorem length_linePair {β : Type} (f : Format β) (s : Vga.State)
    (regs : Fin 18 → Byte) (ram : Fin 8 → Bank) (k : Nat) :
    (linePair f s regs ram k).length =
      if k < topLines regs ∨ topLines regs + displayLines regs ≤ k then
        ((horzProps regs).ht * 16).toNat
      else rowWidth regs (entry s k).mode := by
  unfold linePair
  split
  · exact List.length_replicate
  · exact length_drawActive f regs ram _ _ _

/-- A vertical border is at most as wide as the clamped total. -/
theorem border_le (regs : Fin 18 → Byte) :
    ((horzProps regs).ht * 16).toNat ≤ 1024 := by
  simp only [horzProps]
  omega

/-- The image and the scanlines have room for the pairs of a frame, so only
their widths count. -/
theorem inBounds_iff {β : Type} (f : Format β) (s : Vga.State)
    (regs : Fin 18 → Byte) (ram : Fin 8 → Bank) :
    InBounds (render f s regs ram 768) ↔
      ∀ pair ∈ (render f s regs ram 768).pairs, pair.length ≤ 1024 := by
  have h := (render_fills f s regs ram).regular
  have hle := h.le
  have hs := h.scanline
  constructor
  · intro hb pair hp
    have hl := hb.columns (pair.map Prod.fst)
      (List.mem_flatMap.2 ⟨pair, hp, List.mem_cons_self⟩)
    rwa [List.length_map] at hl
  · intro hw
    refine ⟨?_, ?_, ?_⟩
    · intro line hl
      obtain ⟨pair, hp, hl⟩ := List.mem_flatMap.1 hl
      have hlen : line.length = pair.length := by
        rcases List.mem_pair.1 hl with rfl | rfl
        · exact List.length_map _
        · exact List.length_map _
      exact hlen ▸ hw pair hp
    · have hlen : (render f s regs ram 768).lines.length =
          (render f s regs ram 768).pairs.length * 2 :=
        length_flatMap_const fun _ => rfl
      omega
    · intro i hi
      rw [h.reads, List.mem_range] at hi
      omega

theorem render_inBounds {β : Type} (f : Format β) (s : Vga.State)
    (regs : Fin 18 → Byte) (ram : Fin 8 → Bank) :
    InBounds (render f s regs ram 768) ↔ Fits regs s := by
  rw [inBounds_iff, render_pairs, List.forall_mem_map]
  constructor
  · intro hw k ⟨htop, hk, hend⟩
    have hk : k < topLines regs + displayLines regs := hk
    have htop : topLines regs ≤ k := htop
    have hmem : k ∈ List.range (frameLines regs) := by
      rw [List.mem_range, frameLines]
      omega
    have hwk := hw k hmem
    rw [length_linePair, if_neg (by omega)] at hwk
    exact (rowWidth_le regs (entry s k).mode).1 hwk
  · intro hfit k hk
    rw [List.mem_range, frameLines] at hk
    rw [length_linePair]
    split
    · exact border_le regs
    · rename_i hdisplay
      refine (rowWidth_le regs (entry s k).mode).2 (hfit k ⟨?_, ?_, ?_⟩)
      · show topLines regs ≤ k
        omega
      · show k < topLines regs + displayLines regs
        omega
      · omega

/-- All four renderers stay inside the image and the scanlines exactly when
the sync position fits. -/
theorem renderers_inBounds_iff (s : Vga.State) (regs : Fin 18 → Byte)
    (ram : Fin 8 → Bank) :
    (InBounds (render08bpp s regs ram 768) ∧
      InBounds (render16bpp s regs ram 768) ∧
      InBounds (render32bpp s regs ram 768) ∧
      InBounds (renderRgba s regs ram 768)) ↔ Fits regs s := by
  unfold render08bpp render16bpp render32bpp renderRgba
  rw [render_inBounds, render_inBounds, render_inBounds, render_inBounds,
    and_self, and_self, and_self]

/-- The reset values of the registers but for a sync position of 255, which
makes 4080 pixels of a line. -/
theorem late_sync_overruns :
    let regs := Function.update Vdc.resetRegs 2 0xff
    ¬ InBounds (renderRgba (Board.blank .k64).vga regs (Board.blank .k64).ram
      768) := by
  intro regs h
  have hfit : Fits regs (Board.blank .k64).vga := (render_inBounds _ _ _ _).1 h
  have hk : Displayed regs 72 := by decide
  exact absurd (hfit 72 hk) (by decide)

end Xcpc.Cpc.Render
