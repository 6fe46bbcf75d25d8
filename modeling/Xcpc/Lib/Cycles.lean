import Mathlib

/-!
# Nested counters

A raster is a number of lines, in rows of equal height but for the last, which
may have some lines more. Its beam is three counters, and a step moves the
first that is not at its end and clears those before it.

Every place of the beam has a number, and a step moves the beam to the next
number, the last followed by the first. So the beam is at a place again after
as many steps as there are places, and not before.
-/

namespace Prog

variable {σ : Type}

/-- Steps that lower a measure, if they do not reach the goal, reach it. -/
theorem iterate_reaches {f : σ → σ} {goal : σ → Prop} {μ : σ → Nat}
    (h : ∀ s, goal (f s) ∨ μ (f s) < μ s) (s : σ) : ∃ n, goal (f^[n] s) := by
  induction hn : μ s using Nat.strong_induction_on generalizing s with
  | h m ih =>
      rcases h s with hg | hlt
      · exact ⟨1, hg⟩
      · obtain ⟨n, hgoal⟩ := ih _ (hn ▸ hlt) (f s) rfl
        exact ⟨n + 1, hgoal⟩

/-! ## Rasters -/

/-- A frame: `rows` rows of `height` lines, and of `width` steps each line. The
last row has `adjust` lines more. -/
structure Raster where
  width : Nat
  height : Nat
  rows : Nat
  adjust : Nat
  width_pos : 0 < width
  height_pos : 0 < height
  rows_pos : 0 < rows

/-- The step in the line, the line in the row and the row. -/
@[ext] structure Beam where
  step : Nat
  line : Nat
  row : Nat
deriving DecidableEq

namespace Raster

variable {r : Raster} {b b' : Beam}

/-- The lines of a row. -/
def lines (r : Raster) (row : Nat) : Nat :=
  if row + 1 = r.rows then r.height + r.adjust else r.height

/-- The counters are below their ends. -/
structure Inside (r : Raster) (b : Beam) : Prop where
  step : b.step < r.width
  line : b.line < r.lines b.row
  row : b.row < r.rows

def next (r : Raster) (b : Beam) : Beam :=
  if b.step + 1 < r.width then ⟨b.step + 1, b.line, b.row⟩
  else if b.line + 1 < r.lines b.row then ⟨0, b.line + 1, b.row⟩
  else if b.row + 1 < r.rows then ⟨0, 0, b.row + 1⟩
  else ⟨0, 0, 0⟩

/-- The lines before the beam. -/
def above (r : Raster) (b : Beam) : Nat := b.row * r.height + b.line

/-- The steps before the beam. -/
def place (r : Raster) (b : Beam) : Nat := r.width * r.above b + b.step

/-- The steps of a frame. -/
def total (r : Raster) : Nat := r.width * (r.rows * r.height + r.adjust)

theorem lines_pos (r : Raster) (row : Nat) : 0 < r.lines row := by
  have h := r.height_pos
  unfold lines
  split
  · omega
  · exact h

theorem origin_inside (r : Raster) : r.Inside ⟨0, 0, 0⟩ :=
  ⟨r.width_pos, r.lines_pos 0, r.rows_pos⟩

theorem next_inside (h : r.Inside b) : r.Inside (r.next b) := by
  unfold next
  split
  · exact ⟨‹_›, h.line, h.row⟩
  split
  · exact ⟨r.width_pos, ‹_›, h.row⟩
  split
  · exact ⟨r.width_pos, r.lines_pos _, ‹_›⟩
  · exact r.origin_inside

/-- A row ends where the next one begins, and the last one with the frame. -/
theorem row_end {row : Nat} (hrow : row < r.rows) :
    row * r.height + r.lines row =
      if row + 1 < r.rows then (row + 1) * r.height
      else r.rows * r.height + r.adjust := by
  unfold lines
  split
  · rename_i h
    rw [if_neg (by omega), ← h, Nat.succ_mul]
    omega
  · rw [if_pos (by omega), Nat.succ_mul]

theorem above_lt (h : r.Inside b) :
    r.above b < r.rows * r.height + r.adjust := by
  have hend := row_end h.row
  have hlt : r.above b < b.row * r.height + r.lines b.row :=
    Nat.add_lt_add_left h.line _
  split at hend
  · have hr := Nat.mul_le_mul_right r.height (Nat.succ_le_of_lt h.row)
    rw [Nat.succ_eq_add_one] at hr
    omega
  · omega

theorem place_lt (h : r.Inside b) : r.place b < r.total := by
  have hle := Nat.mul_le_mul_left r.width (Nat.succ_le_of_lt (above_lt h))
  have hstep := h.step
  rw [Nat.mul_succ] at hle
  unfold place total
  omega

/-- A step goes to the next place. -/
theorem place_next (h : r.Inside b) :
    r.place (r.next b) = (r.place b + 1) % r.total := by
  have hlt := place_lt (next_inside h)
  -- But for the last step, the number of the place is one more.
  suffices hs : r.place (r.next b) = r.place b + 1 ∨
      r.place (r.next b) = 0 ∧ r.place b + 1 = r.total by
    rcases hs with hs | ⟨hz, ht⟩
    · rw [← hs, Nat.mod_eq_of_lt hlt]
    · rw [hz, ht, Nat.mod_self]
  unfold next
  split
  · exact .inl rfl
  have hwidth : b.step + 1 = r.width := by
    have := h.step
    omega
  have hplace : r.place b + 1 = r.width * (r.above b + 1) := by
    unfold place
    rw [Nat.mul_succ]
    omega
  rw [hplace]
  split
  · exact .inl rfl
  have hline : b.line + 1 = r.lines b.row := by
    have := h.line
    omega
  have hend : r.above b + 1 = _ := (congrArg _ hline).trans (row_end h.row)
  split
  · rw [if_pos ‹_›] at hend
    rw [hend]
    exact .inl rfl
  · rw [if_neg ‹_›] at hend
    rw [hend]
    refine .inr ⟨?_, rfl⟩
    simp [place, above]

/-- A place is reached by its number only. -/
theorem place_injective (h : r.Inside b) (h' : r.Inside b')
    (hp : r.place b = r.place b') : b = b' := by
  have habove : r.above b = r.above b' := by
    have hdiv := congrArg (· / r.width) hp
    simp only [place, Nat.mul_add_div r.width_pos, Nat.div_eq_of_lt h.step,
      Nat.div_eq_of_lt h'.step] at hdiv
    omega
  have hstep : b.step = b'.step := by
    unfold place at hp
    rw [habove] at hp
    omega
  -- A row above the last has no more lines than its height.
  have hrows {c c' : Beam} (hc : r.Inside c) (hc' : r.Inside c')
      (ha : r.above c = r.above c') : ¬ c.row < c'.row := by
    intro hlt
    have hline := hc.line
    have hrow := hc'.row
    have hmul := Nat.mul_le_mul_right r.height (Nat.succ_le_of_lt hlt)
    rw [Nat.succ_mul] at hmul
    unfold lines at hline
    rw [if_neg (by omega)] at hline
    unfold above at ha
    omega
  have hrow : b.row = b'.row :=
    Nat.le_antisymm (Nat.not_lt.1 (hrows h' h habove.symm))
      (Nat.not_lt.1 (hrows h h' habove))
  have hline : b.line = b'.line := by
    unfold above at habove
    rw [hrow] at habove
    omega
  exact Beam.ext hstep hline hrow

/-- The place after some steps. -/
theorem place_iterate (h : r.Inside b) (n : Nat) :
    r.Inside (r.next^[n] b) ∧
      r.place (r.next^[n] b) = (r.place b + n) % r.total := by
  induction n with
  | zero => exact ⟨h, (Nat.mod_eq_of_lt (place_lt h)).symm⟩
  | succ n ih =>
      rw [Function.iterate_succ_apply']
      refine ⟨next_inside ih.1, ?_⟩
      rw [place_next ih.1, ih.2, Nat.mod_add_mod, Nat.add_assoc]

/-- From the origin, the beam is at the place `n` after `n` steps. -/
theorem place_from_origin {n : Nat} (hn : n < r.total) :
    r.Inside (r.next^[n] ⟨0, 0, 0⟩) ∧
      r.place (r.next^[n] ⟨0, 0, 0⟩) = n := by
  obtain ⟨hin, hp⟩ := place_iterate r.origin_inside n
  refine ⟨hin, hp.trans ?_⟩
  have h0 : r.place ⟨0, 0, 0⟩ = 0 := by simp [place, above]
  rw [h0, Nat.zero_add, Nat.mod_eq_of_lt hn]

/-- The beam is at a place again after whole frames. -/
theorem iterate_eq_iff (h : r.Inside b) (n : Nat) :
    r.next^[n] b = b ↔ r.total ∣ n := by
  obtain ⟨hin, hp⟩ := place_iterate h n
  have hlt := place_lt h
  constructor
  · intro he
    rw [he] at hp
    have hmod : (r.place b + n) % r.total = (r.place b + 0) % r.total := by
      rw [← hp, Nat.add_zero, Nat.mod_eq_of_lt hlt]
    exact Nat.dvd_of_mod_eq_zero (Nat.ModEq.add_left_cancel' _ hmod)
  · rintro ⟨k, rfl⟩
    refine place_injective hin h ?_
    rw [hp, Nat.add_mul_mod_self_left, Nat.mod_eq_of_lt hlt]

end Raster

end Prog
