import Xcpc.Dev.Vdc
import Xcpc.Lib.Cycles

/-!
# The frame of the display controller

With registers that stay as they are, the counters of `clock` are the beam of
a raster: the tests for the ends of a line, of a row and of the frame are those
of nested counters, as long as the counters are inside. So a frame takes a
number of calls that the registers tell.

The tests are for equality, and a counter beyond its end goes on until it
wraps. How far it is from there is a difference of bytes, and so every state
comes back to the origin.
-/

namespace Xcpc.Vdc

open Prog

/-- Registers within their masks. -/
def Within (data : Fin 18 → Byte) : Prop := ∀ i, data i &&& mask i = data i

theorem Within.le {data : Fin 18 → Byte} (h : Within data) (i : Fin 18) :
    (data i).toNat ≤ (mask i).toNat := by
  rw [← h i, BitVec.toNat_and]
  exact Nat.and_le_right

/-- The frame that the registers ask for. -/
def raster (data : Fin 18 → Byte) : Raster where
  width := (data 0).toNat + 1
  height := (data 9).toNat + 1
  rows := (data 4).toNat + 1
  adjust := (data 5).toNat
  width_pos := Nat.succ_pos _
  height_pos := Nat.succ_pos _
  rows_pos := Nat.succ_pos _

/-- The counters. -/
def beam (s : State) : Beam :=
  ⟨s.core.hcc.toNat, s.core.slc.toNat, s.core.vcc.toNat⟩

def AtOrigin (s : State) : Prop :=
  s.core.hcc = 0 ∧ s.core.vcc = 0 ∧ s.core.slc = 0

instance instDecidableAtOrigin : DecidablePred AtOrigin := fun _ =>
  inferInstanceAs (Decidable (_ ∧ _))

/-! ## One call -/

/-- The next call ends a line. -/
def LineEnds (s : State) : Prop := s.core.hcc = s.data 0

/-- The lines of the row of the counters, as `clock` adds them. -/
def scanlineTotal (s : State) : Byte :=
  if s.core.vcc.toNat + 1 = (s.data 4 + 1).toNat then s.data 9 + 1 + s.data 5
  else s.data 9 + 1

/-- The next line that ends is the last of its row. -/
def RowEnds (s : State) : Prop := s.core.slc + 1 = scanlineTotal s

instance instDecidableRowEnds : DecidablePred RowEnds := fun _ =>
  inferInstanceAs (Decidable (_ = _))

theorem clockH_ends (s : State) : (clockH s).2 = true ↔ LineEnds s := by
  show (s.core.hcc + 1 == s.data 0 + 1) = true ↔ _
  rw [beq_iff_eq]
  exact add_left_inj 1

/-- Inside a line only its counter moves. -/
theorem clock_step {s : State} (h : ¬ LineEnds s) :
    (clock s).core.hcc = s.core.hcc + 1 ∧ (clock s).core.slc = s.core.slc ∧
      (clock s).core.vcc = s.core.vcc ∧ (clock s).core.vsc = s.core.vsc ∧
      (clock s).core.vsyncSignal = s.core.vsyncSignal := by
  have hends := (clockH_ends s).not.2 h
  have hhcc : (clockH s).1.hcc = s.core.hcc + 1 := if_neg hends
  unfold clock
  simp only [hends]
  exact ⟨hhcc, rfl, rfl, rfl, rfl⟩

/-- At the end of a line the next counter moves, and at the end of a row the
one behind it. -/
theorem clock_line {s : State} (h : LineEnds s) :
    (clock s).core.hcc = 0 ∧
      (clock s).core.slc = (if RowEnds s then 0 else s.core.slc + 1) ∧
      (clock s).core.vcc = (if RowEnds s then
        if s.core.vcc = s.data 4 then 0 else s.core.vcc + 1
        else s.core.vcc) ∧
      ((clock s).core.vsc, (clock s).core.vsyncSignal) =
        pulse s.core.vsc s.core.vsyncSignal (s.core.vcc == s.data 7)
          ((s.data 3 >>> 4) &&& 0x0f) := by
  have hends := (clockH_ends s).2 h
  have hhcc : (clockH s).1.hcc = 0 := if_pos hends
  have hrow : (clockS s (clockH s).1).2 = true ↔ RowEnds s := beq_iff_eq
  have hslc : (clockS s (clockH s).1).1.slc =
      if RowEnds s then 0 else s.core.slc + 1 := if_congr hrow rfl rfl
  unfold clock
  rw [if_pos hends]
  by_cases hr : RowEnds s
  · have hvcc : (clockV s (clockS s (clockH s).1).1).vcc =
        if s.core.vcc = s.data 4 then 0 else s.core.vcc + 1 :=
      if_congr (beq_iff_eq.trans (add_left_inj 1)) rfl rfl
    rw [if_pos hr] at hslc ⊢
    simp only [if_pos (hrow.2 hr), if_pos hr]
    exact ⟨hhcc, hslc, hvcc, rfl⟩
  · rw [if_neg hr] at hslc ⊢
    simp only [if_neg (hrow.not.2 hr), if_neg hr]
    exact ⟨hhcc, hslc, rfl, rfl⟩

/-! ## Inside the frame -/

/-- Within their masks the registers do not overflow the line counter. -/
theorem scanlineTotal_toNat {s : State} (h : Within s.data) :
    (scanlineTotal s).toNat = (raster s.data).lines s.core.vcc.toNat := by
  have h4 := h.le 4
  have h5 := h.le 5
  have h9 := h.le 9
  have hmask : (mask 4).toNat = 127 ∧ (mask 5).toNat = 31 ∧
      (mask 9).toNat = 31 := by decide
  have hrows : (s.data 4 + 1).toNat = (s.data 4).toNat + 1 := by bv_omega
  unfold scanlineTotal Raster.lines raster
  rw [hrows]
  split
  · bv_omega
  · bv_omega

theorem rowEnds_iff {s : State} (hw : Within s.data)
    (h : (raster s.data).Inside (beam s)) :
    RowEnds s ↔ (beam s).line + 1 = (raster s.data).lines (beam s).row := by
  have hline : s.core.slc.toNat < (raster s.data).lines s.core.vcc.toNat :=
    h.line
  show s.core.slc + 1 = scanlineTotal s ↔
    s.core.slc.toNat + 1 = (raster s.data).lines s.core.vcc.toNat
  rw [← scanlineTotal_toNat hw] at hline ⊢
  bv_omega

/-- Inside the frame the counters are the beam. -/
theorem beam_clock {s : State} (hw : Within s.data)
    (h : (raster s.data).Inside (beam s)) :
    beam (clock s) = (raster s.data).next (beam s) := by
  have hstep : s.core.hcc.toNat < (s.data 0).toNat + 1 := h.step
  have hrow : s.core.vcc.toNat < (s.data 4).toNat + 1 := h.row
  have hline := h.line
  by_cases he : LineEnds s
  · obtain ⟨hhcc, hslc, hvcc, -⟩ := clock_line he
    have hlast : ¬ (beam s).step + 1 < (raster s.data).width := by
      show ¬ s.core.hcc.toNat + 1 < (s.data 0).toNat + 1
      rw [he]
      exact Nat.lt_irrefl _
    rw [Raster.next, if_neg hlast]
    by_cases hr : RowEnds s
    · rw [if_pos hr] at hslc hvcc
      rw [if_neg (by have := (rowEnds_iff hw h).1 hr; omega)]
      by_cases hv : s.core.vcc = s.data 4
      · have hend : ¬ (beam s).row + 1 < (raster s.data).rows := by
          show ¬ s.core.vcc.toNat + 1 < (s.data 4).toNat + 1
          rw [hv]
          exact Nat.lt_irrefl _
        rw [if_pos hv] at hvcc
        rw [if_neg hend, beam, hhcc, hslc, hvcc]
        rfl
      · have hmore : (beam s).row + 1 < (raster s.data).rows := by
          show s.core.vcc.toNat + 1 < (s.data 4).toNat + 1
          bv_omega
        have hval : (s.core.vcc + 1).toNat = s.core.vcc.toNat + 1 := by
          bv_omega
        rw [if_neg hv] at hvcc
        rw [if_pos hmore, beam, hhcc, hslc, hvcc, hval]
        rfl
    · have hmore : (beam s).line + 1 < (raster s.data).lines (beam s).row := by
        have := (rowEnds_iff hw h).not.1 hr
        omega
      have hval : (s.core.slc + 1).toNat = s.core.slc.toNat + 1 := by
        have hlt := (scanlineTotal s).isLt
        rw [scanlineTotal_toNat hw] at hlt
        have : s.core.slc.toNat + 1 < 2 ^ 8 := hmore.trans hlt
        bv_omega
      rw [if_neg hr] at hslc hvcc
      rw [if_pos hmore, beam, hhcc, hslc, hvcc, hval]
      rfl
  · obtain ⟨hhcc, hslc, hvcc, -⟩ := clock_step he
    have hne : s.core.hcc ≠ s.data 0 := he
    have hmore : (beam s).step + 1 < (raster s.data).width := by
      show s.core.hcc.toNat + 1 < (s.data 0).toNat + 1
      bv_omega
    have hval : (s.core.hcc + 1).toNat = s.core.hcc.toNat + 1 := by bv_omega
    rw [Raster.next, if_pos hmore, beam, hhcc, hslc, hvcc, hval]
    rfl

theorem iterate_data (n : Nat) (s : State) : (clock^[n] s).data = s.data := by
  induction n with
  | zero => rfl
  | succ n ih => rw [Function.iterate_succ_apply', clock_data, ih]

/-- The controller refines the raster, call by call. -/
theorem beam_iterate {s : State} (hw : Within s.data)
    (h : (raster s.data).Inside (beam s)) (n : Nat) :
    beam (clock^[n] s) = (raster s.data).next^[n] (beam s) := by
  induction n with
  | zero => rfl
  | succ n ih =>
      rw [Function.iterate_succ_apply', Function.iterate_succ_apply', ← ih]
      have hd := iterate_data n s
      have hin := ((raster s.data).place_iterate h n).1
      rw [← ih] at hin
      rw [← hd] at hw hin ⊢
      exact beam_clock hw hin

/-! ## Back to the origin -/

theorem atOrigin_iff (s : State) : AtOrigin s ↔ beam s = ⟨0, 0, 0⟩ := by
  rw [Beam.ext_iff, AtOrigin]
  simp only [beam, BitVec.toNat_eq]
  exact and_congr_right fun _ => and_comm

theorem origin_inside {s : State} (h : AtOrigin s) :
    (raster s.data).Inside (beam s) := by
  rw [(atOrigin_iff s).1 h]
  exact Raster.origin_inside _

/-- The passages through the origin are whole frames apart. -/
theorem atOrigin_iterate {s : State} (hw : Within s.data) (h : AtOrigin s)
    (n : Nat) : AtOrigin (clock^[n] s) ↔ (raster s.data).total ∣ n := by
  rw [atOrigin_iff, beam_iterate hw (origin_inside h),
    ← (atOrigin_iff s).1 h]
  exact Raster.iterate_eq_iff (origin_inside h) n

/-- How far the counters are from their ends, the slowest first. -/
def distance (s : State) : Nat :=
  65536 * (s.data 4 - s.core.vcc).toNat +
    256 * (scanlineTotal s - 1 - s.core.slc).toNat +
    (s.data 0 - s.core.hcc).toNat

/-- Whatever the counters are, a call brings them closer to the origin. -/
theorem distance_clock (s : State) :
    AtOrigin (clock s) ∨ distance (clock s) < distance s := by
  have htotal (hv : (clock s).core.vcc = s.core.vcc) :
      scanlineTotal (clock s) = scanlineTotal s := by
    unfold scanlineTotal
    rw [hv, clock_data]
  unfold distance
  rw [clock_data]
  by_cases he : LineEnds s
  · obtain ⟨hhcc, hslc, hvcc, -⟩ := clock_line he
    by_cases hr : RowEnds s
    · rw [if_pos hr] at hslc hvcc
      by_cases hv : s.core.vcc = s.data 4
      · rw [if_pos hv] at hvcc
        exact .inl ⟨hhcc, hvcc, hslc⟩
      · right
        rw [if_neg hv] at hvcc
        rw [hvcc]
        bv_omega
    · right
      rw [if_neg hr] at hslc hvcc
      rw [htotal hvcc, hvcc, hslc]
      unfold RowEnds at hr
      bv_omega
  · right
    obtain ⟨hhcc, hslc, hvcc, -⟩ := clock_step he
    rw [htotal hvcc, hvcc, hslc, hhcc]
    unfold LineEnds at he
    bv_omega

/-- A frame takes as many calls as its lines have characters, and every state
reaches the beginning of one. -/
theorem frame_law (s : State) (hw : Within s.data) :
    (AtOrigin s →
      let total := ((s.data 0).toNat + 1) *
        (((s.data 4).toNat + 1) * ((s.data 9).toNat + 1) + (s.data 5).toNat)
      AtOrigin (clock^[total] s) ∧
        ∀ n, 0 < n → n < total → ¬ AtOrigin (clock^[n] s)) ∧
    ∃ n, AtOrigin (clock^[n] s) := by
  refine ⟨fun h => ?_, iterate_reaches distance_clock s⟩
  have hiff := atOrigin_iterate hw h
  refine ⟨(hiff _).2 (dvd_refl _), fun n h0 hn hat => ?_⟩
  exact absurd (Nat.le_of_dvd h0 ((hiff n).1 hat)) (Nat.not_le.2 hn)

/-- The frame of the registers at reset: 312 lines of 64 characters. -/
theorem reset_frame : AtOrigin (clock^[64 * 312] reset) := by
  have h := (frame_law reset (by unfold Within; decide)).1 (by decide)
  exact h.1

end Xcpc.Vdc
