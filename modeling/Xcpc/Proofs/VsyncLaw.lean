import Xcpc.Proofs.FrameLaw

/-!
# The vertical sync

The pulse starts at the end of a line of the row that `R7` tells, whichever
line of it that is, and takes sixteen lines, since the mask of `R3` leaves no
bits for its width. A row that has more lines than the pulse and one more sees
the pulse twice, though a frame should be synchronized once.
-/

namespace Xcpc.Vdc

open Prog

/-- The interface is told of a rising edge in the next call. -/
def Rises (s : State) : Prop :=
  s.core.vsyncSignal = false ∧ (clock s).core.vsyncSignal = true

/-- The next call ends a line of the row of the pulse. -/
def Triggers (s : State) : Prop := LineEnds s ∧ s.core.vcc = s.data 7

def width (s : State) : Byte := (s.data 3 >>> 4) &&& 0x0f

theorem width_of_within {s : State} (h : Within s.data) : width s = 0 := by
  have hm : ∀ v : Byte, v &&& 0x0f = v → (v >>> 4) &&& 0x0f = 0 := by decide
  exact hm _ (h 3)

/-! ## The pulse -/

theorem vsync_of_low {s : State} (h : s.core.vsyncSignal = false) :
    (clock s).core.vsyncSignal = true ↔ Triggers s := by
  by_cases he : LineEnds s
  · obtain ⟨-, -, -, hp⟩ := clock_line he
    rw [h, pulse, if_neg Bool.false_ne_true] at hp
    by_cases hv : s.core.vcc = s.data 7
    · rw [if_pos (beq_iff_eq.2 hv)] at hp
      rw [(Prod.mk.inj hp).2]
      exact ⟨fun _ => ⟨he, hv⟩, fun _ => rfl⟩
    · rw [if_neg (mt beq_iff_eq.1 hv)] at hp
      rw [(Prod.mk.inj hp).2]
      exact ⟨fun h => absurd h Bool.false_ne_true, fun h => absurd h.2 hv⟩
  · obtain ⟨-, -, -, -, hs⟩ := clock_step he
    rw [hs, h]
    exact ⟨fun h => absurd h Bool.false_ne_true, fun h => absurd h.1 he⟩

theorem rises_iff (s : State) :
    Rises s ↔ s.core.vsyncSignal = false ∧ Triggers s :=
  and_congr_right fun h => vsync_of_low h

/-- The pulse has been up for `n` calls. -/
structure Pulsing (s : State) (n : Nat) : Prop where
  width : width s = 0
  signal : s.core.vsyncSignal = true
  hcc : s.core.hcc.toNat < (s.data 0).toNat + 1
  vsc : s.core.vsc.toNat < 16
  count : n = ((s.data 0).toNat + 1) * s.core.vsc.toNat + s.core.hcc.toNat

theorem width_clock (s : State) : Vdc.width (clock s) = Vdc.width s := by
  rw [Vdc.width, clock_data]
  rfl

theorem Rises.pulsing {s : State} (hn : width s = 0) (h : Rises s) :
    Pulsing (clock s) 0 := by
  obtain ⟨hlow, he, hv⟩ := (rises_iff s).1 h
  obtain ⟨hhcc, -, -, hp⟩ := clock_line he
  rw [hlow, pulse, if_neg Bool.false_ne_true, if_pos (beq_iff_eq.2 hv)] at hp
  obtain ⟨hvsc, -⟩ := Prod.mk.inj hp
  constructor
  · rw [width_clock, hn]
  · exact h.2
  · rw [hhcc]
    exact Nat.succ_pos _
  · rw [hvsc]
    decide
  · rw [hhcc, hvsc]
    rfl

theorem pulse_up : ∀ c : Byte, c.toNat < 16 → ∀ start,
    pulse c true start 0 = if c.toNat = 15 then (0, false) else (c + 1, true) := by
  decide +kernel

/-- A call of the pulse leads to the next one, and the last call ends it. -/
theorem Pulsing.clock {s : State} {n : Nat} (h : Pulsing s n) :
    (n + 1 < ((s.data 0).toNat + 1) * 16 → Pulsing (clock s) (n + 1)) ∧
      (n + 1 = ((s.data 0).toNat + 1) * 16 →
        (Vdc.clock s).core.vsyncSignal = false) := by
  have hcount := h.count
  have hlt := h.hcc
  have hvsc := h.vsc
  by_cases he : LineEnds s
  · obtain ⟨hhcc, -, -, hp⟩ := clock_line he
    have hw : (s.data 3 >>> 4) &&& 0x0f = 0 := h.width
    have hlast : n + 1 = ((s.data 0).toNat + 1) * (s.core.vsc.toNat + 1) := by
      rw [Nat.mul_succ, hcount, show s.core.hcc = s.data 0 from he]
      rfl
    rw [h.signal, hw, pulse_up _ hvsc] at hp
    by_cases h15 : s.core.vsc.toNat = 15
    · rw [if_pos h15] at hp
      refine ⟨fun hn => ?_, fun _ => (Prod.mk.inj hp).2⟩
      rw [hlast, h15] at hn
      exact absurd hn (Nat.lt_irrefl _)
    · rw [if_neg h15] at hp
      obtain ⟨hc, hs⟩ := Prod.mk.inj hp
      have hval : (s.core.vsc + 1).toNat = s.core.vsc.toNat + 1 := by bv_omega
      refine ⟨fun _ => ⟨?_, hs, ?_, ?_, ?_⟩, fun hn => ?_⟩
      · rw [width_clock, h.width]
      · rw [hhcc]
        exact Nat.succ_pos _
      · rw [hc, hval]
        omega
      · rw [clock_data, hc, hval, hhcc, hlast]
        rfl
      · rw [hlast] at hn
        have := Nat.eq_of_mul_eq_mul_left (Nat.succ_pos _) hn
        omega
  · obtain ⟨hhcc, -, -, hc, hs⟩ := clock_step he
    have hne : s.core.hcc ≠ s.data 0 := he
    have hval : (s.core.hcc + 1).toNat = s.core.hcc.toNat + 1 := by bv_omega
    refine ⟨fun _ => ⟨?_, ?_, ?_, ?_, ?_⟩, fun hn => ?_⟩
    · rw [width_clock, h.width]
    · rw [hs, h.signal]
    · rw [clock_data, hhcc, hval]
      bv_omega
    · rw [hc]
      exact hvsc
    · rw [clock_data, hc, hhcc, hval, hcount]
      rfl
    · -- The last call of the pulse ends a line.
      have hle := Nat.mul_le_mul_left ((s.data 0).toNat + 1)
        (Nat.le_of_lt_succ hvsc)
      have h16 := Nat.mul_succ ((s.data 0).toNat + 1) 15
      bv_omega

theorem Rises.sixteen {s : State} (hn : width s = 0) (h : Rises s) :
    let line := (s.data 0).toNat + 1
    (∀ k < line * 16, (Vdc.clock^[k] (clock s)).core.vsyncSignal = true) ∧
      (Vdc.clock^[line * 16] (clock s)).core.vsyncSignal = false := by
  intro line
  have hdata (k : Nat) : (Vdc.clock^[k] (clock s)).data = s.data := by
    rw [iterate_data, clock_data]
  have hup {k : Nat} (hk : k < line * 16) :
      Pulsing (Vdc.clock^[k] (clock s)) k := by
    induction k with
    | zero => exact h.pulsing hn
    | succ k ih =>
        rw [Function.iterate_succ_apply']
        refine (ih (by omega)).clock.1 ?_
        rw [hdata]
        exact hk
  refine ⟨fun k hk => (hup hk).signal, ?_⟩
  obtain ⟨m, hm⟩ : ∃ m, line * 16 = m + 1 :=
    Nat.exists_eq_succ_of_ne_zero (by omega)
  rw [hm, Function.iterate_succ_apply']
  refine (hup (by omega)).clock.2 ?_
  rw [hdata]
  exact hm.symm

/-! ## One pulse a frame -/

/-- Before the next passage through the origin the interface is told of one
rising edge at most. The call that leads to the origin belongs to the frame
that it ends. -/
def OneRise (s : State) : Prop :=
  ∀ i j, i < j → (∀ k, 0 < k → k ≤ j → ¬ AtOrigin (clock^[k] s)) →
    Rises (clock^[i] s) → ¬ Rises (clock^[j] s)

/-- What the vertical sync should do with these registers, from wherever the
counters are. -/
def VsyncLaw (data : Fin 18 → Byte) : Prop :=
  ∀ s : State, s.data = data →
    (AtOrigin s → OneRise s) ∧
    (width s = 0 → Rises s →
      let line := (data 0).toNat + 1
      (∀ k < line * 16, (clock^[k] (clock s)).core.vsyncSignal = true) ∧
        (clock^[line * 16] (clock s)).core.vsyncSignal = false)

/-- The row of the pulse is not in the frame, or has at most one line more than
the pulse. -/
def ShortRow (data : Fin 18 → Byte) : Prop :=
  (data 4).toNat < (data 7).toNat ∨
    (raster data).lines (data 7).toNat ≤ 17

/-- The counters after some calls from the origin. -/
theorem place_from_origin {s : State} (hw : Within s.data) (h : AtOrigin s)
    {n : Nat} (hn : n < (raster s.data).total) :
    (raster s.data).Inside (beam (clock^[n] s)) ∧
      (raster s.data).place (beam (clock^[n] s)) = n := by
  rw [beam_iterate hw (origin_inside h), (atOrigin_iff s).1 h]
  exact Raster.place_from_origin hn

/-- The call at the end of the line `q` of the row of the pulse. -/
def lineEnd (data : Fin 18 → Byte) (q : Nat) : Nat :=
  (raster data).place ⟨(data 0).toNat, q, (data 7).toNat⟩

theorem lineEnd_eq (data : Fin 18 → Byte) (q : Nat) :
    lineEnd data q = lineEnd data 0 + ((data 0).toNat + 1) * q := by
  simp only [lineEnd, Raster.place, Raster.above, Nat.add_zero, Nat.mul_add]
  exact Nat.add_right_comm _ _ _

theorem lineEnd_lt {data : Fin 18 → Byte} {q : Nat}
    (hrow : (data 7).toNat ≤ (data 4).toNat)
    (hq : q < (raster data).lines (data 7).toNat) :
    lineEnd data q < (raster data).total :=
  Raster.place_lt ⟨Nat.lt_succ_self _, hq, Nat.lt_succ_of_le hrow⟩

/-- The pulse is triggered at the ends of the lines of its row. -/
theorem triggers_iff {s : State} (hw : Within s.data) (h : AtOrigin s) {n : Nat}
    (hn : n < (raster s.data).total) :
    Triggers (clock^[n] s) ↔ (s.data 7).toNat ≤ (s.data 4).toNat ∧
      ∃ q < (raster s.data).lines (s.data 7).toNat, n = lineEnd s.data q := by
  obtain ⟨hin, hp⟩ := place_from_origin hw h hn
  unfold Triggers LineEnds
  rw [iterate_data]
  constructor
  · rintro ⟨he, hv⟩
    have hline := hin.line
    have hrow := hin.row
    simp only [beam, he, hv] at hp hline hrow
    exact ⟨Nat.le_of_lt_succ hrow, _, hline, hp.symm⟩
  · rintro ⟨hrow, q, hq, hnq⟩
    have hb := Raster.place_injective hin
      ⟨Nat.lt_succ_self _, hq, Nat.lt_succ_of_le hrow⟩ (hp.trans hnq)
    rw [Beam.ext_iff] at hb
    exact ⟨BitVec.eq_of_toNat_eq hb.1, BitVec.eq_of_toNat_eq hb.2.2⟩

theorem Rises.after {s : State} (hw : Within s.data) {i : Nat}
    (h : Rises (clock^[i] s)) :
    let line := (s.data 0).toNat + 1
    (∀ n, i + 1 ≤ n → n < i + 1 + line * 16 →
      (Vdc.clock^[n] s).core.vsyncSignal = true) ∧
    (Vdc.clock^[i + 1 + line * 16] s).core.vsyncSignal = false := by
  intro line
  have hshift (k : Nat) :
      Vdc.clock^[k] (Vdc.clock (Vdc.clock^[i] s)) = Vdc.clock^[i + 1 + k] s := by
    rw [← Function.iterate_succ_apply' Vdc.clock,
      ← Function.iterate_add_apply, Nat.add_comm]
  have hwi : Within (Vdc.clock^[i] s).data := by rwa [iterate_data]
  obtain ⟨hup, hdown⟩ := h.sixteen (width_of_within hwi)
  rw [iterate_data] at hup hdown
  constructor
  · intro n hlo hhi
    have h := hup (n - (i + 1)) (by omega)
    rwa [hshift, Nat.add_sub_cancel' hlo] at h
  · rwa [hshift] at hdown

/-- A signal that is not triggered stays low. -/
theorem low_until {s : State} {m n : Nat} (hmn : m ≤ n)
    (hlow : (clock^[m] s).core.vsyncSignal = false)
    (h : ∀ k, m ≤ k → k < n → ¬ Triggers (clock^[k] s)) :
    (clock^[n] s).core.vsyncSignal = false := by
  induction n, hmn using Nat.le_induction with
  | base => exact hlow
  | succ n hmn ih =>
      have hn := ih fun k hlo hhi => h k hlo (by omega)
      rw [Function.iterate_succ_apply']
      exact Bool.eq_false_iff.2
        (mt (vsync_of_low hn).1 (h n hmn (Nat.lt_succ_self n)))

/-- Two rising edges are more lines apart than a short row has. -/
theorem oneRise {s : State} (hw : Within s.data) (h : AtOrigin s)
    (hshort : ShortRow s.data) : OneRise s := by
  intro i j hij hno hi hj
  have hjt : j < (raster s.data).total := by
    by_contra hge
    have hpos : 0 < (raster s.data).total :=
      Nat.zero_lt_of_lt (Raster.place_lt (raster s.data).origin_inside)
    exact hno _ hpos (by omega) ((atOrigin_iterate hw h _).2 (dvd_refl _))
  obtain ⟨hrow, q, -, hiq⟩ :=
    (triggers_iff hw h (by omega)).1 ((rises_iff _).1 hi).2
  obtain ⟨-, q', hq', hjq⟩ := (triggers_iff hw h hjt).1 ((rises_iff _).1 hj).2
  have hlines := hshort.resolve_left (Nat.not_lt.2 hrow)
  rw [lineEnd_eq] at hiq hjq
  have hfar : i + 1 + ((s.data 0).toNat + 1) * 16 ≤ j := by
    by_contra hnear
    have hup := (hi.after hw).1 j hij (Nat.not_le.1 hnear)
    rw [hj.1] at hup
    exact absurd hup Bool.false_ne_true
  have hmul := Nat.mul_le_mul_left ((s.data 0).toNat + 1)
    (show q' ≤ 16 by omega)
  omega

/-- A long row has a second rising edge, seventeen lines behind the first. -/
theorem not_oneRise {s : State} (hw : Within s.data) (h : AtOrigin s)
    (hlow : s.core.vsyncSignal = false) (hlong : ¬ ShortRow s.data) :
    ¬ OneRise s := by
  obtain ⟨hrow, hlines⟩ := not_or.1 hlong
  have hrow := Nat.not_lt.1 hrow
  have h0 := lineEnd_lt hrow (show 0 < _ by omega)
  have h17 := lineEnd_lt hrow (Nat.not_le.1 hlines)
  have heq := lineEnd_eq s.data 17
  have hline (q : Nat) (hq : q < 17) :=
    Nat.mul_le_mul_left ((s.data 0).toNat + 1) (Nat.le_of_lt_succ hq)
  have hmul := Nat.mul_succ ((s.data 0).toNat + 1) 16
  have hfirst : Rises (clock^[lineEnd s.data 0] s) := by
    refine (rises_iff _).2 ⟨?_, ?_⟩
    · refine low_until (Nat.zero_le _) hlow fun k _ hk htr => ?_
      obtain ⟨-, q, -, hkq⟩ := (triggers_iff hw h (by omega)).1 htr
      rw [lineEnd_eq] at hkq
      omega
    · exact (triggers_iff hw h h0).2 ⟨hrow, 0, by omega, rfl⟩
  have hsecond : Rises (clock^[lineEnd s.data 17] s) := by
    refine (rises_iff _).2 ⟨?_, ?_⟩
    · refine low_until (by omega) (hfirst.after hw).2 fun k hlo hk htr => ?_
      -- Between the end of the pulse and line 17 no line ends.
      obtain ⟨-, q, -, hkq⟩ := (triggers_iff hw h (by omega)).1 htr
      rw [lineEnd_eq] at hkq
      have hq : ((s.data 0).toNat + 1) * q < ((s.data 0).toNat + 1) * 17 := by
        omega
      have := hline q (Nat.lt_of_mul_lt_mul_left hq)
      omega
    · exact (triggers_iff hw h h17).2 ⟨hrow, 17, Nat.not_le.1 hlines, rfl⟩
  intro hone
  refine hone _ _ (by omega) (fun k hpos hk hat => ?_) hfirst hsecond
  have := Nat.le_of_dvd hpos ((atOrigin_iterate hw h k).1 hat)
  omega

/-- The law holds of the registers that make the row of the pulse short. -/
theorem vsync_law {data : Fin 18 → Byte} (hw : Within data) :
    VsyncLaw data ↔ ShortRow data := by
  constructor
  · intro h
    by_contra hlong
    let s : State := { reset with data := data }
    have hs : AtOrigin s := ⟨rfl, rfl, rfl⟩
    exact not_oneRise (s := s) hw hs rfl hlong ((h s rfl).1 hs)
  · rintro hshort s rfl
    exact ⟨fun hs => oneRise hw hs hshort, fun hn hr => hr.sixteen hn⟩

theorem reset_vsync : VsyncLaw resetRegs :=
  (vsync_law (by unfold Within; decide)).2 (.inr (by decide))

/-- Rows of 32 lines: `R9` written to the registers at reset. -/
theorem tall_vsync :
    let s := setValue (setIndex reset 9) 31
    Within s.data ∧ AtOrigin s ∧ ¬ OneRise s ∧ ¬ VsyncLaw s.data := by
  intro s
  have hw : Within s.data := by
    unfold Within
    decide
  have hs : AtOrigin s := by decide
  have hlong : ¬ ShortRow s.data := by
    rw [ShortRow, not_or]
    exact ⟨by decide, by decide⟩
  have hone := not_oneRise hw hs rfl hlong
  exact ⟨hw, hs, hone, fun h => hone ((h s rfl).1 hs)⟩

end Xcpc.Vdc
