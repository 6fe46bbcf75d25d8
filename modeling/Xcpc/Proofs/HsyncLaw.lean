import Xcpc.Proofs.FrameLaw

/-!
# The horizontal sync

The pulse starts at the call that brings the character counter to `R2`, unless
it is still up, and is up for as many calls as the width tells, sixteen for a
width of zero. A pulse that is shorter than a line has ended when the counter
comes to `R2` again, so no line is without its pulse. Where in its line the
pulse is up is told by one equation between the two counters.
-/

namespace Xcpc.Vdc

/-- The interface is told of a rising edge of the horizontal sync in the next
call. -/
def HsyncRises (s : State) : Prop :=
  s.core.hsyncSignal = false ∧ (clock s).core.hsyncSignal = true

def HsyncFalls (s : State) : Prop :=
  s.core.hsyncSignal = true ∧ (clock s).core.hsyncSignal = false

/-- The calls that a pulse is up. -/
def hsyncWidth (data : Fin 18 → Byte) : Nat :=
  if data 3 &&& 0x0f = 0 then 16 else (data 3 &&& 0x0f).toNat

theorem hsyncWidth_bounds (data : Fin 18 → Byte) :
    1 ≤ hsyncWidth data ∧ hsyncWidth data ≤ 16 := by
  have h : ∀ v : Byte, 1 ≤ (if v &&& 0x0f = 0 then 16 else (v &&& 0x0f).toNat) ∧
      (if v &&& 0x0f = 0 then 16 else (v &&& 0x0f).toNat) ≤ 16 := by
    decide +kernel
  exact h (data 3)

theorem clock_hsync (s : State) :
    ((clock s).core.hsc, (clock s).core.hsyncSignal) =
      pulse s.core.hsc s.core.hsyncSignal ((clock s).core.hcc == s.data 2)
        (s.data 3 &&& 0x0f) := by
  have h : ((clockH s).1.hsc, (clockH s).1.hsyncSignal) =
      pulse s.core.hsc s.core.hsyncSignal ((clockH s).1.hcc == s.data 2)
        (s.data 3 &&& 0x0f) := rfl
  unfold clock
  simp only []
  split
  · split
    · exact h
    · exact h
  · exact h

theorem hcc_clock {s : State} (h : s.core.hcc.toNat ≤ (s.data 0).toNat) :
    (clock s).core.hcc.toNat =
      if s.core.hcc.toNat = (s.data 0).toNat then 0
      else s.core.hcc.toNat + 1 := by
  by_cases he : LineEnds s
  · have heq : s.core.hcc = s.data 0 := he
    rw [(clock_line he).1, heq, if_pos rfl]
    rfl
  · have hne : s.core.hcc ≠ s.data 0 := he
    have hlt : s.core.hcc.toNat ≠ (s.data 0).toNat :=
      fun h => hne (BitVec.eq_of_toNat_eq h)
    rw [(clock_step he).1, if_neg hlt]
    bv_omega

theorem nibble_succ : ∀ c : Byte, c.toNat < 16 →
    (c + 1) &&& 0x0f = if c.toNat = 15 then 0 else c + 1 := by
  decide +kernel

/-- A call of the pulse, which is the last one if the width is reached. -/
theorem width_up {c : Byte} {data : Fin 18 → Byte} (start : Bool)
    (h : c.toNat < hsyncWidth data) :
    pulse c true start (data 3 &&& 0x0f) =
      if c.toNat + 1 = hsyncWidth data then (0, false) else (c + 1, true) := by
  have hw := hsyncWidth_bounds data
  have hc := nibble_succ c (by omega)
  -- The counter reaches the width when it is equal to the nibble.
  have hiff : (c + 1) &&& 0x0f = data 3 &&& 0x0f ↔
      c.toNat + 1 = hsyncWidth data := by
    rw [hc]
    unfold hsyncWidth at h ⊢
    by_cases hz : data 3 &&& 0x0f = 0
    · rw [if_pos hz] at h ⊢
      rw [hz]
      by_cases h15 : c.toNat = 15
      · rw [if_pos h15]
        exact iff_of_true rfl (congrArg (· + 1) h15)
      · rw [if_neg h15]
        bv_omega
    · rw [if_neg hz] at h ⊢
      have hn : (data 3 &&& 0x0f).toNat ≤ 15 := by
        rw [BitVec.toNat_and]
        exact Nat.and_le_right
      rw [if_neg (by omega)]
      bv_omega
  unfold pulse
  simp only [if_true, beq_iff_eq]
  by_cases hlast : c.toNat + 1 = hsyncWidth data
  · rw [if_pos (hiff.2 hlast), if_pos hlast]
  · rw [if_neg (hiff.not.2 hlast), if_neg hlast, hc, if_neg]
    intro h15
    unfold hsyncWidth at h hlast
    split at h
    · rename_i hz
      rw [if_pos hz] at hlast
      omega
    · rename_i hz
      have : (data 3 &&& 0x0f).toNat ≤ 15 := by
        rw [BitVec.toNat_and]
        exact Nat.and_le_right
      rw [if_neg hz] at hlast
      omega

/-- The counters inside a line, and what they say of each other while the pulse
is up: the width counter tells how many characters ago the line was at `R2`. -/
structure Lined (s : State) : Prop where
  hcc : s.core.hcc.toNat ≤ (s.data 0).toNat
  hsc : s.core.hsyncSignal = true → s.core.hsc.toNat < hsyncWidth s.data
  behind : s.core.hsyncSignal = true →
    s.core.hcc.toNat = (s.data 2).toNat + s.core.hsc.toNat ∨
      s.core.hcc.toNat + (s.data 0).toNat + 1 =
        (s.data 2).toNat + s.core.hsc.toNat

/-- The pulse fits into a line. -/
def PulseFits (data : Fin 18 → Byte) : Prop :=
  (data 2).toNat ≤ (data 0).toNat ∧ hsyncWidth data ≤ (data 0).toNat

/-- What a call does to a pulse that is up: it is the last one, or the pulse
goes on. -/
theorem Lined.up {s : State} (h : Lined s) (hup : s.core.hsyncSignal = true) :
    (s.core.hsc.toNat + 1 = hsyncWidth s.data ∧
      (clock s).core.hsyncSignal = false) ∨
    (s.core.hsc.toNat + 1 < hsyncWidth s.data ∧
      (clock s).core.hsyncSignal = true ∧
      (clock s).core.hsc.toNat = s.core.hsc.toNat + 1) := by
  have hlt := h.hsc hup
  have hw := hsyncWidth_bounds s.data
  have hp := clock_hsync s
  rw [hup, width_up _ hlt] at hp
  by_cases hlast : s.core.hsc.toNat + 1 = hsyncWidth s.data
  · rw [if_pos hlast] at hp
    exact .inl ⟨hlast, (Prod.mk.inj hp).2⟩
  · rw [if_neg hlast] at hp
    obtain ⟨hc, hs⟩ := Prod.mk.inj hp
    refine .inr ⟨by omega, hs, ?_⟩
    rw [hc]
    bv_omega

theorem low_clock {s : State} (hlow : s.core.hsyncSignal = false) :
    ((clock s).core.hsyncSignal = true ↔ (clock s).core.hcc = s.data 2) ∧
      ((clock s).core.hsyncSignal = true → (clock s).core.hsc = 0) := by
  have hp := clock_hsync s
  rw [hlow] at hp
  unfold pulse at hp
  rw [if_neg Bool.false_ne_true] at hp
  by_cases hcc : (clock s).core.hcc = s.data 2
  · rw [if_pos (beq_iff_eq.2 hcc)] at hp
    obtain ⟨hc, hs⟩ := Prod.mk.inj hp
    exact ⟨iff_of_true hs hcc, fun _ => hc⟩
  · rw [if_neg (mt beq_iff_eq.1 hcc)] at hp
    obtain ⟨-, hs⟩ := Prod.mk.inj hp
    have hne : ¬ (clock s).core.hsyncSignal = true := by
      rw [hs]
      exact Bool.false_ne_true
    exact ⟨iff_of_false hne hcc, fun h => absurd h hne⟩

/-- A pulse that fits is down again before the counter comes back to `R2`. -/
theorem Lined.rises_iff {s : State} (hf : PulseFits s.data) (h : Lined s) :
    HsyncRises s ↔ (clock s).core.hcc = s.data 2 := by
  cases hsig : s.core.hsyncSignal with
  | false =>
      rw [HsyncRises, hsig, eq_self, true_and]
      exact (low_clock hsig).1
  | true =>
      rw [HsyncRises, hsig]
      refine iff_of_false (fun h => Bool.false_ne_true h.1.symm) fun hcc => ?_
      have hlt := h.hsc hsig
      have hbehind := h.behind hsig
      have hnext := hcc_clock h.hcc
      have hle := h.hcc
      obtain ⟨h2, hw⟩ := hf
      rw [hcc] at hnext
      split at hnext
      · omega
      · omega

theorem Lined.clock {s : State} (hf : PulseFits s.data) (h : Lined s) :
    Lined (clock s) := by
  have hle := h.hcc
  have hnext := hcc_clock hle
  have hw := hsyncWidth_bounds s.data
  obtain ⟨h2, hfit⟩ := hf
  constructor
  · rw [hnext, clock_data]
    split
    · omega
    · omega
  · intro hup
    rw [clock_data]
    cases hsig : s.core.hsyncSignal with
    | false =>
        rw [(low_clock hsig).2 hup]
        exact hw.1
    | true =>
        rcases h.up hsig with ⟨-, hdown⟩ | ⟨hlt, -, hc⟩
        · exact absurd (hdown.symm.trans hup) Bool.false_ne_true
        · rw [hc]
          exact hlt
  · intro hup
    rw [clock_data]
    cases hsig : s.core.hsyncSignal with
    | false =>
        left
        rw [(low_clock hsig).2 hup, (low_clock hsig).1.1 hup]
        rfl
    | true =>
        rcases h.up hsig with ⟨-, hdown⟩ | ⟨hlt, -, hc⟩
        · exact absurd (hdown.symm.trans hup) Bool.false_ne_true
        · have hbehind := h.behind hsig
          rw [hc, hnext]
          split
          · omega
          · omega

/-! ## The run from reset -/

theorem lined_iterate {s : State} (hf : PulseFits s.data) (h : Lined s)
    (n : Nat) : Lined (clock^[n] s) := by
  induction n with
  | zero => exact h
  | succ n ih =>
      rw [Function.iterate_succ_apply']
      exact ih.clock (by rwa [iterate_data])

theorem hcc_iterate {s : State} (h0 : s.core.hcc = 0) (n : Nat) :
    (clock^[n] s).core.hcc.toNat = n % ((s.data 0).toNat + 1) := by
  induction n with
  | zero =>
      rw [Function.iterate_zero_apply, h0, Nat.zero_mod]
      rfl
  | succ n ih =>
      have hmod : (n + 1) % ((s.data 0).toNat + 1) =
          (n % ((s.data 0).toNat + 1) + 1) % ((s.data 0).toNat + 1) := by
        rw [Nat.mod_add_mod]
      have hlt : n % ((s.data 0).toNat + 1) < (s.data 0).toNat + 1 :=
        Nat.mod_lt _ (Nat.succ_pos _)
      have hnext := hcc_clock (s := clock^[n] s)
        (by rw [ih, iterate_data]; omega)
      rw [Function.iterate_succ_apply', hnext, iterate_data, ih, hmod]
      split
      · rename_i hend
        rw [hend, Nat.mod_self]
      · exact (Nat.mod_eq_of_lt (by omega)).symm

/-- The calls of a pulse, from its rising edge on. -/
theorem HsyncRises.pulse {s : State} (hf : PulseFits s.data) (h : Lined s)
    (hr : HsyncRises s) {k : Nat} (hk : k < hsyncWidth s.data) :
    (Vdc.clock^[k + 1] s).core.hsyncSignal = true ∧
      (Vdc.clock^[k + 1] s).core.hsc.toNat = k := by
  induction k with
  | zero =>
      refine ⟨hr.2, ?_⟩
      show (Vdc.clock s).core.hsc.toNat = 0
      rw [(low_clock hr.1).2 hr.2]
      rfl
  | succ k ih =>
      obtain ⟨hup, hc⟩ := ih (by omega)
      have hl := lined_iterate hf h (k + 1)
      rw [Function.iterate_succ_apply']
      rcases hl.up hup with ⟨hlast, -⟩ | ⟨-, hup', hc'⟩
      · rw [iterate_data] at hlast
        omega
      · exact ⟨hup', by rw [hc', hc]⟩

theorem HsyncRises.falls {s : State} (hf : PulseFits s.data) (h : Lined s)
    (hr : HsyncRises s) :
    HsyncFalls (Vdc.clock^[hsyncWidth s.data] s) ∧
      ∀ k, 0 < k → k < hsyncWidth s.data →
        ¬ HsyncFalls (Vdc.clock^[k] s) := by
  have hw := hsyncWidth_bounds s.data
  constructor
  · obtain ⟨k, hk⟩ : ∃ k, hsyncWidth s.data = k + 1 :=
      Nat.exists_eq_succ_of_ne_zero (by omega)
    obtain ⟨hup, hc⟩ := hr.pulse hf h (k := k) (by omega)
    rw [hk]
    refine ⟨hup, ?_⟩
    rcases (lined_iterate hf h (k + 1)).up hup with ⟨-, hdown⟩ | ⟨hlt, -⟩
    · exact hdown
    · rw [iterate_data, hc, hk] at hlt
      exact absurd hlt (Nat.lt_irrefl _)
  · intro k hpos hk hfall
    have hup := (hr.pulse hf h hk).1
    rw [Function.iterate_succ_apply', hfall.2] at hup
    exact Bool.false_ne_true hup

/-- Without the sync position in the line there is no pulse. -/
theorem no_pulse {s : State} (h0 : s.core.hcc = 0)
    (hlow : s.core.hsyncSignal = false)
    (hpos : (s.data 0).toNat < (s.data 2).toNat) (n : Nat) :
    (clock^[n] s).core.hsyncSignal = false := by
  induction n with
  | zero => exact hlow
  | succ n ih =>
      have hcc := hcc_iterate h0 (n + 1)
      have hlt : (n + 1) % ((s.data 0).toNat + 1) < (s.data 0).toNat + 1 :=
        Nat.mod_lt _ (Nat.succ_pos _)
      rw [Function.iterate_succ_apply'] at hcc ⊢
      refine Bool.eq_false_iff.2 fun hup => ?_
      rw [(low_clock ih).1.1 hup, iterate_data] at hcc
      omega

/-- The pulse of every line, in the run from the counters of a reset. The call
`n` belongs to the line `(n + 1) / line`. -/
theorem hsync_law (s : State) (hs : s.core = reset.core) :
    let line := (s.data 0).toNat + 1
    ((s.data 2).toNat ≤ (s.data 0).toNat →
      hsyncWidth s.data ≤ (s.data 0).toNat →
      (∀ m, 0 < m → ∃! n, (n + 1) / line = m ∧ HsyncRises (clock^[n] s)) ∧
      ∀ n, (HsyncRises (clock^[n] s) ↔
          (clock^[n + 1] s).core.hcc = s.data 2) ∧
        (HsyncRises (clock^[n] s) →
          HsyncFalls (clock^[n + hsyncWidth s.data] s) ∧
          ∀ k, 0 < k → k < hsyncWidth s.data →
            ¬ HsyncFalls (clock^[n + k] s))) ∧
    ((s.data 0).toNat < (s.data 2).toNat →
      ∀ n, ¬ HsyncRises (clock^[n] s) ∧ ¬ HsyncFalls (clock^[n] s)) := by
  intro line
  have h0 : s.core.hcc = 0 := by rw [hs]; rfl
  have hlow : s.core.hsyncSignal = false := by rw [hs]; rfl
  refine ⟨fun h2 hw => ?_, fun hpos n => ?_⟩
  · have hf : PulseFits s.data := ⟨h2, hw⟩
    have hstart : Lined s := by
      refine ⟨by rw [h0]; exact Nat.zero_le _, ?_, ?_⟩
      · exact fun h => absurd (hlow.symm.trans h) Bool.false_ne_true
      · exact fun h => absurd (hlow.symm.trans h) Bool.false_ne_true
    have hl := lined_iterate hf hstart
    have hrises (n : Nat) : HsyncRises (clock^[n] s) ↔
        (clock^[n + 1] s).core.hcc = s.data 2 := by
      rw [(hl n).rises_iff (by rwa [iterate_data]), iterate_data,
        Function.iterate_succ_apply']
    have hplace (n : Nat) : HsyncRises (clock^[n] s) ↔
        (n + 1) % line = (s.data 2).toNat := by
      rw [hrises, ← hcc_iterate h0 (n + 1), BitVec.toNat_eq]
    refine ⟨fun m hm => ?_, fun n => ⟨hrises n, fun hr => ?_⟩⟩
    · have hlt : (s.data 2).toNat < line := by omega
      have hpos : 0 < m * line := Nat.mul_pos hm (Nat.succ_pos _)
      refine ⟨m * line + (s.data 2).toNat - 1, ⟨?_, ?_⟩, ?_⟩
      · rw [Nat.sub_add_cancel (by omega), Nat.mul_comm,
          Nat.mul_add_div (Nat.succ_pos _), Nat.div_eq_of_lt hlt, Nat.add_zero]
      · rw [hplace, Nat.sub_add_cancel (by omega), Nat.mul_comm,
          Nat.mul_add_mod, Nat.mod_eq_of_lt hlt]
      · rintro n ⟨hdiv, hr⟩
        have hn := Nat.div_add_mod (n + 1) line
        rw [hdiv, (hplace n).1 hr, Nat.mul_comm] at hn
        omega
    · have hfall := hr.falls (by rwa [iterate_data]) (hl n)
      rw [iterate_data] at hfall
      simp only [← Function.iterate_add_apply] at hfall
      simpa only [Nat.add_comm] using hfall
  · have hn := no_pulse h0 hlow hpos
    refine ⟨fun h => ?_, fun h => ?_⟩
    · have hup := h.2
      rw [← Function.iterate_succ_apply' clock, hn] at hup
      exact Bool.false_ne_true hup
    · exact Bool.false_ne_true ((hn n).symm.trans h.1)

/-- The second line after a reset has one pulse, of fourteen calls. -/
theorem reset_hsync :
    (∃! n, (n + 1) / 64 = 1 ∧ HsyncRises (clock^[n] reset)) ∧
      HsyncRises (clock^[109] reset) ∧ HsyncFalls (clock^[109 + 14] reset) := by
  have h := (hsync_law reset rfl).1 (by decide) (by decide)
  have hcc : (clock^[109 + 1] reset).core.hcc = reset.data 2 := by
    refine BitVec.eq_of_toNat_eq ?_
    rw [hcc_iterate (by rfl) 110]
    rfl
  have hr : HsyncRises (clock^[109] reset) := (h.2 109).1.2 hcc
  exact ⟨h.1 1 Nat.one_pos, hr, ((h.2 109).2 hr).1⟩

end Xcpc.Vdc
