import Xcpc.Lib.XorLinear
import Xcpc.Proofs.ToneLaw

/-!
# The noise generator

The shift register of the noise takes the complement of the exclusive or of
its bits 0 and 3 in at the top. On complemented words the exclusive or is all
there is, so there a shift is linear, and what it does in 2 ^ 17 - 1 steps can
be computed: nothing. That number is a prime, and so a word is either one that
a shift leaves alone, which is the one of all ones, or one of an orbit that
goes through 2 ^ 17 - 1 words. The register is cleared by a reset and the
orbit of zero does not meet the word of all ones.

The periods decide when the register is shifted, and nothing more.
-/

namespace Xcpc.Psg

open Prog

/-! ## A shift -/

/-- What `clock` makes of the shift register. -/
def nextShift (lfsr : BitVec 32) : BitVec 32 :=
  (~~~((lfsr <<< 16) ^^^ (lfsr <<< 13)) &&& 0x10000) |||
    ((lfsr >>> 1) &&& 0x0ffff)

/-- A shift of the complement. -/
def feed (y : BitVec 17) : BitVec 17 :=
  (y >>> 1) ||| (((y ^^^ (y >>> 3)) &&& 1) <<< 16)

/-- The shift register that `y` is the complement of. -/
def word (y : BitVec 17) : BitVec 32 := (~~~y).setWidth 32

/-- The words of 17 bits. -/
def Words : Set (BitVec 32) := {x | x.toNat < 2 ^ 17}

theorem nextShift_word (y : BitVec 17) :
    nextShift (word y) = word (feed y) := by
  ext i hi
  interval_cases i <;> simp [nextShift, word, feed]

theorem feed_linear : XorLinear feed := by
  intro x y
  ext i hi
  simp [feed]
  grind

theorem feed_pow : feed^[2 ^ 17 - 1] = id := by
  refine (feed_linear.iterate _).ext (fun _ _ => rfl) ?_
  rw [feed_linear.images_iterate]
  exact (by decide +kernel : imagesPow (images feed) 17 = units 17 0 17).trans
    (List.map_id _).symm

theorem feed_bijective : Function.Bijective feed := by
  have hu : Function.ptsOfPeriod feed (2 ^ 17 - 1) = Set.univ :=
    Set.eq_univ_of_forall fun y => congrFun feed_pow y
  have hb := Function.bijOn_ptsOfPeriod feed (n := 2 ^ 17 - 1) (by norm_num)
  rw [hu] at hb
  exact Set.bijOn_univ.1 hb

theorem word_mem (y : BitVec 17) : word y ∈ Words := by
  show (word y).toNat < 2 ^ 17
  rw [word, BitVec.toNat_setWidth]
  exact (Nat.mod_le _ _).trans_lt (~~~y).isLt

theorem word_injective : Function.Injective word := by
  intro y z h
  have hn := congrArg (BitVec.setWidth 17) h
  simp only [word] at hn
  rw [BitVec.setWidth_setWidth_of_le _ (by omega),
    BitVec.setWidth_setWidth_of_le _ (by omega), BitVec.setWidth_eq,
    BitVec.setWidth_eq] at hn
  exact BitVec.not_inj.1 hn

theorem exists_word {x : BitVec 32} (h : x ∈ Words) : ∃ y, word y = x := by
  refine ⟨~~~ x.setWidth 17, ?_⟩
  apply BitVec.eq_of_toNat_eq
  have hlt : x.toNat < 2 ^ 17 := h
  rw [word, BitVec.not_not, BitVec.toNat_setWidth, BitVec.toNat_setWidth,
    Nat.mod_eq_of_lt hlt, Nat.mod_eq_of_lt x.isLt]

theorem iterate_word (n : Nat) (y : BitVec 17) :
    nextShift^[n] (word y) = word (feed^[n] y) := by
  have h : Function.Semiconj word feed nextShift :=
    fun y => (nextShift_word y).symm
  exact (h.iterate_right n y).symm

theorem nextShift_bijOn : Set.BijOn nextShift Words Words := by
  refine ⟨?_, ?_, ?_⟩
  · intro x hx
    obtain ⟨y, rfl⟩ := exists_word hx
    rw [nextShift_word]
    exact word_mem _
  · intro x hx x' hx' he
    obtain ⟨y, rfl⟩ := exists_word hx
    obtain ⟨y', rfl⟩ := exists_word hx'
    rw [nextShift_word, nextShift_word] at he
    rw [feed_bijective.1 (word_injective he)]
  · intro x hx
    obtain ⟨y, rfl⟩ := exists_word hx
    obtain ⟨z, rfl⟩ := feed_bijective.2 y
    exact ⟨word z, word_mem z, nextShift_word z⟩

theorem zero_eq_word : (0 : BitVec 32) = word (BitVec.allOnes 17) := by decide

/-- The orbit does not meet the word that a shift leaves alone. -/
theorem orbit_ne (n : Nat) : nextShift^[n] 0 ≠ 0x1ffff := by
  have hones : (0x1ffff : BitVec 32) = word 0 := by decide
  intro h
  rw [zero_eq_word, iterate_word, hones] at h
  have hzero : feed^[n] 0 = 0 := (feed_linear.iterate n).map_zero
  have he := (feed_bijective.1.iterate n) ((word_injective h).trans hzero.symm)
  exact absurd he (by decide)

theorem orbit_mem (n : Nat) : nextShift^[n] 0 ∈ Words := by
  rw [zero_eq_word, iterate_word]
  exact word_mem _

theorem minimalPeriod_zero :
    Function.minimalPeriod nextShift 0 = 2 ^ 17 - 1 := by
  have hp : Fact (Nat.Prime (2 ^ 17 - 1)) := ⟨by norm_num⟩
  refine Function.minimalPeriod_eq_prime ?_ ?_
  · show nextShift^[2 ^ 17 - 1] 0 = 0
    rw [zero_eq_word, iterate_word, feed_pow, id]
  · show nextShift 0 ≠ 0
    decide

/-- The register is zero again after every 2 ^ 17 - 1 shifts and at no other
time. -/
theorem orbit_zero_iff (n : Nat) : nextShift^[n] 0 = 0 ↔ 2 ^ 17 - 1 ∣ n := by
  rw [← minimalPeriod_zero]
  exact Function.isPeriodicPt_iff_minimalPeriod_dvd

/-! ## Clocks -/

/-- The next tick shifts the register. -/
def Noise.Due (x : Noise) : Prop :=
  x.period ≠ 0 ∧ x.counter + 1 ≥ x.period

instance (x : Noise) : Decidable x.Due :=
  inferInstanceAs (Decidable (_ ∧ _))

theorem Noise.clock_due {x : Noise} (h : x.Due) :
    x.clock.shift = nextShift x.shift ∧ x.clock.counter = 0 := by
  unfold Noise.clock
  rw [if_neg fun he => h.1 (beq_iff_eq.1 he), if_pos h.2]
  exact ⟨rfl, rfl⟩

theorem Noise.clock_wait {x : Noise} (h : ¬ x.Due) :
    x.clock.shift = x.shift ∧
      (x.period ≠ 0 → x.clock.counter = x.counter + 1) := by
  unfold Noise.clock
  by_cases hp : x.period = 0
  · rw [if_pos (beq_iff_eq.2 hp)]
    exact ⟨rfl, fun he => absurd hp he⟩
  · rw [if_neg fun he => hp (beq_iff_eq.1 he), if_neg fun hc => h ⟨hp, hc⟩]
    exact ⟨rfl, fun _ => rfl⟩

theorem clock_noise {s : State} (h : s.Ticking) :
    (clock s).noise = s.noise.clock := by
  rw [clock]
  simp only []
  rw [if_pos (beq_iff_eq.2 h)]

theorem setField_shift (s : State) (i : Fin 16) (v : Byte) :
    (setField s i v).noise.shift = s.noise.shift ∧
      (setField s i v).noise.counter = s.noise.counter := by
  obtain ⟨i, hi⟩ := i
  interval_cases i <;> exact ⟨rfl, rfl⟩

/-- The steps that are no ticks leave the noise alone, up to its period. -/
theorem step_noise {s : State} {e : Event} (h : ticking s e = 0) :
    (step s e).noise.shift = s.noise.shift ∧
      (step s e).noise.counter = s.noise.counter := by
  obtain ⟨s', rfl | ⟨i, v, rfl⟩, -, hn⟩ := step_idle h
  · rw [hn]
    exact ⟨rfl, rfl⟩
  · rw [hn]
    exact setField_shift s i v

/-- The shifts of a step. -/
def shifting (s : State) (e : Event) : Nat :=
  if s.noise.Due then ticking s e else 0

theorem ticking_cases (s : State) (e : Event) :
    ticking s e = 0 ∨ ticking s e = 1 ∧ e = .clock ∧ s.Ticking := by
  cases e with
  | setIndex index => exact .inl rfl
  | setValue p v => exact .inl rfl
  | getValue p v => exact .inl rfl
  | clock =>
      by_cases hc : s.Ticking
      · exact .inr ⟨if_pos hc, rfl, hc⟩
      · exact .inl (if_neg hc)

theorem step_shift (s : State) (e : Event) :
    (step s e).noise.shift = nextShift^[shifting s e] s.noise.shift := by
  rw [shifting]
  rcases ticking_cases s e with h0 | ⟨h1, rfl, hc⟩
  · rw [(step_noise h0).1, h0, ite_self, Function.iterate_zero, id]
  · show (clock s).noise.shift = _
    rw [clock_noise hc, h1]
    by_cases hd : s.noise.Due
    · rw [if_pos hd, Function.iterate_one, (Noise.clock_due hd).1]
    · rw [if_neg hd, Function.iterate_zero, id, (Noise.clock_wait hd).1]

/-- A run shifts the register, whatever else it does. -/
theorem run_shift (s : State) (es : List Event) :
    (run step s es).noise.shift =
      nextShift^[total step shifting s es] s.noise.shift := by
  induction es generalizing s with
  | nil => rfl
  | cons e es ih =>
      rw [run_cons, ih, total_cons, step_shift, ← Function.iterate_add_apply,
        Nat.add_comm]

/-! ## A period that is left alone -/

/-- The counter is far from overflowing. -/
structure State.Sized (s : State) : Prop where
  decoded : s.Decoded
  counter : s.noise.counter.toNat < 32

theorem State.Decoded.noisePeriod_lt {s : State} (h : s.Decoded) :
    s.noise.period.toNat < 32 := by
  rw [h.noisePeriod, ← h.masked 6, BitVec.toNat_and]
  exact Nat.lt_succ_of_le Nat.and_le_right

theorem State.Sized.toNat_succ {s : State} (h : s.Sized) :
    (s.noise.counter + 1).toNat = s.noise.counter.toNat + 1 := by
  have hc := h.counter
  rw [BitVec.toNat_add]
  exact Nat.mod_eq_of_lt (by
    show s.noise.counter.toNat + 1 < 65536
    omega)

theorem State.Sized.due_iff {s : State} (h : s.Sized)
    (hp : s.noise.period ≠ 0) :
    s.noise.Due ↔ s.noise.period.toNat ≤ s.noise.counter.toNat + 1 := by
  rw [← h.toNat_succ, ← BitVec.le_def]
  exact and_iff_right hp

theorem step_sized (s : State) (e : Event) (h : s.Sized) :
    (step s e).Sized := by
  refine ⟨step_decoded s e h.decoded, ?_⟩
  rcases ticking_cases s e with h0 | ⟨-, rfl, hc⟩
  · rw [(step_noise h0).2]
    exact h.counter
  · show (clock s).noise.counter.toNat < 32
    rw [clock_noise hc]
    by_cases hp : s.noise.period = 0
    · rw [Noise.clock, if_pos (beq_iff_eq.2 hp)]
      exact h.counter
    · by_cases hd : s.noise.Due
      · rw [(Noise.clock_due hd).2]
        exact Nat.zero_lt_succ _
      · have hlt := h.decoded.noisePeriod_lt
        rw [h.due_iff hp] at hd
        rw [(Noise.clock_wait (fun he => hd ((h.due_iff hp).1 he))).2 hp,
          h.toNat_succ]
        omega

theorem run_sized (es : List Event) : (run step reset es).Sized :=
  run_keeps step_sized ⟨reset_decoded, Nat.zero_lt_succ _⟩ es

/-- The step leaves the period of the noise as it is. -/
def Tuned (s : State) (e : Event) : Prop :=
  (step s e).noise.period = s.noise.period

instance (s : State) (e : Event) : Decidable (Tuned s e) :=
  inferInstanceAs (Decidable (_ = _))

/-- How far the counter is in the period. It may be past it, and then the next
tick shifts as if it were at the end. -/
def Noise.waited (x : Noise) : Nat :=
  min x.counter.toNat (x.period.toNat - 1)

theorem step_waited {s : State} {e : Event} {k m : Nat} (h : s.Sized)
    (hp : s.noise.period ≠ 0) (he : Tuned s e)
    (hd : Divided s.noise.period.toNat 1 k m s.noise.waited) :
    Divided s.noise.period.toNat 1 (k + ticking s e) (m + shifting s e)
      (step s e).noise.waited := by
  have hpos : s.noise.period.toNat ≠ 0 :=
    fun hn => hp (BitVec.eq_of_toNat_eq hn)
  rw [Noise.waited, he, shifting]
  rcases ticking_cases s e with h0 | ⟨h1, rfl, hc⟩
  · rw [(step_noise h0).2, h0, ite_self]
    exact hd
  · have hs : step s .clock = clock s := rfl
    rw [hs, clock_noise hc, h1]
    by_cases hdue : s.noise.Due
    · have hle := (h.due_iff hp).1 hdue
      have hw : s.noise.waited = s.noise.period.toNat - 1 :=
        min_eq_right (by omega)
      rw [hw] at hd
      have ht := hd.tick (by omega) (by omega)
      have h0 : s.noise.period.toNat - 1 + 1 - s.noise.period.toNat = 0 := by
        omega
      rw [if_pos hdue, (Noise.clock_due hdue).2]
      rw [h0] at ht
      exact ht
    · have hlt := (h.due_iff hp).not.1 hdue
      have hw : s.noise.waited = s.noise.counter.toNat :=
        min_eq_left (by omega)
      rw [hw] at hd
      have hn : min (s.noise.counter.toNat + 1) (s.noise.period.toNat - 1) =
          s.noise.counter.toNat + 1 := min_eq_left (by omega)
      rw [if_neg hdue, (Noise.clock_wait hdue).2 hp, h.toNat_succ, hn]
      exact hd.wait (by omega)

theorem run_waited {s : State} {es : List Event} {k m : Nat} (h : s.Sized)
    (hp : s.noise.period ≠ 0) (hes : Along step Tuned s es)
    (hd : Divided s.noise.period.toNat 1 k m s.noise.waited) :
    Divided s.noise.period.toNat 1 (k + total step ticking s es)
      (m + total step shifting s es) (run step s es).noise.waited := by
  induction es generalizing s k m with
  | nil => exact hd
  | cons e es ih =>
      have hd' := step_waited h hp hes.1 hd
      have he : (step s e).noise.period = s.noise.period := hes.1
      rw [← he] at hp hd' ⊢
      rw [total_cons, total_cons, ← Nat.add_assoc, ← Nat.add_assoc]
      exact ih (step_sized s e h) hp hes.2 hd'

/-- While the period stays the same, there is a shift each time the ticks have
gone round it. -/
theorem shifts_eq {s : State} {es : List Event} (h : s.Sized)
    (hp : s.noise.period ≠ 0) (hes : Along step Tuned s es) :
    total step shifting s es =
      (s.noise.waited + total step ticking s es) / s.noise.period.toNat := by
  have hpos : s.noise.period.toNat ≠ 0 :=
    fun hn => hp (BitVec.eq_of_toNat_eq hn)
  have hlt : s.noise.waited < s.noise.period.toNat :=
    (min_le_right _ _).trans_lt (by omega)
  have hstart : Divided s.noise.period.toNat 1 s.noise.waited 0
      s.noise.waited := ⟨by omega, hlt⟩
  have hn := (run_waited h hp hes hstart).ticks_eq
  rwa [Nat.zero_add, Nat.mul_one] at hn

/-- From a reset on, the register stays within 17 bits and is never all ones.
A shift is a bijection of the words of 17 bits, and zero comes back first
after 2 ^ 17 - 1 shifts. A run shifts the register as often as the ticks go
round the period, if that stays the same. -/
theorem noise_law (es : List Event) :
    let s := run step reset es
    (s.noise.shift ∈ Words ∧ s.noise.shift ≠ 0x1ffff) ∧
      Set.BijOn nextShift Words Words ∧
      IsLeast {n | 0 < n ∧ nextShift^[n] 0 = 0} (2 ^ 17 - 1) ∧
      ∀ fs,
        let n := total step shifting s fs
        let x := (run step s fs).noise
        x.shift = nextShift^[n] s.noise.shift ∧
          (s.noise.shift = 0 → (x.shift = 0 ↔ 2 ^ 17 - 1 ∣ n)) ∧
          (s.noise.period ≠ 0 → Along step Tuned s fs →
            n = (s.noise.waited + total step ticking s fs) /
              s.noise.period.toNat) := by
  intro s
  have hs : s.noise.shift = nextShift^[total step shifting reset es] 0 :=
    run_shift reset es
  refine ⟨?_, nextShift_bijOn, ⟨⟨by norm_num, ?_⟩, ?_⟩, fun fs => ⟨?_, ?_, ?_⟩⟩
  · rw [hs]
    exact ⟨orbit_mem _, orbit_ne _⟩
  · exact (orbit_zero_iff _).2 dvd_rfl
  · rintro n ⟨hpos, hn⟩
    exact Nat.le_of_dvd hpos ((orbit_zero_iff n).1 hn)
  · exact run_shift s fs
  · intro h0
    have hx := run_shift s fs
    rw [h0] at hx
    rw [hx]
    exact orbit_zero_iff _
  · exact fun hp hfs => shifts_eq (run_sized es) hp hfs

/-- Eight clocks, which are a tick. At a period of 1 the register is shifted
and no longer zero. -/
theorem noise_law_first :
    let es := [.setIndex 6, .setValue ⟨0, 0, 0, 0⟩ 1]
    let fs := List.replicate 8 Event.clock
    total step shifting (run step reset es) fs = 1 ∧
      (run step (run step reset es) fs).noise.shift ≠ 0 := by
  intro es fs
  obtain ⟨-, -, -, hrun⟩ := noise_law es
  obtain ⟨-, hzero, hshifts⟩ := hrun fs
  have hn : total step shifting (run step reset es) fs = 1 :=
    (hshifts (by decide) (by decide)).trans (by decide)
  refine ⟨hn, fun h0 => ?_⟩
  have hdvd := (hzero (by decide)).1 h0
  rw [hn] at hdvd
  exact absurd hdvd (by decide)

end Xcpc.Psg
