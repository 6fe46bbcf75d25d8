import Mathlib
import Xcpc.Lib.Rates
import Xcpc.Proofs.SoundRegisters

/-!
# The tone generators

A tone counts up to its period and turns its phase over. The period can change
at any moment, one half at a time, and the counter may be past the new one; the
next tick brings it back. Tones of the same period are kept in step: before a
tick, a later tone takes the counter of an earlier one. The pairs are looked at
in a fixed order, and after all three every pair agrees.

What a tone does between such corrections is its own affair. `Alone` is a tone
by itself, with nothing of the other two in it, and as long as the periods
differ at every tick the generator is three of these.
-/

namespace Xcpc.Psg

open Prog

/-- The next clock is one that is not divided away. -/
def State.Ticking (s : State) : Prop := (s.ticks + 1) &&& 0x07 = 0

instance (s : State) : Decidable s.Ticking :=
  inferInstanceAs (Decidable (_ = _))

theorem clock_tick {s : State} (h : s.Ticking) (k : Fin 3) :
    (clock s).sound k = (prepare s.sound k).clock := by
  rw [clock]
  simp only []
  rw [if_pos (beq_iff_eq.2 h)]

theorem clock_idle {s : State} (h : ¬ s.Ticking) :
    (clock s).sound = s.sound := by
  rw [clock]
  simp only []
  rw [if_neg fun he => h (beq_iff_eq.1 he)]

/-! ## Counters -/

theorem Sound.clock_counter (x : Sound) :
    x.clock.counter =
      if x.period = 0 then x.counter
      else if x.counter + 1 ≥ x.period then 0
      else x.counter + 1 := by
  unfold Sound.clock
  by_cases hp : x.period = 0
  · rw [if_pos (beq_iff_eq.2 hp), if_pos hp]
  · rw [if_neg fun he => hp (beq_iff_eq.1 he), if_neg hp]
    split
    · rfl
    · rfl

/-- A tick leaves the counter below the period, wherever it was. -/
theorem Sound.clock_counter_lt {x : Sound} (h : x.period ≠ 0) :
    x.clock.counter < x.clock.period := by
  rw [(Sound.clock_settings x).1, Sound.clock_counter, if_neg h]
  split
  · rw [BitVec.lt_def]
    have hne : x.period.toNat ≠ 0 := fun he => h (BitVec.eq_of_toNat_eq he)
    show 0 < x.period.toNat
    omega
  · rename_i hlt
    exact BitVec.not_le.1 hlt

theorem fixup_same {lhs rhs : Sound} (h : lhs.period = rhs.period) :
    (fixup lhs rhs).counter = lhs.counter := by
  unfold fixup
  split
  · rfl
  · rename_i hne
    by_contra hc
    exact hne (by
      rw [Bool.and_eq_true, beq_iff_eq, bne_iff_ne]
      exact ⟨h, fun he => hc he.symm⟩)

theorem fixup_differ {lhs rhs : Sound} (h : lhs.period ≠ rhs.period) :
    fixup lhs rhs = rhs := by
  unfold fixup
  rw [beq_eq_false_iff_ne.2 h, Bool.false_and, if_neg (by decide)]

/-- The three corrections, in their order, leave every pair in step. -/
theorem prepare_counter (x : Fin 3 → Sound) {j k : Fin 3}
    (h : (x j).period = (x k).period) :
    (prepare x j).counter = (prepare x k).counter := by
  have h01 (h : (x 0).period = (x 1).period) :
      (fixup (x 0) (x 1)).counter = (x 0).counter := fixup_same h
  have h02 (h : (x 0).period = (x 2).period) :
      (prepare x 2).counter = (x 0).counter := by
    show (fixup (fixup (x 0) (x 1)) (fixup (x 0) (x 2))).counter = _
    have hp2 := (fixup_settings (x 0) (x 2)).1
    have hp1 := (fixup_settings (x 0) (x 1)).1
    by_cases h12 : (x 1).period = (x 2).period
    · rw [fixup_same (by rw [hp1, hp2, h12]), h01 (h.trans h12.symm)]
    · rw [fixup_differ (by rw [hp1, hp2]; exact h12), fixup_same h]
  have h12 (h : (x 1).period = (x 2).period) :
      (prepare x 2).counter = (prepare x 1).counter := by
    have hp2 := (fixup_settings (x 0) (x 2)).1
    have hp1 := (fixup_settings (x 0) (x 1)).1
    exact fixup_same (by rw [hp1, hp2, h])
  fin_cases j <;> fin_cases k
  · rfl
  · exact (h01 h).symm
  · exact (h02 h).symm
  · exact h01 h.symm
  · rfl
  · exact (h12 h).symm
  · exact h02 h.symm
  · exact h12 h.symm
  · rfl

theorem clock_period (s : State) (k : Fin 3) :
    ((clock s).sound k).period = (s.sound k).period := by
  by_cases hc : s.Ticking
  · rw [clock_tick hc, (Sound.clock_settings _).1, (prepare_settings _ k).1]
  · rw [clock_idle hc]

/-- Tones of one period are in step after every tick. -/
theorem clock_counter {s : State} (h : s.Ticking) {j k : Fin 3}
    (hp : (s.sound j).period = (s.sound k).period) :
    ((clock s).sound j).counter = ((clock s).sound k).counter := by
  rw [clock_tick h, clock_tick h, Sound.clock_counter, Sound.clock_counter,
    (prepare_settings _ j).1, (prepare_settings _ k).1, hp,
    prepare_counter _ hp]

/-! ## A tone by itself -/

/-- A masked value written to register `i`, as tone `k` sees it. -/
def Sound.write (k : Fin 3) (i : Fin 16) (v : Byte) (x : Sound) : Sound :=
  if i = fine k then { x with period := fineTune x.period v }
  else if i = coarse k then { x with period := coarseTune x.period v }
  else if i = level k then { x with amplitude := Psg.amplitude v }
  else x

theorem setField_sound (s : State) (i : Fin 16) (v : Byte) (k : Fin 3) :
    (setField s i v).sound k = (s.sound k).write k i v := by
  obtain ⟨i, hi⟩ := i
  fin_cases k <;> interval_cases i <;> rfl

theorem setField_divider (s : State) (i : Fin 16) (v : Byte) :
    (setField s i v).ticks = s.ticks ∧ (setField s i v).index = s.index := by
  obtain ⟨i, hi⟩ := i
  interval_cases i <;> exact ⟨rfl, rfl⟩

theorem Sound.write_tone (k : Fin 3) (i : Fin 16) (v : Byte) (x : Sound) :
    (x.write k i v).counter = x.counter ∧ (x.write k i v).phase = x.phase := by
  unfold Sound.write
  split
  · exact ⟨rfl, rfl⟩
  · split
    · exact ⟨rfl, rfl⟩
    · split
      · exact ⟨rfl, rfl⟩
      · exact ⟨rfl, rfl⟩

/-- A tone with the divider and the index, and without the other tones. -/
structure Alone where
  ticks : BitVec 32
  index : Byte
  sound : Sound

def State.alone (k : Fin 3) (s : State) : Alone := ⟨s.ticks, s.index, s.sound k⟩

def Alone.step (k : Fin 3) (a : Alone) : Event → Alone
  | .setIndex index => { a with index := index }
  | .setValue _ v =>
      if h : a.index.toNat < 16 then
        let i : Fin 16 := ⟨a.index.toNat, h⟩
        { a with sound := a.sound.write k i (v &&& mask i) }
      else
        a
  | .getValue _ _ => a
  | .clock =>
      { a with
        ticks := a.ticks + 1
        sound := if (a.ticks + 1) &&& 0x07 = 0 then a.sound.clock else a.sound }

theorem Alone.step_of_lt {a : Alone} (h : a.index.toNat < 16) (k : Fin 3)
    (p : Ports) (v : Byte) :
    a.step k (.setValue p v) =
      { a with
        sound := a.sound.write k ⟨a.index.toNat, h⟩ (v &&& mask ⟨_, h⟩) } :=
  dif_pos h

theorem Alone.step_of_ge {a : Alone} (h : ¬ a.index.toNat < 16) (k : Fin 3)
    (p : Ports) (v : Byte) : a.step k (.setValue p v) = a :=
  dif_neg h

/-- The periods differ at the tick, if the event is one. -/
def Apart (s : State) : Event → Prop
  | .clock => s.Ticking → Function.Injective fun k => (s.sound k).period
  | _ => True

theorem prepare_apart {x : Fin 3 → Sound}
    (h : Function.Injective fun k => (x k).period) : prepare x = x := by
  have hne {j k : Fin 3} (hjk : j ≠ k) : (x j).period ≠ (x k).period :=
    fun he => hjk (h he)
  have h1 : fixup (x 0) (x 1) = x 1 := fixup_differ (hne (by decide))
  have h2 : fixup (x 0) (x 2) = x 2 := fixup_differ (hne (by decide))
  have h12 : fixup (x 1) (x 2) = x 2 := fixup_differ (hne (by decide))
  funext k
  unfold prepare
  simp only [h1, h2, h12]
  fin_cases k <;> rfl

theorem put_alone (s : State) (p : Ports) (i : Fin 16) (v : Byte)
    (k : Fin 3) :
    (put s p i v).alone k =
      ⟨s.ticks, s.index, (s.sound k).write k i (v &&& mask i)⟩ := by
  obtain ⟨ht, hi⟩ := setField_divider s i (v &&& mask i)
  have hs := setField_sound s i (v &&& mask i) k
  show (⟨(setField s i (v &&& mask i)).ticks,
    (setField s i (v &&& mask i)).index,
    (setField s i (v &&& mask i)).sound k⟩ : Alone) = _
  rw [ht, hi, hs]

theorem clock_divider (s : State) :
    (clock s).ticks = s.ticks + 1 ∧ (clock s).index = s.index := by
  rw [clock]
  simp only []
  split
  · exact ⟨rfl, rfl⟩
  · exact ⟨rfl, rfl⟩

/-- While the periods differ, a step of the generator is a step of each tone
by itself. -/
theorem step_alone {s : State} {e : Event} (h : Apart s e) (k : Fin 3) :
    (step s e).alone k = (s.alone k).step k e := by
  cases e with
  | setIndex index => rfl
  | setValue p v =>
      show (setValue s p v).alone k = _
      by_cases hi : s.index.toNat < 16
      · rw [setValue_of_index (i := ⟨_, hi⟩) rfl, put_alone]
        exact (Alone.step_of_lt (a := s.alone k) hi k p v).symm
      · rw [setValue_of_ge hi]
        exact (Alone.step_of_ge (a := s.alone k) hi k p v).symm
  | getValue p v =>
      show (getValue s p v).2.alone k = _
      unfold getValue
      split
      · rfl
      · rfl
  | clock =>
      obtain ⟨ht, hi⟩ := clock_divider s
      show (⟨(clock s).ticks, (clock s).index, (clock s).sound k⟩ : Alone) =
        ⟨s.ticks + 1, s.index,
          if s.Ticking then (s.sound k).clock else s.sound k⟩
      rw [ht, hi]
      by_cases hc : s.Ticking
      · rw [clock_tick hc, prepare_apart (h hc), if_pos hc]
      · rw [clock_idle hc, if_neg hc]

theorem run_alone {s : State} {es : List Event} (h : Along step Apart s es)
    (k : Fin 3) : (run step s es).alone k = run (Alone.step k) (s.alone k) es := by
  induction es generalizing s with
  | nil => rfl
  | cons e es ih =>
      rw [run_cons, run_cons, ← step_alone h.1]
      exact ih h.2

/-! ## A tone that is left alone -/

/-- The ticks of a step. -/
def ticking (s : State) : Event → Nat
  | .clock => if s.Ticking then 1 else 0
  | _ => 0

/-- The step leaves the period of tone `k` as it is, and does not bring it in
step with another tone. -/
structure Steady (k : Fin 3) (s : State) (e : Event) : Prop where
  period : ((step s e).sound k).period = (s.sound k).period
  counter : e = .clock → s.Ticking → prepare s.sound k = s.sound k

/-- The phase turned over `n` times. -/
def turnedPhase (phase : Byte) (n : Nat) : Byte := (· ^^^ 1)^[n] phase

/-- After `n` ticks from `x`: the counter went round the period `m` times, and
the phase turned over every time. -/
structure Counted (x : Sound) (n m : Nat) (y : Sound) : Prop where
  period : y.period = x.period
  divided : Divided x.period.toNat 1 (x.counter.toNat + n) m y.counter.toNat
  phase : y.phase = turnedPhase x.phase m

theorem Counted.tick {x y : Sound} {n m : Nat} (h : Counted x n m y) :
    ∃ m', Counted x (n + 1) m' y.clock := by
  have hlt := h.divided.lt
  have hp := h.period
  have hx := x.period.isLt
  have hne : ¬ (y.period == 0) = true := by
    rw [hp, beq_iff_eq]
    intro he
    rw [he] at hlt
    exact absurd hlt (Nat.not_lt_zero _)
  have hsum : (y.counter + 1).toNat = y.counter.toNat + 1 := by
    rw [BitVec.toNat_add]
    exact Nat.mod_eq_of_lt (by
      show y.counter.toNat + 1 < 65536
      omega)
  unfold Sound.clock
  rw [if_neg hne]
  split
  · rename_i hge
    have hge := BitVec.le_def.1 hge
    rw [hsum, hp] at hge
    have hd := h.divided.tick (by omega) hge
    have h0 : y.counter.toNat + 1 - x.period.toNat = 0 := by omega
    rw [h0] at hd
    refine ⟨m + 1, hp, hd, ?_⟩
    show y.phase ^^^ 1 = _
    rw [h.phase, turnedPhase, turnedPhase, Function.iterate_succ_apply']
  · rename_i hge
    have hge : ¬ y.period.toNat ≤ (y.counter + 1).toNat := fun hle =>
      hge (BitVec.le_def.2 hle)
    rw [hsum, hp] at hge
    refine ⟨m, hp, ?_, h.phase⟩
    show Divided _ _ _ _ (y.counter + 1).toNat
    rw [hsum]
    exact h.divided.wait (by omega)

/-- A step that is no tick does nothing to the tones and the noise, or what
setting a field does. -/
theorem step_idle {s : State} {e : Event} (h : ticking s e = 0) :
    ∃ s', (s' = s ∨ ∃ i v, s' = setField s i v) ∧
      (step s e).sound = s'.sound ∧ (step s e).noise = s'.noise := by
  cases e with
  | setIndex index => exact ⟨s, .inl rfl, rfl, rfl⟩
  | setValue p v =>
      show ∃ s', _ ∧ (setValue s p v).sound = _ ∧ (setValue s p v).noise = _
      by_cases hi : s.index.toNat < 16
      · rw [setValue_of_index (i := ⟨_, hi⟩) rfl]
        exact ⟨_, .inr ⟨_, _, rfl⟩, rfl, rfl⟩
      · rw [setValue_of_ge hi]
        exact ⟨s, .inl rfl, rfl, rfl⟩
  | getValue p v =>
      show ∃ s', _ ∧ (getValue s p v).2.sound = _ ∧
        (getValue s p v).2.noise = _
      unfold getValue
      split
      · exact ⟨s, .inl rfl, rfl, rfl⟩
      · exact ⟨s, .inl rfl, rfl, rfl⟩
  | clock =>
      have ht : ¬ s.Ticking := fun ht => absurd h (by
        rw [ticking, if_pos ht]
        exact Nat.one_ne_zero)
      refine ⟨s, .inl rfl, clock_idle ht, ?_⟩
      show (clock s).noise = _
      rw [clock]
      simp only []
      rw [if_neg fun he => ht (beq_iff_eq.1 he)]

/-- The other steps do not count. -/
theorem step_tone {s : State} {e : Event} (h : ticking s e = 0) (k : Fin 3) :
    ((step s e).sound k).counter = (s.sound k).counter ∧
      ((step s e).sound k).phase = (s.sound k).phase := by
  obtain ⟨s', rfl | ⟨i, v, rfl⟩, hs, -⟩ := step_idle h
  · rw [hs]
    exact ⟨rfl, rfl⟩
  · rw [hs, setField_sound]
    exact Sound.write_tone k _ _ _

theorem step_counted {k : Fin 3} {s : State} {e : Event} {x : Sound}
    {n m : Nat} (hs : Steady k s e) (h : Counted x n m (s.sound k)) :
    ∃ m', Counted x (n + ticking s e) m' ((step s e).sound k) := by
  by_cases ht : ticking s e = 0
  · obtain ⟨hc, hph⟩ := step_tone ht k
    rw [ht]
    refine ⟨m, hs.period.trans h.period, ?_, hph.trans h.phase⟩
    rw [hc]
    exact h.divided
  · cases e with
    | setIndex index => exact absurd rfl ht
    | setValue p v => exact absurd rfl ht
    | getValue p v => exact absurd rfl ht
    | clock =>
        by_cases hc : s.Ticking
        · have h1 : ticking s .clock = 1 := if_pos hc
          rw [h1]
          show ∃ m', Counted x (n + 1) m' ((clock s).sound k)
          rw [clock_tick hc, hs.counter rfl hc]
          exact h.tick
        · exact absurd (if_neg hc) ht

/-- A run that leaves the tone alone counts its ticks. -/
theorem run_counted {k : Fin 3} {s : State} {es : List Event} {x : Sound}
    {n m : Nat} (hes : Along step (Steady k) s es)
    (h : Counted x n m (s.sound k)) :
    ∃ m', Counted x (n + total step ticking s es) m'
      ((run step s es).sound k) := by
  induction es generalizing s n m with
  | nil => exact ⟨m, h⟩
  | cons e es ih =>
      obtain ⟨m', h'⟩ := step_counted hes.1 h
      rw [total_cons, ← Nat.add_assoc]
      exact ih hes.2 h'

/-- The tones after a tick, whatever went before it. -/
theorem tone_law (s₀ : State) (es : List Event) :
    let s := run step s₀ es
    (s.Ticking →
      (∀ k, ((clock s).sound k).period ≠ 0 →
        ((clock s).sound k).counter < ((clock s).sound k).period) ∧
      (∀ j k, ((clock s).sound j).period = ((clock s).sound k).period →
        ((clock s).sound j).counter = ((clock s).sound k).counter) ∧
      ∀ k fs, ((clock s).sound k).period ≠ 0 →
        Along step (Steady k) (clock s) fs →
        let x := (clock s).sound k
        let y := (run step (clock s) fs).sound k
        let n := x.counter.toNat + total step ticking (clock s) fs
        y.counter.toNat = n % x.period.toNat ∧
          y.phase = turnedPhase x.phase (n / x.period.toNat)) ∧
    ∀ fs, Along step Apart s fs →
      ∀ k, (run step s fs).alone k = run (Alone.step k) (s.alone k) fs := by
  intro s
  have hlt (ht : s.Ticking) (k : Fin 3)
      (hp : ((clock s).sound k).period ≠ 0) :
      ((clock s).sound k).counter < ((clock s).sound k).period := by
    rw [clock_tick ht] at hp ⊢
    rw [(Sound.clock_settings _).1] at hp
    exact Sound.clock_counter_lt hp
  refine ⟨fun ht => ⟨hlt ht, fun j k hp => ?_, fun k fs hp hfs => ?_⟩,
    fun fs hfs k => run_alone hfs k⟩
  · rw [clock_period, clock_period] at hp
    exact clock_counter ht hp
  · have hstart : Counted ((clock s).sound k) 0 0 ((clock s).sound k) := by
      refine ⟨rfl, ⟨?_, BitVec.lt_def.1 (hlt ht k hp)⟩, rfl⟩
      omega
    obtain ⟨m, hm⟩ := run_counted hfs hstart
    have hc := hm.divided.acc_eq
    have hn := hm.divided.ticks_eq
    rw [Nat.zero_add, Nat.mul_one] at hc hn
    have hph := hm.phase
    rw [hn] at hph
    exact ⟨hc, hph⟩

/-! The clocks of tones with different periods. -/

/-- While only clocks come, periods that differ go on differing, and no tone
has anything to do with the others. -/
theorem along_clocks {s : State}
    (h : Function.Injective fun k => (s.sound k).period) (n : Nat) (k : Fin 3) :
    Along step Apart s (List.replicate n .clock) ∧
      Along step (Steady k) s (List.replicate n .clock) := by
  induction n generalizing s with
  | zero => exact ⟨trivial, trivial⟩
  | succ n ih =>
      have hp : (fun k => ((clock s).sound k).period) =
          fun k => (s.sound k).period := funext (clock_period s)
      obtain ⟨hapart, hsteady⟩ := ih (s := clock s) (by rw [hp]; exact h)
      exact ⟨⟨fun _ => h, hapart⟩, ⟨clock_period s k, fun _ _ =>
        congrFun (prepare_apart h) k⟩, hsteady⟩

/-- The tones get the periods 3, 5 and 7, and seven clocks. -/
def tones : State :=
  run step reset
    ([.setIndex 0, .setValue ⟨0, 0, 0, 0⟩ 3, .setIndex 2,
      .setValue ⟨0, 0, 0, 0⟩ 5, .setIndex 4, .setValue ⟨0, 0, 0, 0⟩ 7] ++
      List.replicate 7 .clock)

/-- Three ticks later tone 1 gets the period of tone 0. -/
def retuned : State :=
  run step tones
    (List.replicate 24 .clock ++ [.setIndex 2, .setValue ⟨0, 0, 0, 0⟩ 3])

/-- The next clock is a tick, and the 24 clocks behind it have three more: tone
0 goes once around and turns its phase over. The tick of the retuned state
brings tone 1, which was at 3, in step with tone 0, which was at 0. -/
theorem tone_law_tones :
    ((clock tones).sound 0).counter < ((clock tones).sound 0).period ∧
      ((clock retuned).sound 0).counter = ((clock retuned).sound 1).counter ∧
      ((run step (clock tones) (List.replicate 24 .clock)).sound 0).counter.toNat
        = 1 ∧
      ((run step (clock tones) (List.replicate 24 .clock)).sound 0).phase = 1 ∧
      (run step tones (List.replicate 24 .clock)).alone 0 =
        run (Alone.step 0) (tones.alone 0) (List.replicate 24 .clock) := by
  obtain ⟨htick, hapart⟩ := tone_law tones []
  rw [run_nil] at htick hapart
  obtain ⟨hlt, -, hcount⟩ := htick (by decide +kernel)
  have hinj : Function.Injective fun k => (tones.sound k).period := by
    decide +kernel
  have hinj' : Function.Injective fun k => ((clock tones).sound k).period := by
    decide +kernel
  obtain ⟨hc, hph⟩ := hcount 0 _ (by decide +kernel)
    (along_clocks hinj' 24 0).2
  have htotal : total step ticking (clock tones) (List.replicate 24 .clock) =
      3 := by decide +kernel
  rw [htotal] at hc hph
  refine ⟨hlt 0 (by decide +kernel), ?_, hc.trans (by decide +kernel),
    hph.trans (by decide +kernel), hapart _ (along_clocks hinj 24 0).1 0⟩
  have hretuned := (tone_law retuned []).1
  rw [run_nil] at hretuned
  exact (hretuned (by decide +kernel)).2.1 0 1 (by decide +kernel)

end Xcpc.Psg
