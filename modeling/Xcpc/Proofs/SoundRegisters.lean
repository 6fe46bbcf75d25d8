import Mathlib
import Xcpc.Proofs.PpiAccess

/-!
# The registers of the sound generator

Every register is there twice: as the byte that was written, and decoded into
the field of a generator. The periods are split over two registers each, and
writing one half must not disturb the other.

All of it stays in step, with one exception. The enables of the mixer are the
complements of the bits of register 7, and a reset clears the enables and the
register alike. Until register 7 is written, the mixer is off where the
register says it is on.
-/

namespace Xcpc.Psg

open Prog

/-- The fine tune register of a tone. -/
def fine (k : Fin 3) : Fin 16 := ⟨2 * k.val, by omega⟩

/-- The coarse tune register of a tone. -/
def coarse (k : Fin 3) : Fin 16 := ⟨2 * k.val + 1, by omega⟩

/-- The amplitude register of a tone. -/
def level (k : Fin 3) : Fin 16 := ⟨8 + k.val, by omega⟩

/-- The registers hold what they can hold, and the fields are what the
registers say, the enables of the mixer apart. -/
structure State.Decoded (s : State) : Prop where
  masked : ∀ i, s.array i &&& mask i = s.array i
  period : ∀ k, (s.sound k).period.toNat =
    256 * (s.array (coarse k)).toNat + (s.array (fine k)).toNat
  amplitude : ∀ k, (s.sound k).amplitude = amplitude (s.array (level k))
  directed : s.Directed
  noisePeriod : s.noise.period.toNat = (s.array 6).toNat
  envelopePeriod : s.envelope.period.toNat =
    256 * (s.array 12).toNat + (s.array 11).toNat
  shape : s.envelope.shape = s.array 13

/-- The enables are the complements of the bits of register 7. -/
def State.Mixed (s : State) : Prop :=
  ∀ k : Fin 3, s.hasSound k = !(s.array 7).getLsbD k.val ∧
    s.hasNoise k = !(s.array 7).getLsbD (3 + k.val)

/-- The decoded state is the function of the registers that writing them
defines. The bits that choose the envelope and the directions are spelled
out. -/
structure State.Coherent (s : State) : Prop extends s.Decoded where
  mixed : s.Mixed
  byEnvelope : ∀ k,
    (s.sound k).amplitude.getLsbD 5 = (s.array (level k)).getLsbD 4
  dirPort : ∀ j, s.dirPort j = (s.array 7).getLsbD (6 + j.val)

/-- Register 7 is written. -/
def WritesMixer (s : State) : Event → Prop
  | .setValue _ _ => s.index = 7
  | _ => False

/-! ## Bits and halves -/

theorem and_bit (v : Byte) {n : Nat} (hn : n < 8) :
    (v &&& BitVec.twoPow 8 n == 0) = !v.getLsbD n := by
  rw [BitVec.and_twoPow]
  cases v.getLsbD n with
  | false => rfl
  | true =>
      have hpos : 0 < (BitVec.twoPow 8 n).toNat := by
        rw [BitVec.toNat_twoPow_of_lt hn]
        exact Nat.two_pow_pos n
      rw [if_pos rfl, Bool.not_true, beq_eq_false_iff_ne]
      intro h
      rw [h] at hpos
      exact absurd hpos (by decide)

/-- A period is its two halves. -/
theorem toNat_halves (c f : Byte) :
    (c ++ f : Word).toNat = 256 * c.toNat + f.toNat := by
  rw [BitVec.toNat_append, ← Nat.shiftLeft_add_eq_or_of_lt f.isLt,
    Nat.shiftLeft_eq]
  omega

theorem eq_halves {p : Word} {c f : Byte}
    (h : p.toNat = 256 * c.toNat + f.toNat) : p = c ++ f :=
  BitVec.eq_of_toNat_eq (h.trans (toNat_halves c f).symm)

theorem fineTune_eq (p : Word) (v : Byte) :
    fineTune p v = p.extractLsb' 8 8 ++ v := by
  refine BitVec.eq_of_getLsbD_eq fun i hi => ?_
  rw [fineTune, BitVec.getLsbD_or, BitVec.getLsbD_and, BitVec.getLsbD_setWidth,
    BitVec.getLsbD_append, BitVec.getLsbD_extractLsb']
  interval_cases i <;> simp

theorem coarseTune_eq (p : Word) (v : Byte) :
    coarseTune p v = v ++ p.extractLsb' 0 8 := by
  refine BitVec.eq_of_getLsbD_eq fun i hi => ?_
  rw [coarseTune, BitVec.getLsbD_or, BitVec.getLsbD_and,
    BitVec.getLsbD_shiftLeft, BitVec.getLsbD_setWidth, BitVec.getLsbD_append,
    BitVec.getLsbD_extractLsb']
  interval_cases i <;> simp

theorem fineTune_toNat {p : Word} {c f : Byte}
    (h : p.toNat = 256 * c.toNat + f.toNat) (v : Byte) :
    (fineTune p v).toNat = 256 * c.toNat + v.toNat := by
  rw [eq_halves h, fineTune_eq, BitVec.extractLsb'_append_eq_left, toNat_halves]

theorem coarseTune_toNat {p : Word} {c f : Byte}
    (h : p.toNat = 256 * c.toNat + f.toNat) (v : Byte) :
    (coarseTune p v).toNat = 256 * v.toNat + f.toNat := by
  rw [eq_halves h, coarseTune_eq, BitVec.extractLsb'_append_eq_right,
    toNat_halves]

/-! ## Writing a register -/

theorem setField_period (s : State) (i : Fin 16) (v : Byte) (k : Fin 3) :
    ((setField s i v).sound k).period =
      if i = fine k then fineTune (s.sound k).period v
      else if i = coarse k then coarseTune (s.sound k).period v
      else (s.sound k).period := by
  obtain ⟨i, hi⟩ := i
  fin_cases k <;> interval_cases i <;> rfl

theorem setField_amplitude (s : State) (i : Fin 16) (v : Byte) (k : Fin 3) :
    ((setField s i v).sound k).amplitude =
      if i = level k then amplitude v else (s.sound k).amplitude := by
  obtain ⟨i, hi⟩ := i
  fin_cases k <;> interval_cases i <;> rfl

theorem setField_noise (s : State) (i : Fin 16) (v : Byte) :
    (setField s i v).noise.period =
      if i = 6 then fineTune s.noise.period v else s.noise.period := by
  obtain ⟨i, hi⟩ := i
  interval_cases i <;> rfl

theorem setField_envelope (s : State) (i : Fin 16) (v : Byte) :
    (setField s i v).envelope.period =
      if i = 11 then fineTune s.envelope.period v
      else if i = 12 then coarseTune s.envelope.period v
      else s.envelope.period := by
  obtain ⟨i, hi⟩ := i
  interval_cases i <;> rfl

theorem setField_shape (s : State) (i : Fin 16) (v : Byte) :
    (setField s i v).envelope.shape =
      if i = 13 then v else s.envelope.shape := by
  obtain ⟨i, hi⟩ := i
  interval_cases i <;> rfl

theorem setField_enables (s : State) {i : Fin 16} (h7 : i ≠ 7) (v : Byte) :
    (setField s i v).hasSound = s.hasSound ∧
      (setField s i v).hasNoise = s.hasNoise := by
  obtain ⟨i, hi⟩ := i
  interval_cases i <;> first | exact ⟨rfl, rfl⟩ | exact absurd rfl h7

theorem put_self {s : State} {i : Fin 16} (hi : i.val < 14) (p : Ports)
    (v : Byte) : (put s p i v).array i = v &&& mask i := by
  rw [put_array, Function.update_self, stored_of_lt _ hi]

theorem put_ne {s : State} {i j : Fin 16} (h : j ≠ i) (p : Ports) (v : Byte) :
    (put s p i v).array j = s.array j := by
  rw [put_array, Function.update_of_ne h]

theorem stored_masked (s : State) (p : Ports) (i : Fin 16) (v : Byte) :
    stored s p i (v &&& mask i) &&& mask i = stored s p i (v &&& mask i) := by
  by_cases hi : i.val < 14
  · rw [stored_of_lt _ hi, and_mask]
  · have hm : mask i = 0xff := by
      obtain ⟨i, hi'⟩ := i
      simp only at hi
      interval_cases i <;> rfl
    rw [hm, and_ff]

/-- Two registers that hold a period keep holding it. -/
theorem put_halves {s : State} {P P' : Word} {c f i : Fin 16} {p : Ports}
    {v : Byte} (hcf : c ≠ f) (hc : c.val < 14) (hf : f.val < 14)
    (h : P.toNat = 256 * (s.array c).toNat + (s.array f).toNat)
    (hP : P' = if i = f then fineTune P (v &&& mask i)
      else if i = c then coarseTune P (v &&& mask i) else P) :
    P'.toNat = 256 * ((put s p i v).array c).toNat +
      ((put s p i v).array f).toNat := by
  rw [hP]
  by_cases hif : i = f
  · subst hif
    rw [if_pos rfl, put_self hf, put_ne hcf]
    exact fineTune_toNat h _
  · by_cases hic : i = c
    · subst hic
      rw [if_neg hif, if_pos rfl, put_self hc, put_ne (Ne.symm hif)]
      exact coarseTune_toNat h _
    · rw [if_neg hif, if_neg hic, put_ne (Ne.symm hif), put_ne (Ne.symm hic)]
      exact h

theorem amplitude_bit (v : Byte) :
    (amplitude v).getLsbD 5 = v.getLsbD 4 := by
  simp [amplitude]

theorem put_decoded {s : State} (h : s.Decoded) (p : Ports) (i : Fin 16)
    (v : Byte) : (put s p i v).Decoded where
  masked j := by
    by_cases hji : j = i
    · subst hji
      rw [put_array, Function.update_self]
      exact stored_masked s p j v
    · rw [put_ne hji]
      exact h.masked j
  period k := by
    have hcf : coarse k ≠ fine k := by
      intro he
      have he : 2 * k.val + 1 = 2 * k.val := congrArg Fin.val he
      omega
    have hc : (coarse k).val < 14 := by
      show 2 * k.val + 1 < 14
      omega
    exact put_halves hcf hc (Nat.lt_of_succ_lt hc) (h.period k)
      (setField_period s i _ k)
  amplitude k := by
    have hk : (level k).val < 14 := by
      show 8 + k.val < 14
      omega
    show ((setField s i (v &&& mask i)).sound k).amplitude = _
    rw [setField_amplitude]
    by_cases hik : i = level k
    · subst hik
      rw [if_pos rfl, put_self hk]
    · rw [if_neg hik, put_ne (Ne.symm hik)]
      exact h.amplitude k
  directed := put_directed h.directed p i v
  noisePeriod := by
    show (setField s i (v &&& mask i)).noise.period.toNat = _
    rw [setField_noise]
    have hn : s.noise.period.toNat =
        256 * (0 : Byte).toNat + (s.array 6).toNat := by
      rw [h.noisePeriod]
      exact (Nat.zero_add _).symm
    by_cases hi : i = 6
    · subst hi
      rw [if_pos rfl, put_self (by decide), fineTune_toNat hn]
      exact Nat.zero_add _
    · rw [if_neg hi, put_ne (Ne.symm hi)]
      exact h.noisePeriod
  envelopePeriod :=
    put_halves (by decide) (by decide) (by decide) h.envelopePeriod
      (setField_envelope s i _)
  shape := by
    show (setField s i (v &&& mask i)).envelope.shape = _
    rw [setField_shape]
    by_cases hi : i = 13
    · subst hi
      rw [if_pos rfl, put_self (by decide)]
    · rw [if_neg hi, put_ne (Ne.symm hi)]
      exact h.shape

theorem put_seven_mixed (s : State) (p : Ports) (v : Byte) :
    (put s p 7 v).Mixed := by
  have hv : (put s p 7 v).array 7 = v := by
    rw [put_self (by decide), mask_whole.1, and_ff]
  intro k
  rw [hv, ← and_bit v (by omega), ← and_bit v (by omega)]
  show (v &&& mask 7 &&& (0x01 <<< k.val) == 0) = _ ∧
    (v &&& mask 7 &&& (0x08 <<< k.val) == 0) = _
  rw [mask_whole.1, and_ff]
  fin_cases k <;> exact ⟨rfl, rfl⟩

/-! ## The other calls -/

/-- Reading masks a register again, which it already is. -/
theorem getValue_masked {s : State} (h : ∀ i, s.array i &&& mask i = s.array i)
    (p : Ports) (v : Byte) : (getValue s p v).2 = s := by
  unfold getValue
  split
  · simp only [h, Function.update_eq_self]
  · rfl

theorem Sound.clock_settings (x : Sound) :
    x.clock.period = x.period ∧ x.clock.amplitude = x.amplitude := by
  unfold Sound.clock
  split
  · exact ⟨rfl, rfl⟩
  · split
    · exact ⟨rfl, rfl⟩
    · exact ⟨rfl, rfl⟩

theorem fixup_settings (lhs rhs : Sound) :
    (fixup lhs rhs).period = rhs.period ∧
      (fixup lhs rhs).amplitude = rhs.amplitude := by
  unfold fixup
  split
  · exact ⟨rfl, rfl⟩
  · exact ⟨rfl, rfl⟩

theorem prepare_settings (x : Fin 3 → Sound) (k : Fin 3) :
    (prepare x k).period = (x k).period ∧
      (prepare x k).amplitude = (x k).amplitude := by
  fin_cases k
  · exact ⟨rfl, rfl⟩
  · exact fixup_settings (x 0) (x 1)
  · obtain ⟨hp, ha⟩ := fixup_settings (fixup (x 0) (x 1)) (fixup (x 0) (x 2))
    obtain ⟨hp', ha'⟩ := fixup_settings (x 0) (x 2)
    exact ⟨hp.trans hp', ha.trans ha'⟩

theorem Noise.clock_period (x : Noise) : x.clock.period = x.period := by
  unfold Noise.clock
  split
  · rfl
  · split
    · rfl
    · rfl

theorem Envelope.clock_settings (x : Envelope) :
    x.clock.period = x.period ∧ x.clock.shape = x.shape := by
  unfold Envelope.clock
  split
  · simp only []
    split
    · exact ⟨rfl, rfl⟩
    · exact ⟨rfl, rfl⟩
    · exact ⟨rfl, rfl⟩
    · exact ⟨rfl, rfl⟩
  · exact ⟨rfl, rfl⟩

theorem clock_decoded {s : State} (h : s.Decoded) : (clock s).Decoded := by
  unfold clock
  simp only []
  split
  · refine ⟨h.masked, fun k => ?_, fun k => ?_, h.directed, ?_, ?_, ?_⟩
    · show (prepare s.sound k).clock.period.toNat = _
      rw [(Sound.clock_settings _).1, (prepare_settings _ k).1]
      exact h.period k
    · show (prepare s.sound k).clock.amplitude = _
      rw [(Sound.clock_settings _).2, (prepare_settings _ k).2]
      exact h.amplitude k
    · show s.noise.clock.period.toNat = _
      rw [Noise.clock_period]
      exact h.noisePeriod
    · show s.envelope.clock.period.toNat = _
      rw [(Envelope.clock_settings _).1]
      exact h.envelopePeriod
    · show s.envelope.clock.shape = _
      rw [(Envelope.clock_settings _).2]
      exact h.shape
  · exact ⟨h.masked, h.period, h.amplitude, h.directed, h.noisePeriod,
      h.envelopePeriod, h.shape⟩

theorem step_decoded (s : State) (e : Event) (h : s.Decoded) :
    (step s e).Decoded := by
  cases e with
  | setIndex index =>
      exact ⟨h.masked, h.period, h.amplitude, h.directed, h.noisePeriod,
        h.envelopePeriod, h.shape⟩
  | setValue p v =>
      show (setValue s p v).Decoded
      by_cases hi : s.index.toNat < 16
      · rw [setValue_of_index (i := ⟨_, hi⟩) rfl]
        exact put_decoded h p _ v
      · rw [setValue_of_ge hi]
        exact h
  | getValue p v =>
      show (getValue s p v).2.Decoded
      rw [getValue_masked h.masked]
      exact h
  | clock => exact clock_decoded h

theorem reset_decoded : reset.Decoded where
  masked _ := BitVec.zero_and
  period _ := rfl
  amplitude _ := (by decide : (0 : Byte) = amplitude 0)
  directed := reset_directed
  noisePeriod := rfl
  envelopePeriod := rfl
  shape := rfl

/-! ## The mixer -/

/-- Only writing register 7 changes the mixer. -/
theorem step_mixer {s : State} {e : Event} (h : ¬ WritesMixer s e) :
    (step s e).hasSound = s.hasSound ∧ (step s e).hasNoise = s.hasNoise ∧
      (step s e).array 7 = s.array 7 := by
  cases e with
  | setIndex index => exact ⟨rfl, rfl, rfl⟩
  | setValue p v =>
      show (setValue s p v).hasSound = _ ∧ (setValue s p v).hasNoise = _ ∧
        (setValue s p v).array 7 = _
      by_cases hi : s.index.toNat < 16
      · have h7 : (⟨s.index.toNat, hi⟩ : Fin 16) ≠ 7 := by
          intro he
          have hn : s.index.toNat = 7 := congrArg Fin.val he
          exact h (BitVec.eq_of_toNat_eq hn)
        rw [setValue_of_index (i := ⟨_, hi⟩) rfl, put_ne (Ne.symm h7)]
        obtain ⟨hs, hn⟩ := setField_enables s h7 (v &&& mask ⟨_, hi⟩)
        exact ⟨hs, hn, rfl⟩
      · rw [setValue_of_ge hi]
        exact ⟨rfl, rfl, rfl⟩
  | getValue p v =>
      show (getValue s p v).2.hasSound = _ ∧ (getValue s p v).2.hasNoise = _ ∧
        (getValue s p v).2.array 7 = _
      unfold getValue
      split
      · rename_i hi
        refine ⟨rfl, rfl, ?_⟩
        simp only [Function.update_apply]
        split
        · rename_i h7
          rw [← h7, mask_whole.1, and_ff]
        · rfl
      · exact ⟨rfl, rfl, rfl⟩
  | clock =>
      show (clock s).hasSound = _ ∧ (clock s).hasNoise = _ ∧
        (clock s).array 7 = _
      unfold clock
      simp only []
      split
      · exact ⟨rfl, rfl, rfl⟩
      · exact ⟨rfl, rfl, rfl⟩

theorem writesMixer_mixed {s : State} {e : Event} (h : WritesMixer s e) :
    (step s e).Mixed := by
  cases e with
  | setValue p v =>
      have hs : s.index = 7 := h
      have h7 : s.index.toNat = (7 : Fin 16).val := by rw [hs]; rfl
      show (setValue s p v).Mixed
      rw [setValue_of_index h7]
      exact put_seven_mixed s p v
  | setIndex index => exact absurd h id
  | getValue p v => exact absurd h id
  | clock => exact absurd h id

theorem step_mixed (s : State) (e : Event) (h : s.Mixed) :
    (step s e).Mixed := by
  by_cases he : WritesMixer s e
  · exact writesMixer_mixed he
  · obtain ⟨hs, hn, h7⟩ := step_mixer he
    unfold State.Mixed
    rw [hs, hn, h7]
    exact h

/-- The mixer as a reset leaves it: off, with register 7 saying on. -/
def State.Muted (s : State) : Prop :=
  s.hasSound = reset.hasSound ∧ s.hasNoise = reset.hasNoise ∧ s.array 7 = 0

theorem State.Muted.not_mixed {s : State} (h : s.Muted) : ¬ s.Mixed := by
  obtain ⟨hs, -, h7⟩ := h
  intro hm
  have h0 := (hm 0).1
  rw [hs, h7] at h0
  exact absurd h0 (by decide)

theorem step_muted (s : State) (e : Event) (h : s.Muted)
    (he : ¬ WritesMixer s e) : (step s e).Muted := by
  obtain ⟨hs, hn, h7⟩ := step_mixer he
  unfold State.Muted
  rw [hs, hn, h7]
  exact h

/-- All of a decoded state that is left to say is the mixer. -/
theorem State.Decoded.coherent_iff_mixed {s : State} (h : s.Decoded) :
    s.Coherent ↔ s.Mixed := by
  refine ⟨fun hc => hc.mixed, fun hm => ⟨h, hm, fun k => ?_, fun j => ?_⟩⟩
  · rw [h.amplitude k]
    exact amplitude_bit _
  · have hb := and_bit (s.array 7) (n := 6 + j.val) (by omega)
    rw [h.directed j, bne]
    have hj : ((0x40 <<< j.val : Nat) : Byte) =
        BitVec.twoPow 8 (6 + j.val) := by
      fin_cases j <;> rfl
    rw [hj, hb, Bool.not_not]

/-- After any calls from a reset, the decoded state agrees with the registers
exactly when register 7 was written. -/
theorem coherent_iff_written (es : List Event) :
    (run step reset es).Coherent ↔ Sometime step WritesMixer reset es := by
  have hd : (run step reset es).Decoded :=
    run_keeps step_decoded reset_decoded es
  have hmuted : reset.Muted := ⟨rfl, rfl, rfl⟩
  rw [hd.coherent_iff_mixed]
  rcases switch_run step_muted (fun _ _ => writesMixer_mixed) step_mixed
    hmuted es with ⟨hes, hm⟩ | ⟨hes, hm⟩
  · exact iff_of_true hm hes
  · exact iff_of_false hm.not_mixed hes

/-- A reset by itself: register 7 enables all tones, and none is enabled. -/
theorem reset_not_coherent : ¬ (run step reset []).Coherent := by
  intro h
  exact absurd (h.mixed 0).1 (by decide)

end Xcpc.Psg
