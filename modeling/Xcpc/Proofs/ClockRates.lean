import Xcpc.Cpc.Clock
import Xcpc.Lib.Rates

/-!
# Clocks that do not drift

From a reset, `n` calls of `clock` run as many master cycles as `n` frames
take, rounded up, and in the first `k` of them a stage is clocked as often as
its rate allows, rounded down. The remainders stay in the accumulators, over
the cycles and over the frames, so the emulated time is the nominal time
however long the run.

All of it is about counters of 32 bits. No sum comes near their end, because
an accumulator is below the master rate between two cycles and no rate is
above it.
-/

namespace Xcpc.Cpc

open Prog

theorem Divider.tick_clock (d : Divider) (total : BitVec 32) :
    (d.tick total).2.clock = d.clock := by
  unfold Divider.tick
  simp only []
  split
  · rfl
  · rfl

/-- An accumulator goes on as its library one. -/
theorem Divider.tick_divided {d : Divider} {total : BitVec 32} {k n : Nat}
    (hD : total.toNat < 2 ^ 31) (hc : d.clock ≤ total)
    (h : Divided total.toNat d.clock.toNat k n d.ticks.toNat) :
    Divided total.toNat d.clock.toNat (k + 1)
      (n + if (d.tick total).1 then 1 else 0) (d.tick total).2.ticks.toNat := by
  have hc' : d.clock.toNat ≤ total.toNat := BitVec.le_def.1 hc
  have hs : (d.ticks + d.clock).toNat = d.ticks.toNat + d.clock.toNat :=
    BitVec.toNat_add_of_lt (by have := h.lt; omega)
  unfold Divider.tick
  simp only []
  split
  · rename_i ht
    have ht' := BitVec.le_def.1 ht
    rw [hs] at ht'
    show Divided _ _ (k + 1) (n + 1) (d.ticks + d.clock - total).toNat
    rw [BitVec.toNat_sub_of_le ht, hs]
    exact h.tick hc' ht'
  · rename_i ht
    have ht' : ¬ total.toNat ≤ (d.ticks + d.clock).toNat := fun hle =>
      ht (BitVec.le_def.2 hle)
    rw [hs] at ht'
    show Divided _ _ (k + 1) n (d.ticks + d.clock).toNat
    rw [hs]
    exact h.wait (by omega)

theorem Divider.tick_false {d : Divider} {total : BitVec 32}
    (hs : d.ticks.toNat + d.clock.toNat < 2 ^ 32)
    (h : (d.tick total).1 = false) :
    (d.tick total).2.ticks.toNat = d.ticks.toNat + d.clock.toNat := by
  unfold Divider.tick at h ⊢
  simp only [] at h ⊢
  split at h
  · cases h
  · rename_i ht
    rw [if_neg ht]
    exact BitVec.toNat_add_of_lt hs

/-! ## One master cycle -/

namespace Clocks

theorem cycle_divider (s : Clocks) (i : Stage) :
    s.cycle.2.divider i = ((s.divider i).tick s.cpcClock).2 := by
  cases i with
  | vdc => rfl
  | cpu => rfl
  | psg => rfl
  | snd => rfl

/-- A stage is clocked at most once in a cycle. -/
theorem cycle_count (s : Clocks) (i : Stage) :
    s.cycle.1.count i =
      if ((s.divider i).tick s.cpcClock).1 then 1 else 0 := by
  have h (b : Stage → Bool) (i : Stage) :
      ((if b .vdc then [Stage.vdc] else []) ++
        (if b .cpu then [Stage.cpu] else []) ++
        (if b .psg then [Stage.psg] else []) ++
        (if b .snd then [Stage.snd] else [])).count i =
      if b i then 1 else 0 := by
    cases hv : b .vdc <;> cases hc : b .cpu <;> cases hp : b .psg <;>
      cases hn : b .snd <;> cases i <;> simp [hv, hc, hp, hn]
  exact h (fun i => ((s.divider i).tick s.cpcClock).1) i

theorem cycle_frame (s : Clocks) :
    s.cycle.2.cpcFlags = s.cpcFlags ∧ s.cycle.2.cpcClock = s.cpcClock ∧
      s.cycle.2.frameRate = s.frameRate ∧
      s.cycle.2.cpcTicks = s.cpcTicks + s.frameRate :=
  ⟨rfl, rfl, rfl, rfl⟩

theorem cycle_accCount (s : Clocks) :
    s.cycle.2.accCount =
      if ((s.divider .snd).tick s.cpcClock).1 then 0
      else if ((s.divider .psg).tick s.cpcClock).1 then s.accCount + 1
      else s.accCount := rfl

/-- The sums of the next cycle are exact. The samples are counted as long as
the sound stage is clocked at all. -/
structure Exact (s : Clocks) : Prop where
  frame : s.cpcTicks.toNat + s.frameRate.toNat < 2 ^ 32
  stage : ∀ i, (s.divider i).ticks.toNat + (s.divider i).clock.toNat < 2 ^ 32
  samples : 0 < (s.divider .snd).clock.toNat → s.accCount.toNat + 1 < 2 ^ 32

/-- The rates of a run. -/
structure Rates (s : Clocks) : Prop where
  frame_pos : 0 < s.frameRate.toNat
  frame_le : s.frameRate ≤ s.cpcClock
  stage_le : ∀ i, (s.divider i).clock ≤ s.cpcClock
  lt : s.cpcClock.toNat < 2 ^ 31

/-- The clocks after the cycles `cs` of a run that started with the rates of
`s₀`. -/
structure After (s₀ : Clocks) (cs : List Cycle) (s : Clocks) : Prop where
  flags : s.cpcFlags = 0
  total : s.cpcClock = s₀.cpcClock
  frame : s.frameRate = s₀.frameRate
  rate : ∀ i, (s.divider i).clock = (s₀.divider i).clock
  divided : ∀ i, Divided s₀.cpcClock.toNat (s₀.divider i).clock.toNat
    cs.length ((cs.flatMap Cycle.stages).count i) (s.divider i).ticks.toNat
  samples : s.accCount.toNat * (s₀.divider .snd).clock.toNat ≤
    (s.divider .snd).ticks.toNat

variable {s₀ s : Clocks} {cs : List Cycle}

theorem After.exact (hr : s₀.Rates) (h : After s₀ cs s)
    (ht : s.cpcTicks < s.cpcClock) : s.Exact := by
  have hD := hr.lt
  have ht := BitVec.lt_def.1 ht
  rw [h.total] at ht
  refine ⟨?_, fun i => ?_, fun hc => ?_⟩
  · have hf := BitVec.le_def.1 hr.frame_le
    rw [h.frame]
    omega
  · have hc := BitVec.le_def.1 (hr.stage_le i)
    have hl := (h.divided i).lt
    rw [h.rate i]
    omega
  · rw [h.rate] at hc
    have hs := h.samples
    have hl := (h.divided .snd).lt
    have hm := Nat.le_mul_of_pos_right s.accCount.toNat hc
    omega

/-- One master cycle. -/
theorem After.cycle (hr : s₀.Rates) (h : After s₀ cs s) (he : s.Exact) :
    After s₀ (cs ++ [⟨s, s.cycle.1⟩]) s.cycle.2 := by
  have hD : s.cpcClock.toNat < 2 ^ 31 := by rw [h.total]; exact hr.lt
  have hc (i : Stage) : (s.divider i).clock ≤ s.cpcClock := by
    rw [h.rate, h.total]
    exact hr.stage_le i
  have hdiv (i : Stage) := h.divided i
  obtain ⟨hflags, htotal, hframe, -⟩ := s.cycle_frame
  refine ⟨hflags.trans h.flags, htotal.trans h.total, hframe.trans h.frame,
    fun i => ?_, fun i => ?_, ?_⟩
  · rw [cycle_divider, Divider.tick_clock, h.rate]
  · have hi := hdiv i
    rw [← h.total, ← h.rate] at hi ⊢
    rw [cycle_divider, List.length_append, List.flatMap_append,
      List.count_append]
    have hn : ([(⟨s, s.cycle.1⟩ : Cycle)].flatMap Cycle.stages).count i =
        if ((s.divider i).tick s.cpcClock).1 then 1 else 0 := by
      rw [← cycle_count]
      simp
    rw [hn]
    exact Divider.tick_divided hD (hc i) hi
  · rw [cycle_divider, cycle_accCount]
    have hs := h.samples
    cases ht : ((s.divider .snd).tick s.cpcClock).1 with
    | true =>
        rw [if_pos rfl]
        exact (Nat.zero_mul _).trans_le (Nat.zero_le _)
    | false =>
        rw [if_neg (by decide), Divider.tick_false (he.stage .snd) ht, h.rate]
        have hle : (if ((s.divider .psg).tick s.cpcClock).1
            then s.accCount + 1 else s.accCount).toNat ≤
              s.accCount.toNat + 1 := by
          split
          · rw [BitVec.toNat_add]
            exact Nat.mod_le _ _
          · exact Nat.le_succ _
        have hm := Nat.mul_le_mul_right (s₀.divider .snd).clock.toNat hle
        rw [Nat.add_mul, Nat.one_mul] at hm
        omega

/-! ## Frames -/

/-- Every cycle of a run had exact sums, and so far every stage was clocked as
its rate allows. -/
structure Exactly (s₀ : Clocks) (cs : List Cycle) : Prop where
  exact : ∀ c ∈ cs, c.start.Exact
  count : ∀ k ≤ cs.length, ∀ i,
    ((cs.take k).flatMap Cycle.stages).count i =
      k * (s₀.divider i).clock.toNat / s₀.cpcClock.toNat

theorem Exactly.snoc (h : Exactly s₀ cs) {c : Cycle} (hc : c.start.Exact)
    (ha : After s₀ (cs ++ [c]) s) : Exactly s₀ (cs ++ [c]) where
  exact d hd := by
    rcases List.mem_append.1 hd with hd | hd
    · exact h.exact d hd
    · rw [List.mem_singleton.1 hd]
      exact hc
  count k hk i := by
    rcases Nat.lt_or_ge cs.length k with hlt | hle
    · have hk' : k = (cs ++ [c]).length := by
        rw [List.length_append, List.length_singleton] at hk ⊢
        omega
      rw [hk', List.take_length]
      exact (ha.divided i).ticks_eq
    · rw [List.take_append_of_le_length hle]
      exact h.count k hle i

/-- The run is in frame `n`, and `cpc_ticks` says how far. -/
structure Within (s₀ : Clocks) (n : Nat) (cs : List Cycle) (s : Clocks) : Prop
    extends After s₀ cs s, Exactly s₀ cs where
  ticks : cs.length * s₀.frameRate.toNat =
    n * s₀.cpcClock.toNat + s.cpcTicks.toNat
  lt : s.cpcTicks.toNat < s₀.cpcClock.toNat + s₀.frameRate.toNat

theorem Within.cycle {n : Nat} (hr : s₀.Rates) (h : Within s₀ n cs s)
    (ht : s.cpcTicks < s.cpcClock) :
    Within s₀ n (cs ++ [⟨s, s.cycle.1⟩]) s.cycle.2 := by
  have he := h.toAfter.exact hr ht
  have ha := h.toAfter.cycle hr he
  have hsum : s.cycle.2.cpcTicks.toNat =
      s.cpcTicks.toNat + s₀.frameRate.toNat := by
    rw [s.cycle_frame.2.2.2, BitVec.toNat_add_of_lt he.frame, h.frame]
  refine ⟨ha, h.toExactly.snoc he ha, ?_, ?_⟩
  · rw [hsum, List.length_append, List.length_singleton, Nat.add_mul,
      Nat.one_mul, h.ticks]
    omega
  · have ht := BitVec.lt_def.1 ht
    rw [h.total] at ht
    omega

theorem emulate_full (h : ¬ s.cpcTicks < s.cpcClock) (fuel : Nat) :
    s.emulate fuel = some ([], s) := by
  cases fuel with
  | zero => exact if_neg h
  | succ fuel => exact if_neg h

/-- The loop ends when the frame is full, after no more cycles than the frame
has ticks left. -/
theorem emulate_within (hr : s₀.Rates) {n fuel : Nat} (h : Within s₀ n cs s)
    (hfuel : s₀.cpcClock.toNat ≤ s.cpcTicks.toNat + fuel) :
    ∃ ds t, s.emulate fuel = some (ds, t) ∧ Within s₀ n (cs ++ ds) t ∧
      t.cpcClock ≤ t.cpcTicks := by
  induction fuel generalizing cs s with
  | zero =>
      have hn : ¬ s.cpcTicks < s.cpcClock := by
        intro ht
        have ht := BitVec.lt_def.1 ht
        rw [h.total] at ht
        omega
      exact ⟨[], s, emulate_full hn 0, by rw [List.append_nil]; exact h,
        BitVec.not_lt.1 hn⟩
  | succ fuel ih =>
      by_cases ht : s.cpcTicks < s.cpcClock
      · have hw := h.cycle hr ht
        have hsum : s.cycle.2.cpcTicks.toNat =
            s.cpcTicks.toNat + s₀.frameRate.toNat := by
          have hl := hw.ticks
          have hl' := h.ticks
          rw [List.length_append, List.length_singleton, Nat.add_mul,
            Nat.one_mul] at hl
          omega
        have hpos := hr.frame_pos
        obtain ⟨ds, t, he, hw', hfull⟩ := ih hw (by omega)
        rw [List.append_assoc] at hw'
        refine ⟨⟨s, s.cycle.1⟩ :: ds, t, ?_, hw', hfull⟩
        rw [emulate, if_pos ht, he]
        rfl
      · exact ⟨[], s, emulate_full ht _, by rw [List.append_nil]; exact h,
          BitVec.not_lt.1 ht⟩

/-- A call of `clock` ends the frame and keeps what is over. -/
theorem clock_within (hr : s₀.Rates) {n fuel : Nat} (h : Within s₀ n cs s)
    (hfuel : s₀.cpcClock.toNat ≤ fuel) :
    ∃ ds t, s.clock fuel = some (ds, t) ∧ Within s₀ (n + 1) (cs ++ ds) t ∧
      t.cpcTicks.toNat < s₀.frameRate.toNat := by
  have hfuel' : s₀.cpcClock.toNat ≤ s.cpcTicks.toNat + fuel := by omega
  obtain ⟨ds, t, he, hw, hfull⟩ := emulate_within hr h hfuel'
  have hsub := BitVec.toNat_sub_of_le hfull
  have hle := BitVec.le_def.1 hfull
  rw [hw.total] at hsub hle
  have hlt := hw.lt
  refine ⟨ds, { t with cpcTicks := t.cpcTicks - t.cpcClock }, ?_, ?_, ?_⟩
  · rw [clock, h.flags, he]
    rfl
  · refine ⟨⟨hw.flags, hw.total, hw.frame, hw.rate, hw.divided, hw.samples⟩,
      hw.toExactly, ?_, ?_⟩
    · show _ = (n + 1) * _ + (t.cpcTicks - t.cpcClock).toNat
      rw [hw.total, hsub, hw.ticks, Nat.add_mul, Nat.one_mul]
      omega
    · show (t.cpcTicks - t.cpcClock).toNat < _
      rw [hw.total, hsub]
      omega
  · show (t.cpcTicks - t.cpcClock).toNat < _
    rw [hw.total, hsub]
    omega

theorem reset_within (hr : s₀.Rates) : Within s₀ 0 [] s₀.reset where
  flags := rfl
  total := rfl
  frame := rfl
  rate _ := rfl
  divided i := by
    have hD := BitVec.le_def.1 hr.frame_le
    have hpos := hr.frame_pos
    exact Divided.start (by omega)
  samples := (Nat.zero_mul _).trans_le (Nat.zero_le _)
  exact c hc := absurd hc List.not_mem_nil
  count k hk i := by
    rw [Nat.le_zero.1 hk, Nat.zero_mul, Nat.zero_div]
    rfl
  ticks := by
    show 0 * _ = 0 * _ + 0
    rw [Nat.zero_mul, Nat.zero_mul]
  lt := by
    have hpos := hr.frame_pos
    show 0 < _
    omega

theorem frames_within (hr : s₀.Rates) {fuel : Nat}
    (hfuel : s₀.cpcClock.toNat ≤ fuel) (n : Nat) :
    ∃ cs t, s₀.reset.frames fuel n = some (cs, t) ∧ Within s₀ n cs t ∧
      t.cpcTicks.toNat < s₀.frameRate.toNat := by
  induction n with
  | zero => exact ⟨[], s₀.reset, rfl, reset_within hr, hr.frame_pos⟩
  | succ n ih =>
      obtain ⟨cs, s, hs, hw, -⟩ := ih
      obtain ⟨ds, t, ht, hw', hlt⟩ := clock_within hr hw hfuel
      refine ⟨cs ++ ds, t, ?_, hw', hlt⟩
      rw [frames, hs, Option.bind_some, ht]
      rfl

/-- From a reset, `n` frames take their cycles rounded up, every stage is
clocked its rate's share of them rounded down, and no sum is cut. -/
theorem clock_distribution (s : Clocks) (hf : 1 ≤ s.frameRate.toNat)
    (hfc : s.frameRate ≤ s.cpcClock) (hc : s.cpcClock.toNat < 2 ^ 31)
    (hr : ∀ i, (s.divider i).clock ≤ s.cpcClock) {fuel : Nat}
    (hfuel : s.cpcClock.toNat ≤ fuel) (n : Nat) :
    ∃ cycles t, s.reset.frames fuel n = some (cycles, t) ∧
      cycles.length = (n * s.cpcClock.toNat) ⌈/⌉ s.frameRate.toNat ∧
      (∀ k ≤ cycles.length, ∀ i,
        ((cycles.take k).flatMap Cycle.stages).count i =
          k * (s.divider i).clock.toNat / s.cpcClock.toNat) ∧
      ∀ c ∈ cycles, c.start.Exact := by
  obtain ⟨cs, t, he, hw, hlt⟩ := frames_within ⟨hf, hfc, hr, hc⟩ hfuel n
  have hl := hw.ticks
  have hframed : Framed s.cpcClock.toNat s.frameRate.toNat n cs.length :=
    ⟨by omega, by omega⟩
  exact ⟨cs, t, he, hframed.cycles_eq, hw.count, hw.exact⟩

/-- Fifty frames at 50 Hz are a second: four million cycles, and a sample for
every period of the sound device. -/
theorem clock_distribution_second :
    ∃ cycles t, construct.reset.frames 4000000 50 = some (cycles, t) ∧
      cycles.length = 4000000 ∧
      (cycles.flatMap Cycle.stages).count .snd = 44100 := by
  obtain ⟨cs, t, he, hl, hcount, -⟩ := clock_distribution construct
    (by decide) (by decide) (by decide)
    (fun i => by cases i <;> decide)
    (show construct.cpcClock.toNat ≤ 4000000 from le_refl _) 50
  have hlen : cs.length = 4000000 := by
    rw [hl, Nat.ceilDiv_eq_add_pred_div]
    rfl
  refine ⟨cs, t, he, hlen, ?_⟩
  have hsnd := hcount cs.length (le_refl _) .snd
  rw [List.take_length, hlen] at hsnd
  exact hsnd

end Clocks

end Xcpc.Cpc
