import Mathlib
import Xcpc.Dev.Psg

/-!
# The shapes of the envelope

A shape of the envelope is two cycles, each a ramp or a hold, and a phase that
says which of the two is on. The phase turns when a ramp arrives at its end,
with the amplitude already there. For two ramps the same way that is right: the
next step wraps the amplitude, and the ramps are 32 steps apart. For a ramp and
a hold it is right too.

For two opposite ramps it is one step too early. The end of one ramp is the
start of the next, both ends are there once instead of twice, and the triangle
of shapes 10 and 14 closes after 62 steps instead of 64.
-/

namespace Xcpc.Psg

/-! ## Steps -/

/-- The amplitude after a step of a cycle. -/
def Cycle.next (a : Nat) : Cycle → Nat
  | .rampUp => (a + 1) % 32
  | .rampDown => (a + 31) % 32
  | .holdUp => 31
  | .holdDown => 0

/-- A ramp is at its end. -/
def Cycle.done (a : Nat) : Cycle → Bool
  | .rampUp => a == 31
  | .rampDown => a == 0
  | .holdUp => false
  | .holdDown => false

/-- The envelope after a clock that finds the period over. -/
def Envelope.turned (x : Envelope) : Envelope :=
  let a := x.cycle.next x.amplitude.toNat
  { x with
    counter := 0
    amplitude := BitVec.ofNat 8 a
    phase := if x.cycle.done a then x.phase ^^^ 1 else x.phase }

theorem and_1f (v : Byte) : v &&& 0x1f = BitVec.ofNat 8 (v.toNat % 32) := by
  refine BitVec.eq_of_toNat_eq ?_
  rw [BitVec.toNat_and, BitVec.toNat_ofNat]
  have h := Nat.and_two_pow_sub_one_eq_mod v.toNat 5
  have hv := v.isLt
  show v.toNat &&& (2 ^ 5 - 1) = _
  rw [h]
  omega

theorem ofNat_beq {a b : Nat} (ha : a < 256) (hb : b < 256) :
    (BitVec.ofNat 8 a == BitVec.ofNat 8 b) = (a == b) := by
  rw [Bool.eq_iff_iff, beq_iff_eq, beq_iff_eq, ← BitVec.toNat_inj,
    BitVec.toNat_ofNat, BitVec.toNat_ofNat, Nat.mod_eq_of_lt ha,
    Nat.mod_eq_of_lt hb]

theorem Envelope.clock_last {x : Envelope} (h : x.counter + 1 ≥ x.period) :
    x.clock = x.turned := by
  have hup : (x.amplitude + 1) &&& 0x1f =
      BitVec.ofNat 8 ((x.amplitude.toNat + 1) % 32) := by
    rw [and_1f, BitVec.toNat_add]
    show BitVec.ofNat 8 ((x.amplitude.toNat + 1) % 256 % 32) = _
    rw [Nat.mod_mod_of_dvd _ (by decide)]
  have hdown : (x.amplitude - 1) &&& 0x1f =
      BitVec.ofNat 8 ((x.amplitude.toNat + 31) % 32) := by
    rw [and_1f, BitVec.toNat_sub]
    show BitVec.ofNat 8 ((256 - 1 + x.amplitude.toNat) % 256 % 32) = _
    congr 1
    omega
  have hend (a : Nat) : (BitVec.ofNat 8 (a % 32) == (0x1f : Byte)) =
      (a % 32 == 31) := ofNat_beq (b := 31) (by omega) (by decide)
  have hstart (a : Nat) : (BitVec.ofNat 8 (a % 32) == (0x00 : Byte)) =
      (a % 32 == 0) := ofNat_beq (b := 0) (by omega) (by decide)
  have hcycle : ({ x with counter := 0 } : Envelope).cycle = x.cycle := rfl
  unfold Envelope.clock Envelope.turned
  rw [if_pos h]
  simp only [hcycle]
  cases x.cycle with
  | rampUp =>
      simp only [hup, hend, Cycle.next]
      rfl
  | rampDown =>
      simp only [hdown, hstart, Cycle.next]
      rfl
  | holdUp => rfl
  | holdDown => rfl

theorem Envelope.clock_before {x : Envelope} (h : ¬ x.counter + 1 ≥ x.period) :
    x.clock = { x with counter := x.counter + 1 } := by
  rw [Envelope.clock, if_neg h]

/-- Inside a period the clocks are counted. -/
theorem Envelope.clock_inside {x : Envelope} (h : x.counter = 0) {j : Nat}
    (hj : j < max x.period.toNat 1) :
    Envelope.clock^[j] x = { x with counter := BitVec.ofNat 16 j } := by
  induction j with
  | zero =>
      obtain ⟨counter, period, shape, phase, amplitude⟩ := x
      have h : counter = 0 := h
      subst h
      rfl
  | succ j ih =>
      have hp := x.period.isLt
      have hc : (BitVec.ofNat 16 j + 1 : Word) = BitVec.ofNat 16 (j + 1) := by
        rw [BitVec.ofNat_add]
        rfl
      rw [Function.iterate_succ_apply', ih (by omega), Envelope.clock_before]
      · simp only [hc]
      · show ¬ (BitVec.ofNat 16 j + 1 : Word) ≥ x.period
        rw [hc, ge_iff_le, BitVec.le_def, BitVec.toNat_ofNat]
        omega

/-- A period of clocks is a step. A period of 0 acts as 1. -/
theorem Envelope.clock_period {x : Envelope} (h : x.counter = 0) :
    Envelope.clock^[max x.period.toNat 1] x = x.turned := by
  obtain ⟨j, hj⟩ : ∃ j, max x.period.toNat 1 = j + 1 :=
    ⟨max x.period.toNat 1 - 1, by omega⟩
  rw [hj, Function.iterate_succ_apply', clock_inside h (by omega)]
  have hp := x.period.isLt
  have hc : (BitVec.ofNat 16 j + 1 : Word) = BitVec.ofNat 16 (j + 1) := by
    rw [BitVec.ofNat_add]
    rfl
  rw [clock_last]
  · rfl
  · show (BitVec.ofNat 16 j + 1 : Word) ≥ x.period
    rw [hc, ge_iff_le, BitVec.le_def, BitVec.toNat_ofNat]
    omega

/-- Periods of clocks are steps. -/
theorem Envelope.clock_steps {x : Envelope} (h : x.counter = 0) (t : Nat) :
    Envelope.clock^[t * max x.period.toNat 1] x = Envelope.turned^[t] x := by
  induction t generalizing x with
  | zero =>
      rw [Nat.zero_mul]
      rfl
  | succ t ih =>
      rw [Nat.add_mul, Nat.one_mul, Function.iterate_add_apply, clock_period h,
        Function.iterate_succ_apply]
      exact ih (x := x.turned) rfl

/-! ## Courses -/

theorem Envelope.shape_lt (x : Envelope) :
    (x.shape &&& 0x0f).toNat % 16 < 16 := Nat.mod_lt _ (Nat.succ_pos 15)

/-- The cycles of a shape. -/
def Envelope.row (x : Envelope) : Cycle × Cycle :=
  cycles ⟨(x.shape &&& 0x0f).toNat % 16, x.shape_lt⟩

/-- Heights and turns that follow from each other as the two cycles of a row
say, from the start of the first. -/
structure Course (row : Cycle × Cycle) (a₀ : Nat) (height : Nat → Nat)
    (second : Nat → Prop) : Prop where
  start : height 0 = a₀ ∧ ¬ second 0
  low : ∀ t, height t < 32
  onFirst : ∀ t, ¬ second t → height (t + 1) = row.1.next (height t) ∧
    (second (t + 1) ↔ row.1.done (height (t + 1)) = true)
  onSecond : ∀ t, second t → height (t + 1) = row.2.next (height t) ∧
    (second (t + 1) ↔ ¬ row.2.done (height (t + 1)) = true)

/-- The envelope takes the course of its shape. -/
theorem Course.follow {x : Envelope} {a₀ : Nat} {height : Nat → Nat}
    {second : Nat → Prop} (h : Course x.row a₀ height second)
    (ha : x.amplitude = BitVec.ofNat 8 a₀) (hp : x.phase = 0) (t : Nat) :
    let y := Envelope.turned^[t] x
    y.row = x.row ∧ y.amplitude.toNat = height t ∧
      (second t ∧ y.phase = 1 ∨ ¬ second t ∧ y.phase = 0) := by
  have hnat (t : Nat) : (BitVec.ofNat 8 (height t)).toNat = height t := by
    have hlow := h.low t
    rw [BitVec.toNat_ofNat]
    omega
  induction t with
  | zero =>
      obtain ⟨h0, hs⟩ := h.start
      rw [Function.iterate_zero_apply]
      refine ⟨rfl, ?_, .inr ⟨hs, hp⟩⟩
      rw [ha, ← h0, hnat]
  | succ t ih =>
      obtain ⟨hrow, hamp, hphase⟩ := ih
      rw [Function.iterate_succ_apply']
      generalize Envelope.turned^[t] x = y at hrow hamp hphase ⊢
      refine ⟨hrow, ?_⟩
      show (BitVec.ofNat 8 (y.cycle.next y.amplitude.toNat)).toNat = _ ∧
        (_ ∧ (if y.cycle.done (y.cycle.next y.amplitude.toNat)
          then y.phase ^^^ 1 else y.phase) = 1 ∨ _ ∧
          (if y.cycle.done (y.cycle.next y.amplitude.toNat)
          then y.phase ^^^ 1 else y.phase) = 0)
      rw [hamp]
      rcases hphase with ⟨hs, hp⟩ | ⟨hs, hp⟩
      · have hc : y.cycle = x.row.2 := by
          rw [← hrow, Envelope.cycle, hp]
          rfl
        obtain ⟨hn, hs'⟩ := h.onSecond t hs
        rw [hc, hp, ← hn, hnat]
        refine ⟨rfl, ?_⟩
        by_cases hd : x.row.2.done (height (t + 1)) = true
        · exact .inr ⟨fun hs => hs'.1 hs hd, if_pos hd⟩
        · exact .inl ⟨hs'.2 hd, if_neg hd⟩
      · have hc : y.cycle = x.row.1 := by
          rw [← hrow, Envelope.cycle, hp]
          rfl
        obtain ⟨hn, hs'⟩ := h.onFirst t hs
        rw [hc, hp, ← hn, hnat]
        refine ⟨rfl, ?_⟩
        by_cases hd : x.row.1.done (height (t + 1)) = true
        · exact .inl ⟨hs'.2 hd, if_pos hd⟩
        · exact .inr ⟨fun hs => hd (hs'.1 hs), if_neg hd⟩

/-! ## The eight rows -/

/-- The end of a ramp, for arithmetic. -/
theorem done_up (a : Nat) : Cycle.rampUp.done a = true ↔ a = 31 := beq_iff_eq

theorem done_down (a : Nat) : Cycle.rampDown.done a = true ↔ a = 0 :=
  beq_iff_eq

theorem done_hold (a : Nat) :
    (Cycle.holdUp.done a = true ↔ False) ∧
      (Cycle.holdDown.done a = true ↔ False) :=
  ⟨iff_of_false Bool.false_ne_true id, iff_of_false Bool.false_ne_true id⟩

/-- The cycle of the other direction. -/
def Cycle.mirror : Cycle → Cycle
  | .rampUp => .rampDown
  | .rampDown => .rampUp
  | .holdUp => .holdDown
  | .holdDown => .holdUp

theorem Cycle.mirror_next (c : Cycle) {a : Nat} (ha : a < 32) :
    c.mirror.next (31 - a) = 31 - c.next a := by
  cases c <;> simp only [mirror, next] <;> omega

theorem Cycle.mirror_done (c : Cycle) {a : Nat} (ha : a < 32) :
    c.mirror.done (31 - a) = true ↔ c.done a = true := by
  cases c <;> simp only [mirror, done_up, done_down, done_hold] <;> omega

/-- The cycles of the other direction take the course upside down. -/
theorem Course.mirror {c d : Cycle} {a₀ : Nat} {f g : Nat → Nat}
    {second : Nat → Prop} (h : Course (c, d) a₀ f second)
    (hg : ∀ t, g t = 31 - f t) :
    Course (c.mirror, d.mirror) (31 - a₀) g second where
  start := ⟨by rw [hg, h.start.1], h.start.2⟩
  low t := by
    rw [hg]
    omega
  onFirst t ht := by
    obtain ⟨hn, hs⟩ := h.onFirst t ht
    rw [hg, hg, c.mirror_next (h.low t), c.mirror_done (h.low (t + 1))]
    exact ⟨congrArg (31 - ·) hn, hs⟩
  onSecond t ht := by
    obtain ⟨hn, hs⟩ := h.onSecond t ht
    rw [hg, hg, d.mirror_next (h.low t), d.mirror_done (h.low (t + 1))]
    exact ⟨congrArg (31 - ·) hn, hs⟩

theorem course_fall : Course (.rampDown, .holdDown) 31 (fun t => 31 - t)
    fun t => 31 ≤ t where
  start := ⟨rfl, by omega⟩
  low t := by omega
  onFirst t ht := by
    simp only [Cycle.next, done_down]
    omega
  onSecond t ht := by
    simp only [Cycle.next, done_hold, not_false_eq_true, iff_true]
    omega

theorem course_rise : Course (.rampUp, .holdDown) 0
    (fun t => if t < 32 then t else 0) fun t => 31 ≤ t where
  start := ⟨rfl, by omega⟩
  low t := by split <;> omega
  onFirst t ht := by
    simp only [Cycle.next, done_up]
    rw [if_pos (by omega)]
    split <;> omega
  onSecond t ht := by
    simp only [Cycle.next, done_hold, not_false_eq_true, iff_true]
    rw [if_neg (by omega)]
    omega

theorem course_fallUp : Course (.rampDown, .holdUp) 31
    (fun t => if t < 32 then 31 - t else 31) fun t => 31 ≤ t :=
  course_rise.mirror fun t => by split <;> omega

theorem course_riseUp : Course (.rampUp, .holdUp) 0 (fun t => min t 31)
    fun t => 31 ≤ t :=
  course_fall.mirror fun t => by omega

theorem course_rises : Course (.rampUp, .rampUp) 0 (fun t => t % 32)
    fun t => (t + 1) / 32 % 2 = 1 where
  start := ⟨rfl, by omega⟩
  low t := by omega
  onFirst t ht := by
    simp only [Cycle.next, done_up]
    omega
  onSecond t ht := by
    simp only [Cycle.next, done_up]
    omega

theorem course_falls : Course (.rampDown, .rampDown) 31
    (fun t => 31 - t % 32) fun t => (t + 1) / 32 % 2 = 1 :=
  course_rises.mirror fun _ => rfl

/-- The triangle of the code: the turn takes no step of its own. -/
def shortTurn (t : Nat) : Nat := min (t % 62) (62 - t % 62)

/-- The triangle of the chip, 32 steps each way. -/
def fullTurn (t : Nat) : Nat := min (t % 64) (63 - t % 64)

theorem course_riseFall : Course (.rampUp, .rampDown) 0 shortTurn
    fun t => 31 ≤ t % 62 where
  start := ⟨rfl, by omega⟩
  low t := by
    simp only [shortTurn]
    omega
  onFirst t ht := by
    simp only [Cycle.next, done_up, shortTurn]
    omega
  onSecond t ht := by
    simp only [Cycle.next, done_down, shortTurn]
    omega

theorem course_fallRise : Course (.rampDown, .rampUp) 31
    (fun t => 31 - shortTurn t) fun t => 31 ≤ t % 62 :=
  course_riseFall.mirror fun _ => rfl

/-! ## The chip -/

/-- The amplitude that the shapes of the AY-3-8910 have after `t` steps. -/
def chip (s : Fin 16) (t : Nat) : Nat :=
  match s with
  | 0 | 1 | 2 | 3 | 9 => 31 - t
  | 8 => 31 - t % 32
  | 10 => 31 - fullTurn t
  | 11 => if t < 32 then 31 - t else 31
  | 12 => t % 32
  | 13 => min t 31
  | 14 => fullTurn t
  | _ => if t < 32 then t else 0

/-- The amplitude that they have here. -/
def emulated (s : Fin 16) (t : Nat) : Nat :=
  match s with
  | 10 => 31 - shortTurn t
  | 14 => shortTurn t
  | s => chip s t

theorem course_of_shape (s : Fin 16) :
    ∃ a₀ second, Course (cycles s) a₀ (emulated s) second ∧
      (if BitVec.ofNat 8 s.val &&& 0x04 == 0 then (0x1f : Byte) else 0x00) =
        BitVec.ofNat 8 a₀ := by
  fin_cases s
  · exact ⟨_, _, course_fall, by decide⟩
  · exact ⟨_, _, course_fall, by decide⟩
  · exact ⟨_, _, course_fall, by decide⟩
  · exact ⟨_, _, course_fall, by decide⟩
  · exact ⟨_, _, course_rise, by decide⟩
  · exact ⟨_, _, course_rise, by decide⟩
  · exact ⟨_, _, course_rise, by decide⟩
  · exact ⟨_, _, course_rise, by decide⟩
  · exact ⟨_, _, course_falls, by decide⟩
  · exact ⟨_, _, course_fall, by decide⟩
  · exact ⟨_, _, course_fallRise, by decide⟩
  · exact ⟨_, _, course_fallUp, by decide⟩
  · exact ⟨_, _, course_rises, by decide⟩
  · exact ⟨_, _, course_riseUp, by decide⟩
  · exact ⟨_, _, course_riseFall, by decide⟩
  · exact ⟨_, _, course_rise, by decide⟩

theorem setShape_row (e : Envelope) (s : Fin 16) :
    (setShape e (BitVec.ofNat 8 s.val)).row = cycles s := by
  have hs : (BitVec.ofNat 8 s.val &&& 0x0f).toNat % 16 = s.val := by
    revert s
    decide
  exact congrArg cycles (Fin.ext hs)

/-- After a shape is written, the envelope goes on as `emulated` says. -/
theorem clock_emulated {e : Envelope} (he : e.counter = 0) (s : Fin 16)
    (t : Nat) :
    (Envelope.clock^[t * max e.period.toNat 1]
      (setShape e (BitVec.ofNat 8 s.val))).amplitude.toNat = emulated s t := by
  obtain ⟨a₀, second, hc, ha⟩ := course_of_shape s
  have hsteps := Envelope.clock_steps
    (x := setShape e (BitVec.ofNat 8 s.val)) he t
  rw [← setShape_row e] at hc
  obtain ⟨-, hamp, -⟩ := hc.follow ha rfl t
  have hp : (setShape e (BitVec.ofNat 8 s.val)).period = e.period := rfl
  rw [hp] at hsteps
  rw [hsteps, hamp]

theorem emulated_eq_iff (s : Fin 16) (t : Nat) :
    emulated s t = chip s t ↔ (s = 10 ∨ s = 14 → shortTurn t = fullTurn t) := by
  have hshort : shortTurn t ≤ 31 := by
    simp only [shortTurn]
    omega
  have hfull : fullTurn t ≤ 31 := by
    simp only [fullTurn]
    omega
  by_cases h10 : s = 10
  · subst h10
    show 31 - shortTurn t = 31 - fullTurn t ↔ _
    refine ⟨fun h _ => by omega, fun h => ?_⟩
    rw [h (.inl rfl)]
  · by_cases h14 : s = 14
    · subst h14
      exact ⟨fun h _ => h, fun h => h (.inr rfl)⟩
    · refine iff_of_true ?_ fun h => absurd h (not_or.2 ⟨h10, h14⟩)
      unfold emulated
      split
      · exact absurd rfl h10
      · exact absurd rfl h14
      · rfl

/-- A shape has the chip's amplitude after any number of steps but for shapes
10 and 14, and these have it where the short turn and the full turn meet. Only
the other shapes have it throughout. -/
theorem envelope_iff {e : Envelope} (he : e.counter = 0) (s : Fin 16) :
    let height t := (Envelope.clock^[t * max e.period.toNat 1]
      (setShape e (BitVec.ofNat 8 s.val))).amplitude.toNat
    (∀ t, height t = chip s t ↔
        (s = 10 ∨ s = 14 → shortTurn t = fullTurn t)) ∧
      ((∀ t, height t = chip s t) ↔ s ≠ 10 ∧ s ≠ 14) := by
  intro height
  have hh (t : Nat) : height t = emulated s t := clock_emulated he s t
  have hiff (t : Nat) : height t = chip s t ↔
      (s = 10 ∨ s = 14 → shortTurn t = fullTurn t) := by
    rw [hh]
    exact emulated_eq_iff s t
  refine ⟨hiff, fun h => ?_, fun ⟨h10, h14⟩ t =>
    (hiff t).2 fun hs => absurd hs (not_or.2 ⟨h10, h14⟩)⟩
  -- the first step behind the turn tells the two triangles apart
  have h32 : shortTurn 32 ≠ fullTurn 32 := by decide
  exact not_or.1 fun hs => h32 ((hiff 32).1 (h 32) hs)

/-- Shape 12 at a period of 0 is at 1 after 33 clocks. -/
theorem envelope_saw :
    (Envelope.clock^[33 * max 0 1]
      (setShape reset.envelope 12)).amplitude.toNat = 1 :=
  ((envelope_iff (e := reset.envelope) rfl 12).1 33).2
    fun h => absurd h (by decide)

/-- Shape 10 at a period of 1: after 32 steps the chip is still down, and the
envelope is on its way up. -/
theorem envelope_turns_short :
    let e : Envelope := { reset.envelope with period := 1 }
    ¬ (Envelope.clock^[32 * max e.period.toNat 1]
      (setShape e 10)).amplitude.toNat = chip 10 32 := by
  intro e h
  rw [show (10 : Byte) = BitVec.ofNat 8 (10 : Fin 16).val from rfl,
    clock_emulated rfl] at h
  exact absurd h (by decide)

end Xcpc.Psg
