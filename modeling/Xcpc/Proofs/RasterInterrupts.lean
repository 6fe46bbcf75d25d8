import Xcpc.Proofs.IndexSafety
import Xcpc.Lib.Runs

/-!
# The interrupts of the gate array

`r52` counts the falling edges of hsync, and an interrupt is due at every
fifty-second. Three other events touch it: the second falling edge after a
vsync clears it, and raises the interrupt when it was 32 or more; a write of
the register of the interrupts may clear it; and the acknowledge takes its bit
5 away. All of them only bring the counter back, so it is never ahead of the
edges since the last interrupt, and that is the least distance of two.

When vsync comes at regular intervals and the acknowledge in time, the counter
is the number of edges since the resynchronisation modulo 52, whatever else the
mainboard asks in between.
-/

namespace Xcpc.Vga

open Prog

/-! ## What the calls do to the counters -/

/-- A write of the register of the interrupts that clears the counter. -/
def ClearsCounter (value : Byte) : Prop :=
  (value >>> 6).toNat = 2 ∧ value &&& 0x10 ≠ 0

/-- The falling edges of hsync among the calls. -/
def falls (es : List Event) : Nat := es.count (.hsync false)

theorem falls_append (es fs : List Event) :
    falls (es ++ fs) = falls es + falls fs := List.count_append

theorem falls_vsync_cons (x : Bool) (es : List Event) :
    falls (.vsync x :: es) = falls es :=
  List.count_cons_of_ne Event.noConfusion

theorem step_inRange {s : State} (h : s.InRange) (e : Event) :
    (step s e).InRange := by
  cases e with
  | setValue v =>
      obtain ⟨r, hr, hin⟩ := setValue_inRange h v
      simp only [step, call, hr]
      exact hin
  | hsync x =>
      obtain ⟨r, hr, hin⟩ := assertHsync_inRange h x
      simp only [step, call, hr]
      exact hin
  | vsync x => exact assertVsync_inRange h x
  | ackInterrupt => exact ackInterrupt_inRange h

theorem run_inRange {s : State} (h : s.InRange) (es : List Event) :
    (run step s es).InRange := by
  refine run_keeps ?_ h es
  exact fun _ e hs => step_inRange hs e

/-- Next to a falling edge no call raises the interrupt. -/
theorem raises_eq_zero {s : State} {e : Event} (he : e ≠ .hsync false) :
    raises s e = 0 := by
  cases e with
  | setValue v =>
      simp only [raises, call]
      cases setValue s v <;> rfl
  | hsync x =>
      cases x with
      | false => exact absurd rfl he
      | true =>
          simp only [raises, call, assertHsync, if_pos]
          cases risingHsync s <;> rfl
  | vsync x => rfl
  | ackInterrupt => rfl

/-- The counters after a write: only the register of the interrupts touches
one. -/
theorem step_setValue (s : State) (v : Byte) :
    (step s (.setValue v)).r02 = s.r02 ∧
      ((step s (.setValue v)).r52 = s.r52 ∨
        ClearsCounter v ∧ (step s (.setValue v)).r52 = 0) := by
  simp only [step, call, setValue]
  split
  · exact ⟨rfl, .inl rfl⟩
  · split
    · exact ⟨rfl, .inl rfl⟩
    · exact ⟨rfl, .inl rfl⟩
  · rename_i hv
    refine ⟨rfl, ?_⟩
    simp only [Option.map_some, Option.getD_some]
    split
    · rename_i hbit
      exact .inr ⟨⟨hv, by simpa using hbit⟩, rfl⟩
    · exact .inl rfl
  · exact ⟨rfl, .inl rfl⟩

theorem step_hsync_true (s : State) :
    (step s (.hsync true)).r52 = s.r52 ∧
      (step s (.hsync true)).r02 = s.r02 := by
  simp only [step, call, assertHsync, risingHsync, if_pos]
  split
  · cases latch s <;> exact ⟨rfl, rfl⟩
  · exact ⟨rfl, rfl⟩

/-- A falling edge. The count starts again at 52 and at the end of the
resynchronisation, which raises the interrupt from 32 on. -/
theorem step_fall {s : State} (h : s.r52.toNat < 52) :
    (step s (.hsync false)).r52.toNat =
        (if s.r52.toNat + 1 = 52 ∨ s.r02.toNat = 1 then 0
          else s.r52.toNat + 1) ∧
      (step s (.hsync false)).r02.toNat = s.r02.toNat - 1 ∧
      raises s (.hsync false) =
        if s.r52.toNat + 1 = 52 ∨ (s.r02.toNat = 1 ∧ 32 ≤ s.r52.toNat + 1)
        then 1 else 0 := by
  have hadd : (s.r52 + 1).toNat = s.r52.toNat + 1 := by bv_omega
  have hsub : s.r02 ≠ 0 → (s.r02 - 1).toNat = s.r02.toNat - 1 := by
    intro h0
    bv_omega
  have hwrap : s.r52 + 1 = 52 ↔ s.r52.toNat + 1 = 52 := by
    rw [BitVec.toNat_eq, hadd]
    rfl
  have hlast : s.r02 - 1 = 0 ↔ s.r02.toNat = 1 := by bv_omega
  have hge : s.r52 + 1 ≥ 32 ↔ 32 ≤ s.r52.toNat + 1 := by
    rw [← hadd]
    rfl
  show (fallingHsync s).1.r52.toNat = _ ∧ (fallingHsync s).1.r02.toNat = _ ∧
    (fallingHsync s).2 = _
  simp only [fallingHsync, beq_iff_eq, bne_iff_ne, ← hwrap, ← hlast, ← hge]
  by_cases h52 : s.r52 + 1 = 52
  · by_cases h0 : s.r02 = 0
    · simp only [h0, h52, ne_eq, not_true, if_true, if_false, true_or]
      exact ⟨rfl, rfl, trivial⟩
    · by_cases h1 : s.r02 - 1 = 0
      · simp only [h0, h1, h52, ne_eq, not_false_iff, if_true, true_or]
        exact ⟨rfl, by rw [← hsub h0, h1], rfl⟩
      · simp only [h0, h1, h52, ne_eq, not_false_iff, if_true, if_false,
          true_or]
        exact ⟨rfl, hsub h0, trivial⟩
  · by_cases h0 : s.r02 = 0
    · have h1 : ¬ (0 : Byte) - 1 = 0 := by decide
      simp only [h0, h1, h52, ne_eq, not_true, if_false, false_or, false_and]
      exact ⟨hadd, rfl, trivial⟩
    · by_cases h1 : s.r02 - 1 = 0
      · simp only [h0, h1, h52, ne_eq, not_false_iff, if_true, if_false,
          or_true, true_and, false_or]
        exact ⟨rfl, by rw [← hsub h0, h1], trivial⟩
      · simp only [h0, h1, h52, ne_eq, not_false_iff, if_true, if_false,
          false_and, or_false]
        exact ⟨hadd, hsub h0, trivial⟩

theorem step_ack (s : State) :
    (step s .ackInterrupt).r52 = s.r52 &&& 0xdf ∧
      (step s .ackInterrupt).r02 = s.r02 := ⟨rfl, rfl⟩

theorem step_vsync (s : State) (x : Bool) :
    (step s (.vsync x)).r52 = s.r52 ∧
      (step s (.vsync x)).r02 = if x then 2 else s.r02 := by
  cases x <;> exact ⟨rfl, rfl⟩

/-- The calls that leave the counter as it is. The acknowledge does as long as
the bit that it takes away is not set yet. -/
def Leaves (s : State) : Event → Prop
  | .setValue value => ¬ ClearsCounter value
  | .hsync signal => signal = true
  | .vsync _ => True
  | .ackInterrupt => s.r52.toNat < 32

theorem and_df : ∀ x : Byte, x.toNat < 32 → x &&& 0xdf = x := by
  decide +kernel

theorem step_leaves {s : State} {e : Event} (h : Leaves s e) :
    (step s e).r52 = s.r52 := by
  cases e with
  | setValue v =>
      rcases (step_setValue s v).2 with hr | ⟨hv, -⟩
      · exact hr
      · exact absurd hv h
  | hsync x =>
      cases h
      exact (step_hsync_true s).1
  | vsync x => exact (step_vsync s x).1
  | ackInterrupt => exact and_df s.r52 h

/-- The resynchronisation is asked for by a vsync and worked off by the falling
edges. -/
theorem step_r02 {s : State} {e : Event} (hfall : e ≠ .hsync false)
    (hvsync : e ≠ .vsync true) : (step s e).r02 = s.r02 := by
  cases e with
  | setValue v => exact (step_setValue s v).1
  | hsync x =>
      cases x with
      | false => exact absurd rfl hfall
      | true => exact (step_hsync_true s).2
  | vsync x =>
      cases x with
      | false => rfl
      | true => exact absurd rfl hvsync
  | ackInterrupt => rfl

/-- Next to a falling edge no call counts, and none puts the counter
forward. -/
theorem step_le {s : State} {e : Event} (he : e ≠ .hsync false) :
    (step s e).r52.toNat ≤ s.r52.toNat := by
  cases e with
  | setValue v =>
      rcases (step_setValue s v).2 with h | ⟨-, h⟩
      · exact h ▸ Nat.le_refl _
      · exact h ▸ Nat.zero_le _
  | hsync x =>
      cases x with
      | false => exact absurd rfl he
      | true => exact (step_hsync_true s).1 ▸ Nat.le_refl _
  | vsync x => exact (step_vsync s x).1 ▸ Nat.le_refl _
  | ackInterrupt =>
      rw [(step_ack s).1, BitVec.toNat_and]
      exact Nat.and_le_left

theorem raises_le_one {s : State} (h : s.InRange) (e : Event) :
    raises s e ≤ 1 := by
  by_cases he : e = .hsync false
  · subst he
    rw [(step_fall h.r52).2.2]
    split
    · exact Nat.le_refl 1
    · exact Nat.zero_le 1
  · exact raises_eq_zero he ▸ Nat.zero_le 1

/-- An interrupt comes with the counter at 32 or more, and leaves it
cleared. -/
theorem raises_pos {s : State} {e : Event} (h : s.InRange)
    (hr : 0 < raises s e) : e = .hsync false ∧ 32 ≤ s.r52.toNat + 1 ∧
      (step s e).r52.toNat = 0 := by
  have he : e = .hsync false := by
    by_contra he
    exact absurd (raises_eq_zero (s := s) he) hr.ne'
  subst he
  obtain ⟨h52, -, hraise⟩ := step_fall h.r52
  rw [hraise] at hr
  split at hr
  · rename_i hdue
    refine ⟨rfl, ?_, ?_⟩
    · omega
    · rw [h52, if_pos]
      exact hdue.imp_right And.left
  · exact absurd hr (Nat.lt_irrefl 0)

/-! ## The counter and the edges -/

/-- A run, watched from some state on. -/
structure Watch where
  gate : State
  /-- The falling edges of hsync. -/
  falls : Nat
  /-- The interrupts raised. -/
  raised : Nat
  /-- The last of them is not acknowledged yet. -/
  pending : Bool

def watch (s : State) : Watch := ⟨s, 0, 0, false⟩

def Watch.step (w : Watch) (e : Event) : Watch where
  gate := Vga.step w.gate e
  falls := w.falls + Vga.falls [e]
  raised := w.raised + raises w.gate e
  pending := match e with
    | .ackInterrupt => false
    | _ => w.pending || raises w.gate e != 0

theorem Watch.step_falls {w : Watch} {e : Event} (he : e ≠ .hsync false) :
    (w.step e).falls = w.falls := by
  show w.falls + List.count _ [e] = w.falls
  rw [List.count_singleton, if_neg (by simpa using he), Nat.add_zero]

@[simp] theorem Watch.run_gate (w : Watch) (es : List Event) :
    (run Watch.step w es).gate = run Vga.step w.gate es := by
  induction es generalizing w with
  | nil => rfl
  | cons e es ih => exact ih (w.step e)

@[simp] theorem Watch.run_falls (w : Watch) (es : List Event) :
    (run Watch.step w es).falls = w.falls + Vga.falls es := by
  induction es generalizing w with
  | nil => rfl
  | cons e es ih =>
      rw [run_cons, ih, ← List.singleton_append, falls_append, ← Nat.add_assoc]
      rfl

@[simp] theorem Watch.run_raised (w : Watch) (es : List Event) :
    (run Watch.step w es).raised =
      w.raised + total Vga.step raises w.gate es := by
  induction es generalizing w with
  | nil => rfl
  | cons e es ih =>
      rw [run_cons, ih, total_cons, ← Nat.add_assoc]
      rfl

/-- The counter is not ahead of the edges. -/
theorem r52_le_falls {s : State} (h : s.InRange) (h0 : s.r52.toNat = 0)
    (es : List Event) : (run step s es).r52.toNat ≤ falls es := by
  have hkeeps : ∀ w e, w.gate.InRange ∧ w.gate.r52.toNat ≤ w.falls →
      (Watch.step w e).gate.InRange ∧
        (Watch.step w e).gate.r52.toNat ≤ (Watch.step w e).falls := by
    rintro w e ⟨hin, hle⟩
    refine ⟨step_inRange hin e, ?_⟩
    by_cases he : e = .hsync false
    · subst he
      show (step w.gate _).r52.toNat ≤ w.falls + 1
      rw [(step_fall hin.r52).1]
      split <;> omega
    · exact Nat.le_trans (step_le he) (Nat.le_trans hle (Nat.le_add_right _ _))
  have hrun := (run_keeps hkeeps (s := watch s) ⟨h, h0.le⟩ es).2
  rw [Watch.run_gate, Watch.run_falls] at hrun
  exact Nat.zero_add (falls es) ▸ hrun

/-! ## The distance of two interrupts -/

/-- From an interrupt on, the calls that leave the counter to the edges. -/
def Undisturbed (w : Watch) : Event → Prop
  | .setValue value => ¬ ClearsCounter value
  | .hsync _ => True
  | .vsync signal => signal = false
  | .ackInterrupt => w.falls < 32

instance instDecidableUndisturbed (w : Watch) : DecidablePred (Undisturbed w)
  | .setValue _ => inferInstanceAs (Decidable (¬ (_ ∧ _)))
  | .hsync _ => inferInstanceAs (Decidable True)
  | .vsync signal => inferInstanceAs (Decidable (signal = false))
  | .ackInterrupt => inferInstanceAs (Decidable (w.falls < 32))

/-- The counter is the number of edges as long as no interrupt is raised. -/
structure Watch.Counts (w : Watch) : Prop where
  inRange : w.gate.InRange
  r02 : w.gate.r02 = 0
  r52 : w.raised = 0 → w.gate.r52.toNat = w.falls

theorem Watch.Counts.step {w : Watch} {e : Event} (h : w.Counts)
    (hun : Undisturbed w e) : (w.step e).Counts := by
  have hquiet : (w.step e).raised = 0 → w.raised = 0 ∧ raises w.gate e = 0 :=
    fun hz => Nat.add_eq_zero_iff.1 hz
  by_cases he : e = .hsync false
  · subst he
    obtain ⟨hr52, hr02, hraise⟩ := step_fall h.inRange.r52
    have h0 : w.gate.r02.toNat = 0 := by rw [h.r02]; rfl
    rw [h0] at hr52 hr02 hraise
    refine ⟨step_inRange h.inRange (.hsync false),
      BitVec.eq_of_toNat_eq hr02, fun hz => ?_⟩
    obtain ⟨hz, hn⟩ := hquiet hz
    rw [hn] at hraise
    have heq := h.r52 hz
    show (Vga.step w.gate _).r52.toNat = w.falls + 1
    split at hraise <;> split at hr52 <;> omega
  · have hv : e ≠ .vsync true := by
      rintro rfl
      exact Bool.noConfusion hun
    refine ⟨step_inRange h.inRange e, ?_, fun hz => ?_⟩
    · exact (step_r02 he hv).trans h.r02
    · have heq := h.r52 (hquiet hz).1
      have hl : Leaves w.gate e := by
        cases e with
        | setValue v => exact hun
        | hsync x => exact Bool.eq_true_of_not_eq_false fun hx => he (hx ▸ rfl)
        | vsync x => exact trivial
        | ackInterrupt => exact Nat.lt_of_le_of_lt heq.le hun
      rw [Watch.step_falls he, ← heq]
      exact congrArg _ (step_leaves hl)

/-- Two interrupts of a run are at least 32 falling edges apart, and exactly 52
when they follow each other without disturbance. -/
theorem interrupt_spacing (s : State) (pre : List Event) (e₁ : Event)
    (mid : List Event) (e₂ : Event) :
    let s₀ := run step (reset s) pre
    let s₁ := step s₀ e₁
    let s₂ := run step s₁ mid
    raises s₀ e₁ ≤ 1 ∧
      (0 < raises s₀ e₁ → 0 < raises s₂ e₂ →
        32 ≤ falls (mid ++ [e₂]) ∧
        (s₁.r02 = 0 → total step raises s₁ mid = 0 →
          Along Watch.step Undisturbed (watch s₁) mid →
          falls (mid ++ [e₂]) = 52)) := by
  intro s₀ s₁ s₂
  have h₀ : s₀.InRange := run_inRange (reset_inRange s) pre
  have h₁ : s₁.InRange := step_inRange h₀ e₁
  have h₂ : s₂.InRange := run_inRange h₁ mid
  refine ⟨raises_le_one h₀ e₁, fun hr₁ hr₂ => ?_⟩
  have h0 : s₁.r52.toNat = 0 := (raises_pos h₀ hr₁).2.2
  obtain ⟨rfl, h32, -⟩ := raises_pos h₂ hr₂
  have hfalls : falls (mid ++ [.hsync false]) = falls mid + 1 :=
    falls_append _ _
  rw [hfalls]
  have hle : s₂.r52.toNat ≤ falls mid := r52_le_falls h₁ h0 mid
  refine ⟨by omega, fun hr02 hquiet hun => ?_⟩
  have hc : (run Watch.step (watch s₁) mid).Counts :=
    inv_run (fun _ _ hw => hw.step) ⟨h₁, hr02, fun _ => h0⟩ hun
  have heq : s₂.r52.toNat = falls mid := by
    have hr := hc.r52 (by
      rw [Watch.run_raised]
      exact (Nat.zero_add _).trans hquiet)
    rw [Watch.run_gate, Watch.run_falls] at hr
    exact hr.trans (Nat.zero_add _)
  have hz : s₂.r02.toNat = 0 := by
    have hr := hc.r02
    rw [Watch.run_gate] at hr
    exact congrArg BitVec.toNat hr
  have hraise := (step_fall h₂.r52).2.2
  rw [hz] at hraise
  split at hraise <;> omega

/-- A black colormap. -/
def dark : State :=
  ⟨0, fun _ => 0, 0, 0, 0, 0, ⟨fun _ => 0, fun _ => 0⟩, fun _ => .zero⟩

/-- With the first interrupt acknowledged twenty lines late. -/
theorem dark_spacing :
    let mid := List.replicate 20 (Event.hsync false) ++ .ackInterrupt ::
      List.replicate 31 (Event.hsync false)
    falls (mid ++ [.hsync false]) = 52 := by
  intro mid
  have h := interrupt_spacing dark (List.replicate 51 (.hsync false))
    (.hsync false) mid (.hsync false)
  exact ((h.2 (by decide +kernel) (by decide +kernel)).2 (by decide +kernel)
    (by decide +kernel) (by decide +kernel))

/-! ## The interrupts of a frame -/

/-- What a run asks of its calls: an acknowledge answers an interrupt and comes
before the next falling edge of hsync, and no write clears the counter. -/
def Prompt (w : Watch) : Event → Prop
  | .setValue value => ¬ ClearsCounter value
  | .hsync signal => signal = false → w.pending = false
  | .vsync _ => True
  | .ackInterrupt => w.pending = true

/-- Vsync rises once every `L` falling edges of hsync. -/
def Periodic (L : Nat) (es : List Event) : Prop :=
  ∀ a b c, es = a ++ .vsync true :: (b ++ .vsync true :: c) →
    .vsync true ∉ b → falls b = L

/-- The part of the invariants that needs no discipline of the calls. -/
structure Watch.Waits (k : Nat) (w : Watch) : Prop where
  inRange : w.gate.InRange
  r02 : w.gate.r02.toNat = k

/-- The counter from a resynchronisation on, at which `f` edges and `r`
interrupts had been counted. -/
structure Watch.Ticks (f r k : Nat) (w : Watch) : Prop extends w.Waits k where
  le : f ≤ w.falls
  r52 : w.gate.r52.toNat = (w.falls - f) % 52
  raised : w.raised = r + (w.falls - f) / 52
  pending : w.pending = true → w.gate.r52.toNat = 0

theorem Watch.step_fall_falls (w : Watch) :
    (w.step (.hsync false)).falls = w.falls + 1 := rfl

theorem Watch.pending_of_step {w : Watch} {e : Event} (he : e ≠ .hsync false)
    (h : (w.step e).pending = true) : w.pending = true := by
  have hr := raises_eq_zero (s := w.gate) he
  have hsame : (w.pending || raises w.gate e != 0) = w.pending := by
    rw [hr]
    exact Bool.or_false _
  cases e with
  | ackInterrupt => exact absurd h Bool.false_ne_true
  | setValue v => exact hsame.symm.trans h
  | hsync x => exact hsame.symm.trans h
  | vsync x => exact hsame.symm.trans h

theorem Watch.Waits.calm {k : Nat} {w : Watch} (h : w.Waits k) {e : Event}
    (hfall : e ≠ .hsync false) (hvsync : e ≠ .vsync true) :
    (w.step e).Waits k :=
  ⟨step_inRange h.inRange e, (congrArg _ (step_r02 hfall hvsync)).trans h.r02⟩

theorem Watch.Waits.fall {k : Nat} {w : Watch} (h : w.Waits k) :
    (w.step (.hsync false)).Waits (k - 1) :=
  ⟨step_inRange h.inRange (.hsync false),
    (step_fall h.inRange.r52).2.1.trans (by rw [h.r02])⟩

/-- Between the edges the counter stands. -/
theorem Watch.Ticks.calm {f r k k' : Nat} {w : Watch} (h : w.Ticks f r k)
    {e : Event} (hp : Prompt w e) (hfall : e ≠ .hsync false)
    (hw : (w.step e).Waits k') : (w.step e).Ticks f r k' := by
  have hl : Leaves w.gate e := by
    cases e with
    | setValue v => exact hp
    | hsync x => exact Bool.eq_true_of_not_eq_false fun hx => hfall (hx ▸ rfl)
    | vsync x => exact trivial
    | ackInterrupt =>
        show w.gate.r52.toNat < 32
        rw [h.pending hp]
        exact Nat.zero_lt_succ 31
  have hr52 : (w.step e).gate.r52 = w.gate.r52 := step_leaves hl
  have hraised : (w.step e).raised = w.raised := by
    show w.raised + raises w.gate e = w.raised
    rw [raises_eq_zero hfall, Nat.add_zero]
  refine { hw with le := ?_, r52 := ?_, raised := ?_, pending := fun hd => ?_ }
  · exact (Watch.step_falls hfall).symm ▸ h.le
  · rw [hr52, Watch.step_falls hfall, h.r52]
  · rw [hraised, Watch.step_falls hfall, h.raised]
  · rw [hr52]
    exact h.pending (Watch.pending_of_step hfall hd)

/-- An edge that does not end a resynchronisation. -/
theorem Watch.Ticks.fall {f r k : Nat} {w : Watch} (h : w.Ticks f r k)
    (hp : w.pending = false) (hk : k ≠ 1) :
    (w.step (.hsync false)).Ticks f r (k - 1) := by
  obtain ⟨hr52, -, hraise⟩ := step_fall h.inRange.r52
  have hle := h.le
  have heq := h.r52
  have htotal := h.raised
  simp only [h.r02, hk, or_false, false_and] at hr52 hraise
  refine { h.toWaits.fall with
    le := ?_, r52 := ?_, raised := ?_, pending := ?_ }
  · exact Nat.le_trans hle (Nat.le_add_right _ _)
  · show (Vga.step w.gate _).r52.toNat = (w.falls + 1 - f) % 52
    rw [hr52]
    split <;> omega
  · show w.raised + raises w.gate _ = r + (w.falls + 1 - f) / 52
    rw [hraise]
    split <;> omega
  · intro hd
    have hd : (w.pending || raises w.gate (.hsync false) != 0) = true := hd
    rw [hp, Bool.false_or, bne_iff_ne, hraise] at hd
    show (Vga.step w.gate _).r52.toNat = 0
    rw [hr52]
    split
    · rfl
    · rename_i hne
      exact absurd (if_neg hne) hd

/-- The edge that ends a resynchronisation starts the count. -/
theorem Watch.Waits.resync {w : Watch} (h : w.Waits 1) :
    (w.step (.hsync false)).Ticks (w.falls + 1)
      (w.step (.hsync false)).raised 0 := by
  obtain ⟨hr52, -, -⟩ := step_fall h.inRange.r52
  rw [h.r02, if_pos (.inr rfl)] at hr52
  refine { h.fall with
    le := Nat.le_refl _, r52 := ?_, raised := ?_, pending := ?_ }
  · show _ = (w.falls + 1 - (w.falls + 1)) % 52
    rw [Nat.sub_self]
    exact hr52
  · show _ = _ + (w.falls + 1 - (w.falls + 1)) / 52
    rw [Nat.sub_self]
    rfl
  · exact fun _ => hr52

/-! ## The segments of a frame -/

/-- A segment up to its first falling edge. -/
theorem exists_fall {es : List Event} {n : Nat} (h : falls es = n + 1)
    (hv : .vsync true ∉ es) : ∃ as bs, es = as ++ .hsync false :: bs ∧
      (falls as = 0 ∧ .vsync true ∉ as) ∧ falls bs = n ∧ .vsync true ∉ bs := by
  have hmem : Event.hsync false ∈ es := by
    refine List.count_pos_iff.1 ?_
    show 0 < falls es
    omega
  obtain ⟨as, bs, rfl, has⟩ := List.eq_append_cons_of_mem hmem
  have hfalls : falls as = 0 := List.count_eq_zero.2 has
  have hcons : falls (.hsync false :: bs) = falls bs + 1 := List.count_cons_self
  rw [falls_append, hfalls, hcons] at h
  refine ⟨as, bs, rfl, ⟨hfalls, ?_⟩, by omega, ?_⟩
  · exact fun hm => hv (List.mem_append_left _ hm)
  · exact fun hm => hv (List.mem_append_right _ (List.mem_cons_of_mem _ hm))

theorem Watch.Waits.run {k : Nat} {w : Watch} (h : w.Waits k)
    {es : List Event} (hes : Vga.falls es = 0 ∧ .vsync true ∉ es) :
    (run Watch.step w es).Waits k := by
  have hstill : ∀ e ∈ es, e ≠ .hsync false ∧ e ≠ .vsync true := by
    refine fun e he => ⟨?_, ?_⟩
    · rintro rfl
      exact List.count_eq_zero.1 hes.1 he
    · rintro rfl
      exact hes.2 he
  clear hes
  induction es generalizing w with
  | nil => exact h
  | cons e es ih =>
      obtain ⟨⟨hfall, hvsync⟩, hrest⟩ := List.forall_mem_cons.1 hstill
      exact ih (h.calm hfall hvsync) hrest

theorem Watch.Ticks.run {f r k : Nat} {w : Watch} (h : w.Ticks f r k)
    {es : List Event} (hp : Along Watch.step Prompt w es)
    (hv : .vsync true ∉ es) (hk : k = 0 ∨ Vga.falls es = 0) :
    (run Watch.step w es).Ticks f r k := by
  have hes : ∀ e ∈ es, e ≠ .vsync true ∧ (e = .hsync false → k = 0) := by
    refine fun e he => ⟨?_, ?_⟩
    · rintro rfl
      exact hv he
    · rintro rfl
      exact hk.resolve_right fun h0 => List.count_eq_zero.1 h0 he
  refine inv_run ?_ h (along_and hp hes)
  rintro w e hw ⟨hpe, hvsync, hk0⟩
  by_cases he : e = .hsync false
  · subst he
    cases hk0 rfl
    exact hw.fall (hpe rfl) Nat.zero_ne_one
  · exact hw.calm hpe he (hw.toWaits.calm he hvsync)

/-- The count has just started. -/
def Watch.Synced (w : Watch) : Prop := w.Ticks w.falls w.raised 0

theorem Watch.Ticks.synced {f r : Nat} {w : Watch} (h : w.Ticks f r 0)
    (hf : w.falls = f) : w.Synced := by
  subst hf
  have hr := h.raised
  rw [Nat.sub_self, Nat.zero_div, Nat.add_zero] at hr
  subst hr
  exact h

/-- Two falling edges after a vsync the count starts. -/
theorem Watch.resynced {w : Watch} (h : w.gate.InRange) {q : List Event}
    (hp : Along Watch.step Prompt (w.step (.vsync true)) q)
    (hv : .vsync true ∉ q) (hq : Vga.falls q = 2) :
    (run Watch.step (w.step (.vsync true)) q).Synced := by
  obtain ⟨q₁, q', rfl, hq₁, hq', hv'⟩ := exists_fall hq hv
  obtain ⟨q₂, q₃, rfl, hq₂, hq₃, hv₃⟩ := exists_fall hq' hv'
  have h₂ : (w.step (.vsync true)).Waits 2 :=
    ⟨step_inRange h (.vsync true), rfl⟩
  have h₁ := ((h₂.run hq₁).fall).run hq₂
  simp only [along_append, Along] at hp
  simp only [run_append, run_cons]
  refine (h₁.resync.run hp.2.2.2.2 hv₃ (.inl rfl)).synced ?_
  rw [Watch.run_falls, hq₃]
  rfl

/-- The edge that ends a resynchronisation may raise the interrupt twice over,
for the count and for its end, and raises it once. -/
theorem Watch.Ticks.last {f r : Nat} {w : Watch} (h : w.Ticks f r 1) :
    (w.step (.hsync false)).raised = r + ((w.falls + 1 - f) / 52 +
      if 32 ≤ (w.falls + 1 - f) % 52 then 1 else 0) := by
  obtain ⟨-, -, hraise⟩ := step_fall h.inRange.r52
  have hle := h.le
  have heq := h.r52
  have htotal := h.raised
  show w.raised + raises w.gate _ = _
  rw [hraise, h.r02]
  split <;> split <;> omega

/-- A frame from one start of the count to the next. -/
theorem Watch.Synced.frame {w : Watch} (h : w.Synced) {d c : List Event}
    (hp : Along Watch.step Prompt w
      (d ++ Event.vsync true :: c ++ [Event.hsync false]))
    (hd : Event.vsync true ∉ d) (hc : Event.vsync true ∉ c)
    (hc₁ : Vga.falls c = 1) :
    (run Watch.step w
      (d ++ Event.vsync true :: c ++ [Event.hsync false])).raised =
      w.raised + ((Vga.falls d + 2) / 52 +
        if 32 ≤ (Vga.falls d + 2) % 52 then 1 else 0) := by
  obtain ⟨c₁, c₂, rfl, ⟨hc₁, hv₁⟩, hc₂, hv₂⟩ := exists_fall hc₁ hc
  simp only [along_append, run_append, Along, run_cons, run_nil,
    List.append_assoc, List.cons_append] at hp ⊢
  obtain ⟨hpd, -, hp₁, hp₂, hp₃, -⟩ := hp
  have hd₀ := h.run hpd hd (.inl rfl)
  have hd₂ :
      ((run Watch.step w d).step (Event.vsync true)).Ticks w.falls w.raised 2 :=
    hd₀.calm trivial Event.noConfusion
      ⟨step_inRange hd₀.inRange (Event.vsync true), rfl⟩
  have hend := (((hd₂.run hp₁ hv₁ (.inr hc₁)).fall (hp₂ rfl)
    (by decide)).run hp₃ hv₂ (.inr hc₂)).last
  have hfalls : (run Watch.step ((run Watch.step ((run Watch.step w d).step
      (.vsync true)) c₁).step (.hsync false)) c₂).falls + 1 - w.falls =
      Vga.falls d + 2 := by
    have hv : ((run Watch.step w d).step (Event.vsync true)).falls =
        w.falls + Vga.falls d := Watch.run_falls w d
    rw [Watch.run_falls, hc₂, Watch.step_fall_falls, Watch.run_falls, hc₁, hv]
    omega
  rw [hend, hfalls]

/-! ## The frames of a run -/

/-- The `L` falling edges of `w` after the run `pre`, which has had its first
vsync, are a frame: the last of them is the second after a vsync. -/
structure Frame (L : Nat) (pre w : List Event) : Prop where
  length : falls w = L
  first : .vsync true ∈ pre
  last : ∃ a c, pre ++ w = a ++ .vsync true :: (c ++ [.hsync false]) ∧
    falls c = 1

/-- The last vsync of a run. -/
theorem exists_last_vsync {es : List Event} (h : Event.vsync true ∈ es) :
    ∃ a b, es = a ++ Event.vsync true :: b ∧ Event.vsync true ∉ b := by
  obtain ⟨b, a, hab, hb⟩ := List.eq_append_cons_of_mem (List.mem_reverse.2 h)
  refine ⟨a.reverse, b.reverse, ?_, fun hm => hb (List.mem_reverse.1 hm)⟩
  rw [← List.reverse_reverse es, hab, List.reverse_append, List.reverse_cons,
    List.append_assoc, List.singleton_append]

/-- A segment of less than `L` falling edges that a vsync follows has none. -/
theorem Periodic.not_mem {L : Nat} {a b c : List Event}
    (h : Periodic L (a ++ (b ++ Event.vsync true :: c))) (hb : falls b < L) :
    Event.vsync true ∉ b := by
  intro hm
  obtain ⟨b₁, b₂, rfl, hb₂⟩ := exists_last_vsync hm
  rw [falls_append] at hb
  have hL := h (a ++ b₁) b₂ c (by simp) hb₂
  rw [falls_vsync_cons] at hb
  omega

/-- The first vsync of a segment comes after `L` falling edges. -/
theorem Periodic.not_mem_after {L : Nat} {a b c : List Event}
    (h : Periodic L (a ++ Event.vsync true :: (b ++ c))) (hb : falls b < L) :
    Event.vsync true ∉ b := by
  intro hm
  obtain ⟨b₁, b₂, rfl, hb₁⟩ := List.eq_append_cons_of_mem hm
  rw [falls_append] at hb
  have hL := h a b₁ (b₂ ++ c) (by simp) hb₁
  omega

/-- A frame starts where the resynchronisation before it ends, and holds the
next vsync. -/
theorem Frame.split {L : Nat} (hL : 3 ≤ L) {pre w post : List Event}
    (hw : Frame L pre w) (hper : Periodic L (pre ++ w ++ post)) :
    ∃ p q d c, pre = p ++ Event.vsync true :: q ∧
      w = d ++ Event.vsync true :: c ++ [Event.hsync false] ∧
      (Event.vsync true ∉ q ∧ falls q = 2) ∧
      (Event.vsync true ∉ d ∧ falls d + 2 = L) ∧
      Event.vsync true ∉ c ∧ falls c = 1 := by
  obtain ⟨a, c, hsplit, hc⟩ := hw.last
  have hlast : falls (Event.vsync true :: (c ++ [Event.hsync false])) = 2 := by
    rw [falls_vsync_cons, falls_append, hc]
    rfl
  obtain ⟨d, rfl⟩ :
      ∃ d, w = d ++ Event.vsync true :: (c ++ [Event.hsync false]) := by
    rcases List.append_eq_append_iff.1 hsplit with ⟨d, -, hd⟩ | ⟨d, -, hd⟩
    · exact ⟨d, hd⟩
    · have hlen := hw.length
      rw [hd, falls_append] at hlast
      omega
  obtain ⟨p, q, rfl, hq⟩ := exists_last_vsync hw.first
  have hlen := hw.length
  rw [falls_append, hlast] at hlen
  have hd : Event.vsync true ∉ d := by
    refine Periodic.not_mem (L := L) (a := p ++ Event.vsync true :: q)
      (c := c ++ [Event.hsync false] ++ post) ?_ (by omega)
    simpa using hper
  have hcv : Event.vsync true ∉ c := by
    refine Periodic.not_mem_after (L := L)
      (a := p ++ Event.vsync true :: (q ++ d))
      (c := [Event.hsync false] ++ post) ?_ (by omega)
    simpa using hper
  have hqd := hper p (q ++ d) (c ++ [Event.hsync false] ++ post) (by simp)
    (by simp [hq, hd])
  rw [falls_append] at hqd
  exact ⟨p, q, d, c, rfl, by simp, ⟨hq, by omega⟩, ⟨hd, hlen⟩, hcv, hc⟩

/-- When vsync rises once every `L` falling edges and the acknowledge comes in
time, a frame has an interrupt for every 52 lines, and one more when the rest
is 32 or more. -/
theorem interrupts_per_frame (s : State) (L : Nat) (hL : 3 ≤ L)
    (pre w post : List Event) (hw : Frame L pre w)
    (hper : Periodic L (pre ++ w ++ post))
    (hp : Along Watch.step Prompt (watch (reset s)) (pre ++ w ++ post)) :
    total step raises (run step (reset s) pre) w =
      L / 52 + if 32 ≤ L % 52 then 1 else 0 := by
  obtain ⟨p, q, d, c, rfl, rfl, ⟨hq, hq₂⟩, ⟨hd, hd₂⟩, hc, hc₁⟩ :=
    hw.split hL hper
  have hp := (along_append.1 hp).1
  obtain ⟨hpre, hpw⟩ := along_append.1 hp
  obtain ⟨-, -, hpq⟩ := along_append.1 hpre
  have hin : (run Watch.step (watch (reset s)) p).gate.InRange := by
    rw [Watch.run_gate]
    exact run_inRange (reset_inRange s) p
  have hsync := Watch.resynced hin hpq hq hq₂
  rw [run_append, run_cons] at hpw
  have hframe := hsync.frame hpw hd hc hc₁
  rw [Watch.run_raised, ← run_cons Watch.step, ← run_append, Watch.run_gate,
    hd₂] at hframe
  exact Nat.add_left_cancel hframe

theorem periodic_pair {b c : List Event} (hb : Event.vsync true ∉ b)
    (hc : Event.vsync true ∉ c) :
    Periodic (falls b) (Event.vsync true :: (b ++ Event.vsync true :: c)) := by
  intro a' b' c' heq hb'
  cases a' with
  | nil =>
      have heq := (List.cons.inj heq).2
      rw [((List.append_cons_inj_of_notMem hb hc).1 heq).1]
  | cons e a' =>
      rw [List.cons_append] at heq
      have heq := (List.cons.inj heq).2
      have hcount := congrArg (List.count (Event.vsync true)) heq
      simp only [List.count_append, List.count_cons_self,
        List.count_eq_zero.2 hb, List.count_eq_zero.2 hc] at hcount
      omega

instance instDecidablePrompt (w : Watch) : DecidablePred (Prompt w)
  | .setValue _ => inferInstanceAs (Decidable (¬ (_ ∧ _)))
  | .hsync signal => inferInstanceAs (Decidable (signal = false → _))
  | .vsync _ => inferInstanceAs (Decidable True)
  | .ackInterrupt => inferInstanceAs (Decidable (w.pending = true))

/-- A frame of 312 lines has six interrupts. -/
theorem dark_frame :
    let lines := List.replicate 50 (Event.hsync false)
    let rest := List.flatten (List.replicate 5
      (.hsync false :: .hsync false :: lines ++ [.ackInterrupt])) ++ lines
    let sync := [Event.vsync true, .hsync false, .hsync false]
    total step raises (run step (reset dark) sync) (rest ++ sync) = 6 := by
  intro lines rest sync
  have hper := periodic_pair (b := .hsync false :: .hsync false :: rest)
    (c := [.hsync false, .hsync false]) (by decide +kernel) (by decide)
  have hfalls : falls (.hsync false :: .hsync false :: rest) = 312 := by
    decide +kernel
  rw [hfalls] at hper
  refine interrupts_per_frame dark 312 (by decide) sync (rest ++ sync) []
    ⟨by decide +kernel, by decide, sync ++ rest, [.hsync false],
      by simp [sync], rfl⟩ ?_ (by decide +kernel)
  simpa [sync] using hper

end Xcpc.Vga
