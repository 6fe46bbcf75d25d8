import Xcpc.Proofs.Judgment
import Xcpc.Lib.Runs

/-!
# The clock consumes

`i_period` counts the ticks until the next instruction boundary. The epilog
takes one from it in every call of `clock`, so at a boundary, where it is
zero, the prolog has to add something first. A path that does not would wrap
it to 2^32 - 1, and the processor would idle for as many ticks.

Every row of every table consumes at least four states, and so do the
interrupts in modes 0, 1 and 2. The one path that consumes nothing is the
`default` of the interrupt mode switch, which is where `im 0/1`, that is
`ed 4e` and `ed 6e`, leads: it sets both mode bits.
-/

namespace Xcpc.Cpu

open Prog

variable {β : Type} {I : Interface β}

/-- The states added to `i_period`, modulo its width. -/
def addsStates (d : Nat) (s t : Instance β) : Prop :=
  t.time.iPeriod = s.time.iPeriod + BitVec.ofNat 32 d

theorem additive_addsStates : Additive (addsStates (β := β)) where
  zero s := by simp [addsStates]
  add h h' := by
    unfold addsStates at *
    rw [h', h, BitVec.add_assoc, BitVec.ofNat_add]

theorem and_not_add_and {n : Nat} (x m : BitVec n) :
    (x &&& ~~~m) + (x &&& m) = x := by
  rw [BitVec.add_eq_or_of_and_eq_zero]
  · ext i hi
    grind
  · ext i hi
    grind

/-- The wait states of an opcode fetch are at most three. -/
theorem adjust_iPeriod (t : Timing) :
    ∃ d, d ≤ 3 ∧ t.adjust.iPeriod = t.iPeriod + BitVec.ofNat 32 d := by
  have hx := and_not_add_and (t.tStates + 3) 3
  have hle : ((t.tStates + 3) &&& 3).toNat ≤ 3 := by
    rw [BitVec.toNat_and]
    exact Nat.and_le_right
  refine ⟨3 - ((t.tStates + 3) &&& 3).toNat, by omega, ?_⟩
  simp only [Timing.adjust]
  generalize ((t.tStates + 3) &&& ~~~3) = r at *
  generalize ((t.tStates + 3) &&& 3) = q at *
  congr 1
  bv_omega

theorem judgment_spends :
    Judgment I fun lo hi α m => Spends addsStates lo hi (α := α) m where
  pure a := spends_pure additive_addsStates a
  bind hm hf := spends_bind additive_addsStates hm hf
  weaken hm hlo hhi := spends_weaken hm hlo hhi
  reads f s := ⟨0, by omega, by omega, additive_addsStates.zero s⟩
  writes f s := ⟨0, by omega, by omega, additive_addsStates.zero s⟩
  readsSt f s := ⟨0, by omega, by omega, additive_addsStates.zero s⟩
  mreqM1 a s := by
    obtain ⟨d, hd, h⟩ := adjust_iPeriod s.time
    exact ⟨d, by omega, hd, h⟩
  mreqRd a s := ⟨0, by omega, by omega, additive_addsStates.zero s⟩
  mreqWr a v s := ⟨0, by omega, by omega, additive_addsStates.zero s⟩
  iorqM1 a s := ⟨0, by omega, by omega, additive_addsStates.zero s⟩
  iorqRd a s := ⟨0, by omega, by omega, additive_addsStates.zero s⟩
  iorqWr a v s := ⟨0, by omega, by omega, additive_addsStates.zero s⟩
  consume c n s := ⟨n, by omega, by omega, rfl⟩

theorem spends_writesSt (f : Status → Status) :
    Spends addsStates 0 0 (writesSt f : CpuM β Unit) :=
  fun s => ⟨0, by omega, by omega, additive_addsStates.zero s⟩

/-! ## The paths of the prolog -/

theorem spends_checkHlt (opP : Word) :
    Spends addsStates 4 84 (checkHlt I opP) := by
  intro s
  cases hh : s.st.hlt with
  | true =>
      rw [checkHlt_hlt hh]
      exact ⟨4, by omega, by omega, rfl⟩
  | false =>
      rw [checkHlt_run hh]
      exact judgment_fetchOpcode judgment_spends spends_writesSt opP s

theorem interruptMode_lt {st : Status} (h : (st.im1 && st.im2) = false) :
    interruptMode st < 3 := by
  unfold interruptMode
  cases h1 : st.im1 <;> cases h2 : st.im2 <;> simp_all

theorem interruptMode_both {st : Status} (h : (st.im1 && st.im2) = true) :
    interruptMode st = 3 := by
  simp only [Bool.and_eq_true] at h
  simp [interruptMode, h.1, h.2]

/-- At a boundary the prolog adds between 4 and 84 states, unless it takes an
interrupt with both mode bits set. -/
theorem prolog_spends {s : Instance β}
    (h : s.acceptsInt = true → (s.st.im1 && s.st.im2) = false) :
    ∃ d, 4 ≤ d ∧ d ≤ 84 ∧ addsStates d s (prolog I s).2 := by
  have hJ : Judgment I _ := judgment_spends
  by_cases ha : s.st.aei = true
  · rw [prolog_aei ha]
    exact spends_checkHlt _ _
  · have ha' : s.st.aei = false := by simpa using ha
    by_cases hn : s.st.nmi = true
    · rw [prolog_nmi ha' hn]
      have hr := hJ.before (judgment_serveNmi hJ) fun _ => hJ.pure Branch.nmi
      obtain ⟨d, hlo, hhi, hd⟩ := hr { s with st := takeNmi s.st }
      exact ⟨d, by omega, by omega, hd⟩
    · have hn' : s.st.nmi = false := by simpa using hn
      by_cases hi : s.acceptsInt = true
      · rw [prolog_int hi]
        have hr := hJ.before
          (judgment_serveInt hJ spends_writesSt s.regs.pc.w
            (interruptMode_lt (h hi))) fun _ => hJ.pure Branch.int
        obtain ⟨d, hlo, hhi, hd⟩ := hr { s with st := takeInt s.st }
        exact ⟨d, by omega, by omega, hd⟩
      · rw [prolog_none ha' hn' (by simpa using hi)]
        exact spends_checkHlt _ _

/-- The `default` of the mode switch adds nothing. -/
theorem prolog_default {s : Instance β} (hi : s.acceptsInt = true)
    (hm : (s.st.im1 && s.st.im2) = true) :
    (prolog I s).2.time = s.time := by
  rw [prolog_int hi, interruptMode_both hm]
  rfl

/-! ## Runs -/

/-- A call of `clock` at a boundary adds at least four states, at most 84, and
the epilog's decrement does not wrap. -/
def Consumes (I : Interface β) (s : Instance β) : Event β → Prop
  | .clock => s.atBoundary = true →
      4 ≤ (prolog I s).2.time.iPeriod.toNat ∧
      (prolog I s).2.time.iPeriod.toNat ≤ 84 ∧
      (clock I s).time.iPeriod.toNat + 1 = (prolog I s).2.time.iPeriod.toNat
  | _ => True

/-- No interrupt is taken while both mode bits are set. -/
def ModeServed (s : Instance β) : Event β → Prop
  | .clock => s.atBoundary = true → s.acceptsInt = true →
      (s.st.im1 && s.st.im2) = false
  | _ => True

theorem consumes_iff (s : Instance β) (e : Event β) :
    Consumes I s e ↔ ModeServed s e := by
  cases e with
  | pulseNmi => exact Iff.rfl
  | pulseInt => exact Iff.rfl
  | bus b => exact Iff.rfl
  | clock =>
      refine forall_congr' fun hb => ?_
      have hz : s.time.iPeriod = 0 := by simpa [Instance.atBoundary] using hb
      constructor
      · intro ⟨h4, _, _⟩ hi
        cases hm : (s.st.im1 && s.st.im2) with
        | false => rfl
        | true =>
            rw [prolog_default hi hm, hz] at h4
            exact absurd h4 (by decide)
      · intro h
        obtain ⟨d, hlo, hhi, hd⟩ := prolog_spends (I := I) h
        have hp : (prolog I s).2.time.iPeriod = BitVec.ofNat 32 d := by
          rw [hd, hz]
          simp
        have hc : (clock I s).time.iPeriod =
            (prolog I s).2.time.iPeriod - 1 := by
          unfold clock
          rw [if_pos hb]
          rfl
        rw [hc, hp]
        refine ⟨?_, ?_, ?_⟩ <;> bv_omega

/-- Over every run from reset, whatever the bus answers and whenever the
pulses come: the clock consumes at every boundary exactly when no interrupt is
taken with both mode bits set. -/
theorem clock_consumes_iff (I : Interface β) (bus : β) (es : List (Event β)) :
    Along (step I) (Consumes I) (.reset bus) es ↔
      Along (step I) ModeServed (.reset bus) es :=
  along_congr consumes_iff _ _

instance (I : Interface β) (s : Instance β) (e : Event β) :
    Decidable (Consumes I s e) :=
  match e with
  | .clock => inferInstanceAs (Decidable (_ → _ ∧ _ ∧ _))
  | .pulseNmi | .pulseInt | .bus _ => isTrue trivial

/-- `im 0/1`, `ei`, `nop`, and an interrupt. -/
theorem clock_stalls :
    ¬ ∀ es, Along (step .ram) (Consumes .ram)
      (.reset (program [0xed, 0x4e, 0xfb, 0x00])) es := by
  intro h
  exact absurd (h (List.replicate 16 .clock ++ [.pulseInt, .clock]))
    (by decide +kernel)

end Xcpc.Cpu
