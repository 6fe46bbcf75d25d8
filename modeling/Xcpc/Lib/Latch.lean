import Xcpc.Lib.Runs

/-!
# Latches

A latch is a property of the state that some events bring about, some undo,
and all others leave alone. After a run it holds just when every event that
undid it was answered by a later one that brought it back.
-/

namespace Prog

variable {σ ε : Type}

/-- Each event of the run that asks is followed by one that answers it. -/
def Answered (asks : ε → Prop) (answers : ε → ε → Prop) : List ε → Prop
  | [] => True
  | e :: es =>
      (asks e → ∃ e' ∈ es, answers e e') ∧ Answered asks answers es

instance instDecidableAnswered {asks : ε → Prop} {answers : ε → ε → Prop}
    [DecidablePred asks] [∀ e e', Decidable (answers e e')] :
    ∀ es : List ε, Decidable (Answered asks answers es)
  | [] => isTrue trivial
  | e :: es =>
      let _ : Decidable (Answered asks answers es) := instDecidableAnswered es
      inferInstanceAs (Decidable ((asks e → ∃ e' ∈ es, answers e e') ∧
        Answered asks answers es))

/-- Fewer questions, and an answer to each of them among the old answers. -/
theorem answered_mono {asks asks' : ε → Prop} {answers answers' : ε → ε → Prop}
    (hasks : ∀ e, asks' e → asks e)
    (hanswers : ∀ e e', asks' e → answers e e' → answers' e e')
    {es : List ε} (h : Answered asks answers es) :
    Answered asks' answers' es := by
  induction es with
  | nil => exact trivial
  | cons e es ih =>
      refine ⟨fun he => ?_, ih h.2⟩
      obtain ⟨e', hmem, he'⟩ := h.1 (hasks e he)
      exact ⟨e', hmem, hanswers e e' he he'⟩

/-- The latch is set at the end of a run exactly if it was set before or is
set by some event, and every event that resets it is followed by one that sets
it. -/
theorem latch_run {step : σ → ε → σ} {U : σ → Prop} {down up : ε → Prop}
    (hdown : ∀ s e, down e → ¬ U (step s e))
    (hup : ∀ s e, up e → U (step s e))
    (hkeep : ∀ s e, ¬ down e → ¬ up e → (U (step s e) ↔ U s))
    (s : σ) (es : List ε) :
    U (run step s es) ↔
      (U s ∨ ∃ e ∈ es, up e) ∧ Answered down (fun _ => up) es := by
  induction es generalizing s with
  | nil => simp [Answered]
  | cons e es ih =>
      rw [run_cons, ih, Answered]
      by_cases hd : down e
      · have hn := hdown s e hd
        have hu : ¬ up e := fun hu => hn (hup s e hu)
        simp only [hn, hu, hd, List.mem_cons, exists_eq_or_imp, false_or,
          true_implies]
        constructor
        · rintro ⟨hex, hans⟩
          exact ⟨.inr hex, hex, hans⟩
        · rintro ⟨-, hex, hans⟩
          exact ⟨hex, hans⟩
      · by_cases hu : up e
        · simp [hup s e hu, hu, hd]
        · simp [hkeep s e hd hu, hu, hd]

end Prog
