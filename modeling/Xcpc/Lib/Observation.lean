import Xcpc.Lib.Runs

/-!
# States that cannot be told apart

A system gives something out at some of its steps. Two of its states cannot be
told apart if every run gives out the same from both. To show that they cannot,
it is enough to find a relation that the steps keep and that makes them give
out the same. To use it, a run is an experiment: whatever it leads to cannot be
told apart either.
-/

namespace Prog

variable {σ ε τ : Type}

/-- Every run from the two states gives out the same. -/
def Indist (step : σ → ε → σ) (out : σ → ε → List τ) (s t : σ) : Prop :=
  ∀ es, gather step out t es = gather step out s es

variable {step : σ → ε → σ} {out : σ → ε → List τ} {s t : σ}

theorem Indist.out_eq (h : Indist step out s t) (e : ε) : out t e = out s e := by
  have he := h [e]
  rwa [gather, gather, gather, gather, List.append_nil, List.append_nil] at he

theorem Indist.next (h : Indist step out s t) (e : ε) :
    Indist step out (step s e) (step t e) := by
  intro es
  have hes := h (e :: es)
  rw [gather, gather, h.out_eq e] at hes
  exact List.append_cancel_left hes

theorem Indist.run (h : Indist step out s t) (es : List ε) :
    Indist step out (run step s es) (run step t es) := by
  induction es generalizing s t with
  | nil => exact h
  | cons e es ih => exact ih (h.next e)

/-- A relation that every step keeps, and from which both give out the same. -/
theorem indist_of_bisim {R : σ → σ → Prop}
    (hstep : ∀ s t e, R s t → out t e = out s e ∧ R (step s e) (step t e))
    (h : R s t) : Indist step out s t := by
  intro es
  induction es generalizing s t with
  | nil => rfl
  | cons e es ih =>
      obtain ⟨hout, hnext⟩ := hstep s t e h
      rw [gather, gather, hout, ih hnext]

end Prog
