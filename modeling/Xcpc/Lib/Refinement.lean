import Xcpc.Lib.Runs

/-!
# Refinement of systems that answer

A system takes requests and answers them. The specification always answers;
the implementation may go wrong, where it has no answer. It refines the
specification if it answers the same from related states, for the requests that
the specification allows. `Refines.run` carries that to runs: the answers to a
list of requests are those of the specification.
-/

namespace Prog

variable {σ τ ε ρ : Type}

/-- The answers of the specification, and its state after them. -/
def observe (spec : τ → ε → ρ × τ) : τ → List ε → List ρ × τ
  | t, [] => ([], t)
  | t, e :: es =>
      let r := observe spec (spec t e).2 es
      ((spec t e).1 :: r.1, r.2)

/-- The answers of the implementation, if it does not go wrong. -/
def answers (step : σ → ε → Option (ρ × σ)) :
    σ → List ε → Option (List ρ × σ)
  | s, [] => some ([], s)
  | s, e :: es =>
      (step s e).bind fun r =>
        (answers step r.2 es).map fun q => (r.1 :: q.1, q.2)

/-- The requests of a run are allowed, judged by the specification. -/
def Allowed (spec : τ → ε → ρ × τ) (P : τ → ε → Prop) : τ → List ε → Prop :=
  Along (fun t e => (spec t e).2) P

/-- From related states the implementation answers an allowed request as the
specification does, and the states are related again. -/
def Refines (R : σ → τ → Prop) (P : τ → ε → Prop)
    (step : σ → ε → Option (ρ × σ)) (spec : τ → ε → ρ × τ) : Prop :=
  ∀ s t e, R s t → P t e →
    ∃ s', step s e = some ((spec t e).1, s') ∧ R s' (spec t e).2

variable {R : σ → τ → Prop} {P : τ → ε → Prop}
  {step : σ → ε → Option (ρ × σ)} {spec : τ → ε → ρ × τ}

theorem Refines.run (h : Refines R P step spec) {s : σ} {t : τ} {es : List ε}
    (hs : R s t) (hes : Allowed spec P t es) :
    ∃ s', answers step s es = some ((observe spec t es).1, s') ∧
      R s' (observe spec t es).2 := by
  induction es generalizing s t with
  | nil => exact ⟨s, rfl, hs⟩
  | cons e es ih =>
      obtain ⟨u, hu, hR⟩ := h s t e hs hes.1
      obtain ⟨s', hs', hR'⟩ := ih hR hes.2
      exact ⟨s', by rw [answers, hu, Option.bind_some, hs']; rfl, hR'⟩

end Prog
