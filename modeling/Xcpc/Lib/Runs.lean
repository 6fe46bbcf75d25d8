import Mathlib

/-!
# Runs of a deterministic system

A system here is a step function over states and events, and a run is a list
of events. A property of every reachable state is an invariant: it holds at
the start and each step keeps it.

Some invariants are kept only by the steps that meet a condition. `Along`
says that every step of a run meets it, judged at the state the step is taken
from, and `inv_run` is the induction that all such results share. `Always` is
the same for a property of states.
-/

namespace Prog

variable {σ τ ε : Type}

/-- The state after the events of a run, in order. -/
def run (step : σ → ε → σ) (s : σ) (es : List ε) : σ :=
  es.foldl step s

@[simp] theorem run_nil (step : σ → ε → σ) (s : σ) : run step s [] = s := rfl

@[simp] theorem run_cons (step : σ → ε → σ) (s : σ) (e : ε) (es : List ε) :
    run step s (e :: es) = run step (step s e) es := rfl

theorem run_append (step : σ → ε → σ) (s : σ) (es fs : List ε) :
    run step s (es ++ fs) = run step (run step s es) fs :=
  List.foldl_append

/-- What the steps of a run give out, added up. -/
def total (step : σ → ε → σ) (out : σ → ε → Nat) : σ → List ε → Nat
  | _, [] => 0
  | s, e :: es => out s e + total step out (step s e) es

@[simp] theorem total_nil (step : σ → ε → σ) (out : σ → ε → Nat) (s : σ) :
    total step out s [] = 0 := rfl

@[simp] theorem total_cons (step : σ → ε → σ) (out : σ → ε → Nat) (s : σ)
    (e : ε) (es : List ε) :
    total step out s (e :: es) = out s e + total step out (step s e) es := rfl

/-- What the steps of a run give out, one after the other. -/
def gather (step : σ → ε → σ) (out : σ → ε → List τ) : σ → List ε → List τ
  | _, [] => []
  | s, e :: es => out s e ++ gather step out (step s e) es

/-- Every step of the run is taken from a state where it meets `P`. -/
def Along (step : σ → ε → σ) (P : σ → ε → Prop) : σ → List ε → Prop
  | _, [] => True
  | s, e :: es => P s e ∧ Along step P (step s e) es

instance instDecidableAlong {step : σ → ε → σ} {P : σ → ε → Prop} [∀ s e, Decidable (P s e)] :
    ∀ (s : σ) (es : List ε), Decidable (Along step P s es)
  | _, [] => isTrue trivial
  | s, e :: es =>
      let _ : Decidable (Along step P (step s e) es) :=
        instDecidableAlong (step s e) es
      inferInstanceAs (Decidable (P s e ∧ Along step P (step s e) es))

theorem along_congr {step : σ → ε → σ} {P Q : σ → ε → Prop}
    (h : ∀ s e, P s e ↔ Q s e) (s : σ) (es : List ε) :
    Along step P s es ↔ Along step Q s es := by
  induction es generalizing s with
  | nil => exact Iff.rfl
  | cons e es ih => exact and_congr (h s e) (ih (step s e))

theorem along_append {step : σ → ε → σ} {P : σ → ε → Prop} {s : σ}
    {es fs : List ε} : Along step P s (es ++ fs) ↔
      Along step P s es ∧ Along step P (run step s es) fs := by
  induction es generalizing s with
  | nil => exact ⟨fun h => ⟨trivial, h⟩, fun h => h.2⟩
  | cons e es ih =>
      rw [List.cons_append, Along, Along, run_cons, ih, and_assoc]

theorem along_and {step : σ → ε → σ} {P : σ → ε → Prop} {Q : ε → Prop} {s : σ}
    {es : List ε} (h : Along step P s es) (hQ : ∀ e ∈ es, Q e) :
    Along step (fun s e => P s e ∧ Q e) s es := by
  induction es generalizing s with
  | nil => exact trivial
  | cons e es ih =>
      rw [List.forall_mem_cons] at hQ
      exact ⟨⟨h.1, hQ.1⟩, ih h.2 hQ.2⟩

/-- Some step of the run is taken from a state where it meets `P`. -/
def Sometime (step : σ → ε → σ) (P : σ → ε → Prop) : σ → List ε → Prop
  | _, [] => False
  | s, e :: es => P s e ∨ Sometime step P (step s e) es

/-- An invariant that every step keeps holds at the end of every run. -/
theorem run_keeps {step : σ → ε → σ} {I : σ → Prop}
    (hstep : ∀ s e, I s → I (step s e)) {s : σ} (hs : I s) (es : List ε) :
    I (run step s es) := by
  induction es generalizing s with
  | nil => exact hs
  | cons e es ih => exact ih (hstep s e hs)

/-- An invariant that the steps meeting `P` keep holds at the end of every run
of such steps. -/
theorem inv_run {step : σ → ε → σ} {P : σ → ε → Prop} {I : σ → Prop}
    (hstep : ∀ s e, I s → P s e → I (step s e)) {s : σ} {es : List ε}
    (hs : I s) (hes : Along step P s es) : I (run step s es) := by
  induction es generalizing s with
  | nil => exact hs
  | cons e es ih => exact ih (hstep s e hs hes.1) hes.2

/-- A one-way switch. The steps that do not meet `P` keep `J`, a step that
meets it brings `K`, and from there every step keeps `K`. -/
theorem switch_run {step : σ → ε → σ} {P : σ → ε → Prop} {J K : σ → Prop}
    (hJ : ∀ s e, J s → ¬ P s e → J (step s e))
    (hP : ∀ s e, P s e → K (step s e)) (hK : ∀ s e, K s → K (step s e))
    {s : σ} (hs : J s) (es : List ε) :
    (Sometime step P s es ∧ K (run step s es)) ∨
      (¬ Sometime step P s es ∧ J (run step s es)) := by
  induction es generalizing s with
  | nil => exact .inr ⟨id, hs⟩
  | cons e es ih =>
      rw [run_cons, Sometime]
      by_cases he : P s e
      · exact .inl ⟨.inl he, run_keeps hK (hP s e he) es⟩
      · rcases ih (hJ s e hs he) with ⟨hes, h⟩ | ⟨hes, h⟩
        · exact .inl ⟨.inr hes, h⟩
        · exact .inr ⟨not_or.2 ⟨he, hes⟩, h⟩

/-- A loop that is not in the program but in the run. An observation `g` stays
as it was until the last of `n` steps, and from it the next step knows what to
do; the property `P` changes from step to step. -/
theorem iterate_loop {f : σ → σ} {g : σ → τ} {P : Nat → σ → Prop} {b : τ}
    {n : Nat} {s : σ} (hs : P 0 s)
    (hstep : ∀ k < n, P k (f^[k] s) → g (f^[k] s) = g s →
      P (k + 1) (f (f^[k] s)) ∧
        g (f (f^[k] s)) = if k + 1 = n then b else g s) (hn : 0 < n) :
    (∀ k < n, g (f^[k] s) = g s) ∧ P n (f^[n] s) ∧ g (f^[n] s) = b := by
  have hmid {k : Nat} (hk : k < n) : P k (f^[k] s) ∧ g (f^[k] s) = g s := by
    induction k with
    | zero => exact ⟨hs, rfl⟩
    | succ k ih =>
        obtain ⟨hP, hg⟩ := ih (by omega)
        rw [Function.iterate_succ_apply']
        obtain ⟨hP', hg'⟩ := hstep k (by omega) hP hg
        exact ⟨hP', hg'.trans (if_neg hk.ne)⟩
  refine ⟨fun k hk => (hmid hk).2, ?_⟩
  obtain ⟨m, rfl⟩ : ∃ m, n = m + 1 := Nat.exists_eq_succ_of_ne_zero hn.ne'
  obtain ⟨hP, hg⟩ := hmid (Nat.lt_succ_self m)
  obtain ⟨hP', hg'⟩ := hstep m (Nat.lt_succ_self m) hP hg
  rw [Function.iterate_succ_apply']
  exact ⟨hP', hg'.trans (if_pos rfl)⟩

/-- What the steps meeting `P` do from the states of an invariant, they do
along a run of such steps. -/
theorem along_of_inv {step : σ → ε → σ} {P Q : σ → ε → Prop} {I : σ → Prop}
    (hstep : ∀ s e, I s → P s e → I (step s e))
    (hQ : ∀ s e, I s → P s e → Q s e) {s : σ} {es : List ε} (hs : I s)
    (hes : Along step P s es) : Along step Q s es := by
  induction es generalizing s with
  | nil => exact trivial
  | cons e es ih => exact ⟨hQ s e hs hes.1, ih (hstep s e hs hes.1) hes.2⟩

/-- A condition on a part of the state that steps by itself. -/
theorem along_map {step : σ → ε → σ} {step' : τ → ε → τ} {f : σ → τ}
    (hf : ∀ s e, f (step s e) = step' (f s) e) {P : τ → ε → Prop} (s : σ)
    (es : List ε) :
    Along step (fun s => P (f s)) s es ↔ Along step' P (f s) es := by
  induction es generalizing s with
  | nil => exact Iff.rfl
  | cons e es ih =>
      rw [Along, Along, ← hf]
      exact and_congr_right fun _ => ih (step s e)

/-- Every state of the run, the first and the last included, has `I`. -/
def Always (step : σ → ε → σ) (I : σ → Prop) : σ → List ε → Prop
  | s, [] => I s
  | s, e :: es => I s ∧ Always step I (step s e) es

/-- A property that a step keeps exactly when its event has `Q`, next to an
invariant `K` that every step keeps: all states of a run have it exactly when
every event has `Q`. -/
theorem always_iff {step : σ → ε → σ} {I K : σ → Prop} {Q : ε → Prop}
    (hK : ∀ s e, K s → K (step s e))
    (hI : ∀ s e, K s → I s → (I (step s e) ↔ Q e)) {s : σ} (hk : K s)
    (hi : I s) (es : List ε) : Always step I s es ↔ ∀ e ∈ es, Q e := by
  induction es generalizing s with
  | nil => exact ⟨fun _ e he => absurd he List.not_mem_nil, fun _ => hi⟩
  | cons e es ih =>
      rw [List.forall_mem_cons, Always, ← hI s e hk hi]
      constructor
      · intro ⟨_, hes⟩
        have he : I (step s e) := by
          cases es with
          | nil => exact hes
          | cons e' es => exact hes.1
        exact ⟨he, (ih (hK s e hk) he).mp hes⟩
      · intro ⟨he, hes⟩
        exact ⟨hi, (ih (hK s e hk) he).mpr hes⟩

/-- A queue in the state of a system. What a step takes from its front and adds
at its end is what a run does: the queue at the start and all that came in are
all that went out and the queue at the end. -/
theorem gather_queue {step : σ → ε → σ} {I : σ → Prop} {queue : σ → List τ}
    {ins outs : σ → ε → List τ} (hI : ∀ s e, I s → I (step s e))
    (hstep : ∀ s e, I s → queue s ++ ins s e = outs s e ++ queue (step s e))
    {s : σ} (hs : I s) (es : List ε) :
    queue s ++ gather step ins s es =
      gather step outs s es ++ queue (run step s es) := by
  induction es generalizing s with
  | nil => exact List.append_nil _
  | cons e es ih =>
      rw [gather, gather, run_cons, ← List.append_assoc, hstep s e hs,
        List.append_assoc, ih (hI s e hs), List.append_assoc]

end Prog
