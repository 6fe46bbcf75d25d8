import Mathlib

/-!
# Relational rules for state monads

A state-monad program is a composition of small moves, and most of what one
wants to know about it is a fact about each move: which part of the state it
leaves alone, how much of some budget it spends, that it answers the same
from two states that differ only where it never looks. Each of the three
judgments below is stated for a whole program and proved move by move, with
one rule for `pure`, one for `>>=` and one for a branch.

`Moves` is the unary judgment. Its relation has to be reflexive and
transitive, so that it says nothing about how many moves were made.

`Spends` counts. The relation is indexed by the amount that was spent, and the
judgment keeps a lower and an upper bound of it.

`Sim` compares two runs. Results are equal, and the relation between the two
states is carried along.
-/

namespace Prog

variable {σ τ α β : Type}

/-- From every state, `m` ends in a state that `R` allows. -/
def Moves (R : σ → σ → Prop) (m : StateM σ α) : Prop :=
  ∀ s, R s (m s).2

/-- The relations that `Moves` composes along. -/
structure Preorder (R : σ → σ → Prop) : Prop where
  refl : ∀ s, R s s
  trans : ∀ {s t u}, R s t → R t u → R s u

theorem moves_pure {R : σ → σ → Prop} (hR : Preorder R) (a : α) :
    Moves R (pure a : StateM σ α) :=
  fun s => hR.refl s

theorem moves_bind {R : σ → σ → Prop} (hR : Preorder R) {m : StateM σ α}
    {f : α → StateM σ β} (hm : Moves R m) (hf : ∀ a, Moves R (f a)) :
    Moves R (m >>= f) :=
  fun s => hR.trans (hm s) (hf (m s).1 (m s).2)

/-- From every state, `m` spends an amount between `lo` and `hi`. -/
def Spends (R : Nat → σ → σ → Prop) (lo hi : Nat) (m : StateM σ α) : Prop :=
  ∀ s, ∃ d, lo ≤ d ∧ d ≤ hi ∧ R d s (m s).2

/-- The indexed relations that `Spends` adds up along. -/
structure Additive (R : Nat → σ → σ → Prop) : Prop where
  zero : ∀ s, R 0 s s
  add : ∀ {c d s t u}, R c s t → R d t u → R (c + d) s u

theorem spends_pure {R : Nat → σ → σ → Prop} (hR : Additive R) (a : α) :
    Spends R 0 0 (pure a : StateM σ α) :=
  fun s => ⟨0, Nat.le_refl _, Nat.le_refl _, hR.zero s⟩

theorem spends_bind {R : Nat → σ → σ → Prop} (hR : Additive R)
    {m : StateM σ α} {f : α → StateM σ β} {lo hi lo' hi' : Nat}
    (hm : Spends R lo hi m) (hf : ∀ a, Spends R lo' hi' (f a)) :
    Spends R (lo + lo') (hi + hi') (m >>= f) := by
  intro s
  obtain ⟨c, hlo, hhi, hc⟩ := hm s
  obtain ⟨d, hlo', hhi', hd⟩ := hf (m s).1 (m s).2
  exact ⟨c + d, by omega, by omega, hR.add hc hd⟩

theorem spends_weaken {R : Nat → σ → σ → Prop} {m : StateM σ α}
    {lo hi lo' hi' : Nat} (hm : Spends R lo hi m) (hlo : lo' ≤ lo)
    (hhi : hi ≤ hi') : Spends R lo' hi' m := by
  intro s
  obtain ⟨d, h1, h2, hd⟩ := hm s
  exact ⟨d, by omega, by omega, hd⟩

/-- From related states `m` and `n` answer the same and end in related
states. -/
def Sim (R : σ → τ → Prop) (m : StateM σ α) (n : StateM τ α) : Prop :=
  ∀ s t, R s t → (m s).1 = (n t).1 ∧ R (m s).2 (n t).2

theorem sim_pure {R : σ → τ → Prop} (a : α) :
    Sim R (pure a : StateM σ α) (pure a : StateM τ α) :=
  fun _ _ h => ⟨rfl, h⟩

theorem sim_bind {R : σ → τ → Prop} {m : StateM σ α} {n : StateM τ α}
    {f : α → StateM σ β} {g : α → StateM τ β} (hm : Sim R m n)
    (hf : ∀ a, Sim R (f a) (g a)) : Sim R (m >>= f) (n >>= g) := by
  intro s t h
  obtain ⟨ha, hr⟩ := hm s t h
  have hfg := hf (m s).1 (m s).2 (n t).2 hr
  have hn : (n >>= g) t = g (m s).1 (n t).2 := by
    show g (n t).1 (n t).2 = _
    rw [ha]
  rw [hn]
  exact hfg

end Prog
