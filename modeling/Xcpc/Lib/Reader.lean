import Mathlib

/-!
# Readers of a stream

A reader takes items from the front of a stream and gives a value or fails. It
`Reads` an encoding when it succeeds exactly on the streams that begin with
the text of an acceptable value, gives that value and leaves the rest: the two
halves of a round trip in one law. A reader has no position but what is left
of the stream, so a loop of readers finds the texts it is given back to back
or not at all, which is `loop_texts`.
-/

namespace Prog

variable {β ε α γ : Type}

abbrev Reader (β ε : Type) := StateT (List β) (Except ε)

namespace Reader

theorem bind_ok {x : Reader β ε α} {f : α → Reader β ε γ} {s : List β}
    {r : γ × List β} :
    (x >>= f) s = .ok r ↔ ∃ a s', x s = .ok (a, s') ∧ f a s' = .ok r := by
  show (x s >>= fun p => f p.1 p.2) = .ok r ↔ _
  cases hx : x s with
  | error e => exact ⟨fun h => (nomatch h), fun ⟨_, _, h, _⟩ => (nomatch h)⟩
  | ok p =>
      constructor
      · intro h
        exact ⟨p.1, p.2, rfl, h⟩
      · rintro ⟨a, s', h, hf⟩
        cases h
        exact hf

theorem pure_ok {a b : α} {s s' : List β} :
    (pure a : Reader β ε α) s = .ok (b, s') ↔ a = b ∧ s = s' := by
  show Except.ok (a, s) = .ok (b, s') ↔ _
  rw [Except.ok.injEq, Prod.mk.injEq]

theorem lift_ok {e : Except ε α} {a : α} {s s' : List β} :
    (liftM e : Reader β ε α) s = .ok (a, s') ↔ e = .ok a ∧ s = s' := by
  cases e with
  | error e => exact ⟨fun h => (nomatch h), fun h => (nomatch h.1)⟩
  | ok b =>
      show Except.ok (b, s) = .ok (a, s') ↔ _
      rw [Except.ok.injEq, Except.ok.injEq, Prod.mk.injEq]

theorem fst_ok {x : Except ε (α × List β)} {a : α} :
    (·.1) <$> x = .ok a ↔ ∃ s, x = .ok (a, s) := by
  cases x with
  | error e => exact ⟨fun h => (nomatch h), fun ⟨_, h⟩ => (nomatch h)⟩
  | ok p =>
      constructor
      · intro h
        cases h
        exact ⟨p.2, rfl⟩
      · rintro ⟨s, h⟩
        cases h
        rfl

/-- A check that throws. -/
theorem guard_ok {c : Prop} [Decidable c] {e : ε} {x : Except ε α} {a : α} :
    (if c then throw e else x) = .ok a ↔ ¬ c ∧ x = .ok a := by
  by_cases hc : c
  · rw [if_pos hc]
    exact ⟨fun h => (nomatch h), fun h => absurd hc h.1⟩
  · rw [if_neg hc]
    exact (and_iff_right hc).symm

/-- The reader succeeds on the texts of the values in `V`, and on nothing
else. -/
def Reads (x : Reader β ε α) (V : α → Prop) (enc : α → List β) : Prop :=
  ∀ s a s', x s = .ok (a, s') ↔ V a ∧ s = enc a ++ s'

/-- One value for each index, read in their order. -/
def fin : (n : Nat) → (Fin n → Reader β ε α) → Reader β ε (Fin n → α)
  | 0, _ => pure Fin.elim0
  | n + 1, f => do
      let a ← f 0
      let g ← fin n fun i => f i.succ
      return Fin.cons a g

theorem reads_fin {n : Nat} {f : Fin n → Reader β ε α} {V : Fin n → α → Prop}
    {E : Fin n → α → List β} (h : ∀ i, Reads (f i) (V i) (E i)) :
    Reads (fin n f) (fun g => ∀ i, V i (g i))
      (fun g => (List.ofFn fun i => E i (g i)).flatten) := by
  induction n with
  | zero =>
      intro s g s'
      rw [fin, pure_ok]
      constructor
      · rintro ⟨-, rfl⟩
        exact ⟨fun i => i.elim0, rfl⟩
      · rintro ⟨-, rfl⟩
        exact ⟨funext fun i => i.elim0, rfl⟩
  | succ n ih =>
      intro s g s'
      simp only [fin, bind_ok, pure_ok, h 0 _ _ _,
        ih (fun i => h i.succ) _ _ _, List.ofFn_succ, List.flatten_cons,
        List.append_assoc]
      constructor
      · rintro ⟨a, s₁, ⟨ha, rfl⟩, t, s₂, ⟨ht, rfl⟩, rfl, rfl⟩
        exact ⟨Fin.cases ha ht, rfl⟩
      · rintro ⟨hg, rfl⟩
        exact ⟨g 0, _, ⟨hg 0, rfl⟩, fun i => g i.succ, _,
          ⟨fun i => hg i.succ, rfl⟩, Fin.cons_self_tail g, rfl⟩

/-! ## Loops -/

/-- A body that is run `n` times. -/
def loop : Nat → (α → Reader β ε α) → α → Reader β ε α
  | 0, _, a => pure a
  | n + 1, f, a => do
      let a ← f a
      loop n f a

theorem loop_add (m n : Nat) (f : α → Reader β ε α) (a : α) :
    loop (m + n) f a = loop m f a >>= loop n f := by
  induction m generalizing a with
  | zero => rw [Nat.zero_add, loop, pure_bind]
  | succ m ih =>
      rw [Nat.add_right_comm, loop, loop, bind_assoc]
      exact bind_congr fun b => ih b

/-- Two nested loops are one. -/
theorem loop_loop (m n : Nat) (f : α → Reader β ε α) (a : α) :
    loop m (loop n f) a = loop (m * n) f a := by
  induction m generalizing a with
  | zero => rw [Nat.zero_mul, loop, loop]
  | succ m ih =>
      show (loop n f a >>= loop m (loop n f)) = _
      rw [Nat.succ_mul, Nat.add_comm, loop_add]
      exact bind_congr fun b => ih b

/-- A loop gives the values of the texts of a list, one after the other,
exactly if the stream begins with these texts back to back and each of them is
the text of an acceptable value. -/
theorem loop_texts {f : α → Reader β ε α} {V : α → α → Prop}
    {enc : α → List β} {T : List β → Prop} (hf : ∀ a, Reads (f a) (V a) enc)
    (hT : ∀ a t, T t ↔ ∃ b, V a b ∧ enc b = t) (ts : List (List β)) (a : α)
    (s : List β) :
    (∀ k (hk : k < ts.length), ∃ b s', loop (k + 1) f a s = .ok (b, s') ∧
        enc b = ts[k]) ↔ ts.flatten <+: s ∧ ∀ t ∈ ts, T t := by
  induction ts generalizing a s with
  | nil => simp
  | cons t ts ih =>
      rw [List.flatten_cons, List.forall_mem_cons]
      constructor
      · intro h
        obtain ⟨b, s₁, hb, henc⟩ := h 0 (Nat.succ_pos _)
        rw [loop, bind_ok] at hb
        obtain ⟨b', s₁', hb, hpure⟩ := hb
        obtain ⟨rfl, rfl⟩ := pure_ok.1 hpure
        obtain ⟨hV, rfl⟩ := (hf a _ _ _).1 hb
        obtain rfl : enc b' = t := henc
        obtain ⟨hpre, hts⟩ := (ih b' s₁').1 fun k hk => by
          obtain ⟨c, s', hc, henc⟩ := h (k + 1) (Nat.succ_lt_succ hk)
          rw [loop, bind_ok] at hc
          obtain ⟨b₂, s₂, hb₂, hc⟩ := hc
          cases hb.symm.trans hb₂
          exact ⟨c, s', hc, henc⟩
        exact ⟨(List.prefix_append_right_inj _).2 hpre, 
          (hT a _).2 ⟨b', hV, rfl⟩, hts⟩
      · rintro ⟨⟨s', rfl⟩, ht, hts⟩
        obtain ⟨b, hV, rfl⟩ := (hT a t).1 ht
        rw [List.append_assoc]
        have hb := (hf a _ b (ts.flatten ++ s')).2 ⟨hV, rfl⟩
        intro k hk
        cases k with
        | zero =>
            refine ⟨b, ts.flatten ++ s', ?_, rfl⟩
            rw [loop, bind_ok]
            exact ⟨b, _, hb, rfl⟩
        | succ k =>
            obtain ⟨c, s₁, hc, henc⟩ := (ih b (ts.flatten ++ s')).2
              ⟨List.prefix_append _ _, hts⟩ k (Nat.lt_of_succ_lt_succ hk)
            refine ⟨c, s₁, ?_, henc⟩
            rw [loop, bind_ok]
            exact ⟨b, _, hb, hc⟩

end Reader

end Prog
