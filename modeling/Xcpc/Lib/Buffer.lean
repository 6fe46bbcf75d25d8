import Mathlib

/-!
# Buffers

An array of a program as a function of the index. `put` stores a list from a
position on and `slice` reads a number of items from one. The array has a size
in the program, which `store` and `load?` check: they answer `none` where the
program would leave the array.
-/

namespace Prog.Buffer

variable {α : Type} {buf : Nat → α} {pos n : Nat} {xs ys : List α}

/-- The array with the list stored from `pos` on. -/
def put (buf : Nat → α) (pos : Nat) (xs : List α) : Nat → α := fun i =>
  if pos ≤ i then xs.getD (i - pos) (buf i) else buf i

/-- `n` items from `pos` on. -/
def slice (buf : Nat → α) (pos n : Nat) : List α := (List.range' pos n).map buf

/-- Stores into an array of `cap` items. -/
def store (cap : Nat) (buf : Nat → α) (pos : Nat) (xs : List α) :
    Option (Nat → α) :=
  if pos + xs.length ≤ cap then some (put buf pos xs) else none

/-- Reads from an array of `cap` items. -/
def load? (cap : Nat) (buf : Nat → α) (pos : Nat) : Option α :=
  if pos < cap then some (buf pos) else none

/-! ## What is stored and what is read -/

theorem put_of_lt {i : Nat} (h : i < pos) : put buf pos xs i = buf i :=
  if_neg (by omega)

theorem put_of_le {i : Nat} (h : pos + xs.length ≤ i) :
    put buf pos xs i = buf i := by
  rw [put, if_pos (by omega), List.getD_eq_getElem?_getD,
    List.getElem?_eq_none (by omega), Option.getD_none]

theorem put_add {k : Nat} (h : k < xs.length) :
    put buf pos xs (pos + k) = xs[k] := by
  rw [put, if_pos (by omega), Nat.add_sub_cancel_left,
    List.getD_eq_getElem?_getD, List.getElem?_eq_getElem h, Option.getD_some]

@[simp] theorem put_nil : put buf pos [] = buf := by
  funext i
  simp [put]

@[simp] theorem put_self {a : α} : put buf pos [a] pos = a := by
  simp [put]

theorem put_of_ne {a : α} {i : Nat} (h : i ≠ pos) :
    put buf pos [a] i = buf i := by
  rcases Nat.lt_or_gt_of_ne h with h | h
  · exact put_of_lt h
  · exact put_of_le (by rw [List.length_singleton]; omega)

theorem put_getElem {k : Nat} (h : k < xs.length) : put buf 0 xs k = xs[k] := by
  have hput : put buf 0 xs (0 + k) = xs[k] := put_add h
  rwa [Nat.zero_add] at hput

theorem put_const {a : α} {i : Nat} :
    put (fun _ => a) 0 xs i = xs.getD i a := by
  rcases lt_or_ge i xs.length with h | h
  · rw [put_getElem h, List.getD_eq_getElem _ _ h]
  · rw [put_of_le (by omega), List.getD_eq_default _ _ h]

theorem put_append : put buf pos (xs ++ ys) =
    put (put buf pos xs) (pos + xs.length) ys := by
  funext i
  rcases lt_or_ge i pos with h | h
  · rw [put_of_lt h, put_of_lt (by omega), put_of_lt h]
  · obtain ⟨k, rfl⟩ := Nat.exists_eq_add_of_le h
    rcases lt_or_ge k xs.length with hk | hk
    · have h' : put buf pos xs (pos + k) = xs[k] := put_add hk
      rw [put_add (by simp; omega), put_of_lt (by omega), h',
        List.getElem_append_left hk]
    · obtain ⟨j, rfl⟩ := Nat.exists_eq_add_of_le hk
      rcases lt_or_ge j ys.length with hj | hj
      · rw [← Nat.add_assoc, put_add hj, Nat.add_assoc, put_add (by simp; omega)]
        simp
      · rw [put_of_le (by simp; omega), put_of_le (by omega),
          put_of_le (by omega)]

/-- Storing a list of the same length over another. -/
theorem put_put (h : xs.length ≤ ys.length) :
    put (put buf pos xs) pos ys = put buf pos ys := by
  funext i
  rcases lt_or_ge i pos with hi | hi
  · rw [put_of_lt hi, put_of_lt hi, put_of_lt hi]
  · obtain ⟨k, rfl⟩ := Nat.exists_eq_add_of_le hi
    rcases lt_or_ge k ys.length with hk | hk
    · rw [put_add hk, put_add hk]
    · rw [put_of_le (by omega), put_of_le (by omega), put_of_le (by omega)]

/-! ## Slices -/

@[simp] theorem length_slice : (slice buf pos n).length = n := by
  rw [slice, List.length_map, List.length_range']

theorem slice_add (m : Nat) :
    slice buf pos (n + m) = slice buf pos n ++ slice buf (pos + n) m := by
  rw [slice, ← List.range'_append_1, List.map_append, slice, slice]

theorem slice_congr {buf' : Nat → α}
    (h : ∀ i, pos ≤ i → i < pos + n → buf i = buf' i) :
    slice buf pos n = slice buf' pos n := by
  apply List.map_congr_left
  intro i hi
  rw [List.mem_range'_1] at hi
  exact h i hi.1 hi.2

theorem getElem_slice {k : Nat} (h : k < (slice buf pos n).length) :
    (slice buf pos n)[k] = buf (pos + k) := by
  simp [slice, List.getElem_range']

/-- What was stored is read back. -/
theorem slice_put : slice (put buf pos xs) pos xs.length = xs := by
  apply List.ext_getElem length_slice
  intro k hk hk'
  rw [getElem_slice, put_add hk']

theorem slice_put_of_eq (h : n = xs.length) :
    slice (put buf pos xs) pos n = xs := h ▸ slice_put

theorem put_replicate {a : α} {i : Nat} (h : pos ≤ i) (hi : i < pos + n) :
    put buf pos (List.replicate n a) i = a := by
  obtain ⟨k, rfl⟩ := Nat.exists_eq_add_of_le h
  rw [put_add (by rw [List.length_replicate]; omega), List.getElem_replicate]

/-- What is stored over does not matter. -/
theorem slice_put_congr {buf' : Nat → α} {p : Nat}
    (h : ∀ i, pos ≤ i → i < pos + n → buf i = buf' i) :
    slice (put buf p xs) pos n = slice (put buf' p xs) pos n := by
  refine slice_congr fun i hi hi' => ?_
  rcases lt_or_ge i p with hp | hp
  · rw [put_of_lt hp, put_of_lt hp, h i hi hi']
  · obtain ⟨k, rfl⟩ := Nat.exists_eq_add_of_le hp
    rcases lt_or_ge k xs.length with hk | hk
    · rw [put_add hk, put_add hk]
    · rw [put_of_le (by omega), put_of_le (by omega), h _ hi hi']

/-- What lies behind is left alone. -/
theorem slice_put_behind {p : Nat} (h : pos + xs.length ≤ p) :
    slice (put buf pos xs) p n = slice buf p n :=
  slice_congr fun _ hi _ => put_of_le (by omega)

/-- Storing what was there changes nothing. -/
theorem put_slice : put buf pos (slice buf pos n) = buf := by
  funext i
  rcases lt_or_ge i pos with h | h
  · exact put_of_lt h
  · obtain ⟨k, rfl⟩ := Nat.exists_eq_add_of_le h
    rcases lt_or_ge k n with hk | hk
    · rw [put_add (by simpa using hk), getElem_slice]
    · exact put_of_le (by simpa using hk)

theorem put_same : put buf pos [buf pos] = buf := put_slice (n := 1)

theorem store_some {cap : Nat} {r : Nat → α} :
    store cap buf pos xs = some r ↔
      pos + xs.length ≤ cap ∧ put buf pos xs = r := by
  simp [store]

theorem load?_some {cap : Nat} {a : α} :
    load? cap buf pos = some a ↔ pos < cap ∧ buf pos = a := by
  simp [load?]

section blocks

variable {β : Type} {f : β → List α} {w : Nat} {d : α}

theorem length_blocks (hf : ∀ b, (f b).length = w) (l : List β) :
    (l.flatMap f).length = l.length * w := by
  induction l with
  | nil => simp
  | cons b l ih =>
      rw [List.flatMap_cons, List.length_append, hf, ih, List.length_cons,
        Nat.succ_mul, Nat.add_comm]

/-- Each block has its place. -/
theorem getD_blocks (hf : ∀ b, (f b).length = w) {l : List β} {n k : Nat}
    (hn : n < l.length) (hk : k < w) :
    (l.flatMap f).getD (n * w + k) d = (f l[n]).getD k d := by
  induction l generalizing n with
  | nil => simp at hn
  | cons b l ih =>
      rw [List.flatMap_cons]
      cases n with
      | zero =>
          rw [List.getD_append _ _ _ _ (by rw [hf]; omega), Nat.zero_mul,
            Nat.zero_add, List.getElem_cons_zero]
      | succ n =>
          have hpos : (n + 1) * w + k - (f b).length = n * w + k := by
            rw [hf, Nat.succ_mul]
            omega
          rw [List.getD_append_right _ _ _ _ (by rw [hf, Nat.succ_mul]; omega),
            hpos, ih (by simpa using hn), List.getElem_cons_succ]

end blocks

end Prog.Buffer
