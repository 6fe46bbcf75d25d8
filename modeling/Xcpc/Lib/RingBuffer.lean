import Mathlib

/-!
# Ring buffers

A ring of `n` slots with an index to read from and one to write to, both
wrapping at `n`. There is no count: equal indices mean that the ring is empty,
so one slot always stays free. `unread` lists the slots between the two
indices in the order they will be read. Writing appends the slot of the write
index to it and reading drops its first.
-/

namespace Prog.RingBuffer

variable {n rd wr : Nat}

/-- The next index. -/
def next (n i : Nat) : Nat := (i + 1) % n

/-- How far the write index is ahead. -/
def count (n rd wr : Nat) : Nat := (wr + n - rd) % n

/-- The slots to be read, the next one first. -/
def unread (n rd wr : Nat) : List Nat :=
  (List.range (count n rd wr)).map fun k => (rd + k) % n

theorem add_mod_cases {k : Nat} (hr : rd < n) (hk : k < n) :
    rd + k < n ∧ (rd + k) % n = rd + k ∨
      n ≤ rd + k ∧ (rd + k) % n = rd + k - n := by
  rcases lt_or_ge (rd + k) n with h | h
  · exact .inl ⟨h, Nat.mod_eq_of_lt h⟩
  · refine .inr ⟨h, ?_⟩
    rw [Nat.mod_eq_sub_mod h, Nat.mod_eq_of_lt (by omega)]

theorem next_cases {i : Nat} (hi : i < n) :
    i + 1 < n ∧ next n i = i + 1 ∨ i + 1 = n ∧ next n i = 0 := by
  rcases lt_or_ge (i + 1) n with h | h
  · exact .inl ⟨h, Nat.mod_eq_of_lt h⟩
  · have hn : i + 1 = n := by omega
    exact .inr ⟨hn, by rw [next, hn, Nat.mod_self]⟩

theorem next_lt {i : Nat} (hi : i < n) : next n i < n :=
  Nat.mod_lt _ (by omega)

theorem count_lt (hr : rd < n) (wr : Nat) : count n rd wr < n :=
  Nat.mod_lt _ (by omega)

theorem add_count (hr : rd < n) (hw : wr < n) :
    rd + count n rd wr = wr ∨ rd + count n rd wr = wr + n := by
  rcases le_or_gt rd wr with h | h
  · have hc : count n rd wr = wr - rd := by
      rw [count, Nat.add_comm, Nat.add_sub_assoc h, Nat.add_mod_left]
      exact Nat.mod_eq_of_lt (by omega)
    omega
  · have hc : count n rd wr = wr + n - rd := Nat.mod_eq_of_lt (by omega)
    omega

@[simp] theorem length_unread (n rd wr : Nat) :
    (unread n rd wr).length = count n rd wr := by
  rw [unread, List.length_map, List.length_range]

/-- The ring is full when the write index is right behind the read index. -/
theorem full_iff (hr : rd < n) (hw : wr < n) :
    next n wr = rd ↔ count n rd wr + 1 = n := by
  have hc := add_count hr hw
  have hlt := count_lt hr wr
  rcases next_cases hw with ⟨_, hn⟩ | ⟨_, hn⟩
  · omega
  · omega

theorem unread_self (hr : rd < n) : unread n rd rd = [] := by
  have hc := add_count hr hr
  have hlt := count_lt hr rd
  rw [← List.length_eq_zero_iff, length_unread]
  omega

/-- A slot that is written to is not unread. -/
theorem wr_notMem_unread (hr : rd < n) (hw : wr < n) :
    wr ∉ unread n rd wr := by
  intro hm
  obtain ⟨k, hk, he⟩ := List.mem_map.1 hm
  have hc := add_count hr hw
  have hlt := count_lt hr wr
  rw [List.mem_range] at hk
  rcases add_mod_cases hr (hk.trans hlt) with ⟨_, hm⟩ | ⟨_, hm⟩
  · omega
  · omega

theorem unread_push (hr : rd < n) (hw : wr < n) (hf : next n wr ≠ rd) :
    unread n rd (next n wr) = unread n rd wr ++ [wr] := by
  have hc := add_count hr hw
  have hlt := count_lt hr wr
  have hc' := add_count hr (next_lt hw)
  have hlt' := count_lt hr (next n wr)
  have hcount : count n rd (next n wr) = count n rd wr + 1 := by
    rcases next_cases hw with ⟨_, hn⟩ | ⟨_, hn⟩
    · omega
    · omega
  have hlast : (rd + count n rd wr) % n = wr := by
    rcases hc with he | he
    · rw [he, Nat.mod_eq_of_lt hw]
    · rw [he, Nat.add_mod_right, Nat.mod_eq_of_lt hw]
  rw [unread, hcount, List.range_succ, List.map_append, List.map_singleton,
    hlast, unread]

theorem unread_pop (hr : rd < n) (hw : wr < n) (he : rd ≠ wr) :
    unread n rd wr = rd :: unread n (next n rd) wr := by
  have hc := add_count hr hw
  have hlt := count_lt hr wr
  have hc' := add_count (next_lt hr) hw
  have hlt' := count_lt (next_lt hr) wr
  have hcount : count n rd wr = count n (next n rd) wr + 1 := by
    rcases next_cases hr with ⟨_, hn⟩ | ⟨_, hn⟩
    · omega
    · omega
  rw [unread, hcount, List.range_succ_eq_map, List.map_cons, List.map_map,
    Nat.add_zero, Nat.mod_eq_of_lt hr, unread]
  congr 1
  apply List.map_congr_left
  intro k _
  rw [next, Nat.mod_add_mod, Function.comp, Nat.succ_eq_add_one, Nat.add_assoc,
    Nat.add_comm 1 k]

end Prog.RingBuffer
