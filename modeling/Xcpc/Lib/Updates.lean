import Mathlib

/-!
# Folds of updates

A loop that stores one value for each index of a list, in an array that is a
function of its index.
-/

namespace Prog

variable {ι κ α : Type} [DecidableEq ι] [DecidableEq κ]

/-- The array after the loop, at an index that the loop may visit. Visiting it
twice stores the same value twice. -/
theorem foldl_update {e : ι → κ} (he : Function.Injective e) (g : ι → α)
    (is : List ι) (f : κ → α) (i : ι) :
    is.foldl (fun f i => Function.update f (e i) (g i)) f (e i) =
      if i ∈ is then g i else f (e i) := by
  induction is generalizing f with
  | nil => rw [List.foldl_nil, if_neg List.not_mem_nil]
  | cons j is ih =>
      rw [List.foldl_cons, ih]
      by_cases hj : i = j
      · subst hj
        simp
      · simp [hj, he.ne hj]

end Prog
