import Mathlib.Algebra.BigOperators.Group.Finset.Piecewise

/-!
# Work, summed over a table

What the threads of a table have left to do is the sum of what each of them has left. A step that changes one entry of the table
changes the sum by what it changes of that entry.
-/

namespace Work

/-- A sum over a table of which one entry changes. -/
theorem sum_update {α : Type*} (S : Finset ℕ) (f : ℕ → α) (g : α → ℕ) {i : ℕ} (hi : i ∈ S) (a : α) :
    ∑ x ∈ S, g (Function.update f i a x) + g (f i) = ∑ x ∈ S, g (f x) + g a := by
  have hupdate : ∑ x ∈ S, g (Function.update f i a x) = g a + ∑ x ∈ S \ {i}, g (f x) := by
    rw [← Finset.sum_update_of_mem hi]
    refine Finset.sum_congr rfl ?_
    intro x _
    by_cases hx : x = i
    · subst hx
      simp
    · simp [Function.update_of_ne hx]
  have hsplit : ∑ x ∈ S, g (f x) = g (f i) + ∑ x ∈ S \ {i}, g (f x) := by
    rw [Finset.sdiff_singleton_eq_erase, Finset.add_sum_erase S (fun x => g (f x)) hi]
  omega

/-- An entry outside the sum does not count. -/
theorem sum_update_of_not_mem {α : Type*} (S : Finset ℕ) (f : ℕ → α) (g : α → ℕ) {i : ℕ} (hi : i ∉ S) (a : α) :
    ∑ x ∈ S, g (Function.update f i a x) = ∑ x ∈ S, g (f x) := by
  refine Finset.sum_congr rfl ?_
  intro x hx
  have hne : x ≠ i := by
    rintro rfl
    exact hi hx
  rw [Function.update_of_ne hne]

/-- An entry that has less left, up to a credit, leaves less in the sum, up to that credit. -/
theorem sum_update_add_one_le {α : Type*} (S : Finset ℕ) (f : ℕ → α) (g : α → ℕ) {i n : ℕ} (hi : i ∈ S) {a : α}
    (hless : g a + 1 ≤ g (f i) + n) : ∑ x ∈ S, g (Function.update f i a x) + 1 ≤ ∑ x ∈ S, g (f x) + n := by
  have hsum := sum_update S f g hi a
  omega

end Work
