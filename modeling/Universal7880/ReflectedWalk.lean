import Universal7880.Lts
import Mathlib.Algebra.BigOperators.Group.List.Basic
import Mathlib.Algebra.Order.Group.Defs
import Mathlib.Algebra.Order.Monoid.Defs
import Mathlib.Data.List.Infix
import Mathlib.Order.Bounds.Basic
import Mathlib.Order.MinMax

/-!
# Walks reflected at zero

A counter that is raised and lowered but never falls below zero walks on the line and is reflected at zero. The walk forgets
what came before its last reflection, so where it ends is the greatest sum of a suffix of its steps (`isGreatest_walk`); where
it is never reflected, that is the sum of all (`walk_of_prefixes`).
-/

namespace Reflected

variable {α : Type*} [AddCommGroup α] [LinearOrder α]

/-- One step of the walk. -/
def step (x d : α) : α := max 0 (x + d)

/-- Where the walk ends, from where it begins and its steps. -/
def walk (x : α) (ds : List α) : α := ds.foldl step x

/-- The walk as a system: every step is enabled. -/
def system : Lts α α where
  init := fun x => x = 0
  step := fun x d => some (step x d)

theorem walk_concat (x : α) (ds : List α) (d : α) : walk x (ds ++ [d]) = step (walk x ds) d := by
  simp [walk]

/-- The run of the system over a list of steps is the walk. -/
theorem run_system (x : α) (ds : List α) : system.run x ds = some (walk x ds) := by
  induction ds generalizing x with
  | nil => rfl
  | cons d ds ih =>
    rw [Lts.run, List.foldlM_cons]
    exact ih (step x d)

/-- A step that is not reflected at zero is a sum. -/
theorem step_of_nonneg {x d : α} (h : 0 ≤ x + d) : step x d = x + d := max_eq_right h

theorem zero_le_step (x d : α) : 0 ≤ step x d := le_max_left 0 (x + d)

variable [IsOrderedAddMonoid α]

/-- One more step: a suffix is empty, or a suffix of the steps before with this step after it. -/
theorem isGreatest_step {ds : List α} {x : α} (h : IsGreatest {n | ∃ s, s <:+ ds ∧ s.sum = n} x) (d : α) :
    IsGreatest {n | ∃ s, s <:+ ds ++ [d] ∧ s.sum = n} (step x d) := by
  obtain ⟨⟨s, hs, hsum⟩, hmax⟩ := h
  constructor
  · rcases le_total 0 (x + d) with hle | hle
    · exact ⟨s ++ [d], List.suffix_concat_iff.2 (Or.inr ⟨s, rfl, hs⟩), by simp [step_of_nonneg hle, hsum]⟩
    · exact ⟨[], List.nil_suffix, by simp [step, hle]⟩
  · rintro n ⟨t, ht, rfl⟩
    rcases List.suffix_concat_iff.1 ht with rfl | ⟨u, rfl, hu⟩
    · exact zero_le_step x d
    · rw [List.sum_append, List.sum_singleton]
      exact le_trans (add_le_add_left (hmax ⟨u, hu, rfl⟩) d) (le_max_right 0 (x + d))

/-- From zero, the walk ends at the greatest sum of a suffix of its steps. -/
theorem isGreatest_walk (ds : List α) : IsGreatest {n | ∃ s, s <:+ ds ∧ s.sum = n} (walk 0 ds) := by
  induction ds using List.reverseRecOn with
  | nil =>
    constructor
    · exact ⟨[], List.nil_suffix, rfl⟩
    · rintro n ⟨s, hs, rfl⟩
      rw [List.suffix_nil.1 hs]
      exact le_refl 0
  | append_singleton ds d ih =>
    rw [walk_concat]
    exact isGreatest_step ih d

/-- A walk whose steps never sum to less than zero ends at their sum. -/
theorem walk_of_prefixes {ds : List α} (h : ∀ p, p <+: ds → 0 ≤ p.sum) : walk 0 ds = ds.sum := by
  refine (isGreatest_walk ds).unique ⟨⟨ds, List.suffix_refl ds, rfl⟩, ?_⟩
  rintro n ⟨s, ⟨p, rfl⟩, rfl⟩
  rw [List.sum_append]
  exact le_add_of_nonneg_left (h p (List.prefix_append p s))

end Reflected
