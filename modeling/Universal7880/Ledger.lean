import Mathlib.Data.Finset.Card

/-!
# Ledgers: the resources a component owns

A ledger is the set of the resources acquired and not released yet, each named by its kind and by the number of its
acquisition, and the number the next acquisition will take. Every owned resource has a smaller number (`Ledger.fresh`), so
an acquisition is never confused with an earlier one: a pointer to a released resource stays a pointer to a released
resource.
-/

/-- The resources of kinds `κ` that a component owns, and the number of the next acquisition. -/
structure Ledger (κ : Type*) where
  owned : Finset (κ × ℕ)
  next : ℕ
  fresh : ∀ r ∈ owned, r.2 < next

namespace Ledger

variable {κ : Type*}

/-- A number that was not given out yet names nothing owned. -/
theorem not_owned_of_le (L : Ledger κ) {k : κ} {n : ℕ} (h : L.next ≤ n) : (k, n) ∉ L.owned := by
  intro hm
  have := L.fresh _ hm
  exact absurd this (Nat.not_lt.mpr h)

variable [DecidableEq κ]

/-- Nothing is owned, nothing was acquired. -/
def empty : Ledger κ where
  owned := ∅
  next := 0
  fresh := by simp

/-- Acquire one resource of kind `k`; it is named `(k, L.next)`. -/
def acquire (L : Ledger κ) (k : κ) : Ledger κ where
  owned := insert (k, L.next) L.owned
  next := L.next + 1
  fresh := by
    intro r hr
    rcases Finset.mem_insert.mp hr with rfl | hr
    · exact Nat.lt_succ_self _
    · exact Nat.lt_succ_of_lt (L.fresh r hr)

/-- Give one resource back. -/
def release (L : Ledger κ) (r : κ × ℕ) : Ledger κ where
  owned := L.owned.erase r
  next := L.next
  fresh := fun x hx => L.fresh x (Finset.mem_of_mem_erase hx)

@[simp] theorem owned_acquire (L : Ledger κ) (k : κ) : (L.acquire k).owned = insert (k, L.next) L.owned := rfl

@[simp] theorem next_acquire (L : Ledger κ) (k : κ) : (L.acquire k).next = L.next + 1 := rfl

@[simp] theorem owned_release (L : Ledger κ) (r : κ × ℕ) : (L.release r).owned = L.owned.erase r := rfl

@[simp] theorem next_release (L : Ledger κ) (r : κ × ℕ) : (L.release r).next = L.next := rfl

/-- An acquisition adds one resource. -/
theorem card_acquire (L : Ledger κ) (k : κ) : (L.acquire k).owned.card = L.owned.card + 1 :=
  Finset.card_insert_of_notMem (L.not_owned_of_le (Nat.le_refl _))

end Ledger
