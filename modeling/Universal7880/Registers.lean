import Universal7880.Lts
import Mathlib.Logic.Function.Basic

/-!
# Registers

A family of registers that are set and read one at a time. Each holds the last value that it was set to with success; what
it holds before that is unknown, and so is what is read from it then. `registers` is the system of the histories in which
every read delivers what its register holds, and `readsLast_of_run` says what such a history promises on its own.
-/

namespace Register

/-- What happens to the registers: one is set, with or without success, or one is read. -/
inductive Event {ι : Type*} (V : ι → Type*) where
  | set (i : ι) (v : V i) (done : Bool)
  | got (i : ι) (v : V i)

variable {ι : Type*} [DecidableEq ι] {V : ι → Type*}

/-- What an event makes of the values of the registers; `none` is a value that is not known. -/
def effect (s : ∀ i, Option (V i)) (e : Event V) : ∀ i, Option (V i) :=
  match e with
  | .set i v done => if done then Function.update s i (some v) else s
  | .got _ _ => s

/-- A register that is set changes alone, and only with success. -/
theorem effect_set {s t : ∀ i, Option (V i)} {i : ι} {v : V i} {done : Bool}
    (hself : t i = if done = true then some v else s i) (hothers : ∀ j, j ≠ i → t j = s j) : effect s (.set i v done) = t := by
  funext j
  by_cases hj : j = i
  · subst hj
    cases done <;> simp [effect, hself]
  · rw [hothers j hj]
    cases done <;> simp [effect, hj]

/-- Every read of the history delivers the value that its register was set to last with success, if it was set before. -/
def ReadsLast (h : List (Event V)) : Prop :=
  ∀ before i v after, h = before ++ .got i v :: after →
    before.foldl effect (fun _ => none) i = none ∨ before.foldl effect (fun _ => none) i = some v

variable [∀ i, DecidableEq (V i)]

/-- The histories of registers of the types `V`. -/
def registers (V : ι → Type*) [∀ i, DecidableEq (V i)] : Lts (∀ i, Option (V i)) (Event V) where
  init := fun s => s = fun _ => none
  step := fun s e =>
    match e with
    | .set i v done => some (effect s (.set i v done))
    | .got i v => if s i = none ∨ s i = some v then some s else none

theorem step_registers {s t : ∀ i, Option (V i)} {e : Event V} (h : (registers V).step s e = some t) : t = effect s e := by
  cases e with
  | set i v done => exact (Option.some.inj h).symm
  | got i v =>
    simp only [registers] at h
    split at h
    case isTrue => exact (Option.some.inj h).symm
    case isFalse => cases h

/-- A history of the registers leaves the values that its events make. -/
theorem run_registers {s t : ∀ i, Option (V i)} {h : List (Event V)} (hrun : (registers V).run s h = some t) :
    t = h.foldl effect s := by
  induction h generalizing s with
  | nil => exact (Option.some.inj hrun).symm
  | cons e h ih =>
    simp only [Lts.run, List.foldlM_cons, Option.bind_eq_bind, Option.bind_eq_some_iff] at hrun
    obtain ⟨u, hu, hrest⟩ := hrun
    rw [List.foldl_cons, ← step_registers hu]
    exact ih hrest

/-- A history of the registers reads what was set last. -/
theorem readsLast_of_run {t : ∀ i, Option (V i)} {h : List (Event V)}
    (hrun : (registers V).run (fun _ => none) h = some t) : ReadsLast h := by
  intro before i v after heq
  subst heq
  simp only [Lts.run, List.foldlM_append, List.foldlM_cons, Option.bind_eq_bind, Option.bind_eq_some_iff] at hrun
  obtain ⟨s, hs, u, hu, -⟩ := hrun
  rw [← run_registers hs]
  simp only [registers] at hu
  split at hu
  case isTrue hread => exact hread
  case isFalse => cases hu

end Register
