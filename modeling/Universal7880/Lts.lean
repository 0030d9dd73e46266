import Mathlib.Algebra.Ring.Nat
import Mathlib.Data.Nat.Notation
import Mathlib.Logic.Basic

/-!
# Labelled transition systems, run by run

A system is a guarded step function: `step s e` is `some t` when the label `e` is enabled in `s`, and then `t` is the
state it leads to. A label names the party that moves and what its environment answers, so a list of labels is a schedule
together with every outcome of that schedule, and a statement about all lists of labels is one about every run.

`Lts.trace` is the list of the transitions a list of labels makes; it ends at the first label that is not enabled.
`Lts.Always` says that every transition of a run satisfies a predicate, which is how "in every reached state" is written
below. The rules: `Lts.Inductive.reachable` (an inductive invariant holds in every reachable state),
`Lts.Always.of_guarded` (an invariant kept by the steps that satisfy a guard holds along every run all of whose steps
satisfy it), `Lts.always_iff` (the guard is exact) and `Lts.run_refines` (refinement by an abstraction function, step by
step). A potential that every step lowers, up to a credit for the step, bounds the length of every run
(`Lts.length_trace_le`), one that some step lowers wherever a goal is not reached leads to the goal (`Lts.exists_run_to`), and
a value to which every step adds its gain is the sum of the gains (`Lts.value_at_end`), and an invariant about the list of
what the steps have gained is one about the gains of the run (`Lts.collected_at_end`).
-/

/-- A labelled transition system: its initial states and its guarded step function. -/
structure Lts (σ ε : Type*) where
  init : σ → Prop
  step : σ → ε → Option σ

namespace Lts

/-- One step of a run: the state before it, its label, the state after it. -/
structure Transition (σ ε : Type*) where
  src : σ
  label : ε
  dst : σ

variable {σ ε τ δ : Type*}

/-- The transition is a step of the system. -/
def Steps (S : Lts σ ε) (t : Transition σ ε) : Prop := S.step t.src t.label = some t.dst

/-- The transitions that a list of labels makes from a state, up to the first label that is not enabled. -/
def trace (S : Lts σ ε) (s : σ) : List ε → List (Transition σ ε)
  | [] => []
  | e :: es =>
    match S.step s e with
    | none => []
    | some t => ⟨s, e, t⟩ :: S.trace t es

/-- Every transition of the run satisfies `P`. -/
def Always (S : Lts σ ε) (s : σ) (es : List ε) (P : Transition σ ε → Prop) : Prop := ∀ t ∈ S.trace s es, P t

instance (S : Lts σ ε) (s : σ) (es : List ε) (P : Transition σ ε → Prop) [DecidablePred P] : Decidable (S.Always s es P) :=
  inferInstanceAs (Decidable (∀ t ∈ S.trace s es, P t))

/-- The system with the labels that satisfy `ok` only. -/
def restrict (S : Lts σ ε) (ok : ε → Bool) : Lts σ ε where
  init := S.init
  step := fun s e => if ok e then S.step s e else none

/-- The state a list of labels leads to, when every one of them is enabled in turn. -/
def run (S : Lts σ ε) (s : σ) (es : List ε) : Option σ := es.foldlM S.step s

/-- The states that the runs from the initial states reach. -/
inductive Reachable (S : Lts σ ε) : σ → Prop where
  | init {s : σ} : S.init s → Reachable S s
  | step {s t : σ} (e : ε) : Reachable S s → S.step s e = some t → Reachable S t

/-- The predicate holds initially and every step keeps it. -/
structure Inductive (S : Lts σ ε) (J : σ → Prop) : Prop where
  init : ∀ s, S.init s → J s
  step : ∀ t, S.Steps t → J t.src → J t.dst

/-! ## Traces -/

@[simp] theorem trace_nil (S : Lts σ ε) (s : σ) : S.trace s [] = [] := rfl

theorem trace_cons_some {S : Lts σ ε} {s t : σ} {e : ε} (h : S.step s e = some t) (es : List ε) :
    S.trace s (e :: es) = ⟨s, e, t⟩ :: S.trace t es := by
  simp [trace, h]

theorem trace_cons_none {S : Lts σ ε} {s : σ} {e : ε} (h : S.step s e = none) (es : List ε) :
    S.trace s (e :: es) = [] := by
  simp [trace, h]

@[simp] theorem always_nil (S : Lts σ ε) (s : σ) (P : Transition σ ε → Prop) : S.Always s [] P := by
  simp [Always]

theorem always_cons_some {S : Lts σ ε} {s t : σ} {e : ε} (h : S.step s e = some t) (es : List ε)
    (P : Transition σ ε → Prop) : S.Always s (e :: es) P ↔ P ⟨s, e, t⟩ ∧ S.Always t es P := by
  simp [Always, trace_cons_some h]

theorem always_cons_none {S : Lts σ ε} {s : σ} {e : ε} (h : S.step s e = none) (es : List ε)
    (P : Transition σ ε → Prop) : S.Always s (e :: es) P := by
  simp [Always, trace_cons_none h]

/-- A run that meets no disabled label makes a transition for each of its labels. -/
theorem map_label_trace {S : Lts σ ε} {s u : σ} {es : List ε} (h : S.run s es = some u) :
    (S.trace s es).map Transition.label = es := by
  induction es generalizing s with
  | nil => rfl
  | cons e es ih =>
    simp only [run, List.foldlM_cons, Option.bind_eq_bind, Option.bind_eq_some_iff] at h
    obtain ⟨t, he, hrest⟩ := h
    rw [trace_cons_some he, List.map_cons, ih hrest]

/-- A run with one more label. -/
theorem run_concat (S : Lts σ ε) (s : σ) (es : List ε) (e : ε) :
    S.run s (es ++ [e]) = (S.run s es).bind fun t => S.step t e := by
  simp [run, List.foldlM_append]

/-- A predicate that follows from another one, transition by transition, holds along the same runs. -/
theorem Always.mono {S : Lts σ ε} {s : σ} {es : List ε} {P Q : Transition σ ε → Prop} (h : S.Always s es P)
    (hPQ : ∀ t, P t → Q t) : S.Always s es Q :=
  fun t ht => hPQ t (h t ht)

theorem Always.and {S : Lts σ ε} {s : σ} {es : List ε} {P Q : Transition σ ε → Prop} (hP : S.Always s es P)
    (hQ : S.Always s es Q) : S.Always s es (fun t => P t ∧ Q t) :=
  fun t ht => ⟨hP t ht, hQ t ht⟩

/-- What holds of every label of a list holds along its run. -/
theorem Always.of_labels {S : Lts σ ε} {s : σ} {es : List ε} {P : ε → Prop} (h : ∀ e ∈ es, P e) :
    S.Always s es (fun t => P t.label) := by
  induction es generalizing s with
  | nil => simp
  | cons e es ih =>
    cases he : S.step s e with
    | none => exact always_cons_none he es _
    | some t =>
      rw [always_cons_some he]
      exact ⟨h e List.mem_cons_self, ih (fun x hx => h x (List.mem_cons_of_mem e hx))⟩

/-! ## The rules -/

/-- An invariant kept by the steps that satisfy the guard `C` holds before and after every transition of a run all of whose
transitions satisfy `C`. -/
theorem Always.of_guarded {S : Lts σ ε} {J : σ → Prop} {C : Transition σ ε → Prop}
    (hstep : ∀ t, S.Steps t → C t → J t.src → J t.dst) {s : σ} (es : List ε) (h0 : J s) (hC : S.Always s es C) :
    S.Always s es (fun t => S.Steps t ∧ J t.src ∧ J t.dst) := by
  induction es generalizing s with
  | nil => simp
  | cons e es ih =>
    cases he : S.step s e with
    | none => exact always_cons_none he es _
    | some t =>
      rw [always_cons_some he] at hC ⊢
      have ht : J t := hstep ⟨s, e, t⟩ he hC.1 h0
      exact ⟨⟨he, h0, ht⟩, ih ht hC.2⟩

/-- An invariant kept by the steps that satisfy the guard `C` holds where a run ends all of whose transitions satisfy `C`. -/
theorem Always.at_end {S : Lts σ ε} {J : σ → Prop} {C : Transition σ ε → Prop}
    (hstep : ∀ t, S.Steps t → C t → J t.src → J t.dst) {s u : σ} (es : List ε) (h0 : J s) (hC : S.Always s es C)
    (hrun : S.run s es = some u) : J u := by
  induction es generalizing s with
  | nil =>
    simp only [run, List.foldlM_nil, Option.pure_def, Option.some.injEq] at hrun
    exact hrun ▸ h0
  | cons e es ih =>
    simp only [run, List.foldlM_cons, Option.bind_eq_bind, Option.bind_eq_some_iff] at hrun
    obtain ⟨t, he, hrest⟩ := hrun
    rw [always_cons_some he] at hC
    exact ih (hstep ⟨s, e, t⟩ he hC.1 h0) hC.2 hrest

/-- An invariant that every step keeps holds before and after every transition of every run. -/
theorem Always.of_step {S : Lts σ ε} {J : σ → Prop} (hstep : ∀ t, S.Steps t → J t.src → J t.dst) {s : σ}
    (es : List ε) (h0 : J s) : S.Always s es (fun t => S.Steps t ∧ J t.src ∧ J t.dst) :=
  Always.of_guarded (C := fun _ => True) (fun t ht _ => hstep t ht) es h0 (fun _ _ => trivial)

/-- The exact guard. If, at every step from a state where the invariant `J` holds, `Q` holds exactly when `C` does, and a step
that satisfies `Q` keeps `J`, then a run satisfies `Q` throughout exactly when it satisfies `C` throughout. -/
theorem always_iff {S : Lts σ ε} {J : σ → Prop} {Q C : Transition σ ε → Prop}
    (hQC : ∀ t, S.Steps t → J t.src → (Q t ↔ C t)) (hJ : ∀ t, S.Steps t → J t.src → Q t → J t.dst) {s : σ}
    (es : List ε) (h0 : J s) : S.Always s es Q ↔ S.Always s es C := by
  induction es generalizing s with
  | nil => simp
  | cons e es ih =>
    cases he : S.step s e with
    | none => exact ⟨fun _ => always_cons_none he es _, fun _ => always_cons_none he es _⟩
    | some t =>
      rw [always_cons_some he, always_cons_some he]
      have hst := hQC ⟨s, e, t⟩ he h0
      constructor
      · intro h
        rcases h with ⟨hq, hrest⟩
        exact ⟨hst.1 hq, (ih (hJ ⟨s, e, t⟩ he h0 hq)).1 hrest⟩
      · intro h
        rcases h with ⟨hc, hrest⟩
        have hq := hst.2 hc
        exact ⟨hq, (ih (hJ ⟨s, e, t⟩ he h0 hq)).2 hrest⟩

/-- An inductive invariant holds of every reachable state. -/
theorem Inductive.reachable {S : Lts σ ε} {J : σ → Prop} (hJ : S.Inductive J) {s : σ} (h : S.Reachable s) : J s := by
  induction h with
  | init hs => exact hJ.init _ hs
  | step e _ he ih => exact hJ.step ⟨_, e, _⟩ he ih

/-- A step of the restricted system is a step of the system whose label is allowed. -/
theorem steps_restrict {S : Lts σ ε} {ok : ε → Bool} {t : Transition σ ε} :
    (S.restrict ok).Steps t ↔ ok t.label = true ∧ S.Steps t := by
  simp [Steps, restrict]

/-- A run from a reachable state ends in a reachable state. -/
theorem Reachable.run {S : Lts σ ε} {s t : σ} (hs : S.Reachable s) (es : List ε) (h : S.run s es = some t) :
    S.Reachable t := by
  induction es generalizing s with
  | nil =>
    simp only [Lts.run, List.foldlM_nil, Option.pure_def, Option.some.injEq] at h
    exact h ▸ hs
  | cons e es ih =>
    simp only [Lts.run, List.foldlM_cons, Option.bind_eq_bind, Option.bind_eq_some_iff] at h
    obtain ⟨u, hu, hrest⟩ := h
    exact ih (hs.step e hu) hrest

/-! ## Work -/

/-- If an invariant kept by the steps that satisfy the guard `C` makes every such step lower the potential by one, up to the
credit of the step, a run whose transitions all satisfy `C` is no longer than the potential at its beginning and the credits
of its transitions together. -/
theorem length_trace_le {S : Lts σ ε} {J : σ → Prop} {C : Transition σ ε → Prop} {potential : σ → ℕ}
    {credit : Transition σ ε → ℕ}
    (hstep : ∀ t, S.Steps t → C t → J t.src → J t.dst ∧ potential t.dst + 1 ≤ potential t.src + credit t) {s : σ}
    (es : List ε) (h0 : J s) (hC : S.Always s es C) :
    (S.trace s es).length ≤ potential s + ((S.trace s es).map credit).sum := by
  induction es generalizing s with
  | nil => simp
  | cons e es ih =>
    cases he : S.step s e with
    | none => simp [trace_cons_none he]
    | some t =>
      rw [always_cons_some he] at hC
      obtain ⟨ht, hlow⟩ := hstep ⟨s, e, t⟩ he hC.1 h0
      have htail : (S.trace t es).length ≤ potential t + ((S.trace t es).map credit).sum := ih ht hC.2
      rw [trace_cons_some he, List.length_cons, List.map_cons, List.sum_cons]
      simp only at hlow
      omega

/-- If an invariant makes every step add its gain to a value, a run adds the gains of its transitions. -/
theorem value_at_end {S : Lts σ ε} {J : σ → Prop} {value : σ → ℕ} {gain : Transition σ ε → ℕ}
    (hstep : ∀ t, S.Steps t → J t.src → J t.dst ∧ value t.dst = value t.src + gain t) {s u : σ} (es : List ε) (h0 : J s)
    (hrun : S.run s es = some u) : value u = value s + ((S.trace s es).map gain).sum := by
  induction es generalizing s with
  | nil =>
    simp only [run, List.foldlM_nil, Option.pure_def, Option.some.injEq] at hrun
    simp [hrun]
  | cons e es ih =>
    simp only [run, List.foldlM_cons, Option.bind_eq_bind, Option.bind_eq_some_iff] at hrun
    obtain ⟨t, he, hrest⟩ := hrun
    obtain ⟨ht, hgain⟩ := hstep ⟨s, e, t⟩ he h0
    rw [trace_cons_some he, List.map_cons, List.sum_cons, ih ht hrest, hgain, Nat.add_assoc]

/-- If every step keeps an invariant about the state and a list, to which it adds its gain, a run adds the gains of its
transitions. -/
theorem collected_at_end {γ : Type*} {S : Lts σ ε} {J : σ → List γ → Prop} {gain : Transition σ ε → Option γ}
    (hstep : ∀ t c, S.Steps t → J t.src c → J t.dst (c ++ (gain t).toList)) {s u : σ} (es : List ε) {c : List γ}
    (h0 : J s c) (hrun : S.run s es = some u) : J u (c ++ (S.trace s es).filterMap gain) := by
  induction es generalizing s c with
  | nil =>
    simp only [run, List.foldlM_nil, Option.pure_def, Option.some.injEq] at hrun
    simpa [hrun] using h0
  | cons e es ih =>
    simp only [run, List.foldlM_cons, Option.bind_eq_bind, Option.bind_eq_some_iff] at hrun
    obtain ⟨t, he, hrest⟩ := hrun
    have hnext := ih (hstep ⟨s, e, t⟩ c he h0) hrest
    rw [trace_cons_some he]
    cases hy : gain ⟨s, e, t⟩ with
    | none =>
      rw [List.filterMap_cons_none hy]
      simpa [hy] using hnext
    | some d =>
      rw [List.filterMap_cons_some hy]
      simpa [hy] using hnext

/-- If, wherever the invariant holds and the goal does not, some step satisfies `P`, keeps the invariant and lowers the
potential, then a run of such steps leads to the goal, and is no longer than the potential where it begins. -/
theorem exists_run_to {S : Lts σ ε} {J goal : σ → Prop} {P : Transition σ ε → Prop} {potential : σ → ℕ}
    (hprogress : ∀ s, J s → ¬ goal s → ∃ e t, S.step s e = some t ∧ P ⟨s, e, t⟩ ∧ J t ∧ potential t < potential s) {s : σ}
    (h0 : J s) : ∃ es u, S.run s es = some u ∧ J u ∧ goal u ∧ S.Always s es P ∧ es.length ≤ potential s := by
  induction hn : potential s using Nat.strongRecOn generalizing s with
  | ind n ih =>
    by_cases hg : goal s
    · exact ⟨[], s, rfl, h0, hg, always_nil S s P, Nat.zero_le _⟩
    · obtain ⟨e, t, ht, hP, hJ, hlow⟩ := hprogress s h0 hg
      obtain ⟨es, u, hrun, hu, hgoal, hall, hlen⟩ := ih (potential t) (hn ▸ hlow) hJ rfl
      refine ⟨e :: es, u, ?_, hu, hgoal, (always_cons_some ht es P).2 ⟨hP, hall⟩, ?_⟩
      · simp only [run, List.foldlM_cons, Option.bind_eq_bind, ht, Option.bind_some] at hrun ⊢
        exact hrun
      · simp only [List.length_cons]
        omega

/-! ## Refinement -/

/-- The transition is a step of `T` on the images under `f`, the one `g` names, or leaves the image as it is when `g`
names none. -/
def Matches (T : Lts τ δ) (f : σ → τ) (g : Transition σ ε → Option δ) (t : Transition σ ε) : Prop :=
  match g t with
  | none => f t.dst = f t.src
  | some d => T.step (f t.src) d = some (f t.dst)

/-- Refinement by an abstraction function. If an invariant kept by the steps that satisfy the guard `C` makes every such
step match, a run whose transitions all satisfy `C` is, on the images, the run of `T` over the labels that `g` names. -/
theorem run_refines {S : Lts σ ε} {T : Lts τ δ} {J : σ → Prop} {C : Transition σ ε → Prop} {f : σ → τ}
    {g : Transition σ ε → Option δ} (hstep : ∀ t, S.Steps t → C t → J t.src → J t.dst ∧ Matches T f g t) {s u : σ}
    (es : List ε) (h0 : J s) (hC : S.Always s es C) (hrun : S.run s es = some u) :
    T.run (f s) ((S.trace s es).filterMap g) = some (f u) := by
  induction es generalizing s with
  | nil =>
    simp only [run, List.foldlM_nil, Option.pure_def, Option.some.injEq] at hrun
    simp [hrun, run]
  | cons e es ih =>
    simp only [run, List.foldlM_cons, Option.bind_eq_bind, Option.bind_eq_some_iff] at hrun
    obtain ⟨t, he, hrest⟩ := hrun
    rw [always_cons_some he] at hC
    obtain ⟨ht, hmatch⟩ := hstep ⟨s, e, t⟩ he hC.1 h0
    have htail := ih ht hC.2 hrest
    rw [trace_cons_some he]
    unfold Matches at hmatch
    cases hg : g ⟨s, e, t⟩ with
    | none =>
      rw [hg] at hmatch
      rw [List.filterMap_cons_none hg, ← hmatch]
      exact htail
    | some d =>
      rw [hg] at hmatch
      rw [List.filterMap_cons_some hg]
      simp only [run, List.foldlM_cons, Option.bind_eq_bind] at htail ⊢
      rw [hmatch, Option.bind_some]
      exact htail

/-- Refinement where the label alone names the step: the run of `T` is over the labels that `g` makes of the run's own. -/
theorem run_refines_label {S : Lts σ ε} {T : Lts τ δ} {J : σ → Prop} {C : Transition σ ε → Prop} {f : σ → τ}
    {g : ε → Option δ} (hstep : ∀ t, S.Steps t → C t → J t.src → J t.dst ∧ Matches T f (fun t => g t.label) t) {s u : σ}
    (es : List ε) (h0 : J s) (hC : S.Always s es C) (hrun : S.run s es = some u) :
    T.run (f s) (es.filterMap g) = some (f u) := by
  have hlabels : (S.trace s es).filterMap (fun t => g t.label) = ((S.trace s es).map Transition.label).filterMap g := by
    rw [List.filterMap_map]
    rfl
  rw [map_label_trace hrun] at hlabels
  rw [← hlabels]
  exact run_refines hstep es h0 hC hrun

end Lts
