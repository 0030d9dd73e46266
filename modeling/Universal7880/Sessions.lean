import Universal7880.Lts
import Mathlib.Data.Finset.Insert
import Mathlib.Tactic.Common

/-!
# Sessions: devices that are opened, called and closed

A module hands out devices. Each is opened under a name of its own, takes calls while it is open, and is closed once. An
`Interface` says which call is allowed in which phase of a session; `Interface.protocol` is the system of the histories in
which every device of the module keeps to it.

`Proxy` relates the history in front of a component that hands sessions on to the history behind it: the same events in the
same order under other names, and in between devices that are opened behind and then left alone. Whatever interface the
history in front keeps to, the one behind does too (`Proxy.run`).
-/

namespace Session

/-- What happens to a device. -/
inductive Event (δ α : Type*) where
  | opened (d : δ)
  | called (d : δ) (call : α)
  | closed (d : δ)
  deriving DecidableEq, Repr

/-- The calls of one session: the phase it starts in, and the phase that a call leads to, if the call is allowed. -/
structure Interface (φ α : Type*) where
  start : φ
  accept : φ → α → Option φ

/-- The devices of a module: the names given out so far, and the phase of each device that is open. -/
structure Devices (δ φ : Type*) where
  used : Finset δ
  phase : δ → Option φ

variable {γ δ α φ : Type*}

/-- The device that an event is about. -/
def Event.subject : Event δ α → δ
  | .opened d => d
  | .called d _ => d
  | .closed d => d

/-- The event under another name of its device. -/
def Event.rename (name : γ → δ) : Event γ α → Event δ α
  | .opened d => .opened (name d)
  | .called d call => .called (name d) call
  | .closed d => .closed (name d)

@[simp] theorem Event.subject_rename (name : γ → δ) (e : Event γ α) : (e.rename name).subject = name e.subject := by
  cases e <;> rfl

/-- The interface that allows every call. -/
def Interface.free : Interface Unit α := ⟨(), fun _ _ => some ()⟩

/-- No device was opened yet. -/
def Devices.none : Devices δ φ := ⟨∅, fun _ => Option.none⟩

/-! ## Histories -/

section Protocol

variable [DecidableEq δ]

/-- The histories that keep to an interface: a name is used for one device only, and calls and the close find the device
open. -/
def Interface.protocol (I : Interface φ α) : Lts (Devices δ φ) (Event δ α) where
  init := fun s => s = .none
  step := fun s e =>
    match e with
    | .opened d =>
      if d ∈ s.used then Option.none else some ⟨insert d s.used, Function.update s.phase d (some I.start)⟩
    | .called d call =>
      (s.phase d).bind fun p => (I.accept p call).map fun q => { s with phase := Function.update s.phase d (some q) }
    | .closed d =>
      (s.phase d).map fun _ => { s with phase := Function.update s.phase d Option.none }

/-- A step uses the name of its event, if it uses a new one. -/
theorem used_of_step {I : Interface φ α} {s t : Devices δ φ} {e : Event δ α} (h : I.protocol.step s e = some t) {d : δ}
    (hd : d ∈ t.used) : d = e.subject ∨ d ∈ s.used := by
  cases e with
  | opened c =>
    simp only [Interface.protocol] at h
    split at h
    case isTrue => cases h
    case isFalse =>
      obtain rfl := Option.some.inj h
      exact Finset.mem_insert.1 hd
  | called c call =>
    simp only [Interface.protocol, Option.bind_eq_some_iff, Option.map_eq_some_iff] at h
    obtain ⟨p, -, q, -, rfl⟩ := h
    exact Or.inr hd
  | closed c =>
    simp only [Interface.protocol, Option.map_eq_some_iff] at h
    obtain ⟨p, -, rfl⟩ := h
    exact Or.inr hd

/-- Every name that a history has used is in one of its events. -/
theorem used_of_run {I : Interface φ α} {h : List (Event δ α)} {t : Devices δ φ} (hrun : I.protocol.run .none h = some t)
    {d : δ} (hd : d ∈ t.used) : ∃ e ∈ h, e.subject = d := by
  induction h using List.reverseRecOn generalizing t with
  | nil =>
    simp only [Lts.run, List.foldlM_nil, Option.pure_def, Option.some.injEq] at hrun
    subst hrun
    exact absurd hd (Finset.notMem_empty d)
  | append_singleton h e ih =>
    rw [Lts.run_concat, Option.bind_eq_some_iff] at hrun
    obtain ⟨s, hs, hstep⟩ := hrun
    rcases used_of_step hstep hd with heq | hused
    · exact ⟨e, by simp, heq.symm⟩
    · obtain ⟨e', hmem, heq⟩ := ih hs hused
      exact ⟨e', by simp [hmem], heq⟩

/-- A device that is open was opened under a name that was used. -/
theorem used_of_phase {I : Interface φ α} {h : List (Event δ α)} {t : Devices δ φ}
    (hrun : I.protocol.run .none h = some t) {d : δ} (hd : t.phase d ≠ Option.none) : d ∈ t.used := by
  have hkeep : I.protocol.Inductive fun s : Devices δ φ => ∀ d, s.phase d ≠ Option.none → d ∈ s.used := by
    constructor
    case init =>
      intro s hs d hd
      obtain rfl : s = .none := hs
      exact absurd rfl hd
    case step =>
      intro t ht ih d hd
      rcases t with ⟨s, e, t⟩
      cases e with
      | opened c =>
        simp only [Lts.Steps, Interface.protocol] at ht
        split at ht
        case isTrue => cases ht
        case isFalse =>
          obtain rfl := Option.some.inj ht
          by_cases heq : d = c
          · exact heq ▸ Finset.mem_insert_self _ _
          · simp only [Function.update_of_ne heq] at hd
            exact Finset.mem_insert_of_mem (ih d hd)
      | called c call =>
        simp only [Lts.Steps, Interface.protocol, Option.bind_eq_some_iff, Option.map_eq_some_iff] at ht
        obtain ⟨p, hp, q, -, rfl⟩ := ht
        by_cases heq : d = c
        · exact ih d (by rw [heq, hp]; exact Option.some_ne_none p)
        · simp only [Function.update_of_ne heq] at hd
          exact ih d hd
      | closed c =>
        simp only [Lts.Steps, Interface.protocol, Option.map_eq_some_iff] at ht
        obtain ⟨p, hp, rfl⟩ := ht
        by_cases heq : d = c
        · exact ih d (by rw [heq, hp]; exact Option.some_ne_none p)
        · simp only [Function.update_of_ne heq] at hd
          exact ih d hd
  exact hkeep.reachable ((Lts.Reachable.init rfl).run h hrun) d hd

/-! ## Proxies -/

/-- The history behind is the one in front under other names, but for the devices `lost`: each is opened behind under a new
name, and no event is about it afterwards. -/
inductive Proxy (name : γ → δ) : List (Event γ α) → List (Event δ α) → Finset δ → Prop where
  | nil : Proxy name [] [] ∅
  | event {front back lost} (e : Event γ α) : Proxy name front back lost → name e.subject ∉ lost →
      Proxy name (front ++ [e]) (back ++ [e.rename name]) lost
  | lose {front back lost} (d : δ) : Proxy name front back lost → (∀ e ∈ back, e.subject ≠ d) →
      Proxy name front (back ++ [.opened d]) (insert d lost)

/-- The devices behind a proxy are those in front, in the same phases, and the lost ones, where they have started. -/
structure Follows (I : Interface φ α) (name : γ → δ) (lost : Finset δ) (s : Devices γ φ) (t : Devices δ φ) : Prop where
  used : ∀ d, d ∈ t.used ↔ d ∈ lost ∨ ∃ c ∈ s.used, name c = d
  phase : ∀ c, name c ∉ lost → t.phase (name c) = s.phase c
  started : ∀ d ∈ lost, t.phase d = some I.start

variable {I : Interface φ α} {name : γ → δ} {lost : Finset δ} {s s' : Devices γ φ} {t : Devices δ φ}

/-- A device that is lost can be opened behind. -/
theorem Follows.lose (h : Follows I name lost s t) {d : δ} (hd : d ∉ t.used) :
    ∃ t', I.protocol.step t (.opened d) = some t' ∧ Follows I name (insert d lost) s t' := by
  refine ⟨_, if_neg hd, ?_, ?_, ?_⟩
  · intro b
    simp only [Finset.mem_insert, h.used, or_assoc]
  · intro c hc
    rw [Finset.mem_insert, not_or] at hc
    simp only [Function.update_of_ne hc.1, h.phase c hc.2]
  · intro b hb
    by_cases heq : b = d
    · subst heq
      simp only [Function.update_self]
    · simp only [Function.update_of_ne heq, h.started b (Finset.mem_of_mem_insert_of_ne hb heq)]

variable [DecidableEq γ]

/-- A change of the phase of one device goes on behind. -/
theorem Follows.update (h : Follows I name lost s t) (hname : Function.Injective name) {c : γ} (hc : name c ∉ lost)
    (p : Option φ) : Follows I name lost { s with phase := Function.update s.phase c p }
      { t with phase := Function.update t.phase (name c) p } := by
  refine ⟨h.used, ?_, ?_⟩
  · intro b hb
    by_cases heq : b = c
    · subst heq
      simp only [Function.update_self]
    · simp only [Function.update_of_ne heq, Function.update_of_ne (hname.ne heq), h.phase b hb]
  · intro d hd
    have hne : d ≠ name c := fun heq => hc (heq ▸ hd)
    simp only [Function.update_of_ne hne, h.started d hd]

/-- An event that is allowed in front is allowed behind, under the other name. -/
theorem Follows.step (h : Follows I name lost s t) (hname : Function.Injective name) {e : Event γ α}
    (he : name e.subject ∉ lost) (hs : I.protocol.step s e = some s') :
    ∃ t', I.protocol.step t (e.rename name) = some t' ∧ Follows I name lost s' t' := by
  cases e with
  | opened c =>
    simp only [Interface.protocol] at hs
    split at hs
    case isTrue => cases hs
    case isFalse hnew =>
      obtain rfl := Option.some.inj hs
      have hfresh : name c ∉ t.used := by
        intro hc
        rcases (h.used _).1 hc with hlost | ⟨b, hb, heq⟩
        · exact he hlost
        · exact hnew (hname heq ▸ hb)
      refine ⟨_, if_neg hfresh, ?_⟩
      have hupdate := h.update hname he (some I.start)
      refine ⟨?_, hupdate.phase, hupdate.started⟩
      intro d
      simp only [Finset.mem_insert, h.used, exists_eq_or_imp]
      rw [eq_comm (a := d), or_left_comm]
  | called c call =>
    simp only [Interface.protocol, Option.bind_eq_some_iff, Option.map_eq_some_iff] at hs
    obtain ⟨p, hp, q, hq, rfl⟩ := hs
    refine ⟨_, ?_, h.update hname he (some q)⟩
    simp only [Interface.protocol, Event.rename]
    rw [h.phase c he, hp, Option.bind_some, hq, Option.map_some]
    rfl
  | closed c =>
    simp only [Interface.protocol, Option.map_eq_some_iff] at hs
    obtain ⟨p, hp, rfl⟩ := hs
    refine ⟨_, ?_, h.update hname he Option.none⟩
    simp only [Interface.protocol, Event.rename]
    rw [h.phase c he, hp, Option.map_some]
    rfl

/-- A proxy keeps every interface: if the history in front keeps to it, so does the one behind, and the devices behind are in
the phases of those in front. -/
theorem Proxy.run {front : List (Event γ α)} {back : List (Event δ α)} (h : Proxy name front back lost)
    (hname : Function.Injective name) (hrun : I.protocol.run .none front = some s) :
    ∃ t, I.protocol.run .none back = some t ∧ Follows I name lost s t := by
  induction h generalizing s with
  | nil =>
    simp only [Lts.run, List.foldlM_nil, Option.pure_def, Option.some.injEq] at hrun
    subst hrun
    exact ⟨.none, rfl, by simp [Devices.none], fun _ _ => rfl, by simp⟩
  | event e _ hnot ih =>
    rw [Lts.run_concat, Option.bind_eq_some_iff] at hrun
    obtain ⟨s₀, hs₀, hstep⟩ := hrun
    obtain ⟨t₀, ht₀, hfollows⟩ := ih hs₀
    obtain ⟨t, ht, hnext⟩ := hfollows.step hname hnot hstep
    exact ⟨t, by rw [Lts.run_concat, ht₀, Option.bind_some, ht], hnext⟩
  | lose d _ hnew ih =>
    obtain ⟨t₀, ht₀, hfollows⟩ := ih hrun
    have hfresh : d ∉ t₀.used := by
      intro hd
      obtain ⟨e, hmem, heq⟩ := used_of_run ht₀ hd
      exact hnew e hmem heq
    obtain ⟨t, ht, hnext⟩ := hfollows.lose hfresh
    exact ⟨t, by rw [Lts.run_concat, ht₀, Option.bind_some, ht], hnext⟩

end Protocol

end Session
