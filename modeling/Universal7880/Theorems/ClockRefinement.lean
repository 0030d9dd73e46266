import Universal7880.Lemmas.ClockEffect

/-!
# `tfa_power`, from the threads to its callers

For its callers `tfa_power` is one call of the vendor's `tfa_enable` whose code it returns (`tfaPower`), and the calls
come one after the other. `power_refines` says that every interleaving of the threads is such a sequence: the calls that
have returned, in the order in which they released `tfa_lock`.
-/

namespace Universal7880

/-- The runs of `tfaPower` on one device: a label is a call and the code it returned. -/
def powerSystem (enable : ℕ → Int) : Lts TfaDevice EnableCall where
  init := fun d => d.calls = []
  step := fun d call => if (tfaPower enable d call.on).1 = call.rc then some (tfaPower enable d call.on).2 else none

namespace Clock

/-- The vendor call of a `tfa_power` that is under way. -/
def pending (k : Caller) : List EnableCall :=
  match k.pc with
  | .testClock | .clockOff | .clearInitializing | .join | .clearClock | .unlockTfa => [⟨k.on, k.rc⟩]
  | _ => []

/-- The device as its callers see it: it has received the calls that have returned. -/
def seen (d : TfaDevice) (s : Clock) : TfaDevice := { d with calls := s.returns }

/-- The call that returns with this step. -/
def returned (t : Lts.Transition Clock ClockLabel) : Option EnableCall :=
  match t.label with
  | .caller c => if (t.src.caller c).pc = .unlockTfa then some ⟨(t.src.caller c).on, (t.src.caller c).rc⟩ else none
  | _ => none

/-- The vendor's codes are the sequence `enable`. -/
def Answers (enable : ℕ → Int) (t : Lts.Transition Clock ClockLabel) : Prop :=
  ∀ c rc a1, t.label = .enabled c rc a1 → rc = enable t.src.calls.length

/-- The vendor has received the calls that have returned, and the one that is under way; its codes are the sequence
`enable`. -/
structure Recorded (enable : ℕ → Int) (s : Clock) : Prop where
  calls : s.calls = s.returns ++ pending s.active
  codes : ∀ i call, s.calls[i]? = some call → call.rc = enable i

/-- A caller takes a step: what is recorded, and what is pending of it. -/
theorem pending_stepCaller {s s' : Clock} {c : CallerId} (hi : s.Inv) (hstep : s.stepCaller c = some s') :
    s'.calls = s.calls ∧
      ((s.caller c).pc = .unlockTfa ∧ pending s'.active = [] ∧
          s'.returns = s.returns ++ [⟨(s.caller c).on, (s.caller c).rc⟩] ∨
        (s.caller c).pc ≠ .unlockTfa ∧ pending s'.active = pending s.active ∧ s'.returns = s.returns) := by
  have hl : (s.caller c).pc.inside = true → s.tfaLock = some c := hi.holder
  unfold Clock.stepCaller at hstep
  obtain ⟨k, hk⟩ : ∃ k, s.caller c = k := ⟨_, rfl⟩
  rw [hk] at hstep hl ⊢
  obtain ⟨pc, on, rc, mine⟩ := k
  cases pc <;> simp only [reduceCtorEq] at hstep
  all_goals try split at hstep
  all_goals simp only [Option.some.injEq, reduceCtorEq] at hstep
  all_goals subst hstep
  case lockTfa =>
    rename_i hfree
    cases on <;> simp [active, pending, hfree, hk]
  all_goals simp_all [active, pending]

/-- A statement of a writer records nothing. -/
theorem pending_stepWriter {s s' : Clock} {w : WriterId} {outcome : Outcome} (hi : s.Inv)
    (hstep : s.step (.writer w outcome) = some s') :
    s'.calls = s.calls ∧ s'.returns = s.returns ∧ pending s'.active = pending s.active := by
  have hcaller := hi.caller_of_writer hstep
  obtain ⟨s₁, t, rfl, -, -, -, hlock, hcalls, hreturns, -⟩ := writer_of_step hstep
  have hlock : (s₁.setWriter w t).tfaLock = s.tfaLock := hlock
  refine ⟨hcalls, hreturns, ?_⟩
  cases hl : s.tfaLock with
  | none => rw [active_of_none hl, active_of_none (hlock.trans hl)]
  | some c =>
    rw [active_of_some hl, active_of_some (hlock.trans hl)]
    rcases hcaller c with heq | ⟨hpc, heq⟩
    · rw [heq]
    · rw [heq]
      simp [pending, hpc]

/-- A step that is neither a statement of `tfa_power` nor the vendor call records nothing. -/
theorem pending_step {s s' : Clock} {e : ClockLabel} (hi : s.Inv) (hstep : s.step e = some s')
    (he : match e with | .caller _ | .enabled .. => False | _ => True) :
    s'.calls = s.calls ∧ s'.returns = s.returns ∧ pending s'.active = pending s.active := by
  cases e with
  | caller c => cases he
  | enabled c rc a1 => cases he
  | writer w outcome => exact pending_stepWriter hi hstep
  | call c on =>
    obtain ⟨hidle, rfl⟩ := stepCall_eq_some.1 hstep
    refine ⟨rfl, rfl, ?_⟩
    cases hl : s.tfaLock with
    | none => simp [active, hl]
    | some d =>
      have hne : d ≠ c := by
        rintro rfl
        have hin := (hi.inside d).2 hl
        rw [hidle] at hin
        cases hin
      simp [active, hl, Function.update_of_ne hne]
  | created c | createFailed c _ | spurious c =>
    simp only [Clock.step, stepCreated_eq_some, stepCreateFailed_eq_some, stepSpurious_eq_some] at hstep
    obtain ⟨hpc, rfl⟩ := hstep
    have hl : s.tfaLock = some c := hi.holder (by rw [hpc]; rfl)
    simp [active, pending, hl, hpc]

/-- Every harmless step keeps the record, and is a call of `tfaPower` that returns or changes nothing its callers see. -/
theorem recorded_step {enable : ℕ → Int} (d : TfaDevice) (t : Lts.Transition Clock ClockLabel) (ht : clockSystem.Steps t)
    (hc : Harmless t ∧ Answers enable t) (h : t.src.Inv ∧ t.src.Recorded enable) :
    (t.dst.Inv ∧ t.dst.Recorded enable) ∧ Lts.Matches (powerSystem enable) (seen d) returned t := by
  obtain ⟨hi, hr⟩ := h
  have hi' := inv_step t ht hc.1 hi
  obtain ⟨s, e, s'⟩ := t
  change s.step e = some s' at ht
  simp only at hi hr hi'
  cases e with
  | caller c =>
    obtain ⟨hcalls, ⟨hpc, hnone, hreturns⟩ | ⟨hpc, hsame, hreturns⟩⟩ := pending_stepCaller hi ht
    · have hpending : pending s.active = [⟨(s.caller c).on, (s.caller c).rc⟩] := by
        simp [active_of_some (hi.holder (c := c) (by rw [hpc]; rfl)), pending, hpc]
      have hrc := hr.codes s.returns.length ⟨(s.caller c).on, (s.caller c).rc⟩ (by simp [hr.calls, hpending])
      refine ⟨⟨hi', by rw [hcalls, hr.calls, hpending, hnone, hreturns, List.append_nil], by rw [hcalls]; exact hr.codes⟩, ?_⟩
      simp only at hrc
      simp [Lts.Matches, returned, hpc, powerSystem, tfaPower, seen, hrc, hreturns, TfaDevice.record]
    · refine ⟨⟨hi', by rw [hcalls, hr.calls, hsame, hreturns], by rw [hcalls]; exact hr.codes⟩, ?_⟩
      simp [Lts.Matches, returned, hpc, seen, hreturns]
  | enabled c rc a1 =>
    have hrc : rc = enable s.calls.length := hc.2 c rc a1 rfl
    obtain ⟨hpc, rfl⟩ := stepEnabled_eq_some.1 ht
    have hl : s.tfaLock = some c := hi.holder (by rw [hpc]; rfl)
    have hpending : pending s.active = [] := by simp [active_of_some hl, pending, hpc]
    refine ⟨⟨hi', ?_, ?_⟩, rfl⟩
    · rw [hr.calls, hpending]
      simp [active, hl, pending]
    · intro i call hcall
      simp only at hcall
      rcases Nat.lt_trichotomy i s.calls.length with hlt | rfl | hgt
      · exact hr.codes i call (by rwa [List.getElem?_append_left hlt] at hcall)
      · rw [List.getElem?_concat_length, Option.some.injEq] at hcall
        rw [← hcall, hrc]
      · rw [List.getElem?_eq_none (by simp; omega)] at hcall
        cases hcall
  | call c _ | created c | createFailed c _ | spurious c | writer w _ =>
    obtain ⟨hcalls, hreturns, hsame⟩ := pending_step hi ht trivial
    exact ⟨⟨hi', by rw [hcalls, hr.calls, hsame, hreturns], by rw [hcalls]; exact hr.codes⟩, by
      simp [Lts.Matches, returned, seen, hreturns]⟩

/-- On an initialised device there is nothing to record. -/
theorem recorded_of_init {enable : ℕ → Int} {s : Clock} (hs : s.Initialised) : s.Inv ∧ s.Recorded enable := by
  refine ⟨inv_of_fresh hs.toFresh hs.clockEnabled, ?_, ?_⟩
  · rw [hs.calls, hs.returns, active_of_none hs.tfaLock]
    rfl
  · simp [hs.calls]

end Clock

open Clock

/-- `tfa_power` refines `tfaPower`: in a run of the threads in which no creation fails while `writing` is set and the
vendor's codes are the sequence `enable`, the calls that return, in the order in which they release `tfa_lock`, are a run
of `tfaPower` on the device. -/
theorem power_refines {enable : ℕ → Int} {s u : Clock} (hs : clockSystem.init s) (es : List ClockLabel)
    (hC : clockSystem.Always s es (fun t => Harmless t ∧ Answers enable t)) (hrun : clockSystem.run s es = some u)
    (d : TfaDevice) :
    (powerSystem enable).run { d with calls := [] } ((clockSystem.trace s es).filterMap Clock.returned) =
      some { d with calls := u.returns } := by
  have href := Lts.run_refines (J := fun s => s.Inv ∧ s.Recorded enable) (recorded_step d) es (recorded_of_init hs) hC hrun
  simpa [seen, hs.returns] using href

/-- No creation fails, and the vendor's codes are zero. -/
def ClockLabel.succeeds : ClockLabel → Bool
  | .createFailed _ _ => false
  | .enabled _ rc _ => rc = 0
  | _ => true

/-- A second caller calls `tfa_power(off)` while the first one is in its session, and returns after it. -/
theorem power_refines_overlap :
    (powerSystem fun _ => 0).run ⟨0, 1, 2, []⟩ ((clockSystem.trace .powered (.call 0 true :: .call 1 false ::
        session 0 0 ++ powerdown 1)).filterMap Clock.returned) = some ⟨0, 1, 2, [⟨true, 0⟩, ⟨false, 0⟩]⟩ := by
  have hreturns : (clockSystem.run .powered (.call 0 true :: .call 1 false :: session 0 0 ++ powerdown 1)).map
      Clock.returns = some [⟨true, 0⟩, ⟨false, 0⟩] := by
    decide +kernel
  obtain ⟨u, hu, hreturns⟩ := Option.map_eq_some_iff.1 hreturns
  have hC : clockSystem.Always .powered (.call 0 true :: .call 1 false :: session 0 0 ++ powerdown 1)
      (fun t => Harmless t ∧ Answers (fun _ => 0) t) := by
    refine (Lts.Always.of_labels (P := fun e : ClockLabel => e.succeeds = true) (by decide)).mono ?_
    intro t ht
    constructor
    · intro c left he
      rw [he] at ht
      cases ht
    · intro c rc a1 he
      rw [he] at ht
      exact of_decide_eq_true ht
  rw [power_refines Clock.initialised_powered _ hC hu ⟨0, 1, 2, []⟩, hreturns]

end Universal7880
