import Universal7880.Theorems.ClockJoin

/-!
# When `pthread_create` fails

`tfa_clock_on` drops the result of `pthread_create` and waits for `writing`. `create_failure` says what follows: if `writing`
is clear when the creation fails, the call of `tfa_power` never returns, and keeps `tfa_lock`, so no other call gets to the
vendor's `tfa_enable` either; if `writing` is set, left by an earlier session whose writer gave up, the call can return.
-/

namespace Universal7880
namespace Clock

/-- The caller that holds `tfa_lock` is in a session without a writer. -/
structure Wedged (c : CallerId) (s : Clock) : Prop where
  inv : s.Inv
  tfaLock : s.tfaLock = some c
  mine : (s.caller c).mine = none
  inSession : (s.caller c).inSession = true

/-- It waits for a writer that does not exist. -/
theorem Wedged.noThread {c : CallerId} {s : Clock} (h : s.Wedged c) : s.NoThread (s.caller c) := by
  rcases (h.inv.core_holder h.tfaLock).session h.inSession with hn | ⟨w, hs⟩
  · exact hn
  · have hmine := hs.mine
    rw [h.mine] at hmine
    cases hmine

/-- A writer's statement is not enabled. -/
theorem Wedged.not_stepWriter {c : CallerId} {s s' : Clock} {w : WriterId} {outcome : Outcome} (h : s.Wedged c) :
    s.stepWriter w outcome ≠ some s' := by
  intro hstep
  have hmine := (h.inv.session_of_live (live_of_stepWriter hstep)).2.mine
  rw [active_of_some h.tfaLock, h.mine] at hmine
  cases hmine

/-- A caller inside is the one that waits, and it is past its creation. -/
theorem Wedged.eq_of_inside {c d : CallerId} {s : Clock} (h : s.Wedged c) (hin : (s.caller d).pc.inside = true) : d = c :=
  Option.some.inj ((h.inv.holder hin).symm.trans h.tfaLock)

/-- The caller that waits takes a step, and waits on: `pc` is where it comes to. -/
theorem Wedged.goto {c : CallerId} {s s₁ s' : Clock} {pc : CallerPc} (h : s.Wedged c) (heq : s' = s₁.goto c pc)
    (hinv : s'.Inv) (hcaller : s₁.caller = s.caller) (hlock : s₁.tfaLock = s.tfaLock) (hpc : pc.waits = true) :
    s'.Wedged c := by
  subst heq
  refine ⟨hinv, hlock.trans h.tfaLock, ?_, ?_⟩
  · simp only [caller_goto, Function.update_self, hcaller]
    exact h.mine
  · simp only [caller_goto, Function.update_self, Caller.inSession]
    cases pc <;> first | rfl | cases hpc

/-- Every step leaves the caller waiting, with nothing called and nothing returned. -/
theorem Wedged.step {c : CallerId} {s s' : Clock} {e : ClockLabel} (h : s.Wedged c) (hstep : s.step e = some s') :
    s'.Wedged c ∧ s'.calls = s.calls ∧ s'.returns = s.returns := by
  have hn := h.noThread
  have hwaits := hn.waits
  have hinv : Harmless ⟨s, e, s'⟩ → s'.Inv := fun hh => inv_step ⟨s, e, s'⟩ hstep hh h.inv
  have hnot : ∀ {d pc}, (s.caller d).pc = pc → pc.inside = true → pc.waits = true := by
    intro d pc hpc hin
    obtain rfl := h.eq_of_inside (d := d) (by rw [hpc]; exact hin)
    rw [← hpc]
    exact hwaits
  cases e with
  | writer w outcome => exact absurd hstep h.not_stepWriter
  | call d on =>
    obtain ⟨hidle, rfl⟩ := stepCall_eq_some.1 hstep
    have hne : c ≠ d := by
      rintro rfl
      rw [hidle] at hwaits
      cases hwaits
    refine ⟨⟨hinv (fun _ _ he => by cases he), h.tfaLock, ?_, ?_⟩, rfl, rfl⟩
    · simpa only [Function.update_of_ne hne] using h.mine
    · simpa only [Function.update_of_ne hne] using h.inSession
  | created d => exact absurd (hnot (stepCreated_eq_some.1 hstep).1 rfl) (by simp)
  | createFailed d left => exact absurd (hnot (stepCreateFailed_eq_some.1 hstep).1 rfl) (by simp)
  | enabled d rc a1 => exact absurd (hnot (stepEnabled_eq_some.1 hstep).1 rfl) (by simp)
  | spurious d =>
    obtain ⟨hpc, heq⟩ := stepSpurious_eq_some.1 hstep
    obtain rfl := h.eq_of_inside (d := d) (by rw [hpc]; rfl)
    exact ⟨h.goto heq (hinv (fun _ _ he => by cases he)) rfl rfl rfl, by rw [heq]; rfl, by rw [heq]; rfl⟩
  | caller d =>
    have hinv : s'.Inv := hinv (fun _ _ he => by cases he)
    simp only [Clock.step, Clock.stepCaller] at hstep
    cases hpc : (s.caller d).pc
    case lockTfa =>
      -- the lock is not free
      simp [hpc, h.tfaLock] at hstep
    case testWriting =>
      obtain rfl := h.eq_of_inside (d := d) (by rw [hpc]; rfl)
      simp only [hpc, hn.writing, Option.some.injEq] at hstep
      exact ⟨h.goto hstep.symm hinv rfl rfl rfl, by rw [← hstep]; rfl, by rw [← hstep]; rfl⟩
    case lockMutex | woken =>
      obtain rfl := h.eq_of_inside (d := d) (by rw [hpc]; rfl)
      simp only [hpc] at hstep
      split at hstep <;> simp only [Option.some.injEq, reduceCtorEq] at hstep
      exact ⟨h.goto hstep.symm hinv rfl rfl rfl, by rw [← hstep]; rfl, by rw [← hstep]; rfl⟩
    case condWait =>
      obtain rfl := h.eq_of_inside (d := d) (by rw [hpc]; rfl)
      simp only [hpc, Option.some.injEq] at hstep
      exact ⟨h.goto hstep.symm hinv rfl rfl rfl, by rw [← hstep]; rfl, by rw [← hstep]; rfl⟩
    case idle | createThread | blocked | enable => simp [hpc] at hstep
    all_goals exact absurd (hnot hpc rfl) (by simp)

/-- In every run from there the caller waits, with nothing called and nothing returned. -/
theorem Wedged.run {c : CallerId} {s v : Clock} (h : s.Wedged c) (es : List ClockLabel) (hrun : clockSystem.run s es = some v) :
    v.Wedged c ∧ v.calls = s.calls ∧ v.returns = s.returns := by
  refine Lts.Always.at_end (S := clockSystem) (J := fun v => v.Wedged c ∧ v.calls = s.calls ∧ v.returns = s.returns)
    (C := fun _ => True) ?_ es ⟨h, rfl, rfl⟩ (fun _ _ => trivial) hrun
  intro t ht _ hv
  obtain ⟨hw, hcalls, hreturns⟩ := hv.1.step (e := t.label) ht
  exact ⟨hw, hcalls.trans hv.2.1, hreturns.trans hv.2.2⟩

/-- A creation that fails while `writing` is clear leaves its caller without a writer to wait for. -/
theorem wedged_of_createFailed {s s' : Clock} {c : CallerId} {left : ℕ} (h : s.Inv) (hwriting : s.writing = false)
    (hstep : s.step (.createFailed c left) = some s') : s'.Wedged c := by
  have hinv : s'.Inv := h.stepCreateFailed hwriting hstep
  obtain ⟨hpc, rfl⟩ := stepCreateFailed_eq_some.1 hstep
  have hl : s.tfaLock = some c := h.holder (by rw [hpc]; rfl)
  have hmine := (h.core_holder hl).unborn (by rw [hpc]; rfl)
  exact ⟨hinv, hl, by simpa using hmine, by simp⟩

/-- The statements that lead a caller out of `tfa_power` when its creation has failed and `writing` is set. -/
def leaveAfterFailure (c : CallerId) : List ClockLabel :=
  List.replicate 4 (.caller c) ++ .enabled c 0 0 :: List.replicate 6 (.caller c)

/-- A creation that fails while `writing` is set lets its caller return. -/
theorem returns_of_createFailed {s s' : Clock} {c : CallerId} {left : ℕ} (h : s.Inv) (hwriting : s.writing = true)
    (hstep : s.step (.createFailed c left) = some s') :
    ∃ v, clockSystem.run s' (leaveAfterFailure c) = some v ∧ (v.caller c).pc = .idle := by
  obtain ⟨hpc, rfl⟩ := stepCreateFailed_eq_some.1 hstep
  have hl : s.tfaLock = some c := h.holder (by rw [hpc]; rfl)
  have hcore := h.core_holder hl
  have hout : (s.caller c).inSession = false := by simp [hpc]
  have hmutex : s.mutex = none := hcore.mutex_free hout
  have hlive := Opening.not_live_of_idle h (by rw [active_of_some hl, hout]) left
  have hrun : (clockSystem.run ({ s with writeThread := left }.goto c .lockMutex) (leaveAfterFailure c)).map
      (fun v => (v.caller c).pc) = some .idle := by
    simp [leaveAfterFailure, Lts.run, clockSystem, Clock.step, Clock.stepCaller, Clock.stepEnabled, hwriting, hmutex, hlive]
  obtain ⟨v, hv, hidle⟩ := Option.map_eq_some_iff.1 hrun
  exact ⟨v, hv, hidle⟩

end Clock

open Clock

/-- What a `pthread_create` that fails does to its call of `tfa_power`, in every run in which no creation has failed before
while `writing` was set. The call can return exactly if `writing` is set when the creation fails. If it is clear, the caller
holds `tfa_lock` for ever: whatever the threads do then, the vendor's `tfa_enable` is not called and no call returns. -/
theorem create_failure (s u u' : Clock) (hs : clockSystem.init s) (es : List ClockLabel)
    (hC : clockSystem.Always s es Harmless) (hrun : clockSystem.run s es = some u) (c : CallerId) (left : ℕ)
    (hfail : clockSystem.step u (.createFailed c left) = some u') :
    ((∃ es' v, clockSystem.run u' es' = some v ∧ (v.caller c).pc = .idle) ↔ u.writing = true) ∧
    (u.writing = false → ∀ es' v, clockSystem.run u' es' = some v →
      v.tfaLock = some c ∧ v.calls = u.calls ∧ v.returns = u.returns) := by
  have hinv : u.Inv := Lts.Always.at_end inv_step es (inv_of_fresh hs.toFresh hs.clockEnabled) hC hrun
  have hsame : u'.calls = u.calls ∧ u'.returns = u.returns := by
    obtain ⟨-, rfl⟩ := stepCreateFailed_eq_some.1 hfail
    exact ⟨rfl, rfl⟩
  constructor
  · constructor
    · intro hreturns
      obtain ⟨es', v, hv, hidle⟩ := hreturns
      by_contra hclear
      have hw := ((wedged_of_createFailed hinv (by simpa using hclear) hfail).run es' hv).1
      have hin := hw.inSession
      simp [hidle] at hin
    · intro hset
      obtain ⟨v, hv, hidle⟩ := returns_of_createFailed hinv hset hfail
      exact ⟨_, v, hv, hidle⟩
  · intro hclear es' v hv
    obtain ⟨hw, hcalls, hreturns⟩ := (wedged_of_createFailed hinv hclear hfail).run es' hv
    exact ⟨hw.tfaLock, hcalls.trans hsame.1, hreturns.trans hsame.2⟩

/-- The first creation on a device fails: no call of `tfa_power` on that device returns any more. -/
theorem create_failure_first :
    ∃ u', clockSystem.run .powered (.call 0 true :: enterSession 0 ++ [.createFailed 0 7]) = some u' ∧
      ∀ es' v, clockSystem.run u' es' = some v → v.tfaLock = some 0 ∧ v.returns = [] := by
  have hrun : (clockSystem.run .powered (.call 0 true :: enterSession 0)).map
      (fun u => (u.writing, u.returns, (u.caller 0).pc)) = some (false, [], .createThread) := by
    decide +kernel
  obtain ⟨u, hu, hfields⟩ := Option.map_eq_some_iff.1 hrun
  simp only [Prod.mk.injEq] at hfields
  obtain ⟨hclear, hreturns, hpc⟩ := hfields
  have hfail : clockSystem.step u (.createFailed 0 7) = some ({ u with writeThread := 7 }.goto 0 .lockMutex) :=
    stepCreateFailed_eq_some.2 ⟨hpc, rfl⟩
  refine ⟨_, (Lts.run_concat _ _ _ _).trans (by rw [hu]; exact hfail), ?_⟩
  intro es' v hv
  have hwedged := (create_failure .powered u _ Clock.initialised_powered _ (harmless_of_creates _ (by decide)) hu 0 7
    hfail).2 hclear es' v hv
  exact ⟨hwedged.1, hwedged.2.2.trans hreturns⟩

end Universal7880
