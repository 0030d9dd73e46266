import Universal7880.Lemmas.ClockQueue

/-!
# The handle the vendor gets

`tfa_power(on)` clears `a1` in the handle before it starts the clock, and the vendor's `tfa_enable` stores what it likes there.
`handle_cleared` says that the one does not spoil the other's call: whatever runs beside it and whatever fails, a
`tfa_enable(handle, 1)` finds `a1` clear, since no two callers are between the lock operations on `tfa_lock` at a time.
-/

namespace Universal7880
namespace Clock

/-- The caller has cleared `a1` and not called the vendor yet. -/
@[simp] def readied (k : Caller) : Bool :=
  match k.pc with
  | .checkClock | .setInitializing | .createThread | .lockMutex | .testWriting | .condWait | .blocked | .woken
  | .unlockMutex | .setClock => true
  | .enable => k.on
  | _ => false

theorem inside_of_readied {k : Caller} (h : readied k = true) : k.pc.inside = true := by
  obtain ⟨pc, on, rc, mine⟩ := k
  cases pc <;> first | rfl | cases h

/-- While a caller is about to enable the amplifier, `a1` is clear. -/
def Cleared (s : Clock) : Prop := ∀ c, readied (s.caller c) = true → s.a1 = 0

/-- A step of one caller that leaves `a1` alone. -/
theorem Cleared.of_caller {s s' : Clock} {c : CallerId} {k : Caller} (h : s.Cleared)
    (hcaller : s'.caller = Function.update s.caller c k) (ha1 : s'.a1 = s.a1)
    (hself : readied k = true → readied (s.caller c) = true) : s'.Cleared := by
  intro d hd
  rw [ha1]
  rw [hcaller] at hd
  by_cases hdc : d = c
  · subst hdc
    rw [Function.update_self] at hd
    exact h d (hself hd)
  · rw [Function.update_of_ne hdc] at hd
    exact h d hd

theorem Cleared.stepCaller {s s' : Clock} {c : CallerId} (h : s.Cleared) (hstep : s.stepCaller c = some s') :
    s'.Cleared := by
  unfold Clock.stepCaller at hstep
  obtain ⟨k, hk⟩ : ∃ k, s.caller c = k := ⟨_, rfl⟩
  rw [hk] at hstep
  obtain ⟨pc, on, rc, mine⟩ := k
  cases pc
  case resetHandle =>
    simp only [Option.some.injEq] at hstep
    subst hstep
    intro d _
    by_cases ha1 : s.a1 = 0 <;> simp [Clock.goto, ha1]
  all_goals
    simp only [reduceCtorEq] at hstep
    try split at hstep
    all_goals simp only [Option.some.injEq, reduceCtorEq] at hstep
  case lockTfa.isTrue =>
    subst hstep
    refine h.of_caller rfl rfl ?_
    cases on <;> simp [hk]
  all_goals
    subst hstep
    exact h.of_caller rfl rfl (by simp [hk])

/-- A signal leaves `a1` alone, and wakes a caller that was about to enable the amplifier. -/
theorem Cleared.wakeOne {s : Clock} (h : s.Cleared) (hq : s.Queue) : s.wakeOne.Cleared := by
  unfold Clock.wakeOne
  cases hcond : s.cond with
  | nil => exact h
  | cons c rest =>
    have hpc : (s.caller c).pc = .blocked := (hq.asleep c).2 (by simp [hcond])
    exact h.of_caller rfl rfl (by simp [hpc])

theorem Cleared.stepWriter {s s' : Clock} {w : WriterId} {outcome : Outcome} (h : s.Cleared) (hq : s.Queue)
    (hstep : s.stepWriter w outcome = some s') : s'.Cleared := by
  have hsame : ∀ {u : Clock}, u.caller = s.caller → u.a1 = s.a1 → u.Cleared := by
    intro u hcaller ha1 c hc
    rw [ha1]
    exact h c (hcaller ▸ hc)
  unfold Clock.stepWriter at hstep
  obtain ⟨t, ht⟩ : ∃ t, s.writer w = t := ⟨_, rfl⟩
  rw [ht] at hstep
  obtain ⟨pc, signaled, gaveUp, writes, hasSignalled⟩ := t
  cases pc
  case signal =>
    simp only [Option.some.injEq] at hstep
    subst hstep
    exact h.wakeOne hq
  all_goals
    simp only [reduceCtorEq] at hstep
    try split at hstep
    all_goals simp only [Option.some.injEq, reduceCtorEq] at hstep
  all_goals
    subst hstep
    exact hsame rfl rfl

/-- Every step keeps `a1` clear for the caller that is about to enable the amplifier. -/
theorem Cleared.step {s s' : Clock} {e : ClockLabel} (h : s.Cleared) (hq : s.Queue) (hstep : s.step e = some s') :
    s'.Cleared := by
  cases e with
  | caller c => exact h.stepCaller hstep
  | writer w outcome => exact h.stepWriter hq hstep
  | enabled c rc a1 =>
    -- the vendor may store to `a1`, but no other caller is inside
    obtain ⟨hpc, rfl⟩ := stepEnabled_eq_some.1 hstep
    have hl := (hq.inside c).1 (by rw [hpc]; rfl)
    intro d hd
    by_cases hdc : d = c
    · subst hdc
      simp at hd
    · simp only [Function.update_of_ne hdc] at hd
      exact absurd (Option.some.inj (((hq.inside d).1 (inside_of_readied hd)).symm.trans hl)) hdc
  | call c _ | created c | createFailed c _ | spurious c =>
    simp only [Clock.step, stepCall_eq_some, stepCreated_eq_some, stepCreateFailed_eq_some, stepSpurious_eq_some] at hstep
    obtain ⟨hpc, rfl⟩ := hstep
    exact h.of_caller rfl rfl (by simp [hpc])

end Clock

open Clock

/-- In every run of the threads, on a device whose clock fields hold anything and whatever fails, no two callers are between
the lock operations on `tfa_lock` at a time; and when the vendor's `tfa_enable` is called to enable the amplifier, `a1` in the
handle is zero. -/
theorem handle_cleared (s : Clock) (hs : s.Fresh) (es : List ClockLabel) : clockSystem.Always s es (fun t =>
    (∀ c d, (t.src.caller c).pc.inside = true → (t.src.caller d).pc.inside = true → c = d) ∧
    ∀ c rc a1, t.label = .enabled c rc a1 → (t.src.caller c).on = true → t.src.a1 = 0) := by
  have hfresh : s.Queue ∧ s.Cleared := ⟨queue_of_fresh hs, fun c hc => by simp [hs.caller c] at hc⟩
  refine (Lts.Always.of_step (J := fun s => s.Queue ∧ s.Cleared) ?_ es hfresh).mono ?_
  · intro t ht h
    exact ⟨h.1.step (e := t.label) ht, h.2.step h.1 (e := t.label) ht⟩
  · intro t ht
    obtain ⟨hsteps, ⟨hq, hcleared⟩, -⟩ := ht
    constructor
    · intro c d hc hd
      exact Option.some.inj (((hq.inside c).1 hc).symm.trans ((hq.inside d).1 hd))
    · intro c rc a1 he hon
      refine hcleared c ?_
      have hstep : t.src.step t.label = some t.dst := hsteps
      rw [he] at hstep
      simp [(stepEnabled_eq_some.1 hstep).1, hon]

/-- Two sessions: the vendor leaves a value in the handle at the end of the first, and the second finds it clear. -/
theorem handle_cleared_twice :
    (∃ u, clockSystem.run (.raw true false true 7 5) (.call 0 true :: enterSession 0 ++ .createFailed 0 7 ::
        List.replicate 4 (.caller 0) ++ .enabled 0 0 9 :: List.replicate 6 (.caller 0)) = some u ∧ u.a1 = 9) ∧
      clockSystem.Always (.raw true false true 7 5) (.call 0 true :: enterSession 0 ++ .createFailed 0 7 ::
        List.replicate 4 (.caller 0) ++ .enabled 0 0 9 :: List.replicate 6 (.caller 0) ++ .call 1 true :: enterSession 1 ++
        .createFailed 1 7 :: List.replicate 4 (.caller 1) ++ [.enabled 1 0 0])
        (fun t => ∀ c rc a1, t.label = .enabled c rc a1 → (t.src.caller c).on = true → t.src.a1 = 0) := by
  constructor
  · have hrun : (clockSystem.run (.raw true false true 7 5) (.call 0 true :: enterSession 0 ++ .createFailed 0 7 ::
        List.replicate 4 (.caller 0) ++ .enabled 0 0 9 :: List.replicate 6 (.caller 0))).map (fun u => u.a1) = some 9 := by
      decide +kernel
    exact Option.map_eq_some_iff.1 hrun
  · exact (handle_cleared _ (fresh_raw _ _ _ _ _) _).mono fun t ht => ht.2

end Universal7880
