import Universal7880.Lemmas.ClockWriter

/-!
# What one step of the handshake can change

Effect lemmas for the runs: which callers a step moves, which fields of the writers it touches, and which way the flags of
a writer can go. The invariants that follow need no more of the steps than these.
-/

namespace Universal7880

/-- The caller a label moves; a writer's statement moves none, though its signal may wake one. -/
def ClockLabel.thread : ClockLabel → Option CallerId
  | .call c _ | .caller c | .created c | .createFailed c _ | .enabled c _ _ | .spurious c => some c
  | .writer _ _ => none

/-- The label is one of a writer, or starts one. -/
def ClockLabel.touchesWriters : ClockLabel → Bool
  | .writer _ _ | .created _ => true
  | _ => false

namespace Clock

/-! ## The callers -/

/-- A statement of a caller moves that caller on, and leaves the writers, `writing` and the calls of the vendor alone. -/
theorem stepCaller_goto {s s' : Clock} {c : CallerId} (hstep : s.stepCaller c = some s') :
    ∃ (s₁ : Clock) (pc : CallerPc), s' = s₁.goto c pc ∧ s₁.caller = s.caller ∧ s₁.writer = s.writer ∧
      s₁.created = s.created ∧ s₁.writing = s.writing ∧ s₁.calls = s.calls := by
  unfold stepCaller at hstep
  cases hpc : (s.caller c).pc <;> simp only [hpc] at hstep
  all_goals try split at hstep
  all_goals simp only [Option.some.injEq, reduceCtorEq] at hstep
  all_goals exact ⟨_, _, hstep.symm, rfl, rfl, rfl, rfl, rfl⟩

/-- A caller's step leaves the other callers alone. -/
theorem caller_of_step {s s' : Clock} {e : ClockLabel} {c : CallerId} (hstep : s.step e = some s') (he : e.thread = some c)
    {d : CallerId} (hd : d ≠ c) : s'.caller d = s.caller d := by
  cases e with
  | caller c' =>
    obtain rfl : c' = c := Option.some.inj he
    obtain ⟨s₁, pc, rfl, hcaller, -⟩ := stepCaller_goto hstep
    rw [caller_goto, Function.update_of_ne hd, hcaller]
  | writer w outcome => cases he
  | call c' _ | created c' | createFailed c' _ | enabled c' _ _ | spurious c' =>
    obtain rfl : c' = c := Option.some.inj he
    simp only [Clock.step, stepCall_eq_some, stepCreated_eq_some, stepCreateFailed_eq_some, stepEnabled_eq_some,
      stepSpurious_eq_some] at hstep
    obtain ⟨-, rfl⟩ := hstep
    exact Function.update_of_ne hd _ _

/-- A signal leaves a caller alone, or wakes it. -/
theorem Inv.caller_wakeOne {s : Clock} (h : s.Inv) (c : CallerId) :
    s.wakeOne.caller c = s.caller c ∨
      (s.caller c).pc = .blocked ∧ s.wakeOne.caller c = { s.caller c with pc := .woken } := by
  have hcond := h.core.cond
  cases hq : s.cond with
  | nil => exact Or.inl (by simp [Clock.wakeOne, hq])
  | cons d rest =>
    have hw : s.wakeOne = { s with cond := rest }.goto d .woken := by simp [Clock.wakeOne, hq]
    rw [hw]
    by_cases hcd : c = d
    · subst hcd
      -- the caller in the queue is the active one, asleep
      refine Or.inr ⟨?_, by simp⟩
      rw [hq] at hcond
      split at hcond
      case isFalse => cases hcond
      case isTrue hb =>
        cases hl : s.tfaLock with
        | none => rw [hl] at hcond; cases hcond
        | some d =>
          rw [hl] at hcond
          obtain ⟨rfl, -⟩ : c = d ∧ rest = [] := by simpa using hcond
          rwa [active_of_some hl] at hb
    · exact Or.inl (Function.update_of_ne hcd _ _)

/-- Outside a session the inner mutex is free. -/
theorem Core.mutex_free {s : Clock} {k : Caller} (h : s.Core k) (hin : k.inSession = false) : s.mutex = none := by
  cases hm : s.mutex with
  | none => rfl
  | some o =>
    cases o with
    | writer v => exact absurd hm ((h.rest hin).2 v)
    | caller d =>
      have hheld := ((h.held d).1 hm).2
      obtain ⟨pc, on, rc, mine⟩ := k
      cases pc <;> simp_all

/-! ## The writers -/

/-- Only the statements of a writer and the creation of one touch the writers and `writing`. -/
theorem writers_of_step {s s' : Clock} {e : ClockLabel} (hstep : s.step e = some s') (he : e.touchesWriters = false) :
    s'.writer = s.writer ∧ s'.created = s.created ∧ s'.writing = s.writing := by
  cases e with
  | caller c =>
    obtain ⟨s₁, pc, rfl, -, hwriter, hcreated, hwriting, -⟩ := stepCaller_goto hstep
    exact ⟨hwriter, hcreated, hwriting⟩
  | writer w outcome => cases he
  | created c => cases he
  | call c _ | createFailed c _ | enabled c _ _ | spurious c =>
    simp only [Clock.step, stepCall_eq_some, stepCreateFailed_eq_some, stepEnabled_eq_some, stepSpurious_eq_some] at hstep
    obtain ⟨-, rfl⟩ := hstep
    exact ⟨rfl, rfl, rfl⟩

/-- A statement of a writer changes that writer only, except that its signal may wake a caller. What the writer has
signalled or posted stays so, and it is the one that posts when it sets `writing`. -/
theorem writer_of_step {s s' : Clock} {w : WriterId} {outcome : Outcome} (hstep : s.step (.writer w outcome) = some s') :
    ∃ (s₁ : Clock) (t : Writer), s' = s₁.setWriter w t ∧ (s₁.caller = s.caller ∨ s₁.caller = s.wakeOne.caller) ∧
      s₁.writer = s.writer ∧ s₁.created = s.created ∧ s₁.tfaLock = s.tfaLock ∧ s₁.calls = s.calls ∧ s₁.returns = s.returns ∧
      ((s.writer w).hasSignalled = true → t.hasSignalled = true) ∧ ((s.writer w).posted = true → t.posted = true) ∧
      (s₁.writing = true → s.writing = true ∨ t.posted = true) := by
  simp only [Clock.step, stepWriter] at hstep
  obtain ⟨t, ht⟩ : ∃ t, s.writer w = t := ⟨_, rfl⟩
  rw [ht] at hstep ⊢
  obtain ⟨pc, signaled, gaveUp, writes, hasSignalled⟩ := t
  cases pc <;> simp only [reduceCtorEq] at hstep
  all_goals try split at hstep
  all_goals simp only [Option.some.injEq, reduceCtorEq] at hstep
  case signal =>
    exact ⟨_, _, hstep.symm, Or.inr rfl, writer_wakeOne s, created_wakeOne s, tfaLock_wakeOne s, calls_wakeOne s,
      returns_wakeOne s, fun _ => rfl, fun _ => rfl, fun h => Or.inl ((writing_wakeOne s).symm.trans h)⟩
  all_goals
    refine ⟨_, _, hstep.symm, Or.inl rfl, rfl, rfl, rfl, rfl, rfl, ?_, ?_, ?_⟩
    all_goals first | exact id | exact Or.inl | grind [Writer.posted]

/-- A statement of a writer leaves a caller alone, or wakes it. -/
theorem Inv.caller_of_writer {s s' : Clock} {w : WriterId} {outcome : Outcome} (hi : s.Inv)
    (hstep : s.step (.writer w outcome) = some s') (c : CallerId) :
    s'.caller c = s.caller c ∨ (s.caller c).pc = .blocked ∧ s'.caller c = { s.caller c with pc := .woken } := by
  obtain ⟨s₁, t, rfl, hcaller | hcaller, -⟩ := writer_of_step hstep
  · exact Or.inl (by rw [caller_setWriter, hcaller])
  · rw [caller_setWriter, hcaller]
    exact hi.caller_wakeOne c

/-- A schedule in which no creation fails is harmless. -/
theorem harmless_of_creates (s : Clock) {es : List ClockLabel} (h : ∀ e ∈ es, e.creates = true) :
    clockSystem.Always s es Harmless := by
  refine (Lts.Always.of_labels h).mono ?_
  intro t ht c left he
  rw [he] at ht
  cases ht

end Clock

/-! ## Pieces of schedules -/

/-- A device as `tfa_device_open` initialises it. -/
def Clock.powered : Clock := .raw false false false 0 0

theorem Clock.initialised_powered : Clock.powered.Initialised := ⟨fresh_raw _ _ _ _ _, rfl, rfl⟩

/-- A caller that has called `tfa_power(on)` comes to `pthread_create`. -/
def enterSession (c : CallerId) : List ClockLabel := List.replicate 4 (.caller c)

/-- It creates its writer and falls asleep before the writer runs. -/
def sleepSession (c : CallerId) : List ClockLabel := .created c :: List.replicate 3 (.caller c)

/-- It creates its writer, finds `writing` set, and enables the amplifier before the writer runs. -/
def hastySession (c : CallerId) : List ClockLabel := .created c :: List.replicate 4 (.caller c) ++ [.enabled c 0 0]

/-- A caller that was woken enables the amplifier and comes to `pthread_join`. -/
def enableSession (c : CallerId) : List ClockLabel :=
  List.replicate 4 (.caller c) ++ .enabled c 0 0 :: List.replicate 3 (.caller c)

/-- A caller joins its writer and returns. -/
def leaveSession (c : CallerId) : List ClockLabel := List.replicate 3 (.caller c)

/-- A writer writes, signals, and finds `initializing` still set. -/
def writeOnce (w : WriterId) : List ClockLabel := List.replicate 8 (.writer w .ok)

/-- A writer writes again, finds `initializing` cleared, and returns. -/
def stopWriting (w : WriterId) : List ClockLabel := List.replicate 5 (.writer w .ok)

/-- A writer finds the device busy, gives up, signals and returns. -/
def giveUp (w : WriterId) : List ClockLabel := .writer w .busy :: List.replicate 5 (.writer w .ok)

/-- A whole session of a caller and its writer, from the call of `tfa_power(on)` to its return. -/
def session (c : CallerId) (w : WriterId) : List ClockLabel :=
  enterSession c ++ sleepSession c ++ writeOnce w ++ enableSession c ++ stopWriting w ++ leaveSession c

/-- The same session, when the writer gives up. -/
def busySession (c : CallerId) (w : WriterId) : List ClockLabel :=
  enterSession c ++ sleepSession c ++ giveUp w ++ enableSession c ++ leaveSession c

/-- A call of `tfa_power(off)` on a device whose clock is off, up to its return. -/
def powerdown (c : CallerId) : List ClockLabel := [.caller c, .enabled c 0 0, .caller c, .caller c]

end Universal7880
