import Universal7880.ClockOpen
import Universal7880.Lemmas.ClockQueue
import Universal7880.Work
import Mathlib.Algebra.Order.BigOperators.Group.Finset

/-!
# The work of the clock threads

Each statement of `tfa_power` and of `write_dummy_data` leaves less to do than there was before it, except in three ways: a
caller arrives, a caller wakes up without a signal, and a writer goes round its loop again. `Clock.work` counts what is left,
each thread's share including what it will cause others to do, and `work_step` says so, whatever `malloc` has left in the clock
fields and whatever fails.
-/

namespace Universal7880

/-- What a caller has left to do: its own statements, and from `lockTfa` to `createThread` also those of its writer. Awake at
the condition variable it has more to do than asleep. -/
def CallerPc.work : CallerPc → ℕ
  | .idle => 0
  | .unlockTfa => 1
  | .clearClock => 2
  | .join => 3
  | .clearInitializing => 4
  | .clockOff => 5
  | .testClock => 6
  | .enable => 7
  | .setClock => 8
  | .unlockMutex => 9
  | .blocked => 10
  | .condWait => 11
  | .testWriting => 12
  | .lockMutex | .woken => 13
  | .createThread => 29
  | .setInitializing => 30
  | .checkClock => 31
  | .resetHandle => 32
  | .lockTfa => 33

/-- What a writer has left to do if it is not sent round its loop, with what its signal will make a caller do. -/
def Writer.work (t : Writer) : ℕ :=
  match t.pc with
  | .absent | .done => 0
  | .pcmOpen => 15
  | .calloc => 14
  | .pcmWrite => if t.signaled then 5 else 12
  | .lockMutex => 11
  | .setWriting => 10
  | .signal => 9
  | .unlockMutex => 5
  | .testInitializing => 4
  | .clearWriting => 3
  | .closePcm => if t.signaled then 2 else 13
  | .exitTest => if t.signaled then 1 else 12

theorem CallerPc.work_le (pc : CallerPc) : pc.work ≤ 33 := by
  cases pc <;> decide

theorem Writer.work_le (t : Writer) : t.work ≤ 15 := by
  unfold Writer.work
  split <;> first | omega | (split <;> omega)

/-- A writer that is not live has nothing left to do. -/
theorem Writer.work_of_not_live {t : Writer} (h : t.live = false) : t.work = 0 := by
  unfold Writer.work
  cases hpc : t.pc with
  | absent | done => rfl
  | _ => simp [Writer.live, hpc] at h

namespace Clock

/-- What the given callers and all writers have left to do. -/
def work (callers : Finset CallerId) (s : Clock) : ℕ :=
  ∑ c ∈ callers, (s.caller c).pc.work + ∑ w ∈ Finset.range s.created, (s.writer w).work

/-- A thread calls `tfa_power`. -/
def arrives (t : Lts.Transition Clock ClockLabel) : Bool := t.label.calls

/-- A caller wakes up without a signal. -/
def wakesSpuriously (t : Lts.Transition Clock ClockLabel) : Bool :=
  match t.label with
  | .spurious _ => true
  | _ => false

/-- A writer finds `initializing` set at the end of its loop, and goes round again. -/
def loopsAgain (t : Lts.Transition Clock ClockLabel) : Bool :=
  match t.label with
  | .writer w _ => (t.src.writer w).pc == .testInitializing && t.src.initializing
  | _ => false

/-- The work that a step brings, with the step itself. -/
def credit (t : Lts.Transition Clock ClockLabel) : ℕ :=
  34 * (arrives t).toNat + 4 * (wakesSpuriously t).toNat + 2 * (loopsAgain t).toNat

/-! ## One thread at a time -/

section Steps

variable {s s' : Clock} {callers : Finset CallerId} {c : CallerId}

/-- A step of one caller, that is counted, and of no writer, that leaves the caller less to do up to a credit. -/
theorem work_of_caller {k : Caller} {n : ℕ} (hc : c ∈ callers) (hcaller : s'.caller = Function.update s.caller c k)
    (hwriter : s'.writer = s.writer) (hcreated : s'.created = s.created)
    (hless : k.pc.work + 1 ≤ (s.caller c).pc.work + n) : s'.work callers + 1 ≤ s.work callers + n := by
  have hsum : ∑ d ∈ callers, (Function.update s.caller c k d).pc.work + 1 ≤ ∑ d ∈ callers, (s.caller d).pc.work + n :=
    Work.sum_update_add_one_le callers s.caller (fun k => k.pc.work) hc hless
  simp only [work, hcaller, hwriter, hcreated]
  omega

/-- A statement of a caller leaves it less to do. -/
theorem work_stepCaller (hc : c ∈ callers) (hstep : s.stepCaller c = some s') : s'.work callers + 1 ≤ s.work callers := by
  obtain ⟨s₁, pc, rfl, hcaller, hwriter, hcreated, -, -⟩ := stepCaller_goto hstep
  refine work_of_caller (n := 0) (k := { s.caller c with pc }) hc (by rw [caller_goto, hcaller]) hwriter hcreated ?_
  have hless : ((s₁.goto c pc).caller c).pc.work < (s.caller c).pc.work := by
    unfold stepCaller at hstep
    cases hpc : (s.caller c).pc
    all_goals
      simp only [hpc] at hstep
      try split at hstep
      all_goals simp only [Option.some.injEq, reduceCtorEq] at hstep
    case lockTfa.isTrue =>
      rw [← hstep]
      cases (s.caller c).on <;> simp [CallerPc.work]
    all_goals
      rw [← hstep]
      simp [CallerPc.work]
  simpa [Nat.add_one_le_iff] using hless

/-- A signal makes a caller do at most three statements more. -/
theorem work_wakeOne (h : s.Queue) : s.wakeOne.work callers ≤ s.work callers + 3 := by
  cases hq : s.cond with
  | nil => simp [Clock.wakeOne, hq]
  | cons d rest =>
    have hwake : s.wakeOne = { s with cond := rest }.goto d .woken := by simp [Clock.wakeOne, hq]
    have hpc : (s.caller d).pc = .blocked := (h.asleep d).2 (by simp [hq])
    rw [hwake]
    by_cases hd : d ∈ callers
    · have hwork : ({ s with cond := rest }.goto d .woken).work callers + 1 ≤ s.work callers + 4 :=
        work_of_caller hd rfl rfl rfl (by simp [hpc, CallerPc.work])
      omega
    · have hsum : ∑ c ∈ callers, (Function.update s.caller d { s.caller d with pc := .woken } c).pc.work =
          ∑ c ∈ callers, (s.caller c).pc.work := Work.sum_update_of_not_mem callers s.caller (fun k => k.pc.work) hd _
      simp only [work, caller_goto, writer_goto, created_goto, hsum]
      omega

/-- A statement of one writer, and of no caller, that leaves the writer less to do up to a credit. -/
theorem work_setWriter {w : WriterId} {t : Writer} {n : ℕ} (hw : w < s.created) (hcaller : s'.caller = s.caller)
    (hwriter : s'.writer = Function.update s.writer w t) (hcreated : s'.created = s.created)
    (hless : t.work + 1 ≤ (s.writer w).work + n) : s'.work callers + 1 ≤ s.work callers + n := by
  have hsum := Work.sum_update_add_one_le (Finset.range s.created) s.writer Writer.work (Finset.mem_range.2 hw) hless
  simp only [work, hcaller, hwriter, hcreated]
  omega

/-- A statement of a writer leaves less to do, unless it goes round its loop again. -/
theorem work_stepWriter {w : WriterId} {outcome : Outcome} (h : s.Queue) (hstep : s.stepWriter w outcome = some s') :
    s'.work callers + 1 ≤ s.work callers + credit ⟨s, .writer w outcome, s'⟩ := by
  have hlt : w < s.created := by
    by_contra hge
    have hlive := live_of_stepWriter hstep
    simp [Writer.live, h.absent w (Nat.le_of_not_lt hge)] at hlive
  have hlooping := h.looping w
  unfold stepWriter at hstep
  obtain ⟨t, ht⟩ : ∃ t, s.writer w = t := ⟨_, rfl⟩
  rw [ht] at hstep hlooping
  obtain ⟨pc, signaled, gaveUp, writes, hasSignalled⟩ := t
  cases pc <;> simp only [Option.some.injEq, reduceCtorEq] at hstep
  case signal =>
    -- the caller that the signal wakes is paid for by the writer
    subst hstep
    have hsum : ∑ v ∈ Finset.range s.created, (Function.update s.writer w
          { pc := .unlockMutex, signaled, gaveUp, writes, hasSignalled := true } v).work + 9 =
        ∑ v ∈ Finset.range s.created, (s.writer v).work + 5 := by
      have := Work.sum_update (Finset.range s.created) s.writer Writer.work (Finset.mem_range.2 hlt)
        { pc := .unlockMutex, signaled, gaveUp, writes, hasSignalled := true }
      rwa [ht] at this
    have hwake : s.wakeOne.work callers ≤ s.work callers + 3 := work_wakeOne h
    simp only [work, caller_setWriter, writer_setWriter, created_setWriter, writer_wakeOne, created_wakeOne] at hwake ⊢
    omega
  case testInitializing =>
    subst hstep
    refine work_setWriter hlt rfl rfl rfl ?_
    have hsignaled : signaled = true := hlooping (Or.inl rfl)
    cases hi : s.initializing <;> simp [Writer.work, credit, loopsAgain, arrives, ClockLabel.calls, wakesSpuriously, hi, ht,
      hsignaled]
  case pcmOpen =>
    cases outcome <;> simp only [Option.some.injEq] at hstep <;> subst hstep
    all_goals
      refine work_setWriter hlt rfl rfl rfl ?_
      rw [ht]
      cases signaled <;> simp [Writer.work] <;> omega
  case calloc | lockMutex =>
    split at hstep <;> simp only [Option.some.injEq, reduceCtorEq] at hstep
    all_goals
      subst hstep
      refine work_setWriter hlt rfl rfl rfl ?_
      rw [ht]
      cases signaled <;> simp [Writer.work] <;> omega
  case unlockMutex =>
    subst hstep
    refine work_setWriter hlt rfl rfl rfl ?_
    rw [ht]
    cases gaveUp with
    | true =>
      simp only [Writer.work, if_true]
      omega
    | false => simp [Writer.work]
  case clearWriting =>
    subst hstep
    refine work_setWriter hlt rfl rfl rfl ?_
    have hsignaled : signaled = true := hlooping (Or.inr rfl)
    rw [ht]
    simp [Writer.work, hsignaled]
  all_goals
    subst hstep
    refine work_setWriter hlt rfl rfl rfl ?_
    rw [ht]
    cases signaled <;> simp [Writer.work]

/-- Every step leaves less to do, up to its credit, when the caller that it moves is counted. -/
theorem Queue.work_step {e : ClockLabel} (h : s.Queue) (hstep : s.step e = some s')
    (hc : ∀ c, e.thread = some c → c ∈ callers) : s'.work callers + 1 ≤ s.work callers + credit ⟨s, e, s'⟩ := by
  cases e with
  | writer w outcome => exact work_stepWriter h hstep
  | caller c => exact (work_stepCaller (hc c rfl) hstep).trans (Nat.le_add_right _ _)
  | created c =>
    obtain ⟨hpc, rfl⟩ := stepCreated_eq_some.1 hstep
    have hcallers : ∑ d ∈ callers, (Function.update s.caller c
          { s.caller c with pc := .lockMutex, mine := some s.created } d).pc.work + 29 =
        ∑ d ∈ callers, (s.caller d).pc.work + 13 := by
      have := Work.sum_update callers s.caller (fun k => k.pc.work) (hc c rfl)
        { s.caller c with pc := .lockMutex, mine := some s.created }
      rwa [hpc] at this
    have hwriters : ∑ w ∈ Finset.range (s.created + 1), (Function.update s.writer s.created { pc := .pcmOpen } w).work =
        ∑ w ∈ Finset.range s.created, (s.writer w).work + 15 := by
      rw [Finset.sum_range_succ, Function.update_self, Work.sum_update_of_not_mem _ _ _ (by simp)]
      rfl
    simp only [work] at hcallers ⊢
    omega
  | call c on | createFailed c left | enabled c rc a1 | spurious c =>
    simp only [Clock.step, stepCall_eq_some, stepCreateFailed_eq_some, stepEnabled_eq_some, stepSpurious_eq_some] at hstep
    obtain ⟨hpc, rfl⟩ := hstep
    refine work_of_caller (hc c rfl) rfl rfl rfl ?_
    simp [hpc, CallerPc.work, credit, arrives, ClockLabel.calls, wakesSpuriously, loopsAgain]

end Steps

end Clock
end Universal7880
