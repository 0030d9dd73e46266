import Universal7880.Lemmas.ClockEffect

/-!
# What no failure breaks

The invariant of the handshake begins with a clock that is off and survives a failed `pthread_create` only while `writing` is
clear. `Clock.Queue` needs neither: it holds in every run of the threads, whatever `malloc` has left in the clock fields and
whatever fails (`queue_step`). It says that `tfa_lock` excludes the callers from one another, and who is asleep at the
condition variable.
-/

namespace Universal7880
namespace Clock

/-- What holds of the threads in every run. -/
structure Queue (s : Clock) : Prop where
  inside : ∀ c, (s.caller c).pc.inside = true ↔ s.tfaLock = some c
  asleep : ∀ c, (s.caller c).pc = .blocked ↔ c ∈ s.cond
  once : s.cond.Nodup
  absent : ∀ w, s.created ≤ w → (s.writer w).pc = .absent
  looping : ∀ w, (s.writer w).pc = .testInitializing ∨ (s.writer w).pc = .clearWriting → (s.writer w).signaled = true

theorem queue_of_fresh {s : Clock} (h : s.Fresh) : s.Queue where
  inside := by simp [h.caller, h.tfaLock]
  asleep := by simp [h.caller, h.cond]
  once := by simp [h.cond]
  absent := by simp [h.writer]
  looping := by simp [h.writer]

/-! ## The callers -/

/-- A step of one caller: `k` is what becomes of it. -/
theorem Queue.of_caller {s s' : Clock} {c : CallerId} {k : Caller} (h : s.Queue)
    (hcaller : s'.caller = Function.update s.caller c k)
    (hlock : ∀ d, d ≠ c → (s'.tfaLock = some d ↔ s.tfaLock = some d)) (hin : k.pc.inside = true ↔ s'.tfaLock = some c)
    (hcond : ∀ d, d ≠ c → (d ∈ s'.cond ↔ d ∈ s.cond)) (hasleep : k.pc = .blocked ↔ c ∈ s'.cond) (honce : s'.cond.Nodup)
    (habsent : ∀ w, s'.created ≤ w → (s'.writer w).pc = .absent)
    (hlooping : ∀ w, (s'.writer w).pc = .testInitializing ∨ (s'.writer w).pc = .clearWriting →
      (s'.writer w).signaled = true) : s'.Queue where
  inside d := by
    rw [hcaller]
    by_cases hd : d = c
    · subst hd
      rw [Function.update_self]
      exact hin
    · rw [Function.update_of_ne hd, h.inside, hlock d hd]
  asleep d := by
    rw [hcaller]
    by_cases hd : d = c
    · subst hd
      rw [Function.update_self]
      exact hasleep
    · rw [Function.update_of_ne hd, h.asleep, hcond d hd]
  once := honce
  absent := habsent
  looping := hlooping

/-- A step of a caller that stays on its side of the lock, and is asleep neither before nor after. -/
theorem Queue.stay {s s' : Clock} {c : CallerId} {k : Caller} (h : s.Queue)
    (hcaller : s'.caller = Function.update s.caller c k) (hlock : s'.tfaLock = s.tfaLock) (hcond : s'.cond = s.cond)
    (hcreated : s'.created = s.created) (hwriter : s'.writer = s.writer)
    (hin : k.pc.inside = (s.caller c).pc.inside) (hbefore : (s.caller c).pc ≠ .blocked) (hafter : k.pc ≠ .blocked) :
    s'.Queue := by
  refine h.of_caller hcaller (fun d _ => by rw [hlock]) ?_ (fun d _ => by rw [hcond]) ?_ (hcond ▸ h.once) ?_ ?_
  · rw [hin, hlock]
    exact h.inside c
  · rw [hcond]
    exact iff_of_false hafter (fun hm => hbefore ((h.asleep c).2 hm))
  · rw [hcreated, hwriter]
    exact h.absent
  · rw [hwriter]
    exact h.looping

theorem Queue.stepCaller {s s' : Clock} {c : CallerId} (h : s.Queue) (hstep : s.stepCaller c = some s') : s'.Queue := by
  unfold Clock.stepCaller at hstep
  cases hpc : (s.caller c).pc
  all_goals
    simp only [hpc] at hstep
    try split at hstep
    all_goals simp only [Option.some.injEq, reduceCtorEq] at hstep
  case lockTfa.isTrue hfree =>
    subst hstep
    have hnot : c ∉ s.cond := fun hm => by simp [(h.asleep c).2 hm] at hpc
    refine h.of_caller rfl (fun d hd => ?_) ?_ (fun d _ => Iff.rfl) ?_ h.once h.absent h.looping
    · simp [hfree, Ne.symm hd]
    · cases (s.caller c).on <;> simp
    · cases (s.caller c).on <;> simp [hnot]
  case condWait =>
    subst hstep
    have hnot : c ∉ s.cond := fun hm => by simp [(h.asleep c).2 hm] at hpc
    have hin := h.inside c
    refine h.of_caller rfl (fun d _ => Iff.rfl) (by simpa [hpc] using hin) (fun d hd => by simp [hd]) (by simp) ?_ h.absent
      h.looping
    simpa [List.nodup_append, hnot] using ⟨h.once, fun a ha => fun he => hnot (he ▸ ha)⟩
  case unlockTfa =>
    subst hstep
    have hin := (h.inside c).1 (by rw [hpc]; rfl)
    have hnot : c ∉ s.cond := fun hm => by simp [(h.asleep c).2 hm] at hpc
    exact h.of_caller rfl (fun d hd => by simp [hin, Ne.symm hd]) (by simp) (fun d _ => Iff.rfl) (by simp [hnot]) h.once
      h.absent h.looping
  all_goals
    subst hstep
    refine h.stay rfl rfl rfl rfl rfl ?_ (by simp [hpc]) ?_
    all_goals simp [hpc]

/-- A caller leaves its sleep, on its own or by a signal. -/
theorem Queue.wake {s : Clock} {c : CallerId} {rest : List CallerId} (h : s.Queue) (hpc : (s.caller c).pc = .blocked)
    (hrest : ∀ d, d ≠ c → (d ∈ rest ↔ d ∈ s.cond)) (hnot : c ∉ rest) (honce : rest.Nodup) :
    ({ s with cond := rest }.goto c .woken).Queue := by
  have hin := h.inside c
  exact h.of_caller rfl (fun d _ => Iff.rfl) (by simpa [hpc] using hin) hrest (by simp [hnot]) honce h.absent h.looping

theorem Queue.wakeOne {s : Clock} (h : s.Queue) : s.wakeOne.Queue := by
  unfold Clock.wakeOne
  cases hq : s.cond with
  | nil => exact h
  | cons c rest =>
    have honce := h.once
    rw [hq, List.nodup_cons] at honce
    refine h.wake ((h.asleep c).2 (by simp [hq])) ?_ honce.1 honce.2
    intro d hd
    simp [hq, hd]

/-! ## The writers -/

/-- A statement of a writer changes that writer only. -/
theorem Queue.setWriter {s s' : Clock} {w : WriterId} {t : Writer} (h : s.Queue) (hcaller : s'.caller = s.caller)
    (hlock : s'.tfaLock = s.tfaLock) (hcond : s'.cond = s.cond) (hcreated : s'.created = s.created)
    (hwriter : s'.writer = Function.update s.writer w t) (hpresent : (s.writer w).pc ≠ .absent)
    (hlooping : t.pc = .testInitializing ∨ t.pc = .clearWriting → t.signaled = true) : s'.Queue where
  inside c := by rw [hcaller, hlock]; exact h.inside c
  asleep c := by rw [hcaller, hcond]; exact h.asleep c
  once := hcond ▸ h.once
  absent v hv := by
    rw [hcreated] at hv
    have hne : v ≠ w := by
      rintro rfl
      exact hpresent (h.absent v hv)
    rw [hwriter, Function.update_of_ne hne]
    exact h.absent v hv
  looping v := by
    rw [hwriter]
    by_cases hv : v = w
    · subst hv
      rw [Function.update_self]
      exact hlooping
    · rw [Function.update_of_ne hv]
      exact h.looping v

theorem Queue.stepWriter {s s' : Clock} {w : WriterId} {outcome : Outcome} (h : s.Queue)
    (hstep : s.stepWriter w outcome = some s') : s'.Queue := by
  have hlive := live_of_stepWriter hstep
  have hpresent : (s.writer w).pc ≠ .absent := by
    intro hpc
    simp [Writer.live, hpc] at hlive
  have hlooping := h.looping w
  unfold Clock.stepWriter at hstep
  obtain ⟨t, ht⟩ : ∃ t, s.writer w = t := ⟨_, rfl⟩
  rw [ht] at hstep hlooping
  obtain ⟨pc, signaled, gaveUp, writes, hasSignalled⟩ := t
  cases pc
  case signal =>
    simp only [Option.some.injEq] at hstep
    subst hstep
    exact h.wakeOne.setWriter rfl rfl rfl rfl rfl (by rw [writer_wakeOne]; exact hpresent) (by simp)
  all_goals
    simp only [reduceCtorEq] at hstep
    try split at hstep
    all_goals simp only [Option.some.injEq, reduceCtorEq] at hstep
  all_goals
    subst hstep
    refine h.setWriter rfl rfl rfl rfl rfl hpresent ?_
    simp_all

/-! ## Runs -/

/-- The new writer takes the next number. -/
theorem Queue.stepCreated {s s' : Clock} {c : CallerId} (h : s.Queue) (hstep : s.stepCreated c = some s') : s'.Queue := by
  obtain ⟨hpc, rfl⟩ := stepCreated_eq_some.1 hstep
  have hnot : c ∉ s.cond := fun hm => by simp [(h.asleep c).2 hm] at hpc
  have hin := h.inside c
  refine h.of_caller rfl (fun d _ => Iff.rfl) (by simpa [hpc] using hin) (fun d _ => Iff.rfl) (by simp [hnot]) h.once ?_ ?_
  · intro w hw
    have hlt : s.created < w := hw
    simp only [Function.update_of_ne (Nat.ne_of_gt hlt)]
    exact h.absent w hlt.le
  · intro w
    by_cases hw : w = s.created
    · simp [hw]
    · simp only [Function.update_of_ne hw]
      exact h.looping w

/-- Every step of the threads, whatever fails in it, keeps the queue. -/
theorem Queue.step {s s' : Clock} {e : ClockLabel} (h : s.Queue) (hstep : s.step e = some s') : s'.Queue := by
  cases e with
  | caller c => exact h.stepCaller hstep
  | writer w outcome => exact h.stepWriter hstep
  | created c => exact h.stepCreated hstep
  | call c on =>
    obtain ⟨hpc, rfl⟩ := stepCall_eq_some.1 hstep
    exact h.stay rfl rfl rfl rfl rfl (by simp [hpc]) (by simp [hpc]) (by simp)
  | createFailed c left =>
    obtain ⟨hpc, rfl⟩ := stepCreateFailed_eq_some.1 hstep
    exact h.stay rfl rfl rfl rfl rfl (by simp [hpc]) (by simp [hpc]) (by simp)
  | enabled c rc a1 =>
    obtain ⟨hpc, rfl⟩ := stepEnabled_eq_some.1 hstep
    exact h.stay rfl rfl rfl rfl rfl (by simp [hpc]) (by simp [hpc]) (by simp)
  | spurious c =>
    obtain ⟨hpc, rfl⟩ := stepSpurious_eq_some.1 hstep
    have herase := fun d => h.once.mem_erase_iff (a := d) (b := c)
    exact h.wake hpc (fun d hd => by simp [herase, hd]) (by simp [herase]) (h.once.erase c)

end Clock
end Universal7880
