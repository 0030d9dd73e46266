import Universal7880.Lemmas.ClockInvariant

/-!
# The callers keep the invariant of the handshake

Only the caller that holds `tfa_lock` changes anything but its own place in the queue for that lock. `Core.idleMove` and
`Core.sessionMove` say what one of its statements owes, outside a session and within one; `Inv.of_holder` carries the core
of the holder to the whole state. Below them there is one case for each statement of `tfa_power`, `tfa_clock_on` and
`tfa_clock_off`.
-/

namespace Universal7880
namespace Clock

/-! ## Moves of the active caller -/

/-- The step leaves `writing` and everything about the writers alone. -/
structure SameWriters (s s' : Clock) : Prop where
  writing : s'.writing = s.writing
  writeThread : s'.writeThread = s.writeThread
  writer : s'.writer = s.writer
  created : s'.created = s.created
  joins : s'.joins = s.joins
  owner : ∀ v, s'.mutex = some (.writer v) ↔ s.mutex = some (.writer v)

theorem SameWriters.retired {s s' : Clock} (h : s.SameWriters s') {v : WriterId} (hv : s.Retired v) : s'.Retired v := by
  unfold Retired
  rw [h.writer, h.joins]
  exact hv

/-- A session goes on when its caller moves within it: the caller may not leave `pthread_join`, and may not go to sleep
once its writer has signalled. -/
theorem Session.move {s s' : Clock} {k k' : Caller} {w : WriterId} (h : s.Session k w) (hs : s.SameWriters s')
    (hmine : k'.mine = k.mine) (hinit : s'.initializing = true ↔ k'.pc ≠ .join) (hjoin : k.pc = .join → k'.pc = .join)
    (hasleep : k'.pc = .condWait ∨ k'.pc = .blocked → (s.writer w).hasSignalled = false) : s'.Session k' w where
  mine := hmine.trans h.mine
  thread := hs.writeThread.trans h.thread
  created := hs.created.trans h.created
  present := hs.writer ▸ h.present
  unjoined := hs.joins ▸ h.unjoined
  old v hv := hs.retired (h.old v hv)
  owner v := by rw [hs.owner, hs.writer]; exact h.owner v
  initializing := hinit
  stopped ht := hjoin (h.stopped (hs.writer ▸ ht))
  posted hp hne := by
    rw [hs.writing]
    exact h.posted (hs.writer ▸ hp) (fun hk => hne (hjoin hk))
  asleep hk := hs.writer ▸ hasleep hk

/-- A caller without a writer may move within the loop that waits. -/
theorem NoThread.move {s s' : Clock} {k k' : Caller} (h : s.NoThread k) (hs : s.SameWriters s') (hmine : k'.mine = k.mine)
    (hwaits : k'.pc.waits = true) : s'.NoThread k' where
  mine := hmine.trans h.mine
  waits := hwaits
  writing := hs.writing.trans h.writing
  old v hv := hs.retired (h.old v (hs.created ▸ hv))
  owner v := by rw [Ne, hs.owner]; exact h.owner v

/-- Outside a session a move only has to keep the flags in step with the program counter. -/
theorem Core.idleMove {s s' : Clock} {k k' : Caller} (h : s.Core k) (hs : s.SameWriters s') (hk : k.inSession = false)
    (hk' : k'.inSession = false) (hon : k'.pc.clockOn = true → k'.on = true) (hclock : s'.clockEnabled = k'.clocked)
    (hcond : s'.cond = if k'.pc = .blocked then s'.tfaLock.toList else [])
    (hheld : ∀ c, s'.mutex = some (.caller c) ↔ s'.tfaLock = some c ∧ k'.pc.holdsMutex = true)
    (hstart : k'.pc = .createThread → s'.initializing = true) (hmine : k'.pc.beforeCreate = true → k'.mine = none) :
    s'.Core k' where
  clockOn := hon
  clock := hclock
  cond := hcond
  held := hheld
  starting := hstart
  unborn := hmine
  rest _ := by
    obtain ⟨hold, hown⟩ := h.rest hk
    exact ⟨fun v hv => hs.retired (hold v (hs.created ▸ hv)), fun v => by rw [Ne, hs.owner]; exact hown v⟩
  session hs' := by rw [hk'] at hs'; cases hs'

/-- Within a session a move also has to satisfy the conditions of `Session.move` and `NoThread.move`. -/
theorem Core.sessionMove {s s' : Clock} {k k' : Caller} (h : s.Core k) (hs : s.SameWriters s') (hk : k.inSession = true)
    (hk' : k'.inSession = true) (hmine : k'.mine = k.mine) (hon : k'.on = true) (hclock : s'.clockEnabled = k'.clocked)
    (hcond : s'.cond = if k'.pc = .blocked then s'.tfaLock.toList else [])
    (hheld : ∀ c, s'.mutex = some (.caller c) ↔ s'.tfaLock = some c ∧ k'.pc.holdsMutex = true)
    (hinit : ∀ w, s.Session k w → (s'.initializing = true ↔ k'.pc ≠ .join)) (hjoin : k.pc = .join → k'.pc = .join)
    (hasleep : ∀ w, s.Session k w → k'.pc = .condWait ∨ k'.pc = .blocked → (s.writer w).hasSignalled = false)
    (hwaits : s.NoThread k → k'.pc.waits = true) : s'.Core k' where
  clockOn _ := hon
  clock := hclock
  cond := hcond
  held := hheld
  starting hp := by simp [hp] at hk'
  unborn hp := by
    obtain ⟨pc, on, rc, mine⟩ := k'
    cases pc <;> simp_all
  rest hr := by rw [hk'] at hr; cases hr
  session _ := by
    rcases h.session hk with hn | ⟨w, hw⟩
    · exact Or.inl (hn.move hs hmine (hwaits hn))
    · exact Or.inr ⟨w, hw.move hs hmine (hinit w hw) hjoin (hasleep w hw)⟩

/-- A move within a session that neither comes to `pthread_join` nor leaves it. -/
theorem Core.sessionStay {s s' : Clock} {k k' : Caller} (h : s.Core k) (hs : s.SameWriters s') (hk : k.inSession = true)
    (hk' : k'.inSession = true) (hmine : k'.mine = k.mine) (hon : k'.on = true) (hclock : s'.clockEnabled = k'.clocked)
    (hcond : s'.cond = if k'.pc = .blocked then s'.tfaLock.toList else [])
    (hheld : ∀ c, s'.mutex = some (.caller c) ↔ s'.tfaLock = some c ∧ k'.pc.holdsMutex = true)
    (hinit : s'.initializing = s.initializing) (hpc : k.pc ≠ .join) (hpc' : k'.pc ≠ .join)
    (hasleep : ∀ w, s.Session k w → k'.pc = .condWait ∨ k'.pc = .blocked → (s.writer w).hasSignalled = false)
    (hwaits : k.pc.waits = true → k'.pc.waits = true) : s'.Core k' := by
  refine h.sessionMove hs hk hk' hmine hon hclock hcond hheld ?_ ?_ hasleep (fun hn => hwaits hn.waits)
  · intro w hw
    rw [hinit]
    exact iff_of_true (hw.initializing.2 hpc) hpc'
  · intro hjoin
    exact absurd hjoin hpc

/-- A step of one caller: the other callers hold `tfa_lock` as before, and `k` is what becomes of the one that moves. -/
theorem Inv.of_caller {s s' : Clock} {c : CallerId} {k : Caller} (h : s.Inv)
    (hcaller : s'.caller = Function.update s.caller c k)
    (hother : ∀ d, d ≠ c → (s'.tfaLock = some d ↔ s.tfaLock = some d)) (hself : k.pc.inside = true ↔ s'.tfaLock = some c)
    (houtside : k.pc = .lockTfa → k.mine = none) (hborn : ∀ w, k.mine = some w → w < s'.created)
    (hcreated : s.created ≤ s'.created) (habsent : ∀ w, s'.created ≤ w → (s'.writer w).pc = .absent ∧ s'.joins w = 0)
    (hok : ∀ w, (s'.writer w).Ok) (hcore : s'.Core s'.active) : s'.Inv where
  inside d := by
    rw [hcaller]
    by_cases hd : d = c
    · subst hd
      rw [Function.update_self]
      exact hself
    · rw [Function.update_of_ne hd, h.inside, hother d hd]
  outside d := by
    rw [hcaller]
    by_cases hd : d = c
    · subst hd
      rw [Function.update_self]
      exact houtside
    · rw [Function.update_of_ne hd]
      exact h.outside d
  born d w := by
    rw [hcaller]
    by_cases hd : d = c
    · subst hd
      rw [Function.update_self]
      exact hborn w
    · rw [Function.update_of_ne hd]
      intro hm
      exact Nat.lt_of_lt_of_le (h.born d w hm) hcreated
  absent := habsent
  ok := hok
  core := hcore

/-- A step of the caller that holds `tfa_lock` and keeps it. -/
theorem Inv.of_holder {s s' : Clock} {c : CallerId} {k : Caller} (h : s.Inv) (hc : s.tfaLock = some c)
    (hc' : s'.tfaLock = some c) (hcaller : s'.caller = Function.update s.caller c k) (hin : k.pc.inside = true)
    (hborn : ∀ w, k.mine = some w → w < s'.created) (hcreated : s.created ≤ s'.created)
    (habsent : ∀ w, s'.created ≤ w → (s'.writer w).pc = .absent ∧ s'.joins w = 0) (hok : ∀ w, (s'.writer w).Ok)
    (hcore : s'.Core k) : s'.Inv := by
  refine h.of_caller hcaller (fun d _ => by rw [hc, hc']) (iff_of_true hin hc') ?_ hborn hcreated habsent hok ?_
  · intro hp
    rw [hp] at hin
    cases hin
  · rw [active_of_some hc', hcaller, Function.update_self]
    exact hcore

/-! ## The statements of the active caller -/

/-- The moves of a caller that holds `tfa_lock`, but for the join and the unlock. -/
theorem Core.stepCaller {s s' : Clock} {c : CallerId} (h : s.Core (s.caller c)) (hc : s.tfaLock = some c)
    (hin : (s.caller c).pc.inside = true) (hunlock : (s.caller c).pc ≠ .unlockTfa) (hjoin : (s.caller c).pc ≠ .join)
    (hstep : s.stepCaller c = some s') : s'.Core (s'.caller c) := by
  unfold Clock.stepCaller at hstep
  obtain ⟨k, hk⟩ : ∃ k, s.caller c = k := ⟨_, rfl⟩
  rw [hk] at h hin hstep hunlock hjoin
  obtain ⟨pc, on, rc, mine⟩ := k
  have hclock := h.clock
  have hcond := h.cond
  have same : s.SameWriters s := ⟨rfl, rfl, rfl, rfl, rfl, fun _ => Iff.rfl⟩
  cases pc <;> simp only [Option.some.injEq, reduceCtorEq] at hstep
  case lockTfa => cases hin
  case unlockTfa => exact absurd rfl hunlock
  case join => exact absurd rfl hjoin
  case resetHandle =>
    subst hstep
    simp only [caller_goto, Function.update_self, hk]
    exact h.idleMove ⟨rfl, rfl, rfl, rfl, rfl, same.owner⟩ rfl rfl h.clockOn h.clock h.cond h.held nofun h.unborn
  case checkClock =>
    -- the clock is off before a session, so the branch that returns -EBUSY is not taken
    simp only [Caller.clocked] at hclock
    rw [hclock] at hstep
    subst hstep
    simp only [caller_goto, Function.update_self, hk]
    exact h.idleMove ⟨rfl, rfl, rfl, rfl, rfl, same.owner⟩ rfl rfl h.clockOn h.clock h.cond h.held nofun h.unborn
  case setInitializing =>
    subst hstep
    simp only [caller_goto, Function.update_self, hk]
    exact h.idleMove ⟨rfl, rfl, rfl, rfl, rfl, same.owner⟩ rfl rfl h.clockOn h.clock h.cond h.held (fun _ => rfl)
      h.unborn
  case lockMutex | woken =>
    split at hstep
    case isFalse => cases hstep
    case isTrue hm =>
      simp only [Option.some.injEq] at hstep
      subst hstep
      simp only [caller_goto, Function.update_self, hk]
      exact h.sessionStay ⟨rfl, rfl, rfl, rfl, rfl, by simp [hm]⟩ rfl rfl rfl (h.clockOn rfl) h.clock h.cond
        (by simp [hc]) rfl nofun nofun nofun (fun _ => rfl)
  case testWriting =>
    cases hw : s.writing with
    | true =>
      rw [hw] at hstep
      subst hstep
      simp only [caller_goto, Function.update_self, hk]
      refine h.sessionMove ⟨rfl, rfl, rfl, rfl, rfl, same.owner⟩ rfl rfl rfl (h.clockOn rfl) h.clock h.cond h.held ?_ nofun
        nofun ?_
      · intro w hs
        exact iff_of_true (hs.initializing.2 nofun) nofun
      · -- a caller without a writer does not find `writing` set
        intro hn
        rw [hn.writing] at hw
        cases hw
    | false =>
      rw [hw] at hstep
      subst hstep
      simp only [caller_goto, Function.update_self, hk]
      refine h.sessionStay ⟨rfl, rfl, rfl, rfl, rfl, same.owner⟩ rfl rfl rfl (h.clockOn rfl) h.clock h.cond h.held
        rfl nofun nofun ?_ (fun _ => rfl)
      -- a writer that has signalled has set `writing`, which the caller has just read as false
      intro w hs _
      cases hg : (s.writer w).hasSignalled with
      | false => rfl
      | true =>
        have := hs.posted (by simp [hg]) nofun
        rw [hw] at this
        cases this
  case condWait =>
    subst hstep
    simp only [caller_goto, Function.update_self, hk]
    have hm : s.mutex = some (.caller c) := (h.held c).2 ⟨hc, rfl⟩
    exact h.sessionStay ⟨rfl, rfl, rfl, rfl, rfl, by simp [hm]⟩ rfl rfl rfl (h.clockOn rfl) h.clock
      (by simp [hcond, hc]) (by simp) rfl nofun nofun
      (fun w hs _ => hs.asleep (Or.inl rfl)) (fun _ => rfl)
  case unlockMutex =>
    subst hstep
    simp only [caller_goto, Function.update_self, hk]
    have hm : s.mutex = some (.caller c) := (h.held c).2 ⟨hc, rfl⟩
    exact h.sessionStay ⟨rfl, rfl, rfl, rfl, rfl, by simp [hm]⟩ rfl rfl rfl (h.clockOn rfl) h.clock h.cond
      (by simp) rfl nofun nofun nofun nofun
  case setClock =>
    subst hstep
    simp only [caller_goto, Function.update_self, hk]
    have hon : on = true := h.clockOn rfl
    exact h.sessionStay ⟨rfl, rfl, rfl, rfl, rfl, same.owner⟩ rfl hon rfl hon hon.symm h.cond h.held
      rfl nofun nofun nofun nofun
  case testClock =>
    simp only [Caller.clocked] at hclock
    rw [hclock] at hstep
    subst hstep
    simp only [caller_goto, Function.update_self, hk]
    cases on with
    | true =>
      exact h.sessionStay ⟨rfl, rfl, rfl, rfl, rfl, same.owner⟩ rfl rfl rfl rfl hclock h.cond h.held
        rfl nofun nofun nofun nofun
    | false =>
      exact h.idleMove ⟨rfl, rfl, rfl, rfl, rfl, same.owner⟩ rfl rfl nofun hclock h.cond h.held nofun nofun
  case clockOff =>
    simp only [Caller.clocked] at hclock
    rw [hclock] at hstep
    subst hstep
    simp only [caller_goto, Function.update_self, hk]
    exact h.sessionStay ⟨rfl, rfl, rfl, rfl, rfl, same.owner⟩ rfl rfl rfl (h.clockOn rfl) hclock h.cond h.held
      rfl nofun nofun nofun nofun
  case clearInitializing =>
    subst hstep
    simp only [caller_goto, Function.update_self, hk]
    refine h.sessionMove ⟨rfl, rfl, rfl, rfl, rfl, same.owner⟩ rfl rfl rfl (h.clockOn rfl) h.clock h.cond h.held ?_
      (fun _ => rfl) nofun ?_
    · intro w _
      exact iff_of_false nofun (fun hne => hne rfl)
    · intro hn
      exact absurd hn.waits (by simp)
  case clearClock =>
    subst hstep
    simp only [caller_goto, Function.update_self, hk]
    exact h.idleMove ⟨rfl, rfl, rfl, rfl, rfl, same.owner⟩ rfl rfl nofun rfl h.cond h.held nofun nofun

/-- The join ends the session: its writer has returned and is now joined once. -/
theorem Core.stepJoin {s s' : Clock} {c : CallerId} (h : s.Core (s.caller c)) (hpc : (s.caller c).pc = .join)
    (hstep : s.stepCaller c = some s') : s'.Core (s'.caller c) := by
  simp only [Clock.stepCaller, hpc] at hstep
  split at hstep
  case isTrue => cases hstep
  case isFalse hlive =>
    simp only [Option.some.injEq] at hstep
    subst hstep
    obtain ⟨k, hk⟩ : ∃ k, s.caller c = k := ⟨_, rfl⟩
    simp only [caller_goto, Function.update_self]
    rw [hk] at h hpc ⊢
    obtain ⟨pc, on, rc, mine⟩ := k
    subst hpc
    rcases h.session rfl with hn | ⟨w, hw⟩
    · exact absurd hn.waits (by simp)
    rw [hw.thread] at hlive ⊢
    have hdone : (s.writer w).pc = .done := by
      have := hw.present
      simp only [Writer.live, Bool.and_eq_true, bne_iff_ne, ne_eq, not_and, not_not] at hlive
      exact hlive this
    exact {
      clockOn := h.clockOn
      clock := h.clock
      cond := h.cond
      held := h.held
      starting := nofun
      unborn := nofun
      rest := by
        intro _
        constructor
        · intro v hv
          have hv' : v < w + 1 := hw.created ▸ hv
          simp only [Retired, writer_goto, joins_goto]
          by_cases hvw : v = w
          · subst hvw
            simp [hdone, hw.unjoined]
          · rw [Function.update_of_ne hvw]
            exact hw.old v (Nat.lt_of_le_of_ne (Nat.lt_succ_iff.1 hv') hvw)
        · intro v hv
          have := (hw.owner v).1 hv
          rw [hdone] at this
          cases this.2
      session := nofun }

/-- The vendor call returns. -/
theorem Core.stepEnabled {s s' : Clock} {c : CallerId} {rc a1 : Int} (h : s.Core (s.caller c))
    (hstep : s.stepEnabled c rc a1 = some s') : s'.Core (s'.caller c) := by
  obtain ⟨hpc, rfl⟩ := stepEnabled_eq_some.1 hstep
  obtain ⟨k, hk⟩ : ∃ k, s.caller c = k := ⟨_, rfl⟩
  rw [hk] at h hpc
  obtain ⟨pc, on, rc', mine⟩ := k
  subst hpc
  simp only [Function.update_self, hk]
  cases on with
  | true =>
    exact h.sessionStay ⟨rfl, rfl, rfl, rfl, rfl, fun _ => Iff.rfl⟩ rfl rfl rfl rfl h.clock h.cond h.held
      rfl nofun nofun nofun nofun
  | false =>
    exact h.idleMove ⟨rfl, rfl, rfl, rfl, rfl, fun _ => Iff.rfl⟩ rfl rfl nofun h.clock h.cond h.held nofun nofun

/-- The only caller asleep is the active one, so after a spurious wake-up the queue is empty. -/
theorem Core.stepSpurious {s s' : Clock} {c : CallerId} (h : s.Core (s.caller c)) (hc : s.tfaLock = some c)
    (hstep : s.stepSpurious c = some s') : s'.Core (s'.caller c) := by
  obtain ⟨hpc, rfl⟩ := stepSpurious_eq_some.1 hstep
  obtain ⟨k, hk⟩ : ∃ k, s.caller c = k := ⟨_, rfl⟩
  rw [hk] at h hpc
  obtain ⟨pc, on, rc', mine⟩ := k
  subst hpc
  have hcond := h.cond
  simp only [caller_goto, Function.update_self, hk]
  exact h.sessionStay ⟨rfl, rfl, rfl, rfl, rfl, fun _ => Iff.rfl⟩ rfl rfl rfl (h.clockOn rfl) h.clock
    (by simp [hcond, hc]) h.held rfl nofun nofun nofun (fun _ => rfl)

/-- A session begins with a writer that has not run yet. -/
theorem Core.stepCreated {s s' : Clock} {c : CallerId} (h : s.Core (s.caller c))
    (habsent : ∀ w, s.created ≤ w → (s.writer w).pc = .absent ∧ s.joins w = 0) (hstep : s.stepCreated c = some s') :
    s'.Core (s'.caller c) := by
  obtain ⟨hpc, rfl⟩ := stepCreated_eq_some.1 hstep
  obtain ⟨k, hk⟩ : ∃ k, s.caller c = k := ⟨_, rfl⟩
  rw [hk] at h hpc
  obtain ⟨pc, on, rc', mine⟩ := k
  subst hpc
  obtain ⟨hold, hown⟩ := h.rest rfl
  simp only [Function.update_self, hk]
  exact {
    clockOn := h.clockOn
    clock := h.clock
    cond := h.cond
    held := h.held
    starting := nofun
    unborn := nofun
    rest := nofun
    session := fun _ => Or.inr ⟨s.created, {
      mine := rfl
      thread := rfl
      created := rfl
      present := by simp
      unjoined := (habsent s.created (Nat.le_refl _)).2
      old := by
        intro v hv
        have := hold v hv
        simp only [Retired, Function.update_of_ne (Nat.ne_of_lt hv)]
        exact this
      owner := fun v => by simp [hown v]
      initializing := iff_of_true (h.starting rfl) nofun
      stopped := by simp
      posted := by simp
      asleep := nofun }⟩ }

/-- A creation that fails while `writing` is false begins a session without a writer. -/
theorem Core.stepCreateFailed {s s' : Clock} {c : CallerId} {left : ℕ} (h : s.Core (s.caller c)) (hw : s.writing = false)
    (hstep : s.stepCreateFailed c left = some s') : s'.Core (s'.caller c) := by
  obtain ⟨hpc, rfl⟩ := stepCreateFailed_eq_some.1 hstep
  obtain ⟨k, hk⟩ : ∃ k, s.caller c = k := ⟨_, rfl⟩
  rw [hk] at h hpc
  obtain ⟨pc, on, rc', mine⟩ := k
  subst hpc
  obtain ⟨hold, hown⟩ := h.rest rfl
  simp only [caller_goto, Function.update_self, hk]
  exact {
    clockOn := h.clockOn
    clock := h.clock
    cond := h.cond
    held := h.held
    starting := nofun
    unborn := nofun
    rest := nofun
    session := fun _ => Or.inl {
      mine := h.unborn rfl
      waits := rfl
      writing := hw
      old := hold
      owner := hown } }

/-! ## Every step of a caller keeps the invariant -/

/-- What a statement between the two lock operations leaves alone. -/
theorem stepCaller_frame {s s' : Clock} {c : CallerId} (hin : (s.caller c).pc.inside = true)
    (hunlock : (s.caller c).pc ≠ .unlockTfa) (hstep : s.stepCaller c = some s') :
    s'.tfaLock = s.tfaLock ∧ s'.writer = s.writer ∧ s'.created = s.created ∧
      (∀ w, w ≠ s.writeThread → s'.joins w = s.joins w) ∧
      ((s.caller c).pc ≠ .join → s'.joins = s.joins) ∧
      ∃ pc, pc.inside = true ∧ s'.caller = Function.update s.caller c { s.caller c with pc } := by
  unfold Clock.stepCaller at hstep
  cases hpc : (s.caller c).pc <;> simp only [hpc, Option.some.injEq, reduceCtorEq] at hstep
  case lockTfa => rw [hpc] at hin; cases hin
  case unlockTfa => exact absurd hpc hunlock
  case lockMutex | woken =>
    split at hstep
    case isFalse => cases hstep
    case isTrue =>
      simp only [Option.some.injEq] at hstep
      subst hstep
      exact ⟨rfl, rfl, rfl, fun _ _ => rfl, fun _ => rfl, _, rfl, rfl⟩
  case join =>
    split at hstep
    case isTrue => cases hstep
    case isFalse =>
      simp only [Option.some.injEq] at hstep
      subst hstep
      exact ⟨rfl, rfl, rfl, fun w hw => Function.update_of_ne hw _ _, fun h => absurd rfl h, _, rfl, rfl⟩
  case checkClock | testWriting | testClock | clockOff =>
    subst hstep
    refine ⟨rfl, rfl, rfl, fun _ _ => rfl, fun _ => rfl, _, ?_, rfl⟩
    split <;> rfl
  all_goals
    subst hstep
    exact ⟨rfl, rfl, rfl, fun _ _ => rfl, fun _ => rfl, _, rfl, rfl⟩

/-- A step that changes no shared field keeps the core. -/
theorem Core.frame {s s' : Clock} {k : Caller} (h : s.Core k) (hs : s.SameWriters s') (hlock : s'.tfaLock = s.tfaLock)
    (hmutex : s'.mutex = s.mutex) (hcond : s'.cond = s.cond) (hinit : s'.initializing = s.initializing)
    (hclock : s'.clockEnabled = s.clockEnabled) : s'.Core k := by
  have hclock' : s'.clockEnabled = k.clocked := hclock.trans h.clock
  have hcond' : s'.cond = if k.pc = .blocked then s'.tfaLock.toList else [] := by rw [hcond, hlock, h.cond]
  have hheld' : ∀ c, s'.mutex = some (.caller c) ↔ s'.tfaLock = some c ∧ k.pc.holdsMutex = true := by
    intro c
    rw [hmutex, hlock]
    exact h.held c
  cases hk : k.inSession with
  | false =>
    exact h.idleMove hs hk hk h.clockOn hclock' hcond' hheld' (fun hp => hinit.trans (h.starting hp)) h.unborn
  | true =>
    have hon : k.on = true := by
      obtain ⟨pc, on, rc, mine⟩ := k
      cases pc <;> first | exact hk | exact h.clockOn rfl | cases hk
    exact h.sessionMove hs hk hk rfl hon hclock' hcond' hheld' (fun w hw => by rw [hinit]; exact hw.initializing) id
      (fun w hw => hw.asleep) (fun hn => hn.waits)

/-- A caller inside holds `tfa_lock`. -/
theorem Inv.holder {s : Clock} (h : s.Inv) {c : CallerId} (hin : (s.caller c).pc.inside = true) : s.tfaLock = some c :=
  (h.inside c).1 hin

/-- The core, for the caller that holds `tfa_lock`. -/
theorem Inv.core_holder {s : Clock} (h : s.Inv) {c : CallerId} (hc : s.tfaLock = some c) : s.Core (s.caller c) :=
  active_of_some hc ▸ h.core

/-- A caller of `tfa_power` waits for `tfa_lock` and changes nothing else. -/
theorem Inv.stepCall {s s' : Clock} {c : CallerId} {on : Bool} (h : s.Inv) (hstep : s.stepCall c on = some s') :
    s'.Inv := by
  obtain ⟨hidle, heq⟩ := stepCall_eq_some.1 hstep
  have hne : s.tfaLock ≠ some c := by
    intro hc
    have := (h.inside c).2 hc
    rw [hidle] at this
    cases this
  have hact : s'.active = s.active := by
    subst heq
    unfold active
    cases hl : s.tfaLock with
    | none => rfl
    | some d => exact Function.update_of_ne (fun hd : d = c => hne (hl.trans (congrArg some hd))) _ _
  subst heq
  refine h.of_caller rfl (fun _ _ => Iff.rfl) (iff_of_false nofun hne) (fun _ => rfl) nofun (Nat.le_refl _) h.absent h.ok ?_
  rw [hact]
  exact h.core.frame ⟨rfl, rfl, rfl, rfl, rfl, fun _ => Iff.rfl⟩ rfl rfl rfl rfl rfl

/-- Taking `tfa_lock` makes the caller the active one; it has no session yet. -/
theorem Inv.stepLock {s s' : Clock} {c : CallerId} (h : s.Inv) (hpc : (s.caller c).pc = .lockTfa)
    (hstep : s.stepCaller c = some s') : s'.Inv := by
  simp only [Clock.stepCaller, hpc] at hstep
  split at hstep
  case isFalse => cases hstep
  case isTrue hfree =>
    simp only [Option.some.injEq] at hstep
    subst hstep
    have hcore : s.Core {} := active_of_none hfree ▸ h.core
    have hmine := h.outside c hpc
    have hmutex : ∀ d, s.mutex ≠ some (.caller d) := by
      intro d hd
      have := (hcore.held d).1 hd
      rw [hfree] at this
      cases this.1
    refine h.of_caller rfl (fun d hd => ?other) (iff_of_true ?inside rfl) (fun _ => hmine) (h.born c) (Nat.le_refl _) h.absent
      h.ok ?core
    case other =>
      rw [hfree]
      exact iff_of_false (fun hc => hd (Option.some.inj hc).symm) nofun
    case inside => cases (s.caller c).on <;> rfl
    case core =>
      rw [active_of_some (c := c) rfl]
      obtain ⟨k, hk⟩ : ∃ k, s.caller c = k := ⟨_, rfl⟩
      simp only [caller_goto, Function.update_self, hk] at hmine ⊢
      obtain ⟨pc, on, rc, mine⟩ := k
      cases on with
      | true =>
        exact hcore.idleMove ⟨rfl, rfl, rfl, rfl, rfl, fun _ => Iff.rfl⟩ rfl rfl (fun _ => rfl) hcore.clock hcore.cond
          (fun d => iff_of_false (hmutex d) nofun) nofun (fun _ => hmine)
      | false =>
        exact hcore.idleMove ⟨rfl, rfl, rfl, rfl, rfl, fun _ => Iff.rfl⟩ rfl rfl nofun hcore.clock hcore.cond
          (fun d => iff_of_false (hmutex d) nofun) nofun nofun

/-- Releasing `tfa_lock` leaves no active caller, and its session has ended. -/
theorem Inv.stepUnlock {s s' : Clock} {c : CallerId} (h : s.Inv) (hpc : (s.caller c).pc = .unlockTfa)
    (hstep : s.stepCaller c = some s') : s'.Inv := by
  simp only [Clock.stepCaller, hpc, Option.some.injEq] at hstep
  subst hstep
  have hc : s.tfaLock = some c := h.holder (by rw [hpc]; rfl)
  have hcore := h.core_holder hc
  refine h.of_caller rfl (fun d hd => ?other) (iff_of_false nofun nofun) nofun (h.born c) (Nat.le_refl _) h.absent h.ok ?core
  case other =>
    rw [hc]
    exact iff_of_false nofun (fun heq => hd (Option.some.inj heq).symm)
  case core =>
    rw [active_of_none rfl]
    obtain ⟨k, hk⟩ : ∃ k, s.caller c = k := ⟨_, rfl⟩
    rw [hk] at hcore hpc
    obtain ⟨pc, on, rc, mine⟩ := k
    subst hpc
    have hmutex : ∀ d, s.mutex ≠ some (.caller d) := by
      intro d hd
      cases ((hcore.held d).1 hd).2
    exact hcore.idleMove ⟨rfl, rfl, rfl, rfl, rfl, fun _ => Iff.rfl⟩ rfl rfl nofun hcore.clock hcore.cond
      (fun d => iff_of_false (hmutex d) nofun) nofun nofun

/-- Every statement of a caller that asks the system nothing keeps the invariant. -/
theorem Inv.stepCaller {s s' : Clock} {c : CallerId} (h : s.Inv) (hstep : s.stepCaller c = some s') : s'.Inv := by
  by_cases hlock : (s.caller c).pc = .lockTfa
  · exact h.stepLock hlock hstep
  by_cases hunlock : (s.caller c).pc = .unlockTfa
  · exact h.stepUnlock hunlock hstep
  have hin : (s.caller c).pc.inside = true := by
    cases hpc : (s.caller c).pc <;> first | rfl | exact absurd hpc hlock | skip
    simp [Clock.stepCaller, hpc] at hstep
  have hc := h.holder hin
  have hcore := h.core_holder hc
  obtain ⟨htfa, hwriter, hcreated, hjoins, hjoins', pc, hpc, hcaller⟩ := stepCaller_frame hin hunlock hstep
  have hk : s'.caller c = { s.caller c with pc } := by rw [hcaller, Function.update_self]
  refine h.of_holder hc (htfa.trans hc) hcaller hpc ?_ (Nat.le_of_eq hcreated.symm) ?_ (fun w => hwriter ▸ h.ok w) ?_
  · intro w hw
    rw [hcreated]
    exact h.born c w hw
  · intro w hw
    rw [hcreated] at hw
    rw [hwriter]
    by_cases hjoin : (s.caller c).pc = .join
    · -- the writer that is joined was created
      have hne : w ≠ s.writeThread := by
        have hses : (s.caller c).inSession = true := by simp [Caller.inSession, hjoin]
        rcases hcore.session hses with hn | ⟨v, hv⟩
        · have := hn.waits
          rw [hjoin] at this
          cases this
        · rw [hv.created] at hw
          rw [hv.thread]
          exact Nat.ne_of_gt hw
      rw [hjoins w hne]
      exact h.absent w hw
    · rw [hjoins' hjoin]
      exact h.absent w hw
  · by_cases hjoin : (s.caller c).pc = .join
    · exact hk ▸ hcore.stepJoin hjoin hstep
    · exact hk ▸ hcore.stepCaller hc hin hunlock hjoin hstep

/-- The vendor call keeps the invariant. -/
theorem Inv.stepEnabled {s s' : Clock} {c : CallerId} {rc a1 : Int} (h : s.Inv)
    (hstep : s.stepEnabled c rc a1 = some s') : s'.Inv := by
  obtain ⟨hpc, rfl⟩ := stepEnabled_eq_some.1 hstep
  have hc : s.tfaLock = some c := h.holder (by rw [hpc]; rfl)
  have hcore := (h.core_holder hc).stepEnabled hstep
  simp only [Function.update_self] at hcore
  exact h.of_holder hc hc rfl rfl (h.born c) (Nat.le_refl _) h.absent h.ok hcore

/-- A spurious wake-up keeps the invariant. -/
theorem Inv.stepSpurious {s s' : Clock} {c : CallerId} (h : s.Inv) (hstep : s.stepSpurious c = some s') : s'.Inv := by
  obtain ⟨hpc, rfl⟩ := stepSpurious_eq_some.1 hstep
  have hc : s.tfaLock = some c := h.holder (by rw [hpc]; rfl)
  have hcore := (h.core_holder hc).stepSpurious hc hstep
  simp only [caller_goto, Function.update_self] at hcore
  exact h.of_holder hc hc rfl rfl (h.born c) (Nat.le_refl _) h.absent h.ok hcore

/-- A creation that fails while `writing` is false keeps the invariant. -/
theorem Inv.stepCreateFailed {s s' : Clock} {c : CallerId} {left : ℕ} (h : s.Inv) (hw : s.writing = false)
    (hstep : s.stepCreateFailed c left = some s') : s'.Inv := by
  obtain ⟨hpc, rfl⟩ := stepCreateFailed_eq_some.1 hstep
  have hc : s.tfaLock = some c := h.holder (by rw [hpc]; rfl)
  have hcore := (h.core_holder hc).stepCreateFailed hw hstep
  simp only [caller_goto, Function.update_self] at hcore
  exact h.of_holder hc hc rfl rfl (h.born c) (Nat.le_refl _) h.absent h.ok hcore

/-- A creation that succeeds keeps the invariant: the new writer is the only one that was not joined. -/
theorem Inv.stepCreated {s s' : Clock} {c : CallerId} (h : s.Inv) (hstep : s.stepCreated c = some s') : s'.Inv := by
  obtain ⟨hpc, rfl⟩ := stepCreated_eq_some.1 hstep
  have hc : s.tfaLock = some c := h.holder (by rw [hpc]; rfl)
  have hcore := (h.core_holder hc).stepCreated h.absent hstep
  simp only [Function.update_self] at hcore
  refine h.of_holder hc hc rfl rfl ?_ (Nat.le_succ _) ?_ ?_ hcore
  · intro w hw
    simp only [Option.some.injEq] at hw
    exact hw ▸ Nat.lt_succ_self _
  · intro w hw
    have hne : w ≠ s.created := Nat.ne_of_gt hw
    simp only [Function.update_of_ne hne]
    exact h.absent w (Nat.le_of_succ_le hw)
  · intro w
    by_cases hw : w = s.created
    · subst hw
      simp
    · simp only [Function.update_of_ne hw]
      exact h.ok w

end Clock
end Universal7880
