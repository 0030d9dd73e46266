import Universal7880.Lemmas.ClockEffect

/-!
# What the clock threads share

Two threads race when their next statements access the same field and one of them stores to it. `tfa_device_t` declares
`initializing` an `atomic_bool` and no other field; `only_atomic_races` says that this is the right choice: the store that ends
a session and the load that ends the writer's loop are the only statements that ever race. The same theorem says that the
locks are used as the threads library asks: only its owner unlocks, waits at or signals with a mutex.

The accesses of a statement are listed beside its program counter, and `stores_of_step` checks the stores against the steps.
-/

namespace Universal7880

/-- The fields that `tfa_power` and `write_dummy_data` use without a call of the threads library. -/
inductive SharedField where
  | initializing | clockEnabled | writing | writeThread | a1
  deriving DecidableEq, Repr

inductive AccessKind where
  | load | store
  deriving DecidableEq, Repr

/-- The field that the next statement of a caller accesses. The vendor's `tfa_enable` gets the handle, with `a1` in it, and
may store to it. -/
def CallerPc.access : CallerPc → Option (SharedField × AccessKind)
  | .resetHandle | .enable => some (.a1, .store)
  | .checkClock | .testClock | .clockOff => some (.clockEnabled, .load)
  | .setClock | .clearClock => some (.clockEnabled, .store)
  | .setInitializing | .clearInitializing => some (.initializing, .store)
  | .createThread => some (.writeThread, .store)
  | .join => some (.writeThread, .load)
  | .testWriting => some (.writing, .load)
  | .idle | .lockTfa | .lockMutex | .condWait | .blocked | .woken | .unlockMutex | .unlockTfa => none

/-- The field that the next statement of a writer accesses. -/
def WriterPc.access : WriterPc → Option (SharedField × AccessKind)
  | .setWriting | .clearWriting => some (.writing, .store)
  | .testInitializing => some (.initializing, .load)
  | .absent | .pcmOpen | .calloc | .pcmWrite | .lockMutex | .signal | .unlockMutex | .closePcm | .exitTest | .done => none

inductive Thread where
  | caller (c : CallerId)
  | writer (w : WriterId)
  deriving DecidableEq, Repr

/-- The thread that a label moves on. -/
def ClockLabel.moves : ClockLabel → Thread
  | .call c _ | .caller c | .created c | .createFailed c _ | .enabled c _ _ | .spurious c => .caller c
  | .writer w _ => .writer w

namespace Clock

/-- What the next statement of a thread accesses. -/
def access (s : Clock) : Thread → Option (SharedField × AccessKind)
  | .caller c => (s.caller c).pc.access
  | .writer w => (s.writer w).pc.access

/-- The next statements of two threads access the same field, and the first one stores to it. -/
structure Race (s : Clock) (a b : Thread) (field : SharedField) : Prop where
  distinct : a ≠ b
  stores : s.access a = some (field, .store)
  accesses : ∃ kind, s.access b = some (field, kind)

/-- What a field holds. -/
def field (s : Clock) : SharedField → Int
  | .initializing => s.initializing.toNat
  | .clockEnabled => s.clockEnabled.toNat
  | .writing => s.writing.toNat
  | .writeThread => s.writeThread
  | .a1 => s.a1

theorem field_wakeOne (s : Clock) (f : SharedField) : s.wakeOne.field f = s.field f := by
  unfold wakeOne
  split
  · rfl
  · cases f <;> rfl

/-- A step changes a field only if the statement that it executes stores to that field. -/
theorem stores_of_step {s u : Clock} {e : ClockLabel} (hstep : s.step e = some u) {f : SharedField}
    (hf : u.field f ≠ s.field f) : s.access e.moves = some (f, .store) := by
  cases e with
  | caller c =>
    simp only [Clock.step, stepCaller] at hstep
    cases hpc : (s.caller c).pc
    all_goals
      simp only [hpc] at hstep
      try split at hstep
      all_goals simp only [Option.some.injEq, reduceCtorEq] at hstep
    all_goals
      subst hstep
      cases f <;> first | exact absurd rfl hf | simp [access, ClockLabel.moves, CallerPc.access, hpc]
  | writer w outcome =>
    simp only [Clock.step, stepWriter] at hstep
    obtain ⟨t, ht⟩ : ∃ t, s.writer w = t := ⟨_, rfl⟩
    rw [ht] at hstep
    obtain ⟨pc, signaled, gaveUp, writes, hasSignalled⟩ := t
    cases pc
    case signal =>
      simp only [Option.some.injEq] at hstep
      subst hstep
      refine absurd ?_ hf
      rw [← field_wakeOne s f]
      cases f <;> rfl
    all_goals
      simp only [reduceCtorEq] at hstep
      try split at hstep
      all_goals simp only [Option.some.injEq, reduceCtorEq] at hstep
    all_goals
      subst hstep
      cases f <;> first | exact absurd rfl hf | simp [access, ClockLabel.moves, WriterPc.access, ht]
  | call c _ | created c | createFailed c _ | enabled c _ _ | spurious c =>
    simp only [Clock.step, stepCall_eq_some, stepCreated_eq_some, stepCreateFailed_eq_some, stepEnabled_eq_some,
      stepSpurious_eq_some] at hstep
    obtain ⟨hpc, rfl⟩ := hstep
    cases f <;> first | exact absurd rfl hf | simp [access, ClockLabel.moves, CallerPc.access, hpc]

/-! ## The races -/

/-- Two callers do not race: only the one that holds `tfa_lock` accesses a field. -/
theorem Inv.not_race_callers {s : Clock} (h : s.Inv) {c d : CallerId} {f : SharedField} : ¬ s.Race (.caller c) (.caller d) f := by
  intro hrace
  obtain ⟨kind, hd⟩ := hrace.accesses
  have hc := hrace.stores
  have hinside : ∀ {b kind}, s.access (.caller b) = some (f, kind) → s.tfaLock = some b := by
    intro b kind hb
    refine h.holder ?_
    cases hpc : (s.caller b).pc <;> simp_all [access, CallerPc.access]
  exact hrace.distinct (congrArg Thread.caller (Option.some.inj ((hinside hc).symm.trans (hinside hd))))

/-- Two writers do not race: at most one has not returned. -/
theorem Inv.not_race_writers {s : Clock} (h : s.Inv) {v w : WriterId} {f : SharedField} : ¬ s.Race (.writer v) (.writer w) f := by
  intro hrace
  obtain ⟨kind, hw⟩ := hrace.accesses
  have hlive : ∀ {u kind}, s.access (.writer u) = some (f, kind) → s.active.mine = some u := by
    intro u kind hu
    refine (h.session_of_live (w := u) ?_).2.mine
    cases hpc : (s.writer u).pc <;> simp_all [access, WriterPc.access, Writer.live]
  exact hrace.distinct (congrArg Thread.writer (Option.some.inj ((hlive hrace.stores).symm.trans (hlive hw))))

/-- A caller and a writer access the same field, one of them to store, only where the caller ends the session and the writer
looks whether it has ended. -/
theorem Inv.race_caller_writer {s : Clock} (h : s.Inv) {c : CallerId} {w : WriterId} {f : SharedField} {k k' : AccessKind}
    (hc : s.access (.caller c) = some (f, k)) (hw : s.access (.writer w) = some (f, k')) (hstore : k = .store ∨ k' = .store) :
    f = .initializing ∧ (s.caller c).pc = .clearInitializing ∧ (s.caller c).mine = some w ∧
      (s.writer w).pc = .testInitializing := by
  have hlive : (s.writer w).live = true := by
    cases hpc : (s.writer w).pc <;> simp_all [access, WriterPc.access, Writer.live]
  have hl : s.tfaLock = some c := by
    refine h.holder ?_
    cases hpc : (s.caller c).pc <;> simp_all [access, CallerPc.access]
  obtain ⟨hin, hs⟩ := h.session_of_live hlive
  rw [active_of_some hl] at hin hs
  simp only [access] at hc hw
  cases hpc : (s.caller c).pc
  case testWriting =>
    rw [hpc] at hc
    obtain ⟨rfl, rfl⟩ : SharedField.writing = f ∧ AccessKind.load = k := by simpa [CallerPc.access] using hc
    -- the writer stores to `writing` while it holds the mutex that the caller holds, or after the session has ended
    cases hpw : (s.writer w).pc <;> simp [WriterPc.access, hpw] at hw
    case setWriting =>
      have hexcl := h.mutex_exclusive (active_of_some hl ▸ hs) (by simp [hpw])
      rw [active_of_some hl, hpc] at hexcl
      cases hexcl
    case clearWriting =>
      have hjoin := hs.stopped (by simp [hpw])
      rw [hpc] at hjoin
      cases hjoin
  case clearInitializing =>
    rw [hpc] at hc
    obtain ⟨rfl, -⟩ : SharedField.initializing = f ∧ AccessKind.store = k := by simpa [CallerPc.access] using hc
    refine ⟨rfl, rfl, hs.mine, ?_⟩
    cases hpw : (s.writer w).pc <;> simp [WriterPc.access, hpw] at hw
    rfl
  case setInitializing => simp [hpc] at hin
  all_goals
    rw [hpc] at hc
    cases hpw : (s.writer w).pc <;> simp [WriterPc.access, hpw] at hw
    all_goals
      obtain ⟨rfl, -⟩ := hw
      simp [CallerPc.access] at hc

/-! ## The locks -/

/-- A caller that unlocks the inner mutex or waits at it holds it; so does a writer that unlocks it or signals; and a caller
that unlocks `tfa_lock` holds that. -/
structure Disciplined (s : Clock) : Prop where
  caller : ∀ c, (s.caller c).pc = .unlockMutex ∨ (s.caller c).pc = .condWait → s.mutex = some (.caller c)
  writer : ∀ w, (s.writer w).pc = .unlockMutex ∨ (s.writer w).pc = .signal → s.mutex = some (.writer w)
  tfaLock : ∀ c, (s.caller c).pc = .unlockTfa → s.tfaLock = some c

theorem Inv.disciplined {s : Clock} (h : s.Inv) : s.Disciplined where
  caller c hpc := by
    have hl : s.tfaLock = some c := h.holder (by rcases hpc with hpc | hpc <;> rw [hpc] <;> rfl)
    exact ((h.core_holder hl).held c).2 ⟨hl, by rcases hpc with hpc | hpc <;> rw [hpc] <;> rfl⟩
  writer w hpc := by
    have hlive : (s.writer w).live = true := by rcases hpc with hpc | hpc <;> simp [Writer.live, hpc]
    exact ((h.session_of_live hlive).2.owner w).2 ⟨rfl, by rcases hpc with hpc | hpc <;> rw [hpc] <;> rfl⟩
  tfaLock c hpc := h.holder (by rw [hpc]; rfl)

end Clock

open Clock

/-- What the threads share, in every state that a run on an initialised device reaches in which no creation fails while
`writing` is set. No two threads race on `clock_enabled`, `writing`, `write_thread` or the handle, and on `initializing`, which
is atomic, only the store of a caller that ends its session and the load of its writer do. The locks are unlocked, waited at and
signalled with by their owners only. -/
theorem only_atomic_races (s u : Clock) (hs : clockSystem.init s) (es : List ClockLabel)
    (hC : clockSystem.Always s es Harmless) (hrun : clockSystem.run s es = some u) :
    (∀ a b field, u.Race a b field → field = .initializing ∧ ∃ c w, a = .caller c ∧ b = .writer w ∧
      (u.caller c).pc = .clearInitializing ∧ (u.caller c).mine = some w ∧ (u.writer w).pc = .testInitializing) ∧
    u.Disciplined := by
  have hinv : u.Inv := Lts.Always.at_end inv_step es (inv_of_fresh hs.toFresh hs.clockEnabled) hC hrun
  refine ⟨?_, hinv.disciplined⟩
  intro a b field hrace
  obtain ⟨kind, hb⟩ := hrace.accesses
  cases a with
  | caller c =>
    cases b with
    | caller d => exact absurd hrace hinv.not_race_callers
    | writer w =>
      obtain ⟨hfield, hpc, hmine, hpw⟩ := hinv.race_caller_writer hrace.stores hb (Or.inl rfl)
      exact ⟨hfield, c, w, rfl, rfl, hpc, hmine, hpw⟩
  | writer v =>
    cases b with
    | writer w => exact absurd hrace hinv.not_race_writers
    | caller d =>
      -- a writer does not store to `initializing`
      obtain ⟨-, -, -, hpw⟩ := hinv.race_caller_writer hb hrace.stores (Or.inr rfl)
      have hstores := hrace.stores
      simp [access, WriterPc.access, hpw] at hstores

/-- A caller and its writer come to the statements that race: the writer is about to look whether the session has ended when
the caller is about to end it. -/
def sessionEnd (c : CallerId) (w : WriterId) : List ClockLabel :=
  .call c true :: enterSession c ++ sleepSession c ++ List.replicate 7 (.writer w .ok) ++ List.replicate 4 (.caller c) ++
    [.enabled c 0 0, .caller c, .caller c]

/-- The race that the atomic field is for. -/
theorem only_atomic_races_sessionEnd :
    ∃ u, clockSystem.run .powered (sessionEnd 0 0) = some u ∧ u.Race (.caller 0) (.writer 0) .initializing ∧
      ∀ a b field, u.Race a b field → field = .initializing := by
  have hrun : (clockSystem.run .powered (sessionEnd 0 0)).map (fun u => (u.access (.caller 0), u.access (.writer 0))) =
      some (some (.initializing, .store), some (.initializing, .load)) := by
    decide +kernel
  obtain ⟨u, hu, haccess⟩ := Option.map_eq_some_iff.1 hrun
  obtain ⟨hc, hw⟩ := Prod.mk.inj haccess
  have hraces := only_atomic_races .powered u Clock.initialised_powered (sessionEnd 0 0)
    (harmless_of_creates _ (by decide)) hu
  exact ⟨u, hu, ⟨by simp, hc, _, hw⟩, fun a b field h => (hraces.1 a b field h).1⟩

end Universal7880
