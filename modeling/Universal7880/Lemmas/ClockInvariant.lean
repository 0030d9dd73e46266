import Universal7880.Clock
import Mathlib.Tactic.Common

/-!
# The invariant of the clock handshake

At most one caller is between the two lock operations on `tfa_lock`; it is the active caller (`Clock.active`).
`Clock.Core` relates its program counter to the clock flags, the inner mutex and the condition variable. While it is in a
session (from `pthread_create` to `pthread_join`) there is one writer that was not joined, and `Clock.Session` ties the
program counters of the two together; outside a session every writer created so far has returned and was joined once
(`Clock.Retired`).

A session may also have no writer, when `pthread_create` failed. If `writing` was false then, the caller waits for ever
(`Clock.NoThread`). A creation that fails while `writing` is true is the only step that does not keep the invariant
(`Clock.Harmless`).
-/

namespace Universal7880

/-! ## Places in the code -/

/-- Between the two lock operations on `tfa_lock`. -/
@[simp] def CallerPc.inside : CallerPc → Bool
  | .idle | .lockTfa => false
  | _ => true

/-- Reached only in `tfa_power(on)`. -/
@[simp] def CallerPc.clockOn : CallerPc → Bool
  | .idle | .lockTfa | .enable | .testClock | .unlockTfa => false
  | _ => true

/-- Before `pthread_create`. -/
@[simp] def CallerPc.beforeCreate : CallerPc → Bool
  | .resetHandle | .checkClock | .setInitializing | .createThread => true
  | _ => false

/-- Between the lock operations on the inner mutex, awake. -/
@[simp] def CallerPc.holdsMutex : CallerPc → Bool
  | .testWriting | .condWait | .unlockMutex => true
  | _ => false

/-- In the loop that waits for `writing`. -/
@[simp] def CallerPc.waits : CallerPc → Bool
  | .lockMutex | .testWriting | .condWait | .blocked | .woken => true
  | _ => false

/-- The caller has set `clock_enabled` and not cleared it. -/
@[simp] def Caller.clocked (k : Caller) : Bool :=
  match k.pc with
  | .enable | .testClock => k.on
  | .clockOff | .clearInitializing | .join | .clearClock => true
  | _ => false

/-- The caller is between its `pthread_create` and its `pthread_join`. -/
@[simp] def Caller.inSession (k : Caller) : Bool :=
  match k.pc with
  | .lockMutex | .testWriting | .condWait | .blocked | .woken | .unlockMutex | .setClock => true
  | .enable | .testClock => k.on
  | .clockOff | .clearInitializing | .join => true
  | _ => false

/-- Between the lock operations of a writer on the inner mutex. -/
@[simp] def WriterPc.holdsMutex : WriterPc → Bool
  | .setWriting | .signal | .unlockMutex => true
  | _ => false

/-- The writer has set `writing` for its caller. -/
@[simp] def Writer.posted (t : Writer) : Bool := t.hasSignalled || t.pc == .signal

/-- The writer has left its loop because `initializing` was false. -/
@[simp] def Writer.stopped (t : Writer) : Bool :=
  match t.pc with
  | .clearWriting => true
  | .closePcm | .exitTest | .done => t.signaled
  | _ => false

/-- What the program counter of a writer says about its local variables and its past. -/
@[simp] def Writer.Ok (t : Writer) : Prop :=
  match t.pc with
  | .absent | .pcmOpen | .calloc => t.signaled = false ∧ t.hasSignalled = false ∧ t.gaveUp = false
  | .pcmWrite => t.hasSignalled = t.signaled ∧ t.gaveUp = false ∧ (t.signaled = true → 0 < t.writes)
  | .lockMutex | .setWriting | .signal => t.signaled = false ∧ t.hasSignalled = false ∧ (t.gaveUp = true ∨ 0 < t.writes)
  | .unlockMutex => t.signaled = false ∧ t.hasSignalled = true ∧ (t.gaveUp = true ∨ 0 < t.writes)
  | .testInitializing | .clearWriting =>
    t.signaled = true ∧ t.hasSignalled = true ∧ t.gaveUp = false ∧ 0 < t.writes
  | .closePcm | .exitTest =>
    (t.signaled = true ∧ t.hasSignalled = true ∧ t.gaveUp = false ∧ 0 < t.writes) ∨
      (t.signaled = false ∧ t.hasSignalled = false ∧ t.gaveUp = true)
  | .done => t.hasSignalled = true ∧ (t.gaveUp = true ∨ 0 < t.writes)

namespace Clock

/-! ## The invariant -/

/-- The caller that holds `tfa_lock`, or a caller that is not in `tfa_power` when none does. -/
def active (s : Clock) : Caller :=
  match s.tfaLock with
  | none => {}
  | some c => s.caller c

/-- The writer has returned and was joined once. -/
def Retired (s : Clock) (v : WriterId) : Prop := (s.writer v).pc = .done ∧ s.joins v = 1

/-- A session whose `pthread_create` failed while `writing` was false: its caller waits for a writer that does not exist. -/
structure NoThread (s : Clock) (k : Caller) : Prop where
  mine : k.mine = none
  waits : k.pc.waits = true
  writing : s.writing = false
  old : ∀ v < s.created, s.Retired v
  owner : ∀ v, s.mutex ≠ some (.writer v)

/-- A session with its writer `w`, the last one created and the only one not joined. -/
structure Session (s : Clock) (k : Caller) (w : WriterId) : Prop where
  mine : k.mine = some w
  thread : s.writeThread = w
  created : s.created = w + 1
  present : (s.writer w).pc ≠ .absent
  unjoined : s.joins w = 0
  old : ∀ v < w, s.Retired v
  owner : ∀ v, s.mutex = some (.writer v) ↔ v = w ∧ (s.writer w).pc.holdsMutex = true
  initializing : s.initializing = true ↔ k.pc ≠ .join
  stopped : (s.writer w).stopped = true → k.pc = .join
  posted : (s.writer w).posted = true → k.pc ≠ .join → s.writing = true
  asleep : k.pc = .condWait ∨ k.pc = .blocked → (s.writer w).hasSignalled = false

/-- What holds of the shared fields and the writers when `k` is the active caller. -/
structure Core (s : Clock) (k : Caller) : Prop where
  clockOn : k.pc.clockOn = true → k.on = true
  clock : s.clockEnabled = k.clocked
  cond : s.cond = if k.pc = .blocked then s.tfaLock.toList else []
  held : ∀ c, s.mutex = some (.caller c) ↔ s.tfaLock = some c ∧ k.pc.holdsMutex = true
  starting : k.pc = .createThread → s.initializing = true
  unborn : k.pc.beforeCreate = true → k.mine = none
  rest : k.inSession = false → (∀ v < s.created, s.Retired v) ∧ ∀ v, s.mutex ≠ some (.writer v)
  session : k.inSession = true → s.NoThread k ∨ ∃ w, s.Session k w

/-- The invariant of the handshake. -/
structure Inv (s : Clock) : Prop where
  inside : ∀ c, (s.caller c).pc.inside = true ↔ s.tfaLock = some c
  outside : ∀ c, (s.caller c).pc = .lockTfa → (s.caller c).mine = none
  born : ∀ c w, (s.caller c).mine = some w → w < s.created
  absent : ∀ w, s.created ≤ w → (s.writer w).pc = .absent ∧ s.joins w = 0
  ok : ∀ w, (s.writer w).Ok
  core : s.Core s.active

/-! ## Updates -/

section Updates

variable (s : Clock) (c : CallerId) (pc : CallerPc) (w : WriterId) (t : Writer)

@[simp] theorem tfaLock_goto : (s.goto c pc).tfaLock = s.tfaLock := rfl
@[simp] theorem mutex_goto : (s.goto c pc).mutex = s.mutex := rfl
@[simp] theorem cond_goto : (s.goto c pc).cond = s.cond := rfl
@[simp] theorem initializing_goto : (s.goto c pc).initializing = s.initializing := rfl
@[simp] theorem clockEnabled_goto : (s.goto c pc).clockEnabled = s.clockEnabled := rfl
@[simp] theorem writing_goto : (s.goto c pc).writing = s.writing := rfl
@[simp] theorem writeThread_goto : (s.goto c pc).writeThread = s.writeThread := rfl
@[simp] theorem writer_goto : (s.goto c pc).writer = s.writer := rfl
@[simp] theorem created_goto : (s.goto c pc).created = s.created := rfl
@[simp] theorem joins_goto : (s.goto c pc).joins = s.joins := rfl
@[simp] theorem calls_goto : (s.goto c pc).calls = s.calls := rfl
@[simp] theorem returns_goto : (s.goto c pc).returns = s.returns := rfl
@[simp] theorem caller_goto :
    (s.goto c pc).caller = Function.update s.caller c { s.caller c with pc } := rfl

@[simp] theorem tfaLock_setWriter : (s.setWriter w t).tfaLock = s.tfaLock := rfl
@[simp] theorem mutex_setWriter : (s.setWriter w t).mutex = s.mutex := rfl
@[simp] theorem cond_setWriter : (s.setWriter w t).cond = s.cond := rfl
@[simp] theorem initializing_setWriter : (s.setWriter w t).initializing = s.initializing := rfl
@[simp] theorem clockEnabled_setWriter : (s.setWriter w t).clockEnabled = s.clockEnabled := rfl
@[simp] theorem writing_setWriter : (s.setWriter w t).writing = s.writing := rfl
@[simp] theorem writeThread_setWriter : (s.setWriter w t).writeThread = s.writeThread := rfl
@[simp] theorem caller_setWriter : (s.setWriter w t).caller = s.caller := rfl
@[simp] theorem created_setWriter : (s.setWriter w t).created = s.created := rfl
@[simp] theorem joins_setWriter : (s.setWriter w t).joins = s.joins := rfl
@[simp] theorem calls_setWriter : (s.setWriter w t).calls = s.calls := rfl
@[simp] theorem returns_setWriter : (s.setWriter w t).returns = s.returns := rfl
@[simp] theorem writer_setWriter : (s.setWriter w t).writer = Function.update s.writer w t := rfl

end Updates

section WakeOne

variable (s : Clock)

@[simp] theorem tfaLock_wakeOne : s.wakeOne.tfaLock = s.tfaLock := by unfold wakeOne; split <;> rfl
@[simp] theorem mutex_wakeOne : s.wakeOne.mutex = s.mutex := by unfold wakeOne; split <;> rfl
@[simp] theorem initializing_wakeOne : s.wakeOne.initializing = s.initializing := by unfold wakeOne; split <;> rfl
@[simp] theorem clockEnabled_wakeOne : s.wakeOne.clockEnabled = s.clockEnabled := by unfold wakeOne; split <;> rfl
@[simp] theorem writing_wakeOne : s.wakeOne.writing = s.writing := by unfold wakeOne; split <;> rfl
@[simp] theorem writeThread_wakeOne : s.wakeOne.writeThread = s.writeThread := by unfold wakeOne; split <;> rfl
@[simp] theorem writer_wakeOne : s.wakeOne.writer = s.writer := by unfold wakeOne; split <;> rfl
@[simp] theorem created_wakeOne : s.wakeOne.created = s.created := by unfold wakeOne; split <;> rfl
@[simp] theorem joins_wakeOne : s.wakeOne.joins = s.joins := by unfold wakeOne; split <;> rfl
@[simp] theorem calls_wakeOne : s.wakeOne.calls = s.calls := by unfold wakeOne; split <;> rfl
@[simp] theorem returns_wakeOne : s.wakeOne.returns = s.returns := by unfold wakeOne; split <;> rfl

end WakeOne

/-! ## The guarded steps -/

section Guarded

variable {s s' : Clock} {c : CallerId}

theorem stepCall_eq_some {on : Bool} : s.stepCall c on = some s' ↔ (s.caller c).pc = .idle ∧
    s' = { s with caller := Function.update s.caller c { pc := .lockTfa, on, rc := 0, mine := none } } := by
  simp [stepCall, eq_comm]

theorem stepCreated_eq_some : s.stepCreated c = some s' ↔ (s.caller c).pc = .createThread ∧
    s' = { s with
      caller := Function.update s.caller c { s.caller c with pc := .lockMutex, mine := some s.created }
      writer := Function.update s.writer s.created { pc := .pcmOpen }
      writeThread := s.created
      created := s.created + 1 } := by
  simp [stepCreated, eq_comm]

theorem stepCreateFailed_eq_some {left : ℕ} : s.stepCreateFailed c left = some s' ↔ (s.caller c).pc = .createThread ∧
    s' = { s with writeThread := left }.goto c .lockMutex := by
  simp [stepCreateFailed, eq_comm]

theorem stepEnabled_eq_some {rc a1 : Int} : s.stepEnabled c rc a1 = some s' ↔ (s.caller c).pc = .enable ∧
    s' = { s with
      caller := Function.update s.caller c { s.caller c with pc := .testClock, rc }
      a1 := a1
      calls := s.calls ++ [⟨(s.caller c).on, rc⟩] } := by
  simp [stepEnabled, eq_comm]

theorem stepSpurious_eq_some : s.stepSpurious c = some s' ↔ (s.caller c).pc = .blocked ∧
    s' = { s with cond := s.cond.erase c }.goto c .woken := by
  simp [stepSpurious, eq_comm]

end Guarded

theorem active_of_none {s : Clock} (h : s.tfaLock = none) : s.active = {} := by simp [active, h]

theorem active_of_some {s : Clock} {c : CallerId} (h : s.tfaLock = some c) : s.active = s.caller c := by simp [active, h]

theorem fresh_raw (initializing clockEnabled writing : Bool) (writeThread : ℕ) (a1 : Int) :
    (raw initializing clockEnabled writing writeThread a1).Fresh :=
  ⟨rfl, rfl, rfl, fun _ => rfl, fun _ => rfl, rfl, fun _ => rfl, rfl, rfl⟩

/-- The invariant holds of a fresh device whose clock is off. -/
theorem inv_of_fresh {s : Clock} (h : s.Fresh) (hc : s.clockEnabled = false) : s.Inv where
  inside := by simp [h.caller, h.tfaLock]
  outside := by simp [h.caller]
  born := by simp [h.caller]
  absent := by simp [h.writer, h.joins]
  ok := by simp [h.writer]
  core := by
    rw [active_of_none h.tfaLock]
    constructor <;> simp [hc, h.cond, h.mutex, h.created]

end Clock
end Universal7880
