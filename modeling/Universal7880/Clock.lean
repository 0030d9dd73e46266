import Universal7880.Tfa
import Universal7880.Lts
import Mathlib.Logic.Function.Basic

/-!
# The clock handshake of `tfa.c`, as an interleaving of its threads

Any number of callers run `tfa_power` on one device, and each `tfa_clock_on` starts a writer thread that runs
`write_dummy_data`. A state holds the shared fields of `tfa_device_t`, the program counter and the local variables of
every thread, and the owners and waiters of its locks. A label names the thread that executes its next statement and what
the system answers; every load and store of `initializing`, `writing` and `clock_enabled`, every lock operation and every
wait or signal is a step of its own.

Threads are numbered: a caller keeps its number, a writer is numbered by the `pthread_create` that started it. The fields
marked as ghosts record what has happened and are read by no step.
-/

namespace Universal7880

abbrev CallerId := ℕ
abbrev WriterId := ℕ

/-! ## Threads -/

/-- The statement a caller executes next, in `tfa_power`, `tfa_clock_on` (from `checkClock` to `setClock`) or
`tfa_clock_off` (from `clockOff` to `clearClock`). `pthread_cond_wait` is three: to release the mutex and sleep
(`condWait`), asleep (`blocked`) and to take the mutex back (`woken`). -/
inductive CallerPc where
  | idle | lockTfa | resetHandle
  | checkClock | setInitializing | createThread
  | lockMutex | testWriting | condWait | blocked | woken | unlockMutex | setClock
  | enable | testClock
  | clockOff | clearInitializing | join | clearClock
  | unlockTfa
  deriving DecidableEq, Repr

/-- A caller: its next statement, the argument `on` of its `tfa_power`, the code `rc` it will return, and, as a ghost, the
writer that this call's `tfa_clock_on` has created. -/
structure Caller where
  pc : CallerPc := .idle
  on : Bool := false
  rc : Int := 0
  mine : Option WriterId := none
  deriving DecidableEq, Repr

/-- The statement a writer executes next. The four statements that signal (`lockMutex` to `unlockMutex`) stand twice in
`write_dummy_data`, in the loop and behind `exit`; `Writer.gaveUp` tells which of the two copies runs. -/
inductive WriterPc where
  | absent | pcmOpen | calloc | pcmWrite | lockMutex | setWriting | signal | unlockMutex | testInitializing | clearWriting
  | closePcm | exitTest | done
  deriving DecidableEq, Repr

/-- A writer: its next statement and its local `signaled`. `gaveUp` is set on the way to an error label. As ghosts, the
number of its `pcm_write` calls and whether it has executed `pthread_cond_signal`. -/
structure Writer where
  pc : WriterPc := .absent
  signaled : Bool := false
  gaveUp : Bool := false
  writes : ℕ := 0
  hasSignalled : Bool := false
  deriving DecidableEq, Repr

/-- The thread has been created and has not returned. -/
def Writer.live (t : Writer) : Bool := t.pc != .absent && t.pc != .done

/-- The owner of the inner mutex. -/
inductive MutexOwner where
  | caller (c : CallerId)
  | writer (w : WriterId)
  deriving DecidableEq, Repr

/-! ## States and labels -/

/-- The shared state: the locks and the clock fields of `tfa_device_t`, `tfa_handle->a1`, and the threads. `cond` is the
queue of the callers asleep at the condition variable. As ghosts, how often each writer was joined, the calls of the
vendor's `tfa_enable` and the returns of `tfa_power`, in order. -/
structure Clock where
  tfaLock : Option CallerId
  mutex : Option MutexOwner
  cond : List CallerId
  initializing : Bool
  clockEnabled : Bool
  writing : Bool
  writeThread : ℕ
  a1 : Int
  caller : CallerId → Caller
  writer : WriterId → Writer
  created : ℕ
  joins : WriterId → ℕ
  calls : List EnableCall
  returns : List EnableCall

/-- How a system call of a writer ends. A `pcm_open` that fails is `busy` when it leaves no handle to close or `errno` is
`EBUSY`. -/
inductive Outcome where
  | ok | busy | fail
  deriving DecidableEq, Repr

/-- A step: which thread moves, and what the system answers. -/
inductive ClockLabel where
  /-- A thread calls `tfa_power`. -/
  | call (c : CallerId) (on : Bool)
  /-- A caller executes its next statement, one that asks the system nothing. -/
  | caller (c : CallerId)
  /-- `pthread_create` succeeds. -/
  | created (c : CallerId)
  /-- `pthread_create` fails and leaves this value in `write_thread`. -/
  | createFailed (c : CallerId) (left : ℕ)
  /-- The vendor's `tfa_enable` returns this code and leaves this value in the handle. -/
  | enabled (c : CallerId) (rc : Int) (a1 : Int)
  /-- A caller wakes up from `pthread_cond_wait` without a signal. -/
  | spurious (c : CallerId)
  /-- A writer executes its next statement. -/
  | writer (w : WriterId) (outcome : Outcome)
  deriving DecidableEq, Repr

namespace Clock

/-- A caller goes on to its next statement. -/
def goto (s : Clock) (c : CallerId) (pc : CallerPc) : Clock :=
  { s with caller := Function.update s.caller c { s.caller c with pc } }

/-- A writer and its local variables. -/
def setWriter (s : Clock) (w : WriterId) (t : Writer) : Clock :=
  { s with writer := Function.update s.writer w t }

/-- `pthread_cond_signal`: the first caller in the queue, if there is one, wakes up. -/
def wakeOne (s : Clock) : Clock :=
  match s.cond with
  | [] => s
  | c :: rest => { s with cond := rest }.goto c .woken

/-! ## The statements of a caller -/

/-- A thread that is not in `tfa_power` calls it. -/
def stepCall (s : Clock) (c : CallerId) (on : Bool) : Option Clock :=
  if (s.caller c).pc = .idle then
    some { s with caller := Function.update s.caller c { pc := .lockTfa, on, rc := 0, mine := none } }
  else none

/-- The next statement of a caller, except `pthread_create` and the vendor call. A lock operation on a lock that is taken
and a `pthread_join` of a thread that has not returned are not enabled. A `pthread_join` of anything but a thread that has
returned and was not joined before is undefined in C; the model lets it pass. -/
def stepCaller (s : Clock) (c : CallerId) : Option Clock :=
  match (s.caller c).pc with
  | .lockTfa =>
    if s.tfaLock = none then
      some ({ s with tfaLock := some c }.goto c (if (s.caller c).on then .resetHandle else .enable))
    else none
  | .resetHandle => some ({ s with a1 := if s.a1 ≠ 0 then 0 else s.a1 }.goto c .checkClock)
  | .checkClock => some (s.goto c (if s.clockEnabled then .enable else .setInitializing))
  | .setInitializing => some ({ s with initializing := true }.goto c .createThread)
  | .lockMutex => if s.mutex = none then some ({ s with mutex := some (.caller c) }.goto c .testWriting) else none
  | .testWriting => some (s.goto c (if s.writing then .unlockMutex else .condWait))
  | .condWait => some ({ s with mutex := none, cond := s.cond ++ [c] }.goto c .blocked)
  | .woken => if s.mutex = none then some ({ s with mutex := some (.caller c) }.goto c .testWriting) else none
  | .unlockMutex => some ({ s with mutex := none }.goto c .setClock)
  | .setClock => some ({ s with clockEnabled := true }.goto c .enable)
  | .testClock => some (s.goto c (if s.clockEnabled then .clockOff else .unlockTfa))
  | .clockOff => some (s.goto c (if s.clockEnabled then .clearInitializing else .unlockTfa))
  | .clearInitializing => some ({ s with initializing := false }.goto c .join)
  | .join =>
    if (s.writer s.writeThread).live then none
    else some ({ s with joins := Function.update s.joins s.writeThread (s.joins s.writeThread + 1) }.goto c .clearClock)
  | .clearClock => some ({ s with clockEnabled := false }.goto c .unlockTfa)
  | .unlockTfa =>
    some ({ s with tfaLock := none, returns := s.returns ++ [EnableCall.mk (s.caller c).on (s.caller c).rc] }.goto c .idle)
  | .idle | .createThread | .blocked | .enable => none

/-- `pthread_create` succeeds: the new writer takes the next number, which is stored in `write_thread`. -/
def stepCreated (s : Clock) (c : CallerId) : Option Clock :=
  if (s.caller c).pc = .createThread then
    some { s with
      caller := Function.update s.caller c { s.caller c with pc := .lockMutex, mine := some s.created }
      writer := Function.update s.writer s.created { pc := .pcmOpen }
      writeThread := s.created
      created := s.created + 1 }
  else none

/-- `pthread_create` fails; `tfa_clock_on` does not look at its result. -/
def stepCreateFailed (s : Clock) (c : CallerId) (left : ℕ) : Option Clock :=
  if (s.caller c).pc = .createThread then some ({ s with writeThread := left }.goto c .lockMutex) else none

/-- The vendor's `tfa_enable` returns. -/
def stepEnabled (s : Clock) (c : CallerId) (rc a1 : Int) : Option Clock :=
  if (s.caller c).pc = .enable then
    some { s with
      caller := Function.update s.caller c { s.caller c with pc := .testClock, rc }
      a1 := a1
      calls := s.calls ++ [⟨(s.caller c).on, rc⟩] }
  else none

/-- A caller asleep at the condition variable wakes up on its own. -/
def stepSpurious (s : Clock) (c : CallerId) : Option Clock :=
  if (s.caller c).pc = .blocked then some ({ s with cond := s.cond.erase c }.goto c .woken) else none

/-! ## The statements of a writer -/

/-- The next statement of a writer. A `pcm_write` that fails is only logged, so its outcome does not matter. -/
def stepWriter (s : Clock) (w : WriterId) (outcome : Outcome) : Option Clock :=
  let t := s.writer w
  match t.pc with
  | .pcmOpen =>
    match outcome with
    | .ok => some (s.setWriter w { t with pc := .calloc })
    | .busy => some (s.setWriter w { t with pc := .exitTest, gaveUp := true })
    | .fail => some (s.setWriter w { t with pc := .closePcm, gaveUp := true })
  | .calloc =>
    if outcome = .ok then some (s.setWriter w { t with pc := .pcmWrite })
    else some (s.setWriter w { t with pc := .closePcm, gaveUp := true })
  | .pcmWrite =>
    some (s.setWriter w { t with pc := if t.signaled then .testInitializing else .lockMutex, writes := t.writes + 1 })
  | .lockMutex =>
    if s.mutex = none then some ({ s with mutex := some (.writer w) }.setWriter w { t with pc := .setWriting }) else none
  | .setWriting => some ({ s with writing := true }.setWriter w { t with pc := .signal })
  | .signal => some (s.wakeOne.setWriter w { t with pc := .unlockMutex, hasSignalled := true })
  | .unlockMutex =>
    some ({ s with mutex := none }.setWriter w
      (if t.gaveUp then { t with pc := .done } else { t with pc := .testInitializing, signaled := true }))
  | .testInitializing => some (s.setWriter w { t with pc := if s.initializing then .pcmWrite else .clearWriting })
  | .clearWriting => some ({ s with writing := false }.setWriter w { t with pc := .closePcm })
  | .closePcm => some (s.setWriter w { t with pc := .exitTest })
  | .exitTest => some (s.setWriter w { t with pc := if t.signaled then .done else .lockMutex })
  | .absent | .done => none

/-! ## The system -/

/-- One step of the threads. -/
def step (s : Clock) : ClockLabel → Option Clock
  | .call c on => s.stepCall c on
  | .caller c => s.stepCaller c
  | .created c => s.stepCreated c
  | .createFailed c left => s.stepCreateFailed c left
  | .enabled c rc a1 => s.stepEnabled c rc a1
  | .spurious c => s.stepSpurious c
  | .writer w outcome => s.stepWriter w outcome

/-- No thread has started, no lock is taken, and the clock is off; the other fields hold anything. -/
structure Fresh (s : Clock) : Prop where
  tfaLock : s.tfaLock = none
  mutex : s.mutex = none
  cond : s.cond = []
  caller : ∀ c, s.caller c = {}
  writer : ∀ w, s.writer w = {}
  created : s.created = 0
  joins : ∀ w, s.joins w = 0
  calls : s.calls = []
  returns : s.returns = []

/-- A device whose clock fields have their initial values: a fresh one with `clock_enabled` and `writing` false. -/
structure Initialised (s : Clock) : Prop extends s.Fresh where
  clockEnabled : s.clockEnabled = false
  writing : s.writing = false

/-- A device whose memory `malloc` returned with these contents in the clock fields, with no thread started. -/
def raw (initializing clockEnabled writing : Bool) (writeThread : ℕ) (a1 : Int) : Clock where
  tfaLock := none
  mutex := none
  cond := []
  initializing := initializing
  clockEnabled := clockEnabled
  writing := writing
  writeThread := writeThread
  a1 := a1
  caller := fun _ => {}
  writer := fun _ => {}
  created := 0
  joins := fun _ => 0
  calls := []
  returns := []

end Clock

/-- The threads on one initialised device. -/
def clockSystem : Lts Clock ClockLabel where
  init := Clock.Initialised
  step := Clock.step

/-- The label is not a failure of `pthread_create`. -/
def ClockLabel.creates : ClockLabel → Bool
  | .createFailed _ _ => false
  | _ => true

/-- The threads on one initialised device, when every `pthread_create` succeeds. -/
def handshake : Lts Clock ClockLabel := clockSystem.restrict ClockLabel.creates

end Universal7880
