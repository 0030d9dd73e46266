import Universal7880.Clock

/-!
# `tfa_device_open`, from raw memory

`malloc` gives the clock fields of `tfa_device_t` any values, and the first `tfa_power(false)` runs before
`tfa_device_open` sets `writing` and `clock_enabled`. A state of `openSystem` is the threads of `Clock` and the statement
`tfa_device_open` executes next; until the device is returned, the thread that opens it is the only one to call
`tfa_power`.
-/

namespace Universal7880

/-- The next statement of `tfa_device_open`, from its first `tfa_power` on: the three calls, the test of each result
(`Ret`), and `initClocks`, the four statements between the first two. -/
inductive OpenPc where
  | powerdown | powerdownRet | initClocks | powerup | powerupRet | powerdown2 | powerdown2Ret | opened | failed
  deriving DecidableEq, Repr

/-- No call of `tfa_power` by `tfa_device_open` is under way. -/
@[simp] def OpenPc.between : OpenPc → Bool
  | .powerdownRet | .powerupRet | .powerdown2Ret => false
  | _ => true

/-- The device while it is opened, and after. -/
structure Opening where
  pc : OpenPc
  clock : Clock

/-- A step: the next statement of `tfa_device_open`, or one of the threads. -/
inductive OpenLabel where
  | opener
  | thread (label : ClockLabel)
  deriving DecidableEq, Repr

/-- The label is a call of `tfa_power`. -/
def ClockLabel.calls : ClockLabel → Bool
  | .call _ _ => true
  | _ => false

namespace Opening

/-- `tfa_device_open` calls `tfa_power`. -/
def power (s : Opening) (opener : CallerId) (on : Bool) (pc : OpenPc) : Option Opening :=
  (s.clock.stepCall opener on).map fun clock => { pc, clock }

/-- Its `tfa_power` has returned, and it tests the code. -/
def tested (s : Opening) (opener : CallerId) (pc : OpenPc) : Option Opening :=
  if (s.clock.caller opener).pc = .idle then
    some { s with pc := if (s.clock.caller opener).rc < 0 then .failed else pc }
  else none

/-- The next statement of `tfa_device_open`. -/
def stepOpener (s : Opening) (opener : CallerId) : Option Opening :=
  match s.pc with
  | .powerdown => s.power opener false .powerdownRet
  | .powerdownRet => s.tested opener .initClocks
  | .initClocks =>
    some { pc := .powerup, clock := { s.clock with writing := false, clockEnabled := false, mutex := none, cond := [] } }
  | .powerup => s.power opener true .powerupRet
  | .powerupRet => s.tested opener .powerdown2
  | .powerdown2 => s.power opener false .powerdown2Ret
  | .powerdown2Ret => s.tested opener .opened
  | .opened | .failed => none

/-- The next statement of a thread. Threads call `tfa_power` once the device is open. -/
def stepThread (s : Opening) (label : ClockLabel) : Option Opening :=
  if label.calls = true ∧ s.pc ≠ .opened then none
  else (s.clock.step label).map fun clock => { s with clock }

def step (opener : CallerId) (s : Opening) : OpenLabel → Option Opening
  | .opener => s.stepOpener opener
  | .thread label => s.stepThread label

end Opening

/-- The runs of one `tfa_device_open` and of the calls of `tfa_power` that follow it, on memory that holds anything. -/
def openSystem (opener : CallerId) : Lts Opening OpenLabel where
  init := fun s => s.pc = .powerdown ∧ s.clock.Fresh
  step := Opening.step opener

end Universal7880
