import Universal7880.Amplifier
import Universal7880.ClockOpen

/-!
# The amplifier HAL on its threads

`ampThreads` is `amp_enable_output_devices` on the threads of `Clock`: a call that comes to `tfa_power` makes its thread a
caller there, beside which the writers run, and returns when `tfa_power` does. Any threads may make the calls, one at a time:
the function takes no lock, and the counters and the power state of the device are plain fields.

`ampCalls` is the same function on the device as it is for one thread, with the codes that it returns.
-/

namespace Universal7880

/-- The runs of `amp_enable_output_devices` on one device: a label is a call and the code it returned. -/
def ampCalls (hw : AudioHw) (enableRc : ℕ → Int) : Lts AmpDevice (AmpCall × Int) where
  init := fun dev => ∃ tfaDev, dev = ampInit tfaDev
  step := fun dev label =>
    (ampEnableOutputDevices hw enableRc dev label.1).bind fun r => if r.1 = label.2 then some r.2 else none

/-- The test of `amp_enable_output_devices` that leads to `tfa_power`, on the power state and the counters it has updated. -/
def callsPower (ampState : AmpState) (refcount : TfaMode → Int) (mode : TfaMode) (enable : Bool) : Bool :=
  if enable then ampState = .disabled ∧ refcount mode = 1 else ampState = .enabled ∧ refcount mode = 0

/-- A call of `amp_enable_output_devices` that is in `tfa_power`: its thread, its argument, and, as a ghost, the counters that
it found. -/
structure AmpPending where
  thread : CallerId
  call : AmpCall
  found : TfaMode → Int

/-- The device: its counters and power state, the threads of its clock, and the call that is in `tfa_power`. -/
structure AmpThreads where
  refcount : TfaMode → Int
  ampState : AmpState
  clock : Clock
  pending : Option AmpPending

inductive AmpThreadsLabel where
  /-- A thread calls `amp_enable_output_devices`, up to its `tfa_power` or to its end. -/
  | call (c : CallerId) (call : AmpCall)
  /-- A step of the threads. -/
  | thread (label : ClockLabel)
  deriving DecidableEq, Repr

namespace AmpThreads

/-- `amp_enable_output_devices` on a thread. It is called while no other call of it is under way. -/
def stepCall (hw : AudioHw) (s : AmpThreads) (c : CallerId) (call : AmpCall) : Option AmpThreads :=
  if s.pending.isSome then none
  else
    match hw.classifySndDevice call.devices with
    | none => some s
    | some mode =>
      (updateRefcount s.refcount mode call.enable).bind fun refcount =>
        if callsPower s.ampState refcount mode call.enable then
          (s.clock.stepCall c call.enable).map fun clock =>
            { s with refcount, clock, pending := some { thread := c, call, found := s.refcount } }
        else some { s with refcount }

/-- The code of a `tfa_power` that has returned decides the power state. -/
def returns (s : AmpThreads) (p : AmpPending) : AmpThreads :=
  { s with
    ampState := if (s.clock.caller p.thread).rc = 0 then (if p.call.enable then .enabled else .disabled) else s.ampState
    pending := none }

/-- A step of the threads. When it is the last one of the `tfa_power` under way, the call of the HAL returns as well. -/
def stepThread (s : AmpThreads) (label : ClockLabel) : Option AmpThreads :=
  if label.calls then none
  else
    (s.clock.step label).map fun clock =>
      let s := { s with clock }
      match s.pending with
      | none => s
      | some p => if (clock.caller p.thread).pc = .idle then s.returns p else s

end AmpThreads

/-- The runs of the HAL and its threads on one initialised device. -/
def ampThreads (hw : AudioHw) : Lts AmpThreads AmpThreadsLabel where
  init := fun s => clockSystem.init s.clock ∧ (s.refcount = fun _ => 0) ∧ s.ampState = .disabled ∧ s.pending = none
  step := fun s label =>
    match label with
    | .call c call => s.stepCall hw c call
    | .thread label => s.stepThread label

/-- The label is not a failure of `pthread_create`. -/
def AmpThreadsLabel.creates : AmpThreadsLabel → Bool
  | .call _ _ => true
  | .thread label => label.creates

/-- The HAL and its threads on one initialised device, when every `pthread_create` succeeds. -/
def halHandshake (hw : AudioHw) : Lts AmpThreads AmpThreadsLabel := (ampThreads hw).restrict AmpThreadsLabel.creates

end Universal7880
