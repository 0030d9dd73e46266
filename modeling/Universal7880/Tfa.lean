import Universal7880.Ledger
import Mathlib.Data.Int.Notation

/-!
# The amplifier device of `tfa.c`, seen from its callers

`tfaPower`, `loadTfaLib`, `tfaDeviceOpen` and `tfaDeviceClose` are the functions of `tfa.c` run by one thread. What the
vendor library and the system answer is a parameter: `OpenEnv` for one attempt to open, and a sequence of return codes for
the calls of the vendor's `tfa_enable`. The heap blocks and the library handle are resources of a ledger.

The clock handshake inside `tfa_power` (the writer thread, the two mutexes, the condition variable) is the subject of
`Clock`: it drops the result of `tfa_clock_on`, so for its caller `tfa_power` is one call of `tfa_enable` whose code it
returns. That every interleaving of the threads behaves so is `power_refines`, in `Theorems/ClockRefinement.lean`.
-/

namespace Universal7880

/-! ## Error numbers -/

def ENOENT : Int := 2
def ENOMEM : Int := 12
def EBUSY : Int := 16
def ENODEV : Int := 19
def EINVAL : Int := 22

/-! ## The device -/

/-- One call of the vendor's `tfa_enable`: its argument and the code it returned. -/
structure EnableCall where
  on : Bool
  rc : Int
  deriving DecidableEq, Repr

/-- `tfa_device_t`: the resources it holds, and the calls its `tfa_enable` has received so far, in order. -/
structure TfaDevice where
  block : ℕ
  tfaHandle : ℕ
  libHandle : ℕ
  calls : List EnableCall
  deriving DecidableEq, Repr

/-- The device after one more call of `tfa_enable`. -/
def TfaDevice.record (d : TfaDevice) (on : Bool) (rc : Int) : TfaDevice := { d with calls := d.calls ++ [⟨on, rc⟩] }

@[simp] theorem TfaDevice.calls_record (d : TfaDevice) (on : Bool) (rc : Int) :
    (d.record on rc).calls = d.calls ++ [⟨on, rc⟩] := rfl

/-- `tfa_power`: the vendor's `tfa_enable` is called once and its code is returned. The vendor's codes are a sequence,
indexed by the number of the call on this device. -/
def tfaPower (enable : ℕ → Int) (d : TfaDevice) (on : Bool) : Int × TfaDevice :=
  let rc := enable d.calls.length
  (rc, d.record on rc)

/-! ## Opening and closing -/

/-- The kinds of resources the HAL owns: the three heap blocks and the `dlopen` handle. -/
inductive ResourceKind where
  | tfaDevice | tfaHandle | library | ampDevice
  deriving DecidableEq, Repr

/-- What one attempt to open meets: whether each allocation and each step of loading the library succeeds, the code of the
vendor's `tfa_device_open` and the codes of its `tfa_enable`. An `access` that fails sets `errno`, which is positive. -/
structure OpenEnv where
  mallocDevice : Bool
  mallocHandle : Bool
  accessErrno : Option { n : Int // 0 < n }
  dlopen : Bool
  dlsymDeviceOpen : Bool
  dlsymEnable : Bool
  deviceOpen : Int
  enable : ℕ → Int
  callocAmp : Bool

/-- `load_tfa_lib`: its code, the number of the library handle it stored, and the ledger. A `dlsym` that fails leaves the
library open. -/
def loadTfaLib (env : OpenEnv) (heap : Ledger ResourceKind) : Int × ℕ × Ledger ResourceKind :=
  match env.accessErrno with
  | some errno => (-errno.val, heap.next, heap)
  | none =>
    if env.dlopen = false then (-1, heap.next, heap)
    else if env.dlsymDeviceOpen = false then (-1, heap.next, heap.acquire .library)
    else if env.dlsymEnable = false then (-1, heap.next, heap.acquire .library)
    else (0, heap.next, heap.acquire .library)

/-- The three power transitions that end `tfa_device_open`: each is tested with `rc < 0`, so a positive code passes. -/
def powerCycle (enable : ℕ → Int) (d : TfaDevice) : Option TfaDevice :=
  let (rc, d) := tfaPower enable d false
  if rc < 0 then none
  else
    let (rc, d) := tfaPower enable d true
    if rc < 0 then none
    else
      let (rc, d) := tfaPower enable d false
      if rc < 0 then none else some d

/-- `tfa_device_open`: `none` is the `NULL` it returns on an error. No error path frees or closes anything. -/
def tfaDeviceOpen (env : OpenEnv) (heap : Ledger ResourceKind) : Option TfaDevice × Ledger ResourceKind :=
  if env.mallocDevice = false then (none, heap)
  else
    let block := heap.next
    let heap := heap.acquire .tfaDevice
    if env.mallocHandle = false then (none, heap)
    else
      let tfaHandle := heap.next
      let heap := heap.acquire .tfaHandle
      let (rc, libHandle, heap) := loadTfaLib env heap
      if rc < 0 then (none, heap)
      else if env.deviceOpen < 0 then (none, heap)
      else (powerCycle env.enable { block, tfaHandle, libHandle, calls := [] }, heap)

/-- `tfa_device_close`: power off, whatever that returns, then give back the handle, the library and the device. -/
def tfaDeviceClose (enable : ℕ → Int) (d : TfaDevice) (heap : Ledger ResourceKind) : Ledger ResourceKind :=
  let (_, d) := tfaPower enable d false
  ((heap.release (.tfaHandle, d.tfaHandle)).release (.library, d.libHandle)).release (.tfaDevice, d.block)

end Universal7880
