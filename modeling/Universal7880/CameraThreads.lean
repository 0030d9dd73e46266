import Universal7880.CameraModule
import Mathlib.Logic.Function.Basic

/-!
# The functions of `CameraWrapper.cpp`, thread by thread

`camera_device_open` and `camera_device_close` hold `gCameraWrapperLock` throughout; the other functions of the module take no
lock, but test and set `gVendorModule` as well. `cameraThreads` is any number of threads in all of these. Every test of the
pointer, every look-up, every call of the vendor and every allocation is a step of its own, and a step that goes through the
pointer needs it to be set. A look-up that fails may leave `NULL` in the pointer: that is up to the library. The framework closes
a device that was returned to it, and closes it once.

`sequentialWrapper` is the same functions, called one at a time.
-/

namespace Universal7880

/-- A call of a function of the module that takes no lock. -/
inductive WrapperCall where
  | forwarded (call : ModuleCall)
  | getNumberOfCameras
  | getVendorTagOps (ops : ℕ)
  deriving DecidableEq, Repr

/-- What a call returns when its function has arrived at this code: `camera_get_vendor_tag_ops` returns nothing. -/
def WrapperCall.returns (call : WrapperCall) (rc : Int) : Option Int :=
  match call with
  | .forwarded _ => some rc
  | .getNumberOfCameras => some rc
  | .getVendorTagOps _ => none

/-! ## One call at a time -/

/-- The wrapper between calls: its state, and, as a ghost, the calls that the vendor's module has received so far, in order,
with what they have returned. -/
structure WrapperUse where
  hal : CameraHal
  received : List (WrapperCall × Option Int)

/-- `check_vendor_module`, on the wrapper. -/
def WrapperUse.check (s : WrapperUse) (getModule : Int) : Int × WrapperUse :=
  let (rv, gVendorModule) := checkVendorModule getModule s.hal.gVendorModule
  (rv, { s with hal := { s.hal with gVendorModule } })

/-- `camera_get_number_of_cameras`. -/
def cameraGetNumberOfCameras (env : ModuleEnv) (s : WrapperUse) : Int × WrapperUse :=
  let (rv, s) := s.check env.getModule
  if rv ≠ 0 then (0, s) else (env.vendor, { s with received := s.received ++ [(.getNumberOfCameras, some env.vendor)] })

/-- `camera_get_vendor_tag_ops`. -/
def cameraGetVendorTagOps (ops : ℕ) (env : ModuleEnv) (s : WrapperUse) : WrapperUse :=
  let (rv, s) := s.check env.getModule
  if rv ≠ 0 then s else { s with received := s.received ++ [(.getVendorTagOps ops, none)] }

/-- The functions of the module that take no lock, with what the vendor's module receives added to what it has received. -/
def callWrapper (call : WrapperCall) (env : ModuleEnv) (s : WrapperUse) : Option Int × WrapperUse :=
  match call with
  | .forwarded call =>
    let (returned, after) := callModule call env { gVendorModule := s.hal.gVendorModule, received := [] }
    (some returned,
      { hal := { s.hal with gVendorModule := after.gVendorModule }
        received := s.received ++ after.received.map fun v => (.forwarded v.call, some v.rc) })
  | .getNumberOfCameras => ((cameraGetNumberOfCameras env s).map some id)
  | .getVendorTagOps ops => (none, cameraGetVendorTagOps ops env s)

/-- A call of one of the functions, what it meets, and what it has returned. -/
inductive SequentialCall where
  | call (call : WrapperCall) (env : ModuleEnv) (returned : Option Int)
  | openDevice (env : CameraEnv) (name : Option CString) (result : CameraResult)
  | closeDevice (device : Option ℕ) (rc : Int)
  deriving DecidableEq, Repr

/-- The runs of calls one at a time, with what they return. -/
def sequentialWrapper : Lts WrapperUse SequentialCall where
  init := fun s => s.hal.heap.owned = ∅ ∧ s.hal.device = (fun _ => none) ∧ s.hal.gVendorModule = false ∧ s.received = []
  step := fun s label =>
    match label with
    | .call call env returned =>
      let (returned', s) := callWrapper call env s
      if returned' = returned then some s else none
    | .openDevice env name result =>
      let (result', hal) := cameraDeviceOpen env name s.hal
      if result' = result then some { s with hal } else none
    | .closeDevice device rc =>
      (cameraDeviceClose device s.hal).bind fun r => if r.1 = rc then some { s with hal := r.2 } else none

/-! ## Threads -/

/-- The functions that call `check_vendor_module`, with their arguments. -/
inductive CheckingCall where
  | call (call : WrapperCall)
  | openDevice (name : CString)
  deriving DecidableEq, Repr

/-- What a thread executes next. In `check_vendor_module`, the test of the pointer (`testing`) and the look-up (`lookingUp`). In
a function without a lock, the vendor's function (`calling`). In `camera_device_open`: to take the lock, the test of the name,
`get_number_of_cameras`, the test of the camera, the first `malloc`, the vendor's `open`, the second `malloc`. In
`camera_device_close`: to take the lock, the vendor's `close`, the two `free`. -/
inductive CameraPc where
  | idle
  | testing (call : CheckingCall)
  | lookingUp (call : CheckingCall)
  | calling (call : WrapperCall)
  | openLock (name : Option CString)
  | openName (name : Option CString)
  | openCount (name : CString)
  | openCompare (name : CString) (numCameras : Int)
  | openMalloc (name : CString) (numCameras : Int)
  | openVendor (name : CString) (numCameras : Int) (cameraDevice : ℕ)
  | openOps (name : CString) (numCameras : Int) (cameraDevice vendor : ℕ)
  | closeLock (device : Option ℕ)
  | closeVendor (device : Option ℕ)
  | closeFree (block : ℕ) (dev : WrapperCameraDevice)
  deriving DecidableEq, Repr

/-- The threads and what they share. Ghosts: what the vendor's module has received, the devices that were returned and that
no thread has begun to close, what the holder of the lock has found, whether a call that found the vendor's module has returned,
and whether a thread has gone through the pointer while it was `NULL`. -/
structure CameraThreads where
  hal : CameraHal
  lock : Option ℕ
  pc : ℕ → CameraPc
  received : List (WrapperCall × Option Int)
  held : Finset ℕ
  before : CameraHal
  found : Bool
  crashed : Bool

/-- What a thread calls. -/
inductive WrapperEntry where
  | call (call : WrapperCall)
  | openDevice (name : Option CString)
  | closeDevice (device : Option ℕ)
  deriving DecidableEq, Repr

inductive CameraThreadLabel where
  /-- A thread calls a function. -/
  | enter (i : ℕ) (entry : WrapperEntry)
  /-- It executes its next statement, one that asks nothing. -/
  | thread (i : ℕ)
  /-- `hw_get_module_by_class` returns to it, and has left `NULL` in the pointer if it says so. -/
  | lookUp (i : ℕ) (code : Int) (clears : Bool)
  /-- The vendor's function, its `get_number_of_cameras`, its `open` or its `close` returns to it. -/
  | vendor (i : ℕ) (rc : Int)
  /-- `malloc` returns to it. -/
  | malloc (i : ℕ) (ok : Bool)
  deriving DecidableEq, Repr

namespace CameraThreads

/-- A thread goes on to its next statement. -/
def goto (s : CameraThreads) (i : ℕ) (pc : CameraPc) : CameraThreads := { s with pc := Function.update s.pc i pc }

/-- A thread returns from its function. It releases the lock if it holds it: the destructor of `Autolock`. -/
def leave (s : CameraThreads) (i : ℕ) : CameraThreads :=
  { s with lock := if s.lock = some i then none else s.lock }.goto i .idle

/-- A thread goes through the pointer. -/
def through (s : CameraThreads) (next : CameraThreads) : CameraThreads :=
  if s.hal.gVendorModule then next else { s with crashed := true }

end CameraThreads

/-- Where a call of `check_vendor_module` goes on when it has found the module. -/
def CheckingCall.next : CheckingCall → CameraPc
  | .call wrapped => .calling wrapped
  | .openDevice name => .openCount name

namespace CameraThreads

def stepEnter (s : CameraThreads) (i : ℕ) (entry : WrapperEntry) : Option CameraThreads :=
  match s.pc i, entry with
  | .idle, .call call => some (s.goto i (.testing (.call call)))
  | .idle, .openDevice name => some (s.goto i (.openLock name))
  | .idle, .closeDevice none => some (s.goto i (.closeLock none))
  | .idle, .closeDevice (some block) =>
    if block ∈ s.held then some { s.goto i (.closeLock (some block)) with held := s.held.erase block } else none
  | _, _ => none

def stepThread (s : CameraThreads) (i : ℕ) : Option CameraThreads :=
  match s.pc i with
  | .testing call => some (s.goto i (if s.hal.gVendorModule then call.next else .lookingUp call))
  | .openLock name =>
    if s.lock = none then some ({ s with lock := some i, before := s.hal }.goto i (.openName name)) else none
  | .openName none => some (s.leave i)
  | .openName (some name) => some (s.goto i (.testing (.openDevice name)))
  | .openCompare name numCameras =>
    if atoi name > numCameras then some { s.leave i with found := true } else some (s.goto i (.openMalloc name numCameras))
  | .closeLock device =>
    if s.lock = none then some ({ s with lock := some i, before := s.hal }.goto i (.closeVendor device)) else none
  | .closeVendor none => some (s.leave i)
  | .closeFree block dev =>
    some ({ s with hal := { s.hal with
      heap := (s.hal.heap.release (.ops, dev.ops)).release (.wrapper, block)
      device := Function.update s.hal.device block none } }.leave i)
  | _ => none

def stepLookUp (s : CameraThreads) (i : ℕ) (code : Int) (clears : Bool) : Option CameraThreads :=
  match s.pc i with
  | .lookingUp call =>
    if code = 0 then some ({ s with hal := { s.hal with gVendorModule := true } }.goto i call.next)
    else
      some ({ s with hal := { s.hal with gVendorModule := if clears then false else s.hal.gVendorModule } }.leave i)
  | _ => none

def stepVendor (s : CameraThreads) (i : ℕ) (rc : Int) : Option CameraThreads :=
  match s.pc i with
  | .calling call =>
    some (s.through { s.leave i with received := s.received ++ [(call, call.returns rc)], found := true })
  | .openCount name => some (s.through (s.goto i (.openCompare name rc)))
  | .openVendor name numCameras cameraDevice =>
    some (s.through
      (if rc ≠ 0 then
        { { s with hal := { s.hal with heap := s.hal.heap.release (.wrapper, cameraDevice) } }.leave i with found := true }
      else
        { s with hal := { s.hal with heap := s.hal.heap.acquire .vendorDevice } }.goto i
          (.openOps name numCameras cameraDevice s.hal.heap.next)))
  | .closeVendor (some block) =>
    (s.hal.device block).map fun dev =>
      { s with hal := { s.hal with heap := s.hal.heap.release (.vendorDevice, dev.vendor) } }.goto i (.closeFree block dev)
  | _ => none

def stepMalloc (s : CameraThreads) (i : ℕ) (ok : Bool) : Option CameraThreads :=
  match s.pc i with
  | .openMalloc name numCameras =>
    if ok = false then some { s.leave i with found := true }
    else
      some ({ s with hal := { s.hal with heap := s.hal.heap.acquire .wrapper } }.goto i
        (.openVendor name numCameras s.hal.heap.next))
  | .openOps name _ cameraDevice vendor =>
    if ok = false then
      some { { s with hal := { s.hal with heap := s.hal.heap.release (.wrapper, cameraDevice) } }.leave i with found := true }
    else
      some { { s with hal := { s.hal with
        heap := s.hal.heap.acquire .ops
        device := Function.update s.hal.device cameraDevice
          (some { id := atoi name, vendor, ops := s.hal.heap.next }) } }.leave i with
            found := true
            held := insert cameraDevice s.held }
  | _ => none

end CameraThreads

/-- The runs of the threads. -/
def cameraThreads : Lts CameraThreads CameraThreadLabel where
  init := fun s => s.hal.heap.owned = ∅ ∧ s.hal.device = (fun _ => none) ∧ s.hal.gVendorModule = false ∧ s.lock = none ∧
    (∀ i, s.pc i = .idle) ∧ s.received = [] ∧ s.held = ∅ ∧ s.found = false ∧ s.crashed = false
  step := fun s label =>
    match label with
    | .enter i entry => s.stepEnter i entry
    | .thread i => s.stepThread i
    | .lookUp i code clears => s.stepLookUp i code clears
    | .vendor i rc => s.stepVendor i rc
    | .malloc i ok => s.stepMalloc i ok

end Universal7880
