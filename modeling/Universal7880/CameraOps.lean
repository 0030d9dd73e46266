import Universal7880.Camera
import Universal7880.Sessions

/-!
# The operations of the camera device in `CameraWrapper.cpp`

The table that `camera_device_open` fills leads to seven functions, which hand the call on to the function of the same name of
the vendor's device behind the wrapper: the macro `VENDOR_CALL`. They are one function with parameters, `forwardToDevice`, and
`callOperation` is the table. Of `camera_construct_default_request_settings` only the call to the vendor is here; what it
makes of the settings has a module of its own. Pointers are addresses that nothing here reads.

`sessionSystem` is the wrapper in use with two ghosts: what has happened to its devices, as the framework sees it, and what
has happened to the vendor's devices. The operations take no lock; the framework does not close a device while it is in one.
-/

namespace Universal7880

/-- A call of an operation of a camera device, with its arguments: of a wrapper by the framework, or of a device of the
vendor's by the wrapper. -/
inductive DeviceCall where
  | initializeWith (callbackOps : ℕ)
  | configureStreams (streamList : ℕ)
  | constructDefaultRequestSettings (type : Int)
  | processCaptureRequest (request : ℕ)
  | getMetadataVendorTagOps (ops : ℕ)
  | dump (fd : Int)
  | flush
  deriving DecidableEq, Repr

/-- What happens to a device; a call comes with the code that it has returned, if it returns one. -/
abbrev DeviceEvent := Session.Event ℕ (DeviceCall × Option Int)

/-- The body that the operations share: `onNull` is what they return for the device `NULL`, and `answer` what the vendor's
function returns if it is called. Delivers the code that is returned, and what happens to the vendor's devices. There is no
step for a block that holds no device. -/
def forwardToDevice (onNull : Option Int) (call : DeviceCall) (answer : Option Int) (device : Option ℕ) (hal : CameraHal) :
    Option (Option Int × List DeviceEvent) :=
  match device with
  | none => some (onNull, [])
  | some block => (hal.device block).map fun dev => (answer, [.called dev.vendor (call, answer)])

/-- `camera_initialize`. -/
def cameraInitialize (callbackOps : ℕ) (rc : Int) : Option ℕ → CameraHal → Option (Option Int × List DeviceEvent) :=
  forwardToDevice (some (-ENODEV)) (.initializeWith callbackOps) (some rc)

/-- `camera_configure_streams`. -/
def cameraConfigureStreams (streamList : ℕ) (rc : Int) : Option ℕ → CameraHal → Option (Option Int × List DeviceEvent) :=
  forwardToDevice (some (-ENODEV)) (.configureStreams streamList) (some rc)

/-- The call that `camera_construct_default_request_settings` makes. -/
def cameraConstructDefaultRequestSettingsCall (type : Int) :
    Option ℕ → CameraHal → Option (Option Int × List DeviceEvent) :=
  forwardToDevice none (.constructDefaultRequestSettings type) none

/-- `camera_process_capture_request`. -/
def cameraProcessCaptureRequest (request : ℕ) (rc : Int) : Option ℕ → CameraHal → Option (Option Int × List DeviceEvent) :=
  forwardToDevice (some (-ENODEV)) (.processCaptureRequest request) (some rc)

/-- `camera_get_metadata_vendor_tag_ops`, which returns nothing. -/
def cameraGetMetadataVendorTagOps (ops : ℕ) : Option ℕ → CameraHal → Option (Option Int × List DeviceEvent) :=
  forwardToDevice none (.getMetadataVendorTagOps ops) none

/-- `camera_dump`, which returns nothing. -/
def cameraDump (fd : Int) : Option ℕ → CameraHal → Option (Option Int × List DeviceEvent) :=
  forwardToDevice none (.dump fd) none

/-- `camera_flush`. -/
def cameraFlush (rc : Int) : Option ℕ → CameraHal → Option (Option Int × List DeviceEvent) :=
  forwardToDevice (some (-ENODEV)) .flush (some rc)

/-- The functions that the table of operations names for a call; `rc` is what the vendor's function returns, if it returns a
code. -/
def callOperation (call : DeviceCall) (rc : Int) : Option ℕ → CameraHal → Option (Option Int × List DeviceEvent) :=
  match call with
  | .initializeWith callbackOps => cameraInitialize callbackOps rc
  | .configureStreams streamList => cameraConfigureStreams streamList rc
  | .constructDefaultRequestSettings type => cameraConstructDefaultRequestSettingsCall type
  | .processCaptureRequest request => cameraProcessCaptureRequest request rc
  | .getMetadataVendorTagOps ops => cameraGetMetadataVendorTagOps ops
  | .dump fd => cameraDump fd
  | .flush => cameraFlush rc

/-- What an attempt to open makes happen to the vendor's devices: the vendor's `open`, if it is called and returns zero, has
opened the one that is acquired next after the wrapper. -/
def vendorOpened (env : CameraEnv) (name : Option CString) (hal : CameraHal) : List DeviceEvent :=
  if env.vendorOpen = 0 then (cameraDeviceOpenTraced env name hal).1.map fun _ => .opened (hal.heap.next + 1) else []

/-- How far a device has come in the sequence of `camera3.h`. -/
inductive Camera3Phase where
  | opened | initialized | configured
  deriving DecidableEq, Repr

/-- The sequence that `camera3.h` documents: `initialize` is called once, before every other operation, and streams are
configured before a request is submitted. -/
def camera3Sequence : Session.Interface Camera3Phase (DeviceCall × Option Int) where
  start := .opened
  accept := fun phase call =>
    match phase, call.1 with
    | .opened, .initializeWith _ => some .initialized
    | .opened, _ => none
    | _, .initializeWith _ => none
    | _, .configureStreams _ => some .configured
    | .initialized, .processCaptureRequest _ => none
    | phase, _ => some phase

/-- The wrapper in use, what has happened to its devices, and what has happened to the vendor's. -/
structure CameraSession where
  use : CameraUse
  framework : List DeviceEvent
  vendor : List DeviceEvent

inductive SessionLabel where
  /-- An attempt to open, and what it meets. -/
  | openDevice (env : CameraEnv) (name : Option CString)
  /-- An operation on a device that was returned and not closed yet, or on `NULL`, and the code of the vendor's function. -/
  | operate (device : Option ℕ) (call : DeviceCall) (rc : Int)
  /-- A device that was returned and not closed yet is closed. -/
  | closeDevice (block : ℕ)
  deriving DecidableEq, Repr

/-- The runs of the wrapper in use. -/
def sessionSystem : Lts CameraSession SessionLabel where
  init := fun s => cameraSystem.init s.use ∧ s.framework = [] ∧ s.vendor = []
  step := fun s label =>
    match label with
    | .openDevice env name =>
      (cameraSystem.step s.use (.openDevice env name)).map fun use =>
        { use
          framework := s.framework ++ ((cameraDeviceOpen env name s.use.hal).1.device.join.map .opened).toList
          vendor := s.vendor ++ vendorOpened env name s.use.hal }
    | .operate device call rc =>
      if device.all (fun block => block ∈ s.use.held) then
        (callOperation call rc device s.use.hal).map fun r =>
          { s with
            framework := s.framework ++ (device.map fun block => .called block (call, r.1)).toList
            vendor := s.vendor ++ r.2 }
      else none
    | .closeDevice block =>
      (cameraSystem.step s.use (.closeDevice block)).map fun use =>
        { use
          framework := s.framework ++ [.closed block]
          vendor := s.vendor ++ ((s.use.hal.device block).map fun dev => .closed dev.vendor).toList }

end Universal7880
