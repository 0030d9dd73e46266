import Universal7880.Camera

/-!
# The module functions of `CameraWrapper.cpp`

The wrapper is a camera module in front of another one, the vendor's: five of its functions look the vendor's module up and
hand the call on to the function of the same name. They are one function with parameters, `forwardToVendor`, and
`callModule` is the table of `HAL_MODULE_INFO_SYM` that leads to them. What a call meets is its environment: the code of the
look-up, and what the vendor's function returns if it is called. Pointers are addresses that nothing here reads.
-/

namespace Universal7880

/-- A call of a function of a camera module, with its arguments: of the wrapper's module by the framework, or of the
vendor's by the wrapper. -/
inductive ModuleCall where
  | getCameraInfo (cameraId : Int) (info : ℕ)
  | setCallbacks (callbacks : ℕ)
  | openLegacy (hwModule : ℕ) (id : CString) (halVersion : UInt32) (device : ℕ)
  | setTorchMode (cameraId : CString) (enabled : Bool)
  | init
  deriving DecidableEq, Repr

/-- A call that the vendor's module has received, and what it returned. -/
structure VendorCall where
  call : ModuleCall
  rc : Int
  deriving DecidableEq, Repr

/-- The wrapper's module between calls: whether `gVendorModule` is set, and, as a ghost, the calls that the vendor's module
has received so far, in order. -/
structure CameraModule where
  gVendorModule : Bool
  received : List VendorCall
  deriving DecidableEq, Repr

/-- What a call meets: the code of `hw_get_module_by_class`, which sets the module when that code is zero, and the code of the
vendor's function. -/
structure ModuleEnv where
  getModule : Int
  vendor : Int
  deriving DecidableEq, Repr

/-- The body that the five functions share: a look-up that fails is answered with zero. -/
def forwardToVendor (call : ModuleCall) (env : ModuleEnv) (s : CameraModule) : Int × CameraModule :=
  let (rv, gVendorModule) := checkVendorModule env.getModule s.gVendorModule
  let s := { s with gVendorModule }
  if rv ≠ 0 then (0, s) else (env.vendor, { s with received := s.received ++ [⟨call, env.vendor⟩] })

/-- `camera_get_camera_info`. -/
def cameraGetCameraInfo (cameraId : Int) (info : ℕ) : ModuleEnv → CameraModule → Int × CameraModule :=
  forwardToVendor (.getCameraInfo cameraId info)

/-- `camera_set_callbacks`. -/
def cameraSetCallbacks (callbacks : ℕ) : ModuleEnv → CameraModule → Int × CameraModule :=
  forwardToVendor (.setCallbacks callbacks)

/-- `camera_open_legacy`. -/
def cameraOpenLegacy (hwModule : ℕ) (id : CString) (halVersion : UInt32) (device : ℕ) :
    ModuleEnv → CameraModule → Int × CameraModule :=
  forwardToVendor (.openLegacy hwModule id halVersion device)

/-- `camera_set_torch_mode`. -/
def cameraSetTorchMode (cameraId : CString) (enabled : Bool) : ModuleEnv → CameraModule → Int × CameraModule :=
  forwardToVendor (.setTorchMode cameraId enabled)

/-- `camera_init`. -/
def cameraInit : ModuleEnv → CameraModule → Int × CameraModule := forwardToVendor .init

/-- The functions that `HAL_MODULE_INFO_SYM` names for a call. -/
def callModule : ModuleCall → ModuleEnv → CameraModule → Int × CameraModule
  | .getCameraInfo cameraId info => cameraGetCameraInfo cameraId info
  | .setCallbacks callbacks => cameraSetCallbacks callbacks
  | .openLegacy hwModule id halVersion device => cameraOpenLegacy hwModule id halVersion device
  | .setTorchMode cameraId enabled => cameraSetTorchMode cameraId enabled
  | .init => cameraInit

/-- One call by the framework, and what it meets. -/
structure ModuleLabel where
  call : ModuleCall
  env : ModuleEnv
  deriving DecidableEq, Repr

/-- The runs of the module's functions, from the state in which the wrapper is loaded. -/
def moduleSystem : Lts CameraModule ModuleLabel where
  init := fun s => s = ⟨false, []⟩
  step := fun s label => some (callModule label.call label.env s).2

end Universal7880
