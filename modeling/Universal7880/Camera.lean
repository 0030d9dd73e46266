import Universal7880.CString
import Universal7880.Ledger
import Universal7880.Lts
import Universal7880.Tfa
import Mathlib.Data.Finset.Lattice.Basic
import Mathlib.Data.Finset.Option

/-!
# The camera wrapper of `CameraWrapper.cpp`

The wrapper opens the cameras of the vendor's module for the framework: `cameraDeviceOpen` allocates a wrapper device, has
the vendor open its device, and allocates the table of operations; `cameraDeviceClose` undoes the three. Both hold
`gCameraWrapperLock` throughout, so calls do not interleave. What the vendor's module and `malloc` answer is the
environment of a call.

The heap blocks and the vendor's devices are resources of a ledger. The contents of the operation table and the other
fields of the framework's device are left out, as no modelled function reads them.
-/

namespace Universal7880

/-- What the wrapper owns: its device blocks, their operation tables, and the vendor's devices that are open. -/
inductive CameraResource where
  | wrapper | ops | vendorDevice
  deriving DecidableEq, Repr

/-- `wrapper_camera_device_t`: the camera, the vendor's device and the operation table. -/
structure WrapperCameraDevice where
  id : Int
  vendor : ℕ
  ops : ℕ
  deriving DecidableEq, Repr

/-- The wrapper between calls: whether `gVendorModule` is set, what is owned, and the contents of the live device blocks. -/
structure CameraHal where
  gVendorModule : Bool
  heap : Ledger CameraResource
  device : ℕ → Option WrapperCameraDevice

/-- What one call of `camera_device_open` meets: the code of `hw_get_module_by_class`, which sets the module it is asked
for when that code is zero, the number of cameras, whether each `malloc` succeeds, and the code of the vendor's `open`,
which opens a device when that code is zero. -/
structure CameraEnv where
  getModule : Int
  numCameras : Int
  mallocDevice : Bool
  vendorOpen : Int
  mallocOps : Bool
  deriving DecidableEq, Repr

/-- What a call of `camera_device_open` returns: its code, and what it stores in `*device`, if it stores anything;
`some none` is `NULL`. -/
structure CameraResult where
  rv : Int
  device : Option (Option ℕ)
  deriving DecidableEq, Repr

/-- `check_vendor_module`: its code, and whether the module is set after it. A module that was found once is not looked up
again. -/
def checkVendorModule (getModule : Int) (gVendorModule : Bool) : Int × Bool :=
  if gVendorModule then (0, true) else (getModule, getModule = 0)

/-- `camera_device_open` past the look-up of the module, with the names that are handed to the vendor's `open`, in order. Each
failure goes to `fail`, which frees what was allocated and stores `NULL`; a vendor's device that is open stays open. -/
def openCameraTraced (env : CameraEnv) (name : CString) (hal : CameraHal) : List CString × CameraResult × CameraHal :=
  let cameraid := atoi name
  if cameraid > env.numCameras then ([], ⟨-EINVAL, some none⟩, hal)
  else if env.mallocDevice = false then ([], ⟨-ENOMEM, some none⟩, hal)
  else
    let cameraDevice := hal.heap.next
    let heap := hal.heap.acquire .wrapper
    let opens := [name]
    if env.vendorOpen ≠ 0 then
      (opens, ⟨env.vendorOpen, some none⟩, { hal with heap := heap.release (.wrapper, cameraDevice) })
    else
      let vendor := heap.next
      let heap := heap.acquire .vendorDevice
      if env.mallocOps = false then
        (opens, ⟨-ENOMEM, some none⟩, { hal with heap := heap.release (.wrapper, cameraDevice) })
      else
        let cameraOps := heap.next
        let heap := heap.acquire .ops
        (opens, ⟨0, some (some cameraDevice)⟩,
          { hal with
            heap
            device := Function.update hal.device cameraDevice (some { id := cameraid, vendor, ops := cameraOps }) })

/-- `camera_device_open`, with the names that are handed to the vendor's `open`; `none` is the name `NULL`, for which it does
nothing and returns zero. -/
def cameraDeviceOpenTraced (env : CameraEnv) (name : Option CString) (hal : CameraHal) :
    List CString × CameraResult × CameraHal :=
  match name with
  | none => ([], ⟨0, none⟩, hal)
  | some name =>
    let (rv, gVendorModule) := checkVendorModule env.getModule hal.gVendorModule
    let hal := { hal with gVendorModule }
    if rv ≠ 0 then ([], ⟨-EINVAL, none⟩, hal) else openCameraTraced env name hal

/-- `camera_device_open` past the look-up of the module: what it returns, and what it leaves. -/
def openCamera (env : CameraEnv) (name : CString) (hal : CameraHal) : CameraResult × CameraHal :=
  (openCameraTraced env name hal).2

/-- `camera_device_open`: what it returns, and what it leaves. -/
def cameraDeviceOpen (env : CameraEnv) (name : Option CString) (hal : CameraHal) : CameraResult × CameraHal :=
  (cameraDeviceOpenTraced env name hal).2

/-- `camera_device_close`; `none` is the device `NULL`. The code of the vendor's `close` is dropped. There is no step for
a block that holds no device. -/
def cameraDeviceClose (device : Option ℕ) (hal : CameraHal) : Option (Int × CameraHal) :=
  match device with
  | none => some (-EINVAL, hal)
  | some block =>
    match hal.device block with
    | none => none
    | some dev =>
      some (0, { hal with
        heap := ((hal.heap.release (.vendorDevice, dev.vendor)).release (.ops, dev.ops)).release (.wrapper, block)
        device := Function.update hal.device block none })

/-- The wrapper in use: its state, and, as a ghost, the devices returned to the framework that were not closed yet. -/
structure CameraUse where
  hal : CameraHal
  held : Finset ℕ

inductive CameraLabel where
  /-- An attempt to open, and what it meets. -/
  | openDevice (env : CameraEnv) (name : Option CString)
  /-- A device that was returned and not closed yet is closed. -/
  | closeDevice (block : ℕ)
  deriving DecidableEq, Repr

/-- The runs of `camera_device_open` and `camera_device_close`. -/
def cameraSystem : Lts CameraUse CameraLabel where
  init := fun s => s.hal.heap.owned = ∅ ∧ s.hal.gVendorModule = false ∧ s.held = ∅
  step := fun s label =>
    match label with
    | .openDevice env name =>
      let (result, hal) := cameraDeviceOpen env name s.hal
      some { hal, held := s.held ∪ (result.device.join).toFinset }
    | .closeDevice block =>
      if block ∈ s.held then (cameraDeviceClose (some block) s.hal).map fun r => { hal := r.2, held := s.held.erase block }
      else none

/-- A module with two cameras; every allocation and every open succeeds. -/
def CameraEnv.sample : CameraEnv := ⟨0, 2, true, 0, true⟩

end Universal7880
