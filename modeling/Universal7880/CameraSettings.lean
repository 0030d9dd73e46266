import Universal7880.Camera
import Universal7880.CameraMetadata

/-!
# The default request settings of `CameraWrapper.cpp`

`cameraConstructDefaultRequestSettings` has the vendor's device construct the settings of a template, clones them into an
object of `android::CameraMetadata` and sets the tags of the wrapper in the clone: the phase detection auto focus, and, when
built with `HAS_OIS`, the two tags of the optical image stabilisation.

The class is a parameter, and so are the two constants of `camera_metadata_tags.h` and the vendor's device.
-/

namespace Universal7880

def PAF_MODE : UInt32 := 0x80000006
def PAF_MODE_ON : Int32 := 1
def OIS_OPERATION_MODE : UInt32 := 0x80010000
def OIS_OPERATION_MODE_PICTURE : Int32 := 0
def OIS_OPERATION_MODE_VIDEO : Int32 := 1
def CAMERA3_TEMPLATE_VIDEO_RECORD : Int := 3

/-- The tag and the value of `camera_metadata_tags.h` that the wrapper uses. It is a tag of Android's own: the tags of vendors
begin at `0x80000000`. -/
structure LensTags where
  opticalStabilizationMode : UInt32
  opticalStabilizationModeOn : UInt8
  standard : opticalStabilizationMode < 0x80000000

/-- The vendor's `construct_default_request_settings`, on a device of the vendor's and a template: it returns `NULL`, which is
`none`, or a metadata buffer. -/
structure VendorSettings {σ μ : Type} (api : CameraMetadataApi σ μ) where
  construct : ℕ → Int → μ → Option ℕ × μ
  valid : ∀ vendor type m b, (construct vendor type m).1 = some b → ∃ set, api.read (construct vendor type m).2 b = some set

/-- `camera_construct_default_request_settings`; `none` is the device `NULL`. -/
def cameraConstructDefaultRequestSettings {σ μ : Type} (api : CameraMetadataApi σ μ) (lens : LensTags) (hasOis : Bool)
    (vendorSettings : VendorSettings api) (device : Option WrapperCameraDevice) (type : Int) (m : μ) : Option ℕ × μ :=
  match device with
  | none => (none, m)
  | some device =>
    let (settings, m) := vendorSettings.construct device.vendor type m
    let (metadata, m) := api.assign api.construct settings m
    let (metadata, m) := api.update metadata PAF_MODE (.int32 [PAF_MODE_ON]) m
    let (metadata, m) :=
      if hasOis then
        let (metadata, m) := api.update metadata lens.opticalStabilizationMode (.byte [lens.opticalStabilizationModeOn]) m
        let oisOpMode :=
          if type = CAMERA3_TEMPLATE_VIDEO_RECORD then OIS_OPERATION_MODE_VIDEO else OIS_OPERATION_MODE_PICTURE
        api.update metadata OIS_OPERATION_MODE (.int32 [oisOpMode]) m
      else (metadata, m)
    let (released, metadata) := api.release metadata
    (released, api.destroy metadata m)

/-! ## Calls in a run -/

/-- The memory, and, as a ghost, the buffers that were returned to the framework so far, with the entries they had then. -/
structure SettingsUse (μ : Type) where
  memory : μ
  returned : List (ℕ × MetadataSet)

inductive SettingsLabel (μ : Type) where
  /-- A call of `camera_construct_default_request_settings`. -/
  | construct (device : Option WrapperCameraDevice) (type : Int)
  /-- Anything else that happens to the memory. -/
  | others (memory : μ)

/-- The runs of calls, on any devices and templates, with anything in between. -/
def settingsSystem {σ μ : Type} (api : CameraMetadataApi σ μ) (lens : LensTags) (hasOis : Bool)
    (vendorSettings : VendorSettings api) : Lts (SettingsUse μ) (SettingsLabel μ) where
  init := fun s => s.returned = []
  step := fun s label =>
    match label with
    | .construct device type =>
      let (settings, memory) :=
        cameraConstructDefaultRequestSettings api lens hasOis vendorSettings device type s.memory
      some
        { memory
          returned := s.returned ++ (settings.map fun b => (b, (api.read memory b).getD fun _ => none)).toList }
    | .others memory => some { s with memory }

end Universal7880
