import Universal7880.Camera
import Universal7880.CppText

/-!
# Which cameras reach the vendor

The wrapper compares the camera's id with the number of cameras before it has the vendor open the camera of that name.
`only_existing_cameras` says for which ids that comparison does what it is for.
-/

namespace Universal7880

/-- The name stands for a camera that exists. -/
def IsCamera (env : CameraEnv) (name : CString) : Prop := 0 ≤ atoi name ∧ atoi name < env.numCameras

/-- Only existing cameras reach the vendor: its `open` is called for one only, and for another name the call returns
`-EINVAL`, stores `NULL` and opens nothing. -/
def OnlyExistingReach (env : CameraEnv) (name : CString) (hal : CameraHal) : Prop :=
  ((cameraDeviceOpenTraced env (some name) hal).1 ≠ [] → IsCamera env name) ∧
  (¬ IsCamera env name → (cameraDeviceOpenTraced env (some name) hal).1 = [] ∧
    cameraDeviceOpen env (some name) hal = (⟨-EINVAL, some none⟩, hal))

/-- With the module loaded, `camera_device_open` goes on to open the camera. -/
theorem cameraDeviceOpenTraced_of_loaded {env : CameraEnv} {name : CString} {hal : CameraHal}
    (h : hal.gVendorModule = true) : cameraDeviceOpenTraced env (some name) hal = openCameraTraced env name hal := by
  have hcheck : checkVendorModule env.getModule hal.gVendorModule = (0, hal.gVendorModule) := by
    simp [checkVendorModule, h]
  simp [cameraDeviceOpenTraced, hcheck]

/-- An id above the number of cameras is refused. -/
theorem openCameraTraced_of_above {env : CameraEnv} {name : CString} (hal : CameraHal) (h : env.numCameras < atoi name) :
    openCameraTraced env name hal = ([], ⟨-EINVAL, some none⟩, hal) := by
  simp [openCameraTraced, h]

/-- Any other id goes on to the vendor, or is refused for want of memory. -/
theorem openCameraTraced_of_le {env : CameraEnv} {name : CString} (hal : CameraHal) (h : atoi name ≤ env.numCameras) :
    (openCameraTraced env name hal).1 ≠ [] ∨ openCameraTraced env name hal = ([], ⟨-ENOMEM, some none⟩, hal) := by
  have hrange : ¬ atoi name > env.numCameras := by omega
  simp only [openCameraTraced, if_neg hrange]
  split_ifs with hdevice hvendor hops
  · exact Or.inr rfl
  · exact Or.inl (List.cons_ne_nil _ _)
  · exact Or.inl (List.cons_ne_nil _ _)
  · exact Or.inl (List.cons_ne_nil _ _)

/-- With the vendor's module loaded, only existing cameras reach the vendor exactly if the id is that of a camera, or is
greater than the number of cameras: the number itself and the negative ids get through. -/
theorem only_existing_cameras (env : CameraEnv) (name : CString) (hal : CameraHal) (hloaded : hal.gVendorModule = true) :
    OnlyExistingReach env name hal ↔ IsCamera env name ∨ env.numCameras < atoi name := by
  unfold OnlyExistingReach
  rw [cameraDeviceOpen, cameraDeviceOpenTraced_of_loaded hloaded]
  constructor
  · intro h
    rcases h with ⟨hreach, hrefused⟩
    by_contra hno
    obtain ⟨hcamera, hle⟩ := not_or.1 hno
    rcases openCameraTraced_of_le hal (Int.not_lt.1 hle) with hopen | hmemory
    · exact hcamera (hreach hopen)
    · -- refused, but not for its id
      have heq := (hrefused hcamera).2
      rw [hmemory] at heq
      revert heq
      simp [EINVAL, ENOMEM]
  · intro h
    rcases h with hcamera | habove
    · exact ⟨fun _ => hcamera, fun hno => absurd hcamera hno⟩
    · rw [openCameraTraced_of_above hal habove]
      exact ⟨fun hne => absurd rfl hne, fun _ => ⟨rfl, rfl⟩⟩

/-- The wrapper between calls, with the module loaded and nothing open. -/
def CameraHal.idle : CameraHal := ⟨true, .empty, fun _ => none⟩

/-- Of two cameras, the camera "1" is opened and the camera "7" refused. -/
theorem only_existing_cameras_two :
    OnlyExistingReach .sample (ascii "1") .idle ∧ OnlyExistingReach .sample (ascii "7") .idle :=
  ⟨(only_existing_cameras .sample (ascii "1") .idle rfl).2 (Or.inl ⟨by decide +kernel, by decide +kernel⟩),
    (only_existing_cameras .sample (ascii "7") .idle rfl).2 (Or.inr (by decide +kernel))⟩

/-- Of two cameras, the camera "2" is handed to the vendor. -/
theorem third_of_two_cameras : ¬ ∀ env name hal, hal.gVendorModule = true → 0 ≤ env.numCameras →
    OnlyExistingReach env name hal := by
  intro h
  have hcamera := (h .sample (ascii "2") .idle rfl (by decide)).1 (by decide +kernel)
  exact absurd hcamera.2 (by decide +kernel)

end Universal7880
