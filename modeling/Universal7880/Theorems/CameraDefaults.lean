import Universal7880.CameraSettings

/-!
# The settings that the framework gets

`default_settings`: for which results of the vendor the wrapper returns the vendor's settings with its own tags, and passes on
a fatal error. The object of the class edits a clone (`CameraMetadataApi.Edits`), so the vendor's buffer is not touched.
-/

namespace Universal7880

/-- The settings `set'` are the settings `set` with the tags of the wrapper: no other tag differs. -/
structure WithWrapperTags (lens : LensTags) (hasOis : Bool) (type : Int) (set set' : MetadataSet) : Prop where
  paf : set' PAF_MODE = some (.int32 [PAF_MODE_ON])
  lensMode : hasOis = true →
    set' lens.opticalStabilizationMode = some (.byte [lens.opticalStabilizationModeOn])
  video : hasOis = true → type = CAMERA3_TEMPLATE_VIDEO_RECORD →
    set' OIS_OPERATION_MODE = some (.int32 [OIS_OPERATION_MODE_VIDEO])
  picture : hasOis = true → type ≠ CAMERA3_TEMPLATE_VIDEO_RECORD →
    set' OIS_OPERATION_MODE = some (.int32 [OIS_OPERATION_MODE_PICTURE])
  others : ∀ tag, tag ≠ PAF_MODE →
    (hasOis = true → tag ≠ lens.opticalStabilizationMode ∧ tag ≠ OIS_OPERATION_MODE) → set' tag = set tag

/-- What the wrapper returns, and the memory it leaves, against what the vendor has returned and left. -/
structure DefaultSettings {σ μ : Type} (api : CameraMetadataApi σ μ) (lens : LensTags) (hasOis : Bool) (type : Int)
    (vendor wrapper : Option ℕ × μ) : Prop where
  /-- `NULL` reports a fatal error of the vendor, and nothing else does. -/
  fatal : wrapper.1 = none ↔ vendor.1 = none
  settings : ∀ b r, vendor.1 = some b → wrapper.1 = some r → ∃ set set', api.read vendor.2 b = some set ∧
    api.read wrapper.2 r = some set' ∧ WithWrapperTags lens hasOis type set set'
  /-- The vendor's buffer is as the vendor has left it. -/
  kept : ∀ b, vendor.1 = some b → api.read wrapper.2 b = api.read vendor.2 b

/-- The settings after the updates of the wrapper. -/
def wrapperUpdates (lens : LensTags) (hasOis : Bool) (type : Int) (set : MetadataSet) : MetadataSet :=
  let set := Function.update set PAF_MODE (some (.int32 [PAF_MODE_ON]))
  if hasOis then
    Function.update
      (Function.update set lens.opticalStabilizationMode (some (.byte [lens.opticalStabilizationModeOn])))
      OIS_OPERATION_MODE (some (.int32
        [if type = CAMERA3_TEMPLATE_VIDEO_RECORD then OIS_OPERATION_MODE_VIDEO else OIS_OPERATION_MODE_PICTURE]))
  else set

/-- The three tags differ. -/
theorem LensTags.ne (lens : LensTags) : lens.opticalStabilizationMode ≠ PAF_MODE ∧
    lens.opticalStabilizationMode ≠ OIS_OPERATION_MODE ∧ PAF_MODE ≠ OIS_OPERATION_MODE := by
  have hlens := lens.standard
  refine ⟨?_, ?_, by decide⟩
  · intro h
    rw [h] at hlens
    exact absurd hlens (by decide)
  · intro h
    rw [h] at hlens
    exact absurd hlens (by decide)

theorem withWrapperTags_wrapperUpdates (lens : LensTags) (hasOis : Bool) (type : Int) (set : MetadataSet) :
    WithWrapperTags lens hasOis type set (wrapperUpdates lens hasOis type set) := by
  obtain ⟨hlensPaf, hlensOis, hpafOis⟩ := lens.ne
  cases hasOis with
  | false =>
    constructor
    case paf => simp [wrapperUpdates]
    case others =>
      intro tag hpaf _
      simp [wrapperUpdates, hpaf]
    all_goals exact fun h => absurd h Bool.false_ne_true
  | true =>
    constructor
    case paf => simp [wrapperUpdates, hpafOis, hlensPaf.symm]
    case lensMode => simp [wrapperUpdates, hlensOis]
    case video =>
      intro _ htype
      simp [wrapperUpdates, htype]
    case picture =>
      intro _ htype
      simp [wrapperUpdates, htype]
    case others =>
      intro tag hpaf hois
      obtain ⟨hlens, hop⟩ := hois rfl
      simp [wrapperUpdates, hpaf, hlens, hop]

section Wrapper

variable {σ μ : Type} {api : CameraMetadataApi σ μ}

/-- Once the object has been assigned the vendor's result, the wrapper returns what its updates make of the entries, in a
buffer of its own, and the vendor's buffers are as they were. -/
theorem returns_wrapperUpdates (lens : LensTags) (hasOis : Bool) (vendorSettings : VendorSettings api)
    (device : WrapperCameraDevice) (type : Int) {m m₀ : μ} {settings : Option ℕ} {set : MetadataSet}
    (hvendor : vendorSettings.construct device.vendor type m = (settings, m₀))
    (h : api.Edits m₀ (api.assign api.construct settings m₀).1 (api.assign api.construct settings m₀).2 set) :
    ∃ c m', cameraConstructDefaultRequestSettings api lens hasOis vendorSettings (some device) type m = (some c, m') ∧
      api.read m' c = some (wrapperUpdates lens hasOis type set) ∧
      ∀ b set', api.read m₀ b = some set' → api.read m' b = some set' := by
  have hpaf := h.update PAF_MODE (.int32 [PAF_MODE_ON])
  simp only [cameraConstructDefaultRequestSettings, hvendor]
  cases hasOis with
  | false =>
    obtain ⟨c, hreleased, hread, hframe⟩ := hpaf.release (Function.update_self _ _ _)
    exact ⟨c, _, Prod.ext hreleased rfl, hread, hframe⟩
  | true =>
    have hlens := hpaf.update lens.opticalStabilizationMode (.byte [lens.opticalStabilizationModeOn])
    have hois := hlens.update OIS_OPERATION_MODE (.int32
      [if type = CAMERA3_TEMPLATE_VIDEO_RECORD then OIS_OPERATION_MODE_VIDEO else OIS_OPERATION_MODE_PICTURE])
    obtain ⟨c, hreleased, hread, hframe⟩ := hois.release (Function.update_self _ _ _)
    exact ⟨c, _, Prod.ext hreleased rfl, hread, hframe⟩

end Wrapper

/-- The settings that the framework gets are the vendor's with the tags of the wrapper, and `NULL` where the vendor reports a
fatal error, exactly if the vendor reports none. -/
theorem default_settings {σ μ : Type} (api : CameraMetadataApi σ μ) (lens : LensTags) (hasOis : Bool)
    (vendorSettings : VendorSettings api) (device : WrapperCameraDevice) (type : Int) (m : μ) :
    DefaultSettings api lens hasOis type (vendorSettings.construct device.vendor type m)
        (cameraConstructDefaultRequestSettings api lens hasOis vendorSettings (some device) type m) ↔
      (vendorSettings.construct device.vendor type m).1 ≠ none := by
  have hvalid := vendorSettings.valid device.vendor type m
  rcases hvendor : vendorSettings.construct device.vendor type m with ⟨settings, m₀⟩
  rw [hvendor] at hvalid
  have hconstruct : api.Edits m₀ api.construct m₀ fun _ => none := .construct m₀
  cases settings with
  | none =>
    refine iff_of_false ?_ (fun h => h rfl)
    intro h
    obtain ⟨c, m', hwrapper, -, -⟩ :=
      returns_wrapperUpdates lens hasOis vendorSettings device type hvendor hconstruct.assign_null
    rw [hwrapper] at h
    cases h.fatal.2 rfl
  | some b =>
    refine iff_of_true ?_ (Option.some_ne_none b)
    obtain ⟨set, hset⟩ := hvalid b rfl
    obtain ⟨c, m', hwrapper, hread, hframe⟩ :=
      returns_wrapperUpdates lens hasOis vendorSettings device type hvendor (hconstruct.assign_clone hset)
    rw [hwrapper]
    constructor
    case fatal => exact iff_of_false (Option.some_ne_none c) (Option.some_ne_none b)
    case settings =>
      intro b' r hb hr
      obtain rfl := Option.some.inj hb
      obtain rfl := Option.some.inj hr
      exact ⟨set, _, hset, hread, withWrapperTags_wrapperUpdates lens hasOis type set⟩
    case kept =>
      intro b' hb
      obtain rfl := Option.some.inj hb
      exact (hframe b set hset).trans hset.symm

/-! ## Two vendors -/

/-- The tag and the value of the platform. -/
def LensTags.sample : LensTags := ⟨0x80004, 1, by decide⟩

/-- A memory with no buffers. -/
def MetadataHeap.empty : MetadataHeap := ⟨fun _ => none, 0, fun _ _ => rfl⟩

/-- A vendor that returns a new buffer, with the auto focus off and one other tag. -/
def VendorSettings.sample : VendorSettings MetadataHeap.api where
  construct := fun _ _ m =>
    (some m.next, m.allocate (Function.update (Function.update (fun _ => none) PAF_MODE (some (.int32 [0]))) 5
      (some (.byte [7]))))
  valid := by
    intro vendor type m b hb
    obtain rfl := Option.some.inj hb
    exact ⟨_, MetadataHeap.buffers_allocate_self m _⟩

/-- A vendor that reports a fatal error. -/
def VendorSettings.fatal : VendorSettings MetadataHeap.api where
  construct := fun _ _ m => (none, m)
  valid := by
    intro vendor type m b hb
    cases hb

/-- The settings of a video recording, with the image stabilisation. -/
theorem default_settings_video :
    DefaultSettings MetadataHeap.api .sample true CAMERA3_TEMPLATE_VIDEO_RECORD
      (VendorSettings.sample.construct 1 CAMERA3_TEMPLATE_VIDEO_RECORD .empty)
      (cameraConstructDefaultRequestSettings MetadataHeap.api .sample true .sample (some ⟨0, 1, 2⟩)
        CAMERA3_TEMPLATE_VIDEO_RECORD .empty) :=
  (default_settings MetadataHeap.api .sample true .sample ⟨0, 1, 2⟩ CAMERA3_TEMPLATE_VIDEO_RECORD .empty).2
    (Option.some_ne_none _)

/-- The vendor reports a fatal error, and the framework gets settings with the auto focus alone. -/
theorem fatal_error_hidden :
    ¬ ∀ {σ μ : Type} (api : CameraMetadataApi σ μ) lens hasOis (vendorSettings : VendorSettings api)
      (device : WrapperCameraDevice) type m,
      DefaultSettings api lens hasOis type (vendorSettings.construct device.vendor type m)
        (cameraConstructDefaultRequestSettings api lens hasOis vendorSettings (some device) type m) := by
  intro h
  have hfatal := (h MetadataHeap.api .sample false .fatal ⟨0, 1, 2⟩ 1 .empty).fatal.2 rfl
  exact absurd hfatal (by decide +kernel)

end Universal7880
