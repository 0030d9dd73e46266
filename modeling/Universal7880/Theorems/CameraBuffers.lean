import Universal7880.Theorems.CameraDefaults

/-!
# The buffers that the framework gets

`camera3.h` wants a buffer of default settings to stay valid and unmodified, and lets the device return the same one again.
`buffers_kept`: the wrapper returns a new buffer at every call, with its tags in it, and no call touches the earlier ones; nor
does any call give one back, so the memory holds one buffer more after each call.
-/

namespace Universal7880

variable {σ μ : Type} {api : CameraMetadataApi σ μ}

/-- The buffers that were returned are different ones, hold the entries they had when they were returned, and have the auto
focus of the wrapper in them, and its image stabilisation. -/
structure ReturnedKept (api : CameraMetadataApi σ μ) (lens : LensTags) (hasOis : Bool) (s : SettingsUse μ) : Prop where
  distinct : (s.returned.map Prod.fst).Nodup
  kept : ∀ r ∈ s.returned, api.read s.memory r.1 = some r.2
  paf : ∀ r ∈ s.returned, r.2 PAF_MODE = some (.int32 [PAF_MODE_ON])
  lensMode : hasOis = true → ∀ r ∈ s.returned,
    r.2 lens.opticalStabilizationMode = some (.byte [lens.opticalStabilizationModeOn])

/-- The vendor's device, in a call, and everything else, between calls, leave the buffers that were returned alone. -/
def LeavesReturned (api : CameraMetadataApi σ μ) (vendorSettings : VendorSettings api)
    (t : Lts.Transition (SettingsUse μ) (SettingsLabel μ)) : Prop :=
  match t.label with
  | .construct none _ => True
  | .construct (some device) type => ∀ r ∈ t.src.returned,
      api.read (vendorSettings.construct device.vendor type t.src.memory).2 r.1 = api.read t.src.memory r.1
  | .others memory => ∀ r ∈ t.src.returned, api.read memory r.1 = api.read t.src.memory r.1

/-- The calls that return a buffer: all but those on the device `NULL`. -/
def buffersOf (t : Lts.Transition (SettingsUse μ) (SettingsLabel μ)) : ℕ :=
  match t.label with
  | .construct none _ => 0
  | .construct (some _) _ => 1
  | .others _ => 0

/-- What the wrapper returns is what is released by an object that has made the updates of the wrapper. -/
theorem construct_eq_release (lens : LensTags) (hasOis : Bool) (vendorSettings : VendorSettings api)
    (device : WrapperCameraDevice) (type : Int) (m : μ) :
    ∃ set s m', api.Edits (vendorSettings.construct device.vendor type m).2 s m' (wrapperUpdates lens hasOis type set) ∧
      cameraConstructDefaultRequestSettings api lens hasOis vendorSettings (some device) type m =
        ((api.release s).1, api.destroy (api.release s).2 m') := by
  have hvalid := vendorSettings.valid device.vendor type m
  have hassigned : ∃ set, api.Edits (vendorSettings.construct device.vendor type m).2
      (api.assign api.construct (vendorSettings.construct device.vendor type m).1
        (vendorSettings.construct device.vendor type m).2).1
      (api.assign api.construct (vendorSettings.construct device.vendor type m).1
        (vendorSettings.construct device.vendor type m).2).2 set := by
    cases hsettings : (vendorSettings.construct device.vendor type m).1 with
    | none => exact ⟨_, (CameraMetadataApi.Edits.construct _).assign_null⟩
    | some b =>
      obtain ⟨set, hset⟩ := hvalid b hsettings
      exact ⟨set, (CameraMetadataApi.Edits.construct _).assign_clone hset⟩
  obtain ⟨set, hset⟩ := hassigned
  have hpaf := hset.update PAF_MODE (.int32 [PAF_MODE_ON])
  cases hasOis with
  | false => exact ⟨set, _, _, hpaf, rfl⟩
  | true =>
    have hlens := hpaf.update lens.opticalStabilizationMode (.byte [lens.opticalStabilizationModeOn])
    have hois := hlens.update OIS_OPERATION_MODE (.int32
      [if type = CAMERA3_TEMPLATE_VIDEO_RECORD then OIS_OPERATION_MODE_VIDEO else OIS_OPERATION_MODE_PICTURE])
    exact ⟨set, _, _, hois, rfl⟩

/-- The wrapper returns a buffer that was none when the vendor had answered, with its tags, and keeps the buffers there
were. -/
theorem returns_new (lens : LensTags) (hasOis : Bool) (vendorSettings : VendorSettings api) (device : WrapperCameraDevice)
    (type : Int) (m : μ) :
    ∃ c m' set, cameraConstructDefaultRequestSettings api lens hasOis vendorSettings (some device) type m = (some c, m') ∧
      api.read (vendorSettings.construct device.vendor type m).2 c = none ∧ api.read m' c = some set ∧
      set PAF_MODE = some (.int32 [PAF_MODE_ON]) ∧
      (hasOis = true → set lens.opticalStabilizationMode = some (.byte [lens.opticalStabilizationModeOn])) ∧
      ∀ b set', api.read (vendorSettings.construct device.vendor type m).2 b = some set' → api.read m' b = some set' := by
  obtain ⟨set, s, m', hedits, heq⟩ := construct_eq_release lens hasOis vendorSettings device type m
  have htags := withWrapperTags_wrapperUpdates lens hasOis type set
  obtain ⟨c, hreleased, hread, hframe⟩ := hedits.release htags.paf
  have hown : api.buffer s = some c := (api.release_buffer s).1 ▸ hreleased
  exact ⟨c, _, _, by rw [heq, hreleased], hedits.own c hown, hread, htags.paf, htags.lensMode, hframe⟩

/-- One step keeps the buffers, if nothing else touches them. -/
theorem ReturnedKept.step {lens : LensTags} {hasOis : Bool} {vendorSettings : VendorSettings api}
    {t : Lts.Transition (SettingsUse μ) (SettingsLabel μ)} (ht : (settingsSystem api lens hasOis vendorSettings).Steps t)
    (hleaves : LeavesReturned api vendorSettings t) (h : ReturnedKept api lens hasOis t.src) :
    ReturnedKept api lens hasOis t.dst := by
  rcases t with ⟨s, label, s'⟩
  cases label with
  | others memory =>
    simp only [Lts.Steps, settingsSystem, Option.some.injEq] at ht
    subst ht
    exact ⟨h.distinct, fun r hr => (hleaves r hr).trans (h.kept r hr), h.paf, h.lensMode⟩
  | construct device type =>
    cases device with
    | none =>
      simp only [Lts.Steps, settingsSystem, Option.some.injEq] at ht
      subst ht
      simpa [cameraConstructDefaultRequestSettings] using h
    | some device =>
      obtain ⟨c, m', set, heq, hnew, hread, hpaf, hlens, hframe⟩ :=
        returns_new lens hasOis vendorSettings device type s.memory
      simp only [Lts.Steps, settingsSystem, heq, Option.map_some, Option.toList_some, hread, Option.getD_some,
        Option.some.injEq] at ht
      subst ht
      have hold : ∀ r ∈ s.returned, api.read (vendorSettings.construct device.vendor type s.memory).2 r.1 = some r.2 :=
        fun r hr => (hleaves r hr).trans (h.kept r hr)
      have hdifferent : ∀ r ∈ s.returned, r.1 ≠ c := by
        intro r hr heq
        rw [← heq, hold r hr] at hnew
        cases hnew
      constructor
      case distinct =>
        rw [List.map_append, List.nodup_append]
        refine ⟨h.distinct, by simp, ?_⟩
        intro a ha b hb
        obtain ⟨r, hr, rfl⟩ := List.mem_map.1 ha
        obtain rfl := List.mem_singleton.1 hb
        exact hdifferent r hr
      case kept =>
        intro r hr
        rcases List.mem_append.1 hr with hr | hr
        · exact hframe r.1 r.2 (hold r hr)
        · obtain rfl := List.mem_singleton.1 hr
          exact hread
      case paf =>
        intro r hr
        rcases List.mem_append.1 hr with hr | hr
        · exact h.paf r hr
        · obtain rfl := List.mem_singleton.1 hr
          exact hpaf
      case lensMode =>
        intro hois r hr
        rcases List.mem_append.1 hr with hr | hr
        · exact h.lensMode hois r hr
        · obtain rfl := List.mem_singleton.1 hr
          exact hlens hois

/-- A call on a device adds one buffer to those that were returned, and nothing takes one away. -/
theorem returned_step {lens : LensTags} {hasOis : Bool} {vendorSettings : VendorSettings api}
    {t : Lts.Transition (SettingsUse μ) (SettingsLabel μ)} (ht : (settingsSystem api lens hasOis vendorSettings).Steps t) :
    t.dst.returned.length = t.src.returned.length + buffersOf t := by
  rcases t with ⟨s, label, s'⟩
  cases label with
  | others memory =>
    simp only [Lts.Steps, settingsSystem, Option.some.injEq] at ht
    subst ht
    rfl
  | construct device type =>
    cases device with
    | none =>
      simp only [Lts.Steps, settingsSystem, Option.some.injEq] at ht
      subst ht
      simp [cameraConstructDefaultRequestSettings, buffersOf]
    | some device =>
      obtain ⟨c, m', set, heq, -⟩ := returns_new lens hasOis vendorSettings device type s.memory
      simp only [Lts.Steps, settingsSystem, heq, Option.some.injEq] at ht
      subst ht
      simp [buffersOf]

/-- The buffers of the default settings are different ones, one for each call on a device, and each keeps its entries, in
every run of calls on any devices and templates in which the vendor and the rest of the process leave them alone. -/
theorem buffers_kept (api : CameraMetadataApi σ μ) (lens : LensTags) (hasOis : Bool) (vendorSettings : VendorSettings api)
    (s : SettingsUse μ) (hs : (settingsSystem api lens hasOis vendorSettings).init s) (es : List (SettingsLabel μ))
    (hleaves : (settingsSystem api lens hasOis vendorSettings).Always s es (LeavesReturned api vendorSettings))
    (u : SettingsUse μ) (hrun : (settingsSystem api lens hasOis vendorSettings).run s es = some u) :
    ReturnedKept api lens hasOis u ∧
      u.returned.length = (((settingsSystem api lens hasOis vendorSettings).trace s es).map buffersOf).sum := by
  have hnone : s.returned = [] := hs
  constructor
  · refine Lts.Always.at_end (fun t ht hg h => h.step ht hg) es ?_ hleaves hrun
    constructor <;> simp [hnone]
  · have hcount : u.returned.length =
        s.returned.length + (((settingsSystem api lens hasOis vendorSettings).trace s es).map buffersOf).sum :=
      @Lts.value_at_end _ _ _ (fun _ => True) (fun s => s.returned.length) buffersOf
        (fun t ht _ => ⟨trivial, returned_step ht⟩) _ _ es trivial hrun
    simpa [hnone] using hcount

/-- Two calls on one device, and one on `NULL`. -/
def threeCalls : List (SettingsLabel MetadataHeap) :=
  [.construct (some ⟨0, 1, 2⟩) 1, .construct none 1, .construct (some ⟨0, 1, 2⟩) CAMERA3_TEMPLATE_VIDEO_RECORD]

/-- A vendor whose buffers are new ones leaves the others alone: the two buffers are kept. -/
theorem buffers_kept_threeCalls :
    ∃ u, (settingsSystem MetadataHeap.api .sample true .sample).run ⟨.empty, []⟩ threeCalls = some u ∧
      ReturnedKept MetadataHeap.api .sample true u ∧ u.returned.length = 2 := by
  have hrun : ((settingsSystem MetadataHeap.api .sample true .sample).run ⟨.empty, []⟩ threeCalls).isSome = true := rfl
  obtain ⟨u, hu⟩ := Option.isSome_iff_exists.1 hrun
  have hleaves : (settingsSystem MetadataHeap.api .sample true .sample).Always ⟨.empty, []⟩ threeCalls
      (LeavesReturned MetadataHeap.api .sample) := by
    unfold threeCalls
    rw [Lts.always_cons_some rfl, Lts.always_cons_some rfl, Lts.always_cons_some rfl]
    refine ⟨fun r hr => absurd hr List.not_mem_nil, trivial, ?_, Lts.always_nil _ _ _⟩
    intro r hr
    obtain rfl := List.mem_singleton.1 hr
    rfl
  obtain ⟨hkept, hlength⟩ := buffers_kept MetadataHeap.api .sample true .sample ⟨.empty, []⟩ rfl threeCalls hleaves u hu
  exact ⟨u, hu, hkept, hlength.trans rfl⟩

end Universal7880
