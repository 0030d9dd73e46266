import Universal7880.InitSec

/-!
# The properties after boot

`boot_properties`: for which bootloaders `vendor_load_properties` finishes and leaves the properties of the device, and no
other property changed.
-/

namespace Universal7880

/-- The value of `ro.bootloader`, empty if there is none. -/
def bootloaderOf (store : PropertyStore) : CString := (store "ro.bootloader").getD []

/-- The model that a bootloader names by its first characters. -/
def modelOf (bootloader : CString) : CString := ascii "SM-" ++ bootloader.take 5

/-- The device is that of the variant with this model, or the default device if there is no such variant. -/
structure IsDevice (model device : CString) : Prop where
  known : ∀ variant ∈ allVariants, variant.model = model → device = variant.codename
  unknown : (∀ variant ∈ allVariants, variant.model ≠ model) → device = ascii "a5y17lte"

/-- The seven properties that are overridden. -/
def overridden : List String :=
  ["ro.product.model", "ro.vendor.product.model", "ro.product.device", "ro.vendor.product.device", "ro.product.name",
    "ro.vendor.product.name", "ro.build.product"]

/-- The store after boot: the device, its name and its model in the seven properties, and every other property as it was. -/
structure BootedAs (device : CString) (store store' : PropertyStore) : Prop where
  isDevice : IsDevice (modelOf (bootloaderOf store)) device
  devices : ∀ prop ∈ ["ro.product.device", "ro.vendor.product.device", "ro.build.product"], store' prop = some device
  names : ∀ prop ∈ ["ro.product.name", "ro.vendor.product.name"], store' prop = some (device ++ ascii "xx")
  models : ∀ prop ∈ ["ro.product.model", "ro.vendor.product.model"], store' prop = some (modelOf (bootloaderOf store))
  others : ∀ prop, prop ∉ overridden → store' prop = store prop

theorem propertyOverride_eq (prop : String) (value : CString) (store : PropertyStore) :
    propertyOverride prop value store = Function.update store prop (some value) := by
  unfold propertyOverride systemPropertyUpdate systemPropertyAdd
  exact ite_self _

theorem getProperty_bootloader (store : PropertyStore) : getProperty store "ro.bootloader" [] = bootloaderOf store := by
  unfold getProperty bootloaderOf
  cases store "ro.bootloader" with
  | none => rfl
  | some value => by_cases h : value = [] <;> simp [h]

/-- No codename is empty, and no two variants share a model: the search finds the variant that is meant. -/
theorem isDevice_detectDevice (model : CString) : IsDevice model (detectDevice model) := by
  have hcodename : ∀ variant ∈ allVariants, variant.codename.length ≠ 0 := by decide +kernel
  have hmodel : ∀ v ∈ allVariants, ∀ w ∈ allVariants, v.model = w.model → v = w := by decide +kernel
  unfold detectDevice
  cases hfind : allVariants.find? fun variant => model = variant.model with
  | none =>
    refine ⟨?_, fun _ => rfl⟩
    intro variant hmem heq
    exact absurd heq.symm (by simpa using List.find?_eq_none.1 hfind variant hmem)
  | some found =>
    have hmem := List.mem_of_find?_eq_some hfind
    have hfound : model = found.model := by simpa using List.find?_some hfind
    simp only [if_neg (hcodename found hmem)]
    constructor
    case known =>
      intro variant hvariant heq
      rw [hmodel variant hvariant found hmem (heq.trans hfound)]
    case unknown =>
      intro h
      exact absurd hfound.symm (h found hmem)

/-- The overrides set the seven properties and leave the others as they were. -/
theorem bootedAs_overrideProperties {store : PropertyStore} {device : CString}
    (h : IsDevice (modelOf (bootloaderOf store)) device) :
    BootedAs device store
      (overrideProperties (modelOf (bootloaderOf store)) device (device ++ ascii "xx") store) := by
  simp only [overrideProperties, propertyOverrideDual, propertyOverride_eq]
  refine ⟨h, ?_, ?_, ?_, ?_⟩
  · simp [Function.update_apply]
  · simp [Function.update_apply]
  · simp [Function.update_apply]
  · intro prop hprop
    simp only [overridden, List.mem_cons, List.not_mem_nil, or_false, not_or] at hprop
    simp [hprop]

/-- What `vendor_load_properties` does with a bootloader that is long enough. -/
theorem vendorLoadProperties_of_length {store : PropertyStore} (h : 5 ≤ (bootloaderOf store).length) :
    vendorLoadProperties store =
      .ok (overrideProperties (modelOf (bootloaderOf store)) (detectDevice (modelOf (bootloaderOf store)))
        (detectDevice (modelOf (bootloaderOf store)) ++ ascii "xx") store) := by
  have hmodel : substr (bootloaderOf store) 0 (some MODEL_NAME_LEN) = .ok ((bootloaderOf store).take 5) := by
    simp [substr, MODEL_NAME_LEN]
  have hbuild : substr (bootloaderOf store) MODEL_NAME_LEN none =
      .ok (((bootloaderOf store).drop 5).take (bootloaderOf store).length) :=
    if_neg (Nat.not_lt.2 h)
  simp only [vendorLoadProperties, getProperty_bootloader, hmodel, hbuild]
  rfl

/-- A bootloader that is shorter than a model name ends `vendor_load_properties` with an exception. -/
theorem vendorLoadProperties_of_short {store : PropertyStore} (h : (bootloaderOf store).length < 5) :
    vendorLoadProperties store = .error .outOfRange := by
  have hmodel : substr (bootloaderOf store) 0 (some MODEL_NAME_LEN) = .ok ((bootloaderOf store).take 5) := by
    simp [substr, MODEL_NAME_LEN]
  have hbuild : substr (bootloaderOf store) MODEL_NAME_LEN none = .error .outOfRange := if_pos h
  simp only [vendorLoadProperties, getProperty_bootloader, hmodel, hbuild]
  rfl

/-- `vendor_load_properties` finishes and leaves the properties of the device exactly if the bootloader is at least as long as
the name of a model. -/
theorem boot_properties (store : PropertyStore) :
    (∃ store' device, vendorLoadProperties store = .ok store' ∧ BootedAs device store store') ↔
      5 ≤ (bootloaderOf store).length := by
  constructor
  · intro h
    obtain ⟨store', device, hload, -⟩ := h
    by_contra hshort
    rw [vendorLoadProperties_of_short (by omega)] at hload
    cases hload
  · intro h
    exact ⟨_, _, vendorLoadProperties_of_length h, bootedAs_overrideProperties (isDevice_detectDevice _)⟩

/-- Without the property `ro.bootloader` the boot ends with an exception. -/
theorem no_bootloader_throws :
    ¬ ∀ store, ∃ store' device, vendorLoadProperties store = .ok store' ∧ BootedAs device store store' := by
  intro h
  obtain ⟨store', device, hload, -⟩ := h fun _ => none
  cases hload

end Universal7880
