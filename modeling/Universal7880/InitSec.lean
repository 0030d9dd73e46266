import Universal7880.CppText
import Mathlib.Logic.Function.Basic

/-!
# The boot properties of `init_sec.cpp`

`vendorLoadProperties` chooses the device by the first characters of `ro.bootloader` and overrides seven properties. The
property service is a map from names to values; a C string has no zero byte, so a value goes through `std::string` and back
as it is. Messages to the log are left out. An exception that escapes is an `error`: nothing has been overridden then, as
only the conversions at the beginning can throw.
-/

namespace Universal7880

/-- The properties that exist, by name. -/
abbrev PropertyStore := String → Option CString

/-- `__system_property_update`, on a property that exists. -/
def systemPropertyUpdate (store : PropertyStore) (prop : String) (value : CString) : PropertyStore :=
  Function.update store prop (some value)

/-- `__system_property_add`, for a property that does not exist. -/
def systemPropertyAdd (store : PropertyStore) (prop : String) (value : CString) : PropertyStore :=
  Function.update store prop (some value)

/-- `android::base::GetProperty`: the default stands for a property that does not exist and for an empty value. -/
def getProperty (store : PropertyStore) (key : String) (default : CString) : CString :=
  match store key with
  | none => default
  | some value => if value = [] then default else value

def MODEL_NAME_LEN : ℕ := 5

/-- An entry of `all_variants`. -/
structure Variant where
  model : CString
  codename : CString
  deriving DecidableEq, Repr

def internationalModels : Variant := ⟨ascii "SM-A520F", ascii "a5y17lte"⟩
def canadaModels : Variant := ⟨ascii "SM-A520W", ascii "a5y17ltecan"⟩
def koreaDocomoModels : Variant := ⟨ascii "SM-A520K", ascii "a5y17ltektt"⟩
def koreaUplusModels : Variant := ⟨ascii "SM-A520L", ascii "a5y17ltelgt"⟩
def koreaTelecomModels : Variant := ⟨ascii "SM-A520S", ascii "a5y17lteskt"⟩
def a7InternationalModels : Variant := ⟨ascii "SM-A720F", ascii "a7y17lte"⟩
def a7KoreaTelecomModels : Variant := ⟨ascii "SM-A720S", ascii "a7y17lteskt"⟩

/-- `all_variants`. -/
def allVariants : List Variant :=
  [internationalModels, canadaModels, koreaDocomoModels, koreaUplusModels, koreaTelecomModels, a7InternationalModels,
    a7KoreaTelecomModels]

/-- `property_override`. -/
def propertyOverride (prop : String) (value : CString) (store : PropertyStore) : PropertyStore :=
  if (store prop).isSome then systemPropertyUpdate store prop value else systemPropertyAdd store prop value

/-- `property_override_dual`. -/
def propertyOverrideDual (systemProp vendorProp : String) (value : CString) (store : PropertyStore) : PropertyStore :=
  propertyOverride vendorProp value (propertyOverride systemProp value store)

/-- The part of `vendor_load_properties` that looks for the device: the first variant with the model, and `a5y17lte` if none
is found. -/
def detectDevice (model : CString) : CString :=
  let device :=
    match allVariants.find? fun variant => model = variant.model with
    | none => []
    | some variant => variant.codename
  if device.length = 0 then ascii "a5y17lte" else device

/-- The overrides that end `vendor_load_properties`. -/
def overrideProperties (model device name : CString) (store : PropertyStore) : PropertyStore :=
  let store := propertyOverrideDual "ro.product.model" "ro.vendor.product.model" model store
  let store := propertyOverrideDual "ro.product.device" "ro.vendor.product.device" device store
  let store := propertyOverrideDual "ro.product.name" "ro.vendor.product.name" name store
  propertyOverride "ro.build.product" device store

/-- `vendor_load_properties`. The build, which nothing uses, is taken from the bootloader all the same. -/
def vendorLoadProperties (store : PropertyStore) : Except StdException PropertyStore := do
  let bootloader := getProperty store "ro.bootloader" []
  let blModel ← substr bootloader 0 (some MODEL_NAME_LEN)
  let _blBuild ← substr bootloader MODEL_NAME_LEN none
  let model := ascii "SM-" ++ blModel
  let device := detectDevice model
  let name := device ++ ascii "xx"
  pure (overrideProperties model device name store)

end Universal7880
