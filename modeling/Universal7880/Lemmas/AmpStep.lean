import Universal7880.Amplifier
import Mathlib.Tactic.Common

/-!
# What one call of `amp_enable_output_devices` does

`AmpStep` lists the five things a call can do: nothing, count a user up or down, or count and switch the amplifier on or
off. `ampStep_of_eq` says that the list is complete as long as no counter is negative, which `counted_ampStep` keeps; the
theorems about runs use nothing else of the function.
-/

namespace Universal7880
namespace AmpDevice

/-- The counter of one mode is set. -/
def count (dev : AmpDevice) (mode : TfaMode) (n : Int) : AmpDevice :=
  { dev with refcount := Function.update dev.refcount mode n }

/-- `tfa_power` was called with this argument and returned this code; only a zero code changes the power state. -/
def power (dev : AmpDevice) (on : Bool) (rc : Int) : AmpDevice :=
  { dev with
    tfaDev := dev.tfaDev.record on rc
    ampState := if rc = 0 then (if on then .enabled else .disabled) else dev.ampState }

/-- No counter is negative. -/
def Counted (dev : AmpDevice) : Prop := ∀ mode, 0 ≤ dev.refcount mode

/-- Some mode has a user. -/
def Used (dev : AmpDevice) : Prop := ∃ mode, 0 < dev.refcount mode

instance (dev : AmpDevice) : Decidable dev.Used :=
  decidable_of_iff (0 < dev.refcount .musicNormal ∨ 0 < dev.refcount .voice)
    ⟨fun h => h.elim (⟨_, ·⟩) (⟨_, ·⟩), fun ⟨mode, h⟩ => by cases mode <;> simp [h]⟩

section Updates

variable (dev : AmpDevice) (mode : TfaMode) (n rc : Int) (on : Bool)

@[simp] theorem refcount_count : (dev.count mode n).refcount = Function.update dev.refcount mode n := rfl
@[simp] theorem ampState_count : (dev.count mode n).ampState = dev.ampState := rfl
@[simp] theorem tfaDev_count : (dev.count mode n).tfaDev = dev.tfaDev := rfl
@[simp] theorem refcount_power : (dev.power on rc).refcount = dev.refcount := rfl
@[simp] theorem tfaDev_power : (dev.power on rc).tfaDev = dev.tfaDev.record on rc := rfl

theorem ampState_power :
    (dev.power on rc).ampState = if rc = 0 then (if on then .enabled else .disabled) else dev.ampState := rfl

end Updates

/-- Setting one counter to a number that is not negative leaves no counter negative. -/
theorem Counted.count {dev : AmpDevice} (h : dev.Counted) (mode : TfaMode) {n : Int} (hn : 0 ≤ n) :
    (dev.count mode n).Counted := by
  intro m
  by_cases hm : m = mode
  · subst hm
    simpa using hn
  · simpa [Function.update_of_ne hm] using h m

/-- Without users every counter is zero. -/
theorem Counted.zero {dev : AmpDevice} (h : dev.Counted) (hu : ¬ dev.Used) (mode : TfaMode) : dev.refcount mode = 0 := by
  have h0 := h mode
  have h1 : ¬ 0 < dev.refcount mode := fun hm => hu ⟨mode, hm⟩
  omega

end AmpDevice

/-- What a call can do, the code it returns and the device it leaves. -/
inductive AmpStep (hw : AudioHw) (enableRc : ℕ → Int) (dev : AmpDevice) (call : AmpCall) : Int → AmpDevice → Prop where
  | ignored : hw.classifySndDevice call.devices = none → AmpStep hw enableRc dev call 0 dev
  | countUp (mode : TfaMode) : hw.classifySndDevice call.devices = some mode → call.enable = true →
      (dev.ampState = .enabled ∨ 0 < dev.refcount mode) →
      AmpStep hw enableRc dev call 0 (dev.count mode (dev.refcount mode + 1))
  | powerOn (mode : TfaMode) (rc : Int) : hw.classifySndDevice call.devices = some mode → call.enable = true →
      dev.ampState = .disabled → dev.refcount mode = 0 → rc = enableRc dev.tfaDev.calls.length →
      AmpStep hw enableRc dev call rc ((dev.count mode 1).power true rc)
  | countDown (mode : TfaMode) (n : Int) : hw.classifySndDevice call.devices = some mode → call.enable = false →
      (dev.ampState = .disabled ∨ 0 < n) → 0 ≤ n → (dev.refcount mode = n + 1 ∨ dev.refcount mode = 0 ∧ n = 0) →
      AmpStep hw enableRc dev call 0 (dev.count mode n)
  | powerOff (mode : TfaMode) (rc : Int) : hw.classifySndDevice call.devices = some mode → call.enable = false →
      dev.ampState = .enabled → dev.refcount mode ≤ 1 → rc = enableRc dev.tfaDev.calls.length →
      AmpStep hw enableRc dev call rc ((dev.count mode 0).power false rc)

/-- The power half after the counter of an enable has gone up. -/
theorem ampStep_of_enable {hw : AudioHw} {enableRc : ℕ → Int} {dev dev' : AmpDevice} {call : AmpCall} {rc : Int}
    {mode : TfaMode} (hn : dev.Counted) (hm : hw.classifySndDevice call.devices = some mode) (he : call.enable = true)
    (h : updatePower enableRc (dev.count mode (dev.refcount mode + 1)) mode true = (rc, dev')) :
    AmpStep hw enableRc dev call rc dev' := by
  have hmode := hn mode
  unfold updatePower at h
  split at h
  case isTrue hon =>
    obtain ⟨-, hoff, hone⟩ := hon
    simp only [AmpDevice.refcount_count, Function.update_self] at hone
    have h0 : dev.refcount mode = 0 := by omega
    rw [h0] at h
    obtain ⟨rfl, rfl⟩ := Prod.mk.inj h
    exact .powerOn mode _ hm he hoff h0 rfl
  case isFalse hno =>
    rw [if_neg (by simp)] at h
    obtain ⟨rfl, rfl⟩ := Prod.mk.inj h
    refine .countUp mode hm he ?_
    simp only [true_and, not_and, AmpDevice.ampState_count, AmpDevice.refcount_count, Function.update_self] at hno
    cases hs : dev.ampState with
    | enabled => exact Or.inl rfl
    | disabled =>
      have hne := hno hs
      exact Or.inr (by omega)

/-- The power half after the counter of a disable has gone down to `n`. -/
theorem ampStep_of_disable {hw : AudioHw} {enableRc : ℕ → Int} {dev dev' : AmpDevice} {call : AmpCall} {rc n : Int}
    {mode : TfaMode} (hm : hw.classifySndDevice call.devices = some mode) (he : call.enable = false) (hn : 0 ≤ n)
    (hdown : dev.refcount mode = n + 1 ∨ dev.refcount mode = 0 ∧ n = 0)
    (h : updatePower enableRc (dev.count mode n) mode false = (rc, dev')) : AmpStep hw enableRc dev call rc dev' := by
  unfold updatePower at h
  rw [if_neg (by simp)] at h
  split at h
  case isTrue hoff =>
    obtain ⟨-, hon, hzero⟩ := hoff
    simp only [AmpDevice.refcount_count, Function.update_self] at hzero
    subst hzero
    obtain ⟨rfl, rfl⟩ := Prod.mk.inj h
    exact .powerOff mode _ hm he hon (by omega) rfl
  case isFalse hno =>
    obtain ⟨rfl, rfl⟩ := Prod.mk.inj h
    refine .countDown mode n hm he ?_ hn hdown
    simp only [true_and, not_and, AmpDevice.ampState_count, AmpDevice.refcount_count, Function.update_self] at hno
    cases hs : dev.ampState with
    | disabled => exact Or.inl rfl
    | enabled =>
      have hne := hno hs
      exact Or.inr (by omega)

/-- The list is complete while no counter is negative. -/
theorem ampStep_of_eq {hw : AudioHw} {enableRc : ℕ → Int} {dev dev' : AmpDevice} {call : AmpCall} {rc : Int}
    (hn : dev.Counted) (h : ampEnableOutputDevices hw enableRc dev call = some (rc, dev')) :
    AmpStep hw enableRc dev call rc dev' := by
  unfold ampEnableOutputDevices at h
  cases hm : hw.classifySndDevice call.devices with
  | none =>
    simp only [hm, Option.some.injEq, Prod.mk.injEq] at h
    obtain ⟨rfl, rfl⟩ := h
    exact .ignored hm
  | some mode =>
    simp only [hm, Option.map_eq_some_iff] at h
    obtain ⟨refcount, hcount, hpower⟩ := h
    have hmode := hn mode
    cases he : call.enable with
    | true =>
      simp only [updateRefcount, he, if_true] at hcount hpower
      split at hcount <;> simp only [Option.some.injEq, reduceCtorEq] at hcount
      subst hcount
      exact ampStep_of_enable hn hm he hpower
    | false =>
      simp only [updateRefcount, he, Bool.false_eq_true, if_false] at hcount hpower
      split at hcount <;> simp only [Option.some.injEq] at hcount <;> subst hcount
      case isTrue hpos => exact ampStep_of_disable hm he (by omega) (Or.inl (by omega)) hpower
      case isFalse hpos =>
        have h0 : dev.refcount mode = 0 := by omega
        refine ampStep_of_disable (n := 0) hm he (Int.le_refl 0) (Or.inr ⟨h0, rfl⟩) ?_
        rw [← hpower, AmpDevice.count, ← h0, Function.update_eq_self]

/-- No call makes a counter negative. -/
theorem counted_ampStep {hw : AudioHw} {enableRc : ℕ → Int} {dev dev' : AmpDevice} {call : AmpCall} {rc : Int}
    (hn : dev.Counted) (h : AmpStep hw enableRc dev call rc dev') : dev'.Counted := by
  cases h with
  | ignored _ => exact hn
  | countUp mode _ _ _ => exact hn.count mode (by have := hn mode; omega)
  | powerOn mode _ _ _ _ _ _ => exact hn.count mode (n := 1) (by omega)
  | countDown mode n _ _ _ hle _ => exact hn.count mode hle
  | powerOff mode _ _ _ _ _ _ => exact hn.count mode (n := 0) (Int.le_refl 0)

/-- The device `amp_module_open` returns has no users. -/
@[simp] theorem counted_ampInit (tfaDev : TfaDevice) : (ampInit tfaDev).Counted := fun _ => Int.le_refl 0

theorem not_used_ampInit (tfaDev : TfaDevice) : ¬ (ampInit tfaDev).Used := fun ⟨_, h⟩ => absurd h (Int.lt_irrefl 0)

/-- The steps of a run are calls on devices whose counters are not negative. -/
theorem ampStep_of_steps {hw : AudioHw} {enableRc : ℕ → Int} {t : Lts.Transition AmpDevice AmpCall}
    (ht : (ampSystem hw enableRc).Steps t) (hn : t.src.Counted) :
    ∃ rc, ampEnableOutputDevices hw enableRc t.src t.label = some (rc, t.dst) ∧
      AmpStep hw enableRc t.src t.label rc t.dst := by
  obtain ⟨⟨rc, dev'⟩, h, hdst⟩ := Option.map_eq_some_iff.1 ht
  simp only at hdst
  subst hdst
  exact ⟨rc, h, ampStep_of_eq hn h⟩

/-! ## A platform and a vendor library -/

/-- Constants of a platform. -/
def AudioHw.sample : AudioHw where
  sndDeviceOutSpeaker := 2
  sndDeviceOutVoiceSpeaker := 11
  sndDeviceOutVoiceSpeakerWb := 12
  amplifierHardwareInterface := "amplifier_hw_if"
  distinct := by decide

/-- A vendor library that has received no call. -/
def TfaDevice.sample : TfaDevice := ⟨0, 1, 2, []⟩

/-- An attempt to open in which every step succeeds and the vendor library returns these codes. -/
def OpenEnv.sample (enable : ℕ → Int) : OpenEnv := ⟨true, true, none, true, true, true, 0, enable, true⟩

/-- The HAL when it is loaded. -/
def HalUse.loaded : HalUse := ⟨⟨.empty, none, fun _ => none⟩, ∅⟩

end Universal7880
