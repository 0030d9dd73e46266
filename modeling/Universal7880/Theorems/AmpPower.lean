import Universal7880.Lemmas.AmpStep

/-!
# One power state for two modes

Each mode of `amp_enable_output_devices` counts its own users, and all modes share one power state. Three results about
its runs: when the amplifier is on while a mode is used (`enabled_while_used`), when an enable that returns zero has
switched it on (`enable_success`), and that only a power-off that failed leaves it on without users (`no_silent_leak`).
-/

namespace Universal7880

/-! ## Users of several modes -/

/-- A disable takes the last user of a mode, or finds none, while another mode has users. -/
def ReleasesShared (hw : AudioHw) (t : Lts.Transition AmpDevice AmpCall) : Prop :=
  t.label.enable = false ∧ ∃ mode, hw.classifySndDevice t.label.devices = some mode ∧ t.src.refcount mode ≤ 1 ∧
    ∃ other, other ≠ mode ∧ 0 < t.src.refcount other

/-- The amplifier is on if a mode is used. -/
def EnabledIfUsed (dev : AmpDevice) : Prop := dev.Used → dev.ampState = .enabled

instance (dev : AmpDevice) : Decidable (EnabledIfUsed dev) := inferInstanceAs (Decidable (dev.Used → _))

instance (hw : AudioHw) : DecidablePred (ReleasesShared hw) := fun t =>
  decidable_of_iff (t.label.enable = false ∧ ∃ mode ∈ hw.classifySndDevice t.label.devices, t.src.refcount mode ≤ 1 ∧
      ((.musicNormal ≠ mode ∧ 0 < t.src.refcount .musicNormal) ∨ (.voice ≠ mode ∧ 0 < t.src.refcount .voice)))
    (by
      refine and_congr_right' (exists_congr fun mode => and_congr_right' (and_congr_right' ?_))
      exact ⟨fun h => h.elim (⟨_, ·⟩) (⟨_, ·⟩), fun ⟨other, h⟩ => by cases other <;> simp [h]⟩)

/-- When every vendor call succeeds, a call leaves the amplifier on for the users exactly if it does not release a shared
use. -/
theorem enabledIfUsed_step {hw : AudioHw} {enableRc : ℕ → Int} (hv : ∀ n, enableRc n = 0)
    {t : Lts.Transition AmpDevice AmpCall} {rc : Int} (hn : t.src.Counted) (hsrc : EnabledIfUsed t.src)
    (h : AmpStep hw enableRc t.src t.label rc t.dst) : EnabledIfUsed t.dst ↔ ¬ ReleasesShared hw t := by
  obtain ⟨dev, call, dev'⟩ := t
  simp only at hn hsrc h
  cases h with
  | ignored hm =>
    refine iff_of_true hsrc ?_
    rintro ⟨-, mode, hmode, -⟩
    rw [hm] at hmode
    cases hmode
  | countUp mode hm he hon =>
    refine iff_of_true ?_ ?_
    · intro _
      rcases hon with hon | hpos
      · exact hon
      · exact hsrc ⟨mode, hpos⟩
    · rintro ⟨hoff, -⟩
      rw [he] at hoff
      cases hoff
  | powerOn mode rc hm he hoff h0 hrc =>
    rw [hv] at hrc
    subst hrc
    refine iff_of_true (fun _ => rfl) ?_
    rintro ⟨hoff, -⟩
    rw [he] at hoff
    cases hoff
  | countDown mode n hm he hno hle hdown =>
    cases hs : dev.ampState with
    | disabled =>
      -- nobody uses the amplifier, so there is nothing to take
      have hu : ¬ dev.Used := fun hu => by rw [hsrc hu] at hs; cases hs
      have hn0 : n = 0 := by
        have := hn.zero hu mode
        omega
      refine iff_of_true ?_ ?_
      · intro hused
        rcases hused with ⟨other, hother⟩
        have h0 := hn.zero hu other
        by_cases ho : other = mode
        · subst ho
          simp [hn0] at hother
        · simp only [AmpDevice.refcount_count, Function.update_of_ne ho] at hother
          omega
      · rintro ⟨-, -, -, -, other, -, hother⟩
        exact hu ⟨other, hother⟩
    | enabled =>
      rcases hno with hoff | hpos
      · rw [hs] at hoff
        cases hoff
      · refine iff_of_true (fun _ => hs) ?_
        rintro ⟨-, mode', hmode', hle', -⟩
        obtain rfl : mode = mode' := Option.some.inj (hm.symm.trans hmode')
        simp only at hle'
        omega
  | powerOff mode rc hm he hon hle hrc =>
    rw [hv] at hrc
    subst hrc
    constructor
    · intro hq hshared
      rcases hshared with ⟨-, mode', hmode', -, other, hne, hother⟩
      obtain rfl : mode = mode' := Option.some.inj (hm.symm.trans hmode')
      have hoff := hq ⟨other, by simpa [Function.update_of_ne hne] using hother⟩
      simp [AmpDevice.ampState_power] at hoff
    · intro hno hused
      rcases hused with ⟨other, hother⟩
      have hne : other ≠ mode := by
        rintro rfl
        simp at hother
      simp only [AmpDevice.refcount_power, AmpDevice.refcount_count, Function.update_of_ne hne] at hother
      exact absurd ⟨he, mode, hm, hle, other, hne, hother⟩ hno

/-- When every vendor call succeeds: the amplifier is on after every call of a run for as long as a mode is used, exactly
when no disable of the run takes the last use of its mode, or finds none, while the other mode has users. -/
theorem enabled_while_used (hw : AudioHw) (enableRc : ℕ → Int) (hv : ∀ n, enableRc n = 0) (tfaDev : TfaDevice)
    (calls : List AmpCall) :
    (ampSystem hw enableRc).Always (ampInit tfaDev) calls (fun t => EnabledIfUsed t.dst) ↔
      (ampSystem hw enableRc).Always (ampInit tfaDev) calls (fun t => ¬ ReleasesShared hw t) := by
  refine Lts.always_iff (J := fun dev => dev.Counted ∧ EnabledIfUsed dev) ?_ ?_ calls
    ⟨counted_ampInit tfaDev, fun hu => absurd hu (not_used_ampInit tfaDev)⟩
  · intro t ht h
    rcases h with ⟨hn, hsrc⟩
    obtain ⟨rc, -, hstep⟩ := ampStep_of_steps ht hn
    exact enabledIfUsed_step hv hn hsrc hstep
  · intro t ht h hq
    obtain ⟨rc, -, hstep⟩ := ampStep_of_steps ht h.1
    exact ⟨counted_ampStep h.1 hstep, hq⟩

/-- Music and voice take turns. -/
theorem enabled_while_used_turns :
    (ampSystem .sample (fun _ => 0)).Always (ampInit .sample) [⟨2, true⟩, ⟨2, false⟩, ⟨11, true⟩, ⟨12, true⟩, ⟨11, false⟩]
      (fun t => EnabledIfUsed t.dst) :=
  (enabled_while_used .sample (fun _ => 0) (fun _ => rfl) .sample _).2 (by decide +kernel)

/-- Music plays, a call starts and ends: the amplifier is off, and music still holds it. -/
theorem shared_power_down :
    ¬ ∀ hw enableRc, (∀ n, enableRc n = 0) → ∀ tfaDev calls,
      (ampSystem hw enableRc).Always (ampInit tfaDev) calls (fun t => EnabledIfUsed t.dst) := by
  intro h
  have hrun := h .sample (fun _ => 0) (fun _ => rfl) .sample [⟨2, true⟩, ⟨11, true⟩, ⟨11, false⟩]
  exact absurd hrun (by decide +kernel)

/-! ## What an enable that returns zero promises -/

/-- The code the call of this step returned. -/
def returned (hw : AudioHw) (enableRc : ℕ → Int) (t : Lts.Transition AmpDevice AmpCall) : Option Int :=
  (ampEnableOutputDevices hw enableRc t.src t.label).map Prod.fst

/-- An enable of a device with a mode that returns zero leaves the amplifier on. -/
def EnablesOnSuccess (hw : AudioHw) (enableRc : ℕ → Int) (t : Lts.Transition AmpDevice AmpCall) : Prop :=
  t.label.enable = true → (hw.classifySndDevice t.label.devices).isSome = true → returned hw enableRc t = some 0 →
    t.dst.ampState = .enabled

/-- An enable finds the amplifier on, or is the first use of its mode. -/
def EnablesFirst (hw : AudioHw) (t : Lts.Transition AmpDevice AmpCall) : Prop :=
  t.label.enable = true → ∀ mode ∈ hw.classifySndDevice t.label.devices,
    t.src.ampState = .enabled ∨ t.src.refcount mode = 0

instance (hw : AudioHw) (enableRc : ℕ → Int) : DecidablePred (EnablesOnSuccess hw enableRc) := fun _ =>
  inferInstanceAs (Decidable (_ → _ → _ → _))

instance (hw : AudioHw) : DecidablePred (EnablesFirst hw) := fun _ => inferInstanceAs (Decidable (_ → _))

/-- Since the run began with this device, `tfa_power` was called, and its last call had this argument and failed. -/
def LastCallFailed (start : TfaDevice) (on : Bool) (dev : AmpDevice) : Prop :=
  ∃ pre rc, rc ≠ 0 ∧ dev.tfaDev.calls = start.calls ++ pre ++ [⟨on, rc⟩]

/-- A call that switches the amplifier is the last one recorded. -/
theorem LastCallFailed.of_power {start : TfaDevice} {dev : AmpDevice} {on : Bool} {rc : Int} (hrc : rc ≠ 0)
    (h : start.calls <+: dev.tfaDev.calls) : LastCallFailed start on (dev.power on rc) := by
  obtain ⟨pre, hpre⟩ := h
  exact ⟨pre, rc, hrc, by simp [hpre]⟩

/-- The calls of the vendor library only grow. -/
theorem calls_ampStep {hw : AudioHw} {enableRc : ℕ → Int} {dev dev' : AmpDevice} {call : AmpCall} {rc : Int}
    (h : AmpStep hw enableRc dev call rc dev') : dev.tfaDev.calls <+: dev'.tfaDev.calls := by
  cases h with
  | ignored _ => exact List.prefix_refl _
  | countUp _ _ _ _ => exact List.prefix_refl _
  | powerOn _ _ _ _ _ _ _ => exact List.prefix_append _ _
  | countDown _ _ _ _ _ _ _ => exact List.prefix_refl _
  | powerOff _ _ _ _ _ _ _ => exact List.prefix_append _ _

/-- An enable keeps its promise exactly when it finds the amplifier on or is the first use of its mode. -/
theorem enablesOnSuccess_step {hw : AudioHw} {enableRc : ℕ → Int} {t : Lts.Transition AmpDevice AmpCall} {rc : Int}
    (hrc : ampEnableOutputDevices hw enableRc t.src t.label = some (rc, t.dst))
    (h : AmpStep hw enableRc t.src t.label rc t.dst) : EnablesOnSuccess hw enableRc t ↔ EnablesFirst hw t := by
  have hret : returned hw enableRc t = some rc := by simp [returned, hrc]
  unfold EnablesOnSuccess EnablesFirst
  rw [hret]
  obtain ⟨dev, call, dev'⟩ := t
  simp only at h ⊢
  cases h with
  | ignored hm => simp [hm]
  | countUp mode hm he hon =>
    simp only [hm, he, Option.isSome_some, Option.mem_def, Option.some.injEq, forall_eq', AmpDevice.ampState_count,
      forall_const]
    exact ⟨Or.inl, fun h => h.elim id (fun h0 => hon.resolve_right (by omega))⟩
  | powerOn mode rc hm he hoff h0 _ =>
    simp only [hm, he, Option.isSome_some, Option.mem_def, Option.some.injEq, forall_eq', forall_const]
    refine iff_of_true ?_ (Or.inr h0)
    intro hz
    simp [AmpDevice.ampState_power, hz]
  | countDown mode n hm he _ _ _ => simp [he]
  | powerOff mode rc hm he _ _ _ => simp [he]

/-- In a run of one mode, the amplifier is off while the mode is used only after a `tfa_power(true)` that failed. -/
theorem off_after_failed_step {hw : AudioHw} {enableRc : ℕ → Int} {start : TfaDevice} {dev dev' : AmpDevice} {call : AmpCall}
    {rc : Int} {mode : TfaMode} (hmode : ∀ m ∈ hw.classifySndDevice call.devices, m = mode)
    (hpre : start.calls <+: dev.tfaDev.calls)
    (hsrc : dev.ampState = .disabled → 0 < dev.refcount mode → LastCallFailed start true dev)
    (h : AmpStep hw enableRc dev call rc dev') (hoff : dev'.ampState = .disabled) (hpos : 0 < dev'.refcount mode) :
    LastCallFailed start true dev' := by
  cases h with
  | ignored _ => exact hsrc hoff hpos
  | countUp m hm he hon =>
    obtain rfl := hmode m hm
    simp only [AmpDevice.ampState_count] at hoff
    rcases hon with hon | hused
    · rw [hoff] at hon
      cases hon
    · exact hsrc hoff hused
  | powerOn m rc hm he hs h0 _ =>
    refine LastCallFailed.of_power ?_ hpre
    intro hrc
    rw [AmpDevice.ampState_power, if_pos hrc] at hoff
    cases hoff
  | countDown m n hm he hno hle hdown =>
    obtain rfl := hmode m hm
    simp only [AmpDevice.refcount_count, Function.update_self] at hpos
    exact hsrc hoff (by omega)
  | powerOff m rc hm he hs hle _ =>
    obtain rfl := hmode m hm
    simp at hpos

/-- What an enable that returns zero promises, in every run of a device `amp_module_open` returned, whatever the vendor's
codes are.
1. Every enable that returns zero leaves the amplifier on exactly if every enable of the run finds it on or is the first
   use of its mode.
2. In a run that uses one mode only, the other enables are those that come while the mode is used after a
   `tfa_power(true)` that failed. -/
theorem enable_success (hw : AudioHw) (enableRc : ℕ → Int) (tfaDev : TfaDevice) (calls : List AmpCall) :
    ((ampSystem hw enableRc).Always (ampInit tfaDev) calls (EnablesOnSuccess hw enableRc) ↔
      (ampSystem hw enableRc).Always (ampInit tfaDev) calls (EnablesFirst hw)) ∧
    ∀ mode, (∀ call ∈ calls, ∀ m ∈ hw.classifySndDevice call.devices, m = mode) →
      (ampSystem hw enableRc).Always (ampInit tfaDev) calls
        (fun t => EnablesFirst hw t ∨ LastCallFailed tfaDev true t.src) := by
  constructor
  · refine Lts.always_iff (J := AmpDevice.Counted) ?_ ?_ calls (counted_ampInit tfaDev)
    · intro t ht hn
      obtain ⟨rc, hrc, hstep⟩ := ampStep_of_steps ht hn
      exact enablesOnSuccess_step hrc hstep
    · intro t ht hn _
      obtain ⟨rc, -, hstep⟩ := ampStep_of_steps ht hn
      exact counted_ampStep hn hstep
  · intro mode hmode
    have hlabels := Lts.Always.of_labels (S := ampSystem hw enableRc) (s := ampInit tfaDev) hmode
    have hrun := Lts.Always.of_guarded (S := ampSystem hw enableRc)
      (J := fun dev => dev.Counted ∧ tfaDev.calls <+: dev.tfaDev.calls ∧
        (dev.ampState = .disabled → 0 < dev.refcount mode → LastCallFailed tfaDev true dev))
      (C := fun t => ∀ m ∈ hw.classifySndDevice t.label.devices, m = mode) ?_ calls
      ⟨counted_ampInit tfaDev, List.prefix_refl _, fun _ h => absurd h (Int.lt_irrefl 0)⟩ hlabels
    · refine (hrun.and hlabels).mono ?_
      intro t ht
      rcases ht with ⟨⟨-, ⟨hn, -, hlast⟩, -⟩, hone⟩
      by_cases hbad : t.src.ampState = .disabled ∧ 0 < t.src.refcount mode
      · exact Or.inr (hlast hbad.1 hbad.2)
      · refine Or.inl ?_
        intro _ m hm
        obtain rfl := hone m hm
        have h0 := hn m
        cases hs : t.src.ampState with
        | enabled => exact Or.inl rfl
        | disabled => exact Or.inr (by have := not_and.1 hbad hs; omega)
    · intro t ht hone h
      rcases h with ⟨hn, hpre, hlast⟩
      obtain ⟨rc, -, hstep⟩ := ampStep_of_steps ht hn
      exact ⟨counted_ampStep hn hstep, hpre.trans (calls_ampStep hstep),
        off_after_failed_step hone hpre hlast hstep⟩

/-- The vendor library fails once; the retry after a disable succeeds. -/
theorem enable_success_retry :
    (ampSystem .sample (fun n => if n = 0 then 7 else 0)).Always (ampInit .sample)
      [⟨2, true⟩, ⟨2, false⟩, ⟨2, true⟩, ⟨2, true⟩, ⟨2, false⟩]
      (EnablesOnSuccess .sample (fun n => if n = 0 then 7 else 0)) :=
  (enable_success .sample _ .sample _).1.2 (by decide +kernel)

/-- A second enable after one that failed returns zero and leaves the amplifier off. -/
theorem enable_not_retried :
    ¬ ∀ hw enableRc mode calls, (∀ call ∈ calls, ∀ m ∈ hw.classifySndDevice call.devices, m = mode) → ∀ tfaDev,
      (ampSystem hw enableRc).Always (ampInit tfaDev) calls (EnablesOnSuccess hw enableRc) := by
  intro h
  have hrun := h .sample (fun _ => 7) .musicNormal [⟨2, true⟩, ⟨2, true⟩] (by decide) .sample
  exact absurd hrun (by decide +kernel)

/-! ## The amplifier on without users -/

/-- After a call that leaves the amplifier on without users, the last call of `tfa_power` was a power-off that failed. -/
theorem on_without_users_step {hw : AudioHw} {enableRc : ℕ → Int} {start : TfaDevice} {dev dev' : AmpDevice} {call : AmpCall}
    {rc : Int} (hn : dev.Counted) (hpre : start.calls <+: dev.tfaDev.calls)
    (hsrc : dev.ampState = .enabled → ¬ dev.Used → LastCallFailed start false dev)
    (h : AmpStep hw enableRc dev call rc dev') (hon : dev'.ampState = .enabled) (hu : ¬ dev'.Used) :
    LastCallFailed start false dev' := by
  cases h with
  | ignored _ => exact hsrc hon hu
  | countUp mode hm he _ =>
    refine absurd ⟨mode, ?_⟩ hu
    have := hn mode
    simp only [AmpDevice.refcount_count, Function.update_self]
    omega
  | powerOn mode rc hm he _ h0 _ => exact absurd ⟨mode, by simp⟩ hu
  | countDown mode n hm he hno hle hdown =>
    simp only [AmpDevice.ampState_count] at hon
    rcases hno with hoff | hpos
    · rw [hon] at hoff
      cases hoff
    · exact absurd ⟨mode, by simpa using hpos⟩ hu
  | powerOff mode rc hm he _ hle _ =>
    refine LastCallFailed.of_power ?_ hpre
    intro hrc
    rw [AmpDevice.ampState_power, if_pos hrc] at hon
    cases hon

/-- A disable that finds the amplifier on without users calls `tfa_power(false)`. -/
theorem disable_without_users {hw : AudioHw} {enableRc : ℕ → Int} {dev : AmpDevice} {call : AmpCall} {mode : TfaMode}
    (hon : dev.ampState = .enabled) (h0 : dev.refcount mode = 0) (he : call.enable = false)
    (hm : hw.classifySndDevice call.devices = some mode) :
    ampEnableOutputDevices hw enableRc dev call =
      some (enableRc dev.tfaDev.calls.length, dev.power false (enableRc dev.tfaDev.calls.length)) := by
  simp [ampEnableOutputDevices, hm, updateRefcount, he, h0, updatePower, hon, tfaPower, AmpDevice.power]

/-- No silent power leak: in every state a run reaches, whatever the vendor's codes are, an amplifier that is on without
users was left so by a `tfa_power(false)` that failed, the last call of the run; and every further disable of a device
with a mode calls `tfa_power(false)` again, which leaves the amplifier off if it returns zero. -/
theorem no_silent_leak (hw : AudioHw) (enableRc : ℕ → Int) (tfaDev : TfaDevice) (calls : List AmpCall) (dev : AmpDevice)
    (hrun : (ampSystem hw enableRc).run (ampInit tfaDev) calls = some dev) (hon : dev.ampState = .enabled)
    (hzero : ∀ mode, dev.refcount mode = 0) :
    LastCallFailed tfaDev false dev ∧
      ∀ call, call.enable = false → (hw.classifySndDevice call.devices).isSome = true →
        ∃ rc dev', ampEnableOutputDevices hw enableRc dev call = some (rc, dev') ∧
          dev'.tfaDev.calls = dev.tfaDev.calls ++ [⟨false, rc⟩] ∧ (rc = 0 → dev'.ampState = .disabled) := by
  constructor
  · have hu : ¬ dev.Used := by
      rintro ⟨mode, hmode⟩
      rw [hzero mode] at hmode
      exact Int.lt_irrefl 0 hmode
    refine (Lts.Always.at_end (S := ampSystem hw enableRc)
      (J := fun dev => dev.Counted ∧ tfaDev.calls <+: dev.tfaDev.calls ∧
        (dev.ampState = .enabled → ¬ dev.Used → LastCallFailed tfaDev false dev))
      (C := fun _ => True) ?step calls ⟨counted_ampInit tfaDev, List.prefix_refl _, fun h => ?off⟩ (fun _ _ => trivial)
      hrun).2.2 hon hu
    case off => cases h
    intro t ht _ h
    rcases h with ⟨hn, hpre, hlast⟩
    obtain ⟨rc, -, hstep⟩ := ampStep_of_steps ht hn
    exact ⟨counted_ampStep hn hstep, hpre.trans (calls_ampStep hstep), on_without_users_step hn hpre hlast hstep⟩
  · intro call he hm
    obtain ⟨mode, hm⟩ := Option.isSome_iff_exists.1 hm
    refine ⟨_, _, disable_without_users hon (hzero mode) he hm, rfl, ?_⟩
    intro hrc
    rw [AmpDevice.ampState_power, if_pos hrc]
    rfl

/-- The vendor library fails to power off once; the next disable tries again. -/
theorem no_silent_leak_retry :
    ∃ dev, (ampSystem .sample (fun n => if n = 1 then -5 else 0)).run (ampInit .sample) [⟨2, true⟩, ⟨2, false⟩] = some dev ∧
      LastCallFailed .sample false dev := by
  have hrun : ((ampSystem .sample (fun n => if n = 1 then -5 else 0)).run (ampInit .sample) [⟨2, true⟩, ⟨2, false⟩]).map
      (fun dev => (dev.ampState, dev.refcount .musicNormal, dev.refcount .voice)) = some (.enabled, 0, 0) := by
    decide +kernel
  obtain ⟨dev, hdev, hstate⟩ := Option.map_eq_some_iff.1 hrun
  obtain ⟨hon, hmusic, hvoice⟩ : dev.ampState = .enabled ∧ dev.refcount .musicNormal = 0 ∧ dev.refcount .voice = 0 := by
    simpa using hstate
  exact ⟨dev, hdev, (no_silent_leak _ _ _ _ dev hdev hon (fun mode => by cases mode <;> assumption)).1⟩

end Universal7880
