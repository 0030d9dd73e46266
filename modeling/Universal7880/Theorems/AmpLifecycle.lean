import Universal7880.Lemmas.AmpOpen
import Universal7880.Lemmas.AmpStep

/-!
# Opening and closing the amplifier

Three results about `amp_module_open` and `amp_dev_close`: what the static pointer `amp_dev` is worth as a guard of the
single instance (`single_instance`), what a failed attempt leaves behind (`failed_open_leaves`), and whether the power
state of a device that was opened tells what the vendor library last reported (`power_state_agrees`).
-/

namespace Universal7880

/-- An attempt to open is one of the five ends of `amp_module_open`. -/
theorem ampOpen_of_steps {hw : AudioHw} {s s' : HalUse} {env : OpenEnv} {name : String}
    (h : (halSystem hw).Steps ⟨s, .openDevice env name, s'⟩) :
    ∃ result hal, ampModuleOpen hw env name s.hal = (result, hal) ∧ AmpOpen hw env name s.hal result hal ∧
      s' = { hal, held := s.held ∪ result.device.toFinset } := by
  refine ⟨_, _, rfl, ampOpen hw env name s.hal, ?_⟩
  change some (HalUse.mk (ampModuleOpen hw env name s.hal).2 _) = some s' at h
  exact (Option.some.inj h).symm

/-! ## The single instance -/

/-- An attempt to open by the right name is refused with `-EBUSY` exactly when a device is held, and `amp_dev` points to
no block that was freed. -/
def SingleInstance (hw : AudioHw) (t : Lts.Transition HalUse HalLabel) : Prop :=
  (match t.label with
    | .openDevice env name => name = hw.amplifierHardwareInterface →
        ((ampModuleOpen hw env name t.src.hal).1.rc = -EBUSY ↔ t.src.held.Nonempty)
    | .closeDevice _ _ => True) ∧
  ∀ block ∈ t.dst.hal.ampDev, (ResourceKind.ampDevice, block) ∈ t.dst.hal.heap.owned

instance (hw : AudioHw) : DecidablePred (SingleInstance hw) := fun ⟨_, label, _⟩ =>
  match label with
  | .openDevice _ _ => inferInstanceAs (Decidable ((_ → (_ ↔ _)) ∧ _))
  | .closeDevice _ _ => inferInstanceAs (Decidable (True ∧ _))

/-- The label is an attempt to open. -/
def HalLabel.opens : HalLabel → Bool
  | .openDevice _ _ => true
  | .closeDevice _ _ => false

/-- The static pointer is the one device that is held. -/
def Guarded (s : HalUse) : Prop :=
  s.hal.ampDev = none ∧ s.held = ∅ ∨
    ∃ block, s.hal.ampDev = some block ∧ s.held = {block} ∧ (ResourceKind.ampDevice, block) ∈ s.hal.heap.owned

/-- An attempt to open keeps the guard and obeys it. -/
theorem guarded_open {hw : AudioHw} {s s' : HalUse} {env : OpenEnv} {name : String}
    (ht : (halSystem hw).Steps ⟨s, .openDevice env name, s'⟩) (h : Guarded s) :
    Guarded s' ∧ SingleInstance hw ⟨s, .openDevice env name, s'⟩ := by
  obtain ⟨result, hal, heq, hopen, rfl⟩ := ampOpen_of_steps ht
  simp only [SingleInstance, heq]
  have howned : ∀ block ∈ s.hal.ampDev, (ResourceKind.ampDevice, block) ∈ s.hal.heap.owned := by
    intro block hblock
    rcases h with ⟨hnone, -⟩ | ⟨b, hb, -, hm⟩
    · rw [hnone] at hblock
      cases hblock
    · obtain rfl : b = block := Option.some.inj (hb.symm.trans hblock)
      exact hm
  have hfree : s.hal.ampDev = none → s.held = ∅ := by
    intro hnone
    rcases h with ⟨-, hheld⟩ | ⟨b, hb, -, -⟩
    · exact hheld
    · rw [hnone] at hb
      cases hb
  cases hopen with
  | wrongName hname => exact ⟨by simpa using h, fun hn => absurd hn hname, howned⟩
  | busy block hname hdev =>
    refine ⟨by simpa using h, fun _ => iff_of_true rfl ?_, howned⟩
    rcases h with ⟨hnone, -⟩ | ⟨b, -, hheld, -⟩
    · rw [hnone] at hdev
      cases hdev
    · rw [hheld]
      exact Finset.singleton_nonempty b
  | noDevice hname hdev hfail =>
    have hheld := hfree hdev
    refine ⟨Or.inl ⟨hdev, by simp [hheld]⟩, fun _ => iff_of_false (by decide) (by simp [hheld]), ?_⟩
    simp [hdev]
  | noMemory hname hdev hopens hcalloc =>
    have hheld := hfree hdev
    refine ⟨Or.inl ⟨rfl, by simp [hheld]⟩, fun _ => iff_of_false (by decide) (by simp [hheld]), ?_⟩
    simp
  | opened tfaDev hname hdev hopens hcalloc hcalls =>
    have hheld := hfree hdev
    refine ⟨Or.inr ⟨_, rfl, by simp [hheld], by simp⟩, fun _ => iff_of_false ?_ (by simp [hheld]), by simp⟩
    simp [EBUSY]

/-- A close leaves `amp_dev` at the block it has freed. -/
theorem not_singleInstance_close {hw : AudioHw} {s s' : HalUse} {enableRc : ℕ → Int} {block : ℕ}
    (ht : (halSystem hw).Steps ⟨s, .closeDevice enableRc block, s'⟩) (h : Guarded s) :
    ¬ SingleInstance hw ⟨s, .closeDevice enableRc block, s'⟩ := by
  simp only [Lts.Steps, halSystem] at ht
  split at ht
  case isFalse => cases ht
  case isTrue hmem =>
    obtain ⟨hal, hclose, rfl⟩ := Option.map_eq_some_iff.1 ht
    unfold ampDevClose at hclose
    split at hclose <;> simp only [Option.some.injEq, reduceCtorEq] at hclose
    subst hclose
    intro hsingle
    have hlive := hsingle.2
    rcases h with ⟨-, hheld⟩ | ⟨b, hb, hheld, -⟩
    · simp [hheld] at hmem
    · obtain rfl : block = b := by simpa [hheld] using hmem
      simpa using hlive block hb

/-- The guard of the single instance, in every run of `amp_module_open` and `amp_dev_close` from the state in which the
HAL is loaded: `-EBUSY` tells that a device is held and `amp_dev` never points to a freed block exactly if the run closes
no device. -/
theorem single_instance (hw : AudioHw) (s : HalUse) (hs : (halSystem hw).init s) (es : List HalLabel) :
    (halSystem hw).Always s es (SingleInstance hw) ↔ (halSystem hw).Always s es (fun t => t.label.opens = true) := by
  refine Lts.always_iff (J := Guarded) ?_ ?_ es (Or.inl ⟨hs.2.1, hs.2.2⟩)
  · intro t ht h
    rcases t with ⟨s, e, s'⟩
    cases e with
    | openDevice env name => exact iff_of_true (guarded_open ht h).2 rfl
    | closeDevice enableRc block => exact iff_of_false (not_singleInstance_close ht h) nofun
  · intro t ht h hq
    rcases t with ⟨s, e, s'⟩
    cases e with
    | openDevice env name => exact (guarded_open ht h).1
    | closeDevice enableRc block => exact absurd hq (not_singleInstance_close ht h)

/-- Two attempts, the second of which is refused. -/
theorem single_instance_refused :
    (halSystem .sample).Always .loaded
      [.openDevice (.sample fun _ => 0) "amplifier_hw_if", .openDevice (.sample fun _ => 0) "amplifier_hw_if"]
      (SingleInstance .sample) :=
  (single_instance .sample .loaded ⟨rfl, rfl, rfl⟩ _).2 (by decide +kernel)

/-- After an open and a close, `amp_dev` points to the freed device, and the next open is refused. -/
theorem refused_after_close :
    ¬ ∀ hw s, (halSystem hw).init s → ∀ es, (halSystem hw).Always s es (SingleInstance hw) := by
  intro h
  have hrun := h .sample .loaded ⟨rfl, rfl, rfl⟩ [.openDevice (.sample fun _ => 0) "amplifier_hw_if",
    .closeDevice (fun _ => 0) 3, .openDevice (.sample fun _ => 0) "amplifier_hw_if"]
  exact absurd hrun (by decide +kernel)

/-! ## Failed attempts -/

/-- An attempt that returns an error leaves the resources of the HAL and `amp_dev` as they were. -/
def LeavesNothing (hw : AudioHw) (t : Lts.Transition HalUse HalLabel) : Prop :=
  match t.label with
  | .openDevice env name => (ampModuleOpen hw env name t.src.hal).1.rc ≠ 0 →
      t.dst.hal.heap.owned = t.src.hal.heap.owned ∧ t.dst.hal.ampDev = t.src.hal.ampDev
  | .closeDevice _ _ => True

/-- The attempt ends before or at its first `malloc`, or no step of it fails. -/
def FailsEarly (hw : AudioHw) (t : Lts.Transition HalUse HalLabel) : Prop :=
  match t.label with
  | .openDevice env name => name ≠ hw.amplifierHardwareInterface ∨ t.src.hal.ampDev ≠ none ∨ env.mallocDevice = false ∨
      env.Opens ∧ env.callocAmp = true
  | .closeDevice _ _ => True

instance (hw : AudioHw) : DecidablePred (LeavesNothing hw) := fun ⟨_, label, _⟩ =>
  match label with
  | .openDevice _ _ => inferInstanceAs (Decidable (_ → _ ∧ _))
  | .closeDevice _ _ => isTrue trivial

instance (hw : AudioHw) : DecidablePred (FailsEarly hw) := fun ⟨_, label, _⟩ =>
  match label with
  | .openDevice _ _ => inferInstanceAs (Decidable (_ ∨ _ ∨ _ ∨ _))
  | .closeDevice _ _ => isTrue trivial

/-- What a failed attempt leaves behind, in every run: each attempt that returns an error leaves the resources and
`amp_dev` as they were exactly if each attempt ends before or at its first `malloc`, or succeeds. -/
theorem failed_open_leaves (hw : AudioHw) (s : HalUse) (es : List HalLabel) :
    (halSystem hw).Always s es (LeavesNothing hw) ↔ (halSystem hw).Always s es (FailsEarly hw) := by
  refine Lts.always_iff (J := fun _ => True) ?_ (fun _ _ _ _ => trivial) es trivial
  intro t ht _
  rcases t with ⟨s, e, s'⟩
  cases e with
  | closeDevice enableRc block => exact Iff.rfl
  | openDevice env name =>
    obtain ⟨result, hal, heq, hopen, rfl⟩ := ampOpen_of_steps ht
    simp only [LeavesNothing, FailsEarly, heq]
    -- past the first `malloc` the block stays owned
    have hleak : env.mallocDevice = true → (tfaDeviceOpen env s.hal.heap).2.owned ≠ s.hal.heap.owned := by
      intro hm h
      have hblock := mem_tfaDeviceOpen s.hal.heap hm
      rw [h] at hblock
      exact s.hal.heap.not_owned_of_le (Nat.le_refl _) hblock
    cases hopen with
    | wrongName hname => exact iff_of_true (fun _ => ⟨rfl, rfl⟩) (Or.inl hname)
    | busy block hname hdev => exact iff_of_true (fun _ => ⟨rfl, rfl⟩) (Or.inr (Or.inl (by rw [hdev]; nofun)))
    | noDevice hname hdev hfail =>
      cases hm : env.mallocDevice with
      | false => exact iff_of_true (fun _ => ⟨by simp [tfaDeviceOpen_of_malloc _ hm], rfl⟩) (Or.inr (Or.inr (Or.inl rfl)))
      | true =>
        refine iff_of_false (fun h => hleak hm (h (by decide)).1) ?_
        intro h
        rcases h with h | h | h | h
        · exact h hname
        · exact h hdev
        · cases h
        · exact hfail h.1
    | noMemory hname hdev hopens hcalloc =>
      have hm := hopens.mallocDevice
      refine iff_of_false (fun h => hleak hm (h (by decide)).1) ?_
      intro h
      rcases h with h | h | h | h
      · exact h hname
      · exact h hdev
      · rw [hm] at h
        cases h
      · rw [hcalloc] at h
        cases h.2
    | opened tfaDev hname hdev hopens hcalloc hcalls =>
      exact iff_of_true (fun h => absurd rfl h) (Or.inr (Or.inr (Or.inr ⟨hopens, hcalloc⟩)))

/-- Attempts that fail at the name and at the first `malloc`, and one that succeeds. -/
theorem failed_open_leaves_early :
    (halSystem .sample).Always .loaded
      [.openDevice (.sample fun _ => 0) "audio_hw_if",
        .openDevice { OpenEnv.sample fun _ => 0 with mallocDevice := false } "amplifier_hw_if",
        .openDevice (.sample fun _ => 0) "amplifier_hw_if"]
      (LeavesNothing .sample) :=
  (failed_open_leaves .sample .loaded _).2 (by decide +kernel)

/-- An attempt whose `dlopen` fails keeps the two blocks it has allocated. -/
theorem failed_open_leaks :
    ¬ ∀ hw s, (halSystem hw).init s → ∀ es, (halSystem hw).Always s es (LeavesNothing hw) := by
  intro h
  have hrun := h .sample .loaded ⟨rfl, rfl, rfl⟩
    [.openDevice { OpenEnv.sample fun _ => 0 with dlopen := false } "amplifier_hw_if"]
  exact absurd hrun (by decide +kernel)

/-! ## The power state and the vendor library -/

/-- What the vendor library last reported: the argument of the last call of `tfa_enable` that returned zero, off before
the first. -/
def TfaDevice.chipOn (d : TfaDevice) : Bool := ((d.calls.filter fun c => c.rc = 0).getLast?).elim false EnableCall.on

/-- The power state is what the vendor library last reported. -/
def Agrees (dev : AmpDevice) : Prop := dev.ampState = .enabled ↔ dev.tfaDev.chipOn = true

instance (dev : AmpDevice) : Decidable (Agrees dev) := inferInstanceAs (Decidable (_ ↔ _))

/-- Only a call that returned zero changes what was last reported. -/
theorem TfaDevice.chipOn_record (d : TfaDevice) (on : Bool) (rc : Int) :
    (d.record on rc).chipOn = if rc = 0 then on else d.chipOn := by
  by_cases h : rc = 0 <;> simp [chipOn, h]

/-- Every call keeps the agreement. -/
theorem agrees_ampStep {hw : AudioHw} {enableRc : ℕ → Int} {dev dev' : AmpDevice} {call : AmpCall} {rc : Int}
    (hsrc : Agrees dev) (h : AmpStep hw enableRc dev call rc dev') : Agrees dev' := by
  have hpower : ∀ mode n on, Agrees ((dev.count mode n).power on rc) := by
    intro mode n on
    unfold Agrees
    rw [AmpDevice.ampState_power, AmpDevice.tfaDev_power, TfaDevice.chipOn_record]
    by_cases hrc : rc = 0
    · cases on <;> simp [hrc]
    · rw [if_neg hrc, if_neg hrc]
      exact hsrc
  cases h with
  | ignored _ => exact hsrc
  | countUp mode _ _ _ => exact hsrc
  | powerOn mode _ _ _ _ _ _ => exact hpower mode 1 true
  | countDown mode n _ _ _ _ _ => exact hsrc
  | powerOff mode _ _ _ _ _ _ => exact hpower mode 0 false

/-- After the power cycle of `tfa_device_open` the amplifier counts as off, which is wrong exactly when the power-up
succeeded and the power-down that follows it did not. -/
theorem agrees_ampInit {tfaDev : TfaDevice} {r0 r1 r2 : Int} (hcalls : tfaDev.calls = [⟨false, r0⟩, ⟨true, r1⟩, ⟨false, r2⟩])
    (h2 : 0 ≤ r2) : Agrees (ampInit tfaDev) ↔ ¬ (r1 = 0 ∧ 0 < r2) := by
  have hoff : (ampInit tfaDev).ampState ≠ .enabled := nofun
  have hrecord : tfaDev = ((({ tfaDev with calls := [] } : TfaDevice).record false r0).record true r1).record false r2 := by
    simp [TfaDevice.record, ← hcalls]
  have hchip : tfaDev.chipOn = true ↔ r2 ≠ 0 ∧ r1 = 0 := by
    rw [hrecord, TfaDevice.chipOn_record, TfaDevice.chipOn_record, TfaDevice.chipOn_record]
    by_cases h2 : r2 = 0 <;> by_cases h1 : r1 = 0 <;> simp [h1, h2, TfaDevice.chipOn]
  constructor
  · intro h hbad
    rcases hbad with ⟨h1, hpos⟩
    exact hoff (h.2 (hchip.2 ⟨by omega, h1⟩))
  · intro h
    refine iff_of_false hoff ?_
    intro hon
    obtain ⟨hne, h1⟩ := hchip.1 hon
    exact h ⟨h1, by omega⟩

/-- The power state of a device that `amp_module_open` has returned, after the open and after every call of any run, is
what the vendor library last reported exactly if the power-up of the open did not return zero or the power-down after it
did not return a positive code. -/
theorem power_state_agrees (hw : AudioHw) (env : OpenEnv) (name : String) (hal : Hal)
    (hrc : (ampModuleOpen hw env name hal).1.rc = 0) (calls : List AmpCall) :
    ∃ block dev, (ampModuleOpen hw env name hal).1.device = some block ∧
      (ampModuleOpen hw env name hal).2.device block = some dev ∧
      (Agrees dev ∧ (ampSystem hw env.enable).Always dev calls (fun t => Agrees t.dst) ↔
        ¬ (env.enable 1 = 0 ∧ 0 < env.enable 2)) := by
  have hopen := ampOpen hw env name hal
  revert hrc hopen
  generalize (ampModuleOpen hw env name hal).1 = result, (ampModuleOpen hw env name hal).2 = hal'
  intro hrc hopen
  cases hopen with
  | wrongName _ | busy _ _ _ | noDevice _ _ _ | noMemory _ _ _ _ => exact absurd hrc (by decide)
  | opened tfaDev hname hdev hopens hcalloc hcalls =>
    refine ⟨_, ampInit tfaDev, rfl, by simp, ?_⟩
    have hinit := agrees_ampInit hcalls hopens.powerdown2
    refine ⟨fun h => hinit.1 h.1, fun h => ⟨hinit.2 h, ?_⟩⟩
    refine (Lts.Always.of_step (S := ampSystem hw env.enable) (J := fun dev => dev.Counted ∧ Agrees dev) ?_ calls
      ⟨counted_ampInit tfaDev, hinit.2 h⟩).mono (fun t ht => ht.2.2.2)
    rintro t ht ⟨hn, hsrc⟩
    obtain ⟨rc, -, hstep⟩ := ampStep_of_steps ht hn
    exact ⟨counted_ampStep hn hstep, agrees_ampStep hsrc hstep⟩

/-- The power-up of the open fails with a positive code, which the open ignores; the power state is right, also after an
enable. -/
theorem power_state_agrees_positive :
    ∃ block dev,
      (ampModuleOpen .sample (.sample fun n => if n = 1 then 4 else 0) "amplifier_hw_if" HalUse.loaded.hal).2.device block =
        some dev ∧
      Agrees dev ∧ (ampSystem .sample fun n => if n = 1 then 4 else 0).Always dev [⟨2, true⟩] (fun t => Agrees t.dst) := by
  obtain ⟨block, dev, -, hdev, hagree⟩ := power_state_agrees .sample (.sample fun n => if n = 1 then 4 else 0)
    "amplifier_hw_if" HalUse.loaded.hal (by decide +kernel) [⟨2, true⟩]
  exact ⟨block, dev, hdev, hagree.2 (by decide)⟩

/-- A power-down that ends the open with a positive code leaves the amplifier on, and the HAL counts it as off. -/
theorem positive_powerdown :
    ¬ ∀ hw env name hal calls block dev, (ampModuleOpen hw env name hal).1.rc = 0 →
      (ampModuleOpen hw env name hal).1.device = some block → (ampModuleOpen hw env name hal).2.device block = some dev →
      Agrees dev ∧ (ampSystem hw env.enable).Always dev calls (fun t => Agrees t.dst) := by
  intro h
  have hopen := h .sample (.sample fun n => if n = 2 then 4 else 0) "amplifier_hw_if" HalUse.loaded.hal [] 3
    (ampInit ⟨0, 1, 2, [⟨false, 0⟩, ⟨true, 0⟩, ⟨false, 4⟩]⟩) (by decide +kernel) (by decide +kernel) rfl
  exact absurd hopen.1 (by decide +kernel)

end Universal7880
