import Universal7880.Theorems.AmpLifecycle

/-!
# The resources of the HAL over its life

What the HAL owns after any run of `amp_module_open` and `amp_dev_close`, to the last block: `resource_accounting`. A device
that is open owns four resources, and a close gives back those four. A failed attempt keeps what its `tfa_device_open` has
acquired, for ever; and since a close leaves `amp_dev` set, no process opens the amplifier more than once.
-/

namespace Universal7880

/-- How many resources `tfa_device_open` acquires, whether it succeeds or not. -/
def OpenEnv.acquires (env : OpenEnv) : ℕ :=
  if env.mallocDevice = false then 0
  else if env.mallocHandle = false then 1
  else if env.accessErrno.isSome = true ∨ env.dlopen = false then 2
  else 3

/-- What a step leaves owned without a device that owns it: an attempt that is neither refused nor successful leaves what it
has acquired. -/
def leaks (hw : AudioHw) (t : Lts.Transition HalUse HalLabel) : ℕ :=
  match t.label with
  | .openDevice env name =>
    if name = hw.amplifierHardwareInterface ∧ t.src.hal.ampDev = none ∧ ¬ (env.Opens ∧ env.callocAmp = true) then env.acquires
    else 0
  | .closeDevice _ _ => 0

/-- The step is an attempt to open that returns a device. -/
def opensDevice (hw : AudioHw) (t : Lts.Transition HalUse HalLabel) : Bool :=
  match t.label with
  | .openDevice env name => (ampModuleOpen hw env name t.src.hal).1.device.isSome
  | .closeDevice _ _ => false

/-! ## What an attempt acquires -/

theorem card_loadTfaLib (env : OpenEnv) (heap : Ledger ResourceKind) : (loadTfaLib env heap).2.2.owned.card =
    heap.owned.card + if env.accessErrno.isSome = true ∨ env.dlopen = false then 0 else 1 := by
  unfold loadTfaLib
  cases env.accessErrno with
  | some errno => simp
  | none =>
    cases env.dlopen <;> cases env.dlsymDeviceOpen <;> cases env.dlsymEnable <;>
      simp [Ledger.card_acquire, -Ledger.owned_acquire]

theorem card_tfaDeviceOpen (env : OpenEnv) (heap : Ledger ResourceKind) :
    (tfaDeviceOpen env heap).2.owned.card = heap.owned.card + env.acquires := by
  have hload := card_loadTfaLib env ((heap.acquire .tfaDevice).acquire .tfaHandle)
  unfold tfaDeviceOpen OpenEnv.acquires
  by_cases hdevice : env.mallocDevice = false
  · simp [hdevice]
  by_cases hhandle : env.mallocHandle = false
  · simp [hdevice, hhandle, Ledger.card_acquire, -Ledger.owned_acquire]
  simp only [if_neg hdevice, if_neg hhandle]
  simp only [Ledger.card_acquire] at hload
  have hcount : (loadTfaLib env ((heap.acquire .tfaDevice).acquire .tfaHandle)).2.2.owned.card =
      heap.owned.card + if env.accessErrno.isSome = true ∨ env.dlopen = false then 2 else 3 := by
    rw [hload]
    split <;> omega
  split
  · exact hcount
  · split <;> exact hcount

/-- An attempt that succeeds acquires a block, a handle and a library. -/
theorem heap_of_opens {env : OpenEnv} (heap : Ledger ResourceKind) (h : env.Opens) :
    (tfaDeviceOpen env heap).2 = ((heap.acquire .tfaDevice).acquire .tfaHandle).acquire .library := by
  have hopen : ¬ env.deviceOpen < 0 := by
    have := h.deviceOpen
    omega
  simp [tfaDeviceOpen, loadTfaLib, h.mallocDevice, h.mallocHandle, h.access, h.dlopen, h.dlsymDeviceOpen, h.dlsymEnable, hopen]

/-- The whole of an attempt that succeeds. -/
theorem ampModuleOpen_of_opens {hw : AudioHw} {env : OpenEnv} {name : String} {hal : Hal}
    (hname : name = hw.amplifierHardwareInterface) (hdev : hal.ampDev = none) (h : env.Opens) (hcalloc : env.callocAmp = true) :
    ampModuleOpen hw env name hal = (⟨0, some (hal.heap.next + 3)⟩,
      { heap := (((hal.heap.acquire .tfaDevice).acquire .tfaHandle).acquire .library).acquire .ampDevice
        ampDev := some (hal.heap.next + 3)
        device := Function.update hal.device (hal.heap.next + 3) (some (ampInit
          { block := hal.heap.next, tfaHandle := hal.heap.next + 1, libHandle := hal.heap.next + 2,
            calls := [⟨false, env.enable 0⟩, ⟨true, env.enable 1⟩, ⟨false, env.enable 2⟩] })) }) := by
  unfold ampModuleOpen
  rw [if_neg (not_not_intro hname), hdev]
  simp only [Option.isSome_none, Bool.false_eq_true, if_false]
  rw [← Prod.mk.eta (p := tfaDeviceOpen env hal.heap), tfaDeviceOpen_eq_some.2 ⟨h, rfl⟩, heap_of_opens hal.heap h]
  simp [hcalloc]

/-! ## What a device owns -/

/-- The resources of an open device. -/
def AmpDevice.resources (dev : AmpDevice) (block : ℕ) : Finset (ResourceKind × ℕ) :=
  {(.tfaHandle, dev.tfaDev.tfaHandle), (.library, dev.tfaDev.libHandle), (.tfaDevice, dev.tfaDev.block), (.ampDevice, block)}

theorem AmpDevice.card_resources (dev : AmpDevice) (block : ℕ) : (dev.resources block).card = 4 := by
  simp [AmpDevice.resources]

/-- A device that is held is the one of `amp_dev`, and owns its four resources. -/
def HoldsResources (s : HalUse) : Prop :=
  s.held = ∅ ∨ ∃ block dev, s.held = {block} ∧ s.hal.ampDev = some block ∧ s.hal.device block = some dev ∧
    dev.resources block ⊆ s.hal.heap.owned

/-- A step that closes a device gives back the four resources of that device, all of which it owned. -/
def GivesBack (t : Lts.Transition HalUse HalLabel) : Prop :=
  ∀ enableRc block, t.label = .closeDevice enableRc block → ∃ dev, t.src.hal.device block = some dev ∧
    dev.resources block ⊆ t.src.hal.heap.owned ∧ t.dst.hal.heap.owned = t.src.hal.heap.owned \ dev.resources block

/-- What is owned, less the resources of the device that is held. -/
def unaccounted (s : HalUse) : ℕ := s.hal.heap.owned.card - 4 * s.held.card

/-- Nothing is held while `amp_dev` is `NULL`. -/
theorem HoldsResources.of_none {s : HalUse} (h : HoldsResources s) (hdev : s.hal.ampDev = none) : s.held = ∅ := by
  rcases h with h | ⟨block, dev, -, hblock, -⟩
  · exact h
  · rw [hdev] at hblock
    cases hblock

/-- An attempt to open leaves what it leaks unaccounted, and nothing else. -/
theorem resources_open {hw : AudioHw} {s s' : HalUse} {env : OpenEnv} {name : String}
    (ht : (halSystem hw).Steps ⟨s, .openDevice env name, s'⟩) (h : HoldsResources s) :
    HoldsResources s' ∧ unaccounted s' = unaccounted s + leaks hw ⟨s, .openDevice env name, s'⟩ := by
  obtain ⟨result, hal, heq, hopen, rfl⟩ := ampOpen_of_steps ht
  have hcard := card_tfaDeviceOpen env s.hal.heap
  cases hopen with
  | wrongName hname => exact ⟨by simpa using h, by simp [unaccounted, leaks, hname]⟩
  | busy block hname hdev => exact ⟨by simpa using h, by simp [unaccounted, leaks, hdev]⟩
  | noDevice hname hdev hfail =>
    have hheld := h.of_none hdev
    exact ⟨Or.inl (by simp [hheld]), by simp [unaccounted, leaks, hname, hdev, hfail, hheld, hcard]⟩
  | noMemory hname hdev hopens hcalloc =>
    have hheld := h.of_none hdev
    exact ⟨Or.inl (by simp [hheld]), by simp [unaccounted, leaks, hname, hdev, hcalloc, hheld, hcard]⟩
  | opened tfaDev hname hdev hopens hcalloc hcalls =>
    have hheld := h.of_none hdev
    rw [ampModuleOpen_of_opens hname hdev hopens hcalloc] at heq
    obtain ⟨hresult, hhal⟩ := Prod.mk.inj heq
    rw [← hresult, ← hhal]
    constructor
    · refine Or.inr ⟨_, _, by simp [hheld], rfl, Function.update_self _ _ _, ?_⟩
      intro r hr
      simp only [AmpDevice.resources, ampInit, Finset.mem_insert, Finset.mem_singleton] at hr
      rcases hr with rfl | rfl | rfl | rfl <;> simp
    · simp [unaccounted, leaks, hname, hdev, hopens, hcalloc, hheld, Ledger.card_acquire, -Ledger.owned_acquire]

/-- A close gives back what the device owns, and leaves nothing else unaccounted. -/
theorem resources_close {hw : AudioHw} {s s' : HalUse} {enableRc : ℕ → Int} {block : ℕ}
    (ht : (halSystem hw).Steps ⟨s, .closeDevice enableRc block, s'⟩) (h : HoldsResources s) :
    HoldsResources s' ∧ unaccounted s' = unaccounted s ∧ GivesBack ⟨s, .closeDevice enableRc block, s'⟩ := by
  simp only [Lts.Steps, halSystem] at ht
  split at ht
  case isFalse => cases ht
  case isTrue hmem =>
    obtain ⟨hal, hclose, rfl⟩ := Option.map_eq_some_iff.1 ht
    rcases h with hheld | ⟨b, dev, hheld, -, hdevice, hown⟩
    · simp [hheld] at hmem
    obtain rfl : block = b := by simpa [hheld] using hmem
    simp only [ampDevClose, hdevice, Option.some.injEq] at hclose
    subst hclose
    have howned : (((((s.hal.heap.release (.tfaHandle, dev.tfaDev.tfaHandle)).release
        (.library, dev.tfaDev.libHandle)).release (.tfaDevice, dev.tfaDev.block)).release (.ampDevice, block)).owned) =
        s.hal.heap.owned \ dev.resources block := by
      ext r
      simp only [AmpDevice.resources, Ledger.owned_release, Finset.mem_erase, Finset.mem_sdiff, Finset.mem_insert,
        Finset.mem_singleton, not_or]
      tauto
    refine ⟨Or.inl (by simp [hheld]), ?_, ?_⟩
    · have hcard := Finset.card_sdiff_add_card_eq_card hown
      rw [dev.card_resources] at hcard
      simp only [unaccounted, tfaDeviceClose, tfaPower, TfaDevice.record, howned, hheld, Finset.erase_singleton,
        Finset.card_empty, Finset.card_singleton]
      omega
    · intro enableRc' block' he
      obtain ⟨-, rfl⟩ := HalLabel.closeDevice.inj he
      exact ⟨dev, hdevice, hown, howned⟩

/-- Accounting along a run: every step leaves what it leaks unaccounted, and a close gives back what its device owns. -/
theorem resources_step (hw : AudioHw) (t : Lts.Transition HalUse HalLabel) (ht : (halSystem hw).Steps t)
    (h : HoldsResources t.src) :
    HoldsResources t.dst ∧ unaccounted t.dst = unaccounted t.src + leaks hw t ∧ GivesBack t := by
  obtain ⟨s, e, s'⟩ := t
  cases e with
  | openDevice env name =>
    obtain ⟨hheld, hleak⟩ := resources_open ht h
    exact ⟨hheld, hleak, fun enableRc block he => by cases he⟩
  | closeDevice enableRc block => exact resources_close ht h

/-- A device that was opened stays the one of `amp_dev`, so no other can be opened. -/
theorem opens_step (hw : AudioHw) (t : Lts.Transition HalUse HalLabel) (ht : (halSystem hw).Steps t) :
    t.dst.hal.ampDev.isSome.toNat = t.src.hal.ampDev.isSome.toNat + (opensDevice hw t).toNat := by
  obtain ⟨s, e, s'⟩ := t
  cases e with
  | openDevice env name =>
    obtain ⟨result, hal, heq, hopen, rfl⟩ := ampOpen_of_steps ht
    simp only [opensDevice, heq]
    cases hopen with
    | wrongName hname => rfl
    | busy block hname hdev => rfl
    | noDevice hname hdev hfail => rfl
    | noMemory hname hdev hopens hcalloc => simp [hdev]
    | opened tfaDev hname hdev hopens hcalloc hcalls => simp [hdev]
  | closeDevice enableRc block =>
    simp only [Lts.Steps, halSystem] at ht
    split at ht
    case isFalse => cases ht
    case isTrue hmem =>
      obtain ⟨hal, hclose, rfl⟩ := Option.map_eq_some_iff.1 ht
      unfold ampDevClose at hclose
      split at hclose <;> simp only [Option.some.injEq, reduceCtorEq] at hclose
      subst hclose
      rfl

/-- There is never less owned than the device that is held owns. -/
theorem HoldsResources.card_le {s : HalUse} (h : HoldsResources s) : 4 * s.held.card ≤ s.hal.heap.owned.card := by
  rcases h with hheld | ⟨block, dev, hheld, -, -, hown⟩
  · simp [hheld]
  · have hcard := Finset.card_le_card hown
    rw [dev.card_resources] at hcard
    simpa [hheld] using hcard

/-- The resources of the HAL, in every run of `amp_module_open` and `amp_dev_close` from the state in which it is loaded,
whatever fails.
1. What it owns at the end is four resources for each device that is held, and what the attempts of the run have leaked.
2. Every close finds the four resources of its device owned, and gives back those and no other: nothing is freed twice.
3. At most one attempt returns a device. -/
theorem resource_accounting (hw : AudioHw) (s u : HalUse) (hs : (halSystem hw).init s) (es : List HalLabel)
    (hrun : (halSystem hw).run s es = some u) :
    u.hal.heap.owned.card = 4 * u.held.card + (((halSystem hw).trace s es).map (leaks hw)).sum ∧
    (halSystem hw).Always s es GivesBack ∧ ((halSystem hw).trace s es).countP (opensDevice hw) ≤ 1 := by
  obtain ⟨howned, hdev, hheld⟩ := hs
  have hholds : HoldsResources s := Or.inl hheld
  have hstep := resources_step hw
  refine ⟨?_, ?_, ?_⟩
  · have hend : HoldsResources u := Lts.Always.at_end (C := fun _ => True) (fun t ht _ h => (hstep t ht h).1) es hholds
      (fun _ _ => trivial) hrun
    have hsum := @Lts.value_at_end _ _ (halSystem hw) HoldsResources unaccounted _
      (fun t ht h => ⟨(hstep t ht h).1, (hstep t ht h).2.1⟩) s u es hholds hrun
    have hle := hend.card_le
    simp only [unaccounted, howned, Finset.card_empty, Nat.zero_sub, Nat.zero_add] at hsum
    omega
  · refine (Lts.Always.of_step (J := HoldsResources) (fun t ht h => (hstep t ht h).1) es hholds).mono ?_
    intro t ht
    exact (hstep t ht.1 ht.2.1).2.2
  · have hsum := @Lts.value_at_end _ _ (halSystem hw) (fun _ => True) (fun s => s.hal.ampDev.isSome.toNat) _
      (fun t ht _ => ⟨trivial, opens_step hw t ht⟩) s u es trivial hrun
    have hcount : (((halSystem hw).trace s es).map fun t => (opensDevice hw t).toNat).sum =
        ((halSystem hw).trace s es).countP (opensDevice hw) := by
      induction (halSystem hw).trace s es with
      | nil => rfl
      | cons t ts ih =>
        rw [List.map_cons, List.sum_cons, List.countP_cons, ih]
        cases opensDevice hw t <;> simp [Nat.add_comm]
    simp only [hdev, Option.isSome_none, Bool.toNat_false, Nat.zero_add, hcount] at hsum
    rw [← hsum]
    exact Bool.toNat_le _

/-- An attempt whose library has no `tfa_enable` leaks three resources; the next one opens the device, which is closed again;
and the last one is refused. -/
theorem resource_accounting_retry :
    ∃ u, (halSystem .sample).run .loaded
        [.openDevice { OpenEnv.sample (fun _ => 0) with dlsymEnable := false } "amplifier_hw_if",
          .openDevice (.sample fun _ => 0) "amplifier_hw_if", .closeDevice (fun _ => 0) 6,
          .openDevice (.sample fun _ => 0) "amplifier_hw_if"] = some u ∧
      u.held = ∅ ∧ u.hal.heap.owned.card = 3 := by
  have hrun : ((halSystem .sample).run .loaded
      [.openDevice { OpenEnv.sample (fun _ => 0) with dlsymEnable := false } "amplifier_hw_if",
        .openDevice (.sample fun _ => 0) "amplifier_hw_if", .closeDevice (fun _ => 0) 6,
        .openDevice (.sample fun _ => 0) "amplifier_hw_if"]).map (fun u => u.held) = some ∅ := by
    decide +kernel
  obtain ⟨u, hu, hheld⟩ := Option.map_eq_some_iff.1 hrun
  have hcard := (resource_accounting .sample .loaded u ⟨rfl, rfl, rfl⟩ _ hu).1
  refine ⟨u, hu, hheld, hcard.trans ?_⟩
  rw [hheld]
  decide +kernel

end Universal7880
