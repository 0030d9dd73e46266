import Universal7880.Amplifier
import Mathlib.Tactic.Common

/-!
# What one attempt to open does

`OpenEnv.Opens` collects the steps of `tfa_device_open` that must succeed, and `tfaDeviceOpen_eq_some` says that they
decide whether it does. Whatever happens after its first `malloc` has succeeded, that block stays owned
(`mem_tfaDeviceOpen`). `AmpOpen` lists the five ends of `amp_module_open`.
-/

namespace Universal7880

/-! ## `tfa_device_open` -/

/-- Every step of `tfa_device_open` succeeds. The vendor's codes may be positive. -/
structure OpenEnv.Opens (env : OpenEnv) : Prop where
  mallocDevice : env.mallocDevice = true
  mallocHandle : env.mallocHandle = true
  access : env.accessErrno = none
  dlopen : env.dlopen = true
  dlsymDeviceOpen : env.dlsymDeviceOpen = true
  dlsymEnable : env.dlsymEnable = true
  deviceOpen : 0 ≤ env.deviceOpen
  powerdown : 0 ≤ env.enable 0
  powerup : 0 ≤ env.enable 1
  powerdown2 : 0 ≤ env.enable 2

instance (env : OpenEnv) : Decidable env.Opens :=
  decidable_of_iff
    (env.mallocDevice = true ∧ env.mallocHandle = true ∧ env.accessErrno = none ∧ env.dlopen = true ∧
      env.dlsymDeviceOpen = true ∧ env.dlsymEnable = true ∧ 0 ≤ env.deviceOpen ∧ 0 ≤ env.enable 0 ∧ 0 ≤ env.enable 1 ∧
      0 ≤ env.enable 2)
    ⟨fun ⟨h1, h2, h3, h4, h5, h6, h7, h8, h9, h10⟩ => ⟨h1, h2, h3, h4, h5, h6, h7, h8, h9, h10⟩,
      fun ⟨h1, h2, h3, h4, h5, h6, h7, h8, h9, h10⟩ => ⟨h1, h2, h3, h4, h5, h6, h7, h8, h9, h10⟩⟩

/-- `load_tfa_lib` succeeds exactly when its four steps do. -/
theorem loadTfaLib_nonneg {env : OpenEnv} {heap : Ledger ResourceKind} :
    ¬ (loadTfaLib env heap).1 < 0 ↔
      env.accessErrno = none ∧ env.dlopen = true ∧ env.dlsymDeviceOpen = true ∧ env.dlsymEnable = true := by
  unfold loadTfaLib
  cases ha : env.accessErrno with
  | some errno =>
    have := errno.property
    simp only [reduceCtorEq, false_and, iff_false, not_not]
    omega
  | none =>
    cases env.dlopen <;> cases env.dlsymDeviceOpen <;> cases env.dlsymEnable <;> simp

/-- Loading the library only adds resources. -/
theorem loadTfaLib_subset (env : OpenEnv) (heap : Ledger ResourceKind) : heap.owned ⊆ (loadTfaLib env heap).2.2.owned := by
  unfold loadTfaLib
  split
  · exact Finset.Subset.refl _
  · repeat' split
    all_goals first | exact Finset.Subset.refl _ | exact Finset.subset_insert _ _

/-- The library handle takes the next number, if it takes one. -/
theorem loadTfaLib_libHandle (env : OpenEnv) (heap : Ledger ResourceKind) : (loadTfaLib env heap).2.1 = heap.next := by
  unfold loadTfaLib
  split
  · rfl
  · repeat' split
    all_goals rfl

/-- The power cycle succeeds when none of its three codes is negative, and leaves its three calls behind. -/
theorem powerCycle_eq_some {enable : ℕ → Int} {d d' : TfaDevice} (h0 : d.calls = []) :
    powerCycle enable d = some d' ↔ (0 ≤ enable 0 ∧ 0 ≤ enable 1 ∧ 0 ≤ enable 2) ∧
      d' = { d with calls := [⟨false, enable 0⟩, ⟨true, enable 1⟩, ⟨false, enable 2⟩] } := by
  obtain ⟨block, tfaHandle, libHandle, calls⟩ := d
  simp only at h0
  subst h0
  simp only [powerCycle, tfaPower, TfaDevice.record, List.length_nil, List.length_cons, List.nil_append, List.cons_append,
    Nat.zero_add, Nat.reduceAdd]
  by_cases hdown : enable 0 < 0
  · rw [if_pos hdown]
    exact iff_of_false nofun (fun h => by omega)
  by_cases hup : enable 1 < 0
  · rw [if_neg hdown, if_pos hup]
    exact iff_of_false nofun (fun h => by omega)
  by_cases hdown2 : enable 2 < 0
  · rw [if_neg hdown, if_neg hup, if_pos hdown2]
    exact iff_of_false nofun (fun h => by omega)
  · rw [if_neg hdown, if_neg hup, if_neg hdown2, Option.some.injEq, eq_comm]
    exact ⟨fun h => ⟨by omega, h⟩, And.right⟩

/-- `tfa_device_open` returns a device exactly when its steps succeed; the device has received the three calls of the
power cycle. -/
theorem tfaDeviceOpen_eq_some {env : OpenEnv} {heap : Ledger ResourceKind} {d : TfaDevice} :
    (tfaDeviceOpen env heap).1 = some d ↔ env.Opens ∧
      d = { block := heap.next, tfaHandle := heap.next + 1, libHandle := heap.next + 2,
            calls := [⟨false, env.enable 0⟩, ⟨true, env.enable 1⟩, ⟨false, env.enable 2⟩] } := by
  unfold tfaDeviceOpen
  by_cases hdevice : env.mallocDevice = false
  · rw [if_pos hdevice]
    refine iff_of_false nofun ?_
    intro h
    rw [h.1.mallocDevice] at hdevice
    cases hdevice
  rw [if_neg hdevice]
  by_cases hhandle : env.mallocHandle = false
  · simp only [if_pos hhandle]
    refine iff_of_false nofun ?_
    intro h
    rw [h.1.mallocHandle] at hhandle
    cases hhandle
  simp only [if_neg hhandle]
  by_cases hload : (loadTfaLib env ((heap.acquire .tfaDevice).acquire .tfaHandle)).1 < 0
  · simp only [if_pos hload]
    refine iff_of_false nofun ?_
    intro h
    exact loadTfaLib_nonneg.2 ⟨h.1.access, h.1.dlopen, h.1.dlsymDeviceOpen, h.1.dlsymEnable⟩ hload
  simp only [if_neg hload]
  by_cases hopen : env.deviceOpen < 0
  · simp only [if_pos hopen]
    refine iff_of_false nofun ?_
    intro h
    exact absurd h.1.deviceOpen (by omega)
  simp only [if_neg hopen]
  rw [powerCycle_eq_some rfl, loadTfaLib_libHandle]
  obtain ⟨haccess, hdlopen, hsym, hsym'⟩ := loadTfaLib_nonneg.1 hload
  constructor
  · intro h
    rcases h with ⟨⟨h0, h1, h2⟩, rfl⟩
    exact ⟨⟨by simpa using hdevice, by simpa using hhandle, haccess, hdlopen, hsym, hsym', by omega, h0, h1, h2⟩, rfl⟩
  · intro h
    rcases h with ⟨h, rfl⟩
    exact ⟨⟨h.powerdown, h.powerup, h.powerdown2⟩, rfl⟩

/-- Once its first `malloc` has succeeded, `tfa_device_open` ends with that block owned. -/
theorem mem_tfaDeviceOpen {env : OpenEnv} (heap : Ledger ResourceKind) (h : env.mallocDevice = true) :
    (ResourceKind.tfaDevice, heap.next) ∈ (tfaDeviceOpen env heap).2.owned := by
  have hblock : (ResourceKind.tfaDevice, heap.next) ∈ ((heap.acquire .tfaDevice).acquire .tfaHandle).owned := by simp
  have hload := loadTfaLib_subset env ((heap.acquire .tfaDevice).acquire .tfaHandle) hblock
  unfold tfaDeviceOpen
  simp only [h, Bool.true_eq_false, if_false]
  repeat' split
  · simp
  all_goals exact hload

/-- A first `malloc` that fails ends `tfa_device_open` with nothing done. -/
theorem tfaDeviceOpen_of_malloc {env : OpenEnv} (heap : Ledger ResourceKind) (h : env.mallocDevice = false) :
    tfaDeviceOpen env heap = (none, heap) := by
  simp [tfaDeviceOpen, h]

/-! ## `amp_module_open` -/

/-- The ends of `amp_module_open`: what it returns and what becomes of the HAL. -/
inductive AmpOpen (hw : AudioHw) (env : OpenEnv) (name : String) (hal : Hal) : OpenResult → Hal → Prop where
  | wrongName : name ≠ hw.amplifierHardwareInterface → AmpOpen hw env name hal ⟨-ENODEV, none⟩ hal
  | busy (block : ℕ) : name = hw.amplifierHardwareInterface → hal.ampDev = some block →
      AmpOpen hw env name hal ⟨-EBUSY, none⟩ hal
  | noDevice : name = hw.amplifierHardwareInterface → hal.ampDev = none → ¬ env.Opens →
      AmpOpen hw env name hal ⟨-ENOENT, none⟩ { hal with heap := (tfaDeviceOpen env hal.heap).2 }
  | noMemory : name = hw.amplifierHardwareInterface → hal.ampDev = none → env.Opens → env.callocAmp = false →
      AmpOpen hw env name hal ⟨-ENOMEM, none⟩ { hal with heap := (tfaDeviceOpen env hal.heap).2, ampDev := none }
  | opened (tfaDev : TfaDevice) : name = hw.amplifierHardwareInterface → hal.ampDev = none → env.Opens →
      env.callocAmp = true → tfaDev.calls = [⟨false, env.enable 0⟩, ⟨true, env.enable 1⟩, ⟨false, env.enable 2⟩] →
      AmpOpen hw env name hal ⟨0, some (tfaDeviceOpen env hal.heap).2.next⟩
        { heap := (tfaDeviceOpen env hal.heap).2.acquire .ampDevice
          ampDev := some (tfaDeviceOpen env hal.heap).2.next
          device := Function.update hal.device (tfaDeviceOpen env hal.heap).2.next (some (ampInit tfaDev)) }

/-- The list is complete. -/
theorem ampOpen (hw : AudioHw) (env : OpenEnv) (name : String) (hal : Hal) :
    AmpOpen hw env name hal (ampModuleOpen hw env name hal).1 (ampModuleOpen hw env name hal).2 := by
  unfold ampModuleOpen
  by_cases hname : name = hw.amplifierHardwareInterface
  case neg =>
    rw [if_pos hname]
    exact .wrongName hname
  rw [if_neg (not_not_intro hname)]
  cases hdev : hal.ampDev with
  | some block =>
    simp only [Option.isSome_some, if_true]
    exact .busy block hname hdev
  | none =>
    simp only [Option.isSome_none, Bool.false_eq_true, if_false]
    obtain ⟨result, hresult⟩ : ∃ result, (tfaDeviceOpen env hal.heap).1 = result := ⟨_, rfl⟩
    rw [← Prod.mk.eta (p := tfaDeviceOpen env hal.heap), hresult]
    cases result with
    | none =>
      have hfail : ¬ env.Opens := by
        intro hopens
        rw [tfaDeviceOpen_eq_some.2 ⟨hopens, rfl⟩] at hresult
        cases hresult
      have hend : AmpOpen hw env name hal ⟨-ENOENT, none⟩ { hal with heap := (tfaDeviceOpen env hal.heap).2 } :=
        .noDevice hname hdev hfail
      simpa only [hdev] using hend
    | some tfaDev =>
      obtain ⟨hopens, rfl⟩ := tfaDeviceOpen_eq_some.1 hresult
      by_cases hcalloc : env.callocAmp = false
      · simp only [if_pos hcalloc]
        exact .noMemory hname hdev hopens hcalloc
      · simp only [if_neg hcalloc]
        exact .opened _ hname hdev hopens (by simpa using hcalloc) rfl

end Universal7880
