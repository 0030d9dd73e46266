import Universal7880.Camera
import Mathlib.Data.Set.Function
import Mathlib.Tactic.Common

/-!
# The vendor's cameras and their wrappers

The vendor's devices that are open and the wrapper devices the framework holds belong together one to one, through the
field `vendor` (`Paired`). `camera_conservation` says in which runs of `camera_device_open` and `camera_device_close` they
do after every call, and the framework is told the truth about what it got.
-/

namespace Universal7880

/-! ## One attempt to open -/

/-- The vendor's module is set already, or the look-up of this call sets it. -/
def ModuleFound (env : CameraEnv) (hal : CameraHal) : Prop := hal.gVendorModule = true ∨ env.getModule = 0

/-- The vendor has opened its device, and the table of operations cannot be allocated. -/
def FailsAtOps (env : CameraEnv) (name : CString) : Prop :=
  atoi name ≤ env.numCameras ∧ env.mallocDevice = true ∧ env.vendorOpen = 0 ∧ env.mallocOps = false

/-- The ends of `camera_device_open`: what it returns and what becomes of the wrapper. -/
inductive CameraOpen (env : CameraEnv) (hal : CameraHal) : Option CString → CameraResult → CameraHal → Prop where
  | nullName : CameraOpen env hal none ⟨0, none⟩ hal
  | noModule (name : CString) (hal' : CameraHal) : ¬ ModuleFound env hal → hal'.heap = hal.heap →
      CameraOpen env hal (some name) ⟨-EINVAL, none⟩ hal'
  | refused (name : CString) (rv : Int) (hal' : CameraHal) : ModuleFound env hal → ¬ FailsAtOps env name → rv ≠ 0 →
      hal'.heap.owned = hal.heap.owned → hal'.device = hal.device → CameraOpen env hal (some name) ⟨rv, some none⟩ hal'
  | leaked (name : CString) (hal' : CameraHal) : ModuleFound env hal → FailsAtOps env name →
      hal'.heap.owned = insert (.vendorDevice, hal.heap.next + 1) hal.heap.owned → hal'.device = hal.device →
      CameraOpen env hal (some name) ⟨-ENOMEM, some none⟩ hal'
  | opened (name : CString) (hal' : CameraHal) : ModuleFound env hal → ¬ FailsAtOps env name →
      hal'.heap.owned = insert (.ops, hal.heap.next + 2) (insert (.vendorDevice, hal.heap.next + 1)
        (insert (.wrapper, hal.heap.next) hal.heap.owned)) →
      hal'.device = Function.update hal.device hal.heap.next (some ⟨atoi name, hal.heap.next + 1, hal.heap.next + 2⟩) →
      CameraOpen env hal (some name) ⟨0, some (some hal.heap.next)⟩ hal'

/-- Freeing the block that was allocated last leaves what was owned before. -/
theorem erase_acquired (heap : Ledger CameraResource) (k : CameraResource) :
    (insert (k, heap.next) heap.owned).erase (k, heap.next) = heap.owned :=
  Finset.erase_insert (heap.not_owned_of_le (Nat.le_refl _))

/-- The list is complete. -/
theorem cameraOpen (env : CameraEnv) (name : Option CString) (hal : CameraHal) :
    CameraOpen env hal name (cameraDeviceOpen env name hal).1 (cameraDeviceOpen env name hal).2 := by
  cases name with
  | none => exact .nullName
  | some name =>
    have hcheck : (checkVendorModule env.getModule hal.gVendorModule).1 = 0 ↔ ModuleFound env hal := by
      unfold checkVendorModule ModuleFound
      cases hal.gVendorModule <;> simp
    simp only [cameraDeviceOpen, cameraDeviceOpenTraced]
    by_cases hfound : ModuleFound env hal
    case neg =>
      rw [if_pos (fun h => hfound (hcheck.1 h))]
      exact .noModule name _ hfound rfl
    rw [if_neg (not_not_intro (hcheck.2 hfound))]
    unfold openCameraTraced
    by_cases hrange : atoi name > env.numCameras
    · rw [if_pos hrange]
      exact .refused name _ _ hfound (fun h => absurd h.1 (by omega)) (by decide) rfl rfl
    rw [if_neg hrange]
    by_cases hdevice : env.mallocDevice = false
    · rw [if_pos hdevice]
      have hno : ¬ FailsAtOps env name := by
        rintro ⟨-, hm, -⟩
        rw [hdevice] at hm
        cases hm
      exact .refused name _ _ hfound hno (by decide) rfl rfl
    rw [if_neg hdevice]
    by_cases hvendor : env.vendorOpen ≠ 0
    · simp only [if_pos hvendor]
      exact .refused name _ _ hfound (fun h => hvendor h.2.2.1) hvendor (erase_acquired _ _) rfl
    simp only [if_neg hvendor]
    by_cases hops : env.mallocOps = false
    · simp only [if_pos hops]
      refine .leaked name _ hfound ⟨by omega, by simpa using hdevice, by omega, hops⟩ ?_ rfl
      simp only [Ledger.owned_release, Ledger.owned_acquire, Ledger.next_acquire]
      rw [Finset.erase_insert_of_ne (by simp), erase_acquired]
    · simp only [if_neg hops]
      exact .opened name _ hfound (fun h => hops h.2.2.2) rfl rfl

/-- A step that opens is one of the five ends of `camera_device_open`. -/
theorem cameraOpen_of_steps {s s' : CameraUse} {env : CameraEnv} {name : Option CString}
    (h : cameraSystem.Steps ⟨s, .openDevice env name, s'⟩) :
    ∃ result hal, cameraDeviceOpen env name s.hal = (result, hal) ∧ CameraOpen env s.hal name result hal ∧
      s' = { hal, held := s.held ∪ result.device.join.toFinset } := by
  refine ⟨_, _, rfl, cameraOpen env name s.hal, ?_⟩
  change some (CameraUse.mk (cameraDeviceOpen env name s.hal).2 _) = some s' at h
  exact (Option.some.inj h).symm

/-! ## The pairing -/

/-- The vendor's device behind a wrapper device. -/
def CameraHal.vendorOf (hal : CameraHal) (block : ℕ) : Option ℕ := (hal.device block).map WrapperCameraDevice.vendor

/-- The vendor's devices that were opened and not closed. -/
def CameraHal.openVendors (hal : CameraHal) : Set (Option ℕ) :=
  {v | ∃ n, v = some n ∧ (CameraResource.vendorDevice, n) ∈ hal.heap.owned}

/-- The wrapper devices held by the framework correspond one to one, through `vendor`, to the vendor's devices that are
open. -/
def Paired (s : CameraUse) : Prop := Set.BijOn s.hal.vendorOf s.held s.hal.openVendors

/-- The pairing, with every block that is held still allocated. -/
structure Kept (s : CameraUse) : Prop where
  paired : Paired s
  live : ∀ block ∈ s.held, (CameraResource.wrapper, block) ∈ s.hal.heap.owned

/-- What an open and a close promise: the pairing holds after them; an open that returns zero has stored a live wrapper
device with an open device of the vendor, and another one has stored `NULL`; a close ends the device of the vendor that
was open until then. -/
def Conserves (t : Lts.Transition CameraUse CameraLabel) : Prop :=
  Paired t.dst ∧
  match t.label with
  | .openDevice env name =>
    ((cameraDeviceOpen env name t.src.hal).1.rv = 0 → ∃ block dev,
        (cameraDeviceOpen env name t.src.hal).1.device = some (some block) ∧ t.dst.hal.device block = some dev ∧
        (CameraResource.wrapper, block) ∈ t.dst.hal.heap.owned ∧
        (CameraResource.vendorDevice, dev.vendor) ∈ t.dst.hal.heap.owned) ∧
      ((cameraDeviceOpen env name t.src.hal).1.rv ≠ 0 → (cameraDeviceOpen env name t.src.hal).1.device = some none)
  | .closeDevice block => ∃ v, t.src.hal.vendorOf block = some v ∧
      (CameraResource.vendorDevice, v) ∈ t.src.hal.heap.owned ∧ (CameraResource.vendorDevice, v) ∉ t.dst.hal.heap.owned

/-- An open names a camera, finds the vendor's module, and does not fail at the table of operations after the vendor has
opened its device. -/
def OpensCleanly (t : Lts.Transition CameraUse CameraLabel) : Prop :=
  match t.label with
  | .openDevice _ none => False
  | .openDevice env (some name) => ModuleFound env t.src.hal ∧ ¬ FailsAtOps env name
  | .closeDevice _ => True

instance (env : CameraEnv) (hal : CameraHal) : Decidable (ModuleFound env hal) := inferInstanceAs (Decidable (_ ∨ _))

instance (env : CameraEnv) (name : CString) : Decidable (FailsAtOps env name) := inferInstanceAs (Decidable (_ ∧ _ ∧ _ ∧ _))

instance : DecidablePred OpensCleanly := fun ⟨_, label, _⟩ =>
  match label with
  | .openDevice _ none => isFalse id
  | .openDevice _ (some _) => inferInstanceAs (Decidable (_ ∧ ¬ _))
  | .closeDevice _ => isTrue trivial

/-- A step that leaves the vendor's devices and the held wrappers alone keeps the pairing. -/
theorem Paired.frame {s s' : CameraUse} (h : Paired s) (hheld : s'.held = s.held) (hdevice : s'.hal.device = s.hal.device)
    (howned : s'.hal.heap.owned = s.hal.heap.owned) : Paired s' := by
  have hvendor : s'.hal.vendorOf = s.hal.vendorOf := funext fun block => by rw [CameraHal.vendorOf, hdevice]; rfl
  have hopen : s'.hal.openVendors = s.hal.openVendors := by rw [CameraHal.openVendors, howned]; rfl
  rw [Paired, hvendor, hopen, hheld]
  exact h

/-- The vendor's device of an open that has not failed is a new one, and so is the wrapper. -/
theorem Kept.opened {s : CameraUse} {hal' : CameraHal} {name : CString} (h : Kept s)
    (howned : hal'.heap.owned = insert (.ops, s.hal.heap.next + 2) (insert (.vendorDevice, s.hal.heap.next + 1)
      (insert (.wrapper, s.hal.heap.next) s.hal.heap.owned)))
    (hdevice : hal'.device =
      Function.update s.hal.device s.hal.heap.next (some ⟨atoi name, s.hal.heap.next + 1, s.hal.heap.next + 2⟩)) :
    Kept { hal := hal', held := s.held ∪ {s.hal.heap.next} } := by
  have hnew : ∀ k n, s.hal.heap.next ≤ n → (k, n) ∉ s.hal.heap.owned := fun k n hn => s.hal.heap.not_owned_of_le hn
  have hnext : s.hal.heap.next ∉ s.held := fun hm => hnew _ _ (Nat.le_refl _) (h.live _ hm)
  have hvendors : hal'.openVendors = insert (some (s.hal.heap.next + 1)) s.hal.openVendors := by
    ext v
    simp only [CameraHal.openVendors, howned, Set.mem_ofPred_eq, Finset.mem_insert, Prod.mk.injEq, reduceCtorEq, false_and,
      true_and, false_or, Set.mem_insert_iff]
    constructor
    · intro hv
      rcases hv with ⟨n, rfl, rfl | hn⟩
      · exact Or.inl rfl
      · exact Or.inr ⟨n, rfl, hn⟩
    · intro hv
      rcases hv with rfl | ⟨n, rfl, hn⟩
      · exact ⟨_, rfl, Or.inl rfl⟩
      · exact ⟨n, rfl, Or.inr hn⟩
  have hself : hal'.vendorOf s.hal.heap.next = some (s.hal.heap.next + 1) := by
    rw [CameraHal.vendorOf, hdevice, Function.update_self]
    rfl
  have hold : Set.EqOn s.hal.vendorOf hal'.vendorOf s.held := by
    intro block hm
    have hne : block ≠ s.hal.heap.next := fun heq => hnext (heq ▸ hm)
    rw [CameraHal.vendorOf, CameraHal.vendorOf, hdevice, Function.update_of_ne hne]
  have hfresh : hal'.vendorOf s.hal.heap.next ∉ s.hal.openVendors := by
    rw [hself]
    intro hv
    rcases hv with ⟨n, hn, hm⟩
    obtain rfl := Option.some.inj hn
    exact hnew _ _ (by omega) hm
  constructor
  case paired =>
    have hinsert := (h.paired.congr hold).insert hfresh
    rw [hself, ← hvendors] at hinsert
    simpa [Paired, Set.union_singleton] using hinsert
  case live =>
    intro block hm
    simp only [howned, Finset.mem_insert, Prod.mk.injEq, true_and, reduceCtorEq, false_and, false_or]
    rcases Finset.mem_union.1 hm with hm | hm
    · exact Or.inr (h.live block hm)
    · exact Or.inl (Finset.mem_singleton.1 hm)

/-- A close takes one pair out. -/
theorem Kept.closed {s : CameraUse} {hal' : CameraHal} {block : ℕ} {dev : WrapperCameraDevice} (h : Kept s)
    (hmem : block ∈ s.held) (hdev : s.hal.device block = some dev)
    (howned : hal'.heap.owned =
      ((s.hal.heap.owned.erase (.vendorDevice, dev.vendor)).erase (.ops, dev.ops)).erase (.wrapper, block))
    (hdevice : hal'.device = Function.update s.hal.device block none) : Kept { hal := hal', held := s.held.erase block } := by
  have hself : s.hal.vendorOf block = some dev.vendor := by rw [CameraHal.vendorOf, hdev]; rfl
  have hvendors : hal'.openVendors = s.hal.openVendors \ {some dev.vendor} := by
    ext v
    simp only [CameraHal.openVendors, howned, Set.mem_ofPred_eq, Set.mem_sdiff, Set.mem_singleton_iff, Finset.mem_erase,
      ne_eq, Prod.mk.injEq, reduceCtorEq, false_and, not_false_eq_true, true_and]
    constructor
    · intro hv
      rcases hv with ⟨n, rfl, hne, hn⟩
      exact ⟨⟨n, rfl, hn⟩, fun heq => hne (Option.some.inj heq)⟩
    · intro hv
      rcases hv with ⟨⟨n, rfl, hn⟩, hne⟩
      exact ⟨n, rfl, fun heq => hne (congrArg some heq), hn⟩
  have hold : Set.EqOn s.hal.vendorOf hal'.vendorOf (↑s.held \ {block}) := by
    intro b hb
    have hne : b ≠ block := hb.2
    rw [CameraHal.vendorOf, CameraHal.vendorOf, hdevice, Function.update_of_ne hne]
  constructor
  case paired =>
    have hrest := (h.paired.sdiff_singleton hmem).congr hold
    rw [hself, ← hvendors] at hrest
    rw [Paired, Finset.coe_erase]
    exact hrest
  case live =>
    intro b hb
    obtain ⟨hne, hb⟩ := Finset.mem_erase.1 hb
    simp [howned, hne, h.live b hb]

/-- A vendor's device that no wrapper holds breaks the pairing. -/
theorem Kept.not_paired_of_leak {s s' : CameraUse} (h : Kept s) (hheld : s'.held = s.held)
    (hdevice : s'.hal.device = s.hal.device) {n : ℕ} (hn : s.hal.heap.next ≤ n)
    (hleak : (CameraResource.vendorDevice, n) ∈ s'.hal.heap.owned) : ¬ Paired s' := by
  intro hpaired
  obtain ⟨block, hm, hblock⟩ := hpaired.surjOn ⟨n, rfl, hleak⟩
  rw [hheld] at hm
  rw [CameraHal.vendorOf, hdevice] at hblock
  obtain ⟨v, hv, hopen⟩ := h.paired.mapsTo hm
  obtain rfl : v = n := Option.some.inj (hv.symm.trans hblock)
  exact s.hal.heap.not_owned_of_le hn hopen

/-- An open keeps its promise exactly when it is clean, and then the pairing goes on. -/
theorem conserves_open {s s' : CameraUse} {env : CameraEnv} {name : Option CString}
    (ht : cameraSystem.Steps ⟨s, .openDevice env name, s'⟩) (h : Kept s) :
    (Conserves ⟨s, .openDevice env name, s'⟩ ↔ OpensCleanly ⟨s, .openDevice env name, s'⟩) ∧
      (OpensCleanly ⟨s, .openDevice env name, s'⟩ → Kept s') := by
  obtain ⟨result, hal, heq, hopen, rfl⟩ := cameraOpen_of_steps ht
  simp only [Conserves, heq]
  cases hopen with
  | nullName => exact ⟨iff_of_false (fun hc => by simpa using hc.2.1) id, False.elim⟩
  | noModule name hal hmissing hheap =>
    refine ⟨iff_of_false ?_ (fun hc => hmissing hc.1), fun hc => absurd hc.1 hmissing⟩
    intro hc
    cases hc.2.2 (by decide)
  | refused name rv hal hfound hno hrv howned hdevice =>
    have hpaired : Paired { hal, held := s.held ∪ (∅ : Finset ℕ) } := h.paired.frame (by simp) hdevice howned
    refine ⟨iff_of_true ⟨hpaired, fun h0 => absurd h0 hrv, fun _ => rfl⟩ ⟨hfound, hno⟩, fun _ => ⟨hpaired, ?_⟩⟩
    intro block hm
    rw [howned]
    exact h.live block (by simpa using hm)
  | leaked name hal hfound hleak howned hdevice =>
    refine ⟨iff_of_false ?_ (fun hc => hc.2 hleak), fun hc => absurd hleak hc.2⟩
    have hopen : (CameraResource.vendorDevice, s.hal.heap.next + 1) ∈ hal.heap.owned := by
      rw [howned]
      exact Finset.mem_insert_self _ _
    intro hc
    exact h.not_paired_of_leak (by simp) hdevice (Nat.le_succ _) hopen hc.1
  | opened name hal hfound hno howned hdevice =>
    have hkept := h.opened howned hdevice
    refine ⟨iff_of_true ⟨hkept.paired, ?_, fun h0 => absurd rfl h0⟩ ⟨hfound, hno⟩, fun _ => hkept⟩
    intro _
    refine ⟨_, _, rfl, by rw [hdevice, Function.update_self], ?_, ?_⟩ <;> simp [howned]

/-- A close keeps its promise, and the pairing goes on without the device. -/
theorem conserves_close {s s' : CameraUse} {block : ℕ} (ht : cameraSystem.Steps ⟨s, .closeDevice block, s'⟩) (h : Kept s) :
    Conserves ⟨s, .closeDevice block, s'⟩ ∧ Kept s' := by
  simp only [Lts.Steps, cameraSystem] at ht
  split at ht
  case isFalse => cases ht
  case isTrue hmem =>
    obtain ⟨⟨rc, hal⟩, hclose, rfl⟩ := Option.map_eq_some_iff.1 ht
    unfold cameraDeviceClose at hclose
    cases hdev : s.hal.device block with
    | none => simp [hdev] at hclose
    | some dev =>
      simp only [hdev, Option.some.injEq, Prod.mk.injEq] at hclose
      obtain ⟨-, rfl⟩ := hclose
      have hself : s.hal.vendorOf block = some dev.vendor := by rw [CameraHal.vendorOf, hdev]; rfl
      obtain ⟨v, hv, hopen⟩ := h.paired.mapsTo hmem
      obtain rfl : dev.vendor = v := Option.some.inj (hself.symm.trans hv)
      refine and_comm.1 ⟨h.closed hmem hdev rfl rfl, Kept.paired (h.closed hmem hdev rfl rfl), dev.vendor, hself, hopen, ?_⟩
      simp

/-- The promises of the camera wrapper, in every run of `camera_device_open` and `camera_device_close` from the state in
which the module is loaded: the vendor's open devices and the held wrappers stay paired, each close ends the device of its
wrapper, and each open tells the truth about what it stored, exactly if every open of the run names a camera, finds the
vendor's module, and does not fail at the table of operations after the vendor has opened its device. -/
theorem camera_conservation (s : CameraUse) (hs : cameraSystem.init s) (es : List CameraLabel) :
    cameraSystem.Always s es Conserves ↔ cameraSystem.Always s es OpensCleanly := by
  have hkept : Kept s := by
    obtain ⟨howned, -, hheld⟩ := hs
    constructor
    case paired =>
      have hopen : s.hal.openVendors = ∅ := by
        ext v
        simp [CameraHal.openVendors, howned]
      rw [Paired, hopen, hheld, Finset.coe_empty]
      exact Set.bijOn_empty _
    case live => simp [hheld]
  refine Lts.always_iff (J := Kept) ?_ ?_ es hkept
  · intro t ht h
    rcases t with ⟨s, e, s'⟩
    cases e with
    | openDevice env name => exact (conserves_open ht h).1
    | closeDevice block => exact iff_of_true (conserves_close ht h).1 trivial
  · intro t ht h hq
    rcases t with ⟨s, e, s'⟩
    cases e with
    | openDevice env name => exact (conserves_open ht h).2 ((conserves_open ht h).1.1 hq)
    | closeDevice block => exact (conserves_close ht h).2

/-! ## Runs -/

/-- The wrapper when its module is loaded. -/
def CameraUse.loaded : CameraUse := ⟨⟨false, .empty, fun _ => none⟩, ∅⟩

/-- The cameras "0" and "1" are opened and closed, and an attempt on camera "7" is refused in between. -/
theorem camera_conservation_twoCameras :
    cameraSystem.Always .loaded
      [.openDevice .sample (some [48]), .openDevice .sample (some [49]), .openDevice .sample (some [55]), .closeDevice 0,
        .closeDevice 3] Conserves := by
  refine (camera_conservation .loaded ⟨rfl, rfl, rfl⟩ _).2 ?_
  decide +kernel

/-- When the table of operations cannot be allocated, the vendor's device stays open without a wrapper. -/
theorem vendor_device_leaks : ¬ ∀ s, cameraSystem.init s → ∀ es, cameraSystem.Always s es Conserves := by
  intro h
  have hrun := h .loaded ⟨rfl, rfl, rfl⟩ [.openDevice { CameraEnv.sample with mallocOps := false } (some [48])]
  have hpaired := (hrun _ (by rw [Lts.trace_cons_some rfl]; exact List.mem_cons_self)).1
  obtain ⟨block, hm, -⟩ := hpaired.surjOn ⟨1, rfl, by decide +kernel⟩
  simp [CameraUse.loaded] at hm

end Universal7880
