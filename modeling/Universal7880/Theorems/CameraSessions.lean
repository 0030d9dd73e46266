import Universal7880.CameraOps
import Universal7880.Theorems.CameraConservation

/-!
# What the vendor's cameras see

`camera_proxy`: in every run of opens, operations and closes the wrapper is a proxy. The vendor's devices are opened, called
and closed as the wrappers are, in the same order, with the same arguments and codes, except for the devices that are lost
when the table of operations cannot be allocated, which stay open and are never called. Whatever sequence of calls the
framework keeps to on each device, such as the one that `camera3.h` documents (`camera3Sequence`), the vendor sees it kept.
-/

namespace Universal7880

/-! ## One step -/

/-- Nothing is given back to the counter of the heap. -/
theorem next_le_cameraDeviceOpen (env : CameraEnv) (name : Option CString) (hal : CameraHal) :
    hal.heap.next ≤ (cameraDeviceOpen env name hal).2.heap.next := by
  cases name with
  | none => exact Nat.le_refl _
  | some name =>
    simp only [cameraDeviceOpen, cameraDeviceOpenTraced, openCameraTraced]
    split_ifs <;> simp <;> omega

/-- An attempt that stores no device leaves the blocks of the others as they are. -/
theorem device_cameraDeviceOpen {env : CameraEnv} {name : Option CString} {hal : CameraHal}
    (h : (cameraDeviceOpen env name hal).1.device.join = none) : (cameraDeviceOpen env name hal).2.device = hal.device := by
  cases name with
  | none => rfl
  | some name =>
    simp only [cameraDeviceOpen, cameraDeviceOpenTraced, openCameraTraced] at h ⊢
    split_ifs at h ⊢ <;> simp_all

/-- The vendor's device that an attempt has opened is the one that is owned after it. -/
theorem vendorOpened_eq (env : CameraEnv) (name : Option CString) (hal : CameraHal) :
    vendorOpened env name hal =
      if (CameraResource.vendorDevice, hal.heap.next + 1) ∈ (cameraDeviceOpen env name hal).2.heap.owned then
        [.opened (hal.heap.next + 1)]
      else [] := by
  have hnew : (CameraResource.vendorDevice, hal.heap.next + 1) ∉ hal.heap.owned := hal.heap.not_owned_of_le (Nat.le_succ _)
  cases name with
  | none => simp [vendorOpened, cameraDeviceOpenTraced, cameraDeviceOpen, hnew]
  | some name =>
    simp only [vendorOpened, cameraDeviceOpen, cameraDeviceOpenTraced, openCameraTraced]
    split_ifs <;> simp_all

/-- Each operation hands its own call on: what the vendor's device answers is what the wrapper returns. -/
theorem callOperation_some {call : DeviceCall} {rc : Int} {block : ℕ} {hal : CameraHal}
    {r : Option Int × List DeviceEvent} (h : callOperation call rc (some block) hal = some r) :
    ∃ dev, hal.device block = some dev ∧ r.2 = [.called dev.vendor (call, r.1)] := by
  have hforward : ∃ onNull answer, callOperation call rc = forwardToDevice onNull call answer := by
    cases call <;> exact ⟨_, _, rfl⟩
  obtain ⟨onNull, answer, heq⟩ := hforward
  rw [heq] at h
  obtain ⟨dev, hdev, rfl⟩ := Option.map_eq_some_iff.1 h
  exact ⟨dev, hdev, rfl⟩

/-- For the device `NULL` the vendor is not called. -/
theorem callOperation_none {call : DeviceCall} {rc : Int} {hal : CameraHal} {r : Option Int × List DeviceEvent}
    (h : callOperation call rc none hal = some r) : r.2 = [] := by
  cases call <;> exact (congrArg Prod.snd (Option.some.inj h)).symm

/-- A close, where it has a step. -/
theorem cameraClose_of_steps {s s' : CameraUse} {block : ℕ} (h : cameraSystem.step s (.closeDevice block) = some s') :
    block ∈ s.held ∧ ∃ dev, s.hal.device block = some dev ∧ s' =
      { hal := { s.hal with
          heap := ((s.hal.heap.release (.vendorDevice, dev.vendor)).release (.ops, dev.ops)).release (.wrapper, block)
          device := Function.update s.hal.device block none }
        held := s.held.erase block } := by
  simp only [cameraSystem] at h
  split at h
  case isFalse => cases h
  case isTrue hmem =>
    obtain ⟨⟨rc, hal⟩, hclose, rfl⟩ := Option.map_eq_some_iff.1 h
    unfold cameraDeviceClose at hclose
    cases hdev : s.hal.device block with
    | none => simp [hdev] at hclose
    | some dev =>
      simp only [hdev, Option.some.injEq, Prod.mk.injEq] at hclose
      obtain ⟨-, rfl⟩ := hclose
      exact ⟨hmem, dev, rfl, rfl⟩

/-! ## The invariant -/

open Session

/-- The device of the vendor's that is lost in a step: the one that an attempt has opened, if it has then failed to allocate the
table of operations. -/
def lostDevice (t : Lts.Transition CameraSession SessionLabel) : Option ℕ :=
  match t.label with
  | .openDevice env (some name) =>
    if ModuleFound env t.src.use.hal ∧ FailsAtOps env name then some (t.src.use.hal.heap.next + 1) else none
  | _ => none

/-- The framework opens each device under a new name, and has the held ones open. -/
def FrameworkKeeps (s : CameraSession) : Prop :=
  ∃ t, Interface.free.protocol.run .none s.framework = some t ∧ (∀ block ∈ t.used, block < s.use.hal.heap.next) ∧
    ∀ block, t.phase block = some () ↔ block ∈ s.use.held

/-- The wrapper is a proxy that names the vendor's device after its own block, which is the block before; the vendor's open
devices are the lost ones and those behind the held wrappers. -/
structure Forwards (s : CameraSession) (lost : Finset ℕ) : Prop where
  proxy : Proxy Nat.succ s.framework s.vendor lost
  keeps : FrameworkKeeps s
  behind : ∀ block ∈ s.use.held, ∃ dev, s.use.hal.device block = some dev ∧ dev.vendor = block + 1
  fresh : ∀ e ∈ s.vendor, e.subject < s.use.hal.heap.next
  notLost : ∀ block ∈ s.use.held, block + 1 ∉ lost
  owned : ∀ v, (CameraResource.vendorDevice, v) ∈ s.use.hal.heap.owned ↔ v ∈ lost ∨ ∃ block ∈ s.use.held, block + 1 = v

/-- An operation leaves the devices as they are. -/
theorem Forwards.operate {s s' : CameraSession} {lost : Finset ℕ} {device : Option ℕ} {call : DeviceCall} {rc : Int}
    (ht : sessionSystem.step s (.operate device call rc) = some s') (h : Forwards s lost) : Forwards s' lost := by
  simp only [sessionSystem] at ht
  split at ht
  case isFalse => cases ht
  case isTrue hheld =>
    obtain ⟨r, hcall, rfl⟩ := Option.map_eq_some_iff.1 ht
    cases device with
    | none =>
      rw [callOperation_none hcall]
      simpa using h
    | some block =>
      have hmem : block ∈ s.use.held := by simpa using hheld
      obtain ⟨dev, hdev, hr⟩ := callOperation_some hcall
      obtain ⟨dev', hdev', hvendor⟩ := h.behind block hmem
      obtain rfl : dev = dev' := Option.some.inj (hdev.symm.trans hdev')
      obtain ⟨t, hrun, hused, hphase⟩ := h.keeps
      have hopen : (CameraResource.vendorDevice, block + 1) ∈ s.use.hal.heap.owned :=
        (h.owned _).2 (Or.inr ⟨block, hmem, rfl⟩)
      simp only [hr, hvendor, Option.map_some, Option.toList_some]
      constructor
      case proxy => exact h.proxy.event (.called block (call, r.1)) (h.notLost block hmem)
      case keeps =>
        refine ⟨{ t with phase := Function.update t.phase block (some ()) }, ?_, hused, ?_⟩
        · rw [Lts.run_concat, hrun, Option.bind_some]
          simp only [Interface.protocol, (hphase block).2 hmem]
          rfl
        · intro b
          by_cases heq : b = block
          · simp [heq, hmem]
          · simp only [Function.update_of_ne heq, hphase]
      case fresh =>
        intro e he
        rcases List.mem_append.1 he with he | he
        · exact h.fresh e he
        · obtain rfl := List.mem_singleton.1 he
          exact s.use.hal.heap.fresh _ hopen
      case behind => exact h.behind
      case notLost => exact h.notLost
      case owned => exact h.owned

/-- A close is a close of the device behind. -/
theorem Forwards.close {s s' : CameraSession} {lost : Finset ℕ} {block : ℕ}
    (ht : sessionSystem.step s (.closeDevice block) = some s') (h : Forwards s lost) : Forwards s' lost := by
  simp only [sessionSystem] at ht
  obtain ⟨use, hclose, rfl⟩ := Option.map_eq_some_iff.1 ht
  obtain ⟨hmem, dev, hdev, rfl⟩ := cameraClose_of_steps hclose
  obtain ⟨dev', hdev', hvendor⟩ := h.behind block hmem
  obtain rfl : dev = dev' := Option.some.inj (hdev.symm.trans hdev')
  obtain ⟨t, hrun, hused, hphase⟩ := h.keeps
  have hopen : (CameraResource.vendorDevice, block + 1) ∈ s.use.hal.heap.owned := (h.owned _).2 (Or.inr ⟨block, hmem, rfl⟩)
  simp only [hdev, hvendor, Option.map_some, Option.toList_some]
  constructor
  case proxy => exact h.proxy.event (.closed block) (h.notLost block hmem)
  case keeps =>
    refine ⟨{ t with phase := Function.update t.phase block none }, ?_, hused, ?_⟩
    · rw [Lts.run_concat, hrun, Option.bind_some]
      simp only [Interface.protocol, (hphase block).2 hmem]
      rfl
    · intro b
      by_cases heq : b = block
      · simp [heq]
      · simp [hphase, heq]
  case behind =>
    intro b hb
    obtain ⟨hne, hb⟩ := Finset.mem_erase.1 hb
    simpa only [Function.update_of_ne hne] using h.behind b hb
  case fresh =>
    intro e he
    rcases List.mem_append.1 he with he | he
    · exact h.fresh e he
    · obtain rfl := List.mem_singleton.1 he
      exact s.use.hal.heap.fresh _ hopen
  case notLost => exact fun b hb => h.notLost b (Finset.mem_of_mem_erase hb)
  case owned =>
    intro v
    simp only [Ledger.owned_release, Finset.mem_erase, ne_eq, Prod.mk.injEq, reduceCtorEq, false_and, not_false_eq_true,
      true_and, h.owned v]
    constructor
    · intro hv
      rcases hv with ⟨hne, hlost | ⟨b, hb, rfl⟩⟩
      · exact Or.inl hlost
      · exact Or.inr ⟨b, ⟨fun heq => hne (by rw [heq]), hb⟩, rfl⟩
    · intro hv
      rcases hv with hlost | ⟨b, ⟨hne, hb⟩, rfl⟩
      · exact ⟨fun heq => h.notLost block hmem (heq ▸ hlost), Or.inl hlost⟩
      · exact ⟨fun heq => hne (Nat.succ.inj heq), Or.inr ⟨b, hb, rfl⟩⟩

/-- An attempt that opens nothing. -/
theorem Forwards.frame {s : CameraSession} {lost : Finset ℕ} {hal : CameraHal} (h : Forwards s lost)
    (hdevice : hal.device = s.use.hal.device) (howned : hal.heap.owned = s.use.hal.heap.owned)
    (hnext : s.use.hal.heap.next ≤ hal.heap.next) : Forwards { s with use := { s.use with hal } } lost := by
  obtain ⟨t, hrun, hused, hphase⟩ := h.keeps
  constructor
  case proxy => exact h.proxy
  case keeps => exact ⟨t, hrun, fun block hb => Nat.lt_of_lt_of_le (hused block hb) hnext, hphase⟩
  case behind => simpa only [hdevice] using h.behind
  case fresh => exact fun e he => Nat.lt_of_lt_of_le (h.fresh e he) hnext
  case notLost => exact h.notLost
  case owned => simpa only [howned] using h.owned

/-- The vendor's device of an attempt that fails at the table of operations is lost. -/
theorem Forwards.lose {s : CameraSession} {lost : Finset ℕ} {hal : CameraHal} (h : Forwards s lost)
    (hdevice : hal.device = s.use.hal.device)
    (howned : hal.heap.owned = insert (.vendorDevice, s.use.hal.heap.next + 1) s.use.hal.heap.owned) :
    Forwards { s with
      use := { s.use with hal }, vendor := s.vendor ++ [.opened (s.use.hal.heap.next + 1)] }
      (insert (s.use.hal.heap.next + 1) lost) := by
  obtain ⟨t, hrun, hused, hphase⟩ := h.keeps
  have hnext : s.use.hal.heap.next + 1 < hal.heap.next :=
    hal.heap.fresh (.vendorDevice, _) (by rw [howned]; exact Finset.mem_insert_self _ _)
  constructor
  case proxy => exact h.proxy.lose _ fun e he heq => by have := h.fresh e he; omega
  case keeps => exact ⟨t, hrun, fun block hb => by have := hused block hb; simp only; omega, hphase⟩
  case behind => simpa only [hdevice] using h.behind
  case fresh =>
    intro e he
    rcases List.mem_append.1 he with he | he
    · have := h.fresh e he
      simp only
      omega
    · obtain rfl := List.mem_singleton.1 he
      exact hnext
  case notLost =>
    intro block hb hmem
    rcases Finset.mem_insert.1 hmem with heq | hmem
    · have hopen := s.use.hal.heap.fresh _ ((h.owned _).2 (Or.inr ⟨block, hb, rfl⟩))
      simp only at hopen
      omega
    · exact h.notLost block hb hmem
  case owned =>
    intro v
    simp only [howned, Finset.mem_insert, Prod.mk.injEq, true_and, h.owned v, or_assoc]

/-- A device that is opened has the vendor's device behind it. -/
theorem Forwards.opened {s : CameraSession} {lost : Finset ℕ} {hal : CameraHal} {id : Int} {ops : ℕ} (h : Forwards s lost)
    (hdevice : hal.device = Function.update s.use.hal.device s.use.hal.heap.next
      (some ⟨id, s.use.hal.heap.next + 1, ops⟩))
    (howned : hal.heap.owned = insert (.ops, ops) (insert (.vendorDevice, s.use.hal.heap.next + 1)
      (insert (.wrapper, s.use.hal.heap.next) s.use.hal.heap.owned))) :
    Forwards
      { use := { hal, held := s.use.held ∪ {s.use.hal.heap.next} }
        framework := s.framework ++ [.opened s.use.hal.heap.next]
        vendor := s.vendor ++ [.opened (s.use.hal.heap.next + 1)] } lost := by
  obtain ⟨t, hrun, hused, hphase⟩ := h.keeps
  have hnext : s.use.hal.heap.next + 1 < hal.heap.next :=
    hal.heap.fresh (.vendorDevice, _) (by simp [howned])
  have hlost : s.use.hal.heap.next + 1 ∉ lost := by
    intro hmem
    have := s.use.hal.heap.fresh _ ((h.owned _).2 (Or.inl hmem))
    simp only at this
    omega
  have hheld : ∀ block ∈ s.use.held, block + 1 < s.use.hal.heap.next :=
    fun block hb => s.use.hal.heap.fresh _ ((h.owned _).2 (Or.inr ⟨block, hb, rfl⟩))
  constructor
  case proxy => exact h.proxy.event (.opened s.use.hal.heap.next) hlost
  case keeps =>
    have hnew : s.use.hal.heap.next ∉ t.used := fun hmem => Nat.lt_irrefl _ (hused _ hmem)
    refine ⟨⟨insert s.use.hal.heap.next t.used, Function.update t.phase s.use.hal.heap.next (some ())⟩, ?_, ?_, ?_⟩
    · rw [Lts.run_concat, hrun, Option.bind_some]
      exact if_neg hnew
    · intro block hb
      rcases Finset.mem_insert.1 hb with rfl | hb
      · exact Nat.lt_of_succ_lt hnext
      · have := hused block hb
        simp only
        omega
    · intro block
      by_cases heq : block = s.use.hal.heap.next
      · simp [heq]
      · simp [hphase, heq]
  case behind =>
    intro block hb
    rcases Finset.mem_union.1 hb with hb | hb
    · have hne : block ≠ s.use.hal.heap.next := by have := hheld block hb; omega
      simpa only [hdevice, Function.update_of_ne hne] using h.behind block hb
    · obtain rfl := Finset.mem_singleton.1 hb
      exact ⟨_, by rw [hdevice, Function.update_self], rfl⟩
  case fresh =>
    intro e he
    rcases List.mem_append.1 he with he | he
    · have := h.fresh e he
      simp only
      omega
    · obtain rfl := List.mem_singleton.1 he
      exact hnext
  case notLost =>
    intro block hb
    rcases Finset.mem_union.1 hb with hb | hb
    · exact h.notLost block hb
    · exact Finset.mem_singleton.1 hb ▸ hlost
  case owned =>
    intro v
    simp only [howned, Finset.mem_insert, Prod.mk.injEq, reduceCtorEq, false_and, true_and, false_or, h.owned v,
      Finset.mem_union, Finset.mem_singleton, or_and_right, exists_or, exists_eq_left]
    rw [eq_comm (a := v), or_comm, or_assoc]

/-- An attempt to open does one of the three; it loses a device exactly if it fails at the table of operations. -/
theorem Forwards.open {s s' : CameraSession} {lost : Finset ℕ} {env : CameraEnv} {name : Option CString}
    (ht : sessionSystem.step s (.openDevice env name) = some s') (h : Forwards s lost) :
    Forwards s' (lost ∪ (lostDevice ⟨s, .openDevice env name, s'⟩).toFinset) := by
  simp only [sessionSystem] at ht
  obtain ⟨use, huse, rfl⟩ := Option.map_eq_some_iff.1 ht
  have hnext := next_le_cameraDeviceOpen env name s.use.hal
  have hdevice := @device_cameraDeviceOpen env name s.use.hal
  have hnew : (CameraResource.vendorDevice, s.use.hal.heap.next + 1) ∉ s.use.hal.heap.owned :=
    s.use.hal.heap.not_owned_of_le (Nat.le_succ _)
  obtain ⟨result, hal, heq, hopen, rfl⟩ := cameraOpen_of_steps huse
  rw [vendorOpened_eq]
  simp only [heq] at hnext hdevice ⊢
  cases hopen with
  | nullName => simpa [lostDevice, hnew] using h
  | noModule name hal hmissing hheap =>
    rw [if_neg (by rw [hheap]; exact hnew)]
    simpa [lostDevice, hmissing] using h.frame (hdevice rfl) (by rw [hheap]) hnext
  | refused name rv hal hfound hno hrv howned hsame =>
    rw [if_neg (by rw [howned]; exact hnew)]
    simpa [lostDevice, hno] using h.frame hsame howned hnext
  | leaked name hal hfound hleak howned hsame =>
    rw [if_pos (by rw [howned]; exact Finset.mem_insert_self _ _)]
    simpa [lostDevice, hfound, hleak, Finset.union_comm lost] using h.lose hsame howned
  | opened name hal hfound hno howned hupdate =>
    rw [if_pos (by simp [howned])]
    simpa [lostDevice, hno] using h.opened hupdate howned

/-- A step loses a device that was not opened before. -/
theorem Forwards.new_lost {t : Lts.Transition CameraSession SessionLabel} {lost : Finset ℕ} (h : Forwards t.src lost) {d : ℕ}
    (hd : lostDevice t = some d) : d ∉ lost := by
  have hnext : d = t.src.use.hal.heap.next + 1 := by
    unfold lostDevice at hd
    split at hd
    case h_2 => cases hd
    case h_1 =>
      split_ifs at hd
      exact (Option.some.inj hd).symm
  intro hmem
  have hlt := t.src.use.hal.heap.fresh _ ((h.owned d).2 (Or.inl hmem))
  simp only [hnext] at hlt
  omega

/-- Every step keeps the invariant, with the device that it loses. -/
theorem forwards_step {t : Lts.Transition CameraSession SessionLabel} {lost : List ℕ} (ht : sessionSystem.Steps t)
    (h : lost.Nodup ∧ Forwards t.src lost.toFinset) :
    (lost ++ (lostDevice t).toList).Nodup ∧ Forwards t.dst (lost ++ (lostDevice t).toList).toFinset := by
  obtain ⟨hnodup, h⟩ := h
  have hnext : Forwards t.dst (lost.toFinset ∪ (lostDevice t).toFinset) := by
    rcases t with ⟨s, e, s'⟩
    cases e with
    | openDevice env name => exact h.open ht
    | operate device call rc => simpa [lostDevice] using h.operate ht
    | closeDevice block => simpa [lostDevice] using h.close ht
  cases hlost : lostDevice t with
  | none =>
    rw [hlost] at hnext
    exact ⟨by simpa using hnodup, by simpa using hnext⟩
  | some d =>
    rw [hlost] at hnext
    have hnew : d ∉ lost := fun hmem => h.new_lost hlost (List.mem_toFinset.2 hmem)
    refine ⟨hnodup.append (List.nodup_singleton d) (by simpa using hnew), ?_⟩
    simpa [List.toFinset_append] using hnext

/-! ## The proxy -/

/-- What the wrapper promises about the history so far, given the names of the vendor's devices behind its own and the devices
that were lost. -/
structure Transparent (s : CameraSession) (name : ℕ → ℕ) (lost : Finset ℕ) : Prop where
  injective : Function.Injective name
  /-- The same events in the same order, but for the lost devices, which are opened and left alone. -/
  proxy : Proxy name s.framework s.vendor lost
  behind : ∀ block ∈ s.use.held, s.use.hal.vendorOf block = some (name block)
  owned : ∀ v, (CameraResource.vendorDevice, v) ∈ s.use.hal.heap.owned ↔ v ∈ lost ∨ ∃ block ∈ s.use.held, name block = v
  /-- A device of the vendor's is opened once, is called and closed while it is open only, and those left open are owned. -/
  opened : ∃ t, Interface.free.protocol.run .none s.vendor = some t ∧
    ∀ v, t.phase v = some () ↔ (CameraResource.vendorDevice, v) ∈ s.use.hal.heap.owned
  /-- The vendor's devices see the sequence of calls that the framework keeps to. -/
  sequence : ∀ {φ : Type} (I : Interface φ (DeviceCall × Option Int)) t, I.protocol.run .none s.framework = some t →
    ∃ t', I.protocol.run .none s.vendor = some t' ∧ ∀ block ∈ s.use.held, t'.phase (name block) = t.phase block

theorem Forwards.transparent {s : CameraSession} {lost : Finset ℕ} (h : Forwards s lost) : Transparent s Nat.succ lost := by
  constructor
  case injective => exact Nat.succ_injective
  case proxy => exact h.proxy
  case behind =>
    intro block hb
    obtain ⟨dev, hdev, hvendor⟩ := h.behind block hb
    rw [CameraHal.vendorOf, hdev, Option.map_some, hvendor]
  case owned => exact h.owned
  case opened =>
    obtain ⟨t, hrun, hused, hphase⟩ := h.keeps
    obtain ⟨t', hrun', hfollows⟩ := h.proxy.run Nat.succ_injective hrun
    refine ⟨t', hrun', ?_⟩
    intro v
    rw [h.owned]
    constructor
    · intro hv
      rcases (hfollows.used v).1 (used_of_phase hrun' (by rw [hv]; exact Option.some_ne_none _)) with hlost | ⟨c, -, rfl⟩
      · exact Or.inl hlost
      · by_cases hc : c.succ ∈ lost
        · exact Or.inl hc
        · exact Or.inr ⟨c, (hphase c).1 (by rw [← hfollows.phase c hc, hv]), rfl⟩
    · intro hv
      rcases hv with hlost | ⟨c, hc, rfl⟩
      · exact hfollows.started v hlost
      · rw [hfollows.phase c (h.notLost c hc), hphase]
        exact hc
  case sequence =>
    intro φ I t hrun
    obtain ⟨t', hrun', hfollows⟩ := h.proxy.run Nat.succ_injective hrun
    exact ⟨t', hrun', fun block hb => hfollows.phase block (h.notLost block hb)⟩

/-- Before anything has happened. -/
theorem forwards_init {s : CameraSession} (hs : sessionSystem.init s) : Forwards s ∅ := by
  obtain ⟨⟨howned, -, hheld⟩, hframework, hvendor⟩ := hs
  constructor
  case proxy =>
    rw [hframework, hvendor]
    exact .nil
  case keeps => exact ⟨.none, by rw [hframework]; rfl, by simp [Devices.none], by simp [Devices.none, hheld]⟩
  all_goals simp [hheld, hvendor, howned]

/-- The wrapper is a proxy in every run of opens, operations and closes, whatever fails in them: the vendor's devices see what
the framework does to the wrappers, in the same order and with the same codes, and any interface that the framework keeps to
is kept towards the vendor. The only other devices are those that are lost, one at each attempt to open that fails at the table
of operations after the vendor has opened its device: they are opened, never called, and stay open. -/
theorem camera_proxy (s : CameraSession) (hs : sessionSystem.init s) (es : List SessionLabel) (u : CameraSession)
    (hrun : sessionSystem.run s es = some u) :
    ((sessionSystem.trace s es).filterMap lostDevice).Nodup ∧
      ∃ name, Transparent u name ((sessionSystem.trace s es).filterMap lostDevice).toFinset := by
  have hend := Lts.collected_at_end (J := fun s lost => lost.Nodup ∧ Forwards s lost.toFinset)
    (fun t lost ht h => forwards_step ht h) es (c := []) ⟨List.nodup_nil, forwards_init hs⟩ hrun
  exact ⟨hend.1, _, hend.2.transparent⟩

/-- The wrapper when its module is loaded. -/
def CameraSession.loaded : CameraSession := ⟨.loaded, [], []⟩

/-- One attempt to open a camera fails at the table of operations and another one succeeds; that device is used for one request
and closed. -/
def oneRequest : List SessionLabel :=
  [.openDevice { CameraEnv.sample with mallocOps := false } (some [48]), .openDevice .sample (some [48]),
    .operate (some 2) (.initializeWith 7) 0, .operate (some 2) (.configureStreams 8) 0, .operate none .flush 0,
    .operate (some 2) (.processCaptureRequest 9) 0, .closeDevice 2]

/-- The vendor sees the sequence of `camera3.h` on the device that was used, and keeps the one that was lost open. -/
theorem camera_proxy_oneRequest :
    ∃ s, sessionSystem.run .loaded oneRequest = some s ∧ (camera3Sequence.protocol.run .none s.framework).isSome = true ∧
      (sessionSystem.trace .loaded oneRequest).filterMap lostDevice = [1] ∧ ∃ name, Transparent s name {1} := by
  have hrun : (sessionSystem.run .loaded oneRequest).map
      (fun s => (camera3Sequence.protocol.run .none s.framework).isSome) = some true := by decide +kernel
  obtain ⟨s, hs, hsequence⟩ := Option.map_eq_some_iff.1 hrun
  have hloaded : sessionSystem.init .loaded := ⟨⟨rfl, rfl, rfl⟩, rfl, rfl⟩
  have hlost : (sessionSystem.trace .loaded oneRequest).filterMap lostDevice = [1] := by decide +kernel
  have hproxy := (camera_proxy .loaded hloaded oneRequest s hs).2
  rw [hlost] at hproxy
  exact ⟨s, hs, hsequence, hlost, hproxy⟩

end Universal7880
