import Universal7880.CameraThreads
import Universal7880.Theorems.CameraModuleCalls

/-!
# The camera wrapper under threads

`wrapper_threads_refine`: in any interleaving of any number of threads, the functions of the wrapper return what they would
return if they were called one at a time, and leave what they would leave, provided that no look-up fails after another one has
succeeded. `camera_device_open` and `camera_device_close` take several steps, which the lock makes one; the other functions share
only the pointer with them.
-/

namespace Universal7880

/-! ## One call at a time -/

/-- A call that finds the vendor's module. -/
theorem callWrapper_of_found {call : WrapperCall} {env : ModuleEnv} {s : WrapperUse}
    (h : s.hal.gVendorModule = true ∨ env.getModule = 0) :
    callWrapper call env s = (call.returns env.vendor,
      ⟨{ s.hal with gVendorModule := true }, s.received ++ [(call, call.returns env.vendor)]⟩) := by
  have hcheck : checkVendorModule env.getModule s.hal.gVendorModule = (0, true) := by
    unfold checkVendorModule
    rcases h with h | h
    · rw [if_pos h]
    · split_ifs <;> simp [h]
  cases call with
  | forwarded call =>
    simp only [callWrapper, callModule_eq, forwardToVendor_of_found (s := ⟨s.hal.gVendorModule, []⟩) h]
    rfl
  | getNumberOfCameras =>
    simp only [callWrapper, cameraGetNumberOfCameras, WrapperUse.check, hcheck]
    rfl
  | getVendorTagOps ops =>
    simp only [callWrapper, cameraGetVendorTagOps, WrapperUse.check, hcheck]
    rfl

/-- A call that does not. -/
theorem callWrapper_of_not_found {call : WrapperCall} {env : ModuleEnv} {s : WrapperUse}
    (hset : s.hal.gVendorModule = false) (hcode : env.getModule ≠ 0) : callWrapper call env s = (call.returns 0, s) := by
  have hcheck : s.check env.getModule = (env.getModule, s) := by
    rcases s with ⟨⟨gVendorModule, heap, device⟩, received⟩
    obtain rfl : gVendorModule = false := hset
    simp [WrapperUse.check, checkVendorModule, hcode]
  cases call with
  | forwarded call =>
    have hno : ¬ (s.hal.gVendorModule = true ∨ env.getModule = 0) := by simp [hset, hcode]
    simp only [callWrapper, callModule_eq, forwardToVendor_of_not_found (s := ⟨s.hal.gVendorModule, []⟩) hno]
    rcases s with ⟨⟨gVendorModule, heap, device⟩, received⟩
    obtain rfl : gVendorModule = false := hset
    simp [WrapperCall.returns]
  | getNumberOfCameras => simp [callWrapper, cameraGetNumberOfCameras, hcheck, hcode, WrapperCall.returns]
  | getVendorTagOps ops => simp [callWrapper, cameraGetVendorTagOps, hcheck, hcode, WrapperCall.returns]

/-- An attempt to open that finds the vendor's module. -/
theorem cameraDeviceOpen_of_found {env : CameraEnv} {name : CString} {hal : CameraHal} (h : env.getModule = 0) :
    cameraDeviceOpen env (some name) hal = openCamera env name { hal with gVendorModule := true } := by
  simp only [cameraDeviceOpen, cameraDeviceOpenTraced, openCamera, checkVendorModule, h]
  split_ifs <;> simp_all

/-- An attempt to open that does not. -/
theorem cameraDeviceOpen_of_not_found {env : CameraEnv} {name : CString} {hal : CameraHal} (hset : hal.gVendorModule = false)
    (hcode : env.getModule ≠ 0) : cameraDeviceOpen env (some name) hal = (⟨-EINVAL, none⟩, hal) := by
  rcases hal with ⟨gVendorModule, heap, device⟩
  obtain rfl : gVendorModule = false := hset
  simp [cameraDeviceOpen, cameraDeviceOpenTraced, checkVendorModule, hcode]

/-! ## Threads -/

namespace CameraPc

/-- The thread holds the lock. -/
def holds : CameraPc → Bool
  | .testing (.openDevice _) | .lookingUp (.openDevice _) => true
  | .openName _ | .openCount _ | .openCompare .. | .openMalloc .. | .openVendor .. | .openOps .. => true
  | .closeVendor _ | .closeFree .. => true
  | _ => false

/-- The thread has found the vendor's module. -/
def found : CameraPc → Bool
  | .calling _ | .openCount _ | .openCompare .. | .openMalloc .. | .openVendor .. | .openOps .. => true
  | _ => false

end CameraPc

namespace CameraThreads

/-- What the holder of the lock has done so far to what it found: nothing, but for what it has acquired or given back. -/
def Section (before hal : CameraHal) : CameraPc → Prop
  | .openMalloc name numCameras => atoi name ≤ numCameras ∧ hal.heap = before.heap ∧ hal.device = before.device
  | .openVendor name numCameras cameraDevice =>
    atoi name ≤ numCameras ∧ cameraDevice = before.heap.next ∧ hal.heap = before.heap.acquire .wrapper ∧
      hal.device = before.device
  | .openOps name numCameras cameraDevice vendor =>
    atoi name ≤ numCameras ∧ cameraDevice = before.heap.next ∧ vendor = (before.heap.acquire .wrapper).next ∧
      hal.heap = (before.heap.acquire .wrapper).acquire .vendorDevice ∧ hal.device = before.device
  | .closeFree block dev =>
    before.device block = some dev ∧ hal.heap = before.heap.release (.vendorDevice, dev.vendor) ∧ hal.device = before.device
  | _ => hal.heap = before.heap ∧ hal.device = before.device

/-- The pointer is set for the threads that have found the vendor's module, and once one of them has returned; the lock is with
the thread in one of the two locked functions, which has done its part to what it found; no thread has gone through `NULL`. -/
structure Locked (s : CameraThreads) : Prop where
  pointer : ∀ i, (s.pc i).found = true → s.hal.gVendorModule = true
  bound : s.found = true → s.hal.gVendorModule = true
  holder : ∀ i, (s.pc i).holds = true ↔ s.lock = some i
  progress : ∀ i, s.lock = some i → Section s.before s.hal (s.pc i)
  sound : s.crashed = false

/-- What the threads are one at a time: the holder of the lock has done nothing yet, and the module is bound once a call that
found it has returned. -/
def atATime (s : CameraThreads) : WrapperUse where
  hal :=
    { gVendorModule := s.found
      heap := if s.lock = none then s.hal.heap else s.before.heap
      device := if s.lock = none then s.hal.device else s.before.device }
  received := s.received

variable {s : CameraThreads} {i : ℕ} {pc : CameraPc} {hal : CameraHal}

/-- The rest of the wrapper is as it was. -/
def SameHeap (hal hal' : CameraHal) : Prop := hal'.heap = hal.heap ∧ hal'.device = hal.device

theorem Section.congr {before hal' : CameraHal} (h : Section before hal pc) (hsame : SameHeap hal hal') :
    Section before hal' pc := by
  obtain ⟨hheap, hdevice⟩ := hsame
  cases pc <;> simp_all [Section]

/-- A thread goes on, with or without the lock. -/
theorem Locked.goto (h : s.Locked) (hset : s.hal.gVendorModule = true → hal.gVendorModule = true)
    (hfound : pc.found = true → hal.gVendorModule = true) (hholds : pc.holds = (s.pc i).holds)
    (hsection : (s.pc i).holds = true → Section s.before hal pc)
    (hfree : (s.pc i).holds = false → SameHeap s.hal hal) : ({ s with hal }.goto i pc).Locked where
  pointer j hj := by
    by_cases hji : j = i
    · subst hji
      exact hfound (by simpa [CameraThreads.goto] using hj)
    · exact hset (h.pointer j (by simpa [CameraThreads.goto, Function.update_of_ne hji] using hj))
  bound hb := hset (h.bound hb)
  holder j := by
    by_cases hji : j = i
    · subst hji
      simpa [CameraThreads.goto, hholds] using h.holder j
    · simpa [CameraThreads.goto, Function.update_of_ne hji] using h.holder j
  progress j hj := by
    have hlock : s.lock = some j := hj
    by_cases hji : j = i
    · subst hji
      simpa [CameraThreads.goto] using hsection ((h.holder j).2 hlock)
    · have hnot : (s.pc i).holds = false := by
        by_contra hi
        have := (h.holder i).1 (by simpa using hi)
        rw [hlock] at this
        exact hji (Option.some.inj this)
      simpa [CameraThreads.goto, Function.update_of_ne hji] using (h.progress j hlock).congr (hfree hnot)
  sound := h.sound

/-- A thread takes the lock. -/
theorem Locked.acquire (h : s.Locked) (hlock : s.lock = none) (hholds : pc.holds = true) (hfound : pc.found = false)
    (hsection : Section s.hal s.hal pc) : ({ s with lock := some i, before := s.hal }.goto i pc).Locked where
  pointer j hj := by
    by_cases hji : j = i
    · subst hji
      simp [CameraThreads.goto, hfound] at hj
    · exact h.pointer j (by simpa [CameraThreads.goto, Function.update_of_ne hji] using hj)
  bound := h.bound
  holder j := by
    by_cases hji : j = i
    · subst hji
      simp [CameraThreads.goto, hholds]
    · have hnot := h.holder j
      rw [hlock] at hnot
      simp [CameraThreads.goto, Function.update_of_ne hji, hnot, Ne.symm hji]
  progress j hj := by
    obtain rfl := Option.some.inj hj
    simpa [CameraThreads.goto] using hsection
  sound := h.sound

/-- A thread returns. -/
theorem Locked.leave (h : s.Locked) (hal : CameraHal) (hset : s.hal.gVendorModule = true → hal.gVendorModule = true)
    (hfree : (s.pc i).holds = false → SameHeap s.hal hal) : ({ s with hal }.leave i).Locked where
  pointer j hj := by
    by_cases hji : j = i
    · subst hji
      simp [CameraThreads.leave, CameraThreads.goto, CameraPc.found] at hj
    · exact hset (h.pointer j (by simpa [CameraThreads.leave, CameraThreads.goto, Function.update_of_ne hji] using hj))
  bound hb := hset (h.bound hb)
  holder j := by
    by_cases hji : j = i
    · subst hji
      simp only [CameraThreads.leave, CameraThreads.goto, Function.update_self, CameraPc.holds]
      split_ifs with hl <;> simp [hl]
    · simp only [CameraThreads.leave, CameraThreads.goto, Function.update_of_ne hji, h.holder j]
      split_ifs with hl
      · simp [hl, Ne.symm hji]
      · rfl
  progress j hj := by
    simp only [CameraThreads.leave, CameraThreads.goto] at hj ⊢
    split_ifs at hj with hl
    have hji : j ≠ i := by
      rintro rfl
      exact hl hj
    have hnot : (s.pc i).holds = false := by
      by_contra hi
      exact hl ((h.holder i).1 (by simpa using hi))
    rw [Function.update_of_ne hji]
    exact (h.progress j hj).congr (hfree hnot)
  sound := h.sound

/-- A call that found the module has returned. -/
theorem Locked.returned (h : s.Locked) (hset : s.hal.gVendorModule = true) (received : List (WrapperCall × Option Int)) :
    ({ s with received, found := true } : CameraThreads).Locked :=
  { h with bound := fun _ => hset }

/-! ## What the threads are one at a time -/

theorem Locked.lock_of_holds (h : s.Locked) (hholds : (s.pc i).holds = true) : s.lock = some i := (h.holder i).1 hholds

/-- What the holder of the lock has done, by the statement it is at. -/
theorem Locked.section_of (h : s.Locked) (hpc : s.pc i = pc) (hholds : pc.holds = true) : Section s.before s.hal pc :=
  hpc ▸ h.progress i (h.lock_of_holds (hpc ▸ hholds))

theorem Locked.not_holds_of_free (h : s.Locked) (hlock : s.lock = none) (i : ℕ) : (s.pc i).holds = false := by
  by_contra hi
  have := h.lock_of_holds (i := i) (by simpa using hi)
  rw [hlock] at this
  cases this

/-- A thread that goes on changes nothing. -/
theorem Locked.atATime_goto (h : s.Locked) (hfree : (s.pc i).holds = false → SameHeap s.hal hal) (pc : CameraPc) :
    ({ s with hal }.goto i pc).atATime = s.atATime := by
  unfold atATime
  by_cases hlock : s.lock = none
  · obtain ⟨hheap, hdevice⟩ := hfree (h.not_holds_of_free hlock i)
    simp [CameraThreads.goto, hlock, hheap, hdevice]
  · simp [CameraThreads.goto, hlock]

/-- Nor does one that takes the lock. -/
theorem atATime_acquire (hlock : s.lock = none) (pc : CameraPc) :
    ({ s with lock := some i, before := s.hal }.goto i pc).atATime = s.atATime := by
  simp [atATime, CameraThreads.goto, hlock]

/-- Nor does one that returns without having held it. -/
theorem Locked.atATime_leave_free (h : s.Locked) (hholds : (s.pc i).holds = false) (hsame : SameHeap s.hal hal) :
    ({ s with hal }.leave i).atATime = s.atATime := by
  have hlock : s.lock ≠ some i := by
    intro hl
    rw [(h.holder i).2 hl] at hholds
    cases hholds
  obtain ⟨hheap, hdevice⟩ := hsame
  simp [atATime, CameraThreads.leave, CameraThreads.goto, hlock, hheap, hdevice]

/-- The holder of the lock has what it found. -/
theorem Locked.atATime_held (h : s.Locked) (hholds : (s.pc i).holds = true) :
    s.atATime = ⟨⟨s.found, s.before.heap, s.before.device⟩, s.received⟩ := by
  simp [atATime, h.lock_of_holds hholds]

/-- When it returns, what it has done is there at once. -/
theorem Locked.atATime_leave_held (h : s.Locked) (hholds : (s.pc i).holds = true) (found : Bool) (held : Finset ℕ) :
    ({ { s with hal }.leave i with found, held } : CameraThreads).atATime =
      ⟨⟨found, hal.heap, hal.device⟩, s.received⟩ := by
  simp [atATime, CameraThreads.leave, CameraThreads.goto, h.lock_of_holds hholds]

end CameraThreads

open CameraThreads

/-! ## One step -/

/-- A look-up fails only while none has succeeded. -/
def FailsUnbound (t : Lts.Transition CameraThreads CameraThreadLabel) : Prop :=
  match t.label with
  | .lookUp _ code _ => code ≠ 0 → t.src.hal.gVendorModule = false
  | _ => True

/-- The call that a step with this label returns from, with what it has met and what it returns. -/
def CameraThreads.returned (s : CameraThreads) : CameraThreadLabel → Option SequentialCall
  | .enter _ _ => none
  | .thread i =>
    match s.pc i with
    | .openName none => some (.openDevice ⟨0, 0, true, 0, true⟩ none ⟨0, none⟩)
    | .openCompare name numCameras =>
      if atoi name > numCameras then some (.openDevice ⟨0, numCameras, true, 0, true⟩ (some name) ⟨-EINVAL, some none⟩)
      else none
    | .closeVendor none => some (.closeDevice none (-EINVAL))
    | .closeFree block _ => some (.closeDevice (some block) 0)
    | _ => none
  | .lookUp i code _ =>
    match s.pc i with
    | .lookingUp (.call call) => if code = 0 then none else some (.call call ⟨code, 0⟩ (call.returns 0))
    | .lookingUp (.openDevice name) =>
      if code = 0 then none else some (.openDevice ⟨code, 0, true, 0, true⟩ (some name) ⟨-EINVAL, none⟩)
    | _ => none
  | .vendor i rc =>
    match s.pc i with
    | .calling call => some (.call call ⟨0, rc⟩ (call.returns rc))
    | .openVendor name numCameras _ =>
      if rc = 0 then none else some (.openDevice ⟨0, numCameras, true, rc, true⟩ (some name) ⟨rc, some none⟩)
    | _ => none
  | .malloc i ok =>
    match s.pc i with
    | .openMalloc name numCameras =>
      if ok then none else some (.openDevice ⟨0, numCameras, false, 0, true⟩ (some name) ⟨-ENOMEM, some none⟩)
    | .openOps name numCameras cameraDevice _ =>
      some (.openDevice ⟨0, numCameras, true, 0, ok⟩ (some name)
        (if ok then ⟨0, some (some cameraDevice)⟩ else ⟨-ENOMEM, some none⟩))
    | _ => none

/-- The invariant after a step, and what the step is one at a time. -/
def Atomic (t : Lts.Transition CameraThreads CameraThreadLabel) : Prop :=
  t.dst.Locked ∧ Lts.Matches sequentialWrapper CameraThreads.atATime (fun t => t.src.returned t.label) t

/-- The pointer is set where a thread goes through it. -/
theorem through_of_set {s next : CameraThreads} (hset : s.hal.gVendorModule = true) : s.through next = next := if_pos hset

theorem sameHeap_refl (hal : CameraHal) : SameHeap hal hal := ⟨rfl, rfl⟩

section Step

variable {s s' : CameraThreads} {i : ℕ} {label : CameraThreadLabel} {pc : CameraPc}

/-- A thread goes on. -/
theorem atomic_goto (h : s.Locked) (hal : CameraHal) (hnone : s.returned label = none)
    (hset : s.hal.gVendorModule = true → hal.gVendorModule = true) (hfound : pc.found = true → hal.gVendorModule = true)
    (hholds : pc.holds = (s.pc i).holds) (hsection : (s.pc i).holds = true → Section s.before hal pc)
    (hfree : (s.pc i).holds = false → SameHeap s.hal hal) : Atomic ⟨s, label, { s with hal }.goto i pc⟩ := by
  refine ⟨h.goto hset hfound hholds hsection hfree, ?_⟩
  unfold Lts.Matches
  simp only [hnone]
  exact h.atATime_goto hfree pc

/-- A thread goes on in `check_vendor_module`, or behind it if the module is found. -/
theorem atomic_check {call : CheckingCall} (h : s.Locked) (hal : CameraHal)
    (hpc : s.pc i = .testing call ∨ s.pc i = .lookingUp call) (hnone : s.returned label = none)
    (hset : s.hal.gVendorModule = true → hal.gVendorModule = true)
    (hnext : pc = call.next ∧ hal.gVendorModule = true ∨ pc = .lookingUp call) (hsame : SameHeap s.hal hal) :
    Atomic ⟨s, label, { s with hal }.goto i pc⟩ := by
  refine atomic_goto h hal hnone hset (fun hfound => ?_) ?_ (fun hi => ?_) fun _ => hsame
  · rcases hnext with ⟨-, hfinds⟩ | rfl
    · exact hfinds
    · cases hfound
  · rcases hpc with hpc | hpc <;> rcases hnext with ⟨rfl, -⟩ | rfl <;> rw [hpc] <;> cases call <;> rfl
  · have hheld : SameHeap s.before s.hal := by
      rcases hpc with hpc | hpc
      all_goals
        rw [hpc] at hi
        have hsection := h.section_of hpc hi
        exact hsection
    have hkept : SameHeap s.before hal := ⟨hsame.1.trans hheld.1, hsame.2.trans hheld.2⟩
    rcases hnext with ⟨rfl, -⟩ | rfl
    · cases call <;> exact hkept
    · exact hkept

/-- A thread takes the lock. -/
theorem atomic_acquire (h : s.Locked) (hnone : s.returned label = none) (hlock : s.lock = none) (hholds : pc.holds = true)
    (hfound : pc.found = false) (hsection : Section s.hal s.hal pc) :
    Atomic ⟨s, label, { s with lock := some i, before := s.hal }.goto i pc⟩ := by
  refine ⟨h.acquire hlock hholds hfound hsection, ?_⟩
  unfold Lts.Matches
  simp only [hnone]
  exact atATime_acquire hlock pc

/-- The holder of the lock returns: with what it has done, the call is one on what it found. -/
theorem atomic_leave {call : SequentialCall} (h : s.Locked) (hal : CameraHal) (found : Bool) (held : Finset ℕ)
    (hreturned : s.returned label = some call) (hholds : (s.pc i).holds = true)
    (hset : s.hal.gVendorModule = true → hal.gVendorModule = true) (hfound : found = true → hal.gVendorModule = true)
    (hcall : sequentialWrapper.step ⟨⟨s.found, s.before.heap, s.before.device⟩, s.received⟩ call =
      some ⟨⟨found, hal.heap, hal.device⟩, s.received⟩) :
    Atomic ⟨s, label, { { s with hal }.leave i with found, held }⟩ := by
  have hleave : ({ s with hal }.leave i).Locked := h.leave hal hset (by simp [hholds])
  refine ⟨⟨hleave.pointer, hfound, hleave.holder, hleave.progress, hleave.sound⟩, ?_⟩
  unfold Lts.Matches
  simp only [hreturned]
  rw [h.atATime_held hholds, hcall, h.atATime_leave_held hholds found held]

/-- A thread enters a function. -/
theorem atomic_enter {entry : WrapperEntry} (h : s.Locked) (hstep : s.stepEnter i entry = some s') :
    Atomic ⟨s, .enter i entry, s'⟩ := by
  have hgoto : ∀ pc : CameraPc, s.pc i = .idle → pc.holds = false → pc.found = false →
      Atomic ⟨s, .enter i entry, s.goto i pc⟩ := by
    intro pc hidle hholds hfound
    have hnot : (s.pc i).holds = false := by rw [hidle]; rfl
    exact atomic_goto h s.hal rfl id (by simp [hfound]) (hholds.trans hnot.symm) (by simp [hnot])
      fun _ => sameHeap_refl s.hal
  unfold CameraThreads.stepEnter at hstep
  split at hstep
  case h_4 block hidle =>
    split_ifs at hstep
    obtain rfl := Option.some.inj hstep
    obtain ⟨hheld, hmatch⟩ := hgoto (.closeLock (some block)) hidle rfl rfl
    exact ⟨⟨hheld.pointer, hheld.bound, hheld.holder, hheld.progress, hheld.sound⟩, hmatch⟩
  case h_5 => cases hstep
  all_goals
    rename_i hidle
    obtain rfl := Option.some.inj hstep
    exact hgoto _ hidle rfl rfl

/-- `hw_get_module_by_class` returns. -/
theorem atomic_lookUp {code : Int} {clears : Bool} (h : s.Locked) (hfails : code ≠ 0 → s.hal.gVendorModule = false)
    (hstep : s.stepLookUp i code clears = some s') : Atomic ⟨s, .lookUp i code clears, s'⟩ := by
  unfold CameraThreads.stepLookUp at hstep
  split at hstep
  case h_2 => cases hstep
  case h_1 call hpc =>
    by_cases hcode : code = 0
    · rw [if_pos hcode] at hstep
      obtain rfl := Option.some.inj hstep
      have hnone : s.returned (.lookUp i code clears) = none := by
        cases call <;> simp [CameraThreads.returned, hpc, hcode]
      exact atomic_check h _ (Or.inr hpc) hnone (fun _ => rfl) (Or.inl ⟨rfl, rfl⟩) ⟨rfl, rfl⟩
    · rw [if_neg hcode] at hstep
      have hunset := hfails hcode
      have hsame : { s.hal with gVendorModule := if clears then false else s.hal.gVendorModule } = s.hal := by
        rcases hhal : s.hal with ⟨gVendorModule, heap, device⟩
        rw [hhal] at hunset
        cases clears <;> simp_all
      rw [hsame] at hstep
      obtain rfl := Option.some.inj hstep
      have hfound : s.found = false := by
        by_contra hb
        rw [h.bound (by simpa using hb)] at hunset
        cases hunset
      cases call with
      | call call =>
        have hreturned : s.returned (.lookUp i code clears) = some (.call call ⟨code, 0⟩ (call.returns 0)) := by
          simp [CameraThreads.returned, hpc, hcode]
        have hnot : (s.pc i).holds = false := by rw [hpc]; rfl
        have hcall : callWrapper call ⟨code, 0⟩ s.atATime = (call.returns 0, s.atATime) :=
          callWrapper_of_not_found hfound hcode
        refine ⟨h.leave s.hal id fun _ => sameHeap_refl s.hal, ?_⟩
        unfold Lts.Matches
        simp only [hreturned, sequentialWrapper, hcall, if_true]
        exact congrArg some (h.atATime_leave_free hnot (sameHeap_refl s.hal)).symm
      | openDevice name =>
        have hreturned : s.returned (.lookUp i code clears) =
            some (.openDevice ⟨code, 0, true, 0, true⟩ (some name) ⟨-EINVAL, none⟩) := by
          simp [CameraThreads.returned, hpc, hcode]
        obtain ⟨hheap, hdevice⟩ := h.section_of hpc rfl
        refine atomic_leave h s.hal s.found s.held hreturned (by rw [hpc]; rfl) id h.bound ?_
        have hopen : cameraDeviceOpen ⟨code, 0, true, 0, true⟩ (some name) ⟨s.found, s.before.heap, s.before.device⟩ = _ :=
          cameraDeviceOpen_of_not_found hfound hcode
        simp [sequentialWrapper, hopen, hheap, hdevice]

/-- A thread executes a statement that asks nothing. -/
theorem atomic_thread (h : s.Locked) (hstep : s.stepThread i = some s') : Atomic ⟨s, .thread i, s'⟩ := by
  unfold CameraThreads.stepThread at hstep
  cases hpc : s.pc i with
  | testing call =>
    simp only [hpc, Option.some.injEq] at hstep
    subst hstep
    have hnone : s.returned (.thread i) = none := by simp [CameraThreads.returned, hpc]
    split
    case isTrue hset => exact atomic_check h s.hal (Or.inl hpc) hnone id (Or.inl ⟨rfl, hset⟩) (sameHeap_refl s.hal)
    case isFalse => exact atomic_check h s.hal (Or.inl hpc) hnone id (Or.inr rfl) (sameHeap_refl s.hal)
  | openLock name | closeLock device =>
    simp only [hpc] at hstep
    split_ifs at hstep with hlock
    obtain rfl := Option.some.inj hstep
    exact atomic_acquire h (by simp [CameraThreads.returned, hpc]) hlock rfl rfl ⟨rfl, rfl⟩
  | openName name =>
    obtain ⟨hheap, hdevice⟩ := h.section_of hpc rfl
    cases name with
    | none =>
      simp only [hpc, Option.some.injEq] at hstep
      subst hstep
      refine atomic_leave h s.hal s.found s.held (by simp [CameraThreads.returned, hpc]; rfl)
        (by rw [hpc]; rfl) id h.bound ?_
      simp [sequentialWrapper, cameraDeviceOpen, cameraDeviceOpenTraced, hheap, hdevice]
    | some name =>
      simp only [hpc, Option.some.injEq] at hstep
      subst hstep
      exact atomic_goto h s.hal (by simp [CameraThreads.returned, hpc]) id (by simp [CameraPc.found])
        (by rw [hpc]; rfl) (fun _ => ⟨hheap, hdevice⟩) fun _ => sameHeap_refl s.hal
  | openCompare name numCameras =>
    obtain ⟨hheap, hdevice⟩ := h.section_of hpc rfl
    have hset := h.pointer i (by rw [hpc]; rfl)
    simp only [hpc] at hstep
    split_ifs at hstep with habove
    · obtain rfl := Option.some.inj hstep
      refine atomic_leave h s.hal true s.held (by simp [CameraThreads.returned, hpc, habove]; rfl)
        (by rw [hpc]; rfl) id (fun _ => hset) ?_
      simp [sequentialWrapper, cameraDeviceOpen_of_found, openCamera, openCameraTraced, habove, hheap, hdevice]
    · obtain rfl := Option.some.inj hstep
      exact atomic_goto h s.hal (by simp [CameraThreads.returned, hpc, habove]) id (fun _ => hset)
        (by rw [hpc]; rfl) (fun _ => ⟨not_lt.1 habove, hheap, hdevice⟩) fun _ => sameHeap_refl s.hal
  | closeVendor device =>
    cases device with
    | none =>
      obtain ⟨hheap, hdevice⟩ := h.section_of hpc rfl
      simp only [hpc, Option.some.injEq] at hstep
      subst hstep
      refine atomic_leave h s.hal s.found s.held (by simp [CameraThreads.returned, hpc]; rfl)
        (by rw [hpc]; rfl) id h.bound ?_
      simp [sequentialWrapper, cameraDeviceClose, hheap, hdevice]
    | some block =>
      rw [hpc] at hstep
      cases hstep
  | closeFree block dev =>
    obtain ⟨hblock, hheap, hdevice⟩ := h.section_of hpc rfl
    simp only [hpc, Option.some.injEq] at hstep
    subst hstep
    refine atomic_leave h _ s.found s.held (by simp [CameraThreads.returned, hpc]; rfl) (by rw [hpc]; rfl) id h.bound ?_
    simp [sequentialWrapper, cameraDeviceClose, hblock, hheap, hdevice]
  | _ =>
    rw [hpc] at hstep
    cases hstep

/-- A function of the vendor returns. -/
theorem atomic_vendor {rc : Int} (h : s.Locked) (hstep : s.stepVendor i rc = some s') : Atomic ⟨s, .vendor i rc, s'⟩ := by
  unfold CameraThreads.stepVendor at hstep
  cases hpc : s.pc i with
  | calling call =>
    have hset := h.pointer i (by rw [hpc]; rfl)
    have hnot : (s.pc i).holds = false := by rw [hpc]; rfl
    have hreturned : s.returned (.vendor i rc) = some (.call call ⟨0, rc⟩ (call.returns rc)) := by
      simp [CameraThreads.returned, hpc]
    simp only [hpc, through_of_set hset, Option.some.injEq] at hstep
    subst hstep
    have hleave : (s.leave i).Locked := h.leave s.hal id fun _ => sameHeap_refl s.hal
    have hat : (s.leave i).atATime = s.atATime := h.atATime_leave_free hnot (sameHeap_refl s.hal)
    have hcall : callWrapper call ⟨0, rc⟩ s.atATime = _ := callWrapper_of_found (Or.inr rfl)
    refine ⟨hleave.returned hset _, ?_⟩
    unfold Lts.Matches
    simp only [hreturned, sequentialWrapper, hcall, if_true]
    rw [← hat]
    rfl
  | openCount name =>
    have hset := h.pointer i (by rw [hpc]; rfl)
    obtain ⟨hheap, hdevice⟩ := h.section_of hpc rfl
    simp only [hpc, through_of_set hset, Option.some.injEq] at hstep
    subst hstep
    exact atomic_goto h s.hal (by simp [CameraThreads.returned, hpc]) id (fun _ => hset) (by rw [hpc]; rfl)
      (fun _ => ⟨hheap, hdevice⟩) fun _ => sameHeap_refl s.hal
  | openVendor name numCameras cameraDevice =>
    have hset := h.pointer i (by rw [hpc]; rfl)
    obtain ⟨habove, rfl, hheap, hdevice⟩ := h.section_of hpc rfl
    simp only [hpc, through_of_set hset, Option.some.injEq] at hstep
    subst hstep
    split_ifs with hrc
    · refine atomic_leave h _ true s.held (by simp [CameraThreads.returned, hpc, hrc]; rfl) (by rw [hpc]; rfl) id
        (fun _ => hset) ?_
      simp [sequentialWrapper, cameraDeviceOpen_of_found, openCamera, openCameraTraced, not_lt.2 habove, hrc, hheap, hdevice]
    · have hrc : rc = 0 := not_not.1 hrc
      exact atomic_goto h _ (by simp [CameraThreads.returned, hpc, hrc]) id (fun _ => hset) (by rw [hpc]; rfl)
        (fun _ => ⟨habove, rfl, by rw [hheap], by rw [hheap], hdevice⟩) (by simp [hpc, CameraPc.holds])
  | closeVendor device =>
    cases device with
    | none =>
      rw [hpc] at hstep
      cases hstep
    | some block =>
      obtain ⟨hheap, hdevice⟩ := h.section_of hpc rfl
      simp only [hpc] at hstep
      obtain ⟨dev, hdev, rfl⟩ := Option.map_eq_some_iff.1 hstep
      exact atomic_goto h _ (by simp [CameraThreads.returned, hpc]) id (by simp [CameraPc.found]) (by rw [hpc]; rfl)
        (fun _ => ⟨by rw [← hdevice, hdev], by rw [hheap], hdevice⟩) (by simp [hpc, CameraPc.holds])
  | _ =>
    rw [hpc] at hstep
    cases hstep

/-- `malloc` returns. -/
theorem atomic_malloc {ok : Bool} (h : s.Locked) (hstep : s.stepMalloc i ok = some s') : Atomic ⟨s, .malloc i ok, s'⟩ := by
  unfold CameraThreads.stepMalloc at hstep
  cases hpc : s.pc i with
  | openMalloc name numCameras =>
    have hset := h.pointer i (by rw [hpc]; rfl)
    obtain ⟨habove, hheap, hdevice⟩ := h.section_of hpc rfl
    simp only [hpc] at hstep
    cases ok with
    | false =>
      rw [if_pos rfl] at hstep
      obtain rfl := Option.some.inj hstep
      refine atomic_leave h s.hal true s.held (by simp [CameraThreads.returned, hpc]; rfl) (by rw [hpc]; rfl) id
        (fun _ => hset) ?_
      simp [sequentialWrapper, cameraDeviceOpen_of_found, openCamera, openCameraTraced, not_lt.2 habove, hheap, hdevice]
    | true =>
      rw [if_neg (by simp)] at hstep
      obtain rfl := Option.some.inj hstep
      exact atomic_goto h _ (by simp [CameraThreads.returned, hpc]) id (fun _ => hset) (by rw [hpc]; rfl)
        (fun _ => ⟨habove, by rw [hheap], by rw [hheap], hdevice⟩) (by simp [hpc, CameraPc.holds])
  | openOps name numCameras cameraDevice vendor =>
    have hset := h.pointer i (by rw [hpc]; rfl)
    obtain ⟨habove, rfl, rfl, hheap, hdevice⟩ := h.section_of hpc rfl
    simp only [hpc] at hstep
    cases ok with
    | false =>
      rw [if_pos rfl] at hstep
      obtain rfl := Option.some.inj hstep
      refine atomic_leave h _ true s.held (by simp [CameraThreads.returned, hpc]; rfl) (by rw [hpc]; rfl) id
        (fun _ => hset) ?_
      simp [sequentialWrapper, cameraDeviceOpen_of_found, openCamera, openCameraTraced, not_lt.2 habove, hheap, hdevice]
    | true =>
      rw [if_neg (by simp)] at hstep
      obtain rfl := Option.some.inj hstep
      refine atomic_leave h _ true (insert s.before.heap.next s.held) (by simp [CameraThreads.returned, hpc]; rfl)
        (by rw [hpc]; rfl) id (fun _ => hset) ?_
      simp [sequentialWrapper, cameraDeviceOpen_of_found, openCamera, openCameraTraced, not_lt.2 habove, hheap, hdevice]
  | _ =>
    rw [hpc] at hstep
    cases hstep

end Step

theorem locked_of_init {s : CameraThreads} (hs : cameraThreads.init s) : s.Locked := by
  obtain ⟨-, -, -, hlock, hidle, -, -, hfound, hcrashed⟩ := hs
  refine ⟨fun i hi => ?_, by simp [hfound], fun i => ?_, by simp [hlock], hcrashed⟩
  · rw [hidle i] at hi
    cases hi
  · simp [hidle i, hlock, CameraPc.holds]

/-- Every step in which no look-up fails late. -/
theorem atomic_step (t : Lts.Transition CameraThreads CameraThreadLabel) (ht : cameraThreads.Steps t) (hf : FailsUnbound t)
    (h : t.src.Locked) : Atomic t := by
  rcases t with ⟨s, label, s'⟩
  cases label with
  | enter i entry => exact atomic_enter h ht
  | thread i => exact atomic_thread h ht
  | lookUp i code clears => exact atomic_lookUp h hf ht
  | vendor i rc => exact atomic_vendor h ht
  | malloc i ok => exact atomic_malloc h ht

/-- If no look-up fails after another has succeeded, then in any interleaving of the threads the calls return what they return
one at a time, in the order in which they return, the wrapper and the vendor's module are left as they would be then, no two
threads hold the lock, and no thread goes through a pointer that is `NULL`. -/
theorem wrapper_threads_refine (s : CameraThreads) (hs : cameraThreads.init s) (es : List CameraThreadLabel)
    (hC : cameraThreads.Always s es FailsUnbound) (u : CameraThreads) (hrun : cameraThreads.run s es = some u) :
    sequentialWrapper.run ⟨s.hal, []⟩ ((cameraThreads.trace s es).filterMap fun t => t.src.returned t.label) =
        some u.atATime ∧
      (∀ i j, (u.pc i).holds = true → (u.pc j).holds = true → i = j) ∧ u.crashed = false := by
  have h0 := locked_of_init hs
  obtain ⟨-, -, hset, hlock, -, hreceived, -, hfound, -⟩ := hs
  have hend : u.Locked := Lts.Always.at_end (fun t ht hf h => (atomic_step t ht hf h).1) es h0 hC hrun
  have hrefines := Lts.run_refines atomic_step es h0 hC hrun
  have hstart : s.atATime = ⟨s.hal, []⟩ := by
    rcases hhal : s.hal with ⟨gVendorModule, heap, device⟩
    rw [hhal] at hset
    simp [atATime, hlock, hhal, hreceived, hfound, ← hset]
  rw [hstart] at hrefines
  refine ⟨hrefines, fun i j hi hj => ?_, hend.sound⟩
  exact Option.some.inj ((hend.lock_of_holds hi).symm.trans (hend.lock_of_holds hj))

/-- The wrapper as it is loaded. -/
def CameraThreads.loaded : CameraThreads :=
  ⟨⟨false, .empty, fun _ => none⟩, none, fun _ => .idle, [], ∅, ⟨false, .empty, fun _ => none⟩, false, false⟩

/-- A look-up with this label succeeds. -/
def CameraThreadLabel.finds : CameraThreadLabel → Bool
  | .lookUp _ code _ => code = 0
  | _ => true

theorem loaded_init : cameraThreads.init .loaded := ⟨rfl, rfl, rfl, rfl, fun _ => rfl, rfl, rfl, rfl, rfl⟩

theorem failsUnbound_of_finds {s : CameraThreads} {es : List CameraThreadLabel} (h : ∀ e ∈ es, e.finds = true) :
    cameraThreads.Always s es FailsUnbound := by
  refine (Lts.Always.of_labels (P := fun e : CameraThreadLabel => e.finds = true) h).mono ?_
  rintro ⟨s, label, s'⟩ hfinds
  cases label with
  | lookUp i code clears => exact fun hcode => absurd (of_decide_eq_true hfinds) hcode
  | _ => trivial

/-- Camera 0 is opened while a second thread asks for the number of cameras, after both have looked the module up, and a third
one waits for the lock with no device to close. -/
def overlappingCalls : List CameraThreadLabel :=
  [.enter 0 (.openDevice (some [48])), .thread 0, .thread 0, .thread 0, .enter 1 (.call .getNumberOfCameras), .thread 1,
    .lookUp 0 0 false, .lookUp 1 0 false, .vendor 0 2, .thread 0, .malloc 0 true, .enter 2 (.closeDevice none), .vendor 1 2,
    .vendor 0 0, .malloc 0 true, .thread 2, .thread 2]

/-- One at a time, the call without a lock comes first. -/
theorem wrapper_threads_refine_overlap :
    ((cameraThreads.trace .loaded overlappingCalls).filterMap fun t => t.src.returned t.label) =
        [.call .getNumberOfCameras ⟨0, 2⟩ (some 2), .openDevice ⟨0, 2, true, 0, true⟩ (some [48]) ⟨0, some (some 0)⟩,
          .closeDevice none (-22)] ∧
      ∃ u, cameraThreads.run .loaded overlappingCalls = some u ∧
        sequentialWrapper.run ⟨CameraThreads.loaded.hal, []⟩
          ((cameraThreads.trace .loaded overlappingCalls).filterMap fun t => t.src.returned t.label) = some u.atATime := by
  have hrun : (cameraThreads.run .loaded overlappingCalls).isSome = true := by decide +kernel
  obtain ⟨u, hu⟩ := Option.isSome_iff_exists.1 hrun
  have hC : cameraThreads.Always .loaded overlappingCalls FailsUnbound := failsUnbound_of_finds (by decide +kernel)
  exact ⟨by decide +kernel, u, hu, (wrapper_threads_refine .loaded loaded_init _ hC u hu).1⟩

/-- The hypothesis is needed: a look-up that fails late and clears the pointer leaves `NULL` to a thread that had found the
module. -/
example :
    (cameraThreads.run .loaded
      [.enter 0 (.call .getNumberOfCameras), .thread 0, .enter 1 (.call .getNumberOfCameras), .thread 1, .lookUp 0 0 false,
        .lookUp 1 (-2) true, .vendor 0 2]).map CameraThreads.crashed = some true := by
  decide +kernel

end Universal7880
