import Universal7880.Theorems.CameraThreads
import Universal7880.Work

/-!
# Every call of the camera wrapper returns

`wrapper_calls_return`: under the condition of `wrapper_threads_refine`, no thread takes more than nine steps in a function, and
none is stuck there. A thread in a function can go on, whatever it is answered, unless it waits for `gCameraWrapperLock`, and
then the thread that holds the lock can. It rests on what the framework owes the wrapper, and the wrapper the framework: a device
that was returned stays a device until it is closed.
-/

namespace Universal7880

namespace CameraPc

/-- The steps that a thread has left in its function, at most. -/
@[simp] def work : CameraPc → ℕ
  | .idle => 0
  | .openOps .. | .calling _ | .closeFree .. => 1
  | .openVendor .. | .lookingUp (.call _) | .closeVendor _ => 2
  | .openMalloc .. | .testing (.call _) | .closeLock _ => 3
  | .openCompare .. => 4
  | .openCount _ => 5
  | .lookingUp (.openDevice _) => 6
  | .testing (.openDevice _) => 7
  | .openName _ => 8
  | .openLock _ => 9

/-- The thread is about to take the lock. -/
def waits : CameraPc → Bool
  | .openLock _ | .closeLock _ => true
  | _ => false

/-- The block that the thread has allocated for a device and not filled. -/
@[simp] def pending : CameraPc → Option ℕ
  | .openVendor _ _ cameraDevice => some cameraDevice
  | .openOps _ _ cameraDevice _ => some cameraDevice
  | _ => none

/-- The device that the thread closes. -/
@[simp] def closing : CameraPc → Option ℕ
  | .closeLock device | .closeVendor device => device
  | .closeFree block _ => some block
  | _ => none

theorem holds_of_pending {pc : CameraPc} {block : ℕ} (h : pc.pending = some block) : pc.holds = true := by
  cases pc <;> simp_all [pending, holds]

end CameraPc

/-- A thread calls a function. -/
def CameraThreadLabel.enters : CameraThreadLabel → Bool
  | .enter .. => true
  | _ => false

/-- The thread that moves. -/
@[simp] def CameraThreadLabel.who : CameraThreadLabel → ℕ
  | .enter i _ | .thread i | .lookUp i _ _ | .vendor i _ | .malloc i _ => i

namespace CameraThreads

variable {s s' : CameraThreads} {i : ℕ} {pc : CameraPc}

/-- The thread can go on, whatever it is answered. -/
def GoesOn (s : CameraThreads) (i : ℕ) : Prop :=
  (s.stepThread i).isSome ∨ (∀ code clears, (s.stepLookUp i code clears).isSome) ∨ (∀ rc, (s.stepVendor i rc).isSome) ∨
    ∀ ok, (s.stepMalloc i ok).isSome

/-- What the given threads have left to do. -/
def work (threads : Finset ℕ) (s : CameraThreads) : ℕ := ∑ i ∈ threads, (s.pc i).work

/-! ## Devices -/

/-- The devices that were returned, or are closed, are there, each of them closed by one thread; the blocks that are not filled
yet are not among them. -/
structure Closable (s : CameraThreads) : Prop where
  fresh : ∀ block, s.hal.device block ≠ none → block < s.hal.heap.next
  pending : ∀ i block, (s.pc i).pending = some block → block < s.hal.heap.next ∧ s.hal.device block = none
  held : ∀ block ∈ s.held, s.hal.device block ≠ none
  closing : ∀ i block, (s.pc i).closing = some block → s.hal.device block ≠ none ∧ block ∉ s.held
  once : ∀ i j block, (s.pc i).closing = some block → (s.pc j).closing = some block → i = j

/-- A thread goes on, and leaves the devices as they are. -/
theorem Closable.move (h : s.Closable) (hpc : s'.pc = Function.update s.pc i pc) (hdevice : s'.hal.device = s.hal.device)
    (hheld : s'.held = s.held) (hnext : s.hal.heap.next ≤ s'.hal.heap.next)
    (hpending : ∀ block, pc.pending = some block → block < s'.hal.heap.next ∧ s.hal.device block = none)
    (hclosing : ∀ block, pc.closing = some block → (s.pc i).closing = some block) : s'.Closable := by
  have hclosing' : ∀ j block, (s'.pc j).closing = some block → (s.pc j).closing = some block := by
    intro j block hj
    by_cases hji : j = i
    · subst hji
      exact hclosing block (by simpa [hpc] using hj)
    · simpa [hpc, Function.update_of_ne hji] using hj
  constructor
  · intro block hblock
    exact (h.fresh block (hdevice ▸ hblock)).trans_le hnext
  · intro j block hj
    rw [hdevice]
    by_cases hji : j = i
    · subst hji
      exact hpending block (by simpa [hpc] using hj)
    · obtain ⟨hlt, hnone⟩ := h.pending j block (by simpa [hpc, Function.update_of_ne hji] using hj)
      exact ⟨hlt.trans_le hnext, hnone⟩
  · rw [hdevice, hheld]
    exact h.held
  · intro j block hj
    rw [hdevice, hheld]
    exact h.closing j block (hclosing' j block hj)
  · intro j k block hj hk
    exact h.once j k block (hclosing' j block hj) (hclosing' k block hk)

/-! ## Steps -/

/-- What a step brings: nine more, and itself, when it is a call. -/
def credit (e : CameraThreadLabel) : ℕ := if e.enters then 10 else 0

/-- The devices are kept, and the thread that moves has less left to do. -/
def Progresses (t : Lts.Transition CameraThreads CameraThreadLabel) : Prop :=
  t.dst.Closable ∧ ∃ pc, t.dst.pc = Function.update t.src.pc t.label.who pc ∧
    pc.work + 1 ≤ (t.src.pc t.label.who).work + credit t.label

section Step

variable {e : CameraThreadLabel}

/-- A thread that goes on and leaves the devices as they are. -/
theorem progresses_move (h : s.Closable) (hpc : s'.pc = Function.update s.pc e.who pc)
    (hdevice : s'.hal.device = s.hal.device) (hheld : s'.held = s.held) (hnext : s.hal.heap.next ≤ s'.hal.heap.next)
    (hpending : ∀ block, pc.pending = some block → block < s'.hal.heap.next ∧ s.hal.device block = none)
    (hclosing : ∀ block, pc.closing = some block → (s.pc e.who).closing = some block)
    (hless : pc.work + 1 ≤ (s.pc e.who).work + credit e) : Progresses ⟨s, e, s'⟩ :=
  ⟨h.move hpc hdevice hheld hnext hpending hclosing, pc, hpc, hless⟩

/-- A thread that returns and leaves the devices as they are. -/
theorem progresses_leave (h : s.Closable) (hpc : s'.pc = Function.update s.pc e.who .idle)
    (hdevice : s'.hal.device = s.hal.device) (hheld : s'.held = s.held) (hnext : s'.hal.heap.next = s.hal.heap.next)
    (hless : 1 ≤ (s.pc e.who).work) : Progresses ⟨s, e, s'⟩ :=
  progresses_move h hpc hdevice hheld hnext.ge (by simp) (by simp)
    (hless.trans (Nat.le_add_right _ _))

/-- A thread begins to close a device that was returned. -/
theorem Closable.begin {block : ℕ} (h : s.Closable) (hblock : block ∈ s.held) :
    ({ s.goto i (.closeLock (some block)) with held := s.held.erase block } : CameraThreads).Closable := by
  have hother : ∀ j b, ((s.goto i (.closeLock (some block))).pc j).closing = some b →
      (j = i ∧ b = block) ∨ (s.pc j).closing = some b ∧ b ≠ block := by
    intro j b hj
    by_cases hji : j = i
    · subst hji
      simp only [goto, Function.update_self, CameraPc.closing, Option.some.injEq] at hj
      exact Or.inl ⟨rfl, hj.symm⟩
    · have hb : (s.pc j).closing = some b := by simpa [goto, Function.update_of_ne hji] using hj
      refine Or.inr ⟨hb, ?_⟩
      rintro rfl
      exact (h.closing j b hb).2 hblock
  constructor
  · exact h.fresh
  · intro j b hj
    by_cases hji : j = i
    · subst hji
      simp [goto] at hj
    · exact h.pending j b (by simpa [goto, Function.update_of_ne hji] using hj)
  · intro b hb
    exact h.held b (Finset.mem_of_mem_erase hb)
  · intro j b hj
    rcases hother j b hj with ⟨-, rfl⟩ | ⟨hb, -⟩
    · exact ⟨h.held b hblock, Finset.notMem_erase _ _⟩
    · exact ⟨(h.closing j b hb).1, fun hmem => (h.closing j b hb).2 (Finset.mem_of_mem_erase hmem)⟩
  · intro j k b hj hk
    rcases hother j b hj with ⟨rfl, rfl⟩ | ⟨hj, hne⟩
    · rcases hother k b hk with ⟨rfl, -⟩ | ⟨-, hne⟩
      · rfl
      · exact absurd rfl hne
    · rcases hother k b hk with ⟨-, rfl⟩ | ⟨hk, -⟩
      · exact absurd rfl hne
      · exact h.once j k b hj hk

/-- What a thread is about when another one has returned. -/
theorem of_returned (about : CameraPc → Option ℕ) (habout : about .idle = none) (hpc : s'.pc = Function.update s.pc i .idle)
    {j block : ℕ} (hj : about (s'.pc j) = some block) : j ≠ i ∧ about (s.pc j) = some block := by
  by_cases hji : j = i
  · subst hji
    simp [hpc, habout] at hj
  · exact ⟨hji, by simpa [hpc, Function.update_of_ne hji] using hj⟩

/-- A thread returns the device it has opened. -/
theorem Closable.opened {block : ℕ} {dev : WrapperCameraDevice} (h : s.Closable) (hlocked : s.Locked)
    (hpending : (s.pc i).pending = some block) (hpc : s'.pc = Function.update s.pc i .idle)
    (hdevice : s'.hal.device = Function.update s.hal.device block (some dev)) (hheld : s'.held = insert block s.held)
    (hnext : s.hal.heap.next ≤ s'.hal.heap.next) : s'.Closable := by
  obtain ⟨hlt, hnone⟩ := h.pending i block hpending
  have hkeeps : ∀ b, s.hal.device b ≠ none → s'.hal.device b ≠ none := by
    intro b hb
    by_cases hbb : b = block
    · simp [hdevice, hbb]
    · simpa [hdevice, Function.update_of_ne hbb] using hb
  constructor
  · intro b hb
    by_cases hbb : b = block
    · exact hbb ▸ hlt.trans_le hnext
    · exact (h.fresh b (by simpa [hdevice, Function.update_of_ne hbb] using hb)).trans_le hnext
  · -- both threads would hold the lock
    intro j b hj
    obtain ⟨hji, hb⟩ := of_returned CameraPc.pending rfl hpc hj
    have hlock := hlocked.lock_of_holds (CameraPc.holds_of_pending hpending)
    rw [hlocked.lock_of_holds (CameraPc.holds_of_pending hb)] at hlock
    exact absurd (Option.some.inj hlock) hji
  · intro b hb
    rw [hheld, Finset.mem_insert] at hb
    rcases hb with rfl | hb
    · simp [hdevice]
    · exact hkeeps b (h.held b hb)
  · intro j b hj
    obtain ⟨-, hb⟩ := of_returned CameraPc.closing rfl hpc hj
    obtain ⟨hsome, hnot⟩ := h.closing j b hb
    refine ⟨hkeeps b hsome, ?_⟩
    rw [hheld, Finset.mem_insert, not_or]
    exact ⟨fun he => hsome (he ▸ hnone), hnot⟩
  · intro j k b hj hk
    exact h.once j k b (of_returned CameraPc.closing rfl hpc hj).2
      (of_returned CameraPc.closing rfl hpc hk).2

/-- A thread has closed a device. -/
theorem Closable.closed {block : ℕ} (h : s.Closable) (hclosing : (s.pc i).closing = some block)
    (hpc : s'.pc = Function.update s.pc i .idle) (hdevice : s'.hal.device = Function.update s.hal.device block none)
    (hheld : s'.held = s.held) (hnext : s'.hal.heap.next = s.hal.heap.next) : s'.Closable := by
  have hnot := (h.closing i block hclosing).2
  constructor
  · intro b hb
    by_cases hbb : b = block
    · simp [hdevice, hbb] at hb
    · exact hnext ▸ h.fresh b (by simpa [hdevice, Function.update_of_ne hbb] using hb)
  · intro j b hj
    obtain ⟨hlt, hnone⟩ := h.pending j b (of_returned CameraPc.pending rfl hpc hj).2
    refine ⟨hnext ▸ hlt, ?_⟩
    by_cases hbb : b = block
    · simp [hdevice, hbb]
    · simpa [hdevice, Function.update_of_ne hbb] using hnone
  · intro b hb
    rw [hheld] at hb
    have hbb : b ≠ block := fun he => hnot (he ▸ hb)
    simpa [hdevice, Function.update_of_ne hbb] using h.held b hb
  · intro j b hj
    obtain ⟨hji, hb⟩ := of_returned CameraPc.closing rfl hpc hj
    have hbb : b ≠ block := fun he => hji (h.once j i block (he ▸ hb) hclosing)
    rw [hheld, hdevice, Function.update_of_ne hbb]
    exact h.closing j b hb
  · intro j k b hj hk
    exact h.once j k b (of_returned CameraPc.closing rfl hpc hj).2
      (of_returned CameraPc.closing rfl hpc hk).2

/-- A thread calls a function. -/
theorem progresses_enter {entry : WrapperEntry} (h : s.Closable) (hstep : s.stepEnter i entry = some s') :
    Progresses ⟨s, .enter i entry, s'⟩ := by
  unfold stepEnter at hstep
  split at hstep
  case h_1 hpc _ | h_2 hpc _ | h_3 hpc _ =>
    obtain rfl := Option.some.inj hstep
    refine progresses_move h rfl rfl rfl le_rfl (by simp) (by simp) ?_
    simp [credit, CameraThreadLabel.enters]
  case h_4 hpc _ =>
    split_ifs at hstep with hheld
    obtain rfl := Option.some.inj hstep
    exact ⟨h.begin hheld, _, rfl, by simp [credit, CameraThreadLabel.enters]⟩
  case h_5 => cases hstep

/-- `hw_get_module_by_class` returns. -/
theorem progresses_lookUp {code : Int} {clears : Bool} (h : s.Closable) (hstep : s.stepLookUp i code clears = some s') :
    Progresses ⟨s, .lookUp i code clears, s'⟩ := by
  unfold stepLookUp at hstep
  split at hstep
  case h_2 => cases hstep
  case h_1 call hpc =>
    by_cases hcode : code = 0
    · rw [if_pos hcode] at hstep
      obtain rfl := Option.some.inj hstep
      refine progresses_move h rfl rfl rfl le_rfl ?_ ?_ ?_
      all_goals cases call <;> simp [hpc, CheckingCall.next]
    · rw [if_neg hcode] at hstep
      obtain rfl := Option.some.inj hstep
      exact progresses_leave h rfl rfl rfl rfl (by cases call <;> simp [hpc])

/-- A thread executes a statement that asks nothing. -/
theorem progresses_thread (h : s.Closable) (hstep : s.stepThread i = some s') : Progresses ⟨s, .thread i, s'⟩ := by
  unfold stepThread at hstep
  cases hpc : s.pc i with
  | testing call =>
    simp only [hpc, Option.some.injEq] at hstep
    subst hstep
    refine progresses_move h rfl rfl rfl le_rfl ?_ ?_ ?_
    all_goals cases call <;> split_ifs <;>
      simp [hpc, CheckingCall.next]
    all_goals omega
  | openLock name | closeLock device =>
    simp only [hpc] at hstep
    split_ifs at hstep
    obtain rfl := Option.some.inj hstep
    refine progresses_move h rfl rfl rfl le_rfl ?_ ?_ ?_
    all_goals simp [hpc]
  | openName name =>
    cases name with
    | none =>
      simp only [hpc, Option.some.injEq] at hstep
      subst hstep
      exact progresses_leave h rfl rfl rfl rfl (by simp [hpc])
    | some name =>
      simp only [hpc, Option.some.injEq] at hstep
      subst hstep
      refine progresses_move h rfl rfl rfl le_rfl ?_ ?_ ?_
      all_goals simp [hpc]
  | openCompare name numCameras =>
    simp only [hpc] at hstep
    split_ifs at hstep
    · obtain rfl := Option.some.inj hstep
      exact progresses_leave h rfl rfl rfl rfl (by simp [hpc])
    · obtain rfl := Option.some.inj hstep
      refine progresses_move h rfl rfl rfl le_rfl ?_ ?_ ?_
      all_goals simp [hpc]
  | closeVendor device =>
    cases device with
    | none =>
      simp only [hpc, Option.some.injEq] at hstep
      subst hstep
      exact progresses_leave h rfl rfl rfl rfl (by simp [hpc])
    | some block =>
      rw [hpc] at hstep
      cases hstep
  | closeFree block dev =>
    simp only [hpc, Option.some.injEq] at hstep
    subst hstep
    have hclosing : (s.pc i).closing = some block := by simp [hpc]
    refine ⟨h.closed hclosing rfl rfl rfl rfl, .idle, rfl, ?_⟩
    simp [hpc]
  | _ =>
    rw [hpc] at hstep
    cases hstep

/-- A function of the vendor returns. -/
theorem progresses_vendor {rc : Int} (h : s.Closable) (hlocked : s.Locked) (hstep : s.stepVendor i rc = some s') :
    Progresses ⟨s, .vendor i rc, s'⟩ := by
  unfold stepVendor at hstep
  cases hpc : s.pc i with
  | calling call =>
    have hset := hlocked.pointer i (by rw [hpc]; rfl)
    simp only [hpc, through_of_set hset, Option.some.injEq] at hstep
    subst hstep
    exact progresses_leave h rfl rfl rfl rfl (by simp [hpc])
  | openCount name =>
    have hset := hlocked.pointer i (by rw [hpc]; rfl)
    simp only [hpc, through_of_set hset, Option.some.injEq] at hstep
    subst hstep
    refine progresses_move h rfl rfl rfl le_rfl ?_ ?_ ?_
    all_goals simp [hpc]
  | openVendor name numCameras cameraDevice =>
    have hset := hlocked.pointer i (by rw [hpc]; rfl)
    obtain ⟨hlt, hnone⟩ := h.pending i cameraDevice (by simp [hpc])
    simp only [hpc, through_of_set hset, Option.some.injEq] at hstep
    subst hstep
    split_ifs with hrc
    · exact progresses_leave h rfl rfl rfl rfl (by simp [hpc])
    · refine progresses_move h rfl rfl rfl (Nat.le_succ _) ?_ ?_ ?_
      · rintro block ⟨rfl⟩
        exact ⟨Nat.lt_succ_of_lt hlt, hnone⟩
      all_goals simp [hpc]
  | closeVendor device =>
    cases device with
    | none =>
      rw [hpc] at hstep
      cases hstep
    | some block =>
      simp only [hpc] at hstep
      obtain ⟨dev, -, rfl⟩ := Option.map_eq_some_iff.1 hstep
      refine progresses_move h rfl rfl rfl le_rfl ?_ ?_ ?_
      all_goals simp [hpc]
  | _ =>
    rw [hpc] at hstep
    cases hstep

/-- `malloc` returns. -/
theorem progresses_malloc {ok : Bool} (h : s.Closable) (hlocked : s.Locked) (hstep : s.stepMalloc i ok = some s') :
    Progresses ⟨s, .malloc i ok, s'⟩ := by
  unfold stepMalloc at hstep
  cases hpc : s.pc i with
  | openMalloc name numCameras =>
    simp only [hpc] at hstep
    cases ok with
    | false =>
      rw [if_pos rfl] at hstep
      obtain rfl := Option.some.inj hstep
      exact progresses_leave h rfl rfl rfl rfl (by simp [hpc])
    | true =>
      rw [if_neg (by simp)] at hstep
      obtain rfl := Option.some.inj hstep
      -- the block is new, so it is no device's
      have hnone : s.hal.device s.hal.heap.next = none := by
        by_contra hblock
        exact lt_irrefl _ (h.fresh _ hblock)
      refine progresses_move h rfl rfl rfl (Nat.le_succ _) ?_ ?_ ?_
      · rintro block ⟨rfl⟩
        exact ⟨Nat.lt_succ_self _, hnone⟩
      all_goals simp [hpc]
  | openOps name numCameras cameraDevice vendor =>
    have hpending : (s.pc i).pending = some cameraDevice := by simp [hpc]
    simp only [hpc] at hstep
    cases ok with
    | false =>
      rw [if_pos rfl] at hstep
      obtain rfl := Option.some.inj hstep
      exact progresses_leave h rfl rfl rfl rfl (by simp [hpc])
    | true =>
      rw [if_neg (by simp)] at hstep
      obtain rfl := Option.some.inj hstep
      refine ⟨h.opened hlocked hpending rfl rfl rfl (Nat.le_succ _), .idle, rfl, ?_⟩
      simp [hpc]
  | _ =>
    rw [hpc] at hstep
    cases hstep

end Step

/-- Every step. -/
theorem progresses_step {t : Lts.Transition CameraThreads CameraThreadLabel} (ht : cameraThreads.Steps t)
    (hlocked : t.src.Locked) (h : t.src.Closable) : Progresses t := by
  rcases t with ⟨s, label, s'⟩
  cases label with
  | enter i entry => exact progresses_enter h ht
  | thread i => exact progresses_thread h ht
  | lookUp i code clears => exact progresses_lookUp h ht
  | vendor i rc => exact progresses_vendor h hlocked ht
  | malloc i ok => exact progresses_malloc h hlocked ht

/-! ## Going on -/

/-- A thread in a function goes on, unless it is about to take the lock. -/
theorem Closable.goesOn (h : s.Closable) (hidle : s.pc i ≠ .idle) (hwaits : (s.pc i).waits = false) : s.GoesOn i := by
  cases hpc : s.pc i with
  | idle => exact absurd hpc hidle
  | openLock name | closeLock device => simp [hpc, CameraPc.waits] at hwaits
  | testing call => exact Or.inl (by simp [stepThread, hpc])
  | lookingUp call =>
    refine Or.inr (Or.inl fun code clears => ?_)
    by_cases hcode : code = 0 <;> simp [stepLookUp, hpc, hcode]
  | calling call | openCount name | openVendor name numCameras cameraDevice =>
    exact Or.inr (Or.inr (Or.inl fun rc => by simp [stepVendor, hpc]))
  | openName name => exact Or.inl (by cases name <;> simp [stepThread, hpc])
  | openCompare name numCameras =>
    refine Or.inl ?_
    by_cases habove : atoi name > numCameras <;> simp [stepThread, hpc, habove]
  | openMalloc name numCameras | openOps name numCameras cameraDevice vendor =>
    refine Or.inr (Or.inr (Or.inr fun ok => ?_))
    cases ok <;> simp [stepMalloc, hpc]
  | closeVendor device =>
    cases device with
    | none => exact Or.inl (by simp [stepThread, hpc])
    | some block =>
      obtain ⟨dev, hdev⟩ := Option.ne_none_iff_exists'.1 (h.closing i block (by simp [hpc])).1
      exact Or.inr (Or.inr (Or.inl fun rc => by simp [stepVendor, hpc, hdev]))
  | closeFree block dev => exact Or.inl (by simp [stepThread, hpc])

/-- A thread in a function goes on, or the thread that holds the lock does. -/
theorem Closable.goesOn_or_holder (h : s.Closable) (hlocked : s.Locked) (hidle : s.pc i ≠ .idle) :
    s.GoesOn i ∨ ∃ j, s.lock = some j ∧ s.GoesOn j := by
  cases hwaits : (s.pc i).waits with
  | false => exact Or.inl (h.goesOn hidle hwaits)
  | true =>
    cases hlock : s.lock with
    | none =>
      refine Or.inl (Or.inl ?_)
      cases hpc : s.pc i <;> simp_all [CameraPc.waits, stepThread]
    | some j =>
      have hholds : (s.pc j).holds = true := (hlocked.holder j).2 hlock
      refine Or.inr ⟨j, rfl, h.goesOn ?_ ?_⟩
      all_goals cases hpc : s.pc j <;> simp_all [CameraPc.holds, CameraPc.waits]

/-- Some step of a thread that goes on is one in which no look-up fails. -/
theorem GoesOn.exists_step (h : s.GoesOn i) :
    ∃ e u, cameraThreads.step s e = some u ∧ e.enters = false ∧ FailsUnbound ⟨s, e, u⟩ := by
  rcases h with h | h | h | h
  · obtain ⟨u, hu⟩ := Option.isSome_iff_exists.1 h
    exact ⟨.thread i, u, hu, rfl, trivial⟩
  · obtain ⟨u, hu⟩ := Option.isSome_iff_exists.1 (h 0 false)
    exact ⟨.lookUp i 0 false, u, hu, rfl, fun hcode => absurd rfl hcode⟩
  · obtain ⟨u, hu⟩ := Option.isSome_iff_exists.1 (h 0)
    exact ⟨.vendor i 0, u, hu, rfl, trivial⟩
  · obtain ⟨u, hu⟩ := Option.isSome_iff_exists.1 (h true)
    exact ⟨.malloc i true, u, hu, rfl, trivial⟩

/-! ## Runs -/

/-- The invariants of the threads, with those in a function among the given ones. -/
structure Runs (threads : Finset ℕ) (s : CameraThreads) : Prop where
  locked : s.Locked
  closable : s.Closable
  busy : ∀ i, s.pc i ≠ .idle → i ∈ threads

theorem runs_of_init (threads : Finset ℕ) (hs : cameraThreads.init s) : s.Runs threads ∧ s.work threads = 0 := by
  obtain ⟨-, hdevice, -, -, hidle, -, hheld, -, -⟩ := id hs
  refine ⟨⟨locked_of_init hs, ⟨?_, ?_, ?_, ?_, ?_⟩, ?_⟩, ?_⟩
  all_goals simp [hdevice, hidle, hheld, work]

/-- Every step in which no look-up fails late keeps the invariants, and leaves the threads less to do, up to its credit. -/
theorem Runs.step {threads : Finset ℕ} {t : Lts.Transition CameraThreads CameraThreadLabel} (h : t.src.Runs threads)
    (ht : cameraThreads.Steps t) (hf : FailsUnbound t) (hwho : t.label.who ∈ threads) :
    t.dst.Runs threads ∧ t.dst.work threads + 1 ≤ t.src.work threads + credit t.label := by
  obtain ⟨hclosable, pc, hpc, hless⟩ := progresses_step ht h.locked h.closable
  refine ⟨⟨(atomic_step t ht hf h.locked).1, hclosable, ?_⟩, ?_⟩
  · intro i hi
    by_cases hiw : i = t.label.who
    · exact hiw ▸ hwho
    · rw [hpc, Function.update_of_ne hiw] at hi
      exact h.busy i hi
  · simp only [work, hpc]
    exact Work.sum_update_add_one_le threads t.src.pc CameraPc.work hwho hless

/-- While a thread is in a function, a step can be taken that leaves less to do. -/
theorem Runs.progress {threads : Finset ℕ} (h : s.Runs threads) (hbusy : ¬ ∀ i, s.pc i = .idle) :
    ∃ e u, cameraThreads.step s e = some u ∧ (e.enters = false ∧ FailsUnbound ⟨s, e, u⟩) ∧ u.Runs threads ∧
      u.work threads < s.work threads := by
  obtain ⟨i, hi⟩ := not_forall.1 hbusy
  have hgoes : ∃ j, s.GoesOn j := by
    rcases h.closable.goesOn_or_holder h.locked hi with hgoes | ⟨j, -, hgoes⟩
    · exact ⟨i, hgoes⟩
    · exact ⟨j, hgoes⟩
  obtain ⟨j, hgoes⟩ := hgoes
  obtain ⟨e, u, hstep, henters, hf⟩ := hgoes.exists_step
  have hcredit : credit e = 0 := by simp [credit, henters]
  obtain ⟨-, pc, -, hless⟩ := progresses_step (t := ⟨s, e, u⟩) hstep h.locked h.closable
  -- a thread that takes a step, but for the call itself, is in a function
  have hwho : e.who ∈ threads := by
    refine h.busy _ fun hidle => ?_
    rw [hidle, hcredit] at hless
    exact Nat.not_succ_le_zero _ hless
  obtain ⟨hruns, hwork⟩ := h.step (t := ⟨s, e, u⟩) hstep hf hwho
  exact ⟨e, u, hstep, ⟨henters, hf⟩, hruns, by simpa [hcredit, Nat.add_one_le_iff] using hwork⟩

theorem sum_credit (es : List CameraThreadLabel) : (es.map credit).sum = 10 * es.countP CameraThreadLabel.enters := by
  induction es with
  | nil => rfl
  | cons e es ih =>
    rw [List.map_cons, List.sum_cons, ih, List.countP_cons, credit]
    split_ifs <;> omega

end CameraThreads

open CameraThreads

/-- If no look-up fails after another has succeeded, then no run of the threads is longer than ten steps for each call, a thread
in a function can go on, whatever it is answered, or the thread that holds the lock can, and the threads can all return, with no
further call; the lock is then free. -/
theorem wrapper_calls_return (s : CameraThreads) (hs : cameraThreads.init s) (es : List CameraThreadLabel)
    (hC : cameraThreads.Always s es FailsUnbound) (u : CameraThreads) (hrun : cameraThreads.run s es = some u) :
    es.length ≤ 10 * es.countP CameraThreadLabel.enters ∧
      (∀ i, u.pc i ≠ .idle → u.GoesOn i ∨ ∃ j, u.lock = some j ∧ u.GoesOn j) ∧
      ∃ es' v, cameraThreads.run u es' = some v ∧
        cameraThreads.Always u es' (fun t => t.label.enters = false ∧ FailsUnbound t) ∧ (∀ i, v.pc i = .idle) ∧
        v.lock = none := by
  let threads := (es.map CameraThreadLabel.who).toFinset
  have hwho : cameraThreads.Always s es (fun t => t.label.who ∈ threads) := by
    refine Lts.Always.of_labels (P := fun e : CameraThreadLabel => e.who ∈ threads) ?_
    intro e he
    exact List.mem_toFinset.2 (List.mem_map_of_mem he)
  obtain ⟨h0, hzero⟩ := runs_of_init threads hs
  have hend : u.Runs threads :=
    Lts.Always.at_end (fun t ht hc h => (h.step ht hc.1 hc.2).1) es h0 (hC.and hwho) hrun
  refine ⟨?_, fun i hi => hend.closable.goesOn_or_holder hend.locked hi, ?_⟩
  · have hlen : (cameraThreads.trace s es).length ≤
        s.work threads + ((cameraThreads.trace s es).map fun t => credit t.label).sum :=
      Lts.length_trace_le (fun t ht hc h => h.step ht hc.1 hc.2) es h0 (hC.and hwho)
    have hlabels := Lts.map_label_trace hrun
    have hsum : ((cameraThreads.trace s es).map fun t => credit t.label).sum = (es.map credit).sum := by
      conv_rhs => rw [← hlabels]
      rw [List.map_map]
      rfl
    have hlength : (cameraThreads.trace s es).length = es.length := by
      conv_rhs => rw [← hlabels]
      rw [List.length_map]
    rwa [hzero, Nat.zero_add, hsum, sum_credit, hlength] at hlen
  · obtain ⟨es', v, hv, hruns, (hidle : ∀ i, v.pc i = .idle), hall, -⟩ :=
      Lts.exists_run_to (P := fun t => t.label.enters = false ∧ FailsUnbound t) (fun s hs hg => hs.progress hg) hend
    refine ⟨es', v, hv, hall, hidle, ?_⟩
    cases hlock : v.lock with
    | none => rfl
    | some j =>
      have hholds := (hruns.locked.holder j).2 hlock
      rw [hidle j] at hholds
      cases hholds

/-- A thread waits to close while camera 0 is being opened: both return. -/
theorem wrapper_calls_return_waiting :
    ∃ u, cameraThreads.run .loaded (overlappingCalls.take 14) = some u ∧ u.pc 2 = .closeLock none ∧ u.lock = some 0 ∧
      14 ≤ 10 * (overlappingCalls.take 14).countP CameraThreadLabel.enters ∧
      ∃ es' v, cameraThreads.run u es' = some v ∧ ∀ i, v.pc i = .idle := by
  have hrun : (cameraThreads.run .loaded (overlappingCalls.take 14)).map (fun u => (u.pc 2, u.lock)) =
      some (.closeLock none, some 0) := by
    decide +kernel
  obtain ⟨u, hu, hat⟩ := Option.map_eq_some_iff.1 hrun
  obtain ⟨hpc, hlock⟩ := Prod.mk.inj hat
  have hC : cameraThreads.Always .loaded (overlappingCalls.take 14) FailsUnbound := failsUnbound_of_finds (by decide +kernel)
  obtain ⟨hlen, -, es', v, hv, -, hidle, -⟩ := wrapper_calls_return .loaded loaded_init _ hC u hu
  exact ⟨u, hu, hpc, hlock, hlen, es', v, hv, hidle⟩

end Universal7880
