import Universal7880.CameraModule
import Mathlib.Tactic.Common

/-!
# No success without the vendor

A function of the wrapper's module that returns zero should have had the vendor's function do its work.
`no_success_without_vendor` says in which runs of the module's functions it has, and what a run then owes to a `camera_init`
that returned zero.
-/

namespace Universal7880

/-- The vendor's module is set already, or the look-up of this call sets it. -/
def FindsModule (t : Lts.Transition CameraModule ModuleLabel) : Prop :=
  t.src.gVendorModule = true ∨ t.label.env.getModule = 0

instance : DecidablePred FindsModule := fun _ => inferInstanceAs (Decidable (_ ∨ _))

/-- A call that returns zero has called the vendor's function of the same name, and that has returned zero. -/
def VendorAnswered (t : Lts.Transition CameraModule ModuleLabel) : Prop :=
  (callModule t.label.call t.label.env t.src).1 = 0 → t.dst.received = t.src.received ++ [⟨t.label.call, 0⟩]

/-- Before any other function of the vendor, its `init` has been called and has returned zero. -/
def InitFirst (received : List VendorCall) : Prop :=
  ∀ before v after, received = before ++ v :: after → v.call ≠ .init → ⟨.init, 0⟩ ∈ before

/-- No success without the vendor, in a run: every call that returns zero was answered by the vendor, and after a
`camera_init` that returned zero and began the run, the vendor was initialised first. -/
structure NoSuccessWithoutVendor (s : CameraModule) (es : List ModuleLabel) : Prop where
  answered : moduleSystem.Always s es VendorAnswered
  initialised : ∀ env rest, es = ⟨.init, env⟩ :: rest → (cameraInit env s).1 = 0 →
    moduleSystem.Always s es fun t => InitFirst t.dst.received

/-- Each function of the module hands its own call on. -/
theorem callModule_eq (call : ModuleCall) : callModule call = forwardToVendor call := by
  cases call <;> rfl

theorem forwardToVendor_of_found {call : ModuleCall} {env : ModuleEnv} {s : CameraModule}
    (h : s.gVendorModule = true ∨ env.getModule = 0) :
    forwardToVendor call env s = (env.vendor, ⟨true, s.received ++ [⟨call, env.vendor⟩]⟩) := by
  have hcheck : checkVendorModule env.getModule s.gVendorModule = (0, true) := by
    unfold checkVendorModule
    rcases h with h | h
    · rw [if_pos h]
    · split_ifs <;> simp [h]
  simp [forwardToVendor, hcheck]

theorem forwardToVendor_of_not_found {call : ModuleCall} {env : ModuleEnv} {s : CameraModule}
    (h : ¬ (s.gVendorModule = true ∨ env.getModule = 0)) : forwardToVendor call env s = (0, ⟨false, s.received⟩) := by
  obtain ⟨hset, hcode⟩ := not_or.1 h
  simp [forwardToVendor, checkVendorModule, hset, hcode]

theorem dst_of_steps {t : Lts.Transition CameraModule ModuleLabel} (ht : moduleSystem.Steps t) :
    t.dst = (forwardToVendor t.label.call t.label.env t.src).2 := by
  rw [← callModule_eq]
  exact (Option.some.inj ht).symm

/-- A call is answered by the vendor, where it should be, exactly if it finds the vendor's module. -/
theorem vendorAnswered_iff {t : Lts.Transition CameraModule ModuleLabel} (ht : moduleSystem.Steps t) :
    VendorAnswered t ↔ FindsModule t := by
  unfold VendorAnswered
  rw [dst_of_steps ht, callModule_eq]
  by_cases hfound : FindsModule t
  · refine iff_of_true ?_ hfound
    rw [forwardToVendor_of_found hfound]
    intro hrc
    simp only at hrc
    rw [hrc]
  · refine iff_of_false ?_ hfound
    rw [forwardToVendor_of_not_found hfound]
    intro h
    simpa using h rfl

/-- The first call that the vendor's module has received was of its `init`, which returned zero. -/
def BeginsWithInit (s : CameraModule) : Prop := [⟨.init, 0⟩] <+: s.received

/-- It stays the first call, as the calls only get more. -/
theorem beginsWithInit_step {t : Lts.Transition CameraModule ModuleLabel} (ht : moduleSystem.Steps t)
    (h : BeginsWithInit t.src) : BeginsWithInit t.dst := by
  unfold BeginsWithInit
  rw [dst_of_steps ht]
  by_cases hfound : FindsModule t
  · rw [forwardToVendor_of_found hfound]
    exact h.trans (List.prefix_append _ _)
  · rw [forwardToVendor_of_not_found hfound]
    exact h

theorem BeginsWithInit.initFirst {s : CameraModule} (h : BeginsWithInit s) : InitFirst s.received := by
  intro before v after heq hcall
  obtain ⟨rest, hrest⟩ := h
  rw [← hrest] at heq
  cases before with
  | nil =>
    obtain ⟨rfl, -⟩ := List.cons.inj heq
    exact absurd rfl hcall
  | cons first before =>
    obtain ⟨rfl, -⟩ := List.cons.inj heq
    exact List.mem_cons_self

/-- No success without the vendor, in every run of the module's functions from the state in which the wrapper is loaded,
exactly if every call of the run finds the vendor's module. -/
theorem no_success_without_vendor (s : CameraModule) (hs : moduleSystem.init s) (es : List ModuleLabel) :
    NoSuccessWithoutVendor s es ↔ moduleSystem.Always s es FindsModule := by
  have hiff : moduleSystem.Always s es VendorAnswered ↔ moduleSystem.Always s es FindsModule :=
    Lts.always_iff (J := fun _ => True) (fun t ht _ => vendorAnswered_iff ht) (fun _ _ _ _ => trivial) es trivial
  refine ⟨fun h => hiff.1 h.answered, fun h => ⟨hiff.2 h, ?_⟩⟩
  intro env rest hes hrc
  subst hes
  have hanswered := hiff.2 h
  rw [Lts.always_cons_some rfl] at hanswered ⊢
  -- the first call was answered, so the vendor's calls begin with its `init` from here on
  have hfirst : BeginsWithInit (callModule .init env s).2 := by
    unfold BeginsWithInit
    rw [hanswered.1 hrc, show s = ⟨false, []⟩ from hs]
    exact List.prefix_append _ _
  refine ⟨hfirst.initFirst, ?_⟩
  exact (Lts.Always.of_step (fun t ht => beginsWithInit_step ht) rest hfirst).mono fun t ht => ht.2.2.initFirst

/-- The vendor's module is found by `camera_init`, and not looked up again. -/
theorem no_success_without_vendor_init :
    NoSuccessWithoutVendor ⟨false, []⟩
      [⟨.init, ⟨0, 0⟩⟩, ⟨.setCallbacks 1, ⟨-ENOENT, 0⟩⟩, ⟨.getCameraInfo 0 2, ⟨0, -EINVAL⟩⟩] :=
  (no_success_without_vendor _ rfl _).2 (by decide)

/-- `camera_init` returns zero when the vendor's module is not found; it is found later, and the vendor is not initialised. -/
theorem init_without_vendor : ¬ ∀ s, moduleSystem.init s → ∀ es, NoSuccessWithoutVendor s es := by
  intro h
  have hrun := h ⟨false, []⟩ rfl [⟨.init, ⟨-ENOENT, 0⟩⟩, ⟨.setCallbacks 1, ⟨0, 0⟩⟩]
  have hfirst := hrun.initialised ⟨-ENOENT, 0⟩ _ rfl rfl ⟨_, _, _⟩ (by
    rw [Lts.trace_cons_some rfl, Lts.trace_cons_some rfl]
    exact List.mem_cons_of_mem _ List.mem_cons_self)
  have hmem := hfirst [] ⟨.setCallbacks 1, 0⟩ [] rfl (by decide)
  cases hmem

end Universal7880
