import Universal7880.Lemmas.DisplayStep

/-!
# The default display mode survives restarts

The default lives twice, in memory and in the default file. `InStep` says that they agree: what the constructor would read
from the file is what the running service reports. `default_survives` draws from it what a client sees in every run of
starts and calls in which the default file accepts the writes of those that could open it.
-/

namespace Universal7880

/-- The default file can be read whenever it exists, and a stream that has opened it can write it. Any open may fail. -/
def Reliable : DisplayLabel → Prop
  | .construct env => env.readDefault = true
  | .setDisplayMode env _ _ => env.defaultFile.writes = true

instance : DecidablePred Reliable := fun label =>
  match label with
  | .construct _ => inferInstanceAs (Decidable (_ = _))
  | .setDisplayMode _ _ _ => inferInstanceAs (Decidable (_ = _))

/-- The default in memory is the one the file stands for, and so is the last one that was set. -/
structure InStep (s : DisplayUse) : Prop where
  memory : s.running = true → s.service.mDefaultModeId = storedDefault s.service.defaultFile.contents
  last : ∀ id, s.lastDefault = some id → storedDefault s.service.defaultFile.contents = id

/-- What a client sees of the default. A restart does not change it; it is the last default that was set with success, if
one was; and it is a mode, as is the current mode, whatever the mode node holds. -/
structure KeepsDefault (t : Lts.Transition DisplayUse DisplayLabel) : Prop where
  restart : ∀ env, t.label = .construct env → t.src.running = true →
    getDefaultDisplayMode t.dst.service = getDefaultDisplayMode t.src.service
  last : ∀ id, t.dst.lastDefault = some id → ∃ name, getDefaultDisplayMode t.dst.service = .ok (id, name)
  default : ∃ mode, getDefaultDisplayMode t.dst.service = .ok mode
  current : ∀ modeNode, ∃ mode, getCurrentDisplayMode { t.dst.service with modeNode } = .ok mode

/-- The current mode is a mode if the default is one. -/
theorem getCurrentDisplayMode_of_isMode {s : DisplayModes} (h : IsMode s.mDefaultModeId) :
    ∃ mode, getCurrentDisplayMode s = .ok mode := by
  have hcurrent : IsMode (if (readInt s.modeNode.contents).fail then s.mDefaultModeId
      else matchMode ((readInt s.modeNode.contents).value 0) s.mDefaultModeId) := by
    rw [matchMode_eq]
    split_ifs with hfail hmode
    · exact h
    · exact hmode
    · exact h
  obtain ⟨name, hname⟩ := kModeMapAt_of_isMode hcurrent
  simp only [getCurrentDisplayMode, hname]
  exact ⟨_, rfl⟩

/-- One step keeps the two in step. After it the service runs. -/
theorem inStep_step {t : Lts.Transition DisplayUse DisplayLabel} (ht : displaySystem.Steps t) (hr : Reliable t.label)
    (h : InStep t.src) : InStep t.dst ∧ t.dst.running = true := by
  obtain ⟨s, label, s'⟩ := t
  simp only at hr h
  cases label with
  | construct env =>
    obtain rfl := eq_of_steps_construct ht
    have hseen : env.seen s.service.defaultFile = s.service.defaultFile.contents := if_pos hr
    refine ⟨⟨?_, ?_⟩, rfl⟩
    · intro _
      simp only [constructDisplayModes_eq, hseen]
    · intro id hid
      simp only [constructDisplayModes_eq]
      exact h.last id hid
  | setDisplayMode env id makeDefault =>
    obtain ⟨hrun, returned, service, -, hset, rfl⟩ := cases_of_steps_setDisplayMode ht
    refine ⟨?_, hrun⟩
    cases hset with
    | unknown hmode => exact ⟨h.memory, h.last⟩
    | modeNotOpened hmode hopen => exact ⟨h.memory, h.last⟩
    | applied hmode hopen hmake => exact ⟨h.memory, by simpa [hmake] using h.last⟩
    | defaultNotOpened hmode hopen hmake hdefault => exact ⟨h.memory, h.last⟩
    | madeDefault hmode hopen hmake hdefault =>
      -- the file holds the text of the new default, which is read back as that default
      have hstored : storedDefault (s.service.defaultFile.afterPut env.defaultFile (stdToString id)).contents = id := by
        rw [(File.contents_afterPut hdefault (stdToString_ne_nil id)).2 hr, storedDefault_mode hmode]
      refine ⟨fun _ => hstored.symm, ?_⟩
      intro last hlast
      obtain rfl : id = last := by simpa [hmake] using hlast
      exact hstored

/-- The default display mode survives restarts: in every run of starts and `setDisplayMode` calls, from any contents of the
default file and the mode node, whatever opens fail, as long as the default file can be read when it exists and accepts
the writes of those that have opened it. -/
theorem default_survives (s : DisplayUse) (hs : displaySystem.init s) (es : List DisplayLabel) (hr : ∀ e ∈ es, Reliable e) :
    displaySystem.Always s es KeepsDefault := by
  have h0 : InStep s := by
    obtain ⟨hrun, hlast⟩ := hs
    constructor
    case memory =>
      intro h
      rw [hrun] at h
      cases h
    case last =>
      intro id h
      rw [hlast] at h
      cases h
  have hrun := Lts.Always.of_guarded (J := InStep) (C := fun t => Reliable t.label)
    (fun t ht hr h => (inStep_step ht hr h).1) es h0 (Lts.Always.of_labels hr)
  refine (hrun.and (Lts.Always.of_labels hr)).mono ?_
  intro t h
  obtain ⟨⟨ht, hsrc, hdst⟩, hreliable⟩ := h
  have hmemory := hdst.memory (inStep_step ht hreliable hsrc).2
  have hmode : IsMode t.dst.service.mDefaultModeId := hmemory ▸ isMode_storedDefault _
  constructor
  case restart =>
    intro env henv hrunning
    obtain ⟨s, label, s'⟩ := t
    obtain rfl : label = .construct env := henv
    obtain rfl := eq_of_steps_construct ht
    have hsame : s.service.mDefaultModeId = storedDefault s.service.defaultFile.contents := hsrc.memory hrunning
    have hseen : env.seen s.service.defaultFile = s.service.defaultFile.contents := if_pos hreliable
    simp only [getDefaultDisplayMode, constructDisplayModes_eq, hseen, hsame]
  case last =>
    intro id hid
    obtain ⟨name, hname⟩ := getDefaultDisplayMode_of_isMode hmode
    rw [hmemory, hdst.last id hid] at hname
    exact ⟨name, hname⟩
  case default =>
    obtain ⟨name, hname⟩ := getDefaultDisplayMode_of_isMode hmode
    exact ⟨_, hname⟩
  case current =>
    intro modeNode
    exact getCurrentDisplayMode_of_isMode hmode

/-- The default file holds garbage at first; the mode 4 is made the default, 2 fails to be, and the service starts again. -/
theorem default_survives_restart :
    displaySystem.Always (.stopped none (some [97])) [.construct ⟨true, .sample⟩, .setDisplayMode .sample 4 true,
      .setDisplayMode { SetEnv.sample with defaultFile := ⟨false, true⟩ } 2 true, .construct ⟨true, .sample⟩] KeepsDefault :=
  default_survives _ ⟨rfl, rfl⟩ _ (by decide)

end Universal7880
