import Universal7880.Lemmas.DisplayStep

/-!
# What the result of `setDisplayMode` tells

`setDisplayMode` tests its streams before they have written anything, and leaves through the destructors of both. So its
true says that the files could be opened, not that they hold the mode (`set_true_honest`), and its false, where it comes
from the second file, comes after the mode was applied (`set_false_unchanged`).
-/

namespace Universal7880

/-! ## True -/

/-- A call that returns true has had the text of the mode accepted by the mode node and, if it was to make it the default,
has left that text in the default file and the id in memory. -/
def TrueIsHonest (env : SetEnv) (id : Int) (makeDefault : Bool) (s : DisplayModes) : Prop :=
  (setDisplayMode env id makeDefault s).1 = true →
    (setDisplayMode env id makeDefault s).2.modeNode.accepted = s.modeNode.accepted ++ [stdToString id] ∧
    (makeDefault = true →
      (setDisplayMode env id makeDefault s).2.defaultFile.contents = some (stdToString id) ∧
      (setDisplayMode env id makeDefault s).2.mDefaultModeId = id)

/-- True is honest exactly if every file that the call opens on its way to true accepts the write that the destructor makes
after the result is chosen. -/
theorem set_true_honest (env : SetEnv) (id : Int) (makeDefault : Bool) (s : DisplayModes) :
    TrueIsHonest env id makeDefault s ↔
      (IsMode id → env.modeFile.opens = true → (makeDefault = true → env.defaultFile.opens = true) →
        env.modeFile.writes = true ∧ (makeDefault = true → env.defaultFile.writes = true)) := by
  have htext : stdToString id ≠ [] := stdToString_ne_nil id
  obtain ⟨returned, s', heq, hset⟩ := setDisplayMode_cases env id makeDefault s
  simp only [TrueIsHonest, heq]
  cases hset with
  | unknown hmode => simp [hmode]
  | modeNotOpened hmode hopen => simp [hopen]
  | applied hmode hopen hmake => simp [hmode, hopen, hmake, File.accepted_afterPut]
  | defaultNotOpened hmode hopen hmake hdefault => simp [hmake, hdefault]
  | madeDefault hmode hopen hmake hdefault =>
    simp [hmode, hopen, hmake, hdefault, File.accepted_afterPut, File.contents_afterPut hdefault htext]

/-- No space is left for the default file: it can be opened, and the write that the destructor makes fails. -/
def SetEnv.fullDisk : SetEnv := ⟨⟨true, true⟩, ⟨true, false⟩⟩

/-- The service with the mode 0, which is the default too. -/
def DisplayModes.sample : DisplayModes := ⟨0, ⟨some (stdToString 0), []⟩, ⟨some (stdToString 0), []⟩⟩

/-- With no space left, the mode 4 is made the default with true, and the default file is empty. -/
theorem true_not_honest : ¬ ∀ env id makeDefault s, TrueIsHonest env id makeDefault s := by
  intro h
  have hfull := (h .fullDisk 4 true .sample (by decide +kernel)).2 rfl
  exact absurd hfull.1 (by decide +kernel)

/-! ## False -/

/-- A call that returns false leaves the mode node, the default file and the default in memory as they were, and so what the
service reports. -/
def FalseIsUnchanged (env : SetEnv) (id : Int) (makeDefault : Bool) (s : DisplayModes) : Prop :=
  (setDisplayMode env id makeDefault s).1 = false →
    (setDisplayMode env id makeDefault s).2.modeNode.contents = s.modeNode.contents ∧
    (setDisplayMode env id makeDefault s).2.defaultFile.contents = s.defaultFile.contents ∧
    (setDisplayMode env id makeDefault s).2.mDefaultModeId = s.mDefaultModeId ∧
    getCurrentDisplayMode (setDisplayMode env id makeDefault s).2 = getCurrentDisplayMode s ∧
    getDefaultDisplayMode (setDisplayMode env id makeDefault s).2 = getDefaultDisplayMode s

/-- The mode node is written on the way to a default file that cannot be opened, and it held something else. -/
def AppliedThenRefused (env : SetEnv) (id : Int) (makeDefault : Bool) (s : DisplayModes) : Prop :=
  IsMode id ∧ env.modeFile.opens = true ∧ makeDefault = true ∧ env.defaultFile.opens = false ∧
    s.modeNode.contents ≠ some (stdToString id)

/-- When writes succeed, false leaves everything unchanged exactly unless the mode was applied before the default file could
not be opened. -/
theorem set_false_unchanged (env : SetEnv) (hw : env.modeFile.writes = true) (id : Int) (makeDefault : Bool)
    (s : DisplayModes) : FalseIsUnchanged env id makeDefault s ↔ ¬ AppliedThenRefused env id makeDefault s := by
  obtain ⟨returned, s', heq, hset⟩ := setDisplayMode_cases env id makeDefault s
  simp only [FalseIsUnchanged, heq, AppliedThenRefused]
  cases hset with
  | unknown hmode => simp [hmode]
  | modeNotOpened hmode hopen => simp [hopen]
  | applied hmode hopen hmake => simp [hmake]
  | madeDefault hmode hopen hmake hdefault => simp [hdefault]
  | defaultNotOpened hmode hopen hmake hdefault =>
    have hcontents : (s.modeNode.afterPut env.modeFile (stdToString id)).contents = some (stdToString id) :=
      (File.contents_afterPut hopen (stdToString_ne_nil id)).2 hw
    by_cases hsame : s.modeNode.contents = some (stdToString id)
    · simp [getCurrentDisplayMode, getDefaultDisplayMode, hcontents, hsame]
    · simp [hcontents, hmode, hopen, hmake, hdefault, hsame, eq_comm (a := some (stdToString id))]

/-- A default file that cannot be opened, and nothing else that fails. -/
def SetEnv.defaultRefused : SetEnv := ⟨⟨true, true⟩, ⟨false, true⟩⟩

/-- The mode that is set already stays as it is when the default file cannot be opened. -/
theorem set_false_unchanged_same : FalseIsUnchanged .defaultRefused 0 true .sample :=
  (set_false_unchanged .defaultRefused rfl 0 true .sample).2 (fun h => h.2.2.2.2 rfl)

/-- The mode 4 is refused as the default, and is the current mode all the same. -/
theorem refused_mode_applied : ¬ ∀ env : SetEnv, env.modeFile.writes = true → env.defaultFile.writes = true →
    ∀ id makeDefault s, FalseIsUnchanged env id makeDefault s := by
  intro h
  have hkept := (h .defaultRefused rfl rfl 4 true .sample (by decide +kernel)).1
  exact absurd hkept (by decide +kernel)

end Universal7880
