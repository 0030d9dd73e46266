import Universal7880.DisplayModes

/-!
# What the display service does in one step

`SetDisplayMode` lists the ends of `setDisplayMode`, and `setDisplayMode_cases` says that the list is complete; the three
`construct` lemmas say what the constructor leaves, in terms of the id it takes from the default file (`storedDefault`).
-/

namespace Universal7880

/-! ## The keys of `kModeMap` -/

/-- The id is a key of `kModeMap`. -/
def IsMode (id : Int) : Prop := id ∈ kModeMap.map Prod.fst

instance (id : Int) : Decidable (IsMode id) := inferInstanceAs (Decidable (_ ∈ _))

theorem isMode_iff (id : Int) : IsMode id ↔ 0 ≤ id ∧ id ≤ 5 := by
  simp only [IsMode, kModeMap, List.map_cons, List.map_nil, List.mem_cons, List.not_mem_nil, or_false]
  omega

theorem isMode_of_mem {entry : Int × String} (h : entry ∈ kModeMap) : IsMode entry.1 := List.mem_map_of_mem h

/-- A search by key finds an entry with that key, exactly if it is one. -/
theorem find?_mode (id : Int) :
    (IsMode id ∧ ∃ name, kModeMap.find? (fun entry => entry.1 = id) = some (id, name)) ∨
      (¬ IsMode id ∧ kModeMap.find? (fun entry => entry.1 = id) = none) := by
  cases hfind : kModeMap.find? (fun entry => entry.1 = id) with
  | none =>
    refine Or.inr ⟨?_, rfl⟩
    intro hmode
    obtain ⟨entry, hmem, hkey⟩ := List.mem_map.1 hmode
    exact List.find?_eq_none.1 hfind entry hmem (by simpa using hkey)
  | some entry =>
    obtain rfl : entry.1 = id := by simpa using List.find?_some hfind
    exact Or.inl ⟨isMode_of_mem (List.mem_of_find?_eq_some hfind), entry.2, rfl⟩

/-- The loop over the keys chooses the value if it is a key. -/
theorem matchMode_eq (value before : Int) : matchMode value before = if IsMode value then value else before := by
  unfold matchMode
  simp only [eq_comm (a := value)]
  rcases find?_mode value with ⟨hmode, name, hfind⟩ | ⟨hmode, hfind⟩
  · rw [hfind, if_pos hmode]
  · rw [hfind, if_neg hmode]

/-- `kModeMap.at` throws for no key. -/
theorem kModeMapAt_of_isMode {id : Int} (h : IsMode id) : ∃ name, kModeMapAt id = .ok name := by
  unfold kModeMapAt
  rcases find?_mode id with ⟨-, name, hfind⟩ | ⟨hmode, -⟩
  · exact ⟨name, by rw [hfind]⟩
  · exact absurd h hmode

/-- The default that is a mode is reported with its name. -/
theorem getDefaultDisplayMode_of_isMode {s : DisplayModes} (h : IsMode s.mDefaultModeId) :
    ∃ name, getDefaultDisplayMode s = .ok (s.mDefaultModeId, name) := by
  obtain ⟨name, hname⟩ := kModeMapAt_of_isMode h
  exact ⟨name, by simp [getDefaultDisplayMode, hname, Except.map]⟩

/-- The text of a mode is read back. -/
theorem readInt_mode {id : Int} (h : IsMode id) : readInt (some (stdToString id)) = ⟨false, some id⟩ := by
  have hrange := (isMode_iff id).1 h
  refine extractInt_of_fits (begins_stdToString id) ⟨?_, ?_⟩
  · unfold INT_MIN
    omega
  · unfold INT_MAX
    omega

/-! ## `setDisplayMode` -/

/-- The ends of `setDisplayMode`: what it returns and what becomes of the service and its files. -/
inductive SetDisplayMode (env : SetEnv) (id : Int) (makeDefault : Bool) (s : DisplayModes) : Bool → DisplayModes → Prop where
  | unknown : ¬ IsMode id → SetDisplayMode env id makeDefault s false s
  | modeNotOpened : IsMode id → env.modeFile.opens = false → SetDisplayMode env id makeDefault s false s
  | applied : IsMode id → env.modeFile.opens = true → makeDefault = false → SetDisplayMode env id makeDefault s true
      { s with modeNode := s.modeNode.afterPut env.modeFile (stdToString id) }
  | defaultNotOpened : IsMode id → env.modeFile.opens = true → makeDefault = true → env.defaultFile.opens = false →
      SetDisplayMode env id makeDefault s false { s with modeNode := s.modeNode.afterPut env.modeFile (stdToString id) }
  | madeDefault : IsMode id → env.modeFile.opens = true → makeDefault = true → env.defaultFile.opens = true →
      SetDisplayMode env id makeDefault s true
        { mDefaultModeId := id
          modeNode := s.modeNode.afterPut env.modeFile (stdToString id)
          defaultFile := s.defaultFile.afterPut env.defaultFile (stdToString id) }

/-- The list is complete. -/
theorem setDisplayMode_cases (env : SetEnv) (id : Int) (makeDefault : Bool) (s : DisplayModes) :
    ∃ returned s', setDisplayMode env id makeDefault s = (returned, s') ∧
      SetDisplayMode env id makeDefault s returned s' := by
  refine ⟨(setDisplayMode env id makeDefault s).1, (setDisplayMode env id makeDefault s).2, rfl, ?_⟩
  have htext : stdToString id ≠ [] := stdToString_ne_nil id
  unfold setDisplayMode
  rcases find?_mode id with ⟨hmode, name, hfind⟩ | ⟨hmode, hfind⟩
  case inr =>
    rw [hfind]
    exact .unknown hmode
  simp only [hfind, Ofstream.fail_put, Ofstream.destroy_put _ _ htext]
  cases hopen : env.modeFile.opens with
  | false =>
    simp only [Bool.not_false, if_true, File.afterPut_of_not_opens hopen]
    exact .modeNotOpened hmode hopen
  | true =>
    simp only [Bool.not_true, Bool.false_eq_true, if_false]
    cases hmake : makeDefault with
    | false => exact .applied hmode hopen rfl
    | true =>
      cases hdefault : env.defaultFile.opens with
      | false =>
        simp only [Bool.not_false, if_true, File.afterPut_of_not_opens hdefault]
        exact .defaultNotOpened hmode hopen rfl hdefault
      | true => exact .madeDefault hmode hopen rfl hdefault

/-- When `setDisplayMode` returns true: the id is a mode, and the files it writes could be opened. -/
theorem setDisplayMode_eq_true_iff {env : SetEnv} {id : Int} {makeDefault : Bool} {s : DisplayModes} :
    (setDisplayMode env id makeDefault s).1 = true ↔
      IsMode id ∧ env.modeFile.opens = true ∧ (makeDefault = true → env.defaultFile.opens = true) := by
  obtain ⟨returned, s', heq, h⟩ := setDisplayMode_cases env id makeDefault s
  rw [heq]
  cases h with
  | unknown hmode => simp [hmode]
  | modeNotOpened hmode hopen => simp [hopen]
  | applied hmode hopen hmake => simp [hmode, hopen, hmake]
  | defaultNotOpened hmode hopen hmake hdefault => simp [hmake, hdefault]
  | madeDefault hmode hopen hmake hdefault => simp [hmode, hopen, hdefault]

/-! ## The constructor -/

/-- The default that the constructor takes from the default file, by its contents: an id that is no key, or no number at
all, leaves it at zero. -/
def storedDefault (contents : Option CString) : Int :=
  if (readInt contents).fail then 0 else matchMode ((readInt contents).value 0) 0

theorem isMode_storedDefault (contents : Option CString) : IsMode (storedDefault contents) := by
  unfold storedDefault
  rw [matchMode_eq]
  split_ifs with hfail hmode
  · decide
  · exact hmode
  · decide

/-- The text of a mode stands for that mode. -/
theorem storedDefault_mode {id : Int} (h : IsMode id) : storedDefault (some (stdToString id)) = id := by
  simp [storedDefault, readInt_mode h, Extraction.value, matchMode_eq, h]

/-- The contents of the default file as the constructor sees them. -/
def ConstructEnv.seen (env : ConstructEnv) (defaultFile : File) : Option CString :=
  if env.readDefault then defaultFile.contents else none

/-- What the constructor leaves: the default it has read, the default file as it was, and the mode node with that default
written to it, unless nothing was read. -/
theorem constructDisplayModes_eq (env : ConstructEnv) (modeNode defaultFile : File) :
    constructDisplayModes env modeNode defaultFile =
      { mDefaultModeId := storedDefault (env.seen defaultFile)
        modeNode :=
          if (readInt (env.seen defaultFile)).fail then modeNode
          else modeNode.afterPut env.set.modeFile (stdToString (storedDefault (env.seen defaultFile)))
        defaultFile } := by
  unfold constructDisplayModes
  change (if (readInt (env.seen defaultFile)).fail then _ else _) = _
  cases hfail : (readInt (env.seen defaultFile)).fail with
  | true => simp [storedDefault, hfail]
  | false =>
    have hstored : matchMode ((readInt (env.seen defaultFile)).value 0) 0 = storedDefault (env.seen defaultFile) := by
      simp [storedDefault, hfail]
    simp only [Bool.false_eq_true, if_false]
    change (setDisplayMode env.set (matchMode ((readInt (env.seen defaultFile)).value 0) 0) false
      ⟨matchMode ((readInt (env.seen defaultFile)).value 0) 0, modeNode, defaultFile⟩).2 = _
    rw [hstored]
    obtain ⟨returned, s', heq, h⟩ := setDisplayMode_cases env.set (storedDefault (env.seen defaultFile)) false
      ⟨storedDefault (env.seen defaultFile), modeNode, defaultFile⟩
    rw [heq]
    cases h with
    | unknown hmode => exact absurd (isMode_storedDefault _) hmode
    | modeNotOpened hmode hopen => rw [File.afterPut_of_not_opens hopen]
    | applied hmode hopen hmake => rfl
    | defaultNotOpened hmode hopen hmake hdefault => cases hmake
    | madeDefault hmode hopen hmake hdefault => cases hmake

/-! ## The system -/

/-- A start leaves what the constructor leaves. -/
theorem eq_of_steps_construct {s s' : DisplayUse} {env : ConstructEnv}
    (h : displaySystem.Steps ⟨s, .construct env, s'⟩) :
    s' = { s with
      service := constructDisplayModes env s.service.modeNode s.service.defaultFile
      running := true } :=
  (Option.some.inj h).symm

/-- A call of `setDisplayMode` is made on a running service, and has one of its ends. -/
theorem cases_of_steps_setDisplayMode {s s' : DisplayUse} {env : SetEnv} {id : Int} {makeDefault : Bool}
    (h : displaySystem.Steps ⟨s, .setDisplayMode env id makeDefault, s'⟩) :
    s.running = true ∧ ∃ returned service, setDisplayMode env id makeDefault s.service = (returned, service) ∧
      SetDisplayMode env id makeDefault s.service returned service ∧
      s' = { s with service, lastDefault := if returned && makeDefault then some id else s.lastDefault } := by
  simp only [Lts.Steps, displaySystem] at h
  split at h
  case isFalse => cases h
  case isTrue hrun =>
    obtain ⟨returned, service, heq, hset⟩ := setDisplayMode_cases env id makeDefault s.service
    rw [heq] at h
    exact ⟨hrun, returned, service, heq, hset, (Option.some.inj h).symm⟩

/-- The service before its first start. -/
def DisplayUse.stopped (modeNode defaultFile : Option CString) : DisplayUse where
  service := { mDefaultModeId := 0, modeNode := ⟨modeNode, []⟩, defaultFile := ⟨defaultFile, []⟩ }
  running := false
  lastDefault := none

/-- Every open and every write succeeds. -/
def SetEnv.sample : SetEnv := ⟨⟨true, true⟩, ⟨true, true⟩⟩

end Universal7880
