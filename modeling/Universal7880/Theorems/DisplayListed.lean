import Universal7880.Lemmas.DisplayStep

/-!
# The modes that exist

`getDisplayModes` cuts `kModeMap` at the number in the `mode_max` node; the setter and the constructor know `kModeMap` only.
`display_modes_listed` says for which contents of the node the list is the one that is meant, and `listed_modes_agree` in
which runs the modes that are set, applied and reported are modes that are listed.
-/

namespace Universal7880

/-! ## The list -/

theorem getDisplayModes_not_opened (uninitialised : Int) : getDisplayModes uninitialised none = kModeMap := by
  simp [getDisplayModes, kModeMap]

/-- Where a number is written the list is cut at that number: a number that is clamped lies beyond all keys. -/
theorem getDisplayModes_of_begins {text : CString} {n : ℤ} (h : BeginsWithInt text n) (uninitialised : Int) :
    getDisplayModes uninitialised (some text) = kModeMap.filter fun entry => entry.1 < n := by
  simp only [getDisplayModes, readInt, value_of_begins h]
  refine List.filter_congr ?_
  intro entry hentry
  obtain ⟨hlow, hhigh⟩ := (isMode_iff entry.1).1 (isMode_of_mem hentry)
  rw [decide_eq_decide]
  unfold INT_MIN INT_MAX
  split_ifs <;> omega

/-- Where no number is written the list is cut at what the variable holds: anything, or zero. -/
theorem getDisplayModes_of_not_begins {text : CString} (h : ∀ n, ¬ BeginsWithInt text n) :
    getDisplayModes 0 (some text) = [] := by
  simp only [getDisplayModes, readInt, value_of_not_begins h, ite_self]
  rfl

/-- The list is in the order of the ids, without duplicates. -/
theorem getDisplayModes_sorted (uninitialised : Int) (maxModeFile : Option CString) :
    (getDisplayModes uninitialised maxModeFile).Pairwise fun a b => a.1 < b.1 := by
  have hsorted : kModeMap.Pairwise fun a b => a.1 < b.1 := by decide
  unfold getDisplayModes
  exact hsorted.filter _

/-- An `int` can be read from the node. -/
def ReadsInt (maxModeFile : Option CString) (n : ℤ) : Prop :=
  ∃ text, maxModeFile = some text ∧ BeginsWithInt text n ∧ FitsInt n

theorem readsInt_some {text : CString} {n : ℤ} : ReadsInt (some text) n ↔ BeginsWithInt text n ∧ FitsInt n := by
  simp [ReadsInt]

/-- The list that is meant: the modes below the number where one can be read, and all modes where none can be; in order, and
the same whatever the variable held before. -/
structure ListsModes (maxModeFile : Option CString) : Prop where
  read : ∀ n, ReadsInt maxModeFile n → ∀ uninitialised,
    getDisplayModes uninitialised maxModeFile = kModeMap.filter fun entry => entry.1 < n
  unread : (∀ n, ¬ ReadsInt maxModeFile n) → ∀ uninitialised, getDisplayModes uninitialised maxModeFile = kModeMap
  ordered : ∀ uninitialised, (getDisplayModes uninitialised maxModeFile).Pairwise fun a b => a.1 < b.1
  initialised : ∀ u v, getDisplayModes u maxModeFile = getDisplayModes v maxModeFile

/-- A node that cannot be opened cuts nothing. -/
theorem listsModes_not_opened : ListsModes none := by
  refine ⟨?_, fun _ => getDisplayModes_not_opened, fun u => getDisplayModes_sorted u none, ?_⟩
  · intro n hn
    obtain ⟨text, htext, -⟩ := hn
    cases htext
  · intro u v
    rw [getDisplayModes_not_opened, getDisplayModes_not_opened]

/-- A number that is not below the range cuts the list where it should: above the range it cuts nothing. -/
theorem listsModes_of_begins {text : CString} {n : ℤ} (hn : BeginsWithInt text n) (hlow : INT_MIN ≤ n) :
    ListsModes (some text) := by
  refine ⟨?_, ?_, fun u => getDisplayModes_sorted u _, ?_⟩
  · intro m hm u
    exact getDisplayModes_of_begins (readsInt_some.1 hm).1 u
  · intro hread u
    have hhigh : INT_MAX < n := by
      by_contra hhigh
      exact hread n (readsInt_some.2 ⟨hn, hlow, Int.not_lt.1 hhigh⟩)
    rw [getDisplayModes_of_begins hn, List.filter_eq_self]
    intro entry hentry
    obtain ⟨-, hkey⟩ := (isMode_iff entry.1).1 (isMode_of_mem hentry)
    unfold INT_MAX at hhigh
    exact decide_eq_true (by omega)
  · intro u v
    rw [getDisplayModes_of_begins hn, getDisplayModes_of_begins hn]

/-- A node that can be opened and lists the modes that are meant holds a number, and none that is below the range. -/
theorem ListsModes.begins {text : CString} (h : ListsModes (some text)) : ∃ n, BeginsWithInt text n ∧ INT_MIN ≤ n := by
  by_contra hno
  have hlow : ∀ n, BeginsWithInt text n → n < INT_MIN := fun n hn => Int.not_le.1 fun hle => hno ⟨n, hn, hle⟩
  have hread : ∀ n, ¬ ReadsInt (some text) n := by
    intro n hn
    obtain ⟨hn, hfits⟩ := readsInt_some.1 hn
    exact Int.not_lt.2 hfits.1 (hlow n hn)
  have hlist := h.unread hread 0
  by_cases hnumber : ∃ n, BeginsWithInt text n
  · obtain ⟨n, hn⟩ := hnumber
    rw [getDisplayModes_of_begins hn, List.filter_eq_self] at hlist
    have hzero : 0 < n := of_decide_eq_true (hlist (0, "Dynamic") (by decide))
    have hneg := hlow n hn
    unfold INT_MIN at hneg
    omega
  · rw [getDisplayModes_of_not_begins (fun n hn => hnumber ⟨n, hn⟩)] at hlist
    cases hlist

/-- The list is the one that is meant exactly if the node cannot be opened or holds a number that is not below the range of
`int`; and where a number of any size is written, the list is cut at that number. -/
theorem display_modes_listed (maxModeFile : Option CString) :
    (ListsModes maxModeFile ↔
      maxModeFile = none ∨ ∃ text n, maxModeFile = some text ∧ BeginsWithInt text n ∧ INT_MIN ≤ n) ∧
    (∀ text n, maxModeFile = some text → BeginsWithInt text n → ∀ uninitialised,
      getDisplayModes uninitialised maxModeFile = kModeMap.filter fun entry => entry.1 < n) := by
  refine ⟨⟨?_, ?_⟩, ?_⟩
  · intro h
    cases maxModeFile with
    | none => exact Or.inl rfl
    | some text =>
      obtain ⟨n, hn, hlow⟩ := h.begins
      exact Or.inr ⟨text, n, rfl, hn, hlow⟩
  · intro h
    rcases h with rfl | ⟨text, n, rfl, hn, hlow⟩
    · exact listsModes_not_opened
    · exact listsModes_of_begins hn hlow
  · intro text n htext hn u
    rw [htext]
    exact getDisplayModes_of_begins hn u

/-- No mode is listed where the node holds a word, and anything may be where it is empty. -/
theorem word_lists_nothing : ¬ ∀ maxModeFile, ListsModes maxModeFile := by
  intro h
  have hword : ∀ n, ¬ ReadsInt (some (ascii "max")) n := by
    intro n hn
    cases scanInt_of_begins (readsInt_some.1 hn).1
  have hlist := (h (some (ascii "max"))).unread hword 0
  revert hlist
  decide +kernel

/-! ## The list and the other paths -/

/-- The id is listed, whatever the variable of `getDisplayModes` held. -/
def Listed (maxMode : CString) (id : Int) : Prop :=
  ∀ uninitialised, ∃ name, (id, name) ∈ getDisplayModes uninitialised (some maxMode)

/-- The modes that are listed are those below the number in the node. -/
theorem listed_iff {maxMode : CString} {n : ℤ} (h : BeginsWithInt maxMode n) {id : Int} (hmode : IsMode id) :
    Listed maxMode id ↔ id < n := by
  simp only [Listed, getDisplayModes_of_begins h, List.mem_filter, decide_eq_true_eq]
  constructor
  · intro hlisted
    obtain ⟨name, -, hlt⟩ := hlisted 0
    exact hlt
  · intro hlt _
    obtain ⟨⟨key, name⟩, hmem, rfl⟩ := List.mem_map.1 hmode
    exact ⟨name, hmem, hlt⟩

/-- What the paths owe each other at one step: an id that is set with success is listed; a mode that the constructor gets
accepted by the node is listed; and the default that is reported is one of those listed, if any mode is. -/
structure ListsAgree (maxMode : CString) (n : ℤ) (t : Lts.Transition DisplayUse DisplayLabel) : Prop where
  set : ∀ env id makeDefault, t.label = .setDisplayMode env id makeDefault →
    (setDisplayMode env id makeDefault t.src.service).1 = true → Listed maxMode id
  applied : ∀ env id, t.label = .construct env →
    t.dst.service.modeNode.accepted = t.src.service.modeNode.accepted ++ [stdToString id] → Listed maxMode id
  reported : 1 ≤ n → ∃ id name, getDefaultDisplayMode t.dst.service = .ok (id, name) ∧ Listed maxMode id

/-- The step stays below the limit `n`: no call sets a mode at or above it, and no start takes one from the default file; with
no mode below the limit, a start may take zero from it if the mode is not applied. -/
def StaysBelow (n : ℤ) (t : Lts.Transition DisplayUse DisplayLabel) : Prop :=
  match t.label with
  | .setDisplayMode env id makeDefault =>
    IsMode id → env.modeFile.opens = true → (makeDefault = true → env.defaultFile.opens = true) → id < n
  | .construct env =>
    storedDefault (env.seen t.src.service.defaultFile) < n ∨
      n < 1 ∧ ((readInt (env.seen t.src.service.defaultFile)).fail = true ∨
        env.set.modeFile.opens = false ∨ env.set.modeFile.writes = false)

instance (n : ℤ) : DecidablePred (StaysBelow n) := fun ⟨_, label, _⟩ =>
  match label with
  | .setDisplayMode _ _ _ => inferInstanceAs (Decidable (_ → _ → _ → _))
  | .construct _ => inferInstanceAs (Decidable (_ ∨ _))

/-- Where it runs, the default is a mode, and below the limit if any mode is. -/
def DefaultBelow (n : ℤ) (s : DisplayUse) : Prop :=
  s.running = true → IsMode s.service.mDefaultModeId ∧ (1 ≤ n → s.service.mDefaultModeId < n)

/-- The default is reported, and listed if it is below the limit. -/
theorem reported_iff {maxMode : CString} {n : ℤ} (h : BeginsWithInt maxMode n) {s : DisplayModes}
    (hmode : IsMode s.mDefaultModeId) :
    (∃ id name, getDefaultDisplayMode s = .ok (id, name) ∧ Listed maxMode id) ↔ s.mDefaultModeId < n := by
  obtain ⟨name, hname⟩ := getDefaultDisplayMode_of_isMode hmode
  rw [← listed_iff h hmode]
  constructor
  · intro hreported
    obtain ⟨id, _, hid, hlisted⟩ := hreported
    rw [hname] at hid
    obtain rfl := congrArg Prod.fst (Except.ok.inj hid)
    exact hlisted
  · intro hlisted
    exact ⟨_, name, hname, hlisted⟩

/-- What the constructor gets accepted is the default it has read, if it has read one and the node takes it. -/
theorem accepted_construct (env : ConstructEnv) (modeNode defaultFile : File) (id : Int) :
    (constructDisplayModes env modeNode defaultFile).modeNode.accepted = modeNode.accepted ++ [stdToString id] ↔
      id = storedDefault (env.seen defaultFile) ∧ (readInt (env.seen defaultFile)).fail = false ∧
        env.set.modeFile.opens = true ∧ env.set.modeFile.writes = true := by
  rw [constructDisplayModes_eq]
  cases hfail : (readInt (env.seen defaultFile)).fail with
  | true => simp
  | false =>
    simp only [Bool.false_eq_true, if_false, File.accepted_afterPut]
    split_ifs with haccept
    · simp only [List.append_cancel_left_eq, List.cons.injEq, and_true, haccept]
      exact ⟨fun heq => (decimal_injective heq).symm, fun heq => by rw [heq]⟩
    · simp [haccept]

/-- A start keeps the agreement exactly if it stays below the limit. -/
theorem listsAgree_construct {maxMode : CString} {n : ℤ} (h : BeginsWithInt maxMode n) {s s' : DisplayUse}
    {env : ConstructEnv} (ht : displaySystem.Steps ⟨s, .construct env, s'⟩) :
    ListsAgree maxMode n ⟨s, .construct env, s'⟩ ↔ StaysBelow n ⟨s, .construct env, s'⟩ := by
  obtain rfl := eq_of_steps_construct ht
  have hmode : IsMode (storedDefault (env.seen s.service.defaultFile)) := isMode_storedDefault _
  have hdefault : (constructDisplayModes env s.service.modeNode s.service.defaultFile).mDefaultModeId =
      storedDefault (env.seen s.service.defaultFile) := by rw [constructDisplayModes_eq]
  have hreported := reported_iff h (hdefault.symm ▸ hmode)
  rw [hdefault] at hreported
  have hkey := ((isMode_iff _).1 hmode).1
  constructor
  · intro hq
    by_cases hbelow : storedDefault (env.seen s.service.defaultFile) < n
    · exact Or.inl hbelow
    refine Or.inr ⟨by_contra fun hn => hbelow (hreported.1 (hq.reported (by omega))), ?_⟩
    by_contra hno
    simp only [not_or, Bool.not_eq_true, Bool.not_eq_false] at hno
    have haccept := (accepted_construct env s.service.modeNode s.service.defaultFile _).2 ⟨rfl, hno⟩
    exact hbelow ((listed_iff h hmode).1 (hq.applied env _ rfl haccept))
  · intro hc
    constructor
    case set =>
      intro env' id makeDefault hlabel
      cases hlabel
    case applied =>
      intro env' id hlabel haccept
      obtain rfl := DisplayLabel.construct.inj hlabel
      obtain ⟨rfl, hread, hopen, hwrite⟩ := (accepted_construct env _ _ _).1 haccept
      rw [listed_iff h hmode]
      rcases hc with hbelow | ⟨-, hno⟩
      · exact hbelow
      · rw [hread, hopen, hwrite] at hno
        simp at hno
    case reported =>
      intro hn
      refine hreported.2 ?_
      rcases hc with hbelow | ⟨hlow, -⟩
      · exact hbelow
      · omega

/-- A call of `setDisplayMode` keeps the agreement exactly if it stays below the limit. -/
theorem listsAgree_setDisplayMode {maxMode : CString} {n : ℤ} (h : BeginsWithInt maxMode n) {s s' : DisplayUse}
    {env : SetEnv} {id : Int} {makeDefault : Bool} (ht : displaySystem.Steps ⟨s, .setDisplayMode env id makeDefault, s'⟩)
    (hbelow : DefaultBelow n s) :
    ListsAgree maxMode n ⟨s, .setDisplayMode env id makeDefault, s'⟩ ↔
      StaysBelow n ⟨s, .setDisplayMode env id makeDefault, s'⟩ := by
  obtain ⟨hrun, returned, service, heq, hset, rfl⟩ := cases_of_steps_setDisplayMode ht
  obtain ⟨hmode, hlimit⟩ := hbelow hrun
  constructor
  · intro hq hid hopen hdefault
    rw [← listed_iff h hid]
    exact hq.set env id makeDefault rfl (setDisplayMode_eq_true_iff.2 ⟨hid, hopen, hdefault⟩)
  · intro hc
    constructor
    case set =>
      intro env' id' makeDefault' hlabel htrue
      obtain ⟨rfl, rfl, rfl⟩ := DisplayLabel.setDisplayMode.inj hlabel
      obtain ⟨hid, hopen, hdefault⟩ := setDisplayMode_eq_true_iff.1 htrue
      exact (listed_iff h hid).2 (hc hid hopen hdefault)
    case applied =>
      intro env' id' hlabel
      cases hlabel
    case reported =>
      intro hn
      cases hset with
      | madeDefault hid hopen hmake hdefault => exact (reported_iff h hid).2 (hc hid hopen fun _ => hdefault)
      | unknown => exact (reported_iff h hmode).2 (hlimit hn)
      | modeNotOpened => exact (reported_iff h hmode).2 (hlimit hn)
      | applied => exact (reported_iff h hmode).2 (hlimit hn)
      | defaultNotOpened => exact (reported_iff h hmode).2 (hlimit hn)

/-- After a step that keeps the agreement the default is below the limit, if any mode is. -/
theorem ListsAgree.defaultBelow {maxMode : CString} {n : ℤ} (h : BeginsWithInt maxMode n)
    {t : Lts.Transition DisplayUse DisplayLabel} (hq : ListsAgree maxMode n t)
    (hmode : t.dst.running = true → IsMode t.dst.service.mDefaultModeId) : DefaultBelow n t.dst :=
  fun hrun => ⟨hmode hrun, fun hn => (reported_iff h (hmode hrun)).1 (hq.reported hn)⟩

/-- The default of a service that runs is a mode, and stays one. -/
theorem isMode_default_step {t : Lts.Transition DisplayUse DisplayLabel} (ht : displaySystem.Steps t)
    (h : t.src.running = true → IsMode t.src.service.mDefaultModeId) : IsMode t.dst.service.mDefaultModeId := by
  obtain ⟨s, label, s'⟩ := t
  cases label with
  | construct env =>
    obtain rfl := eq_of_steps_construct ht
    simp only [constructDisplayModes_eq]
    exact isMode_storedDefault _
  | setDisplayMode env id makeDefault =>
    obtain ⟨hrun, returned, service, -, hset, rfl⟩ := cases_of_steps_setDisplayMode ht
    cases hset with
    | madeDefault hid => exact hid
    | unknown => exact h hrun
    | modeNotOpened => exact h hrun
    | applied => exact h hrun
    | defaultNotOpened => exact h hrun

/-- The modes that are set, applied by the constructor and reported as the default are modes that are listed, in every run
of starts and `setDisplayMode` calls over a `mode_max` node that holds the number `n`, exactly if every step of the run
stays below `n`. -/
theorem listed_modes_agree (maxMode : CString) (n : ℤ) (h : BeginsWithInt maxMode n) (s : DisplayUse)
    (hs : displaySystem.init s) (es : List DisplayLabel) :
    displaySystem.Always s es (ListsAgree maxMode n) ↔ displaySystem.Always s es (StaysBelow n) := by
  have h0 : DefaultBelow n s := by
    intro hrun
    rw [hs.1] at hrun
    cases hrun
  refine Lts.always_iff (J := DefaultBelow n) ?_ ?_ es h0
  · intro t ht hbelow
    rcases t with ⟨s, label, s'⟩
    cases label with
    | construct env => exact listsAgree_construct h ht
    | setDisplayMode env id makeDefault => exact listsAgree_setDisplayMode h ht hbelow
  · intro t ht hbelow hq
    exact hq.defaultBelow h fun _ => isMode_default_step ht fun hrun => (hbelow hrun).1

/-- With the limit 5, the modes 4 and 0 are set; the mode 5 is not, as the mode node cannot be opened. -/
theorem listed_modes_agree_five :
    displaySystem.Always (.stopped none none) [.construct ⟨true, .sample⟩, .setDisplayMode .sample 4 true,
      .setDisplayMode { SetEnv.sample with modeFile := ⟨false, true⟩ } 5 true, .construct ⟨true, .sample⟩,
      .setDisplayMode .sample 0 false] (ListsAgree (ascii "5") 5) := by
  refine (listed_modes_agree (ascii "5") 5 (scanInt_eq_some_iff.1 (by decide +kernel)) _ ⟨rfl, rfl⟩ _).2 ?_
  decide +kernel

/-- With the limit 5, the mode 5 is set with success. -/
theorem unlisted_mode_set : ¬ ∀ maxMode n, BeginsWithInt maxMode n → ∀ s, displaySystem.init s → ∀ es,
    displaySystem.Always s es (ListsAgree maxMode n) := by
  intro h
  have hbegins : BeginsWithInt (ascii "5") 5 := scanInt_eq_some_iff.1 (by decide +kernel)
  have hrun := h (ascii "5") 5 hbegins (.stopped none none) ⟨rfl, rfl⟩
    [.construct ⟨true, .sample⟩, .setDisplayMode .sample 5 false]
  have hset := hrun ⟨_, _, _⟩ (by
    rw [Lts.trace_cons_some rfl, Lts.trace_cons_some rfl]
    exact List.mem_cons_of_mem _ List.mem_cons_self)
  have hlisted := hset.set _ 5 false rfl (by decide +kernel)
  exact absurd ((listed_iff hbegins (by decide)).1 hlisted) (by decide)

end Universal7880
