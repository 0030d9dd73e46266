import Universal7880.ReleaseTools

/-!
# Which devices a package runs on

`ota_bootloaders`: a package runs on the devices whose bootloader is named in the first requirement of its
`android-info.txt`, on all devices if that names `*` or there is no requirement, and on no others.
-/

namespace Universal7880

open Regex

/-- The text begins with a requirement of the bootloaders `group`, which reaches up to white space or the end. -/
def RequiresHere (s group : CString) : Prop :=
  ∃ blank₁ blank₂ blank₃ rest,
    s = ascii "require" ++ (blank₁ ++ (ascii "version-bootloader" ++ (blank₂ ++ (ascii "=" ++ (blank₃ ++ (group ++ rest)))))) ∧
    (blank₁ ≠ [] ∧ ∀ c ∈ blank₁, isspace c = true) ∧ (∀ c ∈ blank₂, isspace c = true) ∧ (∀ c ∈ blank₃, isspace c = true) ∧
    (group ≠ [] ∧ ∀ c ∈ group, isspace c = false) ∧ ∀ c ∈ rest.head?, isspace c = true

/-- The first requirement in the text is one of the bootloaders `group`. -/
def FirstRequirement (text group : CString) : Prop :=
  ∃ before s, text = before ++ s ∧ RequiresHere s group ∧
    ∀ before' s', text = before' ++ s' → before'.length < before.length → ∀ group', ¬ RequiresHere s' group'

/-- The requirement of the text, if it has one, names the bootloader, or `*`; the names stand between bars. -/
def AllowsBootloader (text bootloader : CString) : Prop :=
  ∀ group, FirstRequirement text group → ∃ bootloaders, group = [124].intercalate bootloaders ∧
    (∀ b ∈ bootloaders, 124 ∉ b) ∧ (ascii "*" ∈ bootloaders ∨ bootloader ∈ bootloaders)

/-! ## One match -/

/-- A text is a run of a class and what does not begin with it in one way only. -/
theorem run_append_inj {p : UInt8 → Bool} {a a' b b' : CString} (ha : ∀ c ∈ a, p c = true) (ha' : ∀ c ∈ a', p c = true)
    (hb : ∀ c ∈ b.head?, p c = false) (hb' : ∀ c ∈ b'.head?, p c = false) (h : a ++ b = a' ++ b') : a = a' ∧ b = b' := by
  have hrun : ∀ {x y : CString}, (∀ c ∈ x, p c = true) → (∀ c ∈ y.head?, p c = false) → (x ++ y).takeWhile p = x := by
    intro x y hx hy
    rw [List.takeWhile_append_of_pos hx]
    cases y with
    | nil => simp
    | cons c y => rw [List.takeWhile_cons_of_neg (by simp [hy c rfl]), List.append_nil]
  have hsame : a = a' := by rw [← hrun ha hb, h, hrun ha' hb']
  subst hsame
  exact ⟨rfl, List.append_cancel_left h⟩

/-- A text that begins with a word does not begin with white space. -/
theorem not_isspace_head_append {w : CString} (h : w ≠ [] ∧ ∀ c ∈ w, isspace c = false) (x : CString) :
    ∀ c ∈ (w ++ x).head?, isspace c = false := by
  obtain ⟨d, w, rfl⟩ := List.exists_cons_of_ne_nil h.1
  intro c hc
  obtain rfl : d = c := Option.some.inj hc
  exact h.2 d List.mem_cons_self

/-- The expression stands for the texts up to the bootloaders. -/
theorem matches_versionBootloader {t : CString} :
    Matches versionBootloader t ↔ ∃ blank₁ blank₂ blank₃,
      t = ascii "require" ++ (blank₁ ++ (ascii "version-bootloader" ++ (blank₂ ++ (ascii "=" ++ blank₃)))) ∧
      (blank₁ ≠ [] ∧ ∀ c ∈ blank₁, isspace c = true) ∧ (∀ c ∈ blank₂, isspace c = true) ∧
      ∀ c ∈ blank₃, isspace c = true := by
  simp only [versionBootloader, matches_append, matches_literal, matches_plus, matches_star]
  constructor
  · intro h
    obtain ⟨_, _, rfl, rfl, blank₁, _, rfl, h₁, _, _, rfl, rfl, blank₂, _, rfl, h₂, _, blank₃, rfl, rfl, h₃⟩ := h
    exact ⟨blank₁, blank₂, blank₃, rfl, h₁, h₂, h₃⟩
  · intro h
    obtain ⟨blank₁, blank₂, blank₃, rfl, h₁, h₂, h₃⟩ := h
    exact ⟨_, _, rfl, rfl, blank₁, _, rfl, h₁, _, _, rfl, rfl, blank₂, _, rfl, h₂, _, blank₃, rfl, rfl, h₃⟩

/-- What is captured is required there. -/
theorem requiresHere_of_captured {s group : CString} (h : captured versionBootloader versionBootloaderGroup s = some group) :
    RequiresHere s group := by
  obtain ⟨t, u, rfl, ht, rfl, hne⟩ := captured_eq_some h
  obtain ⟨blank₁, blank₂, blank₃, rfl, h₁, h₂, h₃⟩ := matches_versionBootloader.1 ht
  refine ⟨blank₁, blank₂, blank₃, u.dropWhile fun c => !isspace c, ?_, h₁, h₂, h₃, ⟨hne, ?_⟩, ?_⟩
  · simp only [List.append_assoc, List.takeWhile_append_dropWhile]
  · intro c hc
    simpa using List.mem_takeWhile_imp hc
  · intro c hc
    have hstop := List.head?_dropWhile_not (fun c => !isspace c) u
    rw [Option.mem_def.1 hc] at hstop
    simpa using hstop

/-- There is one way to read a requirement. -/
theorem requiresHere_unique {s group group' : CString} (h : RequiresHere s group) (h' : RequiresHere s group') :
    group = group' := by
  obtain ⟨blank₁, blank₂, blank₃, rest, rfl, ⟨-, h₁⟩, h₂, h₃, ⟨hne, hgroup⟩, hrest⟩ := h
  obtain ⟨blank₁', blank₂', blank₃', rest', heq, ⟨-, h₁'⟩, h₂', h₃', ⟨hne', hgroup'⟩, hrest'⟩ := h'
  have hversion : ascii "version-bootloader" ≠ [] ∧ ∀ c ∈ ascii "version-bootloader", isspace c = false := by decide +kernel
  have hequals : ascii "=" ≠ [] ∧ ∀ c ∈ ascii "=", isspace c = false := by decide +kernel
  have heq₁ := List.append_cancel_left heq
  obtain ⟨-, heq₂⟩ := run_append_inj h₁ h₁' (not_isspace_head_append hversion _) (not_isspace_head_append hversion _) heq₁
  obtain ⟨-, heq₃⟩ := run_append_inj h₂ h₂' (not_isspace_head_append hequals _) (not_isspace_head_append hequals _)
    (List.append_cancel_left heq₂)
  obtain ⟨-, heq₄⟩ := run_append_inj h₃ h₃' (not_isspace_head_append ⟨hne, hgroup⟩ _)
    (not_isspace_head_append ⟨hne', hgroup'⟩ _) (List.append_cancel_left heq₃)
  exact (run_append_inj (p := fun c => !isspace c) (by simpa using hgroup) (by simpa using hgroup') (by simpa using hrest)
    (by simpa using hrest') heq₄).1

/-- The matcher captures the bootloaders that are required where it stands. -/
theorem captured_iff {s group : CString} :
    captured versionBootloader versionBootloaderGroup s = some group ↔ RequiresHere s group := by
  refine ⟨requiresHere_of_captured, ?_⟩
  intro h
  have hsome : (captured versionBootloader versionBootloaderGroup s).isSome = true := by
    obtain ⟨blank₁, blank₂, blank₃, rest, rfl, h₁, h₂, h₃, ⟨hne, hgroup⟩, -⟩ := h
    have hbefore := matches_versionBootloader.2 ⟨blank₁, blank₂, blank₃, rfl, h₁, h₂, h₃⟩
    have htake : (group ++ rest).takeWhile (fun c => !isspace c) ≠ [] := by
      rw [List.takeWhile_append_of_pos (by simpa using hgroup)]
      simp [hne]
    have hfound := isSome_captured hbefore htake
    simp only [List.append_assoc] at hfound
    exact hfound
  obtain ⟨group', hgroup'⟩ := Option.isSome_iff_exists.1 hsome
  rw [hgroup', requiresHere_unique h (requiresHere_of_captured hgroup')]

/-! ## The first match -/

/-- The search finds the first requirement. -/
theorem search_iff {text group : CString} :
    search versionBootloader versionBootloaderGroup text = some group ↔ FirstRequirement text group := by
  have hnot : ∀ s, captured versionBootloader versionBootloaderGroup s = none ↔ ∀ group, ¬ RequiresHere s group := by
    intro s
    rw [Option.eq_none_iff_forall_ne_some]
    exact forall_congr' fun group => not_congr captured_iff
  simp only [search_eq_some_iff, captured_iff, hnot, FirstRequirement]

/-- No piece of a text between bars holds a bar. -/
theorem not_mem_of_mem_splitOn {x : UInt8} {s : CString} : ∀ piece ∈ s.splitOn x, x ∉ piece := by
  induction s with
  | nil => simp [List.splitOn_nil]
  | cons c s ih =>
    rw [List.splitOn_cons_eq_if_modifyHead]
    split
    case isTrue => exact List.forall_mem_cons.2 ⟨List.not_mem_nil, ih⟩
    case isFalse hne =>
      cases hpieces : s.splitOn x with
      | nil => exact absurd hpieces (List.splitOn_ne_nil x s)
      | cons first rest =>
        rw [hpieces] at ih
        obtain ⟨hfirst, hrest⟩ := List.forall_mem_cons.1 ih
        refine List.forall_mem_cons.2 ⟨?_, hrest⟩
        intro hmem
        rcases List.mem_cons.1 hmem with heq | hmem
        · exact hne (by simp [heq])
        · exact hfirst hmem

/-- The pieces of a text between bars, and the text, determine each other. -/
theorem splitOn_bar {group : CString} {bootloaders : List CString} (hne : group ≠ []) :
    group.splitOn 124 = bootloaders ↔ group = [124].intercalate bootloaders ∧ ∀ b ∈ bootloaders, 124 ∉ b := by
  constructor
  · rintro rfl
    exact ⟨(List.intercalate_splitOn 124).symm, not_mem_of_mem_splitOn⟩
  · intro h
    obtain ⟨rfl, hbars⟩ := h
    refine List.splitOn_intercalate 124 hbars ?_
    rintro rfl
    exact hne rfl

/-! ## The packages -/

/-- What one text adds to a script, and to the metadata. -/
theorem addBootloaderAssertion_spec (info : OtaInfo) (text : CString) :
    (∀ bootloader, RunsOn (addBootloaderAssertion info text) bootloader ↔
      RunsOn info bootloader ∧ AllowsBootloader text bootloader) ∧
    ∀ group, FirstRequirement text group → (addBootloaderAssertion info text).preBootloader = some group := by
  unfold addBootloaderAssertion
  cases hsearch : search versionBootloader versionBootloaderGroup text with
  | none =>
    have hnone : ∀ group, ¬ FirstRequirement text group := by
      intro group h
      rw [search_iff.2 h] at hsearch
      cases hsearch
    exact ⟨fun bootloader => iff_self_and.2 fun _ group h => absurd h (hnone group), fun group h => absurd h (hnone group)⟩
  | some group =>
    have hfirst := search_iff.1 hsearch
    have honly : ∀ group', FirstRequirement text group' → group' = group :=
      fun group' h => Option.some.inj ((search_iff.2 h).symm.trans hsearch)
    have hne : group ≠ [] := by
      obtain ⟨_, _, -, ⟨_, _, _, _, -, -, -, -, ⟨hne, -⟩, -⟩, -⟩ := hfirst
      exact hne
    have hallows : ∀ bootloader, AllowsBootloader text bootloader ↔
        ascii "*" ∈ group.splitOn 124 ∨ bootloader ∈ group.splitOn 124 := by
      intro bootloader
      constructor
      · intro h
        obtain ⟨bootloaders, heq, hbars, hmem⟩ := h group hfirst
        rw [(splitOn_bar hne).2 ⟨heq, hbars⟩]
        exact hmem
      · intro h group' hgroup'
        obtain rfl := honly group' hgroup'
        obtain ⟨heq, hbars⟩ := (splitOn_bar hne).1 rfl
        exact ⟨_, heq, hbars, h⟩
    refine ⟨?_, fun group' h => congrArg some (honly group' h).symm⟩
    intro bootloader
    rw [hallows]
    by_cases hstar : ascii "*" ∈ group.splitOn 124
    · simp [RunsOn, hstar]
    · simp [RunsOn, hstar, or_imp, forall_and]

/-- A package runs on a device exactly if the script so far does and the first requirement in the text of its build, if there
is one, names the bootloader of the device or `*`; a full package goes by the zip of the build, an incremental one by that of
the target build. The metadata hold the bootloaders of that requirement as they are written. -/
theorem ota_bootloaders (info : OtaInfo) :
    (∀ bootloader, RunsOn (fullOTAAssertions info) bootloader ↔
      RunsOn info bootloader ∧ AllowsBootloader info.inputZip bootloader) ∧
    (∀ bootloader, RunsOn (incrementalOTAAssertions info) bootloader ↔
      RunsOn info bootloader ∧ AllowsBootloader info.targetZip bootloader) ∧
    (∀ group, FirstRequirement info.inputZip group → (fullOTAAssertions info).preBootloader = some group) ∧
    ∀ group, FirstRequirement info.targetZip group → (incrementalOTAAssertions info).preBootloader = some group :=
  ⟨(addBootloaderAssertion_spec info _).1, (addBootloaderAssertion_spec info _).1, (addBootloaderAssertion_spec info _).2,
    (addBootloaderAssertion_spec info _).2⟩

end Universal7880
