import Universal7880.CommandLine
import Universal7880.ExtractFiles

/-!
# The command lines of `extract-files.sh`

`extract_arguments`: the script extracts exactly on the lines that are arguments one after the other, and then as they say,
whatever their order; it ends before that on the lines that leave a section unnamed, and on no others.
-/

namespace Universal7880

/-! ## Arguments -/

/-- The words of the one argument with a value. -/
def namesSection (word : CString) : Bool := word = ascii "-s" ∨ word = ascii "--section"

/-- The words of `--no-cleanup`. -/
def noCleanup (word : CString) : Bool := word = ascii "-n" ∨ word = ascii "--no-cleanup"

/-- The words of `--kang`. -/
def kang (word : CString) : Bool := word = ascii "-k" ∨ word = ascii "--kang"

/-- The section that an argument names. -/
def sectionNamed (a : CommandLine.Argument CString) : Option CString := if namesSection a.word then a.value else none

/-- The source that an argument is: any word that is none of the others. -/
def sourceNamed (a : CommandLine.Argument CString) : Option CString :=
  if noCleanup a.word ∨ kang a.word ∨ namesSection a.word then none else some a.word

/-- The last source, or what `SRC` held; `adb` if that is empty. -/
def sourceAsked (src : CString) (args : List (CommandLine.Argument CString)) : CString :=
  let src := ((args.filterMap sourceNamed).getLast?).getD src
  if src = [] then ascii "adb" else src

/-- What arguments ask for: the vendor's directory is cleaned up unless one of them says not to or names a section. -/
def callsAsked (myDir src : CString) (args : List (CommandLine.Argument CString)) : List HelperCall :=
  [.setupVendor (ascii "universal7880-common") (ascii "samsung") (myDir ++ ascii "/../../..") true
      (!args.any fun a => noCleanup a.word || namesSection a.word),
    .extract (myDir ++ ascii "/proprietary-files.txt") (sourceAsked src args)
      (if args.any fun a => kang a.word then ascii "--kang" else [])
      (((args.filterMap sectionNamed).getLast?).getD [])]

/-! ## The loop -/

/-- What the loop does with one argument. -/
def takeArgument (vars : ExtractVariables) (a : CommandLine.Argument CString) : ExtractVariables where
  cleanVendor := if noCleanup a.word || namesSection a.word then false else vars.cleanVendor
  kang := if kang a.word then ascii "--kang" else vars.kang
  sectionName := (sectionNamed a).getD vars.sectionName
  src := (sourceNamed a).getD vars.src

/-- No word is of two kinds. -/
theorem noCleanup_alone {word : CString} (h : noCleanup word = true) : kang word = false ∧ namesSection word = false := by
  rcases of_decide_eq_true h with rfl | rfl <;> decide +kernel

theorem kang_alone {word : CString} (h : kang word = true) : noCleanup word = false ∧ namesSection word = false := by
  rcases of_decide_eq_true h with rfl | rfl <;> decide +kernel

theorem namesSection_alone {word : CString} (h : namesSection word = true) : noCleanup word = false ∧ kang word = false := by
  rcases of_decide_eq_true h with rfl | rfl <;> decide +kernel

/-- The loop takes the arguments of the line one after the other. -/
theorem readArguments_eq (vars : ExtractVariables) (line : List CString) :
    readArguments vars line = (CommandLine.read namesSection line).map fun args => args.foldl takeArgument vars := by
  induction vars, line using readArguments.induct with
  | case1 vars => rfl
  | case2 vars word rest hword ih =>
    have hclean : noCleanup word = true := decide_eq_true hword
    obtain ⟨hkang, hsection⟩ := noCleanup_alone hclean
    rw [readArguments.eq_def]
    dsimp only
    rw [if_pos hword, ih, CommandLine.read_alone hsection, Option.map_map]
    simp [Function.comp_def, takeArgument, sectionNamed, sourceNamed, hclean, hkang, hsection]
  | case3 vars word rest hnot hword ih =>
    have hkang : kang word = true := decide_eq_true hword
    obtain ⟨hclean, hsection⟩ := kang_alone hkang
    rw [readArguments.eq_def]
    dsimp only
    rw [if_neg hnot, if_pos hword, ih, CommandLine.read_alone hsection, Option.map_map]
    simp [Function.comp_def, takeArgument, sectionNamed, sourceNamed, hclean, hkang, hsection]
  | case4 vars word hnot hnot' hword =>
    have hsection : namesSection word = true := decide_eq_true hword
    rw [readArguments.eq_def]
    dsimp only
    rw [if_neg hnot, if_neg hnot', if_pos hword, CommandLine.read_takes_last hsection, Option.map_none]
  | case5 vars word hnot hnot' hword value rest ih =>
    have hsection : namesSection word = true := decide_eq_true hword
    obtain ⟨hclean, hkang⟩ := namesSection_alone hsection
    rw [readArguments.eq_def]
    dsimp only
    rw [if_neg hnot, if_neg hnot', if_pos hword, ih, CommandLine.read_takes hsection, Option.map_map]
    simp [Function.comp_def, takeArgument, sectionNamed, sourceNamed, hclean, hkang, hsection]
  | case6 vars word rest hnot hnot' hnot'' ih =>
    have hclean : noCleanup word = false := decide_eq_false hnot
    have hkang : kang word = false := decide_eq_false hnot'
    have hsection : namesSection word = false := decide_eq_false hnot''
    rw [readArguments.eq_def]
    dsimp only
    rw [if_neg hnot, if_neg hnot', if_neg hnot'', ih, CommandLine.read_alone hsection, Option.map_map]
    simp [Function.comp_def, takeArgument, sectionNamed, sourceNamed, hclean, hkang, hsection]

/-- The script extracts as the arguments of the line ask, if the line is read. -/
theorem extractFiles_eq (myDir src : CString) (line : List CString) :
    extractFiles myDir src line = (CommandLine.read namesSection line).map (callsAsked myDir src) := by
  unfold extractFiles
  rw [readArguments_eq]
  cases CommandLine.read namesSection line with
  | none => rfl
  | some args =>
    have hclean := @CommandLine.foldl_flag _ _ _ takeArgument ExtractVariables.cleanVendor
      (fun a => noCleanup a.word || namesSection a.word) _ (fun _ _ => rfl) args ⟨true, [], [], src⟩
    have hkang := @CommandLine.foldl_flag _ _ _ takeArgument ExtractVariables.kang (fun a => kang a.word) _
      (fun _ _ => rfl) args ⟨true, [], [], src⟩
    have hsection := @CommandLine.foldl_assign _ _ _ takeArgument ExtractVariables.sectionName sectionNamed
      (fun _ _ => rfl) args ⟨true, [], [], src⟩
    have hsrc := @CommandLine.foldl_assign _ _ _ takeArgument ExtractVariables.src sourceNamed
      (fun _ _ => rfl) args ⟨true, [], [], src⟩
    have hnot : ∀ b : Bool, (if b = true then false else true) = !b := by decide
    simp only [Option.map_some, Option.bind_eq_bind, Option.bind_some, Option.pure_def, hclean, hkang, hsection, hsrc, hnot]
    rfl

/-- The script extracts exactly on the lines that are the words of well-formed arguments, with the calls that these ask for;
it ends before it does exactly on the lines that go on, after such words, with one `-s` or `--section` and nothing more. -/
theorem extract_arguments (myDir src : CString) (line : List CString) :
    (∀ calls, extractFiles myDir src line = some calls ↔
      ∃ args, (∀ a ∈ args, a.WellFormed namesSection) ∧ CommandLine.words args = line ∧ calls = callsAsked myDir src args) ∧
    (extractFiles myDir src line = none ↔
      ∃ args last, (∀ a ∈ args, CommandLine.Argument.WellFormed namesSection a) ∧ namesSection last = true ∧
        CommandLine.words args ++ [last] = line) := by
  rw [extractFiles_eq]
  refine ⟨fun calls => ?_, ?_⟩
  · simp only [Option.map_eq_some_iff, CommandLine.read_eq_some_iff, and_assoc, eq_comm (a := calls)]
  · rw [Option.map_eq_none_iff, CommandLine.read_eq_none_iff]

/-- The last word names no section: the script cleans nothing up and extracts nothing. -/
example : extractFiles (ascii ".") [] [ascii "dump", ascii "-k", ascii "-s"] = none := by decide +kernel

end Universal7880
