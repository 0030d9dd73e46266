import Universal7880.CppText

/-!
# The arguments of `extract-files.sh`

The script reads its arguments in a loop and hands what they set on to `setup_vendor` and `extract` of
`extract_utils.sh`. It has `set -e`, so that a `shift` with nothing to drop ends it. `SRC` is the one variable that it does
not clear first: what it held before is an argument here.
-/

namespace Universal7880

/-- The variables that the arguments set. -/
structure ExtractVariables where
  cleanVendor : Bool
  kang : CString
  sectionName : CString
  src : CString
  deriving DecidableEq, Repr

/-- The calls of the functions of `extract_utils.sh`, with their arguments. -/
inductive HelperCall where
  | setupVendor (device vendor androidRoot : CString) (isCommon cleanup : Bool)
  | extract (proprietaryFiles src kang sectionName : CString)
  deriving DecidableEq, Repr

/-- The loop over the arguments. -/
def readArguments (vars : ExtractVariables) : List CString → Option ExtractVariables
  | [] => some vars
  | word :: rest =>
    if word = ascii "-n" ∨ word = ascii "--no-cleanup" then readArguments { vars with cleanVendor := false } rest
    else if word = ascii "-k" ∨ word = ascii "--kang" then readArguments { vars with kang := ascii "--kang" } rest
    else if word = ascii "-s" ∨ word = ascii "--section" then
      match rest with
      -- `${2}` is empty, the first `shift` drops the word, and the second one fails.
      | [] => none
      | value :: rest => readArguments { vars with sectionName := value, cleanVendor := false } rest
    else readArguments { vars with src := word } rest

/-- `extract-files.sh` as far as its call of `extract`, on the directory of the script, what `SRC` holds, and the arguments. -/
def extractFiles (myDir src : CString) (args : List CString) : Option (List HelperCall) := do
  let vars ← readArguments { cleanVendor := true, kang := [], sectionName := [], src } args
  let src := if vars.src = [] then ascii "adb" else vars.src
  return [.setupVendor (ascii "universal7880-common") (ascii "samsung") (myDir ++ ascii "/../../..") true vars.cleanVendor,
    .extract (myDir ++ ascii "/proprietary-files.txt") src vars.kang vars.sectionName]

end Universal7880
