import Universal7880.CppText
import Universal7880.Regex

/-!
# The assertions of `releasetools.py`

A package for an update over the air asserts that the device has one of the bootloaders that `OTA/android-info.txt` names, in
the zip of the build for a full package, and in the zip of the target build for an incremental one. The text is taken apart
by the regular expression `require\s+version-bootloader\s*=\s*(\S+)` and by `split`. The strings are those of Python 2, bytes;
`\s` is `isspace`. Of `info` there is what the functions read and write.
-/

namespace Universal7880

/-- The regular expression up to its group. -/
def versionBootloader : List (Regex.Item UInt8) :=
  Regex.literal (ascii "require") ++ (Regex.plus isspace ++ (Regex.literal (ascii "version-bootloader") ++
    ([.star isspace] ++ (Regex.literal (ascii "=") ++ [.star isspace]))))

/-- The group of the regular expression. -/
def versionBootloaderGroup : List (Regex.Item UInt8) := Regex.plus fun c => !isspace c

/-- What the functions are given: `OTA/android-info.txt` of the two zips, the calls of `AssertSomeBootloader` on the script so
far, and `pre-bootloader` of the metadata. -/
structure OtaInfo where
  inputZip : CString
  targetZip : CString
  script : List (List CString)
  preBootloader : Option CString
  deriving DecidableEq, Repr

/-- `AddBootloaderAssertion`. -/
def addBootloaderAssertion (info : OtaInfo) (androidInfo : CString) : OtaInfo :=
  match Regex.search versionBootloader versionBootloaderGroup androidInfo with
  | none => info
  | some group =>
    let bootloaders := group.splitOn 124
    let info := if ascii "*" ∈ bootloaders then info else { info with script := info.script ++ [bootloaders] }
    { info with preBootloader := some group }

/-- `FullOTA_Assertions`. -/
def fullOTAAssertions (info : OtaInfo) : OtaInfo := addBootloaderAssertion info info.inputZip

/-- `IncrementalOTA_Assertions`. -/
def incrementalOTAAssertions (info : OtaInfo) : OtaInfo := addBootloaderAssertion info info.targetZip

/-- The script runs on a device with this bootloader: each assertion names it. That is what `AssertSomeBootloader`, which is not
part of the repository, is documented to write: an assertion that the bootloader is one of those it was given. -/
def RunsOn (info : OtaInfo) (bootloader : CString) : Prop := ∀ bootloaders ∈ info.script, bootloader ∈ bootloaders

end Universal7880
