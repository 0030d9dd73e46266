import Universal7880.Fstream

/-!
# The numbers in the nodes of the display

`DisplayColorCalibration.cpp` keeps the colours in the node `sensorRGB`, as decimal numbers with blanks between them, and
`SunlightEnhancement.cpp` reads its switch from the node `lux`. The contents of a node that is read are a parameter, `none`
if it cannot be read; an exception that escapes is an `error`. `ReadingEnhancement.cpp` compares what it has read from the
node `accessibility` with two texts, and never throws.
-/

namespace Universal7880

/-- `getCalibration`: what it delivers to its callback. -/
def getCalibration (sensorRGB : Option CString) : Except StdException (List Int32) :=
  match sensorRGB with
  | none => .ok []
  | some tmp => (split (trim tmp) (ascii " ")).mapM fun color => (stoi color).map Int32.ofInt

/-- The text that `setCalibration` collects, before it is trimmed: every colour is followed by a blank. -/
def calibrationContents (rgb : List Int32) : CString :=
  rgb.foldl (fun contents color => contents ++ (stdToString color.toInt ++ ascii " ")) []

/-- `setCalibration`. -/
def setCalibration (env : WriteEnv) (rgb : List Int32) (sensorRGB : File) : Bool × File :=
  writeStringToFile env (trim (calibrationContents rgb)) sensorRGB

/-- `isEnabled` of the sunlight enhancement. -/
def isEnabled (lux : Option CString) : Except StdException Bool :=
  let contents : Except StdException ℤ :=
    match lux with
    | none => .ok 0
    | some tmp => stoi (trim tmp)
  contents.map fun contents => decide (contents > 0)

/-- `setEnabled` of the sunlight enhancement. -/
def SunlightEnhancement.setEnabled (env : WriteEnv) (enabled : Bool) (lux : File) : Bool × File :=
  writeStringToFile env (if enabled then ascii "40000" else ascii "0") lux

/-- What `ReadFileToString` leaves: whether it has succeeded, and the string, which may hold the beginning of the file when it
has not. -/
structure FileRead where
  ok : Bool
  contents : CString
  deriving DecidableEq, Repr

/-- `isEnabled` of the reading enhancement. -/
def ReadingEnhancement.isEnabled (accessibility : FileRead) : Bool :=
  let contents := if accessibility.ok then trim accessibility.contents else accessibility.contents
  decide (contents = ascii "Current accessibility : DSI0 : GRAYSCALE") || decide (contents = ascii "4")

/-- `setEnabled` of the reading enhancement. -/
def ReadingEnhancement.setEnabled (env : WriteEnv) (enabled : Bool) (accessibility : File) : Bool × File :=
  writeStringToFile env (if enabled then ascii "4" else ascii "0") accessibility

end Universal7880
