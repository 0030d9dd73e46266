import Universal7880.DisplayModes
import Universal7880.MdnieNodes

/-!
# The LiveDisplay service of `service.cpp`

One process serves four interfaces: the colour calibration, the display modes, the reading enhancement and the sunlight
enhancement. `main` constructs the four objects, registers them and joins a thread pool of one thread, so calls do not
interleave. An exception that escapes a call ends the process, and with it the other interfaces; `init` starts it again.
The nodes and the default file outlive it.

A call comes with what it meets at its files. `liveDisplaySystem` is the process over its starts, calls and ends.
-/

namespace Universal7880

/-- The objects of the process with the files they use. Of the objects only `DisplayModes` holds anything. -/
structure LiveDisplay where
  displayModes : DisplayModes
  sensorRGB : File
  accessibility : File
  lux : File
  deriving DecidableEq, Repr

/-- `getMaxValue`. -/
def getMaxValue : Int32 := 255

/-- `getMinValue`. -/
def getMinValue : Int32 := 1

/-- A call of one of the interfaces: its arguments, and what it meets at its files. -/
inductive LiveDisplayCall where
  | getMaxValue
  | getMinValue
  | getCalibration (sensorRGB : Option CString)
  | setCalibration (env : WriteEnv) (rgb : List Int32)
  | getDisplayModes (uninitialised : Int) (maxModeFile : Option CString)
  | getCurrentDisplayMode
  | getDefaultDisplayMode
  | setDisplayMode (env : SetEnv) (modeID : Int) (makeDefault : Bool)
  | readingIsEnabled (accessibility : FileRead)
  | readingSetEnabled (env : WriteEnv) (enabled : Bool)
  | sunlightIsEnabled (lux : Option CString)
  | sunlightSetEnabled (env : WriteEnv) (enabled : Bool)
  deriving DecidableEq, Repr

/-- What a call delivers. -/
inductive LiveDisplayAnswer where
  | value (value : Int32)
  | colors (rgb : List Int32)
  | flag (flag : Bool)
  | modes (modes : List (Int × String))
  | mode (mode : Int × String)
  deriving DecidableEq, Repr

/-- The method that serves a call. -/
def callLiveDisplay (call : LiveDisplayCall) (s : LiveDisplay) : Except StdException (LiveDisplayAnswer × LiveDisplay) :=
  match call with
  | .getMaxValue => .ok (.value getMaxValue, s)
  | .getMinValue => .ok (.value getMinValue, s)
  | .getCalibration sensorRGB => (getCalibration sensorRGB).map fun rgb => (.colors rgb, s)
  | .setCalibration env rgb =>
    let (returned, sensorRGB) := setCalibration env rgb s.sensorRGB
    .ok (.flag returned, { s with sensorRGB })
  | .getDisplayModes uninitialised maxModeFile => .ok (.modes (getDisplayModes uninitialised maxModeFile), s)
  | .getCurrentDisplayMode => (getCurrentDisplayMode s.displayModes).map fun mode => (.mode mode, s)
  | .getDefaultDisplayMode => (getDefaultDisplayMode s.displayModes).map fun mode => (.mode mode, s)
  | .setDisplayMode env modeID makeDefault =>
    let (returned, displayModes) := setDisplayMode env modeID makeDefault s.displayModes
    .ok (.flag returned, { s with displayModes })
  | .readingIsEnabled accessibility => .ok (.flag (ReadingEnhancement.isEnabled accessibility), s)
  | .readingSetEnabled env enabled =>
    let (returned, accessibility) := ReadingEnhancement.setEnabled env enabled s.accessibility
    .ok (.flag returned, { s with accessibility })
  | .sunlightIsEnabled lux => (isEnabled lux).map fun enabled => (.flag enabled, s)
  | .sunlightSetEnabled env enabled =>
    let (returned, lux) := SunlightEnhancement.setEnabled env enabled s.lux
    .ok (.flag returned, { s with lux })

/-- `OK` of `utils/Errors.h`. -/
def OK : Int := 0

/-- What `main` meets: what the constructor of `DisplayModes` meets, and the codes of the four registrations. -/
structure MainEnv where
  construct : ConstructEnv
  displayColorCalibration : Int
  displayModes : Int
  readingEnhancement : Int
  sunlightEnhancement : Int
  deriving DecidableEq, Repr

/-- `main`, up to where it joins the thread pool: whether it gets there. A registration that fails ends the process. -/
def serviceMain (env : MainEnv) (s : LiveDisplay) : Bool × LiveDisplay :=
  let displayModes := constructDisplayModes env.construct s.displayModes.modeNode s.displayModes.defaultFile
  let s := { s with displayModes }
  if env.displayColorCalibration ≠ OK then (false, s)
  else if env.displayModes ≠ OK then (false, s)
  else if env.readingEnhancement ≠ OK then (false, s)
  else if env.sunlightEnhancement ≠ OK then (false, s)
  else (true, s)

/-- The process: its objects and their files, and whether it runs. -/
structure LiveDisplayUse where
  service : LiveDisplay
  running : Bool
  deriving DecidableEq, Repr

inductive LiveDisplayLabel where
  /-- The process is started. -/
  | main (env : MainEnv)
  /-- A call of one of the interfaces. -/
  | call (call : LiveDisplayCall)
  deriving DecidableEq, Repr

/-- The runs of the process from boot, with any contents of the files: nothing was written to the nodes yet. -/
def liveDisplaySystem : Lts LiveDisplayUse LiveDisplayLabel where
  init := fun s => s.running = false ∧ s.service.sensorRGB.accepted = [] ∧ s.service.accessibility.accepted = [] ∧
    s.service.lux.accepted = []
  step := fun s label =>
    match label with
    | .main env =>
      if s.running then none
      else
        let (running, service) := serviceMain env s.service
        some { service, running }
    | .call call =>
      if s.running then
        match callLiveDisplay call s.service with
        | .error _ => some { s with running := false }
        | .ok (_, service) => some { s with service }
      else none

end Universal7880
