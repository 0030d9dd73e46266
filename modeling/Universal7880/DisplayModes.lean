import Universal7880.Fstream
import Universal7880.Lts

/-!
# The display modes of `DisplayModes.cpp`

The service chooses one of the modes of `kModeMap` by writing its id to the mode node, and keeps a default: in memory
(`mDefaultModeId`) and in a file, from which the constructor takes it when the service starts again. The list of modes that
`getDisplayModes` delivers is cut by a third file, which nothing here writes.

What the opens and the writes of a call meet is its environment. `displaySystem` is the service over its starts and calls;
its files outlive it.
-/

namespace Universal7880

/-- `kModeMap`, in the order of its keys. -/
def kModeMap : List (Int × String) :=
  [(0, "Dynamic"), (1, "Standard"), (2, "Natural"), (3, "Cinema"), (4, "Adaptive"), (5, "Reading")]

/-- `kModeMap.at`, which throws for an id that is no key. -/
def kModeMapAt (id : Int) : Except StdException String :=
  match kModeMap.find? (fun entry => entry.1 = id) with
  | none => .error .outOfRange
  | some entry => .ok entry.2

/-- The loop over `kModeMap` that looks for a value among the keys: the key, or else what was there before. -/
def matchMode (value before : Int) : Int :=
  match kModeMap.find? (fun entry => value = entry.1) with
  | none => before
  | some entry => entry.1

/-- The object `DisplayModes`, and the two files it writes. -/
structure DisplayModes where
  mDefaultModeId : Int
  modeNode : File
  defaultFile : File
  deriving DecidableEq, Repr

/-- What a call of `setDisplayMode` meets at its two files. -/
structure SetEnv where
  modeFile : WriteEnv
  defaultFile : WriteEnv
  deriving DecidableEq, Repr

/-- `setDisplayMode`. Both streams are destroyed where it returns, so the mode node is written on every exit but the first
two. -/
def setDisplayMode (env : SetEnv) (modeID : Int) (makeDefault : Bool) (service : DisplayModes) : Bool × DisplayModes :=
  match kModeMap.find? (fun entry => entry.1 = modeID) with
  | none => (false, service)
  | some iter =>
    let (modeFile, modeNode) := Ofstream.construct env.modeFile service.modeNode
    let modeFile := modeFile.put (stdToString iter.1)
    if modeFile.fail then (false, { service with modeNode := modeFile.destroy env.modeFile modeNode })
    else if makeDefault then
      let (defaultStream, defaultFile) := Ofstream.construct env.defaultFile service.defaultFile
      let defaultStream := defaultStream.put (stdToString iter.1)
      if defaultStream.fail then
        (false,
          { service with
            defaultFile := defaultStream.destroy env.defaultFile defaultFile
            modeNode := modeFile.destroy env.modeFile modeNode })
      else
        (true,
          { mDefaultModeId := iter.1
            defaultFile := defaultStream.destroy env.defaultFile defaultFile
            modeNode := modeFile.destroy env.modeFile modeNode })
    else (true, { service with modeNode := modeFile.destroy env.modeFile modeNode })

/-- What the constructor meets: whether the default file can be opened for reading, if it exists, and its call of
`setDisplayMode`. -/
structure ConstructEnv where
  readDefault : Bool
  set : SetEnv
  deriving DecidableEq, Repr

/-- The constructor. The variable it reads into holds a number that was read whenever it is looked at. -/
def constructDisplayModes (env : ConstructEnv) (modeNode defaultFile : File) : DisplayModes :=
  let service : DisplayModes := { mDefaultModeId := 0, modeNode, defaultFile }
  let read := readInt (if env.readDefault then defaultFile.contents else none)
  if read.fail then service
  else
    let service := { service with mDefaultModeId := matchMode (read.value 0) service.mDefaultModeId }
    (setDisplayMode env.set service.mDefaultModeId false service).2

/-- `getDisplayModes`, on the contents of the `mode_max` node, `none` if it cannot be opened. The variable that is read is
not initialised, so it holds any value before. -/
def getDisplayModes (uninitialised : Int) (maxModeFile : Option CString) : List (Int × String) :=
  let value :=
    match maxModeFile with
    | none => (kModeMap.length : Int)
    | some _ => (readInt maxModeFile).value uninitialised
  kModeMap.filter fun entry => entry.1 < value

/-- `getCurrentDisplayMode`. -/
def getCurrentDisplayMode (service : DisplayModes) : Except StdException (Int × String) :=
  let read := readInt service.modeNode.contents
  let currentModeId :=
    if read.fail then service.mDefaultModeId else matchMode (read.value 0) service.mDefaultModeId
  (kModeMapAt currentModeId).map fun name => (currentModeId, name)

/-- `getDefaultDisplayMode`. -/
def getDefaultDisplayMode (service : DisplayModes) : Except StdException (Int × String) :=
  (kModeMapAt service.mDefaultModeId).map fun name => (service.mDefaultModeId, name)

/-! ## The service over its starts and calls -/

/-- The service in use: its object and its files, whether it has been started, and, as a ghost, the last id that a call of
`setDisplayMode` has made the default, returning true. Before the first start the object says nothing. -/
structure DisplayUse where
  service : DisplayModes
  running : Bool
  lastDefault : Option Int
  deriving DecidableEq, Repr

inductive DisplayLabel where
  /-- The service starts, or starts again. -/
  | construct (env : ConstructEnv)
  /-- A call of `setDisplayMode`. -/
  | setDisplayMode (env : SetEnv) (modeID : Int) (makeDefault : Bool)
  deriving DecidableEq, Repr

/-- The runs of starts and of `setDisplayMode` calls, with any contents of the files to begin with. -/
def displaySystem : Lts DisplayUse DisplayLabel where
  init := fun s => s.running = false ∧ s.lastDefault = none
  step := fun s label =>
    match label with
    | .construct env =>
      some { s with service := constructDisplayModes env s.service.modeNode s.service.defaultFile, running := true }
    | .setDisplayMode env modeID makeDefault =>
      if s.running then
        let (returned, service) := setDisplayMode env modeID makeDefault s.service
        some { s with service, lastDefault := if returned && makeDefault then some modeID else s.lastDefault }
      else none

end Universal7880
