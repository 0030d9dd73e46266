import Universal7880.Lts
import Universal7880.Work
import Universal7880.Ledger
import Universal7880.Sessions
import Universal7880.Registers
import Universal7880.Regex
import Universal7880.CommandLine
import Universal7880.ReflectedWalk
import Universal7880.CString
import Universal7880.Decimal
import Universal7880.CppText
import Universal7880.Fstream
import Universal7880.CameraMetadata
import Universal7880.Tfa
import Universal7880.Amplifier
import Universal7880.Clock
import Universal7880.ClockOpen
import Universal7880.AmpThreads
import Universal7880.Camera
import Universal7880.CameraModule
import Universal7880.CameraThreads
import Universal7880.CameraOps
import Universal7880.CameraSettings
import Universal7880.DisplayModes
import Universal7880.MdnieNodes
import Universal7880.LiveDisplay
import Universal7880.InitSec
import Universal7880.ReleaseTools
import Universal7880.ExtractFiles
import Universal7880.Lemmas.AmpStep
import Universal7880.Lemmas.AmpOpen
import Universal7880.Lemmas.ClockInvariant
import Universal7880.Lemmas.ClockCaller
import Universal7880.Lemmas.ClockWriter
import Universal7880.Lemmas.ClockEffect
import Universal7880.Lemmas.ClockQueue
import Universal7880.Lemmas.ClockWork
import Universal7880.Lemmas.DisplayStep
import Universal7880.Theorems.AmpPower
import Universal7880.Theorems.AmpCount
import Universal7880.Theorems.AmpLifecycle
import Universal7880.Theorems.AmpHistory
import Universal7880.Theorems.AmpResources
import Universal7880.Theorems.ClockLifecycle
import Universal7880.Theorems.ClockFreshness
import Universal7880.Theorems.ClockJoin
import Universal7880.Theorems.ClockProgress
import Universal7880.Theorems.ClockRaces
import Universal7880.Theorems.ClockFailures
import Universal7880.Theorems.ClockHandle
import Universal7880.Theorems.ClockRefinement
import Universal7880.Theorems.AmpThreads
import Universal7880.Theorems.CameraConservation
import Universal7880.Theorems.CameraRange
import Universal7880.Theorems.CameraModuleCalls
import Universal7880.Theorems.CameraThreads
import Universal7880.Theorems.CameraProgress
import Universal7880.Theorems.CameraDefaults
import Universal7880.Theorems.CameraSessions
import Universal7880.Theorems.CameraBuffers
import Universal7880.Theorems.DisplayDefault
import Universal7880.Theorems.DisplayListed
import Universal7880.Theorems.DisplaySet
import Universal7880.Theorems.LiveDisplayService
import Universal7880.Theorems.Calibration
import Universal7880.Theorems.BootProperties
import Universal7880.Theorems.OtaBootloaders
import Universal7880.Theorems.ExtractArguments
