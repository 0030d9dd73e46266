import Universal7880.CString
import Universal7880.Lts
import Universal7880.Tfa
import Mathlib.Data.Finset.Lattice.Basic
import Mathlib.Data.Finset.Option

/-!
# The amplifier HAL of `amplifier.c`

`ampEnableOutputDevices` is `amp_enable_output_devices`: a counter of users for each mode, one power state shared by all
modes. `ampModuleOpen` and `ampDevClose` are the two ends of a device's life; the static pointer `amp_dev` is part of the
state.

The sound devices and the interface name come from headers of the platform (`audio_hw.h`, `audio_amplifier.h`), so they
are parameters (`AudioHw`). A counter is a C `int`: an increment past `INT_MAX` is undefined, and the model has no step
there.
-/

namespace Universal7880

/-- The platform's constants. The three sound devices are labels of one `switch`, so they differ. -/
structure AudioHw where
  sndDeviceOutSpeaker : UInt32
  sndDeviceOutVoiceSpeaker : UInt32
  sndDeviceOutVoiceSpeakerWb : UInt32
  amplifierHardwareInterface : String
  distinct : [sndDeviceOutSpeaker, sndDeviceOutVoiceSpeaker, sndDeviceOutVoiceSpeakerWb].Nodup

/-- The modes of `tfa_mode_t` that index the counters: all but `Audio_Mode_None`. -/
inductive TfaMode where
  | musicNormal | voice
  deriving DecidableEq, Repr

inductive AmpState where
  | disabled | enabled
  deriving DecidableEq, Repr

/-- `amp_device_t`, without the function table and the mode that `amp_set_mode` stores and nothing reads. -/
structure AmpDevice where
  tfaDev : TfaDevice
  refcount : TfaMode → Int
  ampState : AmpState

/-- One call of the HAL's `enable_output_devices`. -/
structure AmpCall where
  devices : UInt32
  enable : Bool
  deriving DecidableEq, Repr

/-- `classify_snd_device`: `none` is `Audio_Mode_None`. -/
def AudioHw.classifySndDevice (hw : AudioHw) (sndDevice : UInt32) : Option TfaMode :=
  if sndDevice = hw.sndDeviceOutSpeaker then some .musicNormal
  else if sndDevice = hw.sndDeviceOutVoiceSpeaker ∨ sndDevice = hw.sndDeviceOutVoiceSpeakerWb then some .voice
  else none

/-- The counting half of `amp_enable_output_devices`: a disable stops at zero, an increment past `INT_MAX` has no result. -/
def updateRefcount (refcount : TfaMode → Int) (mode : TfaMode) (enable : Bool) : Option (TfaMode → Int) :=
  if enable then
    if refcount mode < INT_MAX then some (Function.update refcount mode (refcount mode + 1)) else none
  else if refcount mode > 0 then some (Function.update refcount mode (refcount mode - 1))
  else some refcount

/-- The power half of `amp_enable_output_devices`: it reads the counter of the mode of this call only. -/
def updatePower (enableRc : ℕ → Int) (dev : AmpDevice) (mode : TfaMode) (enable : Bool) : Int × AmpDevice :=
  if enable = true ∧ dev.ampState = .disabled ∧ dev.refcount mode = 1 then
    let (rc, tfaDev) := tfaPower enableRc dev.tfaDev true
    (rc, { dev with tfaDev, ampState := if rc = 0 then .enabled else dev.ampState })
  else if enable = false ∧ dev.ampState = .enabled ∧ dev.refcount mode = 0 then
    let (rc, tfaDev) := tfaPower enableRc dev.tfaDev false
    (rc, { dev with tfaDev, ampState := if rc = 0 then .disabled else dev.ampState })
  else (0, dev)

/-- `amp_enable_output_devices`: the code it returns and the device it leaves. -/
def ampEnableOutputDevices (hw : AudioHw) (enableRc : ℕ → Int) (dev : AmpDevice) (call : AmpCall) :
    Option (Int × AmpDevice) :=
  match hw.classifySndDevice call.devices with
  | none => some (0, dev)
  | some mode =>
    (updateRefcount dev.refcount mode call.enable).map fun refcount =>
      updatePower enableRc { dev with refcount } mode call.enable

/-- The device `amp_module_open` returns: `calloc` has zeroed the counters (the `memset` that follows clears two of their
bytes again), and the amplifier counts as off. -/
def ampInit (tfaDev : TfaDevice) : AmpDevice where
  tfaDev := tfaDev
  refcount := fun _ => 0
  ampState := .disabled

/-- The runs of `amp_enable_output_devices` on one device. -/
def ampSystem (hw : AudioHw) (enableRc : ℕ → Int) : Lts AmpDevice AmpCall where
  init := fun dev => ∃ tfaDev, dev = ampInit tfaDev
  step := fun dev call => (ampEnableOutputDevices hw enableRc dev call).map Prod.snd

/-! ## Opening and closing the device -/

/-- The HAL between calls: what it owns, the static pointer `amp_dev` (`none` is `NULL`) and the contents of the live
`amp_device_t` blocks, by block. -/
structure Hal where
  heap : Ledger ResourceKind
  ampDev : Option ℕ
  device : ℕ → Option AmpDevice

/-- What a call of `amp_module_open` returns: its code, and the device it stores in `*device`, if it stores one. -/
structure OpenResult where
  rc : Int
  device : Option ℕ
  deriving DecidableEq, Repr

/-- `amp_module_open`. Its `calloc` assigns the static pointer whether it succeeds or not. -/
def ampModuleOpen (hw : AudioHw) (env : OpenEnv) (name : String) (hal : Hal) : OpenResult × Hal :=
  if name ≠ hw.amplifierHardwareInterface then (⟨-ENODEV, none⟩, hal)
  else if hal.ampDev.isSome then (⟨-EBUSY, none⟩, hal)
  else
    match tfaDeviceOpen env hal.heap with
    | (none, heap) => (⟨-ENOENT, none⟩, { hal with heap })
    | (some tfaDev, heap) =>
      if env.callocAmp = false then (⟨-ENOMEM, none⟩, { hal with heap, ampDev := none })
      else
        (⟨0, some heap.next⟩,
          { heap := heap.acquire .ampDevice, ampDev := some heap.next,
            device := Function.update hal.device heap.next (some (ampInit tfaDev)) })

/-- `amp_dev_close` on the device in a block; the vendor's codes serve the power-off that closing makes. The static
pointer is not touched. There is no step for a block that holds no device. -/
def ampDevClose (enableRc : ℕ → Int) (block : ℕ) (hal : Hal) : Option Hal :=
  match hal.device block with
  | none => none
  | some dev =>
    some { hal with
      heap := (tfaDeviceClose enableRc dev.tfaDev hal.heap).release (.ampDevice, block)
      device := Function.update hal.device block none }

/-- The HAL in use: its state, and, as a ghost, the devices it has returned that were not closed yet. -/
structure HalUse where
  hal : Hal
  held : Finset ℕ

inductive HalLabel where
  /-- An attempt to open, and what it meets. -/
  | openDevice (env : OpenEnv) (name : String)
  /-- A device that was returned and not closed yet is closed; the vendor's codes serve its power-off. -/
  | closeDevice (enableRc : ℕ → Int) (block : ℕ)

/-- The runs of `amp_module_open` and `amp_dev_close`. -/
def halSystem (hw : AudioHw) : Lts HalUse HalLabel where
  init := fun s => s.hal.heap.owned = ∅ ∧ s.hal.ampDev = none ∧ s.held = ∅
  step := fun s label =>
    match label with
    | .openDevice env name =>
      let (result, hal) := ampModuleOpen hw env name s.hal
      some { hal, held := s.held ∪ result.device.toFinset }
    | .closeDevice enableRc block =>
      if block ∈ s.held then (ampDevClose enableRc block s.hal).map fun hal => { hal, held := s.held.erase block }
      else none

end Universal7880
