import Universal7880.LiveDisplay
import Universal7880.Lemmas.DisplayStep
import Universal7880.Registers
import Universal7880.Theorems.Calibration
import Universal7880.Theorems.DisplayDefault

/-!
# The four interfaces in one process

`process_ends`: which calls end the process, in every run, and with it the other interfaces. `registers_read_last`: the
calibration and the two switches are registers that the driver keeps; through calls of the other interfaces, failed writes
and restarts, each getter reports what was set last.
-/

namespace Universal7880

/-! ## The ends of the process -/

/-- The call throws on the contents of its node. -/
def Throws : LiveDisplayCall → Prop
  | .getCalibration (some text) => ∃ color ∈ split (trim text) (ascii " "), ¬ HoldsInt color
  | .sunlightIsEnabled (some text) => ¬ HoldsInt (trim text)
  | _ => False

/-- The process ends at a call that throws, and at no other; what the files hold stays. It runs after a start exactly if the
four interfaces could be registered. -/
structure EndsAtThrows (t : Lts.Transition LiveDisplayUse LiveDisplayLabel) : Prop where
  ends : ∀ call, t.label = .call call → (t.dst.running = false ↔ Throws call)
  kept : ∀ call, t.label = .call call → t.dst.running = false → t.dst.service = t.src.service
  started : ∀ env, t.label = .main env → (t.dst.running = true ↔ env.displayColorCalibration = OK ∧ env.displayModes = OK ∧
    env.readingEnhancement = OK ∧ env.sunlightEnhancement = OK)

/-- Where the process runs, the default is a mode. -/
def DefaultIsMode (s : LiveDisplayUse) : Prop := s.running = true → IsMode s.service.displayModes.mDefaultModeId

theorem throws_iff {ε α : Type} (x : Except ε α) : (∃ e, x = .error e) ↔ ¬ ∃ a, x = .ok a := by
  cases x <;> simp

/-- A result that is delivered beside a state is delivered beside that state. -/
theorem eq_of_map_ok {α β σ ε : Type} {x : Except ε α} {f : α → β} {s s' : σ} {b : β}
    (h : x.map (fun a => (f a, s)) = .ok (b, s')) : s' = s := by
  cases x <;> simp_all [Except.map]

/-- A call throws where it should: the look-ups of the display modes find the default. -/
theorem callLiveDisplay_error_iff {call : LiveDisplayCall} {s : LiveDisplay} (h : IsMode s.displayModes.mDefaultModeId) :
    (∃ e, callLiveDisplay call s = .error e) ↔ Throws call := by
  rw [throws_iff]
  cases call with
  | getCalibration sensorRGB =>
    rw [callLiveDisplay, map_ok_iff]
    cases sensorRGB with
    | none => simp [getCalibration, Throws]
    | some text => simp [getCalibration, mapM_ok_iff, map_ok_iff, stoi_ok_iff, Throws]
  | sunlightIsEnabled lux =>
    rw [callLiveDisplay, map_ok_iff]
    cases lux with
    | none => simp [isEnabled, Except.map, Throws]
    | some text => simp [isEnabled, map_ok_iff, stoi_ok_iff, Throws]
  | getCurrentDisplayMode =>
    obtain ⟨mode, hok⟩ := getCurrentDisplayMode_of_isMode h
    simp [callLiveDisplay, hok, Except.map, Throws]
  | getDefaultDisplayMode =>
    obtain ⟨name, hok⟩ := getDefaultDisplayMode_of_isMode h
    simp [callLiveDisplay, hok, Except.map, Throws]
  | getMaxValue | getMinValue | setCalibration | getDisplayModes | setDisplayMode | readingIsEnabled | readingSetEnabled
  | sunlightSetEnabled => simp [callLiveDisplay, Throws]

/-- A call is served by a running process, which it ends if it throws. -/
theorem cases_of_steps_call {s s' : LiveDisplayUse} {call : LiveDisplayCall}
    (h : liveDisplaySystem.Steps ⟨s, .call call, s'⟩) :
    s.running = true ∧
      ((∃ e, callLiveDisplay call s.service = .error e ∧ s' = { s with running := false }) ∨
        ∃ answer service, callLiveDisplay call s.service = .ok (answer, service) ∧ s' = { s with service }) := by
  simp only [Lts.Steps, liveDisplaySystem] at h
  split at h
  case isFalse => cases h
  case isTrue hrun =>
    refine ⟨hrun, ?_⟩
    split at h
    case h_1 e heq => exact Or.inl ⟨e, heq, (Option.some.inj h).symm⟩
    case h_2 answer service heq => exact Or.inr ⟨answer, service, heq, (Option.some.inj h).symm⟩

/-- A start constructs the display modes; the nodes of the other interfaces stay as they are. -/
theorem eq_of_steps_main {s s' : LiveDisplayUse} {env : MainEnv} (h : liveDisplaySystem.Steps ⟨s, .main env, s'⟩) :
    s'.service = { s.service with
      displayModes :=
        constructDisplayModes env.construct s.service.displayModes.modeNode s.service.displayModes.defaultFile } ∧
    (s'.running = true ↔ env.displayColorCalibration = OK ∧ env.displayModes = OK ∧ env.readingEnhancement = OK ∧
      env.sunlightEnhancement = OK) := by
  simp only [Lts.Steps, liveDisplaySystem] at h
  split at h
  case isTrue => cases h
  case isFalse =>
    obtain rfl := Option.some.inj h
    unfold serviceMain
    split_ifs <;> simp_all

/-- No call takes the default away from the modes. -/
theorem isMode_callLiveDisplay {call : LiveDisplayCall} {s s' : LiveDisplay} {answer : LiveDisplayAnswer}
    (hcall : callLiveDisplay call s = .ok (answer, s')) (h : IsMode s.displayModes.mDefaultModeId) :
    IsMode s'.displayModes.mDefaultModeId := by
  cases call with
  | setDisplayMode env modeID makeDefault =>
    obtain ⟨returned, displayModes, heq, hset⟩ := setDisplayMode_cases env modeID makeDefault s.displayModes
    simp only [callLiveDisplay, heq, Except.ok.injEq, Prod.mk.injEq] at hcall
    obtain ⟨-, rfl⟩ := hcall
    cases hset with
    | madeDefault hmode => exact hmode
    | unknown | modeNotOpened | applied | defaultNotOpened => exact h
  | getCalibration | getCurrentDisplayMode | getDefaultDisplayMode | sunlightIsEnabled =>
    rw [eq_of_map_ok hcall]
    exact h
  | getMaxValue | getMinValue | setCalibration | getDisplayModes | readingIsEnabled | readingSetEnabled
  | sunlightSetEnabled =>
    simp only [callLiveDisplay, Except.ok.injEq, Prod.mk.injEq] at hcall
    exact hcall.2 ▸ h

theorem defaultIsMode_step {t : Lts.Transition LiveDisplayUse LiveDisplayLabel} (ht : liveDisplaySystem.Steps t)
    (h : DefaultIsMode t.src) : DefaultIsMode t.dst := by
  rcases t with ⟨s, label, s'⟩
  cases label with
  | main env =>
    intro _
    rw [(eq_of_steps_main ht).1]
    simp only [constructDisplayModes_eq]
    exact isMode_storedDefault _
  | call call =>
    obtain ⟨hrun, ⟨e, -, rfl⟩ | ⟨answer, service, hcall, rfl⟩⟩ := cases_of_steps_call ht
    · intro hr
      cases hr
    · exact fun _ => isMode_callLiveDisplay hcall (h hrun)

/-- The process ends at the calls that find a text they cannot convert in their node, and at no other, in every run from boot,
whatever the files hold and whatever opens, writes and registrations fail. -/
theorem process_ends (s : LiveDisplayUse) (hs : liveDisplaySystem.init s) (es : List LiveDisplayLabel) :
    liveDisplaySystem.Always s es EndsAtThrows := by
  have hmode : DefaultIsMode s := fun hrun => absurd (hs.1.symm.trans hrun) (by decide)
  refine (Lts.Always.of_step (fun t => defaultIsMode_step) es hmode).mono ?_
  intro t ht
  rcases t with ⟨s, label, s'⟩
  obtain ⟨hstep, hsrc, -⟩ := ht
  cases label with
  | main env =>
    refine ⟨fun _ h => (by cases h), fun _ h => (by cases h), ?_⟩
    intro env' heq
    cases heq
    exact (eq_of_steps_main hstep).2
  | call call =>
    obtain ⟨hrun, hends⟩ := cases_of_steps_call hstep
    have hthrows := @callLiveDisplay_error_iff call _ (hsrc hrun)
    rcases hends with ⟨e, hcall, rfl⟩ | ⟨answer, service, hcall, rfl⟩
    · have hyes : Throws call := hthrows.1 ⟨e, hcall⟩
      refine ⟨?_, fun _ _ _ => rfl, fun _ h => (by cases h)⟩
      intro call' heq
      cases heq
      exact iff_of_true rfl hyes
    · have hno : ¬ Throws call := by
        intro h
        obtain ⟨e, he⟩ := hthrows.2 h
        rw [hcall] at he
        cases he
      refine ⟨?_, fun _ _ hstop => absurd (hrun.symm.trans hstop) (by decide), fun _ h => (by cases h)⟩
      intro call' heq
      cases heq
      exact iff_of_false (fun hstop => absurd (hrun.symm.trans hstop) (by decide)) hno

/-! ## The registers of the driver -/

/-- What the driver keeps: the colours, and the switches of the two enhancements. -/
inductive MdnieRegister where
  | calibration | reading | sunlight
  deriving DecidableEq, Repr

def MdnieRegister.Value : MdnieRegister → Type
  | .calibration => List Int32
  | .reading => Bool
  | .sunlight => Bool

instance : ∀ i : MdnieRegister, DecidableEq i.Value
  | .calibration => inferInstanceAs (DecidableEq (List Int32))
  | .reading => inferInstanceAs (DecidableEq Bool)
  | .sunlight => inferInstanceAs (DecidableEq Bool)

/-- What a call is to the registers: what its getter has delivered, or what its setter was given and has returned. -/
def registerEvent (t : Lts.Transition LiveDisplayUse LiveDisplayLabel) : Option (Register.Event MdnieRegister.Value) :=
  match t.label with
  | .main _ => none
  | .call call =>
    match call, callLiveDisplay call t.src.service with
    | .getCalibration _, .ok (.colors rgb, _) => some (.got .calibration rgb)
    | .setCalibration _ rgb, .ok (.flag returned, _) => some (.set .calibration rgb returned)
    | .readingIsEnabled _, .ok (.flag enabled, _) => some (.got .reading enabled)
    | .readingSetEnabled _ enabled, .ok (.flag returned, _) => some (.set .reading enabled returned)
    | .sunlightIsEnabled _, .ok (.flag enabled, _) => some (.got .sunlight enabled)
    | .sunlightSetEnabled _ enabled, .ok (.flag returned, _) => some (.set .sunlight enabled returned)
    | _, _ => none

/-- A node of numbers can be read, and shows the text that it has accepted last, with white space after it. -/
def ShowsLast (accepted : List CString) (text : Option CString) : Prop :=
  ∀ written, accepted.getLast? = some written →
    ∃ blank, (∀ c ∈ blank, isspace c = true) ∧ text = some (written ++ blank)

/-- The node of the reading enhancement can be read, and names the mode of greys, in words or by its number, exactly if that
is the mode it has accepted last. -/
def ShowsMode (accepted : List CString) (read : FileRead) : Prop :=
  ∀ written, accepted.getLast? = some written → read.ok = true ∧
    (trim read.contents ∈ [ascii "Current accessibility : DSI0 : GRAYSCALE", ascii "4"] ↔ written = ascii "4")

/-- The driver shows at its nodes what it has accepted, if it has accepted anything; a client that sets the calibration gives a
colour at least. -/
def ShowsAccepted (t : Lts.Transition LiveDisplayUse LiveDisplayLabel) : Prop :=
  match t.label with
  | .call (.getCalibration sensorRGB) => ShowsLast t.src.service.sensorRGB.accepted sensorRGB
  | .call (.sunlightIsEnabled lux) => ShowsLast t.src.service.lux.accepted lux
  | .call (.readingIsEnabled accessibility) => ShowsMode t.src.service.accessibility.accepted accessibility
  | .call (.setCalibration _ rgb) => rgb ≠ []
  | _ => True

/-- The call converts the text of a node that has accepted nothing since boot, which may be any. -/
def ReadsUnwritten (s : LiveDisplay) : LiveDisplayCall → Prop
  | .getCalibration _ => s.sensorRGB.accepted = []
  | .sunlightIsEnabled _ => s.lux.accepted = []
  | _ => False

/-- The nodes of numbers have accepted what the setters write, and nothing else. -/
structure Written (s : LiveDisplay) : Prop where
  calibration : ∀ text ∈ s.sensorRGB.accepted, ∃ rgb, rgb ≠ [] ∧ text = trim (calibrationContents rgb)
  sunlight : ∀ text ∈ s.lux.accepted, ∃ enabled : Bool, text = if enabled then ascii "40000" else ascii "0"

/-- The colours that a node has accepted last, if any. -/
def lastColors (accepted : List CString) : Option (List Int32) :=
  accepted.getLast?.bind fun text => (getCalibration (some text)).toOption

/-- Whether the text that a node has accepted last is `on`, if there is one. -/
def lastSwitch (on : CString) (accepted : List CString) : Option Bool := accepted.getLast?.map fun text => decide (text = on)

/-- The values that the nodes have accepted last. -/
def valuesOf (s : LiveDisplay) : ∀ i : MdnieRegister, Option i.Value
  | .calibration => lastColors s.sensorRGB.accepted
  | .reading => lastSwitch (ascii "4") s.accessibility.accepted
  | .sunlight => lastSwitch (ascii "40000") s.lux.accepted

/-- A number that was written is compared with zero, with white space after it. -/
theorem isEnabled_stdToString {n : ℤ} (hn : FitsInt n) {blank : CString} (hblank : ∀ c ∈ blank, isspace c = true) :
    isEnabled (some (stdToString n ++ blank)) = .ok (decide (n > 0)) := by
  have htrim : trim (stdToString n ++ blank) = stdToString n := (trimmed_decimal n).trim_append hblank
  simp only [isEnabled, htrim, stoi_eq_ok_iff.2 ⟨begins_stdToString n, hn⟩]
  rfl

/-- The switch of the sunlight enhancement is read back. -/
theorem isEnabled_setEnabled (enabled : Bool) {blank : CString} (hblank : ∀ c ∈ blank, isspace c = true) :
    isEnabled (some ((if enabled then ascii "40000" else ascii "0") ++ blank)) = .ok enabled := by
  cases enabled with
  | true => exact isEnabled_stdToString (n := 40000) (by decide) hblank
  | false => exact isEnabled_stdToString (n := 0) (by decide) hblank

/-- What a setter writes is the text that is accepted last, if it returns true. -/
theorem getLast?_accepted_writeStringToFile (env : WriteEnv) (content : CString) (file : File) :
    (writeStringToFile env content file).2.accepted.getLast? =
      if (writeStringToFile env content file).1 = true then some content else file.accepted.getLast? := by
  rw [accepted_writeStringToFile]
  split_ifs <;> simp

/-- A text that a node has accepted after a setter was accepted before, or is the one that the setter has written. -/
theorem mem_accepted_writeStringToFile {env : WriteEnv} {content text : CString} {file : File}
    (h : text ∈ (writeStringToFile env content file).2.accepted) : text ∈ file.accepted ∨ text = content := by
  rw [accepted_writeStringToFile] at h
  split_ifs at h
  · simpa using h
  · exact Or.inl h

/-- A setter sets its register, and writes what it should. -/
theorem Written.set {call : LiveDisplayCall} {s s' : LiveDisplayUse} {answer : LiveDisplayAnswer} {service : LiveDisplay}
    (h : Written s.service) (hshow : ShowsAccepted ⟨s, .call call, s'⟩)
    (hcall : callLiveDisplay call s.service = .ok (answer, service)) : Written service := by
  cases call with
  | setCalibration env rgb =>
    simp only [callLiveDisplay, Except.ok.injEq, Prod.mk.injEq] at hcall
    obtain ⟨-, rfl⟩ := hcall
    refine ⟨?_, h.sunlight⟩
    intro text htext
    rcases mem_accepted_writeStringToFile htext with hold | rfl
    · exact h.calibration text hold
    · exact ⟨rgb, hshow, rfl⟩
  | readingSetEnabled env enabled =>
    simp only [callLiveDisplay, Except.ok.injEq, Prod.mk.injEq] at hcall
    obtain ⟨-, rfl⟩ := hcall
    exact ⟨h.calibration, h.sunlight⟩
  | sunlightSetEnabled env enabled =>
    simp only [callLiveDisplay, Except.ok.injEq, Prod.mk.injEq] at hcall
    obtain ⟨-, rfl⟩ := hcall
    refine ⟨h.calibration, ?_⟩
    intro text htext
    rcases mem_accepted_writeStringToFile htext with hold | rfl
    · exact h.sunlight text hold
    · exact ⟨enabled, rfl⟩
  | setDisplayMode env modeID makeDefault =>
    simp only [callLiveDisplay, Except.ok.injEq, Prod.mk.injEq] at hcall
    obtain ⟨-, rfl⟩ := hcall
    exact ⟨h.calibration, h.sunlight⟩
  | getCalibration | getCurrentDisplayMode | getDefaultDisplayMode | sunlightIsEnabled =>
    rw [eq_of_map_ok hcall]
    exact h
  | getMaxValue | getMinValue | getDisplayModes | readingIsEnabled =>
    simp only [callLiveDisplay, Except.ok.injEq, Prod.mk.injEq] at hcall
    exact hcall.2 ▸ h

/-- The colours that were accepted last after a setter. -/
theorem lastColors_setCalibration (env : WriteEnv) {rgb : List Int32} (hne : rgb ≠ []) (file : File) :
    lastColors (setCalibration env rgb file).2.accepted =
      if (setCalibration env rgb file).1 = true then some rgb else lastColors file.accepted := by
  have hread := @getCalibration_calibrationContents _ hne [] (by simp)
  rw [List.append_nil] at hread
  unfold setCalibration lastColors
  rw [getLast?_accepted_writeStringToFile]
  split_ifs
  · rw [Option.bind_some, hread]
    rfl
  · rfl

/-- The switch that was accepted last after a setter. -/
theorem lastSwitch_writeStringToFile (env : WriteEnv) {on off : CString} (hne : off ≠ on) (enabled : Bool) (file : File) :
    lastSwitch on (writeStringToFile env (if enabled then on else off) file).2.accepted =
      if (writeStringToFile env (if enabled then on else off) file).1 = true then some enabled
      else lastSwitch on file.accepted := by
  unfold lastSwitch
  rw [getLast?_accepted_writeStringToFile]
  cases enabled with
  | true =>
    simp only [if_true]
    split_ifs <;> simp
  | false =>
    simp only [Bool.false_eq_true, if_false]
    split_ifs <;> simp [hne]

/-- What the node of the colours shows is what it has accepted last. -/
theorem Written.colors {s : LiveDisplay} (h : Written s) {sensorRGB : Option CString}
    (hshow : ShowsLast s.sensorRGB.accepted sensorRGB) (hne : s.sensorRGB.accepted ≠ []) :
    ∃ rgb, lastColors s.sensorRGB.accepted = some rgb ∧ getCalibration sensorRGB = .ok rgb := by
  obtain ⟨text, hlast⟩ := Option.ne_none_iff_exists'.1 (mt List.getLast?_eq_none_iff.1 hne)
  obtain ⟨rgb, hrgb, rfl⟩ := h.calibration text (List.mem_of_getLast? hlast)
  obtain ⟨blank, hblank, rfl⟩ := hshow _ hlast
  refine ⟨rgb, ?_, getCalibration_calibrationContents hrgb hblank⟩
  have hread := @getCalibration_calibrationContents _ hrgb [] (by simp)
  rw [List.append_nil] at hread
  rw [lastColors, hlast, Option.bind_some, hread]
  rfl

/-- What the node of the sunlight enhancement shows is what it has accepted last. -/
theorem Written.sunlightSwitch {s : LiveDisplay} (h : Written s) {lux : Option CString}
    (hshow : ShowsLast s.lux.accepted lux) (hne : s.lux.accepted ≠ []) :
    ∃ enabled, lastSwitch (ascii "40000") s.lux.accepted = some enabled ∧ isEnabled lux = .ok enabled := by
  obtain ⟨text, hlast⟩ := Option.ne_none_iff_exists'.1 (mt List.getLast?_eq_none_iff.1 hne)
  obtain ⟨enabled, rfl⟩ := h.sunlight text (List.mem_of_getLast? hlast)
  obtain ⟨blank, hblank, rfl⟩ := hshow _ hlast
  refine ⟨enabled, ?_, isEnabled_setEnabled enabled hblank⟩
  rw [lastSwitch, hlast, Option.map_some]
  cases enabled <;> decide +kernel

/-- What the node of the reading enhancement shows is what it has accepted last. -/
theorem readingSwitch {s : LiveDisplay} {accessibility : FileRead}
    (hshow : ShowsMode s.accessibility.accepted accessibility) (hne : s.accessibility.accepted ≠ []) :
    lastSwitch (ascii "4") s.accessibility.accepted = some (ReadingEnhancement.isEnabled accessibility) := by
  obtain ⟨text, hlast⟩ := Option.ne_none_iff_exists'.1 (mt List.getLast?_eq_none_iff.1 hne)
  obtain ⟨hok, hmode⟩ := hshow text hlast
  rw [lastSwitch, hlast, Option.map_some, ReadingEnhancement.isEnabled, hok, if_pos rfl, ← Bool.decide_or]
  rw [List.mem_cons, List.mem_singleton] at hmode
  exact congrArg some (decide_eq_decide.2 hmode.symm)

/-- A call is what it should be to the registers: a setter sets its own, a getter delivers what was accepted last, and the
calls of the display modes are nothing to them. -/
theorem Written.matches {call : LiveDisplayCall} {s : LiveDisplayUse} {answer : LiveDisplayAnswer} {service : LiveDisplay}
    (h : Written s.service) (hshow : ShowsAccepted ⟨s, .call call, { s with service }⟩)
    (hcall : callLiveDisplay call s.service = .ok (answer, service)) :
    Lts.Matches (Register.registers MdnieRegister.Value) (fun s => valuesOf s.service) registerEvent
      ⟨s, .call call, { s with service }⟩ := by
  unfold Lts.Matches
  simp only [registerEvent, hcall]
  cases call with
  | setCalibration env rgb =>
    simp only [callLiveDisplay, Except.ok.injEq, Prod.mk.injEq] at hcall
    obtain ⟨rfl, rfl⟩ := hcall
    refine congrArg some (Register.effect_set (lastColors_setCalibration env hshow _) ?_)
    intro j hj
    cases j with
    | calibration => exact absurd rfl hj
    | reading | sunlight => rfl
  | readingSetEnabled env enabled =>
    simp only [callLiveDisplay, Except.ok.injEq, Prod.mk.injEq] at hcall
    obtain ⟨rfl, rfl⟩ := hcall
    refine congrArg some (Register.effect_set (lastSwitch_writeStringToFile env (by decide +kernel) enabled _) ?_)
    intro j hj
    cases j with
    | reading => exact absurd rfl hj
    | calibration | sunlight => rfl
  | sunlightSetEnabled env enabled =>
    simp only [callLiveDisplay, Except.ok.injEq, Prod.mk.injEq] at hcall
    obtain ⟨rfl, rfl⟩ := hcall
    refine congrArg some (Register.effect_set (lastSwitch_writeStringToFile env (by decide +kernel) enabled _) ?_)
    intro j hj
    cases j with
    | sunlight => exact absurd rfl hj
    | calibration | reading => rfl
  | getCalibration sensorRGB =>
    obtain rfl := eq_of_map_ok hcall
    cases hget : getCalibration sensorRGB with
    | error e => simp [callLiveDisplay, hget, Except.map] at hcall
    | ok rgb =>
      simp only [callLiveDisplay, hget, Except.map, Except.ok.injEq, Prod.mk.injEq, and_true] at hcall
      subst hcall
      refine if_pos ?_
      by_cases hne : s.service.sensorRGB.accepted = []
      · exact Or.inl (by rw [valuesOf, hne]; rfl)
      · obtain ⟨rgb', hlast, hread⟩ := h.colors hshow hne
        obtain rfl : rgb = rgb' := Except.ok.inj (hget.symm.trans hread)
        exact Or.inr hlast
  | sunlightIsEnabled lux =>
    obtain rfl := eq_of_map_ok hcall
    cases hget : isEnabled lux with
    | error e => simp [callLiveDisplay, hget, Except.map] at hcall
    | ok enabled =>
      simp only [callLiveDisplay, hget, Except.map, Except.ok.injEq, Prod.mk.injEq, and_true] at hcall
      subst hcall
      refine if_pos ?_
      by_cases hne : s.service.lux.accepted = []
      · exact Or.inl (by rw [valuesOf, hne]; rfl)
      · obtain ⟨enabled', hlast, hread⟩ := h.sunlightSwitch hshow hne
        obtain rfl : enabled = enabled' := Except.ok.inj (hget.symm.trans hread)
        exact Or.inr hlast
  | readingIsEnabled accessibility =>
    simp only [callLiveDisplay, Except.ok.injEq, Prod.mk.injEq] at hcall
    obtain ⟨rfl, rfl⟩ := hcall
    refine if_pos ?_
    by_cases hne : s.service.accessibility.accepted = []
    · exact Or.inl (by rw [valuesOf, hne]; rfl)
    · exact Or.inr (readingSwitch hshow hne)
  | setDisplayMode env modeID makeDefault =>
    simp only [callLiveDisplay, Except.ok.injEq, Prod.mk.injEq] at hcall
    obtain ⟨-, rfl⟩ := hcall
    funext j
    cases j <;> rfl
  | getCurrentDisplayMode | getDefaultDisplayMode => rw [eq_of_map_ok hcall]
  | getMaxValue | getMinValue | getDisplayModes =>
    simp only [callLiveDisplay, Except.ok.injEq, Prod.mk.injEq] at hcall
    rw [← hcall.2]

/-- A call that ends the process has met a node that was not written. -/
theorem Written.readsUnwritten {call : LiveDisplayCall} {s s' : LiveDisplayUse} {e : StdException} (h : Written s.service)
    (hmode : IsMode s.service.displayModes.mDefaultModeId) (hshow : ShowsAccepted ⟨s, .call call, s'⟩)
    (hcall : callLiveDisplay call s.service = .error e) : ReadsUnwritten s.service call := by
  cases call with
  | getCalibration sensorRGB =>
    by_contra hne
    obtain ⟨rgb, -, hread⟩ := h.colors hshow hne
    rw [callLiveDisplay, hread] at hcall
    cases hcall
  | sunlightIsEnabled lux =>
    by_contra hne
    obtain ⟨enabled, -, hread⟩ := h.sunlightSwitch hshow hne
    rw [callLiveDisplay, hread] at hcall
    cases hcall
  | getMaxValue | getMinValue | setCalibration | getDisplayModes | getCurrentDisplayMode | getDefaultDisplayMode
  | setDisplayMode | readingIsEnabled | readingSetEnabled | sunlightSetEnabled =>
    exact (callLiveDisplay_error_iff hmode).1 ⟨e, hcall⟩

/-- A call that ends the process is nothing to the registers. -/
theorem registerEvent_of_error {call : LiveDisplayCall} {s s' : LiveDisplayUse} {e : StdException}
    (hcall : callLiveDisplay call s.service = .error e) : registerEvent ⟨s, .call call, s'⟩ = none := by
  cases call <;> simp only [registerEvent, hcall]

/-- The calibration and the two switches are registers, in every run from boot in which the driver shows at its nodes what it
has accepted, once it has accepted anything, and every calibration has a colour: whatever the display modes do, whatever writes
fail and however often the process is started, a getter delivers what was set last with success. The process ends at getters
only that find a node to which nothing was written since boot. -/
theorem registers_read_last (s : LiveDisplayUse) (hs : liveDisplaySystem.init s) (es : List LiveDisplayLabel)
    (hshow : liveDisplaySystem.Always s es ShowsAccepted) (u : LiveDisplayUse)
    (hrun : liveDisplaySystem.run s es = some u) :
    Register.ReadsLast ((liveDisplaySystem.trace s es).filterMap registerEvent) ∧
      liveDisplaySystem.Always s es fun t => t.src.running = true → t.dst.running = false →
        ∃ call, t.label = .call call ∧ ReadsUnwritten t.src.service call := by
  obtain ⟨hstopped, hsensorRGB, haccessibility, hlux⟩ := hs
  have hinit : Written s.service ∧ DefaultIsMode s := by
    refine ⟨⟨by simp [hsensorRGB], by simp [hlux]⟩, ?_⟩
    intro hr
    rw [hstopped] at hr
    cases hr
  have hstep : ∀ t, liveDisplaySystem.Steps t → ShowsAccepted t → Written t.src.service ∧ DefaultIsMode t.src →
      (Written t.dst.service ∧ DefaultIsMode t.dst) ∧
        Lts.Matches (Register.registers MdnieRegister.Value) (fun s => valuesOf s.service) registerEvent t := by
    intro t ht hg h
    rcases t with ⟨s, label, s'⟩
    refine and_right_comm.1 ⟨?_, defaultIsMode_step ht h.2⟩
    cases label with
    | main env =>
      have hservice := (eq_of_steps_main ht).1
      simp only [hservice]
      refine ⟨⟨h.1.calibration, h.1.sunlight⟩, ?_⟩
      simp only [Lts.Matches, registerEvent, hservice]
      funext i
      cases i <;> rfl
    | call call =>
      obtain ⟨-, ⟨e, hcall, rfl⟩ | ⟨answer, service, hcall, rfl⟩⟩ := cases_of_steps_call ht
      · refine ⟨h.1, ?_⟩
        simp only [Lts.Matches, registerEvent_of_error hcall]
      · exact ⟨h.1.set hg hcall, h.1.matches hg hcall⟩
  constructor
  · refine Register.readsLast_of_run (t := valuesOf u.service) ?_
    have hnone : valuesOf s.service = fun _ => none := by
      funext i
      cases i with
      | calibration => rw [valuesOf, hsensorRGB]; rfl
      | reading => rw [valuesOf, haccessibility]; rfl
      | sunlight => rw [valuesOf, hlux]; rfl
    have hrefines := Lts.run_refines (J := fun s : LiveDisplayUse => Written s.service ∧ DefaultIsMode s) hstep es hinit
      hshow hrun
    rw [hnone] at hrefines
    exact hrefines
  · have hkeep := Lts.Always.of_guarded (J := fun s : LiveDisplayUse => Written s.service ∧ DefaultIsMode s)
      (fun t ht hg h => (hstep t ht hg h).1) es hinit hshow
    refine (hkeep.and hshow).mono ?_
    intro t ht hr hstop
    rcases t with ⟨s, label, s'⟩
    obtain ⟨⟨ht, ⟨hwritten, hmode⟩, -⟩, hg⟩ := ht
    cases label with
    | main env =>
      simp only [Lts.Steps, liveDisplaySystem] at ht
      rw [if_pos hr] at ht
      cases ht
    | call call =>
      obtain ⟨-, ⟨e, hcall, rfl⟩ | ⟨answer, service, hcall, rfl⟩⟩ := cases_of_steps_call ht
      · exact ⟨call, rfl, hwritten.readsUnwritten (hmode hr) hg hcall⟩
      · exact absurd (hr.symm.trans hstop) (by decide)

/-! ## A run -/

/-- Every open, every write and every registration succeeds, and no default is stored. -/
def MainEnv.sample : MainEnv := ⟨⟨true, .sample⟩, OK, OK, OK, OK⟩

/-- The service before its first start, when no node was written. -/
def LiveDisplayUse.booted : LiveDisplayUse :=
  ⟨⟨⟨0, ⟨none, []⟩, ⟨none, []⟩⟩, ⟨none, []⟩, ⟨none, []⟩, ⟨none, []⟩⟩, false⟩

/-- The node of the sunlight enhancement holds a word: reading it ends the process, which is started again. -/
theorem process_ends_word :
    liveDisplaySystem.Always .booted
      [.main .sample, .call (.sunlightSetEnabled ⟨false, true⟩ true), .call (.sunlightIsEnabled (some (ascii "off"))),
        .main .sample] EndsAtThrows :=
  process_ends .booted ⟨rfl, rfl, rfl, rfl⟩ _

/-- The colours are set and the reading enhancement is switched on, a write of the colours fails, and both are read. -/
def calibrationAndReading : List LiveDisplayLabel :=
  [.main .sample, .call (.setCalibration ⟨true, true⟩ [255, 7]), .call (.readingSetEnabled ⟨true, true⟩ true),
    .call (.setCalibration ⟨true, false⟩ [1]), .call (.getCalibration (some (ascii "255 7" ++ [10]))),
    .call (.readingIsEnabled ⟨true, ascii "4"⟩)]

/-- Both getters deliver what was set last with success, and the process runs on. -/
theorem registers_read_last_run :
    Register.ReadsLast ((liveDisplaySystem.trace .booted calibrationAndReading).filterMap registerEvent) ∧
      liveDisplaySystem.Always .booted calibrationAndReading fun t => t.src.running = true → t.dst.running = true := by
  have hrun : (liveDisplaySystem.run .booted calibrationAndReading).isSome = true := by decide +kernel
  obtain ⟨u, hu⟩ := Option.isSome_iff_exists.1 hrun
  refine ⟨(registers_read_last .booted ⟨rfl, rfl, rfl, rfl⟩ _ ?_ u hu).1, by decide +kernel⟩
  unfold calibrationAndReading
  rw [Lts.always_cons_some rfl, Lts.always_cons_some rfl, Lts.always_cons_some rfl, Lts.always_cons_some rfl,
    Lts.always_cons_some rfl, Lts.always_cons_some rfl]
  refine ⟨trivial, List.cons_ne_nil _ _, trivial, List.cons_ne_nil _ _, ?_, ?_, Lts.always_nil _ _ _⟩
  · intro written hwritten
    obtain rfl : ascii "255 7" = written := Option.some.inj (Eq.trans (by decide +kernel) hwritten)
    exact ⟨[10], by decide +kernel, rfl⟩
  · intro written hwritten
    obtain rfl : ascii "4" = written := Option.some.inj (Eq.trans (by decide +kernel) hwritten)
    exact ⟨rfl, by decide +kernel⟩

end Universal7880
