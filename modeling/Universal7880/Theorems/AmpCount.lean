import Universal7880.Lemmas.AmpStep
import Universal7880.ReflectedWalk
import Mathlib.Algebra.Order.Group.Int
import Mathlib.Algebra.Ring.Int.Defs

/-!
# What a counter of users counts

Each mode of `amp_enable_output_devices` has its own counter, which a surplus disable leaves at zero. So the counter of a mode
is a walk reflected at zero, over the calls of that mode alone: the other calls and the power state do not move it
(`matches_count`). `refcount_closed_form` draws from it what the counter is after a run.
-/

namespace Universal7880

/-- What a call adds to the counter of its mode: one, or one less. -/
def AmpCall.weight (call : AmpCall) : Int := if call.enable then 1 else -1

/-- The calls of a run whose device is of the mode, in their order. -/
def ofMode (hw : AudioHw) (mode : TfaMode) (calls : List AmpCall) : List AmpCall :=
  calls.filter fun call => hw.classifySndDevice call.devices = some mode

/-- The number of enables minus the number of disables. -/
def balance (calls : List AmpCall) : Int := calls.countP (·.enable) - calls.countP (!·.enable)

theorem balance_eq (calls : List AmpCall) : balance calls = (calls.map AmpCall.weight).sum := by
  induction calls with
  | nil => rfl
  | cons call calls ih =>
    rw [List.map_cons, List.sum_cons, ← ih]
    cases he : call.enable <;> simp [balance, AmpCall.weight, he] <;> omega

theorem balance_concat (calls : List AmpCall) (call : AmpCall) : balance (calls ++ [call]) = balance calls + call.weight := by
  simp [balance_eq]

theorem ofMode_concat (hw : AudioHw) (mode : TfaMode) (calls : List AmpCall) (call : AmpCall) :
    ofMode hw mode (calls ++ [call]) =
      ofMode hw mode calls ++ if hw.classifySndDevice call.devices = some mode then [call] else [] := by
  rw [ofMode, List.filter_append, ← ofMode, List.filter_cons, List.filter_nil]
  simp only [decide_eq_true_eq]

/-- The step that a call makes on the counter of the mode, if it makes one. -/
def countStep (hw : AudioHw) (mode : TfaMode) (call : AmpCall) : Option Int :=
  if hw.classifySndDevice call.devices = some mode then some call.weight else none

theorem filterMap_countStep (hw : AudioHw) (mode : TfaMode) (calls : List AmpCall) :
    calls.filterMap (countStep hw mode) = (ofMode hw mode calls).map AmpCall.weight := by
  induction calls with
  | nil => rfl
  | cons call calls ih =>
    by_cases hm : hw.classifySndDevice call.devices = some mode <;> simp [countStep, ofMode, hm] <;> exact ih

/-- The counters after a call, where that of its mode has made the step and no other has moved. -/
theorem matches_of_update {hw : AudioHw} {mode m : TfaMode} {t : Lts.Transition AmpDevice AmpCall} {n : Int}
    (hm : hw.classifySndDevice t.label.devices = some m) (hcount : t.dst.refcount = Function.update t.src.refcount m n)
    (hn : n = Reflected.step (t.src.refcount m) t.label.weight) :
    Lts.Matches Reflected.system (fun dev => dev.refcount mode) (fun t => countStep hw mode t.label) t := by
  simp only [Lts.Matches, countStep, hm, hcount, Option.some.injEq]
  by_cases hmode : m = mode
  · subst hmode
    simp [Reflected.system, hn]
  · simp [hmode, Function.update_of_ne (Ne.symm hmode)]

/-- A call moves the counter of its mode by one step of the walk, and no other counter. -/
theorem matches_count {hw : AudioHw} {enableRc : ℕ → Int} (mode : TfaMode) {t : Lts.Transition AmpDevice AmpCall} {rc : Int}
    (hn : t.src.Counted) (h : AmpStep hw enableRc t.src t.label rc t.dst) :
    Lts.Matches Reflected.system (fun dev => dev.refcount mode) (fun t => countStep hw mode t.label) t := by
  obtain ⟨dev, call, dev'⟩ := t
  simp only at hn h
  cases h with
  | ignored hm => simp [Lts.Matches, countStep, hm]
  | countUp m hm he _ =>
    have h0 := hn m
    refine matches_of_update hm rfl ?_
    simp only [Reflected.step, AmpCall.weight, he, if_true]
    omega
  | powerOn m rc hm he _ h0 _ =>
    refine matches_of_update hm rfl ?_
    simp only [Reflected.step, AmpCall.weight, he, if_true]
    omega
  | countDown m n hm he _ hle hdown =>
    refine matches_of_update hm rfl ?_
    simp only [Reflected.step, AmpCall.weight, he, Bool.false_eq_true, if_false]
    omega
  | powerOff m rc hm he _ hle _ =>
    refine matches_of_update hm rfl ?_
    simp only [Reflected.step, AmpCall.weight, he, Bool.false_eq_true, if_false]
    omega

/-- After a run the counter of a mode is where the walk over the calls of that mode ends. -/
theorem refcount_of_run {hw : AudioHw} {enableRc : ℕ → Int} {tfaDev : TfaDevice} {calls : List AmpCall} {dev : AmpDevice}
    (hrun : (ampSystem hw enableRc).run (ampInit tfaDev) calls = some dev) (mode : TfaMode) :
    dev.refcount mode = Reflected.walk 0 ((ofMode hw mode calls).map AmpCall.weight) := by
  have hwalk := Lts.run_refines_label (T := Reflected.system) (C := fun _ => True) (f := fun dev => dev.refcount mode)
    (g := countStep hw mode) ?step calls (counted_ampInit tfaDev) (fun _ _ => trivial) hrun
  case step =>
    intro t ht _ hn
    obtain ⟨rc, -, hstep⟩ := ampStep_of_steps ht hn
    exact ⟨counted_ampStep hn hstep, matches_count mode hn hstep⟩
  rw [filterMap_countStep, Reflected.run_system] at hwalk
  exact (Option.some.inj hwalk).symm

/-- What the counter of a mode says about the calls of that mode. -/
structure CountsUsers (calls : List AmpCall) (n : Int) : Prop where
  /-- It is the greatest balance of a suffix of them, the empty one included. -/
  greatest : IsGreatest {b | ∃ s, s <:+ calls ∧ balance s = b} n
  nonneg : 0 ≤ n
  /-- It is the number of uses that are outstanding, if no disable came when there was none. -/
  outstanding : (∀ p, p <+: calls → 0 ≤ balance p) → n = balance calls

/-- Where the walk over the calls ends. -/
theorem countsUsers_walk (calls : List AmpCall) : CountsUsers calls (Reflected.walk 0 (calls.map AmpCall.weight)) := by
  have hgreatest : IsGreatest {b | ∃ s, s <:+ calls ∧ balance s = b} (Reflected.walk 0 (calls.map AmpCall.weight)) := by
    obtain ⟨⟨s, hs, hsum⟩, hmax⟩ := Reflected.isGreatest_walk (calls.map AmpCall.weight)
    constructor
    · obtain ⟨u, hu, rfl⟩ := List.suffix_map_iff.1 hs
      exact ⟨u, hu, by rw [balance_eq, hsum]⟩
    · rintro n ⟨s, hs, rfl⟩
      rw [balance_eq]
      exact hmax ⟨s.map AmpCall.weight, hs.map _, rfl⟩
  constructor
  case greatest => exact hgreatest
  case nonneg => exact hgreatest.2 ⟨[], List.nil_suffix, rfl⟩
  case outstanding =>
    intro h
    rw [balance_eq]
    refine Reflected.walk_of_prefixes ?_
    intro p hp
    obtain ⟨q, hq, rfl⟩ := List.prefix_map_iff.1 hp
    rw [← balance_eq]
    exact h q hq

theorem countsUsers_of_run {hw : AudioHw} {enableRc : ℕ → Int} {tfaDev : TfaDevice} {calls : List AmpCall} {dev : AmpDevice}
    (hrun : (ampSystem hw enableRc).run (ampInit tfaDev) calls = some dev) (mode : TfaMode) :
    CountsUsers (ofMode hw mode calls) (dev.refcount mode) := by
  rw [refcount_of_run hrun mode]
  exact countsUsers_walk _

/-! ## When a run has a result -/

/-- No stretch of the calls of one mode has more than `INT_MAX` enables above its disables. -/
def NoOverflow (hw : AudioHw) (calls : List AmpCall) : Prop :=
  ∀ mode s, s <:+: ofMode hw mode calls → balance s ≤ INT_MAX

/-- A call is defined unless it raises a counter that is at `INT_MAX`. -/
theorem exists_step_iff (hw : AudioHw) (enableRc : ℕ → Int) (dev : AmpDevice) (call : AmpCall) :
    (∃ dev', (ampSystem hw enableRc).step dev call = some dev') ↔
      ∀ mode, hw.classifySndDevice call.devices = some mode → call.enable = true → dev.refcount mode < INT_MAX := by
  rw [← Option.isSome_iff_exists]
  simp only [ampSystem, ampEnableOutputDevices, updateRefcount]
  cases hm : hw.classifySndDevice call.devices with
  | none => simp
  | some mode =>
    cases he : call.enable with
    | true => by_cases hlt : dev.refcount mode < INT_MAX <;> simp [hlt]
    | false => by_cases hpos : dev.refcount mode > 0 <;> simp [hpos]

/-- One more call keeps every stretch in the range exactly if it does not raise a counter that is at `INT_MAX`. -/
theorem CountsUsers.concat_le {calls : List AmpCall} {n : Int} (h : CountsUsers calls n)
    (hle : ∀ s, s <:+: calls → balance s ≤ INT_MAX) (call : AmpCall) :
    (∀ s, s <:+: calls ++ [call] → balance s ≤ INT_MAX) ↔ (call.enable = true → n < INT_MAX) := by
  constructor
  · intro hall he
    obtain ⟨s, hs, hsum⟩ := h.greatest.1
    have hlast := hall (s ++ [call]) (List.suffix_concat_iff.2 (Or.inr ⟨s, rfl, hs⟩)).isInfix
    rw [balance_concat, AmpCall.weight, if_pos he] at hlast
    omega
  · intro hlt s hs
    rcases List.infix_concat_iff.1 hs with hs | hs
    case inr => exact hle s hs
    rcases List.suffix_concat_iff.1 hs with rfl | ⟨u, rfl, hu⟩
    · decide
    · -- the stretch ends with this call: before it, the counter bounds what it has counted
      have hcount := h.greatest.2 ⟨u, hu, rfl⟩
      have hbefore := hle u hu.isInfix
      rw [balance_concat]
      unfold AmpCall.weight
      cases he : call.enable with
      | true =>
        have := hlt he
        simp only [if_true]
        omega
      | false =>
        simp only [Bool.false_eq_true, if_false]
        omega

/-- The calls of a list can all be made, one after the other, exactly if no counter would leave its range. -/
theorem exists_run_iff (hw : AudioHw) (enableRc : ℕ → Int) (tfaDev : TfaDevice) (calls : List AmpCall) :
    (∃ dev, (ampSystem hw enableRc).run (ampInit tfaDev) calls = some dev) ↔ NoOverflow hw calls := by
  induction calls using List.reverseRecOn with
  | nil =>
    refine iff_of_true ⟨_, rfl⟩ ?_
    intro mode s hs
    rw [List.infix_nil.1 hs]
    decide
  | append_singleton calls call ih =>
    simp only [Lts.run_concat, Option.bind_eq_some_iff]
    constructor
    · intro h
      obtain ⟨dev', dev, hrun, hstep⟩ := h
      have hno := ih.1 ⟨dev, hrun⟩
      have hlt := (exists_step_iff hw enableRc dev call).1 ⟨dev', hstep⟩
      intro mode s hs
      rw [ofMode_concat] at hs
      split at hs
      case isTrue hm => exact ((countsUsers_of_run hrun mode).concat_le (hno mode) call).2 (hlt mode hm) s hs
      case isFalse =>
        rw [List.append_nil] at hs
        exact hno mode s hs
    · intro hno
      have hpre : NoOverflow hw calls := by
        intro mode s hs
        refine hno mode s (hs.trans ?_)
        rw [ofMode_concat]
        exact (List.prefix_append _ _).isInfix
      obtain ⟨dev, hrun⟩ := ih.2 hpre
      have hlt : ∀ mode, hw.classifySndDevice call.devices = some mode → call.enable = true →
          dev.refcount mode < INT_MAX := by
        intro mode hm
        refine ((countsUsers_of_run hrun mode).concat_le (hpre mode) call).1 ?_
        intro s hs
        refine hno mode s ?_
        rw [ofMode_concat, if_pos hm]
        exact hs
      obtain ⟨dev', hstep⟩ := (exists_step_iff hw enableRc dev call).2 hlt
      exact ⟨dev', dev, hrun, hstep⟩

/-- What the counters are after a run of `amp_enable_output_devices`, whatever the vendor's codes are.
1. The calls of a list all have a result exactly if no counter would exceed `INT_MAX`.
2. Then the counter of each mode counts the calls of that mode, in closed form.
3. It is the same after every other run, from any device `amp_module_open` returns and with any codes of the vendor, whose
   calls of that mode enable and disable in the same order. -/
theorem refcount_closed_form (hw : AudioHw) (enableRc : ℕ → Int) (tfaDev : TfaDevice) (calls : List AmpCall) :
    ((∃ dev, (ampSystem hw enableRc).run (ampInit tfaDev) calls = some dev) ↔ NoOverflow hw calls) ∧
    ∀ dev, (ampSystem hw enableRc).run (ampInit tfaDev) calls = some dev → ∀ mode,
      CountsUsers (ofMode hw mode calls) (dev.refcount mode) ∧
      ∀ enableRc' tfaDev' calls' dev', (ampSystem hw enableRc').run (ampInit tfaDev') calls' = some dev' →
        (ofMode hw mode calls').map AmpCall.enable = (ofMode hw mode calls).map AmpCall.enable →
        dev'.refcount mode = dev.refcount mode := by
  refine ⟨exists_run_iff hw enableRc tfaDev calls, ?_⟩
  intro dev hrun mode
  refine ⟨countsUsers_of_run hrun mode, ?_⟩
  intro enableRc' tfaDev' calls' dev' hrun' hsame
  have hweights : (ofMode hw mode calls').map AmpCall.weight = (ofMode hw mode calls).map AmpCall.weight := by
    have hweight : ∀ calls : List AmpCall,
        calls.map AmpCall.weight = (calls.map AmpCall.enable).map fun enable => if enable then 1 else -1 := by
      intro calls
      rw [List.map_map]
      rfl
    rw [hweight, hweight, hsame]
  rw [refcount_of_run hrun mode, refcount_of_run hrun' mode, hweights]

/-- Music with a surplus disable, once alone on a vendor library that works, once among calls of voice on one that fails. -/
theorem refcount_closed_form_surplus :
    ∃ dev dev',
      (ampSystem .sample (fun _ => 0)).run (ampInit .sample) [⟨2, false⟩, ⟨2, true⟩, ⟨2, true⟩, ⟨2, false⟩] = some dev ∧
      (ampSystem .sample (fun _ => 7)).run (ampInit .sample)
        [⟨11, true⟩, ⟨2, false⟩, ⟨2, true⟩, ⟨3, true⟩, ⟨12, false⟩, ⟨2, true⟩, ⟨2, false⟩] = some dev' ∧
      CountsUsers [⟨2, false⟩, ⟨2, true⟩, ⟨2, true⟩, ⟨2, false⟩] (dev.refcount .musicNormal) ∧
      dev'.refcount .musicNormal = dev.refcount .musicNormal := by
  obtain ⟨dev, hrun⟩ : ∃ dev, (ampSystem .sample (fun _ => 0)).run (ampInit .sample)
      [⟨2, false⟩, ⟨2, true⟩, ⟨2, true⟩, ⟨2, false⟩] = some dev := Option.isSome_iff_exists.1 (by decide +kernel)
  obtain ⟨dev', hrun'⟩ : ∃ dev', (ampSystem .sample (fun _ => 7)).run (ampInit .sample)
      [⟨11, true⟩, ⟨2, false⟩, ⟨2, true⟩, ⟨3, true⟩, ⟨12, false⟩, ⟨2, true⟩, ⟨2, false⟩] = some dev' :=
    Option.isSome_iff_exists.1 (by decide +kernel)
  obtain ⟨hcounts, hsame⟩ := (refcount_closed_form .sample (fun _ => 0) .sample _).2 dev hrun .musicNormal
  exact ⟨dev, dev', hrun, hrun', hcounts, hsame _ _ _ dev' hrun' (by decide +kernel)⟩

end Universal7880
