import Universal7880.AmpThreads
import Universal7880.Lemmas.AmpStep
import Universal7880.Theorems.ClockProgress
import Universal7880.Theorems.ClockRefinement

/-!
# The amplifier HAL, from the threads to its callers

`hal_refines` puts the two levels of the amplifier together: on the threads, with their locks, signals and joins, the calls of
`amp_enable_output_devices` return what they return on the device as one thread sees it, so that whatever holds of the runs of
`ampSystem` holds of the counters and the power state here. `hal_call_returns` says that they do return.
-/

namespace Universal7880

open Clock

/-! ## The callers of `tfa_power` -/

/-- A step that is no call of `tfa_power` lets a caller return, or leaves it where it is or on its way. -/
theorem Clock.Inv.caller_step {s s' : Clock} {e : ClockLabel} (hi : s.Inv) (hstep : s.step e = some s')
    (hcall : e.calls = false) {c : CallerId} (hbusy : (s.caller c).pc ≠ .idle) :
    e = .caller c ∧ (s.caller c).pc = .unlockTfa ∧ s'.caller c = { s.caller c with pc := .idle } ∨
      ¬ (e = .caller c ∧ (s.caller c).pc = .unlockTfa) ∧ (s'.caller c).pc ≠ .idle ∧
        (s'.caller c).on = (s.caller c).on := by
  have hsame : s'.caller c = s.caller c → (s'.caller c).pc ≠ .idle ∧ (s'.caller c).on = (s.caller c).on := by
    intro heq
    exact ⟨heq ▸ hbusy, by rw [heq]⟩
  cases e with
  | call d on => cases hcall
  | writer w outcome =>
    refine Or.inr ⟨fun h => ?_, ?_⟩
    · cases h.1
    · rcases hi.caller_of_writer hstep c with heq | ⟨-, heq⟩
      · exact hsame heq
      · rw [heq]
        simp
  | caller d =>
    by_cases hd : c = d
    · subst hd
      change s.stepCaller c = some s' at hstep
      by_cases hpc : (s.caller c).pc = .unlockTfa
      · simp only [Clock.stepCaller, hpc, Option.some.injEq] at hstep
        subst hstep
        exact Or.inl ⟨rfl, hpc, by simp⟩
      · refine Or.inr ⟨fun h => hpc h.2, ?_⟩
        unfold Clock.stepCaller at hstep
        cases hp : (s.caller c).pc
        case unlockTfa => exact absurd hp hpc
        all_goals simp only [hp, reduceCtorEq] at hstep
        all_goals try split at hstep
        all_goals simp only [Option.some.injEq, reduceCtorEq] at hstep
        all_goals subst hstep
        all_goals simp
        all_goals try split <;> simp
    · exact Or.inr ⟨fun h => hd (ClockLabel.caller.inj h.1).symm, hsame (caller_of_step hstep rfl hd)⟩
  | created d | createFailed d _ | enabled d _ _ | spurious d =>
    refine Or.inr ⟨fun h => ?_, ?_⟩
    · cases h.1
    · by_cases hd : c = d
      · subst hd
        simp only [Clock.step, stepCreated_eq_some, stepCreateFailed_eq_some, stepEnabled_eq_some,
          stepSpurious_eq_some] at hstep
        obtain ⟨-, rfl⟩ := hstep
        simp
      · exact hsame (caller_of_step hstep rfl hd)

/-! ## The link between the levels -/

namespace AmpThreads

variable {hw : AudioHw}

/-- The call of the HAL under way is the one in `tfa_power`, with its argument and for the reason that it found; no other caller
is there. -/
structure Linked (hw : AudioHw) (s : AmpThreads) : Prop where
  idle : ∀ c, (∀ p, s.pending = some p → p.thread ≠ c) → (s.clock.caller c).pc = .idle
  busy : ∀ p, s.pending = some p → (s.clock.caller p.thread).pc ≠ .idle ∧ (s.clock.caller p.thread).on = p.call.enable
  reason : ∀ p, s.pending = some p → ∃ mode, hw.classifySndDevice p.call.devices = some mode ∧
    updateRefcount p.found mode p.call.enable = some s.refcount ∧
    callsPower s.ampState s.refcount mode p.call.enable = true

/-- The device as the callers of the HAL see it: while a call is in `tfa_power`, with the counters that it found. -/
def seen (d : TfaDevice) (s : AmpThreads) : AmpDevice where
  tfaDev := s.clock.seen d
  refcount := (s.pending.map AmpPending.found).getD s.refcount
  ampState := s.ampState

/-- The call of the HAL that returns with this step, and its code. -/
def returned (t : Lts.Transition AmpThreads AmpThreadsLabel) : Option (AmpCall × Int) :=
  match t.label, t.src.pending, t.dst.pending with
  | .call _ call, _, none => some (call, 0)
  | .thread _, some p, none => some (p.call, (t.dst.clock.caller p.thread).rc)
  | _, _, _ => none

/-- What the threads do under a step of the HAL. -/
def inner (t : Lts.Transition AmpThreads AmpThreadsLabel) (P : Lts.Transition Clock ClockLabel → Prop) : Prop :=
  ∀ label, t.label = .thread label → P ⟨t.src.clock, label, t.dst.clock⟩

end AmpThreads

open AmpThreads

/-- The power half of `amp_enable_output_devices`, in terms of its test. -/
theorem updatePower_eq (enableRc : ℕ → Int) (dev : AmpDevice) (mode : TfaMode) (enable : Bool) :
    updatePower enableRc dev mode enable =
      if callsPower dev.ampState dev.refcount mode enable = true then
        ((tfaPower enableRc dev.tfaDev enable).1,
          { dev with
            tfaDev := (tfaPower enableRc dev.tfaDev enable).2
            ampState := if (tfaPower enableRc dev.tfaDev enable).1 = 0 then (if enable then .enabled else .disabled)
              else dev.ampState })
      else (0, dev) := by
  cases enable <;> simp [updatePower, callsPower]

/-! ## One step -/

namespace AmpThreads

/-- What a call of the HAL does on its thread. -/
theorem stepCall_cases {s s' : AmpThreads} {c : CallerId} {call : AmpCall} (h : s.stepCall hw c call = some s') :
    s.pending = none ∧ (hw.classifySndDevice call.devices = none ∧ s' = s ∨
      ∃ mode refcount, hw.classifySndDevice call.devices = some mode ∧
        updateRefcount s.refcount mode call.enable = some refcount ∧
        (callsPower s.ampState refcount mode call.enable = true ∧ (∃ clock, s.clock.stepCall c call.enable = some clock ∧
            s' = { s with refcount, clock, pending := some ⟨c, call, s.refcount⟩ }) ∨
          callsPower s.ampState refcount mode call.enable = false ∧ s' = { s with refcount })) := by
  unfold stepCall at h
  split_ifs at h with hsome
  refine ⟨by simpa using hsome, ?_⟩
  cases hmode : hw.classifySndDevice call.devices with
  | none =>
    rw [hmode] at h
    exact Or.inl ⟨rfl, (Option.some.inj h).symm⟩
  | some mode =>
    simp only [hmode] at h
    obtain ⟨refcount, hcount, h⟩ := Option.bind_eq_some_iff.1 h
    refine Or.inr ⟨mode, refcount, rfl, hcount, ?_⟩
    split_ifs at h with hpower
    · obtain ⟨clock, hclock, rfl⟩ := Option.map_eq_some_iff.1 h
      exact Or.inl ⟨hpower, clock, hclock, rfl⟩
    · exact Or.inr ⟨Bool.eq_false_iff.2 hpower, (Option.some.inj h).symm⟩

/-- What a step of the threads does to the HAL. -/
theorem stepThread_cases {s s' : AmpThreads} {label : ClockLabel} (h : s.stepThread label = some s') :
    label.calls = false ∧ ∃ clock, s.clock.step label = some clock ∧
      ((∃ p, s.pending = some p ∧ (clock.caller p.thread).pc = .idle ∧ s' = ({ s with clock } : AmpThreads).returns p) ∨
        (∀ p, s.pending = some p → (clock.caller p.thread).pc ≠ .idle) ∧ s' = { s with clock }) := by
  unfold stepThread at h
  split_ifs at h with hcall
  obtain ⟨clock, hclock, rfl⟩ := Option.map_eq_some_iff.1 h
  refine ⟨Bool.eq_false_iff.2 hcall, clock, hclock, ?_⟩
  cases hp : s.pending with
  | none =>
    refine Or.inr ⟨fun p h => ?_, rfl⟩
    cases h
  | some p =>
    by_cases hidle : (clock.caller p.thread).pc = .idle
    · exact Or.inl ⟨p, rfl, hidle, by simp [hidle]⟩
    · refine Or.inr ⟨fun p' h => ?_, by simp [hidle]⟩
      obtain rfl := Option.some.inj h
      exact hidle

/-- On a device with no call under way there is nothing to link. -/
theorem linked_of_init {s : AmpThreads} (hs : (ampThreads hw).init s) : Linked hw s := by
  obtain ⟨hclock, -, -, hpending⟩ := hs
  refine ⟨fun c _ => by rw [hclock.caller c], ?_, ?_⟩ <;> simp [hpending]

/-- The link is kept. -/
theorem linked_step (t : Lts.Transition AmpThreads AmpThreadsLabel) (ht : (ampThreads hw).Steps t) (hi : t.src.clock.Inv)
    (h : Linked hw t.src) : Linked hw t.dst := by
  rcases t with ⟨s, label, s'⟩
  cases label with
  | call c call =>
    obtain ⟨hnone, ⟨-, rfl⟩ | ⟨mode, refcount, hmode, hcount, ⟨hpower, clock, hclock, rfl⟩ | ⟨-, rfl⟩⟩⟩ :=
      stepCall_cases (show s.stepCall hw c call = some s' from ht)
    · exact h
    · have hothers : ∀ d, d ≠ c → clock.caller d = s.clock.caller d :=
        fun d hd => caller_of_step (e := .call c call.enable) hclock rfl hd
      obtain ⟨-, rfl⟩ := stepCall_eq_some.1 hclock
      constructor
      · intro d hd
        have hne : d ≠ c := fun he => hd _ rfl he.symm
        rw [hothers d hne]
        exact h.idle d (fun p hp => by rw [hnone] at hp; cases hp)
      · intro p hp
        obtain rfl := Option.some.inj hp
        simp
      · intro p hp
        obtain rfl := Option.some.inj hp
        exact ⟨mode, hmode, hcount, hpower⟩
    · refine ⟨h.idle, h.busy, ?_⟩
      intro p hp
      rw [hnone] at hp
      cases hp
  | thread label =>
    obtain ⟨hcall, clock, hclock, ⟨p, hp, hidle, rfl⟩ | ⟨hbusy, rfl⟩⟩ :=
      stepThread_cases (show s.stepThread label = some s' from ht)
    · refine ⟨fun c _ => ?_, fun p hp => ?_, fun p hp => ?_⟩
      · by_cases hc : p.thread = c
        · exact hc ▸ hidle
        · refine Opening.idle_of_step hi hclock hcall (h.idle c ?_)
          intro p' hp'
          obtain rfl := Option.some.inj (hp.symm.trans hp')
          exact hc
      · cases hp
      · cases hp
    · refine ⟨fun c hc => Opening.idle_of_step hi hclock hcall (h.idle c hc), ?_, h.reason⟩
      intro p hp
      rcases hi.caller_step hclock hcall (h.busy p hp).1 with ⟨-, -, heq⟩ | ⟨-, hpc, hon⟩
      · exact absurd (by rw [heq]) (hbusy p hp)
      · exact ⟨hpc, hon.trans (h.busy p hp).2⟩

/-- The clock takes a step under each step of the HAL, or stays as it is. -/
theorem clock_of_step {t : Lts.Transition AmpThreads AmpThreadsLabel} (ht : (ampThreads hw).Steps t) :
    t.dst.clock = t.src.clock ∨
      ∃ label, t.src.clock.step label = some t.dst.clock ∧ (t.label = .thread label ∨ label.calls = true) := by
  rcases t with ⟨s, label, s'⟩
  cases label with
  | call c call =>
    obtain ⟨-, ⟨-, rfl⟩ | ⟨mode, refcount, -, -, ⟨-, clock, hclock, rfl⟩ | ⟨-, rfl⟩⟩⟩ :=
      stepCall_cases (show s.stepCall hw c call = some s' from ht)
    · exact Or.inl rfl
    · exact Or.inr ⟨.call c call.enable, hclock, Or.inr rfl⟩
    · exact Or.inl rfl
  | thread label =>
    obtain ⟨-, clock, hclock, ⟨p, -, -, rfl⟩ | ⟨-, rfl⟩⟩ :=
      stepThread_cases (show s.stepThread label = some s' from ht)
    · exact Or.inr ⟨label, hclock, Or.inl rfl⟩
    · exact Or.inr ⟨label, hclock, Or.inl rfl⟩

/-- The invariants of the two levels. -/
structure Sound (hw : AudioHw) (enableRc : ℕ → Int) (s : AmpThreads) : Prop where
  inv : s.clock.Inv
  recorded : s.clock.Recorded enableRc
  linked : Linked hw s

/-- Every step in which no creation fails while `writing` is set keeps them. -/
theorem Sound.step {enableRc : ℕ → Int} {t : Lts.Transition AmpThreads AmpThreadsLabel} (h : Sound hw enableRc t.src)
    (ht : (ampThreads hw).Steps t) (hc : inner t fun t => Harmless t ∧ Answers enableRc t) : Sound hw enableRc t.dst := by
  have hlinked := linked_step t ht h.inv h.linked
  rcases clock_of_step ht with heq | ⟨label, hclock, hlabel⟩
  · exact ⟨heq ▸ h.inv, heq ▸ h.recorded, hlinked⟩
  · have hfine : Harmless ⟨t.src.clock, label, t.dst.clock⟩ ∧ Answers enableRc ⟨t.src.clock, label, t.dst.clock⟩ := by
      rcases hlabel with hlabel | hcalls
      · exact hc label hlabel
      · constructor
        · rintro c left rfl
          cases hcalls
        · rintro c rc a1 rfl
          cases hcalls
    have hrec := (recorded_step ⟨0, 0, 0, []⟩ ⟨t.src.clock, label, t.dst.clock⟩ hclock hfine ⟨h.inv, h.recorded⟩).1
    exact ⟨hrec.1, hrec.2, hlinked⟩

/-- A step of the threads that no caller returns with is none for the callers. -/
theorem seen_of_not_returned {enableRc : ℕ → Int} {s s' : Clock} {label : ClockLabel} (d : TfaDevice)
    (hstep : s.step label = some s') (hc : Harmless ⟨s, label, s'⟩ ∧ Answers enableRc ⟨s, label, s'⟩)
    (h : s.Inv ∧ s.Recorded enableRc) (hnot : ∀ c, ¬ (label = .caller c ∧ (s.caller c).pc = .unlockTfa)) :
    s'.seen d = s.seen d := by
  have hmatch := (recorded_step d ⟨s, label, s'⟩ hstep hc h).2
  have hnone : Clock.returned ⟨s, label, s'⟩ = none := by
    cases label with
    | caller c => simpa [Clock.returned] using fun hpc => hnot c ⟨rfl, hpc⟩
    | _ => rfl
  unfold Lts.Matches at hmatch
  rw [hnone] at hmatch
  exact hmatch

/-- A step of the threads that a caller returns with is its call of `tfaPower`. -/
theorem tfaPower_of_returned {enableRc : ℕ → Int} {s s' : Clock} {c : CallerId} (d : TfaDevice)
    (hstep : s.step (.caller c) = some s') (hc : Harmless ⟨s, .caller c, s'⟩ ∧ Answers enableRc ⟨s, .caller c, s'⟩)
    (h : s.Inv ∧ s.Recorded enableRc) (hpc : (s.caller c).pc = .unlockTfa) :
    tfaPower enableRc (s.seen d) (s.caller c).on = ((s.caller c).rc, s'.seen d) := by
  have hmatch := (recorded_step d ⟨s, .caller c, s'⟩ hstep hc h).2
  have hsome : Clock.returned ⟨s, .caller c, s'⟩ = some ⟨(s.caller c).on, (s.caller c).rc⟩ := by
    simp [Clock.returned, hpc]
  unfold Lts.Matches at hmatch
  rw [hsome] at hmatch
  simp only [powerSystem, Option.ite_none_right_eq_some, Option.some.injEq] at hmatch
  exact Prod.ext hmatch.1 hmatch.2

/-- A step returns from a call of the HAL as the call returns for one thread, or changes nothing its callers see. -/
theorem hal_step {enableRc : ℕ → Int} (d : TfaDevice) (t : Lts.Transition AmpThreads AmpThreadsLabel)
    (ht : (ampThreads hw).Steps t) (hc : inner t fun t => Harmless t ∧ Answers enableRc t) (h : Sound hw enableRc t.src) :
    Sound hw enableRc t.dst ∧ Lts.Matches (ampCalls hw enableRc) (seen d) AmpThreads.returned t := by
  refine ⟨h.step ht hc, ?_⟩
  rcases t with ⟨s, label, s'⟩
  cases label with
  | call c call =>
    obtain ⟨hnone, ⟨hmode, rfl⟩ | ⟨mode, refcount, hmode, hcount, ⟨hpower, clock, hclock, rfl⟩ | ⟨hpower, rfl⟩⟩⟩ :=
      stepCall_cases (show s.stepCall hw c call = some s' from ht)
    · simp [Lts.Matches, returned, hnone, ampCalls, ampEnableOutputDevices, hmode]
    · obtain ⟨-, rfl⟩ := stepCall_eq_some.1 hclock
      simp [Lts.Matches, returned, seen, hnone, Clock.seen]
    · have hcall : ampEnableOutputDevices hw enableRc ⟨s.clock.seen d, s.refcount, s.ampState⟩ call =
          some (0, ⟨s.clock.seen d, refcount, s.ampState⟩) := by
        simp [ampEnableOutputDevices, hmode, hcount, updatePower_eq, hpower]
      simp [Lts.Matches, returned, hnone, ampCalls, hcall, seen]
  | thread label =>
    have hfine := hc label rfl
    obtain ⟨hcall, clock, hclock, ⟨p, hp, hidle, rfl⟩ | ⟨hbusy, rfl⟩⟩ :=
      stepThread_cases (show s.stepThread label = some s' from ht)
    · obtain ⟨mode, hmode, hcount, hpower⟩ := h.linked.reason p hp
      obtain ⟨hbusy, hon⟩ := h.linked.busy p hp
      rcases h.inv.caller_step hclock hcall hbusy with ⟨rfl, hpc, heq⟩ | ⟨-, hpc, -⟩
      · have hpowered := tfaPower_of_returned d hclock hfine ⟨h.inv, h.recorded⟩ hpc
        rw [hon] at hpowered
        have hcall : ampEnableOutputDevices hw enableRc ⟨s.clock.seen d, p.found, s.ampState⟩ p.call =
            some ((s.clock.caller p.thread).rc, ⟨clock.seen d, s.refcount,
              if (s.clock.caller p.thread).rc = 0 then (if p.call.enable then .enabled else .disabled) else s.ampState⟩) := by
          simp [ampEnableOutputDevices, hmode, hcount, updatePower_eq, hpower, hpowered]
        simp [Lts.Matches, returned, hp, returns, ampCalls, hcall, seen, heq]
      · exact absurd hidle hpc
    · have hsame : clock.seen d = s.clock.seen d := by
        refine seen_of_not_returned d hclock hfine ⟨h.inv, h.recorded⟩ ?_
        rintro c ⟨rfl, hpc⟩
        -- the caller that returns would be the one of the call of the HAL, which has not returned
        have hnone : ∀ p, s.pending = some p → p.thread ≠ c := by
          rintro p hp rfl
          rcases h.inv.caller_step hclock hcall (h.linked.busy p hp).1 with ⟨-, -, heq⟩ | ⟨hnot, -⟩
          · exact hbusy p hp (by rw [heq])
          · exact hnot ⟨rfl, hpc⟩
        have hidle := h.linked.idle c hnone
        rw [hpc] at hidle
        cases hidle
      cases hp : s.pending <;> simp [Lts.Matches, returned, hp, seen, hsame]

end AmpThreads

/-- On the threads, `amp_enable_output_devices` is what it is for one thread: in a run of the HAL and its threads in which no
creation fails while `writing` is set and the vendor's codes are the sequence `enableRc`, the calls that have returned, in
order and with their codes, are a run of `ampEnableOutputDevices` from the device that `amp_module_open` returns, and it ends
in the counters and the power state of the device. -/
theorem hal_refines (hw : AudioHw) {enableRc : ℕ → Int} {s u : AmpThreads} (hs : (ampThreads hw).init s)
    (es : List AmpThreadsLabel)
    (hC : (ampThreads hw).Always s es (fun t => inner t fun t => Harmless t ∧ Answers enableRc t))
    (hrun : (ampThreads hw).run s es = some u) (d : TfaDevice) :
    (ampCalls hw enableRc).run (ampInit { d with calls := [] }) (((ampThreads hw).trace s es).filterMap AmpThreads.returned) =
      some (u.seen d) := by
  have hlinked := linked_of_init hs
  obtain ⟨hclock, hrefcount, hstate, hpending⟩ := hs
  have hrecorded : s.clock.Inv ∧ s.clock.Recorded enableRc := recorded_of_init hclock
  have hsound : Sound hw enableRc s := ⟨hrecorded.1, hrecorded.2, hlinked⟩
  have hrefines := Lts.run_refines (J := Sound hw enableRc) (hal_step d) es hsound hC hrun
  have hstart : s.seen d = ampInit { d with calls := [] } := by
    simp [AmpThreads.seen, Clock.seen, ampInit, hclock.returns, hpending, hrefcount, hstate]
  rwa [hstart] at hrefines

/-- The HAL on an initialised device. -/
def AmpThreads.powered : AmpThreads := ⟨fun _ => 0, .disabled, .powered, none⟩

theorem AmpThreads.init_powered : (ampThreads .sample).init .powered := ⟨Clock.initialised_powered, rfl, rfl, rfl⟩

/-- No creation fails, and the vendor's codes are zero. -/
def AmpThreadsLabel.succeeds : AmpThreadsLabel → Bool
  | .call _ _ => true
  | .thread label => label.succeeds

/-- One thread switches the speaker on, and another one switches it off. -/
def speakerOnOff : List AmpThreadsLabel :=
  .call 0 ⟨2, true⟩ :: (session 0 0).map .thread ++ .call 1 ⟨2, false⟩ :: (powerdown 1).map .thread

/-- The two calls, as one thread sees them. -/
theorem hal_refines_speaker :
    ((ampThreads .sample).trace .powered speakerOnOff).filterMap AmpThreads.returned = [(⟨2, true⟩, 0), (⟨2, false⟩, 0)] ∧
      ∃ u, (ampThreads .sample).run .powered speakerOnOff = some u ∧
        (ampCalls .sample fun _ => 0).run (ampInit .sample)
          (((ampThreads .sample).trace .powered speakerOnOff).filterMap AmpThreads.returned) = some (u.seen .sample) := by
  have hrun : ((ampThreads .sample).run .powered speakerOnOff).isSome = true := by decide +kernel
  obtain ⟨u, hu⟩ := Option.isSome_iff_exists.1 hrun
  refine ⟨by decide +kernel, u, hu, ?_⟩
  refine hal_refines .sample AmpThreads.init_powered _ ?_ hu .sample
  have hall : ∀ e ∈ speakerOnOff, e.succeeds = true := by decide +kernel
  refine (Lts.Always.of_labels (P := fun e : AmpThreadsLabel => e.succeeds = true) hall).mono ?_
  intro t ht label hlabel
  rw [hlabel] at ht
  constructor
  · rintro c left rfl
    cases ht
  · rintro c rc a1 rfl
    exact of_decide_eq_true ht

/-! ## Progress -/

namespace AmpThreads

/-- A step of the threads that settles, in the HAL. -/
def Settles (t : Lts.Transition AmpThreads AmpThreadsLabel) : Prop :=
  ∃ label, t.label = .thread label ∧ Clock.Settles ⟨t.src.clock, label, t.dst.clock⟩

/-- What the threads can do, they can do in the HAL. -/
theorem exists_stepThread {s : AmpThreads} {clock : Clock} {label : ClockLabel} (hcall : label.calls = false)
    (hstep : s.clock.step label = some clock) : ∃ s', s.stepThread label = some s' ∧ s'.clock = clock := by
  refine ⟨_, by simp [stepThread, hcall, hstep]; rfl, ?_⟩
  split
  · rfl
  · split_ifs <;> rfl

/-- The threads of a reachable HAL are in a reachable state of their own, and linked to it. -/
theorem reachable_clock {s : AmpThreads} (h : (halHandshake hw).Reachable s) :
    handshake.Reachable s.clock ∧ Linked hw s := by
  refine Lts.Inductive.reachable (J := fun s => handshake.Reachable s.clock ∧ Linked hw s) ⟨?_, ?_⟩ h
  · exact fun s hs => ⟨.init hs.1, linked_of_init hs⟩
  · rintro t ht ⟨hreach, hlinked⟩
    obtain ⟨hcreates, hstep⟩ := Lts.steps_restrict.1 ht
    refine ⟨?_, linked_step t hstep (handshake_inductive.reachable hreach).1 hlinked⟩
    rcases clock_of_step hstep with heq | ⟨label, hclock, hlabel⟩
    · exact heq ▸ hreach
    · have hlabel : label.creates = true := by
        rcases hlabel with hlabel | hcalls
        · rwa [hlabel] at hcreates
        · cases label <;> first | rfl | cases hcalls
      exact hreach.step label ((Lts.steps_restrict (t := ⟨_, label, _⟩)).2 ⟨hlabel, hclock⟩)

end AmpThreads

/-- No call of `amp_enable_output_devices` is ever stuck when every `pthread_create` succeeds: from every reachable state of the
HAL and its threads, these can go on, with no other call, spurious wake-up or round, until the call under way has returned, in
no more than 48 steps. The threads are then at rest. -/
theorem hal_call_returns (hw : AudioHw) (s : AmpThreads) (h : (halHandshake hw).Reachable s) :
    ∃ es u, (halHandshake hw).run s es = some u ∧ (halHandshake hw).Always s es AmpThreads.Settles ∧ es.length ≤ 48 ∧
      u.pending = none ∧ u.clock.AtRest := by
  obtain ⟨hreach, hlinked⟩ := reachable_clock h
  let callers := (s.pending.map AmpPending.thread).toFinset
  have hbusy : ∀ c ∈ s.clock.busy, c ∈ callers := by
    intro c hc
    by_contra hnot
    refine hc (hlinked.idle c fun p hp he => hnot ?_)
    simp [callers, hp, he]
  obtain ⟨hinv, hbound⟩ := handshake_inductive.reachable hreach
  have hdrain : s.clock.Drainable callers := ⟨hinv, hbound, queue_of_reachable hreach, hbusy⟩
  have hprogress : ∀ s : AmpThreads, s.clock.Drainable callers ∧ Linked hw s → ¬ (∀ c, (s.clock.caller c).pc = .idle) →
      ∃ e t, (halHandshake hw).step s e = some t ∧ AmpThreads.Settles ⟨s, e, t⟩ ∧
        (t.clock.Drainable callers ∧ Linked hw t) ∧ t.clock.work callers < s.clock.work callers := by
    rintro s ⟨hs, hl⟩ hg
    obtain ⟨e, clock, hstep, hset, hclock, hless⟩ := hs.progress hg
    obtain ⟨hcreates, hstep⟩ := Lts.steps_restrict.1 (show handshake.Steps ⟨s.clock, e, clock⟩ from hstep)
    obtain ⟨t, ht, rfl⟩ := exists_stepThread (s := s) hset.1 hstep
    have hthread : (halHandshake hw).Steps ⟨s, .thread e, t⟩ := Lts.steps_restrict.2 ⟨hcreates, ht⟩
    exact ⟨.thread e, t, hthread, ⟨e, rfl, hset⟩, ⟨hclock, linked_step ⟨s, .thread e, t⟩ ht hs.inv hl⟩, hless⟩
  obtain ⟨es, u, hrun, ⟨hu, hl⟩, (hidle : ∀ c, (u.clock.caller c).pc = .idle), hset, hlen⟩ :=
    Lts.exists_run_to hprogress ⟨hdrain, hlinked⟩
  refine ⟨es, u, hrun, hset, ?_, ?_, hu.inv.atRest hidle⟩
  · have hcard : callers.card ≤ 1 := by
      cases hp : s.pending <;> simp [callers, hp]
    have hwork := hinv.work_le callers
    omega
  · by_contra hsome
    obtain ⟨p, hp⟩ := Option.ne_none_iff_exists'.1 hsome
    exact (hl.busy p hp).1 (hidle p.thread)

/-- The thread of a call is asleep in its session: the call returns. -/
theorem hal_call_returns_asleep :
    ∃ s, (halHandshake .sample).run .powered (.call 0 ⟨2, true⟩ :: (enterSession 0 ++ sleepSession 0).map .thread) = some s ∧
      s.pending.isSome = true ∧ (s.clock.caller 0).pc = .blocked ∧
      ∃ es u, (halHandshake .sample).run s es = some u ∧ u.pending = none := by
  have hrun : ((halHandshake .sample).run .powered
      (.call 0 ⟨2, true⟩ :: (enterSession 0 ++ sleepSession 0).map .thread)).map
        (fun s => (s.pending.isSome, (s.clock.caller 0).pc)) = some (true, .blocked) := by decide +kernel
  obtain ⟨s, hs, heq⟩ := Option.map_eq_some_iff.1 hrun
  obtain ⟨hpending, hpc⟩ := Prod.ext_iff.1 heq
  have hreach : (halHandshake .sample).Reachable .powered := .init AmpThreads.init_powered
  obtain ⟨es, u, hu, -, -, hnone, -⟩ := hal_call_returns .sample s (hreach.run _ hs)
  exact ⟨s, hs, hpending, hpc, es, u, hu, hnone⟩

end Universal7880
