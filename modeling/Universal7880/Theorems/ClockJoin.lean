import Universal7880.ClockOpen
import Universal7880.Lemmas.ClockEffect

/-!
# What `pthread_join` is given

`tfa_clock_off` joins whatever `write_thread` holds when `clock_enabled` is set. `clock_joins` says when that is the
thread its own call has created: `malloc` must have left `clock_enabled` false, which the first `tfa_power(false)` reads
before anything has set it, and no creation may fail while `writing` is set, since `tfa_clock_on` drops the result of
`pthread_create`.
-/

namespace Universal7880
namespace Opening

/-- Before the device is open only the thread that opens it is in `tfa_power`, and between its calls no thread is. -/
def Quiet (opener : CallerId) (s : Opening) : Prop :=
  s.pc ≠ .opened → ∀ c, c ≠ opener ∨ s.pc.between = true → (s.clock.caller c).pc = .idle

/-- A step of the threads that is no call leaves a caller outside `tfa_power` there. -/
theorem idle_of_step {s s' : Clock} {e : ClockLabel} {c : CallerId} (hi : s.Inv) (hstep : s.step e = some s')
    (hcall : e.calls = false) (hidle : (s.caller c).pc = .idle) : (s'.caller c).pc = .idle := by
  cases e with
  | call d on => cases hcall
  | writer w outcome =>
    rcases hi.caller_of_writer hstep c with heq | ⟨hpc, -⟩
    · rw [heq]
      exact hidle
    · rw [hidle] at hpc
      cases hpc
  | caller d | created d | createFailed d _ | enabled d _ _ | spurious d =>
    by_cases hd : c = d
    · subst hd
      simp [Clock.step, Clock.stepCaller, Clock.stepCreated, Clock.stepCreateFailed, Clock.stepEnabled,
        Clock.stepSpurious, hidle] at hstep
    · rw [Clock.caller_of_step hstep rfl hd]
      exact hidle

/-- Outside `tfa_power`, nobody holds `tfa_lock`. -/
theorem free_of_idle {s : Clock} (hi : s.Inv) (h : ∀ c, (s.caller c).pc = .idle) : s.tfaLock = none := by
  cases hl : s.tfaLock with
  | none => rfl
  | some c =>
    have := (hi.inside c).2 hl
    rw [h c] at this
    cases this

/-- `tfa_device_open` sets the clock fields while no thread is in `tfa_power`. -/
theorem inv_initClocks {s : Clock} (hi : s.Inv) (h : ∀ c, (s.caller c).pc = .idle) :
    Clock.Inv { s with writing := false, clockEnabled := false, mutex := none, cond := [] } := by
  have hl := free_of_idle hi h
  have hcore : s.Core {} := Clock.active_of_none hl ▸ hi.core
  constructor
  case inside => exact hi.inside
  case outside => exact hi.outside
  case born => exact hi.born
  case absent => exact hi.absent
  case ok => exact hi.ok
  case core =>
    rw [Clock.active_of_none (by exact hl)]
    exact {
      clockOn := nofun
      clock := rfl
      cond := rfl
      held := fun c => iff_of_false nofun (fun hc => absurd hc.2 (by simp))
      starting := nofun
      unborn := nofun
      rest := fun _ => ⟨(hcore.rest rfl).1, fun _ => nofun⟩
      session := nofun }

/-- A statement of `tfa_device_open` keeps the invariant of the handshake. -/
theorem inv_stepOpener {s s' : Opening} {opener : CallerId} (hi : s.clock.Inv) (hq : s.Quiet opener)
    (hstep : s.stepOpener opener = some s') : s'.clock.Inv ∧ s'.Quiet opener := by
  have hpower : ∀ on pc, s.pc ≠ .opened → s.power opener on pc = some s' → pc.between = false →
      s'.clock.Inv ∧ s'.Quiet opener := by
    intro on pc hpc h hbetween
    obtain ⟨clock, hcall, rfl⟩ := Option.map_eq_some_iff.1 h
    refine ⟨hi.stepCall hcall, ?_⟩
    intro _ c hc
    have hne : c ≠ opener := hc.resolve_right (by rw [hbetween]; nofun)
    rw [Clock.caller_of_step (e := .call opener on) hcall rfl hne]
    exact hq hpc c (Or.inl hne)
  have htested : ∀ pc, s.pc ≠ .opened → s.tested opener pc = some s' → s'.clock.Inv ∧ s'.Quiet opener := by
    intro pc hpc h
    unfold tested at h
    split at h
    case isFalse => cases h
    case isTrue hidle =>
      simp only [Option.some.injEq] at h
      subst h
      refine ⟨hi, ?_⟩
      intro _ c _
      by_cases hc : c = opener
      · exact hc ▸ hidle
      · exact hq hpc c (Or.inl hc)
  unfold stepOpener at hstep
  cases hpc : s.pc <;> simp only [hpc, reduceCtorEq] at hstep
  case initClocks =>
    simp only [Option.some.injEq] at hstep
    have hidle : ∀ c, (s.clock.caller c).pc = .idle := fun c => hq (by rw [hpc]; nofun) c (Or.inr (by rw [hpc]; rfl))
    subst hstep
    exact ⟨inv_initClocks hi hidle, fun _ c _ => hidle c⟩
  case powerdown | powerup | powerdown2 => exact hpower _ _ (by rw [hpc]; nofun) hstep rfl
  case powerdownRet | powerupRet | powerdown2Ret => exact htested _ (by rw [hpc]; nofun) hstep

/-! ## The joins -/

/-- A `pthread_join` names the thread that the `tfa_clock_on` of the same call has created, and that was not joined yet. -/
def JoinsOwn (t : Lts.Transition Opening OpenLabel) : Prop :=
  match t.label with
  | .thread (.caller c) =>
    (t.src.clock.caller c).pc = .join →
      (t.src.clock.caller c).mine = some t.src.clock.writeThread ∧ t.src.clock.joins t.src.clock.writeThread = 0
  | _ => True

/-- A creation fails only while `writing` is false: then its caller waits. -/
def FailsWaiting (t : Lts.Transition Opening OpenLabel) : Prop :=
  match t.label with
  | .thread (.createFailed _ _) => t.src.clock.writing = false
  | _ => True

instance : DecidablePred JoinsOwn := fun t =>
  match h : t.label with
  | .thread (.caller c) =>
    decidable_of_iff ((t.src.clock.caller c).pc = .join →
      (t.src.clock.caller c).mine = some t.src.clock.writeThread ∧ t.src.clock.joins t.src.clock.writeThread = 0)
      (by rw [JoinsOwn, h])
  | .opener | .thread (.call ..) | .thread (.created _) | .thread (.createFailed ..) | .thread (.enabled ..)
  | .thread (.spurious _) | .thread (.writer ..) => isTrue (by rw [JoinsOwn, h]; trivial)

instance : DecidablePred FailsWaiting := fun t =>
  match h : t.label with
  | .thread (.createFailed ..) => decidable_of_iff (t.src.clock.writing = false) (by rw [FailsWaiting, h])
  | .opener | .thread (.call ..) | .thread (.created _) | .thread (.caller _) | .thread (.enabled ..)
  | .thread (.spurious _) | .thread (.writer ..) => isTrue (by rw [FailsWaiting, h]; trivial)

/-- Every step but a creation that fails while `writing` is set keeps the invariant of the handshake. -/
theorem inv_step {opener : CallerId} (t : Lts.Transition Opening OpenLabel) (ht : (openSystem opener).Steps t)
    (hc : FailsWaiting t) (h : t.src.clock.Inv ∧ t.src.Quiet opener) : t.dst.clock.Inv ∧ t.dst.Quiet opener := by
  obtain ⟨s, e, s'⟩ := t
  obtain ⟨hi, hq⟩ := h
  simp only at hi hq
  cases e with
  | opener => exact inv_stepOpener hi hq ht
  | thread label =>
    change s.stepThread label = some s' at ht
    unfold stepThread at ht
    split at ht
    case isTrue => cases ht
    case isFalse hcall =>
      obtain ⟨clock, hstep, rfl⟩ := Option.map_eq_some_iff.1 ht
      constructor
      · refine Clock.inv_step ⟨s.clock, label, clock⟩ hstep ?_ hi
        intro c left he
        simp only at he
        subst he
        exact hc
      · intro hpc c hidle
        have hcall : label.calls = false := Bool.eq_false_iff.2 (fun hl => hcall ⟨hl, hpc⟩)
        exact idle_of_step hi hstep hcall (hq hpc c hidle)

/-- At `pthread_join` the invariant of the handshake names the thread. -/
theorem joinsOwn_of_inv {opener : CallerId} {t : Lts.Transition Opening OpenLabel} (ht : (openSystem opener).Steps t)
    (hi : t.src.clock.Inv) : JoinsOwn t := by
  obtain ⟨s, e, s'⟩ := t
  simp only at hi
  unfold JoinsOwn
  split
  case h_2 => trivial
  case h_1 c he =>
    intro hpc
    simp only at hpc ⊢
    have hl : s.clock.tfaLock = some c := hi.holder (by rw [hpc]; rfl)
    rcases (hi.core_holder hl).session (by simp [hpc]) with hn | ⟨w, hw⟩
    · exact absurd hn.waits (by rw [hpc]; nofun)
    · exact ⟨hw.thread ▸ hw.mine, hw.thread ▸ hw.unjoined⟩

/-- Outside a session no writer is live. -/
theorem not_live_of_idle {s : Clock} (hi : s.Inv) (hin : s.active.inSession = false) (w : WriterId) :
    (s.writer w).live = false := by
  rw [Bool.eq_false_iff]
  intro hlive
  rw [(hi.session_of_live hlive).1] at hin
  cases hin

/-- The first `tfa_power(false)` of `tfa_device_open`, up to the join that a set `clock_enabled` makes it execute. -/
def firstPowerdown (opener : CallerId) : List OpenLabel :=
  [.opener, .thread (.caller opener), .thread (.enabled opener 0 0)] ++ List.replicate 4 (.thread (.caller opener))

/-- The steps from a failed creation to the join, when `writing` is set. -/
def failedSession (c : CallerId) (left : ℕ) : List OpenLabel :=
  .thread (.createFailed c left) :: List.replicate 4 (.thread (.caller c)) ++
    .thread (.enabled c 0 0) :: List.replicate 4 (.thread (.caller c))

/-- With `clock_enabled` set before anything has run, the first `tfa_power(false)` joins a thread that was never created. -/
theorem not_joinsOwn_firstPowerdown {opener : CallerId} {s : Opening} (hs : (openSystem opener).init s)
    (hset : s.clock.clockEnabled = true) : ¬ (openSystem opener).Always s (firstPowerdown opener) JoinsOwn := by
  intro hall
  obtain ⟨hpc, hs⟩ := hs
  simp [firstPowerdown, Lts.Always, Lts.trace, openSystem, Opening.step, stepOpener, power, Clock.stepCall, stepThread,
    ClockLabel.calls, Clock.step, Clock.stepCaller, Clock.stepEnabled, JoinsOwn, hpc, hset, hs.caller, hs.tfaLock,
    hs.writer, Writer.live] at hall

/-- With `writing` set, a caller whose creation fails goes on to its join, with no thread of its own. -/
theorem not_joinsOwn_failedSession {opener : CallerId} {s : Opening} (hi : s.clock.Inv) {c : CallerId} (left : ℕ)
    (hpc : (s.clock.caller c).pc = .createThread) (hset : s.clock.writing = true) :
    ¬ (openSystem opener).Always s (failedSession c left) JoinsOwn := by
  intro hall
  have hl : s.clock.tfaLock = some c := hi.holder (by rw [hpc]; rfl)
  have hcore := hi.core_holder hl
  have hout : (s.clock.caller c).inSession = false := by simp [hpc]
  have hon : (s.clock.caller c).on = true := hcore.clockOn (by rw [hpc]; rfl)
  have hmutex : s.clock.mutex = none := hcore.mutex_free hout
  have hmine : (s.clock.caller c).mine = none := hcore.unborn (by rw [hpc]; rfl)
  have hlive := not_live_of_idle hi (by rw [Clock.active_of_some hl, hout]) left
  simp [failedSession, Lts.Always, Lts.trace, openSystem, Opening.step, stepThread, ClockLabel.calls, Clock.step,
    Clock.stepCreateFailed, Clock.stepCaller, Clock.stepEnabled, JoinsOwn, hpc, hset, hon, hmutex, hmine, hlive] at hall

end Opening

open Opening

/-- Which joins `tfa_clock_off` executes, in every run of `tfa_device_open` and of the calls of `tfa_power` that follow
it.
1. If `malloc` left `clock_enabled` false, and creations fail only while `writing` is false, every join names the thread
   that the same call has created, not joined before.
2. Memory with `clock_enabled` set makes the first `tfa_power(false)` join a thread that was never created.
3. When a run that met the condition ends where a caller is about to create its writer while `writing` is set, a creation
   that fails makes the caller join a thread that it has not created. -/
theorem clock_joins (opener : CallerId) (s : Opening) (hs : (openSystem opener).init s) (es : List OpenLabel) :
    (s.clock.clockEnabled = false → (openSystem opener).Always s es FailsWaiting → (openSystem opener).Always s es JoinsOwn) ∧
    (s.clock.clockEnabled = true → ¬ (openSystem opener).Always s (firstPowerdown opener) JoinsOwn) ∧
    (s.clock.clockEnabled = false → (openSystem opener).Always s es FailsWaiting →
      ∀ s' c left, (openSystem opener).run s es = some s' → (s'.clock.caller c).pc = .createThread → s'.clock.writing = true →
        ¬ (openSystem opener).Always s' (failedSession c left) JoinsOwn) := by
  have hinit : s.clock.clockEnabled = false → s.clock.Inv ∧ s.Quiet opener := by
    intro hoff
    refine ⟨Clock.inv_of_fresh hs.2 hoff, ?_⟩
    intro _ c _
    rw [hs.2.caller c]
  refine ⟨?_, ?_, ?_⟩
  · intro hoff hC
    have hrun := Lts.Always.of_guarded (J := fun s => s.clock.Inv ∧ s.Quiet opener) inv_step es (hinit hoff) hC
    exact hrun.mono (fun t ⟨ht, ⟨hi, _⟩, _⟩ => joinsOwn_of_inv ht hi)
  · exact not_joinsOwn_firstPowerdown hs
  · intro hoff hC s' c left hrun hpc hset
    obtain ⟨hi, -⟩ := Lts.Always.at_end (J := fun s => s.clock.Inv ∧ s.Quiet opener) inv_step es (hinit hoff) hC hrun
    exact not_joinsOwn_failedSession hi left hpc hset

/-- The device is opened on memory with `writing` set and `clock_enabled` clear, with one session and one join. -/
theorem clock_joins_opened :
    let es : List OpenLabel := .opener :: (powerdown 0).map .thread ++ [.opener, .opener, .opener] ++
      (session 0 0).map .thread ++ [.opener, .opener] ++ (powerdown 0).map .thread ++ [.opener]
    ((openSystem 0).run ⟨.powerdown, .raw true false true 5 9⟩ es).map Opening.pc = some .opened ∧
      (openSystem 0).Always ⟨.powerdown, .raw true false true 5 9⟩ es JoinsOwn :=
  ⟨by decide +kernel, (clock_joins 0 _ ⟨rfl, Clock.fresh_raw _ _ _ _ _⟩ _).1 rfl (by decide +kernel)⟩

/-- Memory in which `malloc` left a byte set where `clock_enabled` is makes the first `tfa_power(false)` join no thread at
all. -/
theorem raw_join : ¬ ∀ opener s, (openSystem opener).init s → ∀ es, (openSystem opener).Always s es JoinsOwn := by
  intro h
  have hrun := h 0 ⟨.powerdown, .raw false true false 5 0⟩ ⟨rfl, Clock.fresh_raw _ _ _ _ _⟩ (firstPowerdown 0)
  exact absurd hrun (by decide +kernel)

end Universal7880
