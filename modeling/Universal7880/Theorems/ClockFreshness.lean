import Universal7880.Theorems.ClockLifecycle

/-!
# Whose `writing` a session waits for

`tfa_clock_on` waits for `writing`, and `write_dummy_data` clears it only on the way out of its loop. A writer that gives
up before the loop sets `writing` at `exit` and leaves it set, and the next session does not wait. `Clock.Trail` says what
the last writer has left in `writing`; `Clock.Prompt` says what the wait of a session that starts with `writing` false is
worth. `clock_freshness` puts the two together: the exact condition is that the session before did not give up.
-/

namespace Universal7880

/-- The writer has left its loop and cleared `writing`. -/
@[simp] def Writer.cleared (t : Writer) : Bool :=
  match t.pc with
  | .closePcm | .exitTest | .done => !t.gaveUp
  | _ => false

/-- The writer has set `writing` and not cleared it since, at the places where nothing else follows or it holds the mutex. -/
@[simp] def Writer.raised (t : Writer) : Bool :=
  match t.pc with
  | .signal | .unlockMutex => true
  | .done => t.gaveUp
  | _ => false

namespace Clock

/-! ## What the last writer leaves -/

/-- The last writer created gave up. -/
def lastGaveUp (s : Clock) : Bool :=
  match s.created with
  | 0 => false
  | w + 1 => (s.writer w).gaveUp

/-- What the last writer created has left in `writing`. -/
structure Trail (s : Clock) : Prop where
  none : s.created = 0 → s.writing = false
  cleared : ∀ w, w + 1 = s.created → (s.writer w).cleared = true → s.writing = false
  raised : ∀ w, w + 1 = s.created → (s.writer w).raised = true → s.writing = true

/-- A statement of the last writer keeps the trail. -/
theorem Trail.stepWriter {s s' : Clock} {w : WriterId} {outcome : Outcome} (h : s.Trail) (hi : s.Inv)
    (hstep : s.step (.writer w outcome) = some s') : s'.Trail := by
  have hlast : w + 1 = s.created := (hi.session_of_live (live_of_stepWriter hstep)).2.created.symm
  have hcreated : s'.created = s.created := by
    obtain ⟨s₁, t, rfl, -, -, hcreated, -⟩ := writer_of_step hstep
    exact hcreated
  have hok := hi.ok w
  have hcleared := h.cleared w hlast
  have hraised := h.raised w hlast
  -- the two flags of the writer that moved; no other writer is the last one
  have hwriter : ((s'.writer w).cleared = true → s'.writing = false) ∧ ((s'.writer w).raised = true → s'.writing = true) := by
    simp only [Clock.step, Clock.stepWriter] at hstep
    obtain ⟨t, ht⟩ : ∃ t, s.writer w = t := ⟨_, rfl⟩
    rw [ht] at hstep hok hcleared hraised
    obtain ⟨pc, signaled, gaveUp, writes, hasSignalled⟩ := t
    cases pc <;> simp only [reduceCtorEq] at hstep
    all_goals try split at hstep
    all_goals simp only [Option.some.injEq, reduceCtorEq] at hstep
    all_goals
      subst hstep
      simp_all
  have hw : ∀ v, v + 1 = s'.created → v = w := fun v hv => Nat.succ.inj (hv.trans (hcreated.trans hlast.symm))
  exact {
    none := fun h0 => absurd (hlast.trans (hcreated.symm.trans h0)) (Nat.succ_ne_zero w)
    cleared := fun v hv => hw v hv ▸ hwriter.1
    raised := fun v hv => hw v hv ▸ hwriter.2 }

/-- Every step but a failed creation keeps the trail. -/
theorem trail_step (t : Lts.Transition Clock ClockLabel) (ht : handshake.Steps t) (hi : t.src.Inv) (h : t.src.Trail) :
    t.dst.Trail := by
  obtain ⟨-, ht⟩ := Lts.steps_restrict.1 ht
  obtain ⟨s, e, s'⟩ := t
  change s.step e = some s' at ht
  cases e with
  | writer w outcome => exact h.stepWriter hi ht
  | created c =>
    obtain ⟨-, rfl⟩ := stepCreated_eq_some.1 ht
    have hnew : ∀ w, w + 1 = s.created + 1 → Function.update s.writer s.created { pc := .pcmOpen } w = { pc := .pcmOpen } :=
      fun w hw => by rw [Nat.succ.inj hw, Function.update_self]
    exact {
      none := nofun
      cleared := fun w hw hc => by simp only [hnew w hw] at hc; cases hc
      raised := fun w hw hc => by simp only [hnew w hw] at hc; cases hc }
  | call c _ | caller c | createFailed c _ | enabled c _ _ | spurious c =>
    obtain ⟨hwriter, hcreated, hwriting⟩ := writers_of_step ht rfl
    constructor
    · rw [hcreated, hwriting]; exact h.none
    · rw [hcreated, hwriter, hwriting]; exact h.cleared
    · rw [hcreated, hwriter, hwriting]; exact h.raised

/-- The trail goes with the invariant along every run of the handshake. -/
theorem trail_inductive : handshake.Inductive (fun s => s.Inv ∧ s.Trail) where
  init s hs := by
    refine ⟨inv_of_fresh hs.toFresh hs.clockEnabled, fun _ => hs.writing, ?_, ?_⟩
    all_goals
      intro w hw
      rw [hs.created] at hw
      cases hw
  step t ht h :=
    ⟨inv_step t (Lts.steps_restrict.1 ht).2 (harmless_of_handshake ht) h.1, trail_step t ht h.1 h.2⟩

/-- Between two sessions, `writing` tells whether the last writer gave up. -/
theorem writing_eq_lastGaveUp {s : Clock} (hi : s.Inv) (h : s.Trail) (hin : s.active.inSession = false) :
    s.writing = s.lastGaveUp := by
  unfold lastGaveUp
  cases hn : s.created with
  | zero => exact h.none hn
  | succ w =>
    have hdone : (s.writer w).pc = .done := ((hi.core.rest hin).1 w (hn ▸ Nat.lt_succ_self w)).1
    simp only
    cases hgave : (s.writer w).gaveUp with
    | false => exact h.cleared w hn.symm (by simp [hdone, hgave])
    | true => exact h.raised w hn.symm (by simp [hdone, hgave])

/-! ## What the wait is worth -/

/-- A caller that waits and finds `writing` set finds what its own writer has posted, and past the wait its writer has
signalled. -/
def Prompt (s : Clock) : Prop :=
  ∀ c w, (s.caller c).inSession = true → (s.caller c).mine = some w →
    ((s.caller c).pc.waits = true → s.writing = true → (s.writer w).posted = true) ∧
      ((s.caller c).pc.waits = false → (s.writer w).hasSignalled = true)

/-- The writer a caller in its session has created is the writer of the session. -/
theorem Inv.session_of_mine {s : Clock} (h : s.Inv) {c : CallerId} {w : WriterId} (hin : (s.caller c).inSession = true)
    (hmine : (s.caller c).mine = some w) : s.tfaLock = some c ∧ s.Session (s.caller c) w := by
  have hc : s.tfaLock = some c := h.holder (inside_of_inSession hin)
  rcases (h.core_holder hc).session hin with hn | ⟨v, hv⟩
  · rw [hn.mine] at hmine
    cases hmine
  · exact ⟨hc, Option.some.inj (hv.mine.symm.trans hmine) ▸ hv⟩

/-- A step that leaves the writers alone: only the caller that moves has to be looked at. -/
theorem Prompt.of_caller {s s' : Clock} {c : CallerId} (h : s.Prompt) (hother : ∀ d, d ≠ c → s'.caller d = s.caller d)
    (hwriter : s'.writer = s.writer) (hwriting : s'.writing = s.writing)
    (hself : ∀ w, (s'.caller c).inSession = true → (s'.caller c).mine = some w →
      ((s'.caller c).pc.waits = true → s.writing = true → (s.writer w).posted = true) ∧
        ((s'.caller c).pc.waits = false → (s.writer w).hasSignalled = true)) : s'.Prompt := by
  intro d w
  rw [hwriter, hwriting]
  by_cases hd : d = c
  · exact hd ▸ hself w
  · rw [hother d hd]
    exact h d w

/-- A writer that has posted has signalled, unless it holds the inner mutex. -/
theorem Inv.signalled_of_posted {s : Clock} (h : s.Inv) {c : CallerId} {w : WriterId} (hc : s.tfaLock = some c)
    (hw : s.Session (s.caller c) w) (hheld : (s.caller c).pc.holdsMutex = true) (hp : (s.writer w).posted = true) :
    (s.writer w).hasSignalled = true := by
  simp only [Writer.posted, Bool.or_eq_true, beq_iff_eq] at hp
  rcases hp with hp | hpc
  · exact hp
  have hfree := h.mutex_exclusive ((active_of_some hc).symm ▸ hw) (by rw [hpc]; rfl)
  rw [active_of_some hc, hheld] at hfree
  cases hfree

/-- A statement of a caller keeps what its wait is worth: it leaves the wait only when it finds `writing` set. -/
theorem Prompt.stepCaller {s s' : Clock} {c : CallerId} (h : s.Prompt) (hi : s.Inv) (hstep : s.step (.caller c) = some s') :
    s'.Prompt := by
  obtain ⟨hwriter, -, hwriting⟩ := writers_of_step hstep rfl
  refine h.of_caller (fun d hd => caller_of_step hstep rfl hd) hwriter hwriting (fun w hin hmine => ?_)
  have hc := h c w
  have hclock : (s.caller c).pc.inside = true → s.clockEnabled = (s.caller c).clocked :=
    fun hin => (hi.core_holder (hi.holder hin)).clock
  have hsig : (s.caller c).pc = .testWriting → (s.caller c).mine = some w → (s.writer w).posted = true →
      (s.writer w).hasSignalled = true := by
    intro hpc hm
    obtain ⟨hl, hw⟩ := hi.session_of_mine (by simp [hpc]) hm
    exact hi.signalled_of_posted hl hw (by rw [hpc]; rfl)
  simp only [Clock.step, Clock.stepCaller] at hstep
  obtain ⟨k, hk⟩ : ∃ k, s.caller c = k := ⟨_, rfl⟩
  rw [hk] at hstep hc hclock hsig
  obtain ⟨pc, on, rc, mine⟩ := k
  cases pc <;> simp only [reduceCtorEq] at hstep
  all_goals try split at hstep
  all_goals simp only [Option.some.injEq, reduceCtorEq] at hstep
  all_goals
    subst hstep
    simp only [caller_goto, Function.update_self, hk] at hin hmine ⊢
  case lockTfa => cases on <;> simp_all
  all_goals simp_all

/-- A statement of a writer keeps what the wait of its caller is worth. -/
theorem Prompt.stepWriter {s s' : Clock} {w : WriterId} {outcome : Outcome} (h : s.Prompt) (hi : s.Inv)
    (hstep : s.step (.writer w outcome) = some s') : s'.Prompt := by
  intro c v hin' hmine'
  -- a signal only wakes the caller, which stays in its wait
  have hsrc : (s.caller c).inSession = true ∧ (s.caller c).mine = some v ∧
      (s'.caller c).pc.waits = (s.caller c).pc.waits := by
    rcases hi.caller_of_writer hstep c with heq | ⟨hpc, heq⟩
    · rw [heq] at hin' hmine' ⊢
      exact ⟨hin', hmine', rfl⟩
    · rw [heq] at hmine' ⊢
      exact ⟨by simp [hpc], hmine', by rw [hpc]; rfl⟩
  obtain ⟨hin, hmine, hwaits⟩ := hsrc
  obtain ⟨hl, hv⟩ := hi.session_of_mine hin hmine
  have hvw : v = w := by
    have := (hi.session_of_live (live_of_stepWriter hstep)).2.created
    exact Nat.succ.inj (hv.created.symm.trans this)
  subst hvw
  obtain ⟨s₁, t, rfl, -, -, -, -, -, -, hsignalled, hposted, hwriting⟩ := writer_of_step hstep
  rw [hwaits, writer_setWriter, Function.update_self]
  constructor
  · intro hwait hset
    rcases hwriting hset with hset | hp
    · exact hposted ((h c v hin hmine).1 hwait hset)
    · exact hp
  · intro hpast
    exact hsignalled ((h c v hin hmine).2 hpast)

/-- A `tfa_clock_on` starts its writer after a writer that did not give up, or as the first one. -/
def StartsAfterSuccess (t : Lts.Transition Clock ClockLabel) : Prop :=
  match t.label with
  | .created _ => t.src.lastGaveUp = false
  | _ => True

instance : DecidablePred StartsAfterSuccess := fun t =>
  match h : t.label with
  | .created _ => decidable_of_iff (t.src.lastGaveUp = false) (by rw [StartsAfterSuccess, h])
  | .call .. | .caller _ | .enabled .. | .createFailed .. | .spurious _ | .writer .. =>
    isTrue (by rw [StartsAfterSuccess, h]; trivial)

/-- Every step keeps what the waits are worth, when a session starts only after a writer that did not give up. -/
theorem prompt_step (t : Lts.Transition Clock ClockLabel) (ht : handshake.Steps t)
    (hstart : StartsAfterSuccess t) (hi : t.src.Inv) (htrail : t.src.Trail) (h : t.src.Prompt) : t.dst.Prompt := by
  obtain ⟨hcr, ht⟩ := Lts.steps_restrict.1 ht
  obtain ⟨s, e, s'⟩ := t
  change s.step e = some s' at ht
  cases e with
  | createFailed c left => cases hcr
  | caller c => exact h.stepCaller hi ht
  | writer w outcome => exact h.stepWriter hi ht
  | created c =>
    obtain ⟨hpc, rfl⟩ := stepCreated_eq_some.1 ht
    have hl : s.tfaLock = some c := hi.holder (by rw [hpc]; rfl)
    have hoff : s.writing = false := (writing_eq_lastGaveUp hi htrail (by simp [active_of_some hl, hpc])).trans hstart
    intro d w hin hmine
    simp only [hoff]
    by_cases hd : d = c
    · subst hd
      simp only [Function.update_self]
      exact ⟨nofun, nofun⟩
    · -- no other caller is in a session
      rw [caller_of_step ht rfl hd] at hin
      exact absurd (Option.some.inj ((hi.holder (inside_of_inSession hin)).symm.trans hl)) hd
  | call c on | enabled c rc a1 | spurious c =>
    obtain ⟨hwriter, -, hwriting⟩ := writers_of_step ht rfl
    refine h.of_caller (fun d hd => caller_of_step ht rfl hd) hwriter hwriting (fun w hin hmine => ?_)
    have hc := h c w
    simp only [Clock.step, stepCall_eq_some, stepEnabled_eq_some, stepSpurious_eq_some] at ht
    obtain ⟨hpc, rfl⟩ := ht
    simp only [Caller.inSession, hpc] at hc
    simp_all

end Clock

/-- A writer that has signalled has written or given up. -/
theorem Writer.Ok.worked {t : Writer} (h : t.Ok) (hs : t.hasSignalled = true) : t.gaveUp = true ∨ 0 < t.writes := by
  obtain ⟨pc, signaled, gaveUp, writes, hasSignalled⟩ := t
  cases pc <;> simp_all

open Clock

/-- The writer that this caller has created has signalled: it has written at least once, or it has given up. -/
def Clock.ownWriterSignalled (s : Clock) (c : CallerId) : Bool :=
  match (s.caller c).mine with
  | none => false
  | some w => (s.writer w).hasSignalled && (decide (0 < (s.writer w).writes) || (s.writer w).gaveUp)

/-- `tfa_enable(handle, 1)` is reached only after the writer of this very call has signalled. -/
def SignalledAtEnable (t : Lts.Transition Clock ClockLabel) : Prop :=
  match t.label with
  | .enabled c _ _ => (t.src.caller c).on = true → t.src.ownWriterSignalled c = true
  | _ => True

instance : DecidablePred SignalledAtEnable := fun t =>
  match h : t.label with
  | .enabled c _ _ => decidable_of_iff ((t.src.caller c).on = true → t.src.ownWriterSignalled c = true)
      (by rw [SignalledAtEnable, h])
  | .call .. | .caller _ | .created _ | .createFailed .. | .spurious _ | .writer .. =>
    isTrue (by rw [SignalledAtEnable, h]; trivial)

/-- The freshness of the handshake, in every run from an initialised device.
1. If no `tfa_clock_on` of the run starts a writer right after one that gave up, every `tfa_enable(handle, 1)` comes after
   a signal of the writer that its own call has created.
2. The condition is exact: when the run ends where a caller is about to start a writer right after one that gave up, that
   caller can reach `tfa_enable(handle, 1)` before its writer has executed a statement. -/
theorem clock_freshness (s : Clock) (hs : s.Initialised) (es : List ClockLabel) :
    (handshake.Always s es StartsAfterSuccess → handshake.Always s es SignalledAtEnable) ∧
    (∀ s' c, handshake.run s es = some s' → (s'.caller c).pc = .createThread → s'.lastGaveUp = true →
      ¬ handshake.Always s' (hastySession c) SignalledAtEnable) := by
  constructor
  · intro hC
    have h0 : s.Inv ∧ s.Bound ∧ s.Trail ∧ s.Prompt :=
      ⟨(handshake_inductive.init s hs).1, (handshake_inductive.init s hs).2, (trail_inductive.init s hs).2,
        fun c w hin => by rw [hs.caller c] at hin; cases hin⟩
    have hstep : ∀ t, handshake.Steps t → StartsAfterSuccess t →
        (t.src.Inv ∧ t.src.Bound ∧ t.src.Trail ∧ t.src.Prompt) →
        (t.dst.Inv ∧ t.dst.Bound ∧ t.dst.Trail ∧ t.dst.Prompt) := by
      intro t ht hc h
      rcases h with ⟨hi, hb, htr, hp⟩
      obtain ⟨hi', hb'⟩ := handshake_inductive.step t ht ⟨hi, hb⟩
      exact ⟨hi', hb', trail_step t ht hi htr, prompt_step t ht hc hi htr hp⟩
    refine (Lts.Always.of_guarded (J := fun s => s.Inv ∧ s.Bound ∧ s.Trail ∧ s.Prompt) hstep es h0 hC).mono ?_
    intro t h
    rcases t with ⟨s, e, s'⟩
    rcases h with ⟨ht, ⟨hi, hb, -, hp⟩, -⟩
    simp only at hi hb hp
    cases e with
    | enabled c rc a1 =>
      intro hon
      have hpc : (s.caller c).pc = .enable := (stepEnabled_eq_some.1 (Lts.steps_restrict.1 ht).2).1
      have hin : (s.caller c).inSession = true := by simpa [hpc] using hon
      obtain ⟨w, hw⟩ := Option.ne_none_iff_exists'.1 (hb c (pastCreate_of_inSession hin))
      have hsig := (hp c w hin hw).2 (by rw [hpc]; rfl)
      have hworked := ((hi.ok w).worked hsig).symm
      simpa only [ownWriterSignalled, hw, hsig, Bool.true_and, Bool.or_eq_true, decide_eq_true_eq] using hworked
    | _ => trivial
  · intro s' c hrun hpc hgave hall
    obtain ⟨hi, htr⟩ := trail_inductive.reachable ((Lts.Reachable.init hs).run es hrun)
    have hl : s'.tfaLock = some c := hi.holder (by rw [hpc]; rfl)
    have hcore := hi.core_holder hl
    have hout : (s'.caller c).inSession = false := by simp [hpc]
    have hset : s'.writing = true := (writing_eq_lastGaveUp hi htr (by rw [active_of_some hl, hout])).trans hgave
    have hon : (s'.caller c).on = true := hcore.clockOn (by rw [hpc]; rfl)
    have hmutex : s'.mutex = none := hcore.mutex_free hout
    simp [hastySession, Lts.Always, Lts.trace, handshake, clockSystem, Lts.restrict, ClockLabel.creates, Clock.step,
      stepCreated, hpc, stepCaller, hmutex, hset, stepEnabled, SignalledAtEnable, hon, ownWriterSignalled] at hall

/-- Two complete sessions, each of which waits for its own writer; the writer of the second one gives up. -/
theorem clock_freshness_twoSessions :
    handshake.Always .powered (.call 0 true :: session 0 0 ++ .call 1 true :: busySession 1 1) SignalledAtEnable :=
  (clock_freshness _ Clock.initialised_powered _).1 (by decide +kernel)

/-- After a session whose writer found the device busy, the next one enables the amplifier before its writer has run. -/
theorem stale_writing : ¬ ∀ s, s.Initialised → ∀ es, handshake.Always s es SignalledAtEnable := by
  intro h
  have hrun := h _ Clock.initialised_powered
    (.call 0 true :: busySession 0 0 ++ .call 0 true :: enterSession 0 ++ hastySession 0)
  exact absurd hrun (by decide +kernel)

end Universal7880
