import Universal7880.Lemmas.ClockCaller

/-!
# The writers keep the invariant of the handshake

A writer that has not returned is the writer of the session that runs (`Inv.session_of_live`), so each statement of
`write_dummy_data` is a step of that session (`Inv.write`). The last section puts callers and writers together: every step
but a creation that fails while `writing` is true keeps the invariant (`inv_step`).
-/

namespace Universal7880
namespace Clock

/-! ## The statements of the writer -/

/-- A writer that has not returned is the writer of the session that runs. -/
theorem Inv.session_of_live {s : Clock} (h : s.Inv) {w : WriterId} (hlive : (s.writer w).live = true) :
    s.active.inSession = true ∧ s.Session s.active w := by
  simp only [Writer.live, Bool.and_eq_true, bne_iff_ne] at hlive
  have hlt : w < s.created := by
    by_contra hge
    exact hlive.1 (h.absent w (Nat.le_of_not_lt hge)).1
  have hret : ¬ s.Retired w := fun hr => hlive.2 hr.1
  cases hin : s.active.inSession with
  | false => exact absurd ((h.core.rest hin).1 w hlt) hret
  | true =>
    rcases h.core.session hin with hn | ⟨v, hv⟩
    · exact absurd (hn.old w hlt) hret
    · have hwv : w = v := by
        rw [hv.created] at hlt
        by_contra hne
        exact hret (hv.old w (Nat.lt_of_le_of_ne (Nat.lt_succ_iff.1 hlt) hne))
      exact ⟨rfl, hwv ▸ hv⟩

/-- The writer of a session takes a step, and `t` is what becomes of it. The flags of the callers stay as they are; the
inner mutex belongs to the writer exactly at the statements between its lock operations; the writer leaves its loop only
when the caller is at the join, it has set `writing` once it has posted, and it has not signalled while the caller goes to
sleep or sleeps. -/
theorem Inv.write {s s' : Clock} {w : WriterId} {t : Writer} (h : s.Inv) (hw : s.Session s.active w)
    (hin : s.active.inSession = true) (hcaller : s'.caller = s.caller) (hlock : s'.tfaLock = s.tfaLock)
    (hcond : s'.cond = s.cond) (hclock : s'.clockEnabled = s.clockEnabled) (hinit : s'.initializing = s.initializing)
    (hthread : s'.writeThread = s.writeThread) (hcreated : s'.created = s.created) (hjoins : s'.joins = s.joins)
    (hwriter : s'.writer = Function.update s.writer w t) (hpresent : t.pc ≠ .absent) (hok : t.Ok)
    (hmutex : ∀ c, s'.mutex = some (.caller c) ↔ s.mutex = some (.caller c))
    (howner : ∀ v, s'.mutex = some (.writer v) ↔ v = w ∧ t.pc.holdsMutex = true)
    (hstopped : t.stopped = true → s.active.pc = .join)
    (hposted : t.posted = true → s.active.pc ≠ .join → s'.writing = true)
    (hasleep : s.active.pc = .condWait ∨ s.active.pc = .blocked → t.hasSignalled = false) : s'.Inv := by
  have hact : s'.active = s.active := by unfold active; rw [hlock, hcaller]
  have hwlt : w < s.created := by rw [hw.created]; exact Nat.lt_succ_self _
  constructor
  case inside => rw [hcaller, hlock]; exact h.inside
  case outside => rw [hcaller]; exact h.outside
  case born => rw [hcaller, hcreated]; exact h.born
  case absent =>
    intro v hv
    rw [hcreated] at hv
    rw [hwriter, hjoins, Function.update_of_ne (Nat.ne_of_gt (Nat.lt_of_lt_of_le hwlt hv))]
    exact h.absent v hv
  case ok =>
    intro v
    rw [hwriter]
    by_cases hv : v = w
    · subst hv; rw [Function.update_self]; exact hok
    · rw [Function.update_of_ne hv]; exact h.ok v
  case core =>
    rw [hact]
    have hses : s'.Session s.active w := {
      mine := hw.mine
      thread := hthread.trans hw.thread
      created := hcreated.trans hw.created
      present := by rw [hwriter, Function.update_self]; exact hpresent
      unjoined := by rw [hjoins]; exact hw.unjoined
      old := by
        intro v hv
        simp only [Retired, hwriter, hjoins, Function.update_of_ne (Nat.ne_of_lt hv)]
        exact hw.old v hv
      owner := fun v => by rw [hwriter, Function.update_self]; exact howner v
      initializing := by rw [hinit]; exact hw.initializing
      stopped := by rw [hwriter, Function.update_self]; exact hstopped
      posted := by rw [hwriter, Function.update_self]; exact hposted
      asleep := by rw [hwriter, Function.update_self]; exact hasleep }
    exact {
      clockOn := h.core.clockOn
      clock := hclock.trans h.core.clock
      cond := by rw [hcond, hlock]; exact h.core.cond
      held := fun c => by rw [hmutex, hlock]; exact h.core.held c
      starting := fun hp => hinit.trans (h.core.starting hp)
      unborn := h.core.unborn
      rest := fun hr => by rw [hin] at hr; cases hr
      session := fun _ => Or.inr ⟨w, hses⟩ }

/-- The same, for a statement that leaves the inner mutex alone: only the record of the writer changes, and `writing`. -/
theorem Inv.writeOwn {s : Clock} {w : WriterId} {t t' : Writer} (h : s.Inv) (hw : s.Session s.active w)
    (hin : s.active.inSession = true) (ht : s.writer w = t) (writing : Bool) (hpresent : t'.pc ≠ .absent) (hok : t'.Ok)
    (hholds : t'.pc.holdsMutex = t.pc.holdsMutex) (hstopped : t'.stopped = true → s.active.pc = .join)
    (hposted : t'.posted = true → s.active.pc ≠ .join → writing = true)
    (hasleep : s.active.pc = .condWait ∨ s.active.pc = .blocked → t'.hasSignalled = false) :
    ({ s with writing }.setWriter w t').Inv := by
  refine h.write hw hin rfl rfl rfl rfl rfl rfl rfl rfl rfl hpresent hok (fun _ => Iff.rfl) ?_ hstopped hposted hasleep
  intro v
  rw [hholds, ← ht]
  exact hw.owner v

/-- A signal wakes the active caller if it is asleep; no other caller can be in the queue. -/
theorem Inv.wakeOne {s : Clock} (h : s.Inv) : s.wakeOne.Inv ∧ s.wakeOne.active.pc ≠ .blocked := by
  have hcond := h.core.cond
  by_cases hb : s.active.pc = .blocked
  · cases hl : s.tfaLock with
    | none => rw [active_of_none hl] at hb; cases hb
    | some c =>
      have hcore := h.core_holder hl
      rw [active_of_some hl] at hb hcond
      rw [if_pos hb, hl] at hcond
      have hw : s.wakeOne = { s with cond := [] }.goto c .woken := by simp [Clock.wakeOne, hcond]
      rw [hw]
      constructor
      · refine h.of_holder hl hl rfl rfl (h.born c) (Nat.le_refl _) h.absent h.ok ?_
        obtain ⟨k, hk⟩ : ∃ k, s.caller c = k := ⟨_, rfl⟩
        simp only [hk] at hcore hb ⊢
        obtain ⟨pc, on, rc, mine⟩ := k
        subst hb
        exact hcore.sessionStay ⟨rfl, rfl, rfl, rfl, rfl, fun _ => Iff.rfl⟩ rfl rfl rfl (hcore.clockOn rfl) hcore.clock
          rfl hcore.held rfl nofun nofun nofun (fun _ => rfl)
      · rw [active_of_some (by exact hl)]
        simp
  · rw [if_neg hb] at hcond
    have hw : s.wakeOne = s := by simp [Clock.wakeOne, hcond]
    rw [hw]
    exact ⟨h, hb⟩

/-- The active caller and the writer of its session are not both between lock operations on the inner mutex. -/
theorem Inv.mutex_exclusive {s : Clock} (h : s.Inv) {w : WriterId} (hw : s.Session s.active w)
    (ht : (s.writer w).pc.holdsMutex = true) : s.active.pc.holdsMutex = false := by
  have hm : s.mutex = some (.writer w) := (hw.owner w).2 ⟨rfl, ht⟩
  cases hl : s.tfaLock with
  | none => rw [active_of_none hl]; rfl
  | some c =>
    cases hk : s.active.pc.holdsMutex with
    | false => rfl
    | true =>
      have := (h.core.held c).2 ⟨hl, hk⟩
      rw [hm] at this
      cases this

/-- A writer that takes a step has not returned. -/
theorem live_of_stepWriter {s s' : Clock} {w : WriterId} {outcome : Outcome} (hstep : s.stepWriter w outcome = some s') :
    (s.writer w).live = true := by
  cases hpc : (s.writer w).pc with
  | absent | done => simp [Clock.stepWriter, hpc] at hstep
  | _ => simp [Writer.live, hpc]

/-- Every statement of a writer keeps the invariant. -/
theorem Inv.stepWriter {s s' : Clock} {w : WriterId} {outcome : Outcome} (h : s.Inv)
    (hstep : s.stepWriter w outcome = some s') : s'.Inv := by
  have hlive := live_of_stepWriter hstep
  obtain ⟨hin, hw⟩ := h.session_of_live hlive
  have hok := h.ok w
  have howner := hw.owner
  have hstopped := hw.stopped
  have hposted := hw.posted
  have hasleep := hw.asleep
  have hinit := hw.initializing
  unfold Clock.stepWriter at hstep
  obtain ⟨t, ht⟩ : ∃ t, s.writer w = t := ⟨_, rfl⟩
  rw [ht] at hstep hok howner hstopped hposted hasleep
  obtain ⟨pc, signaled, gaveUp, writes, hasSignalled⟩ := t
  cases pc <;> simp only [Option.some.injEq, reduceCtorEq] at hstep
  case pcmOpen =>
    obtain ⟨hsignaled, hnot, hgave⟩ : signaled = false ∧ hasSignalled = false ∧ gaveUp = false := hok
    have hrunning : signaled = true → s.active.pc = .join := by simp [hsignaled]
    cases outcome <;> simp only [Option.some.injEq] at hstep <;> subst hstep
    case ok =>
      exact h.writeOwn hw hin ht s.writing (by simp) ⟨hsignaled, hnot, hgave⟩ rfl hstopped hposted hasleep
    case busy =>
      exact h.writeOwn hw hin ht s.writing (by simp) (Or.inr ⟨hsignaled, hnot, rfl⟩) rfl hrunning hposted hasleep
    case fail =>
      exact h.writeOwn hw hin ht s.writing (by simp) (Or.inr ⟨hsignaled, hnot, rfl⟩) rfl hrunning hposted hasleep
  case calloc =>
    obtain ⟨hsignaled, hnot, hgave⟩ : signaled = false ∧ hasSignalled = false ∧ gaveUp = false := hok
    have hrunning : signaled = true → s.active.pc = .join := by simp [hsignaled]
    split at hstep <;> simp only [Option.some.injEq] at hstep <;> subst hstep
    case isTrue =>
      exact h.writeOwn hw hin ht s.writing (by simp) ⟨hnot.trans hsignaled.symm, hgave, by simp [hsignaled]⟩ rfl hstopped
        hposted hasleep
    case isFalse =>
      exact h.writeOwn hw hin ht s.writing (by simp) (Or.inr ⟨hsignaled, hnot, rfl⟩) rfl hrunning hposted hasleep
  case pcmWrite =>
    subst hstep
    obtain ⟨hsignal, hgave, -⟩ := hok
    cases signaled with
    | false =>
      exact h.writeOwn hw hin ht s.writing (by simp) ⟨rfl, hsignal, Or.inr (Nat.succ_pos _)⟩ rfl hstopped hposted hasleep
    | true =>
      exact h.writeOwn hw hin ht s.writing (by simp) ⟨rfl, hsignal, hgave, Nat.succ_pos _⟩ rfl hstopped hposted hasleep
  case lockMutex =>
    split at hstep
    case isFalse => cases hstep
    case isTrue hm =>
      simp only [Option.some.injEq] at hstep
      subst hstep
      exact h.write hw hin rfl rfl rfl rfl rfl rfl rfl rfl rfl (by simp) hok (by simp [hm]) (by simp [eq_comm]) hstopped
        hposted hasleep
  case setWriting =>
    subst hstep
    exact h.writeOwn hw hin ht true (by simp) hok rfl hstopped (fun _ _ => rfl) hasleep
  case signal =>
    subst hstep
    obtain ⟨hwake, hawake⟩ := h.wakeOne
    have hlive' : (s.wakeOne.writer w).live = true := by rw [writer_wakeOne]; exact hlive
    obtain ⟨hin', hw'⟩ := hwake.session_of_live hlive'
    have hfree := hwake.mutex_exclusive hw' (by rw [writer_wakeOne, ht]; rfl)
    have howner' := hw'.owner
    have hposted' := hw'.posted
    rw [writer_wakeOne, ht] at howner' hposted'
    obtain ⟨hsignaled, -, hwork⟩ := hok
    refine hwake.write hw' hin' rfl rfl rfl rfl rfl rfl rfl rfl rfl (by simp) ⟨hsignaled, rfl, hwork⟩ (fun _ => Iff.rfl)
      howner' (by simp) (fun _ => hposted' (by simp)) ?_
    -- the caller was woken, and it does not hold the mutex that the writer holds
    intro hk
    rcases hk with hk | hk
    · rw [hk] at hfree
      cases hfree
    · exact absurd hk hawake
  case unlockMutex =>
    subst hstep
    have hm : s.mutex = some (.writer w) := (howner w).2 ⟨rfl, rfl⟩
    obtain ⟨hsignaled, hhas, hwork⟩ : signaled = false ∧ hasSignalled = true ∧ (gaveUp = true ∨ 0 < writes) := hok
    cases gaveUp with
    | false =>
      exact h.write hw hin rfl rfl rfl rfl rfl rfl rfl rfl rfl (by simp) ⟨rfl, hhas, rfl, by simpa using hwork⟩
        (by simp [hm]) (by simp) (by simp) hposted hasleep
    | true =>
      exact h.write hw hin rfl rfl rfl rfl rfl rfl rfl rfl rfl (by simp) ⟨hhas, Or.inl rfl⟩ (by simp [hm]) (by simp)
        (by simp [hsignaled]) hposted hasleep
  case testInitializing =>
    subst hstep
    obtain ⟨hsignaled, hhas, hgave, hwrites⟩ := hok
    cases hi : s.initializing with
    | true =>
      exact h.writeOwn hw hin ht s.writing (by simp) ⟨hhas.trans hsignaled.symm, hgave, fun _ => hwrites⟩ rfl hstopped
        hposted hasleep
    | false =>
      -- `initializing` is false at the join only
      have hjoin : s.active.pc = .join := by
        by_contra hne
        rw [hinit.2 hne] at hi
        cases hi
      exact h.writeOwn hw hin ht s.writing (by simp) ⟨hsignaled, hhas, hgave, hwrites⟩ rfl (fun _ => hjoin) hposted hasleep
  case clearWriting =>
    subst hstep
    have hjoin : s.active.pc = .join := hstopped rfl
    exact h.writeOwn hw hin ht false (by simp) (Or.inl hok) rfl (fun _ => hjoin) (fun _ hne => absurd hjoin hne) hasleep
  case closePcm =>
    subst hstep
    exact h.writeOwn hw hin ht s.writing (by simp) hok rfl hstopped hposted hasleep
  case exitTest =>
    subst hstep
    cases signaled with
    | false =>
      obtain ⟨-, hnot, hgave⟩ := hok.resolve_left (by simp)
      exact h.writeOwn hw hin ht s.writing (by simp) ⟨rfl, hnot, Or.inl hgave⟩ rfl (by simp) hposted hasleep
    | true =>
      obtain ⟨-, hhas, -, hwrites⟩ := hok.resolve_right (by simp)
      exact h.writeOwn hw hin ht s.writing (by simp) ⟨hhas, Or.inr hwrites⟩ rfl hstopped hposted hasleep

/-! ## Runs -/

/-- The step is not a creation that fails while `writing` is true. -/
def Harmless (t : Lts.Transition Clock ClockLabel) : Prop :=
  ∀ c left, t.label = .createFailed c left → t.src.writing = false

/-- Every harmless step keeps the invariant. -/
theorem inv_step (t : Lts.Transition Clock ClockLabel) (ht : clockSystem.Steps t) (hh : Harmless t) (h : t.src.Inv) :
    t.dst.Inv := by
  obtain ⟨s, e, s'⟩ := t
  change s.step e = some s' at ht
  cases e with
  | call c on => exact h.stepCall ht
  | caller c => exact h.stepCaller ht
  | created c => exact h.stepCreated ht
  | createFailed c left => exact h.stepCreateFailed (hh c left rfl) ht
  | enabled c rc a1 => exact h.stepEnabled ht
  | spurious c => exact h.stepSpurious ht
  | writer w outcome => exact h.stepWriter ht

end Clock
end Universal7880
