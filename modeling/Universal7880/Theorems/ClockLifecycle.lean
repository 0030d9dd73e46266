import Universal7880.Lemmas.ClockEffect

/-!
# The life of the clock threads

When every `pthread_create` succeeds, each session has a writer (`Clock.Bound`), and the invariant of the handshake says
what can be seen of it in any reachable state, under any interleaving of any number of callers: `clock_lifecycle`.
-/

namespace Universal7880
namespace Clock

/-- The caller is in a session, or at the end of the `tfa_power(on)` that had one. -/
@[simp] def pastCreate (k : Caller) : Bool :=
  match k.pc with
  | .clearClock => true
  | .unlockTfa => k.on
  | _ => k.inSession

/-- Every session has a writer: no creation failed. -/
def Bound (s : Clock) : Prop := ∀ c, pastCreate (s.caller c) = true → (s.caller c).mine ≠ none

theorem pastCreate_of_inSession {k : Caller} (h : k.inSession = true) : pastCreate k = true := by
  obtain ⟨pc, on, rc, mine⟩ := k
  cases pc <;> first | exact h | cases h

theorem inside_of_inSession {k : Caller} (h : k.inSession = true) : k.pc.inside = true := by
  obtain ⟨pc, on, rc, mine⟩ := k
  cases pc <;> first | rfl | cases h

/-- Only the caller that moves has to be looked at. -/
theorem Bound.of_caller {s s' : Clock} {c : CallerId} (h : s.Bound) (hother : ∀ d, d ≠ c → s'.caller d = s.caller d)
    (hself : pastCreate (s'.caller c) = true → (s'.caller c).mine ≠ none) : s'.Bound := by
  intro d
  by_cases hd : d = c
  · exact hd ▸ hself
  · rw [hother d hd]
    exact h d

/-- A statement of a caller leaves its session as it is, or ends it. -/
theorem Bound.stepCaller {s s' : Clock} {c : CallerId} (h : s.Bound) (hi : s.Inv) (hstep : s.stepCaller c = some s') :
    s'.Bound := by
  have hc := h c
  have hclock : (s.caller c).pc.inside = true → s.clockEnabled = (s.caller c).clocked :=
    fun hin => (hi.core_holder (hi.holder hin)).clock
  unfold Clock.stepCaller at hstep
  obtain ⟨k, hk⟩ : ∃ k, s.caller c = k := ⟨_, rfl⟩
  rw [hk] at hstep hc hclock
  obtain ⟨pc, on, rc, mine⟩ := k
  cases pc <;> simp only [reduceCtorEq] at hstep
  all_goals
    first
    | (split at hstep <;> simp only [Option.some.injEq, reduceCtorEq] at hstep)
    | simp only [Option.some.injEq] at hstep
  all_goals
    subst hstep
    refine h.of_caller (fun d hd => Function.update_of_ne hd _ _) ?_
    simp only [caller_goto, Function.update_self, hk]
  case lockTfa => cases on <;> simp
  all_goals simp_all

/-- Every step but a failed creation keeps a writer in every session. -/
theorem bound_step (t : Lts.Transition Clock ClockLabel) (ht : handshake.Steps t) (hi : t.src.Inv) (h : t.src.Bound) :
    t.dst.Bound := by
  obtain ⟨hcr, ht⟩ := Lts.steps_restrict.1 ht
  obtain ⟨s, e, s'⟩ := t
  change s.step e = some s' at ht
  cases e with
  | createFailed c left => cases hcr
  | caller c => exact h.stepCaller hi ht
  | call c on | created c | enabled c _ _ | spurious c =>
    refine h.of_caller (fun d hd => caller_of_step ht rfl hd) ?_
    have hc := h c
    simp only [Clock.step, stepCall_eq_some, stepCreated_eq_some, stepEnabled_eq_some, stepSpurious_eq_some] at ht
    obtain ⟨hpc, rfl⟩ := ht
    simp only [pastCreate, Caller.inSession, hpc] at hc
    simp_all
  | writer w outcome =>
    -- a signal wakes its caller within the session
    intro c
    have hc := h c
    dsimp only at hc hi
    rcases hi.caller_of_writer ht c with heq | ⟨hpc, heq⟩
    · rw [heq]
      exact hc
    · rw [heq]
      intro _
      exact hc (pastCreate_of_inSession (by simp [Caller.inSession, hpc]))

/-- A step of the handshake is harmless: no creation fails. -/
theorem harmless_of_handshake {t : Lts.Transition Clock ClockLabel} (ht : handshake.Steps t) : Harmless t := by
  intro c left he
  have := (Lts.steps_restrict.1 ht).1
  rw [he] at this
  cases this

/-- The invariant, with a writer in every session, is inductive for the handshake. -/
theorem handshake_inductive : handshake.Inductive (fun s => s.Inv ∧ s.Bound) where
  init s hs := by
    refine ⟨inv_of_fresh hs.toFresh hs.clockEnabled, ?_⟩
    intro c hc
    rw [hs.caller c] at hc
    cases hc
  step t ht h := ⟨inv_step t (Lts.steps_restrict.1 ht).2 (harmless_of_handshake ht) h.1, bound_step t ht h.1 h.2⟩

/-- A caller in a session holds `tfa_lock`, and its session has a writer. -/
theorem Inv.session_of_caller {s : Clock} (h : s.Inv) (hb : s.Bound) {c : CallerId} (hin : (s.caller c).inSession = true) :
    s.tfaLock = some c ∧ ∃ w, s.Session (s.caller c) w := by
  have hc : s.tfaLock = some c := h.holder (inside_of_inSession hin)
  refine ⟨hc, ?_⟩
  rcases (h.core_holder hc).session hin with hn | hw
  · exact absurd hn.mine (hb c (pastCreate_of_inSession hin))
  · exact hw

/-- A writer that has not returned belongs to the call of `tfa_power(on)` that holds `tfa_lock`. -/
theorem Inv.holder_of_live {s : Clock} (h : s.Inv) {w : WriterId} (hlive : (s.writer w).live = true) :
    ∃ c, s.tfaLock = some c ∧ (s.caller c).inSession = true ∧ s.Session (s.caller c) w := by
  obtain ⟨hin, hw⟩ := h.session_of_live hlive
  cases hl : s.tfaLock with
  | none => rw [active_of_none hl] at hin; cases hin
  | some c =>
    rw [active_of_some hl] at hin hw
    exact ⟨c, rfl, hin, hw⟩

/-- A session runs in `tfa_power(on)` only. -/
theorem Core.on_of_session {s : Clock} {k : Caller} (h : s.Core k) (hin : k.inSession = true) : k.on = true := by
  obtain ⟨pc, on, rc, mine⟩ := k
  cases pc <;> first | exact hin | exact h.clockOn rfl | cases hin

/-- Every writer was joined once, or is the writer of the session that runs and was not joined yet. -/
theorem Inv.joined_or_running {s : Clock} (h : s.Inv) (hb : s.Bound) {w : WriterId} (hw : w < s.created) :
    s.Retired w ∨ s.joins w = 0 ∧ ∃ c, s.tfaLock = some c ∧ (s.caller c).inSession = true ∧ (s.caller c).mine = some w := by
  cases hin : s.active.inSession with
  | false => exact Or.inl ((h.core.rest hin).1 w hw)
  | true =>
    cases hl : s.tfaLock with
    | none => rw [active_of_none hl] at hin; cases hin
    | some c =>
      rw [active_of_some hl] at hin
      obtain ⟨-, v, hv⟩ := h.session_of_caller hb hin
      by_cases hwv : w = v
      · subst hwv
        exact Or.inr ⟨hv.unjoined, c, rfl, hin, hv.mine⟩
      · rw [hv.created] at hw
        exact Or.inl (hv.old w (Nat.lt_of_le_of_ne (Nat.lt_succ_iff.1 hw) hwv))

end Clock

open Clock

/-- The life of the clock threads, in every state that any interleaving of any number of callers and their writers reaches
when every `pthread_create` succeeds.
1. At most one writer is live, and only while a caller holds `tfa_lock` inside `tfa_power(on)`, in the session that
   created it.
2. A caller that acquires `tfa_lock` finds `clock_enabled` false, and so does the test at the head of `tfa_clock_on`.
3. No writer is joined twice; every writer created was joined exactly once or its creator still holds `tfa_lock` in its
   session; and a call of `tfa_power(on)` that is about to release `tfa_lock` has created a writer, which was joined
   exactly once.
4. `tfa_enable(handle, 0)` is not executed while a writer is live.
5. A caller asleep in `pthread_cond_wait` is in the queue, and its writer is live and has not signalled yet. -/
theorem clock_lifecycle (s : Clock) (h : handshake.Reachable s) :
    (∀ w, (s.writer w).live = true → (∀ v, (s.writer v).live = true → v = w) ∧
      ∃ c, s.tfaLock = some c ∧ (s.caller c).pc.inside = true ∧ (s.caller c).on = true ∧ (s.caller c).mine = some w) ∧
    ((∀ c s', (s.caller c).pc = .lockTfa → handshake.step s (.caller c) = some s' →
        s.clockEnabled = false ∧ s'.clockEnabled = false) ∧
      ∀ c, (s.caller c).pc = .checkClock → s.clockEnabled = false) ∧
    ((∀ w, s.joins w ≤ 1) ∧
      (∀ w < s.created, s.joins w = 1 ∨ ∃ c, s.tfaLock = some c ∧ (s.caller c).inSession = true ∧
        (s.caller c).mine = some w) ∧
      ∀ c, (s.caller c).pc = .unlockTfa → (s.caller c).on = true → ∃ w, (s.caller c).mine = some w ∧ s.joins w = 1) ∧
    (∀ c, (s.caller c).pc = .enable → (s.caller c).on = false → ∀ w, (s.writer w).live = false) ∧
    (∀ c, (s.caller c).pc = .blocked → c ∈ s.cond ∧
      ∃ w, (s.caller c).mine = some w ∧ (s.writer w).live = true ∧ (s.writer w).hasSignalled = false) := by
  obtain ⟨hi, hb⟩ := handshake_inductive.reachable h
  refine ⟨fun w hw => ?live, ⟨fun c s' hpc hstep => ?acquire, fun c hpc => ?check⟩, ⟨fun w => ?atMostOnce, fun w hw => ?once,
    fun c hpc hon => ?beforeUnlock⟩, fun c hpc hon w => ?off, fun c hpc => ?asleep⟩
  case live =>
    obtain ⟨c, hl, hin, hs⟩ := hi.holder_of_live hw
    refine ⟨?_, c, hl, (hi.inside c).2 hl, (hi.core_holder hl).on_of_session hin, hs.mine⟩
    intro v hv
    obtain ⟨d, hd, -, hv⟩ := hi.holder_of_live hv
    obtain rfl : c = d := Option.some.inj (hl.symm.trans hd)
    exact Option.some.inj (hv.mine.symm.trans hs.mine)
  case acquire =>
    have hstep : s.stepCaller c = some s' := (Lts.steps_restrict.1 (show handshake.Steps ⟨s, .caller c, s'⟩ from hstep)).2
    simp only [stepCaller, hpc] at hstep
    split at hstep <;> simp only [Option.some.injEq, reduceCtorEq] at hstep
    rename_i hfree
    have hclock : s.clockEnabled = false := by simpa [active_of_none hfree] using hi.core.clock
    exact ⟨hclock, by rw [← hstep]; exact hclock⟩
  case check =>
    have hclock := (hi.core_holder (hi.holder (c := c) (by rw [hpc]; rfl))).clock
    simpa only [Caller.clocked, hpc] using hclock
  case atMostOnce =>
    rcases Nat.lt_or_ge w s.created with hw | hw
    · rcases hi.joined_or_running hb hw with hr | ⟨h0, -⟩
      · exact hr.2.le
      · omega
    · have := (hi.absent w hw).2
      omega
  case once =>
    exact (hi.joined_or_running hb hw).imp And.right And.right
  case beforeUnlock =>
    have hcore := hi.core_holder (hi.holder (c := c) (by rw [hpc]; rfl))
    obtain ⟨w, hw⟩ := Option.ne_none_iff_exists'.1 (hb c (by simp [hpc, hon]))
    exact ⟨w, hw, ((hcore.rest (by simp [hpc])).1 w (hi.born c w hw)).2⟩
  case off =>
    have hl := hi.holder (c := c) (by rw [hpc]; rfl)
    rw [Bool.eq_false_iff]
    intro hw
    obtain ⟨d, hd, hin, -⟩ := hi.holder_of_live hw
    obtain rfl : c = d := Option.some.inj (hl.symm.trans hd)
    simp [hpc, hon] at hin
  case asleep =>
    have hl := hi.holder (c := c) (by rw [hpc]; rfl)
    obtain ⟨-, w, hs⟩ := hi.session_of_caller hb (c := c) (by simp [hpc])
    have hsig : (s.writer w).hasSignalled = false := hs.asleep (Or.inr hpc)
    refine ⟨by simp [(hi.core_holder hl).cond, hpc, hl], w, hs.mine, ?_, hsig⟩
    -- a writer that has returned has signalled
    have hpresent := hs.present
    have hok := hi.ok w
    cases hw : (s.writer w).pc <;> simp_all [Writer.live]

/-- The caller that fell asleep in its session is in the queue, and its writer is still to signal. -/
theorem clock_lifecycle_asleep :
    ∃ s, handshake.run .powered (.call 0 true :: enterSession 0 ++ sleepSession 0) = some s ∧
      (s.caller 0).pc = .blocked ∧ 0 ∈ s.cond ∧
      ∃ w, (s.caller 0).mine = some w ∧ (s.writer w).live = true ∧ (s.writer w).hasSignalled = false := by
  have hrun : (handshake.run .powered (.call 0 true :: enterSession 0 ++ sleepSession 0)).map (fun s => (s.caller 0).pc) =
      some .blocked := by
    decide +kernel
  obtain ⟨s, hs, hpc⟩ := Option.map_eq_some_iff.1 hrun
  have hreach : handshake.Reachable s := (Lts.Reachable.init Clock.initialised_powered).run _ hs
  exact ⟨s, hs, hpc, (clock_lifecycle s hreach).2.2.2.2 0 hpc⟩

end Universal7880
