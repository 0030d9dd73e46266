import Universal7880.Lemmas.ClockWork
import Universal7880.Theorems.ClockJoin
import Universal7880.Theorems.ClockLifecycle
import Mathlib.Data.Set.Card

/-!
# How long `tfa_power` takes

Two results rest on the work of the clock threads. No run is longer than its arrivals, spurious wake-ups and rounds allow, on
any memory and whatever fails (`bounded_work`). And when every creation succeeds no caller is ever stuck: from every reachable
state all callers can return, with no arrival, spurious wake-up or round on the way, and what is then left is a device that
may be closed (`drains`).
-/

namespace Universal7880
namespace Clock

/-- The credits of a run, by their causes. -/
theorem sum_credit (ts : List (Lts.Transition Clock ClockLabel)) : (ts.map credit).sum =
    34 * ts.countP arrives + 4 * ts.countP wakesSpuriously + 2 * ts.countP loopsAgain := by
  induction ts with
  | nil => rfl
  | cons t ts ih =>
    rw [List.map_cons, List.sum_cons, ih]
    simp only [List.countP_cons, credit]
    cases arrives t <;> cases wakesSpuriously t <;> cases loopsAgain t <;> simp <;> omega

/-- No thread calls `tfa_power`, no caller wakes up on its own and no writer goes round its loop again. -/
def Settles (t : Lts.Transition Clock ClockLabel) : Prop :=
  arrives t = false ∧ wakesSpuriously t = false ∧ loopsAgain t = false

theorem Settles.credit_eq_zero {t : Lts.Transition Clock ClockLabel} (h : Settles t) : credit t = 0 := by
  simp [credit, h.1, h.2.1, h.2.2]

/-- No caller is in `tfa_power`: its locks are free, its queue is empty, the clock is off, and every writer has returned and
was joined once. -/
structure AtRest (s : Clock) : Prop where
  idle : ∀ c, (s.caller c).pc = .idle
  tfaLock : s.tfaLock = none
  mutex : s.mutex = none
  cond : s.cond = []
  clockEnabled : s.clockEnabled = false
  writers : ∀ w, (s.writer w).live = false
  joined : ∀ w < s.created, s.joins w = 1

/-- The callers in `tfa_power`. -/
def busy (s : Clock) : Set CallerId := {c | (s.caller c).pc ≠ .idle}

/-- Once no caller is in `tfa_power`, nothing else goes on. -/
theorem Inv.atRest {s : Clock} (h : s.Inv) (hidle : ∀ c, (s.caller c).pc = .idle) : s.AtRest := by
  have hfree := Opening.free_of_idle h hidle
  have hcore : s.Core {} := active_of_none hfree ▸ h.core
  exact {
    idle := hidle
    tfaLock := hfree
    mutex := hcore.mutex_free rfl
    cond := hcore.cond
    clockEnabled := hcore.clock
    writers := Opening.not_live_of_idle h (by rw [active_of_none hfree]; rfl)
    joined := fun w hw => ((hcore.rest rfl).1 w hw).2 }

/-! ## Progress -/

/-- A step that settles can be taken. -/
def CanSettle (s : Clock) : Prop := ∃ e u, handshake.step s e = some u ∧ Settles ⟨s, e, u⟩

theorem canSettle_caller {s u : Clock} {c : CallerId} (h : s.stepCaller c = some u) : s.CanSettle :=
  ⟨.caller c, u, h, rfl, rfl, rfl⟩

/-- A live writer can go on, unless it waits for the inner mutex or would go round its loop again. -/
theorem canSettle_writer {s : Clock} {w : WriterId} (hlive : (s.writer w).live = true)
    (hmutex : (s.writer w).pc = .lockMutex → s.mutex = none)
    (hloop : (s.writer w).pc = .testInitializing → s.initializing = false) : s.CanSettle := by
  have hstep : ∃ u, s.stepWriter w .ok = some u := by
    cases hpc : (s.writer w).pc with
    | absent | done => simp [Writer.live, hpc] at hlive
    | lockMutex => simp [Clock.stepWriter, hpc, hmutex hpc]
    | _ => simp [Clock.stepWriter, hpc]
  obtain ⟨u, hu⟩ := hstep
  refine ⟨.writer w .ok, u, hu, rfl, rfl, ?_⟩
  cases hpc : (s.writer w).pc with
  | testInitializing => simp [loopsAgain, hpc, hloop hpc]
  | _ => simp [loopsAgain, hpc]

/-- While the active caller does not hold the inner mutex, the mutex is free or its writer holds it. -/
theorem Session.mutex {s : Clock} {c : CallerId} {w : WriterId} (hcore : s.Core (s.caller c)) (hc : s.tfaLock = some c)
    (hs : s.Session (s.caller c) w) (hheld : (s.caller c).pc.holdsMutex = false) :
    s.mutex = none ∨ (s.writer w).pc.holdsMutex = true := by
  cases hm : s.mutex with
  | none => exact Or.inl rfl
  | some o =>
    cases o with
    | writer v => exact Or.inr ((hs.owner v).1 hm).2
    | caller d =>
      obtain ⟨hd, hpc⟩ := (hcore.held d).1 hm
      obtain rfl : c = d := Option.some.inj (hc.symm.trans hd)
      rw [hheld] at hpc
      cases hpc

/-- The caller that holds `tfa_lock` can go on, or its writer can. -/
theorem Inv.canSettle {s : Clock} (h : s.Inv) (hb : s.Bound) {c : CallerId} (hc : s.tfaLock = some c) : s.CanSettle := by
  have hcore := h.core_holder hc
  have hin := (h.inside c).2 hc
  cases hpc : (s.caller c).pc with
  | idle | lockTfa => simp [hpc] at hin
  | createThread => exact ⟨.created c, _, stepCreated_eq_some.2 ⟨hpc, rfl⟩, rfl, rfl, rfl⟩
  | enable => exact ⟨.enabled c 0 0, _, stepEnabled_eq_some.2 ⟨hpc, rfl⟩, rfl, rfl, rfl⟩
  | lockMutex | woken =>
    obtain ⟨-, w, hs⟩ := h.session_of_caller hb (c := c) (by simp [hpc])
    rcases hs.mutex hcore hc (by simp [hpc]) with hfree | hheld
    · exact canSettle_caller (c := c) (by simp [Clock.stepCaller, hpc, hfree]; rfl)
    · refine canSettle_writer (w := w) ?_ ?_ ?_
      all_goals cases hw : (s.writer w).pc <;> simp_all [Writer.live]
  | blocked =>
    -- its writer has not signalled, so it has not returned and is not at the end of its loop
    obtain ⟨-, w, hs⟩ := h.session_of_caller hb (c := c) (by simp [hpc])
    have hsig := hs.asleep (Or.inr hpc)
    have hmutex := hs.mutex hcore hc (by simp [hpc])
    have hok := h.ok w
    have hpresent := hs.present
    refine canSettle_writer (w := w) ?_ ?_ ?_
    all_goals cases hw : (s.writer w).pc <;> simp_all [Writer.live]
  | join =>
    obtain ⟨-, w, hs⟩ := h.session_of_caller hb (c := c) (by simp [hpc])
    cases hlive : (s.writer w).live with
    | false => exact canSettle_caller (c := c) (by simp [Clock.stepCaller, hpc, hs.thread, hlive]; rfl)
    | true =>
      have hmutex := hs.mutex hcore hc (by simp [hpc])
      refine canSettle_writer hlive ?_ ?_
      · intro hw
        simpa [hw] using hmutex
      · intro _
        rw [Bool.eq_false_iff]
        exact fun hi => hs.initializing.1 hi hpc
  | _ => exact canSettle_caller (c := c) (by simp [Clock.stepCaller, hpc]; rfl)

/-- While a caller is in `tfa_power`, a step that settles can be taken. -/
theorem Inv.canSettle_of_busy {s : Clock} (h : s.Inv) (hb : s.Bound) {c : CallerId} (hc : c ∈ s.busy) : s.CanSettle := by
  cases hl : s.tfaLock with
  | some d => exact h.canSettle hb hl
  | none =>
    have hpc : (s.caller c).pc = .lockTfa := by
      have hin := h.inside c
      rw [hl] at hin
      cases hpc : (s.caller c).pc with
      | idle => exact absurd hpc hc
      | lockTfa => rfl
      | _ => simp [hpc] at hin
    exact canSettle_caller (c := c) (by simp [Clock.stepCaller, hpc, hl]; rfl)

/-! ## The callers in `tfa_power` -/

/-- A caller that takes a step, but for the call itself, is in `tfa_power`. -/
theorem busy_of_step {s u : Clock} {e : ClockLabel} {c : CallerId} (hstep : s.step e = some u) (hcall : e.calls = false)
    (he : e.thread = some c) : c ∈ s.busy := by
  intro hidle
  cases e with
  | call d on => cases hcall
  | writer w outcome => cases he
  | caller d | created d | createFailed d _ | enabled d _ _ | spurious d =>
    obtain rfl : d = c := Option.some.inj he
    simp [Clock.step, Clock.stepCaller, Clock.stepCreated, Clock.stepCreateFailed, Clock.stepEnabled, Clock.stepSpurious,
      hidle] at hstep

/-- Only a call brings a caller in. -/
theorem Inv.busy_step {s u : Clock} {e : ClockLabel} (h : s.Inv) (hstep : s.step e = some u) {c : CallerId}
    (hc : c ∈ u.busy) : c ∈ s.busy ∨ e.calls = true ∧ e.thread = some c := by
  by_contra hnot
  rw [not_or] at hnot
  obtain ⟨hidle, hnew⟩ := hnot
  have hidle : (s.caller c).pc = .idle := not_not.1 hidle
  refine hc ?_
  cases hcall : e.calls with
  | false => exact Opening.idle_of_step h hstep hcall hidle
  | true =>
    cases e with
    | call d on =>
      have hne : c ≠ d := fun he => hnew ⟨rfl, by rw [he]; rfl⟩
      rw [caller_of_step hstep rfl hne]
      exact hidle
    | _ => cases hcall

/-- In every reachable state finitely many callers are in `tfa_power`. -/
theorem finite_busy {s : Clock} (h : handshake.Reachable s) : s.busy.Finite := by
  induction h with
  | init hs =>
    refine Set.Finite.subset Set.finite_empty ?_
    intro c hc
    exact hc (by rw [hs.caller c])
  | @step s u e hs hstep ih =>
    have ht : s.step e = some u := (Lts.steps_restrict.1 (show handshake.Steps ⟨s, e, u⟩ from hstep)).2
    refine Set.Finite.subset (ih.union e.thread.toFinset.finite_toSet) ?_
    intro c hc
    rcases (handshake_inductive.reachable hs).1.busy_step ht hc with hbusy | ⟨-, he⟩
    · exact Or.inl hbusy
    · exact Or.inr (by simp [he])

/-- The queue is in order in every reachable state. -/
theorem queue_of_reachable {s : Clock} (h : handshake.Reachable s) : s.Queue := by
  refine Lts.Inductive.reachable (S := handshake) ⟨fun s hs => queue_of_fresh hs.toFresh, ?_⟩ h
  intro t ht hq
  exact hq.step (Lts.steps_restrict.1 ht).2

/-- There is no more to do than the callers in `tfa_power` have, and one writer. -/
theorem Inv.work_le {s : Clock} (h : s.Inv) (callers : Finset CallerId) : s.work callers ≤ 33 * callers.card + 15 := by
  have hcallers : ∑ c ∈ callers, (s.caller c).pc.work ≤ callers.card * 33 :=
    Finset.sum_le_card_nsmul callers _ 33 (fun c _ => (s.caller c).pc.work_le)
  have hwriters : ∑ w ∈ Finset.range s.created, (s.writer w).work ≤ 15 := by
    by_cases hlive : ∃ w, (s.writer w).live = true
    · obtain ⟨w, hw⟩ := hlive
      -- two live writers would be the writer of the same session
      have hother : ∀ v ∈ Finset.range s.created, v ≠ w → (s.writer v).work = 0 := by
        intro v _ hv
        refine Writer.work_of_not_live (Bool.eq_false_iff.2 fun hv' => hv ?_)
        exact Option.some.inj ((h.session_of_live hv').2.mine.symm.trans (h.session_of_live hw).2.mine)
      by_cases hmem : w ∈ Finset.range s.created
      · rw [Finset.sum_eq_single_of_mem w hmem hother]
        exact (s.writer w).work_le
      · rw [Finset.sum_eq_zero fun v hv => hother v hv (fun he => hmem (he ▸ hv))]
        omega
    · rw [Finset.sum_eq_zero fun v _ => Writer.work_of_not_live (Bool.eq_false_iff.2 fun hv => hlive ⟨v, hv⟩)]
      omega
  unfold work
  omega

/-- The invariants of the handshake together, with the callers in `tfa_power` among the given ones. -/
structure Drainable (callers : Finset CallerId) (s : Clock) : Prop where
  inv : s.Inv
  bound : s.Bound
  queue : s.Queue
  busy : ∀ c ∈ s.busy, c ∈ callers

/-- While a caller is in `tfa_power`, a step can be taken that leaves less to do. -/
theorem Drainable.progress {callers : Finset CallerId} {s : Clock} (h : s.Drainable callers)
    (hbusy : ¬ ∀ c, (s.caller c).pc = .idle) :
    ∃ e u, handshake.step s e = some u ∧ Settles ⟨s, e, u⟩ ∧ u.Drainable callers ∧ u.work callers < s.work callers := by
  obtain ⟨c, hc⟩ := not_forall.1 hbusy
  obtain ⟨e, u, hstep, hset⟩ := h.inv.canSettle_of_busy h.bound (c := c) hc
  have ht : s.step e = some u := (Lts.steps_restrict.1 (show handshake.Steps ⟨s, e, u⟩ from hstep)).2
  have hcall : e.calls = false := hset.1
  obtain ⟨hinv, hbound⟩ := handshake_inductive.step ⟨s, e, u⟩ hstep ⟨h.inv, h.bound⟩
  have hless : u.work callers + 1 ≤ s.work callers + credit ⟨s, e, u⟩ :=
    h.queue.work_step ht fun d hd => h.busy d (busy_of_step ht hcall hd)
  rw [hset.credit_eq_zero] at hless
  refine ⟨e, u, hstep, hset, ⟨hinv, hbound, h.queue.step ht, ?_⟩, hless⟩
  intro d hd
  rcases h.inv.busy_step ht hd with hd | ⟨hd, -⟩
  · exact h.busy d hd
  · rw [hcall] at hd
    cases hd

end Clock

open Clock

/-- The length of every run of the threads, on a device whose clock fields hold anything and whatever fails: 34 steps for each
call of `tfa_power`, 4 for each spurious wake-up of a caller and 2 for each round of a writer are enough for everything that
the threads can do. -/
theorem bounded_work (s : Clock) (hs : s.Fresh) (es : List ClockLabel) :
    (clockSystem.trace s es).length ≤ 34 * (clockSystem.trace s es).countP arrives +
      4 * (clockSystem.trace s es).countP wakesSpuriously + 2 * (clockSystem.trace s es).countP loopsAgain := by
  let callers := (es.filterMap ClockLabel.thread).toFinset
  have hcounted : clockSystem.Always s es (fun t => ∀ c, t.label.thread = some c → c ∈ callers) := by
    refine Lts.Always.of_labels (P := fun e : ClockLabel => ∀ c, e.thread = some c → c ∈ callers) ?_
    intro e he c hc
    exact List.mem_toFinset.2 (List.mem_filterMap.2 ⟨e, he, hc⟩)
  have hlen := Lts.length_trace_le (S := clockSystem) (J := Queue)
    (fun t ht hc hq => ⟨hq.step (e := t.label) ht, hq.work_step (e := t.label) ht hc⟩) es (queue_of_fresh hs) hcounted
  have hzero : s.work callers = 0 := by simp [work, hs.caller, hs.created, CallerPc.work]
  rwa [hzero, Nat.zero_add, sum_credit] at hlen

/-- A session whose writer gives up, on memory that holds anything: a caller wakes up on its own and goes back to sleep. -/
theorem bounded_work_busy :
    (clockSystem.trace (.raw true false false 7 1) (.call 0 true :: enterSession 0 ++ sleepSession 0 ++
        [.spurious 0, .caller 0, .caller 0, .caller 0] ++ giveUp 0 ++ enableSession 0 ++ leaveSession 0)).length = 30 ∧
      30 ≤ 34 * 1 + 4 * 1 + 2 * 0 := by
  have hlen : (clockSystem.trace (.raw true false false 7 1) (.call 0 true :: enterSession 0 ++ sleepSession 0 ++
      [.spurious 0, .caller 0, .caller 0, .caller 0] ++ giveUp 0 ++ enableSession 0 ++ leaveSession 0)).length = 30 := by
    decide +kernel
  refine ⟨hlen, ?_⟩
  have hbound := bounded_work (.raw true false false 7 1) (fresh_raw _ _ _ _ _) (.call 0 true :: enterSession 0 ++
    sleepSession 0 ++ [.spurious 0, .caller 0, .caller 0, .caller 0] ++ giveUp 0 ++ enableSession 0 ++ leaveSession 0)
  rw [hlen] at hbound
  refine hbound.trans (Nat.le_of_eq ?_)
  decide +kernel

/-- No caller is ever stuck when every `pthread_create` succeeds: from every reachable state the threads can go on, with no
other call, spurious wake-up or round, until every call of `tfa_power` has returned. That takes no more than 33 steps for each
caller in `tfa_power`, and 15 for the writer that is live. What is left is at rest: the locks are free, the clock is off, and
every writer has returned and was joined once. -/
theorem drains (s : Clock) (h : handshake.Reachable s) : s.busy.Finite ∧ ∃ es u, handshake.run s es = some u ∧
    handshake.Always s es Settles ∧ es.length ≤ 33 * s.busy.ncard + 15 ∧ u.AtRest := by
  have hfinite := finite_busy h
  obtain ⟨hinv, hbound⟩ := handshake_inductive.reachable h
  have hdrain : s.Drainable hfinite.toFinset := ⟨hinv, hbound, queue_of_reachable h, fun c hc => hfinite.mem_toFinset.2 hc⟩
  obtain ⟨es, u, hrun, hu, (hidle : ∀ c, (u.caller c).pc = .idle), hset, hlen⟩ :=
    Lts.exists_run_to (fun s hs hg => hs.progress hg) hdrain
  refine ⟨hfinite, es, u, hrun, hset, hlen.trans ?_, hu.inv.atRest hidle⟩
  rw [Set.ncard_eq_toFinset_card s.busy hfinite]
  exact hinv.work_le _

/-- A caller asleep in its session, with a second one at the lock: both return. -/
theorem drains_asleep :
    ∃ s, handshake.run .powered (.call 0 true :: enterSession 0 ++ sleepSession 0 ++ [.call 1 false]) = some s ∧
      (s.caller 0).pc = .blocked ∧ ∃ es u, handshake.run s es = some u ∧ u.AtRest := by
  have hrun : (handshake.run .powered (.call 0 true :: enterSession 0 ++ sleepSession 0 ++ [.call 1 false])).map
      (fun s => (s.caller 0).pc) = some .blocked := by
    decide +kernel
  obtain ⟨s, hs, hpc⟩ := Option.map_eq_some_iff.1 hrun
  have hreach : handshake.Reachable s := (Lts.Reachable.init Clock.initialised_powered).run _ hs
  obtain ⟨-, es, u, hu, -, -, hrest⟩ := drains s hreach
  exact ⟨s, hs, hpc, es, u, hu, hrest⟩

end Universal7880
