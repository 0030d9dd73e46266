import Universal7880.Lemmas.AmpStep

/-!
# What the vendor library is asked to do

The calls of `tfa_power` that `amp_enable_output_devices` makes on one device. `vendor_calls_alternate` says that they never
repeat what has been done: the amplifier is switched on only while it is off and off only while it is on, where a call that
returned a code other than zero has done nothing; the power state is what these calls have left.
-/

namespace Universal7880

/-- The amplifier is on after these calls: an odd number of them has succeeded. -/
def poweredBy (calls : List EnableCall) : Bool := calls.countP (fun call => call.rc = 0) % 2 = 1

/-- A call that has succeeded switches the amplifier. -/
theorem poweredBy_concat (calls : List EnableCall) (call : EnableCall) :
    poweredBy (calls ++ [call]) = if call.rc = 0 then !poweredBy calls else poweredBy calls := by
  unfold poweredBy
  rw [List.countP_append, List.countP_singleton]
  by_cases hrc : call.rc = 0
  · simp only [hrc, decide_true, if_true]
    rcases Nat.mod_two_eq_zero_or_one (calls.countP fun call => call.rc = 0) with h | h <;> simp [h, Nat.add_mod]
  · simp [hrc]

/-- Each call asks for the opposite of what the calls before it have left. -/
def Alternates (calls : List EnableCall) : Prop :=
  ∀ i call, calls[i]? = some call → call.on = !poweredBy (calls.take i)

/-- One more call that asks for the opposite. -/
theorem Alternates.concat {calls : List EnableCall} (h : Alternates calls) {call : EnableCall}
    (hon : call.on = !poweredBy calls) : Alternates (calls ++ [call]) := by
  intro i call' hi
  rcases Nat.lt_trichotomy i calls.length with hlt | rfl | hgt
  · rw [List.getElem?_append_left hlt] at hi
    rw [List.take_append_of_le_length hlt.le]
    exact h i call' hi
  · rw [List.getElem?_concat_length, Option.some.injEq] at hi
    rw [← hi, List.take_left]
    exact hon
  · rw [List.getElem?_eq_none (by simp; omega)] at hi
    cases hi

/-- The device has received these calls since it was the one of `start`: they alternate, and the power state is what they have
left. -/
structure Switched (start : TfaDevice) (made : List EnableCall) (dev : AmpDevice) : Prop where
  calls : dev.tfaDev.calls = start.calls ++ made
  alternates : Alternates made
  ampState : dev.ampState = .enabled ↔ poweredBy made = true

/-- A call of `tfa_power` that asks for the opposite of the power state. -/
theorem Switched.power {start : TfaDevice} {made : List EnableCall} {dev : AmpDevice} (h : Switched start made dev)
    {on : Bool} (rc : Int) (hon : dev.ampState = .enabled ↔ on = false) :
    Switched start (made ++ [⟨on, rc⟩]) (dev.power on rc) where
  calls := by simp [h.calls]
  alternates := by
    refine h.alternates.concat ?_
    have hpower := h.ampState
    cases on <;> cases hp : poweredBy made <;> simp_all
  ampState := by
    have hpower := h.ampState
    rw [poweredBy_concat, AmpDevice.ampState_power]
    by_cases hrc : rc = 0
    · cases on <;> cases hp : poweredBy made <;> simp_all
    · simp only [hrc, if_false]
      exact hpower

/-- A step makes no call of the vendor, or one that asks for the opposite of the power state. -/
theorem switched_ampStep {hw : AudioHw} {enableRc : ℕ → Int} {start : TfaDevice} {made : List EnableCall}
    {dev dev' : AmpDevice} {call : AmpCall} {rc : Int} (h : Switched start made dev)
    (hstep : AmpStep hw enableRc dev call rc dev') : ∃ made' : Option EnableCall, Switched start (made ++ made'.toList) dev' := by
  cases hstep with
  | ignored _ => exact ⟨none, by simpa using h⟩
  | countUp mode _ _ _ | countDown mode _ _ _ _ _ _ =>
    refine ⟨none, ?_⟩
    rw [Option.toList_none, List.append_nil]
    exact ⟨h.calls, h.alternates, h.ampState⟩
  | powerOn mode rc _ _ hoff _ _ =>
    have hcount : Switched start made (dev.count mode 1) := ⟨h.calls, h.alternates, h.ampState⟩
    exact ⟨some ⟨true, rc⟩, hcount.power rc (by simp [hoff])⟩
  | powerOff mode rc _ _ hon _ _ =>
    have hcount : Switched start made (dev.count mode 0) := ⟨h.calls, h.alternates, h.ampState⟩
    exact ⟨some ⟨false, rc⟩, hcount.power rc (by simp [hon])⟩

/-- The call of `tfa_power` that a call of the HAL has made, if it has made one. -/
def vendorCall (t : Lts.Transition AmpDevice AmpCall) : Option EnableCall :=
  t.dst.tfaDev.calls[t.src.tfaDev.calls.length]?

/-- A call of the HAL makes at most one call of `tfa_power`. -/
def CallsAtMostOnce (t : Lts.Transition AmpDevice AmpCall) : Prop :=
  t.dst.tfaDev.calls = t.src.tfaDev.calls ++ (vendorCall t).toList

/-- Every step of a run, with the calls that the vendor has received before it. -/
theorem switched_step {hw : AudioHw} {enableRc : ℕ → Int} {start : TfaDevice} {t : Lts.Transition AmpDevice AmpCall}
    {made : List EnableCall} (ht : (ampSystem hw enableRc).Steps t) (h : t.src.Counted ∧ Switched start made t.src) :
    (t.dst.Counted ∧ Switched start (made ++ (vendorCall t).toList) t.dst) ∧ CallsAtMostOnce t := by
  obtain ⟨hn, hmade⟩ := h
  obtain ⟨rc, -, hstep⟩ := ampStep_of_steps ht hn
  obtain ⟨made', hmade'⟩ := switched_ampStep hmade hstep
  have hcalls : t.dst.tfaDev.calls = t.src.tfaDev.calls ++ made'.toList := by
    rw [hmade'.calls, hmade.calls, List.append_assoc]
  have hcall : vendorCall t = made' := by
    rw [vendorCall, hcalls, List.getElem?_append_right (Nat.le_refl _), Nat.sub_self]
    cases made' <;> rfl
  rw [CallsAtMostOnce, hcall]
  exact ⟨⟨counted_ampStep hn hstep, hmade'⟩, hcalls⟩

/-- The calls of `tfa_power` in every run of `amp_enable_output_devices` on a device that `amp_module_open` returned, whatever
the vendor's codes are. Each call of the HAL makes at most one; each of them asks for the opposite of what those before it have
left, where only a call that returned zero counts; and the amplifier counts as on exactly if an odd number of them has returned
zero. -/
theorem vendor_calls_alternate (hw : AudioHw) (enableRc : ℕ → Int) (tfaDev : TfaDevice) (calls : List AmpCall)
    (dev : AmpDevice) (hrun : (ampSystem hw enableRc).run (ampInit tfaDev) calls = some dev) :
    (ampSystem hw enableRc).Always (ampInit tfaDev) calls CallsAtMostOnce ∧
      ∃ made, made.length ≤ calls.length ∧ Switched tfaDev made dev := by
  have hinit : (ampInit tfaDev).Counted ∧ Switched tfaDev [] (ampInit tfaDev) :=
    ⟨counted_ampInit tfaDev, by simp [ampInit], fun i call hi => by simp at hi, by simp [ampInit, poweredBy]⟩
  constructor
  · have hkeep := Lts.Always.of_step (S := ampSystem hw enableRc)
      (J := fun dev => ∃ made, dev.Counted ∧ Switched tfaDev made dev)
      (fun t ht h => h.imp' _ fun made h => (switched_step ht h).1) calls ⟨[], hinit⟩
    refine hkeep.mono fun t ht => ?_
    obtain ⟨ht, ⟨made, h⟩, -⟩ := ht
    exact (switched_step ht h).2
  · have hend := Lts.collected_at_end (J := fun dev made => dev.Counted ∧ Switched tfaDev made dev)
      (fun t made ht h => (switched_step ht h).1) calls hinit hrun
    have hlength : ((ampSystem hw enableRc).trace (ampInit tfaDev) calls).length = calls.length := by
      rw [← List.length_map (f := Lts.Transition.label), Lts.map_label_trace hrun]
    exact ⟨_, (List.length_filterMap_le _ _).trans hlength.le, hend.2⟩

/-- The vendor library fails once to switch on and once to switch off; each is tried again. -/
theorem vendor_calls_alternate_failures :
    ∃ dev, (ampSystem .sample fun n => if n = 0 ∨ n = 2 then 5 else 0).run (ampInit .sample)
        [⟨2, true⟩, ⟨2, false⟩, ⟨2, true⟩, ⟨2, false⟩, ⟨2, false⟩] = some dev ∧
      dev.tfaDev.calls = [⟨true, 5⟩, ⟨true, 0⟩, ⟨false, 5⟩, ⟨false, 0⟩] ∧
      ∃ made, made.length ≤ 5 ∧ Switched .sample made dev := by
  have hrun : ((ampSystem .sample fun n => if n = 0 ∨ n = 2 then 5 else 0).run (ampInit .sample)
      [⟨2, true⟩, ⟨2, false⟩, ⟨2, true⟩, ⟨2, false⟩, ⟨2, false⟩]).map (fun dev => dev.tfaDev.calls) =
        some [⟨true, 5⟩, ⟨true, 0⟩, ⟨false, 5⟩, ⟨false, 0⟩] := by
    decide +kernel
  obtain ⟨dev, hdev, hcalls⟩ := Option.map_eq_some_iff.1 hrun
  exact ⟨dev, hdev, hcalls, (vendor_calls_alternate _ _ _ _ dev hdev).2⟩

end Universal7880
