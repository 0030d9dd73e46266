import Universal7880.MdnieNodes

/-!
# Writing the colours and reading them back

`calibration_round_trip`: the colours that were set are the colours that are read, whatever their number, their signs and
the white space the node adds. `getters_survive`: for which contents of the nodes the two getters return at all.
-/

namespace Universal7880

/-! ## The round trip -/

/-- What `setCalibration` collects is the numbers joined by blanks, and a blank. -/
theorem calibrationContents_eq {rgb : List Int32} (hne : rgb ≠ []) :
    calibrationContents rgb = (ascii " ").intercalate (rgb.map fun color => stdToString color.toInt) ++ ascii " " := by
  have hfold : ∀ (rgb : List Int32) (contents : CString), rgb ≠ [] →
      rgb.foldl (fun contents color => contents ++ (stdToString color.toInt ++ ascii " ")) contents =
        contents ++ ((ascii " ").intercalate (rgb.map fun color => stdToString color.toInt) ++ ascii " ") := by
    intro rgb
    induction rgb with
    | nil => intro contents h; exact absurd rfl h
    | cons color rgb ih =>
      intro contents _
      rw [List.foldl_cons]
      cases rgb with
      | nil => simp
      | cons next rgb =>
        rw [ih _ (by simp)]
        simp [List.intercalate_cons_cons]
  simpa [calibrationContents] using hfold rgb [] hne

/-- The number of an `int32_t` is read back as it was written. -/
theorem stoi_stdToString (color : Int32) : (stoi (stdToString color.toInt)).map Int32.ofInt = .ok color := by
  have hfits : FitsInt color.toInt := ⟨Int32.minValue_le_toInt color, Int32.toInt_le color⟩
  rw [stoi_eq_ok_iff.2 ⟨begins_stdToString _, hfits⟩]
  simp [Except.map]

/-- The colours that were written are read back, with white space after them. -/
theorem getCalibration_calibrationContents {rgb : List Int32} (hne : rgb ≠ []) {blank : CString}
    (hblank : ∀ c ∈ blank, isspace c = true) :
    getCalibration (some (trim (calibrationContents rgb) ++ blank)) = .ok rgb := by
  have hpieces : ∀ s ∈ rgb.map (fun color => stdToString color.toInt), Trimmed s ∧ 32 ∉ s := by
    intro s hs
    obtain ⟨color, -, rfl⟩ := List.mem_map.1 hs
    refine ⟨trimmed_decimal _, ?_⟩
    intro hmem
    cases not_isspace_of_mem_decimal hmem
  have htrimmed : Trimmed ((ascii " ").intercalate (rgb.map fun color => stdToString color.toInt)) :=
    trimmed_intercalate _ (by simpa using hne) fun s hs => (hpieces s hs).1
  have hcontents : trim (calibrationContents rgb) =
      (ascii " ").intercalate (rgb.map fun color => stdToString color.toInt) := by
    rw [calibrationContents_eq hne]
    exact htrimmed.trim_append (by decide +kernel)
  have hsplit : split (trim (trim (calibrationContents rgb) ++ blank)) (ascii " ") =
      rgb.map fun color => stdToString color.toInt := by
    rw [hcontents, htrimmed.trim_append hblank]
    exact split_intercalate 32 (by simpa using hne) fun s hs => (hpieces s hs).2
  simp only [getCalibration, hsplit]
  exact mapM_eq_ok (f := fun color => (stoi color).map Int32.ofInt) stoi_stdToString rgb

/-- The colour calibration is a round trip: what is read after a `setCalibration` that returned true is what it was given,
from the text it has written with any white space after it. -/
theorem calibration_round_trip (rgb : List Int32) (hne : rgb ≠ []) (env : WriteEnv) (node node' : File)
    (hset : setCalibration env rgb node = (true, node')) (written : CString) (hwritten : node'.contents = some written)
    (blank : CString) (hblank : ∀ c ∈ blank, isspace c = true) :
    getCalibration (some (written ++ blank)) = .ok rgb := by
  have hread : written = trim (calibrationContents rgb) :=
    Option.some.inj (hwritten.symm.trans (contents_of_writeStringToFile hset))
  rw [hread]
  exact getCalibration_calibrationContents hne hblank

/-- Three colours, read back with the newline that the kernel adds. -/
theorem calibration_round_trip_three :
    getCalibration (some (ascii "255 -2147483648 7" ++ [10])) = .ok [255, -2147483648, 7] :=
  calibration_round_trip [255, -2147483648, 7] (by decide) ⟨true, true⟩ ⟨none, []⟩ _ rfl _ (by decide +kernel) [10]
    (by decide +kernel)

/-! ## Contents that throw -/

/-- The text begins with a number that fits an `int`. -/
def HoldsInt (s : CString) : Prop := ∃ n, BeginsWithInt s n ∧ FitsInt n

theorem stoi_ok_iff (s : CString) : (∃ n, stoi s = .ok n) ↔ HoldsInt s := by
  simp only [stoi_eq_ok_iff, HoldsInt]

/-- A result that is converted is a result. -/
theorem map_ok_iff {α β ε : Type} (f : α → β) (x : Except ε α) : (∃ y, x.map f = .ok y) ↔ ∃ a, x = .ok a := by
  cases x <;> simp [Except.map]

/-- The getters return exactly if their node cannot be read, or every piece between blanks of the trimmed contents of
`sensorRGB`, respectively the trimmed contents of `lux`, begins with a number that fits an `int`. -/
theorem getters_survive (sensorRGB lux : Option CString) :
    ((∃ rgb, getCalibration sensorRGB = .ok rgb) ↔
      ∀ text, sensorRGB = some text → ∀ color ∈ split (trim text) (ascii " "), HoldsInt color) ∧
    ((∃ enabled, isEnabled lux = .ok enabled) ↔ ∀ text, lux = some text → HoldsInt (trim text)) := by
  constructor
  · cases sensorRGB with
    | none => simp [getCalibration]
    | some tmp =>
      simp only [getCalibration, mapM_ok_iff, map_ok_iff, stoi_ok_iff, Option.some.injEq, forall_eq']
  · cases lux with
    | none => simp [isEnabled, Except.map]
    | some tmp => simp only [isEnabled, map_ok_iff, stoi_ok_iff, Option.some.injEq, forall_eq']

/-- Nodes that can be read and are empty end both getters. -/
theorem empty_node_throws :
    ¬ ∀ sensorRGB lux, (∃ rgb, getCalibration sensorRGB = .ok rgb) ∧ ∃ enabled, isEnabled lux = .ok enabled := by
  intro h
  obtain ⟨⟨rgb, hrgb⟩, -⟩ := h (some []) (some [])
  cases hrgb

end Universal7880
