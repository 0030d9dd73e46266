import Universal7880.CString
import Mathlib.Data.Int.Notation
import Mathlib.Data.List.Basic
import Mathlib.Data.List.TakeWhile
import Mathlib.Tactic.Common
import Mathlib.Tactic.SplitIfs

/-!
# Decimal integers in text

`decimal` writes an integer, `scanInt` reads the one a text begins with, as the C and C++ conversions do: white space is
skipped, a sign may stand before the digits, and the number ends where the digits end. `BeginsWithInt` says what such a text
is without reading it, and `scanInt_eq_some_iff` that the two agree. `BeginsWithInt.decimal` is the round trip.

A number has no bound here: what a conversion does with one that its type does not hold is a matter of the conversion.
-/

namespace Universal7880

/-! ## Writing -/

/-- The decimal digits of a natural number, with no leading zero. -/
def natDecimal (n : ℕ) : CString := (Nat.toDigits 10 n).map Char.toUInt8

/-- An integer in decimal, with a minus sign if it is negative. -/
def decimal (n : ℤ) : CString := if n < 0 then 45 :: natDecimal n.natAbs else natDecimal n.natAbs

/-! ## Reading -/

/-- The value of a string of decimal digits. -/
def digitsValue (digits : CString) : ℕ := digits.foldl (fun n c => 10 * n + (c.toNat - 48)) 0

/-- The sign of a number, as a factor, and the text after it. -/
def splitSign : CString → ℤ × CString
  | [] => (1, [])
  | c :: rest => if c = 45 then (-1, rest) else if c = 43 then (1, rest) else (1, c :: rest)

/-- The integer a text begins with: white space, an optional sign, and at least one digit. -/
def scanInt (s : CString) : Option ℤ :=
  let (factor, rest) := splitSign (s.dropWhile isspace)
  if rest.takeWhile isdigit = [] then none else some (factor * leadingNumber rest)

/-- The texts of a sign, and the factor each stands for. -/
inductive SignText : CString → ℤ → Prop where
  | none : SignText [] 1
  | plus : SignText [43] 1
  | minus : SignText [45] (-1)

/-- The text does not begin with a digit. -/
def NoDigitHead (s : CString) : Prop := ∀ c ∈ s.head?, isdigit c = false

/-- The text begins with the integer: white space, a sign or none, and digits up to something else. -/
inductive BeginsWithInt : CString → ℤ → Prop where
  | intro {blank sign digits rest : CString} {factor : ℤ} : (∀ c ∈ blank, isspace c = true) → SignText sign factor →
      digits ≠ [] → (∀ c ∈ digits, isdigit c = true) → NoDigitHead rest →
      BeginsWithInt (blank ++ (sign ++ (digits ++ rest))) (factor * digitsValue digits)

/-! ## Characters -/

theorem isdigit_iff (c : UInt8) : isdigit c = true ↔ 48 ≤ c.toNat ∧ c.toNat ≤ 57 := by
  simp [isdigit, UInt8.le_iff_toNat_le]

theorem isspace_iff (c : UInt8) : isspace c = true ↔ c.toNat = 32 ∨ 9 ≤ c.toNat ∧ c.toNat ≤ 13 := by
  simp [isspace, UInt8.le_iff_toNat_le, ← UInt8.toNat_inj]

/-- A digit is neither white space nor a sign. -/
theorem not_isspace_of_isdigit {c : UInt8} (h : isdigit c = true) : isspace c = false ∧ c ≠ 45 ∧ c ≠ 43 := by
  rw [isdigit_iff] at h
  refine ⟨?_, ?_, ?_⟩
  · rw [Bool.eq_false_iff, Ne, isspace_iff]
    omega
  · rintro rfl
    simp at h
  · rintro rfl
    simp at h

/-! ## What is read is what is written -/

theorem noDigitHead_nil : NoDigitHead [] := by
  intro c hc
  cases hc

/-- The digits of a text end where no digit follows. -/
theorem takeWhile_digits {digits rest : CString} (hd : ∀ c ∈ digits, isdigit c = true) (hr : NoDigitHead rest) :
    (digits ++ rest).takeWhile isdigit = digits := by
  rw [List.takeWhile_append_of_pos hd]
  cases rest with
  | nil => simp
  | cons c rest => simp [hr c (by simp)]

/-- A sign is split off before digits. -/
theorem splitSign_append {sign digits rest : CString} {factor : ℤ} (hs : SignText sign factor) (hne : digits ≠ [])
    (hd : ∀ c ∈ digits, isdigit c = true) : splitSign (sign ++ (digits ++ rest)) = (factor, digits ++ rest) := by
  obtain ⟨c, digits, rfl⟩ := List.exists_cons_of_ne_nil hne
  obtain ⟨-, hminus, hplus⟩ := not_isspace_of_isdigit (hd c (by simp))
  cases hs with
  | none => simp [splitSign, hminus, hplus]
  | plus => simp [splitSign]
  | minus => simp [splitSign]

/-- What comes after white space begins with none. -/
theorem dropWhile_blank {blank s : CString} (hb : ∀ c ∈ blank, isspace c = true) (hs : ∀ c ∈ s.head?, isspace c = false) :
    (blank ++ s).dropWhile isspace = s := by
  rw [List.dropWhile_append_of_pos hb]
  cases s with
  | nil => simp
  | cons c s => simp [hs c (by simp)]

/-- Neither a sign nor a digit is white space. -/
theorem not_isspace_head {sign digits rest : CString} {factor : ℤ} (hs : SignText sign factor) (hne : digits ≠ [])
    (hd : ∀ c ∈ digits, isdigit c = true) : ∀ c ∈ (sign ++ (digits ++ rest)).head?, isspace c = false := by
  obtain ⟨d, digits, rfl⟩ := List.exists_cons_of_ne_nil hne
  intro c hc
  cases hs with
  | none =>
    obtain rfl : d = c := by simpa using hc
    exact (not_isspace_of_isdigit (hd d (by simp))).1
  | plus =>
    obtain rfl : 43 = c := by simpa using hc
    decide
  | minus =>
    obtain rfl : 45 = c := by simpa using hc
    decide

theorem scanInt_of_begins {s : CString} {n : ℤ} (h : BeginsWithInt s n) : scanInt s = some n := by
  cases h with
  | intro hb hs hne hd hr =>
    unfold scanInt
    rw [dropWhile_blank hb (not_isspace_head hs hne hd), splitSign_append hs hne hd]
    simp [leadingNumber, takeWhile_digits hd hr, hne, digitsValue]

/-- The sign that is split off was the beginning of the text. -/
theorem splitSign_eq (s : CString) : ∃ sign, SignText sign (splitSign s).1 ∧ s = sign ++ (splitSign s).2 := by
  cases s with
  | nil => exact ⟨[], .none, rfl⟩
  | cons c s =>
    simp only [splitSign]
    split_ifs with hminus hplus
    · exact ⟨[45], .minus, by simp [hminus]⟩
    · exact ⟨[43], .plus, by simp [hplus]⟩
    · exact ⟨[], .none, rfl⟩

/-- `scanInt` reads the integer that a text begins with, and nothing else. -/
theorem scanInt_eq_some_iff {s : CString} {n : ℤ} : scanInt s = some n ↔ BeginsWithInt s n := by
  refine ⟨?_, scanInt_of_begins⟩
  intro h
  unfold scanInt at h
  obtain ⟨sign, hsign, hs⟩ := splitSign_eq (s.dropWhile isspace)
  generalize splitSign (s.dropWhile isspace) = p at h hsign hs
  rcases p with ⟨factor, rest⟩
  simp only at h hsign hs
  split_ifs at h with hdigits
  obtain rfl := Option.some.inj h
  have htext : s = s.takeWhile isspace ++ (sign ++ (rest.takeWhile isdigit ++ rest.dropWhile isdigit)) := by
    rw [List.takeWhile_append_dropWhile, ← hs, List.takeWhile_append_dropWhile]
  have hrest : NoDigitHead (rest.dropWhile isdigit) := by
    intro c hc
    have hhead := List.head?_dropWhile_not isdigit rest
    rw [hc] at hhead
    simpa using hhead
  rw [htext]
  exact .intro (fun c hc => List.mem_takeWhile_imp hc) hsign hdigits (fun c hc => List.mem_takeWhile_imp hc) hrest

/-! ## The round trip -/

theorem natDecimal_ne_nil (n : ℕ) : natDecimal n ≠ [] := by
  simp [natDecimal, Nat.toDigits_ne_nil]

/-- A digit character is a digit byte of the same value. -/
theorem isdigit_toUInt8 {c : Char} (h : c.isDigit = true) : isdigit c.toUInt8 = true ∧ c.toUInt8.toNat = c.toNat := by
  have hc : 48 ≤ c.toNat ∧ c.toNat ≤ 57 := by
    simp only [Char.isDigit, Bool.and_eq_true, decide_eq_true_eq, ge_iff_le, UInt32.le_iff_toNat_le] at h
    exact h
  have hbyte : c.toUInt8.toNat = c.toNat := by
    have hmod : c.toUInt8.toNat = c.toNat % 256 := by
      rw [Char.toUInt8, UInt32.toNat_toUInt8, Char.toNat]
    rw [hmod]
    omega
  rw [isdigit_iff, hbyte]
  exact ⟨hc, rfl⟩

theorem isdigit_of_mem_natDecimal {n : ℕ} {c : UInt8} (h : c ∈ natDecimal n) : isdigit c = true := by
  obtain ⟨d, hd, rfl⟩ := List.mem_map.1 h
  exact (isdigit_toUInt8 (Nat.isDigit_of_mem_toDigits (by decide) (by decide) hd)).1

theorem digitsValue_natDecimal (n : ℕ) : digitsValue (natDecimal n) = n := by
  have hchars : digitsValue (natDecimal n) = Nat.ofDigitChars 10 (Nat.toDigits 10 n) 0 := by
    rw [digitsValue, natDecimal, List.foldl_map, Nat.ofDigitChars_eq_foldl]
    refine List.foldl_ext _ _ _ ?_
    intro m c hc
    rw [(isdigit_toUInt8 (Nat.isDigit_of_mem_toDigits (by decide) (by decide) hc)).2]
    rfl
  rw [hchars, Nat.ofDigitChars_ten_toDigits]

/-- A written integer is read back, whatever comes after it but a digit. -/
theorem BeginsWithInt.decimal (n : ℤ) {rest : CString} (hr : NoDigitHead rest) :
    BeginsWithInt (decimal n ++ rest) n := by
  have hdigits : ∀ c ∈ natDecimal n.natAbs, isdigit c = true := fun c hc => isdigit_of_mem_natDecimal hc
  unfold Universal7880.decimal
  split_ifs with hneg
  · have h : BeginsWithInt ([] ++ ([45] ++ (natDecimal n.natAbs ++ rest))) (-1 * digitsValue (natDecimal n.natAbs)) :=
      .intro (by simp) .minus (natDecimal_ne_nil _) hdigits hr
    rw [digitsValue_natDecimal, show -1 * (n.natAbs : ℤ) = n by omega] at h
    simpa using h
  · have h : BeginsWithInt ([] ++ ([] ++ (natDecimal n.natAbs ++ rest))) (1 * digitsValue (natDecimal n.natAbs)) :=
      .intro (by simp) .none (natDecimal_ne_nil _) hdigits hr
    rw [digitsValue_natDecimal, show 1 * (n.natAbs : ℤ) = n by omega] at h
    simpa using h

/-- A text begins with one integer at most. -/
theorem BeginsWithInt.unique {s : CString} {m n : ℤ} (hm : BeginsWithInt s m) (hn : BeginsWithInt s n) : m = n :=
  Option.some.inj ((scanInt_of_begins hm).symm.trans (scanInt_of_begins hn))

theorem decimal_injective : Function.Injective Universal7880.decimal := by
  intro m n h
  have hm := BeginsWithInt.decimal m noDigitHead_nil
  rw [h] at hm
  exact hm.unique (.decimal n noDigitHead_nil)

theorem decimal_ne_nil (n : ℤ) : decimal n ≠ [] := by
  unfold decimal
  split_ifs
  · simp
  · exact natDecimal_ne_nil _

/-- A written integer holds no white space. -/
theorem not_isspace_of_mem_decimal {n : ℤ} {c : UInt8} (h : c ∈ decimal n) : isspace c = false := by
  unfold decimal at h
  split_ifs at h
  · rcases List.mem_cons.1 h with rfl | hc
    · decide
    · exact (not_isspace_of_isdigit (isdigit_of_mem_natDecimal hc)).1
  · exact (not_isspace_of_isdigit (isdigit_of_mem_natDecimal h)).1

end Universal7880
