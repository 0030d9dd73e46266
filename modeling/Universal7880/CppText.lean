import Universal7880.Decimal
import Mathlib.Data.List.DropRight

/-!
# Text as the C++ library reads it

The conversions of `std::string` and of an input stream to `int`, and the two functions of `android-base/strings.h` that
take text apart. A conversion reads the number a text begins with (`scanInt`); the conversions differ in what they do when
there is none and when it does not fit an `int`: `stoi` throws, `extractInt` sets the failure of its stream and leaves,
zeroes or clamps the variable that was to be read.
-/

namespace Universal7880

/-- The characters of a source literal, which are all ASCII. -/
def ascii (s : String) : CString := s.toList.map Char.toUInt8

/-- The exceptions of the string conversions, `std::invalid_argument` and `std::out_of_range`. -/
inductive StdException where
  | invalidArgument | outOfRange
  deriving DecidableEq, Repr

/-- An `int` can hold the number. -/
def FitsInt (n : ℤ) : Prop := INT_MIN ≤ n ∧ n ≤ INT_MAX

instance (n : ℤ) : Decidable (FitsInt n) := inferInstanceAs (Decidable (_ ∧ _))

/-! ## Strings -/

/-- `std::string::substr`; `none` is the default count, up to the end. -/
def substr (s : CString) (pos : ℕ) (count : Option ℕ) : Except StdException CString :=
  if s.length < pos then .error .outOfRange else .ok ((s.drop pos).take (count.getD s.length))

/-- `std::to_string` of an `int`. -/
def stdToString (n : ℤ) : CString := decimal n

theorem stdToString_ne_nil (n : ℤ) : stdToString n ≠ [] := decimal_ne_nil n

/-- `std::stoi`: what follows the number is ignored. -/
def stoi (s : CString) : Except StdException ℤ :=
  match scanInt s with
  | none => .error .invalidArgument
  | some n => if FitsInt n then .ok n else .error .outOfRange

/-- `android::base::Trim`. -/
def trim (s : CString) : CString := (s.dropWhile isspace).rdropWhile isspace

/-- `android::base::Split`: the pieces between the delimiters, empty ones included. -/
def split (s delimiters : CString) : List CString := s.splitOnP delimiters.contains

/-! ## Streams -/

/-- What an extraction leaves: the failure of the stream, and what it has stored in its variable, if anything. -/
structure Extraction where
  fail : Bool
  stored : Option ℤ
  deriving DecidableEq, Repr

/-- `>>` into an `int`, on a stream that holds the text. At the end of the text the variable is not touched; where no number
is written it becomes zero; a number that does not fit is clamped. -/
def extractInt (text : CString) : Extraction :=
  if text.dropWhile isspace = [] then ⟨true, none⟩
  else
    match scanInt text with
    | none => ⟨true, some 0⟩
    | some n =>
      if n < INT_MIN then ⟨true, some INT_MIN⟩ else if INT_MAX < n then ⟨true, some INT_MAX⟩ else ⟨false, some n⟩

/-- The variable after the extraction, from what it held before. -/
def Extraction.value (e : Extraction) (before : ℤ) : ℤ := e.stored.getD before

/-! ## What the conversions make of a text that begins with a number -/

/-- `stoi` delivers the number a text begins with if it fits, and throws otherwise. -/
theorem stoi_eq_ok_iff {s : CString} {n : ℤ} : stoi s = .ok n ↔ BeginsWithInt s n ∧ FitsInt n := by
  unfold stoi
  rw [← scanInt_eq_some_iff]
  cases scanInt s with
  | none => simp
  | some m =>
    by_cases hm : FitsInt m
    · simp only [if_pos hm, Except.ok.injEq, Option.some.injEq]
      exact ⟨fun h => ⟨h, h ▸ hm⟩, And.left⟩
    · simp only [if_neg hm, reduceCtorEq, Option.some.injEq, false_iff, not_and]
      exact fun h => h ▸ hm

/-- White space alone holds no number. -/
theorem scanInt_of_blank {s : CString} (h : s.dropWhile isspace = []) : scanInt s = none := by
  simp [scanInt, h, splitSign]

/-- A written `int` is read back. -/
theorem begins_stdToString (n : ℤ) : BeginsWithInt (stdToString n) n := by
  have h := BeginsWithInt.decimal n noDigitHead_nil
  rw [List.append_nil] at h
  exact h

theorem not_blank_of_begins {s : CString} {n : ℤ} (h : BeginsWithInt s n) : s.dropWhile isspace ≠ [] := by
  intro hblank
  have hscan := scanInt_eq_some_iff.2 h
  rw [scanInt_of_blank hblank] at hscan
  cases hscan

/-- The extraction of a number that fits. -/
theorem extractInt_of_fits {text : CString} {n : ℤ} (h : BeginsWithInt text n) (hn : FitsInt n) :
    extractInt text = ⟨false, some n⟩ := by
  have hlow : ¬ n < INT_MIN := Int.not_lt.2 hn.1
  have hhigh : ¬ INT_MAX < n := Int.not_lt.2 hn.2
  simp [extractInt, not_blank_of_begins h, scanInt_eq_some_iff.2 h, hlow, hhigh]

/-- The variable after the extraction of a number is that number, clamped if it does not fit. -/
theorem value_of_begins {text : CString} {n : ℤ} (h : BeginsWithInt text n) (before : ℤ) :
    (extractInt text).value before = if n < INT_MIN then INT_MIN else if INT_MAX < n then INT_MAX else n := by
  simp only [extractInt, if_neg (not_blank_of_begins h), scanInt_eq_some_iff.2 h]
  split_ifs <;> rfl

/-- The variable after the extraction from a text that begins with no number: untouched or zero. -/
theorem value_of_not_begins {text : CString} (h : ∀ n, ¬ BeginsWithInt text n) (before : ℤ) :
    (extractInt text).value before = if text.dropWhile isspace = [] then before else 0 := by
  have hscan : scanInt text = none := Option.eq_none_iff_forall_ne_some.2 fun n hn => h n (scanInt_eq_some_iff.1 hn)
  unfold extractInt
  rw [hscan]
  split_ifs <;> rfl

/-! ## Trimmed texts -/

/-- The text is not empty, and neither begins nor ends with white space. -/
structure Trimmed (s : CString) : Prop where
  ne_nil : s ≠ []
  head : ∀ c ∈ s.head?, isspace c = false
  last : ∀ c ∈ s.getLast?, isspace c = false

/-- White space around a trimmed text is taken away, and nothing else. -/
theorem Trimmed.trim_append {s blank : CString} (h : Trimmed s) (hb : ∀ c ∈ blank, isspace c = true) :
    trim (s ++ blank) = s := by
  obtain ⟨c, rest, rfl⟩ := List.exists_cons_of_ne_nil h.ne_nil
  have hhead : isspace c = false := h.head c (by simp)
  have hfront : ((c :: rest) ++ blank).dropWhile isspace = (c :: rest) ++ blank := by
    rw [List.cons_append, List.dropWhile_cons_of_neg (by simp [hhead])]
  have hback : ((c :: rest) ++ blank).rdropWhile isspace = (c :: rest).rdropWhile isspace := by
    rw [List.rdropWhile, List.reverse_append, List.dropWhile_append_of_pos (by simpa using hb)]
    rfl
  rw [trim, hfront, hback, List.rdropWhile_eq_self_iff]
  intro hne
  simpa using h.last _ (List.getLast?_eq_getLast_of_ne_nil hne)

/-- Text between two trimmed texts does not matter. -/
theorem Trimmed.append {s t : CString} (hs : Trimmed s) (middle : CString) (ht : Trimmed t) :
    Trimmed (s ++ (middle ++ t)) := by
  refine ⟨by simp [hs.ne_nil], ?_, ?_⟩
  · intro c hc
    rw [List.head?_append_of_ne_nil _ hs.ne_nil] at hc
    exact hs.head c hc
  · intro c hc
    rw [← List.append_assoc, List.getLast?_append_of_ne_nil _ ht.ne_nil] at hc
    exact ht.last c hc

theorem trimmed_decimal (n : ℤ) : Trimmed (decimal n) :=
  ⟨decimal_ne_nil n, fun _ hc => not_isspace_of_mem_decimal (List.mem_of_mem_head? hc),
    fun _ hc => not_isspace_of_mem_decimal (List.mem_of_mem_getLast? hc)⟩

/-! ## Texts with blanks between the pieces -/

/-- Trimmed pieces joined by blanks are trimmed. -/
theorem trimmed_intercalate (separator : CString) {pieces : List CString} (hne : pieces ≠ []) (h : ∀ s ∈ pieces, Trimmed s) :
    Trimmed (separator.intercalate pieces) := by
  induction pieces with
  | nil => exact absurd rfl hne
  | cons piece pieces ih =>
    have hpiece := h piece List.mem_cons_self
    cases pieces with
    | nil => simpa using hpiece
    | cons next pieces =>
      rw [List.intercalate_cons_cons, List.append_assoc]
      exact hpiece.append separator (ih (by simp) fun s hs => h s (List.mem_cons_of_mem _ hs))

/-- `Split` at a character takes apart what was joined by it, if no piece holds it. -/
theorem split_intercalate (c : UInt8) {pieces : List CString} (hne : pieces ≠ []) (h : ∀ s ∈ pieces, c ∉ s) :
    split ([c].intercalate pieces) [c] = pieces := by
  have hchar : (fun d => [c].contains d) = (· == c) := by
    funext d
    rw [List.contains_cons, List.contains_nil, Bool.or_false]
  have hsplit := List.splitOn_intercalate c h hne
  rw [List.splitOn_eq_splitOnP, ← hchar] at hsplit
  exact hsplit

/-! ## Conversions of several texts -/

/-- A conversion of several texts succeeds exactly if that of each does. -/
theorem mapM_ok_iff {α β ε : Type} (f : α → Except ε β) (xs : List α) :
    (∃ ys, xs.mapM f = .ok ys) ↔ ∀ x ∈ xs, ∃ y, f x = .ok y := by
  induction xs with
  | nil => simp [pure, Except.pure]
  | cons x xs ih =>
    rw [List.mapM_cons, List.forall_mem_cons, ← ih]
    cases hx : f x with
    | error e => simp [bind, Except.bind]
    | ok y => cases hxs : xs.mapM f <;> simp [bind, Except.bind, pure, Except.pure]

/-- What a conversion of several texts delivers. -/
theorem mapM_eq_ok {α β ε : Type} {f : α → Except ε β} {g : β → α} (h : ∀ y, f (g y) = .ok y) (ys : List β) :
    (ys.map g).mapM f = .ok ys := by
  induction ys with
  | nil => rfl
  | cons y ys ih =>
    rw [List.map_cons, List.mapM_cons, h, ih]
    rfl

end Universal7880
