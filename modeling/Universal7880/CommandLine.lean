import Mathlib.Data.Nat.Notation
import Mathlib.Tactic.Common

/-!
# Command lines

A command line is a list of words, some of which take the word after them as their value. `read` takes it apart and `words`
writes arguments down. What is read are the words of the line (`words_of_read`), well-formed arguments are read back
(`read_words`), and only a line that ends in a word without its value is not read (`read_eq_none_iff`).

A program that sets its variables argument by argument leaves in each what was assigned last (`foldl_assign`, `foldl_flag`).
-/

namespace CommandLine

variable {W β : Type} {takes : W → Bool}

/-- A word, with its value if it takes one. -/
structure Argument (W : Type) where
  word : W
  value : Option W
  deriving DecidableEq, Repr

/-- A word has a value if it takes one, and only then. -/
def Argument.WellFormed (takes : W → Bool) (a : Argument W) : Prop := a.value.isSome = takes a.word

/-- The words of arguments. -/
def words (args : List (Argument W)) : List W := args.flatMap fun a => a.word :: a.value.toList

/-- The arguments of a line; there are none if its last word lacks its value. -/
def read (takes : W → Bool) : List W → Option (List (Argument W))
  | [] => some []
  | word :: rest =>
    if takes word then
      match rest with
      | [] => none
      | value :: rest => (read takes rest).map (⟨word, some value⟩ :: ·)
    else (read takes rest).map (⟨word, none⟩ :: ·)

@[simp] theorem words_nil : words ([] : List (Argument W)) = [] := rfl

@[simp] theorem words_cons (a : Argument W) (args : List (Argument W)) :
    words (a :: args) = a.word :: (a.value.toList ++ words args) := rfl

/-! ## Reading and writing -/

@[simp] theorem read_nil : read takes ([] : List W) = some [] := by rw [read]

theorem read_takes {word : W} (h : takes word = true) (value : W) (rest : List W) :
    read takes (word :: value :: rest) = (read takes rest).map (⟨word, some value⟩ :: ·) := by
  rw [read, if_pos h]

theorem read_takes_last {word : W} (h : takes word = true) : read takes [word] = none := by
  rw [read, if_pos h]

theorem read_alone {word : W} (h : takes word = false) (rest : List W) :
    read takes (word :: rest) = (read takes rest).map (⟨word, none⟩ :: ·) := by
  cases rest <;> simp [read, h]

/-- What is read is well formed, and its words are the line. -/
theorem words_of_read {line : List W} {args : List (Argument W)} (h : read takes line = some args) :
    (∀ a ∈ args, a.WellFormed takes) ∧ words args = line := by
  induction line using read.induct takes generalizing args with
  | case1 =>
    obtain rfl := Option.some.inj h
    simp
  | case2 word htakes =>
    rw [read_takes_last htakes] at h
    cases h
  | case3 word htakes value rest ih =>
    simp only [read_takes htakes, Option.map_eq_some_iff] at h
    obtain ⟨args, hargs, rfl⟩ := h
    obtain ⟨hformed, rfl⟩ := ih hargs
    exact ⟨List.forall_mem_cons.2 ⟨htakes.symm, hformed⟩, rfl⟩
  | case4 word rest htakes ih =>
    simp only [read_alone (Bool.eq_false_iff.2 htakes), Option.map_eq_some_iff] at h
    obtain ⟨args, hargs, rfl⟩ := h
    obtain ⟨hformed, rfl⟩ := ih hargs
    exact ⟨List.forall_mem_cons.2 ⟨by simpa [Argument.WellFormed] using htakes, hformed⟩, rfl⟩

/-- Well-formed arguments are read first, and then the rest of the line. -/
theorem read_append {args : List (Argument W)} (h : ∀ a ∈ args, a.WellFormed takes) (rest : List W) :
    read takes (words args ++ rest) = (read takes rest).map (args ++ ·) := by
  induction args with
  | nil => cases hrest : read takes rest <;> simp [hrest]
  | cons a args ih =>
    obtain ⟨ha, hargs⟩ := List.forall_mem_cons.1 h
    rcases a with ⟨word, _ | value⟩
    case none =>
      have htakes : takes word = false := ha.symm
      simp [read_alone htakes, ih hargs, Function.comp_def]
    case some =>
      have htakes : takes word = true := ha.symm
      simp [read_takes htakes, ih hargs, Function.comp_def]

/-- Well-formed arguments are read back. -/
theorem read_words {args : List (Argument W)} (h : ∀ a ∈ args, a.WellFormed takes) : read takes (words args) = some args := by
  have hread := read_append h []
  simpa [read] using hread

/-- A line is read as given arguments exactly if they are well formed and its words are theirs. -/
theorem read_eq_some_iff {line : List W} {args : List (Argument W)} :
    read takes line = some args ↔ (∀ a ∈ args, a.WellFormed takes) ∧ words args = line := by
  constructor
  · exact words_of_read
  · rintro ⟨hformed, rfl⟩
    exact read_words hformed

/-- A line is not read exactly if its last word takes a value and has none. -/
theorem read_eq_none_iff {line : List W} :
    read takes line = none ↔
      ∃ args last, (∀ a ∈ args, a.WellFormed takes) ∧ takes last = true ∧ words args ++ [last] = line := by
  constructor
  · intro h
    induction line using read.induct takes with
    | case1 => cases h
    | case2 word htakes => exact ⟨[], word, by simp, htakes, rfl⟩
    | case3 word htakes value rest ih =>
      simp only [read_takes htakes, Option.map_eq_none_iff] at h
      obtain ⟨args, last, hformed, hlast, rfl⟩ := ih h
      exact ⟨⟨word, some value⟩ :: args, last, List.forall_mem_cons.2 ⟨htakes.symm, hformed⟩, hlast, rfl⟩
    | case4 word rest htakes ih =>
      simp only [read_alone (Bool.eq_false_iff.2 htakes), Option.map_eq_none_iff] at h
      obtain ⟨args, last, hformed, hlast, rfl⟩ := ih h
      have hword : Argument.WellFormed takes ⟨word, none⟩ := by simpa [Argument.WellFormed] using htakes
      exact ⟨⟨word, none⟩ :: args, last, List.forall_mem_cons.2 ⟨hword, hformed⟩, hlast, rfl⟩
  · rintro ⟨args, last, hformed, hlast, rfl⟩
    rw [read_append hformed]
    simp [read_takes_last hlast]

/-! ## Variables -/

variable {V : Type}

/-- A variable that some arguments assign holds what the last of them assigns. -/
theorem foldl_assign {step : V → Argument W → V} {var : V → β} {assigned : Argument W → Option β}
    (hstep : ∀ v a, var (step v a) = (assigned a).getD (var v)) (args : List (Argument W)) (v : V) :
    var (args.foldl step v) = ((args.filterMap assigned).getLast?).getD (var v) := by
  induction args generalizing v with
  | nil => rfl
  | cons a args ih =>
    rw [List.foldl_cons, ih, hstep]
    cases ha : assigned a with
    | none => rw [List.filterMap_cons_none ha, Option.getD_none]
    | some b => rw [List.filterMap_cons_some ha, List.getLast?_cons, Option.getD_some, Option.getD_some]

/-- A flag that some arguments set to one value has it as soon as there is one of them. -/
theorem foldl_flag {step : V → Argument W → V} {var : V → β} {sets : Argument W → Bool} {b : β}
    (hstep : ∀ v a, var (step v a) = if sets a then b else var v) (args : List (Argument W)) (v : V) :
    var (args.foldl step v) = if args.any sets then b else var v := by
  induction args generalizing v with
  | nil => rfl
  | cons a args ih =>
    rw [List.foldl_cons, ih, hstep, List.any_cons]
    cases sets a <;> cases args.any sets <;> rfl

end CommandLine
