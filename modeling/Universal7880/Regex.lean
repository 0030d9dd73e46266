import Mathlib.Data.Nat.Notation
import Mathlib.Tactic.Common

/-!
# Regular expressions, as a backtracking matcher reads them

The patterns are sequences of single characters of a class and of greedy repetitions of such characters, with one group to
capture. The matcher tries the longest repetition first and gives characters back while what follows does not match; a search
takes the first position at which the pattern matches.

`Matches` says which texts a pattern stands for. A match that is found is one (`matchItems_eq_some`), and where there is one,
one is found (`isSome_matchItems`); for a group that is a repetition at the end of the pattern, `captured_eq_some` says what
is captured.
-/

namespace Regex

variable {α β : Type}

/-- One character of a class, or any number of them. -/
inductive Item (α : Type) where
  | one (p : α → Bool)
  | star (p : α → Bool)

/-- The characters of a text, one after the other. -/
def literal [DecidableEq α] (text : List α) : List (Item α) := text.map fun c => .one fun d => d = c

/-- One character of the class at least. -/
def plus (p : α → Bool) : List (Item α) := [.one p, .star p]

/-- The texts that a sequence of items stands for. -/
inductive Matches : List (Item α) → List α → Prop where
  | nil : Matches [] []
  | one {p items c s} : p c = true → Matches items s → Matches (.one p :: items) (c :: s)
  | star {p items s} (run : List α) : (∀ c ∈ run, p c = true) → Matches items s → Matches (.star p :: items) (run ++ s)

/-- A repetition, and what follows it: the longest one first. -/
def repeatGreedy (p : α → Bool) (follow : List α → Option β) : List α → Option β
  | [] => follow []
  | c :: s => if p c then (repeatGreedy p follow s).or (follow (c :: s)) else follow (c :: s)

/-- The items from the beginning of a text on, and what follows them on the rest of it. -/
def matchItems : List (Item α) → (List α → Option β) → List α → Option β
  | [], follow, s => follow s
  | .one _ :: _, _, [] => none
  | .one p :: items, follow, c :: s => if p c then matchItems items follow s else none
  | .star p :: items, follow, s => repeatGreedy p (matchItems items follow) s

/-- The pattern, with its group at the end, from the beginning of a text on: what the group captures. -/
def captured (before group : List (Item α)) (s : List α) : Option (List α) :=
  matchItems before (fun u => matchItems group (fun rest => some (u.take (u.length - rest.length))) u) s

/-- The group of the first match in a text. -/
def search (before group : List (Item α)) : List α → Option (List α)
  | [] => captured before group []
  | c :: s => (captured before group (c :: s)).or (search before group s)

/-! ## What a pattern stands for -/

theorem matches_append {items items' : List (Item α)} {s : List α} :
    Matches (items ++ items') s ↔ ∃ t u, s = t ++ u ∧ Matches items t ∧ Matches items' u := by
  constructor
  · intro h
    induction items generalizing s with
    | nil => exact ⟨[], s, rfl, .nil, h⟩
    | cons item items ih =>
      cases h with
      | one hp hrest =>
        obtain ⟨t, u, rfl, ht, hu⟩ := ih hrest
        exact ⟨_ :: t, u, rfl, .one hp ht, hu⟩
      | star run hrun hrest =>
        obtain ⟨t, u, rfl, ht, hu⟩ := ih hrest
        exact ⟨run ++ t, u, (List.append_assoc _ _ _).symm, .star run hrun ht, hu⟩
  · intro h
    obtain ⟨t, u, rfl, ht, hu⟩ := h
    induction ht with
    | nil => exact hu
    | one hp _ ih => exact .one hp ih
    | star run hrun _ ih =>
      rw [List.append_assoc]
      exact .star run hrun ih

theorem matches_literal [DecidableEq α] {text s : List α} : Matches (literal text) s ↔ s = text := by
  constructor
  · intro h
    induction text generalizing s with
    | nil =>
      cases h
      rfl
    | cons c text ih =>
      cases h with
      | one hp hrest => rw [ih hrest, of_decide_eq_true hp]
  · rintro rfl
    induction s with
    | nil => exact .nil
    | cons c s ih => exact .one (decide_eq_true rfl) ih

theorem matches_star {p : α → Bool} {s : List α} : Matches [.star p] s ↔ ∀ c ∈ s, p c = true := by
  constructor
  · intro h
    cases h with
    | star run hrun hrest =>
      cases hrest
      simpa using hrun
  · intro h
    simpa using Matches.star s h .nil

theorem matches_plus {p : α → Bool} {s : List α} : Matches (plus p) s ↔ s ≠ [] ∧ ∀ c ∈ s, p c = true := by
  constructor
  · intro h
    cases h with
    | one hp hrest => exact ⟨List.cons_ne_nil _ _, List.forall_mem_cons.2 ⟨hp, matches_star.1 hrest⟩⟩
  · intro h
    obtain ⟨hne, hall⟩ := h
    obtain ⟨c, s, rfl⟩ := List.exists_cons_of_ne_nil hne
    exact .one (hall c List.mem_cons_self) (matches_star.2 fun d hd => hall d (List.mem_cons_of_mem _ hd))

/-! ## The matcher -/

theorem repeatGreedy_eq_some {p : α → Bool} {follow : List α → Option β} {s : List α} {r : β}
    (h : repeatGreedy p follow s = some r) : ∃ run rest, s = run ++ rest ∧ (∀ c ∈ run, p c = true) ∧ follow rest = some r := by
  induction s with
  | nil => exact ⟨[], [], rfl, by simp, h⟩
  | cons c s ih =>
    rw [repeatGreedy] at h
    split at h
    case isFalse => exact ⟨[], c :: s, rfl, by simp, h⟩
    case isTrue hp =>
      rcases Option.or_eq_some_iff.1 h with hlonger | ⟨-, hhere⟩
      · obtain ⟨run, rest, rfl, hrun, hfollow⟩ := ih hlonger
        exact ⟨c :: run, rest, rfl, List.forall_mem_cons.2 ⟨hp, hrun⟩, hfollow⟩
      · exact ⟨[], c :: s, rfl, by simp, hhere⟩

theorem isSome_repeatGreedy {p : α → Bool} {follow : List α → Option β} {run rest : List α}
    (hrun : ∀ c ∈ run, p c = true) (h : (follow rest).isSome = true) :
    (repeatGreedy p follow (run ++ rest)).isSome = true := by
  induction run with
  | nil =>
    cases rest with
    | nil => exact h
    | cons c rest =>
      rw [List.nil_append, repeatGreedy]
      split_ifs
      · rw [Option.isSome_or, h, Bool.or_true]
      · exact h
  | cons c run ih =>
    rw [List.cons_append, repeatGreedy, if_pos (hrun c List.mem_cons_self), Option.isSome_or,
      ih fun d hd => hrun d (List.mem_cons_of_mem _ hd), Bool.true_or]

/-- What follows a repetition of a class and always matches gets what is left after the longest one. -/
theorem repeatGreedy_of_total {p : α → Bool} {follow : List α → Option β} (h : ∀ s, (follow s).isSome = true) (s : List α) :
    repeatGreedy p follow s = follow (s.dropWhile p) := by
  induction s with
  | nil => rfl
  | cons c s ih =>
    rw [repeatGreedy, List.dropWhile_cons]
    split_ifs
    · rw [ih, Option.or_of_isSome (h _)]
    · rfl

/-- A match that is found is one. -/
theorem matchItems_eq_some {items : List (Item α)} {follow : List α → Option β} {s : List α} {r : β}
    (h : matchItems items follow s = some r) : ∃ t rest, s = t ++ rest ∧ Matches items t ∧ follow rest = some r := by
  induction items generalizing s with
  | nil => exact ⟨[], s, rfl, .nil, h⟩
  | cons item items ih =>
    cases item with
    | one p =>
      cases s with
      | nil => cases h
      | cons c s =>
        rw [matchItems] at h
        split at h
        case isFalse => cases h
        case isTrue hp =>
          obtain ⟨t, rest, rfl, ht, hfollow⟩ := ih h
          exact ⟨c :: t, rest, rfl, .one hp ht, hfollow⟩
    | star p =>
      obtain ⟨run, rest, rfl, hrun, hrest⟩ := repeatGreedy_eq_some h
      obtain ⟨t, rest, rfl, ht, hfollow⟩ := ih hrest
      exact ⟨run ++ t, rest, (List.append_assoc _ _ _).symm, .star run hrun ht, hfollow⟩

/-- Where there is a match, one is found. -/
theorem isSome_matchItems {items : List (Item α)} {follow : List α → Option β} {t rest : List α} (ht : Matches items t)
    (h : (follow rest).isSome = true) : (matchItems items follow (t ++ rest)).isSome = true := by
  induction ht with
  | nil => exact h
  | one hp _ ih =>
    rw [List.cons_append, matchItems, if_pos hp]
    exact ih
  | star run hrun _ ih =>
    rw [List.append_assoc]
    exact isSome_repeatGreedy hrun ih

/-! ## A repetition as the group -/

/-- A group that is a repetition at the end captures the longest one, if there is any. -/
theorem matchItems_plus (p : α → Bool) (u : List α) :
    matchItems (plus p) (fun rest => some (u.take (u.length - rest.length))) u =
      if u.takeWhile p = [] then none else some (u.takeWhile p) := by
  cases u with
  | nil => rfl
  | cons c s =>
    by_cases hp : p c = true
    · have hlength : (s.takeWhile p).length + (s.dropWhile p).length = s.length := by
        rw [← List.length_append, List.takeWhile_append_dropWhile]
      have hcount : (c :: s).length - (s.dropWhile p).length = (s.takeWhile p).length + 1 := by
        rw [List.length_cons]
        omega
      have htake : s.take (s.takeWhile p).length = s.takeWhile p :=
        (List.prefix_iff_eq_take.1 (List.takeWhile_prefix p)).symm
      rw [plus, matchItems, if_pos hp, matchItems, repeatGreedy_of_total fun _ => rfl, matchItems, hcount,
        List.take_succ_cons, htake, List.takeWhile_cons_of_pos hp, if_neg (List.cons_ne_nil _ _)]
    · rw [plus, matchItems, if_neg hp, List.takeWhile_cons_of_neg hp, if_pos rfl]

/-- What is captured, and where. -/
theorem captured_eq_some {before : List (Item α)} {p : α → Bool} {s g : List α} (h : captured before (plus p) s = some g) :
    ∃ t u, s = t ++ u ∧ Matches before t ∧ u.takeWhile p = g ∧ g ≠ [] := by
  obtain ⟨t, u, rfl, ht, hu⟩ := matchItems_eq_some h
  rw [matchItems_plus] at hu
  split at hu
  case isTrue => cases hu
  case isFalse hne =>
    obtain rfl := Option.some.inj hu
    exact ⟨t, u, rfl, ht, rfl, hne⟩

theorem isSome_captured {before : List (Item α)} {p : α → Bool} {t u : List α} (ht : Matches before t)
    (hu : u.takeWhile p ≠ []) : (captured before (plus p) (t ++ u)).isSome = true := by
  refine isSome_matchItems ht ?_
  rw [matchItems_plus, if_neg hu]
  rfl

/-- A search finds the first position at which the pattern matches. -/
theorem search_eq_some_iff {before group : List (Item α)} {s g : List α} :
    search before group s = some g ↔
      ∃ skipped u, s = skipped ++ u ∧ captured before group u = some g ∧
        ∀ skipped' u', s = skipped' ++ u' → skipped'.length < skipped.length → captured before group u' = none := by
  induction s with
  | nil =>
    rw [search]
    constructor
    · exact fun h => ⟨[], [], rfl, h, fun _ _ _ hlt => absurd hlt (Nat.not_lt_zero _)⟩
    · intro h
      obtain ⟨skipped, u, heq, hu, -⟩ := h
      rw [(List.append_eq_nil_iff.1 heq.symm).2] at hu
      exact hu
  | cons c s ih =>
    rw [search]
    constructor
    · intro h
      rcases Option.or_eq_some_iff.1 h with hhere | ⟨hnot, hlater⟩
      · exact ⟨[], c :: s, rfl, hhere, fun _ _ _ hlt => absurd hlt (Nat.not_lt_zero _)⟩
      · obtain ⟨skipped, u, rfl, hu, hfirst⟩ := ih.1 hlater
        refine ⟨c :: skipped, u, rfl, hu, ?_⟩
        intro skipped' u' heq hlt
        cases skipped' with
        | nil =>
          rw [← hnot, heq]
          rfl
        | cons d skipped' =>
          obtain ⟨-, heq⟩ := List.cons.inj heq
          exact hfirst skipped' u' heq (Nat.lt_of_succ_lt_succ hlt)
    · intro h
      obtain ⟨skipped, u, heq, hu, hfirst⟩ := h
      cases skipped with
      | nil =>
        obtain rfl : c :: s = u := heq
        rw [hu]
        rfl
      | cons d skipped =>
        obtain ⟨-, rfl⟩ := List.cons.inj heq
        have hnot := hfirst [] _ rfl (Nat.succ_pos _)
        rw [hnot, Option.none_or]
        refine ih.2 ⟨skipped, u, rfl, hu, ?_⟩
        intro skipped' u' heq' hlt
        exact hfirst (c :: skipped') u' (by rw [heq']; rfl) (Nat.succ_lt_succ hlt)

end Regex
