import Mathlib.Data.List.Basic

/-!
# Patterns of character classes

Regular expressions without groups and alternatives, anchored at both ends: a
list of classes, each with the number of its repetitions.  `Matches` cuts a
word into one segment for each class; `test` searches for such a cut.
-/

namespace ChatBackend.Foundation.ClassPatterns

variable {Character : Type}

/-- A class with its bounds; without an upper bound it repeats at will. -/
structure Repeat (Character : Type) where
  accepts : Character → Bool
  atLeast : Nat
  atMost : Option Nat

def Repeat.once (accepts : Character → Bool) : Repeat Character where
  accepts := accepts
  atLeast := 1
  atMost := some 1

def Repeat.star (accepts : Character → Bool) : Repeat Character where
  accepts := accepts
  atLeast := 0
  atMost := none

def Repeat.plus (accepts : Character → Bool) : Repeat Character where
  accepts := accepts
  atLeast := 1
  atMost := none

/-- A segment consists of characters of the class, as many as allowed. -/
def Repeat.Admits
    (item : Repeat Character) (segment : List Character) : Prop :=
  item.atLeast ≤ segment.length ∧
    (∀ limit ∈ item.atMost, segment.length ≤ limit) ∧
      ∀ character ∈ segment, item.accepts character = true

instance (item : Repeat Character) (segment : List Character) :
    Decidable (item.Admits segment) :=
  inferInstanceAs (Decidable (_ ∧ _ ∧ _))

inductive Matches : List (Repeat Character) → List Character → Prop where
  | nil : Matches [] []
  | cons
      {item : Repeat Character} {items : List (Repeat Character)}
      {segment rest : List Character} :
      item.Admits segment → Matches items rest →
        Matches (item :: items) (segment ++ rest)

/-- Whether the word can be cut, tried with every length of a segment. -/
def test : List (Repeat Character) → List Character → Bool
  | [], word => word.isEmpty
  | item :: items, word =>
      (List.range (word.length + 1)).any fun length =>
        decide (item.Admits (word.take length)) &&
          test items (word.drop length)

theorem matches_nil_iff {word : List Character} :
    Matches [] word ↔ word = [] := by
  constructor
  · rintro ⟨⟩
    rfl
  · rintro rfl
    exact .nil

theorem matches_cons_iff
    {item : Repeat Character} {items : List (Repeat Character)}
    {word : List Character} :
    Matches (item :: items) word ↔
      ∃ segment rest,
        word = segment ++ rest ∧ item.Admits segment ∧
          Matches items rest := by
  constructor
  · rintro ⟨⟩
    exact ⟨_, _, rfl, ‹_›, ‹_›⟩
  · rintro ⟨segment, rest, rfl, admits, later⟩
    exact .cons admits later

theorem test_iff
    {items : List (Repeat Character)} {word : List Character} :
    test items word = true ↔ Matches items word := by
  induction items generalizing word with
  | nil => simp [test, matches_nil_iff]
  | cons item items induction =>
      simp only [test, List.any_eq_true, Bool.and_eq_true,
        decide_eq_true_eq, induction, matches_cons_iff, List.mem_range]
      constructor
      · rintro ⟨length, _, admits, later⟩
        exact
          ⟨_, _, (List.take_append_drop length word).symm, admits, later⟩
      · rintro ⟨segment, rest, rfl, admits, later⟩
        refine ⟨segment.length, ?_, ?_, ?_⟩
        · simp only [List.length_append]
          omega
        · rw [List.take_left]
          exact admits
        · rw [List.drop_left]
          exact later

/-! ## Single classes -/

theorem admits_once_iff
    {accepts : Character → Bool} {segment : List Character} :
    (Repeat.once accepts).Admits segment ↔
      ∃ character, segment = [character] ∧ accepts character = true := by
  constructor
  · rintro ⟨lower, upper, inClass⟩
    have single : segment.length = 1 :=
      Nat.le_antisymm (upper 1 rfl) lower
    rcases List.length_eq_one_iff.mp single with ⟨character, rfl⟩
    exact ⟨character, rfl, inClass character List.mem_cons_self⟩
  · rintro ⟨character, rfl, inClass⟩
    exact
      ⟨Nat.le_refl 1, fun limit same => by cases same; exact Nat.le_refl 1,
        List.forall_mem_singleton.mpr inClass⟩

theorem admits_star_iff
    {accepts : Character → Bool} {segment : List Character} :
    (Repeat.star accepts).Admits segment ↔
      ∀ character ∈ segment, accepts character = true := by
  simp [Repeat.Admits, Repeat.star]

theorem admits_plus_iff
    {accepts : Character → Bool} {segment : List Character} :
    (Repeat.plus accepts).Admits segment ↔
      segment ≠ [] ∧
        ∀ character ∈ segment, accepts character = true := by
  simp [Repeat.Admits, Repeat.plus, Nat.succ_le_iff, List.length_pos_iff]

/-- A class that stands once takes the first character. -/
theorem matches_once_iff
    {accepts : Character → Bool} {items : List (Repeat Character)}
    {word : List Character} :
    Matches (Repeat.once accepts :: items) word ↔
      ∃ character rest,
        word = character :: rest ∧ accepts character = true ∧
          Matches items rest := by
  rw [matches_cons_iff]
  constructor
  · rintro ⟨segment, rest, rfl, admits, later⟩
    rcases admits_once_iff.mp admits with ⟨character, rfl, inClass⟩
    exact ⟨character, rest, rfl, inClass, later⟩
  · rintro ⟨character, rest, rfl, inClass, later⟩
    exact
      ⟨[character], rest, rfl,
        admits_once_iff.mpr ⟨character, rfl, inClass⟩, later⟩

/-- The last class takes what is left. -/
theorem matches_singleton_iff
    {item : Repeat Character} {word : List Character} :
    Matches [item] word ↔ item.Admits word := by
  simp [matches_cons_iff, matches_nil_iff]

end ChatBackend.Foundation.ClassPatterns
