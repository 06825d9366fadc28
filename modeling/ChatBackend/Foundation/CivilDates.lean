import Mathlib.Algebra.Ring.Nat
import Mathlib.Data.List.Basic
import Mathlib.Tactic.SplitIfs

/-!
# Civil dates

Days are numbered from the first of January 1970, in the Gregorian calendar
without end in both directions.  A `CivilDate` carries the bounds of its month
and its day.  `dayNumber_dateOf` says that the date of a day is the date of no
other day.
-/

namespace ChatBackend.Foundation.CivilDates

/-! ## Years -/

def IsLeap (year : Int) : Prop :=
  year % 4 = 0 ∧ (year % 100 ≠ 0 ∨ year % 400 = 0)

instance (year : Int) : Decidable (IsLeap year) :=
  inferInstanceAs (Decidable (_ ∧ _))

def leapDays (year : Int) : Nat :=
  if IsLeap year then 1 else 0

/-- The number of the first day of a year. -/
def firstDay (year : Int) : Int :=
  365 * (year - 1970) + (year - 1969) / 4 - (year - 1901) / 100 +
    (year - 1601) / 400

theorem firstDay_succ (year : Int) :
    firstDay (year + 1) = firstDay year + 365 + leapDays year := by
  by_cases leap : IsLeap year
  · rw [leapDays, if_pos leap]
    unfold IsLeap at leap
    unfold firstDay
    omega
  · rw [leapDays, if_neg leap]
    unfold IsLeap at leap
    unfold firstDay
    omega

/-- A year that is off by one at most. -/
def nearbyYear (day : Int) : Int :=
  1970 + 400 * day / 146097

theorem nearbyYear_bounds (day : Int) :
    firstDay (nearbyYear day - 1) ≤ day ∧
      day < firstDay (nearbyYear day + 2) := by
  unfold firstDay nearbyYear
  omega

/-- The year of a day. -/
def yearOf (day : Int) : Int :=
  if day < firstDay (nearbyYear day) then nearbyYear day - 1
  else if day < firstDay (nearbyYear day + 1) then nearbyYear day
  else nearbyYear day + 1

theorem yearOf_bounds (day : Int) :
    firstDay (yearOf day) ≤ day ∧ day < firstDay (yearOf day + 1) := by
  rcases nearbyYear_bounds day with ⟨lower, upper⟩
  unfold yearOf
  split_ifs with before within
  · rw [Int.sub_add_cancel]
    exact ⟨lower, before⟩
  · exact ⟨Int.not_lt.mp before, within⟩
  · rw [Int.add_assoc]
    exact ⟨Int.not_lt.mp within, upper⟩

/-! ## Segments -/

/-- The segment of a position, and the offset of the position in it. -/
def locate : List Nat → Nat → Nat × Nat
  | [], position => (0, position)
  | length :: rest, position =>
      if position < length then (0, position)
      else
        let later := locate rest (position - length)
        (later.1 + 1, later.2)

/-- The first position of a segment. -/
def segmentStart (lengths : List Nat) (segment : Nat) : Nat :=
  (lengths.take segment).sum

theorem locate_bounds
    {lengths : List Nat} {position : Nat}
    (inside : position < lengths.sum) :
    (locate lengths position).1 < lengths.length ∧
      (locate lengths position).2 <
          lengths.getD (locate lengths position).1 0 ∧
        segmentStart lengths (locate lengths position).1 +
            (locate lengths position).2 =
          position := by
  induction lengths generalizing position with
  | nil => simp at inside
  | cons length rest induction =>
      unfold locate
      split_ifs with first
      · simpa [segmentStart] using first
      · rw [List.sum_cons] at inside
        have later : position - length < rest.sum := by omega
        rcases induction later with ⟨known, within, same⟩
        refine ⟨by simpa using known, by simpa using within, ?_⟩
        simp only [segmentStart, List.take_succ_cons, List.sum_cons]
        unfold segmentStart at same
        omega

/-! ## Dates -/

def monthLengths (year : Int) : List Nat :=
  [31, 28 + leapDays year, 31, 30, 31, 30, 31, 31, 30, 31, 30, 31]

theorem monthLengths_sum (year : Int) :
    (monthLengths year).sum = 365 + leapDays year := by
  simp only [monthLengths, List.sum_cons, List.sum_nil]
  omega

def daysInMonth (year : Int) (month : Nat) : Nat :=
  (monthLengths year).getD (month - 1) 0

structure CivilDate where
  year : Int
  month : Nat
  day : Nat
  month_range : 1 ≤ month ∧ month ≤ 12
  day_range : 1 ≤ day ∧ day ≤ daysInMonth year month
deriving DecidableEq

/-- The day of the year, where the first day is `0`. -/
def CivilDate.dayOfYear (date : CivilDate) : Nat :=
  segmentStart (monthLengths date.year) (date.month - 1) + (date.day - 1)

def CivilDate.dayNumber (date : CivilDate) : Int :=
  firstDay date.year + date.dayOfYear

def dayOfYear (day : Int) : Nat :=
  (day - firstDay (yearOf day)).toNat

theorem dayOfYear_spec (day : Int) :
    firstDay (yearOf day) + dayOfYear day = day ∧
      dayOfYear day < (monthLengths (yearOf day)).sum := by
  rcases yearOf_bounds day with ⟨lower, upper⟩
  rw [firstDay_succ] at upper
  rw [monthLengths_sum]
  unfold dayOfYear
  omega

/-- The month and the day in it, both counted from `0`. -/
def monthAndDay (day : Int) : Nat × Nat :=
  locate (monthLengths (yearOf day)) (dayOfYear day)

/-- The date of a day. -/
def dateOf (day : Int) : CivilDate where
  year := yearOf day
  month := (monthAndDay day).1 + 1
  day := (monthAndDay day).2 + 1
  month_range := by
    have month : (monthAndDay day).1 < 12 :=
      (locate_bounds (dayOfYear_spec day).2).1
    omega
  day_range := by
    have inMonth := (locate_bounds (dayOfYear_spec day).2).2.1
    exact ⟨Nat.succ_pos _, inMonth⟩

theorem dayNumber_dateOf (day : Int) : (dateOf day).dayNumber = day := by
  rcases dayOfYear_spec day with ⟨same, inside⟩
  have located := (locate_bounds inside).2.2
  have ofYear : (dateOf day).dayOfYear = dayOfYear day := located
  rw [CivilDate.dayNumber, ofYear]
  exact same

example : (dateOf 20603).year = 2026 ∧ (dateOf 20603).month = 5 := by
  decide

end ChatBackend.Foundation.CivilDates
