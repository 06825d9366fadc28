import ChatBackend.Foundation.CivilDates
import ChatBackend.Wire.JsonPrinting

/-!
# Times as texts

`Date.prototype.toISOString`, and how its texts are read back: by `new Date`,
and by the casts of PostgreSQL, which know no year zero and take the years up
to 9999 in this form.

A year outside of 0 to 9999 stands with its sign and six digits.  Of the texts
that `new Date` accepts only this form is read here, since the services read
no times but those that they have written.
-/

namespace ChatBackend.Wire.IsoTimes

open ChatBackend.Foundation.CivilDates
open ChatBackend.Realtime.JsonTexts

/-! ## Numbers of a fixed width -/

/-- The character of a digit. -/
def digitCharacter (digit : Nat) : Char :=
  Char.ofNat (0x30 + digit)

/-- The last digits of a number. -/
def padded : Nat → Nat → List Char
  | 0, _ => []
  | width + 1, number =>
      digitCharacter (number / 10 ^ width % 10) :: padded width number

/-- As many digits as the width says, and what follows. -/
def readPadded : Nat → List Char → Option (Nat × List Char)
  | 0, input => some (0, input)
  | _ + 1, [] => none
  | width + 1, character :: rest => do
      if isDigit character then
        let (lower, after) ← readPadded width rest
        return ((character.toNat - 0x30) * 10 ^ width + lower, after)
      else none

/-- A digit is read back. -/
theorem digitCharacter_spec {digit : Nat} (small : digit < 10) :
    isDigit (digitCharacter digit) = true ∧
      (digitCharacter digit).toNat - 0x30 = digit := by
  revert digit
  decide

theorem isDigit_of_padded
    {width number : Nat} {character : Char}
    (member : character ∈ padded width number) :
    isDigit character = true := by
  induction width with
  | zero => cases member
  | succ width induction =>
      rcases List.mem_cons.mp member with rfl | later
      · exact (digitCharacter_spec (Nat.mod_lt _ (by decide))).1
      · exact induction later

/-- A padded number is read back, without the digits that do not fit. -/
theorem readPadded_padded
    (width number : Nat) (rest : List Char) :
    readPadded width (padded width number ++ rest) =
      some (number % 10 ^ width, rest) := by
  induction width with
  | zero => simp [readPadded, padded, Nat.mod_one]
  | succ width induction =>
      have small : number / 10 ^ width % 10 < 10 :=
        Nat.mod_lt _ (by decide)
      rcases digitCharacter_spec small with ⟨digit, code⟩
      have joined :
          number / 10 ^ width % 10 * 10 ^ width + number % 10 ^ width =
            number % 10 ^ (width + 1) := by
        rw [Nat.pow_succ, Nat.mod_mul, Nat.mul_comm, Nat.add_comm]
      rw [padded, List.cons_append, readPadded, if_pos digit, induction]
      simp [code, joined]

/-! ## Texts of times -/

/-- Four digits, or a sign and six digits. -/
def yearText (year : Int) : List Char :=
  if 0 ≤ year ∧ year ≤ 9999 then padded 4 year.toNat
  else (if year < 0 then '-' else '+') :: padded 6 year.natAbs

/-- The date up to the letter `T`. -/
def dateText (date : CivilDate) : List Char :=
  yearText date.year ++ '-' :: (padded 2 date.month ++
    '-' :: padded 2 date.day)

/-- The text of the milliseconds of a day. -/
def clockText (time : Nat) : List Char :=
  padded 2 (time / 3600000) ++ ':' :: (padded 2 (time / 60000 % 60) ++
    ':' :: (padded 2 (time / 1000 % 60) ++
      '.' :: (padded 3 (time % 1000) ++ ['Z'])))

/-- A day in milliseconds. -/
def millisPerDay : Int := 86400000

/-- `Date.prototype.toISOString`, for the times that a `Date` can hold. -/
def toISOString (time : Int) : String :=
  String.ofList
    (dateText (dateOf (time / millisPerDay)) ++
      'T' :: clockText (time % millisPerDay).toNat)

example : toISOString 1780000000123 = "2026-05-28T20:26:40.123Z" := by
  decide +kernel

/-! ## Reading -/

/-- One character that has to come. -/
def expect (wanted : Char) : List Char → Option (List Char)
  | [] => none
  | first :: rest => if first = wanted then some rest else none

/-- The year, in either form. -/
def readYear : List Char → Option (Int × List Char)
  | '+' :: rest => do
      let (year, after) ← readPadded 6 rest
      return (year, after)
  | '-' :: rest => do
      let (year, after) ← readPadded 6 rest
      if year = 0 then none else return (-year, after)
  | input => do
      let (year, after) ← readPadded 4 input
      return (year, after)

/-- A date, with its signs. -/
def readDate (input : List Char) : Option (CivilDate × List Char) := do
  let (year, afterYear) ← readYear input
  let (month, afterMonth) ← readPadded 2 (← expect '-' afterYear)
  let (day, after) ← readPadded 2 (← expect '-' afterMonth)
  if valid :
      (1 ≤ month ∧ month ≤ 12) ∧
        (1 ≤ day ∧ day ≤ daysInMonth year month) then
    return (⟨year, month, day, valid.1, valid.2⟩, after)
  else none

/-- A time of the day, up to the end of the text. -/
def readClock (input : List Char) : Option Nat := do
  let (hours, afterHours) ← readPadded 2 input
  let (minutes, afterMinutes) ← readPadded 2 (← expect ':' afterHours)
  let (seconds, afterSeconds) ← readPadded 2 (← expect ':' afterMinutes)
  let (millis, after) ← readPadded 3 (← expect '.' afterSeconds)
  let rest ← expect 'Z' after
  if rest = [] ∧ hours < 24 ∧ minutes < 60 ∧ seconds < 60 then
    return hours * 3600000 + minutes * 60000 + seconds * 1000 + millis
  else none

/-- `new Date(text).getTime()`; none is an invalid date. -/
def readTime (text : String) : Option Int := do
  let (date, after) ← readDate text.toList
  let time ← readClock (← expect 'T' after)
  return date.dayNumber * millisPerDay + time

/-! ## The round trip -/

theorem expect_cons (wanted : Char) (rest : List Char) :
    expect wanted (wanted :: rest) = some rest := by
  simp [expect]

theorem digitCharacter_ne_sign {digit : Nat} (small : digit < 10) :
    digitCharacter digit ≠ '+' ∧ digitCharacter digit ≠ '-' := by
  revert digit
  decide

/-- The digits of a year are no sign. -/
theorem readYear_padded (number : Nat) (rest : List Char) :
    readYear (padded 4 number ++ rest) =
      some (((number % 10 ^ 4 : Nat) : Int), rest) := by
  have read := readPadded_padded 4 number rest
  rw [padded, List.cons_append] at read ⊢
  rcases digitCharacter_ne_sign
      (Nat.mod_lt (number / 10 ^ 3) (by decide : 0 < 10)) with
    ⟨notPlus, notMinus⟩
  rw [readYear, read]
  · rfl
  · intro tail same
    exact notPlus (List.cons.inj same).1
  · intro tail same
    exact notMinus (List.cons.inj same).1

/-- A year is read back. -/
theorem readYear_yearText
    {year : Int} (range : -999999 ≤ year ∧ year ≤ 999999)
    (rest : List Char) :
    readYear (yearText year ++ rest) = some (year, rest) := by
  unfold yearText
  split_ifs with fourDigits negative
  · have whole : ((year.toNat % 10 ^ 4 : Nat) : Int) = year := by omega
    rw [readYear_padded, whole]
  · have whole : year.natAbs % 10 ^ 6 = year.natAbs := by omega
    have nonzero : year.natAbs ≠ 0 := by omega
    have signed : -(year.natAbs : Int) = year := by omega
    rw [List.cons_append, readYear, readPadded_padded, whole]
    simp only [Option.bind_eq_bind, Option.bind_some, if_neg nonzero,
      signed]
    rfl
  · have whole : year.natAbs % 10 ^ 6 = year.natAbs := by omega
    have unsigned : (year.natAbs : Int) = year := by omega
    rw [List.cons_append, readYear, readPadded_padded, whole]
    simp only [Option.bind_eq_bind, Option.bind_some, unsigned]
    rfl

theorem daysInMonth_le (year : Int) (month : Nat) :
    daysInMonth year month ≤ 31 := by
  have leap : leapDays year ≤ 1 := by
    unfold leapDays
    split_ifs <;> decide
  unfold daysInMonth monthLengths
  rw [List.getD_eq_getElem?_getD]
  cases found :
      ([31, 28 + leapDays year, 31, 30, 31, 30, 31, 31, 30, 31, 30,
        31] : List Nat)[month - 1]? with
  | none => simp
  | some length =>
      have member := List.mem_of_getElem? found
      simp only [List.mem_cons, List.not_mem_nil, or_false] at member
      simp only [Option.getD_some]
      omega

/-- A date is read back. -/
theorem readDate_dateText
    (date : CivilDate)
    (range : -999999 ≤ date.year ∧ date.year ≤ 999999)
    (rest : List Char) :
    readDate (dateText date ++ rest) = some (date, rest) := by
  have month : date.month % 10 ^ 2 = date.month := by
    have := date.month_range
    omega
  have day : date.day % 10 ^ 2 = date.day := by
    have := date.day_range
    have := daysInMonth_le date.year date.month
    omega
  simp only [readDate, dateText, List.append_assoc, List.cons_append,
    readYear_yearText range, readPadded_padded, expect_cons,
    Option.bind_eq_bind, Option.bind_some, month, day]
  rw [dif_pos ⟨date.month_range, date.day_range⟩]
  rfl

/-- A time of the day is read back. -/
theorem readClock_clockText
    {time : Nat} (inDay : time < 86400000) :
    readClock (clockText time) = some time := by
  have hours : time / 3600000 % 10 ^ 2 = time / 3600000 := by omega
  have minutes : time / 60000 % 60 % 10 ^ 2 = time / 60000 % 60 := by
    omega
  have seconds : time / 1000 % 60 % 10 ^ 2 = time / 1000 % 60 := by omega
  have millis : time % 1000 % 10 ^ 3 = time % 1000 := by omega
  simp only [readClock, clockText, readPadded_padded, expect_cons,
    Option.bind_eq_bind, Option.bind_some, hours, minutes, seconds,
    millis]
  rw [if_pos ⟨trivial, by omega, by omega, by omega⟩]
  simp only [pure, Option.some.injEq]
  omega

/-- The times that a `Date` can hold: 100 000 000 days around 1970. -/
def IsTime (time : Int) : Prop :=
  -8640000000000000 ≤ time ∧ time ≤ 8640000000000000

theorem IsTime.year_range {time : Int} (isTime : IsTime time) :
    -999999 ≤ yearOf (time / millisPerDay) ∧
      yearOf (time / millisPerDay) ≤ 999999 := by
  have bounds := yearOf_bounds (time / millisPerDay)
  unfold IsTime at isTime
  unfold firstDay millisPerDay at *
  omega

/-- A time is read back from its text. -/
theorem readTime_toISOString {time : Int} (isTime : IsTime time) :
    readTime (toISOString time) = some time := by
  have inDay : (time % millisPerDay).toNat < 86400000 := by
    unfold millisPerDay
    omega
  have joined :
      time / millisPerDay * millisPerDay +
          ((time % millisPerDay).toNat : Int) =
        time := by
    unfold millisPerDay
    omega
  simp only [readTime, toISOString, String.toList_ofList,
    readDate_dateText (dateOf (time / millisPerDay)) isTime.year_range,
    Option.bind_eq_bind, Option.bind_some, expect_cons,
    readClock_clockText inDay, dayNumber_dateOf, joined]
  rfl

end ChatBackend.Wire.IsoTimes
