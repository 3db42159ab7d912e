/-!
# Dates

Days of the proleptic Gregorian calendar, counted so that day 1 is the first of
January of year 1.  A date is such a number in the years -262143 to 262142; the
civil form of a date is computed from the number.
-/

set_option autoImplicit false

namespace TableLoad.Calendar

def isLeapYear (year : Int) : Bool :=
  year % 4 = 0 && (year % 100 != 0 || year % 400 = 0)

def daysBeforeYear (year : Int) : Int :=
  365 * (year - 1) + (year - 1) / 4 - (year - 1) / 100 + (year - 1) / 400

def monthLengths (year : Int) : List Nat :=
  [31, if isLeapYear year then 29 else 28, 31, 30, 31, 30, 31, 31, 30, 31, 30, 31]

/-- The year a day number falls in: an estimate from the mean length of a year,
which is off by at most one. -/
def yearOfDay (number : Int) : Int :=
  let estimate := (400 * (number - 1)) / 146097 + 1
  if number ≤ daysBeforeYear estimate then estimate - 1
  else if daysBeforeYear (estimate + 1) < number then estimate + 1
  else estimate

/-- Month and day at an offset into the months of the given lengths, the first
of which has number `month`. -/
def walkMonths : (month : Nat) → List Nat → (offset : Nat) → Nat × Nat
  | month, [], offset => (month, offset + 1)
  | month, length :: rest, offset =>
    if offset < length then (month, offset + 1)
    else walkMonths (month + 1) rest (offset - length)

def firstDay : Int := -95746129

def lastDay : Int := 95745399

/-- A day of the calendar, by its number. -/
structure Date where
  number : Int
  inRange : firstDay ≤ number ∧ number ≤ lastDay
deriving DecidableEq, Repr

/-- Year, month from 1 and day from 1. -/
structure Civil where
  year : Int
  month : Nat
  day : Nat
deriving DecidableEq, Repr

namespace Date

def ofNumber? (number : Int) : Option Date :=
  if inRange : firstDay ≤ number ∧ number ≤ lastDay then some ⟨number, inRange⟩ else none

def civil (date : Date) : Civil :=
  let year := yearOfDay date.number
  let offset := (date.number - daysBeforeYear year - 1).toNat
  let (month, day) := walkMonths 1 (monthLengths year) offset
  ⟨year, month, day⟩

def ofCivil? (civil : Civil) : Option Date :=
  let lengths := monthLengths civil.year
  match civil.month, lengths[civil.month - 1]? with
  | 0, _ => none
  | _, none => none
  | month + 1, some length =>
    if 1 ≤ civil.day ∧ civil.day ≤ length then
      let before := (lengths.take month).foldl Nat.add 0
      ofNumber? (daysBeforeYear civil.year + before + civil.day)
    else none

end Date

end TableLoad.Calendar
