import TableLoad.Calendar.Clock
import TableLoad.Text.Digits

/-!
# Text of dates, times and durations

Dates have four digits of year, and a sign when the year is outside 0 to 9999.
Fractions of a second have three, six or nine digits.  Durations are written in
seconds.
-/

set_option autoImplicit false

namespace TableLoad.Calendar

def yearText (year : Int) : List Char :=
  if 0 ≤ year ∧ year ≤ 9999 then Digits.padded 4 year.natAbs
  else (if year < 0 then '-' else '+') :: Digits.padded 4 year.natAbs

def Civil.text (civil : Civil) : List Char :=
  yearText civil.year ++ '-' :: Digits.padded 2 civil.month ++ '-' :: Digits.padded 2 civil.day

def Date.text (date : Date) : List Char :=
  date.civil.text

/-- The shortest of no, three, six or nine digits that shows the fraction of a
second. -/
def fractionText (nanos : Nat) : List Char :=
  if nanos = 0 then []
  else if nanos % 1000000 = 0 then '.' :: Digits.padded 3 (nanos / 1000000)
  else if nanos % 1000 = 0 then '.' :: Digits.padded 6 (nanos / 1000)
  else '.' :: Digits.padded 9 nanos

/-- Hours, minutes and seconds; a leap second shows as second 60. -/
def TimeOfDay.text (time : TimeOfDay) : List Char :=
  let leap := nanosPerSecond ≤ time.nanos
  let second := time.seconds % 60 + (if leap then 1 else 0)
  let nanos := if leap then time.nanos - nanosPerSecond else time.nanos
  Digits.padded 2 (time.seconds / 3600) ++ ':' :: Digits.padded 2 (time.seconds / 60 % 60) ++
    ':' :: Digits.padded 2 second ++ fractionText nanos

def Timestamp.text (timestamp : Timestamp) : List Char :=
  timestamp.date.text ++ ' ' :: timestamp.time.text

def stripZeros (digits : List Char) : List Char :=
  (digits.reverse.dropWhile (· = '0')).reverse

def Duration.text (duration : Duration) : List Char :=
  let sign := if duration.nanos < 0 then ['-'] else []
  let nanos := duration.nanos.natAbs
  if nanos = 0 then ['P', '0', 'D']
  else
    let seconds := Digits.ofNat (nanos / nanosPerSecond)
    let fraction := nanos % nanosPerSecond
    let tail := if fraction = 0 then [] else '.' :: stripZeros (Digits.padded 9 fraction)
    sign ++ ['P', 'T'] ++ seconds ++ tail ++ ['S']

end TableLoad.Calendar
