import TableLoad.Calendar.Clock
import TableLoad.Text.Digits
import TableLoad.Unicode.WhiteSpace

/-!
# Reading dates and timestamps by pattern

A pattern is a list of parts read one after the other.  Numbers may be preceded
by white space.  A pattern reads a text only as a whole.
-/

set_option autoImplicit false

namespace TableLoad.Calendar

inductive Field
  | month
  | day
  | hour
  | minute
  | second
deriving DecidableEq, Repr

inductive Part
  /-- A signed number of any length, or up to four digits. -/
  | year
  /-- One or two digits. -/
  | field (which : Field)
  /-- A point and digits, or nothing; digits after the ninth are dropped. -/
  | fraction
  /-- Any amount of white space, also none. -/
  | blank
  | literal (c : Char)
deriving DecidableEq, Repr

abbrev Pattern := List Part

namespace Pattern

def partOf : Char → Part
  | 'Y' => .year
  | 'm' => .field .month
  | 'd' => .field .day
  | 'H' => .field .hour
  | 'M' => .field .minute
  | 'S' => .field .second
  | 'f' => .fraction
  | ' ' => .blank
  | c => .literal c

/-- The pattern of a text in which `Y m d H M S f` and the blank stand for the
parts and any other character for itself. -/
def ofString (text : String) : Pattern :=
  text.toList.map partOf

end Pattern

structure Reading where
  year : Int
  month : Nat
  day : Nat
  hour : Nat
  minute : Nat
  second : Nat
  fraction : Nat
deriving DecidableEq, Repr

namespace Reading

def start : Reading := ⟨0, 0, 0, 0, 0, 0, 0⟩

def set (reading : Reading) (value : Nat) : Field → Reading
  | .month => { reading with month := value }
  | .day => { reading with day := value }
  | .hour => { reading with hour := value }
  | .minute => { reading with minute := value }
  | .second => { reading with second := value }

def date? (reading : Reading) : Option Date :=
  Date.ofCivil? ⟨reading.year, reading.month, reading.day⟩

/-- The time that was read; second 60 is the leap second of second 59. -/
def time? (reading : Reading) : Option TimeOfDay :=
  if reading.hour < 24 ∧ reading.minute < 60 ∧ reading.second ≤ 60 then
    let leap := if reading.second = 60 then 1 else 0
    TimeOfDay.of? (reading.hour * 3600 + reading.minute * 60 + (reading.second - leap))
      (leap * nanosPerSecond + reading.fraction)
  else none

end Reading

def readYear? (text : List Char) : Option (Int × List Char) :=
  match text with
  | '-' :: rest => (Digits.read? rest.length rest).map fun (n, rest) => (-(n : Int), rest)
  | '+' :: rest => (Digits.read? rest.length rest).map fun (n, rest) => ((n : Int), rest)
  | _ => (Digits.read? 4 text).map fun (n, rest) => ((n : Int), rest)

def readFraction? (text : List Char) : Option (Nat × List Char) :=
  match Digits.takeUpTo 9 text with
  | ([], _) => none
  | (digits, rest) =>
    some (Digits.value 0 digits * Nat.pow 10 (9 - digits.length), rest.dropWhile Digits.isDigit)

def Part.read? (reading : Reading) (text : List Char) : Part → Option (Reading × List Char)
  | .year =>
    (readYear? (Unicode.trimStart text)).map fun (n, rest) => ({ reading with year := n }, rest)
  | .field which =>
    (Digits.read? 2 (Unicode.trimStart text)).map fun (n, rest) => (reading.set n which, rest)
  | .fraction =>
    match text with
    | '.' :: rest =>
      (readFraction? rest).map fun (nanos, rest) => ({ reading with fraction := nanos }, rest)
    | _ => some (reading, text)
  | .blank => some (reading, Unicode.trimStart text)
  | .literal c =>
    match text with
    | [] => none
    | d :: rest => if c = d then some (reading, rest) else none

def Pattern.read? (reading : Reading) : Pattern → List Char → Option Reading
  | [], [] => some reading
  | [], _ :: _ => none
  | part :: parts, text =>
    match part.read? reading text with
    | none => none
    | some (reading, rest) => Pattern.read? reading parts rest

def Pattern.date? (pattern : Pattern) (text : List Char) : Option Date := do
  (← pattern.read? Reading.start text).date?

def Pattern.timestamp? (pattern : Pattern) (text : List Char) : Option Timestamp := do
  let reading ← pattern.read? Reading.start text
  return ⟨← reading.date?, ← reading.time?⟩

end TableLoad.Calendar
