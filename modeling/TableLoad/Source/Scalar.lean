import TableLoad.Calendar.Pattern
import TableLoad.Value.Basic

/-!
# Scalars in delimited text

A field of delimited text becomes the narrowest value it spells: nothing, a
truth value, an integer, a finite number, a date or a timestamp.  Anything else
is text and keeps its white space.
-/

set_option autoImplicit false

namespace TableLoad.Source

open Calendar Number

def isWord (word : String) (text : List Char) : Bool :=
  text.map Char.toLower = word.toList

def readSign : List Char → Bool × List Char
  | '-' :: rest => (true, rest)
  | '+' :: rest => (false, rest)
  | text => (false, text)

def integer? (text : List Char) : Option Int :=
  let (negative, digits) := readSign text
  if digits.isEmpty || !digits.all Digits.isDigit then none
  else
    let n := Digits.value 0 digits
    some (if negative then -(n : Int) else n)

def Value.ofInteger? (n : Int) : Option Value :=
  if -2147483648 ≤ n ∧ n ≤ 2147483647 then some (.int (Int32.ofInt n))
  else if -9223372036854775808 ≤ n ∧ n ≤ 9223372036854775807 then some (.long (Int64.ofInt n))
  else none

def exponent? : List Char → Option Int
  | [] => some 0
  | c :: rest => if c = 'e' ∨ c = 'E' then integer? rest else none

def double? (text : List Char) : Option Binary64 := do
  let (negative, text) := readSign text
  let (whole, rest) := Digits.takeAll text
  let (fraction, rest) :=
    match rest with
    | '.' :: rest => Digits.takeAll rest
    | rest => ([], rest)
  if whole.isEmpty && fraction.isEmpty then none
  else
    let exponent ← exponent? rest
    let x := Binary64.ofDecimal negative (Digits.value 0 (whole ++ fraction))
      (exponent - fraction.length)
    if x.isFinite then some x else none

def datePatterns : List Pattern :=
  ["Y-m-d", "m/d/Y", "d-m-Y", "d/m/Y"].map Pattern.ofString

def timestampPatterns : List Pattern :=
  ["Y-m-d H:M:S", "Y-m-dTH:M:S", "Y-m-d H:M:Sf", "Y-m-dTH:M:Sf", "Y-m-d H:M", "Y-m-dTH:M",
   "m/d/Y H:M:S", "d-m-Y H:M:S", "d/m/Y H:M:S"].map Pattern.ofString

def date? (text : List Char) : Option Date :=
  datePatterns.findSome? fun pattern => pattern.date? text

def timestamp? (text : List Char) : Option Timestamp :=
  timestampPatterns.findSome? fun pattern => pattern.timestamp? text

/-- The narrowest value a trimmed text spells, unless it is mere text. -/
def spelled? (text : List Char) : Option Value :=
  if text.isEmpty then some .null
  else if isWord "true" text then some (.bool true)
  else if isWord "false" text then some (.bool false)
  else
    ((integer? text).bind Value.ofInteger?).or
      (((double? text).map .double).or
        (((date? text).map .date).or
          ((timestamp? text).map .timestamp)))

def parseScalar (field : String) : Value :=
  (spelled? (Unicode.trim field.toList)).getD (.string field)

end TableLoad.Source
