import TableLoad.Text.Digits
import TableLoad.Text.Hex
import TableLoad.Text.Utf8

/-!
# JSON documents

Documents as they are written: members keep their order and their repetitions,
numbers keep their digits.  A string whose escapes or bytes are no text is kept
as such, since it only matters where the string is used.
-/

set_option autoImplicit false

namespace TableLoad

namespace Json

/-- A written number: its digits before the point, after it, and those of its
signed exponent. -/
structure Numeral where
  negative : Bool
  whole : List Char
  fraction : List Char
  exponent : Option (Bool × List Char)
deriving DecidableEq, Repr

namespace Numeral

def isIntegral (n : Numeral) : Bool :=
  n.fraction.isEmpty && n.exponent.isNone

def wholeValue (n : Numeral) : Nat :=
  Digits.value 0 n.whole

def writtenExponent (n : Numeral) : Int :=
  match n.exponent with
  | none => 0
  | some (true, digits) => -(Digits.value 0 digits : Int)
  | some (false, digits) => (Digits.value 0 digits : Int)

def ofNat (n : Nat) : Numeral :=
  { negative := false, whole := Digits.ofNat n, fraction := [], exponent := none }

end Numeral

end Json

/-- A document.  The text of a string is missing when it has none. -/
inductive Json
  | null
  | bool (b : Bool)
  | number (n : Json.Numeral)
  | string (text : Option String)
  | array (items : List Json)
  | object (members : List (Option String × Json))

end TableLoad
