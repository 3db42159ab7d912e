import TableLoad.Json.Read
import TableLoad.Number.Stepwise
import TableLoad.Source.Scalar

/-!
# JSON lines

One document on every line that is not blank.  Lists become tuples, objects
become mappings, and any other document is a record of one value.
-/

set_option autoImplicit false

namespace TableLoad.Source

open Number

/-! ## Values of documents -/

def maxOpen : Nat := 127

/-- The double of a numeral.  A digit before the point that does not fit any more counts
as a zero; behind the point, the first that does not fit ends the digits. -/
def numeralDouble? (n : Json.Numeral) : Option Binary64 :=
  let (whole, dropped) := gatherDigits 0 n.whole
  let (significand, ignored) := gatherDigits whole n.fraction
  let places : Int := n.fraction.length - ignored.length
  Binary64.ofParts? n.negative significand (dropped.length - places + n.writtenExponent)

/-- A whole number is an int or a long if it fits; any other number is a float,
as is a negative zero. -/
def numeralValue? (n : Json.Numeral) : Option Value :=
  let whole : Int := if n.negative then -(n.wholeValue : Int) else n.wholeValue
  let asInteger :=
    if n.isIntegral && !(n.negative && n.wholeValue = 0) then Value.ofInteger? whole else none
  asInteger.or ((numeralDouble? n).map .double)

def entriesOf? (read : Json → Option Value) (members : List (Option String × Json)) :
    Option (List (String × Value)) :=
  members.mapM fun member => do
    return (← member.1, ← read member.2)

def valueOf? : (room : Nat) → Json → Option Value
  | _, .null => some .null
  | _, .bool b => some (.bool b)
  | _, .number n => numeralValue? n
  | _, .string text => text.map .string
  | room + 1, .array items => (items.mapM (valueOf? room)).map .list
  | room + 1, .object members => (entriesOf? (valueOf? room) members).map fun entries =>
      .record (Record.mapping entries)
  | 0, .array _ => none
  | 0, .object _ => none

def recordOf? (json : Json) : Option Record :=
  match json with
  | .array items => (items.mapM (valueOf? (maxOpen - 1))).map (.positional .tuple)
  | .object members => (entriesOf? (valueOf? (maxOpen - 1)) members).map Record.mapping
  | json => (valueOf? maxOpen json).map Record.scalar

/-! ## Lines -/

def dropReturn : List Char → List Char
  | '\r' :: rest => rest
  | line => line

/-- The lines of a text; `line` is the open line, newest character first. -/
def splitLines : (line : List Char) → List Char → List (List Char)
  | [], [] => []
  | c :: line, [] => [(c :: line).reverse]
  | line, '\n' :: rest => (dropReturn line).reverse :: splitLines [] rest
  | line, c :: rest => splitLines (c :: line) rest

inductive JsonLinesError
  | invalidText
  | line (number : Nat)
deriving DecidableEq, Repr

def JsonLinesError.message : JsonLinesError → String
  | .invalidText => "JSON input is not valid UTF-8"
  | .line number => s!"Failed to parse JSON on line {number}"

def lineRecord? (line : List Char) : Option Record := do
  let (json, rest) ← Json.read (Utf8.encode (String.ofList line))
  if Json.isSpent rest then recordOf? json else none

def isBlankLine (line : List Char) : Bool :=
  (Unicode.trim line).isEmpty

def lineRecords : (number : Nat) → List (List Char) → Except JsonLinesError (List Record)
  | _, [] => .ok []
  | number, line :: rest =>
    if isBlankLine line then lineRecords (number + 1) rest
    else
      match lineRecord? line with
      | none => .error (.line number)
      | some record => (lineRecords (number + 1) rest).map (record :: ·)

def readJsonLinesText (text : List Char) : Except JsonLinesError (List Record) :=
  lineRecords 1 (splitLines [] text)

def readJsonLines (bytes : List UInt8) : Except JsonLinesError (List Record) :=
  match Utf8.decode bytes with
  | .ok text => readJsonLinesText text.toList
  | .error _ => .error .invalidText

end TableLoad.Source
