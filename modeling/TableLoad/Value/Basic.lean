import TableLoad.Calendar.Clock
import TableLoad.Number.Binary
import TableLoad.Value.Decimal

/-!
# Values and records

A record carries values either by position or under names.  Records also occur
inside values, where they become rows.
-/

set_option autoImplicit false

namespace TableLoad

/-- Ways to carry values by position. -/
inductive Positional
  | tuple
  | sequence
  | row
deriving DecidableEq, Repr

/-- Ways to carry values under names. -/
inductive Keyed
  | mapping
  | row
deriving DecidableEq, Repr

mutual

inductive Value
  | null
  | bool (b : Bool)
  | int (n : Int32)
  | long (n : Int64)
  | float (x : Number.Binary32)
  | double (x : Number.Binary64)
  | decimal (d : Decimal)
  | string (text : String)
  | bytes (content : List UInt8)
  | date (d : Calendar.Date)
  | time (t : Calendar.TimeOfDay)
  | timestamp (t : Calendar.Timestamp)
  | duration (d : Calendar.Duration)
  | list (items : List Value)
  | map (entries : List (Value × Value))
  | record (r : Record)

/-- One input element: its values in order, with their names unless they are
carried by position. -/
inductive Record
  | positional (shape : Positional) (items : List Value)
  | named (shape : Keyed) (entries : List (String × Value))

end

abbrev Row := List Value

namespace Value

def isNull : Value → Bool
  | .null => true
  | _ => false

def kindName : Value → String
  | .null => "NULL"
  | .bool _ => "BOOLEAN"
  | .int _ => "INT"
  | .long _ => "BIGINT"
  | .float _ => "FLOAT"
  | .double _ => "DOUBLE"
  | .decimal _ => "DECIMAL"
  | .string _ => "STRING"
  | .bytes _ => "BYTES"
  | .date _ => "DATE"
  | .time _ => "TIME"
  | .timestamp _ => "TIMESTAMP"
  | .duration _ => "INTERVAL"
  | .list _ => "ARRAY"
  | .map _ => "MAP"
  | .record _ => "ROW"

end Value

/-- The five outward shapes of records. -/
inductive Shape
  | tuple
  | mapping
  | sequence
  | namedRow
  | row
deriving DecidableEq, Repr

def Shape.text : Shape → String
  | .tuple => "tuple"
  | .mapping => "mapping"
  | .sequence => "sequence"
  | .namedRow => "named row"
  | .row => "row"

namespace Record

def scalar (value : Value) : Record :=
  .positional .tuple [value]

def shape : Record → Shape
  | .positional .tuple _ => .tuple
  | .positional .sequence _ => .sequence
  | .positional .row _ => .row
  | .named .mapping _ => .mapping
  | .named .row _ => .namedRow

def values : Record → List Value
  | .positional _ items => items
  | .named _ entries => entries.map Prod.snd

def names? : Record → Option (List String)
  | .positional _ _ => none
  | .named _ entries => some (entries.map Prod.fst)

def arity : Record → Nat
  | .positional _ items => items.length
  | .named _ entries => entries.length

def isNamed : Record → Bool
  | .positional _ _ => false
  | .named _ _ => true

/-- The value under a name, or at a position if the record has no names. -/
def lookup? (record : Record) (name : String) (position : Nat) : Option Value :=
  match record with
  | .positional _ items => items[position]?
  | .named _ entries => entries.lookup name

/-- The value under a name or at a position; a missing value is null. -/
def valueAt (record : Record) (name : String) (position : Nat) : Value :=
  (record.lookup? name position).getD .null

/-- Puts an entry at its place among entries with increasing names, in place of
one of the same name. -/
def insertEntry (name : String) (value : Value) : List (String × Value) → List (String × Value)
  | [] => [(name, value)]
  | (other, held) :: rest =>
    if name < other then (name, value) :: (other, held) :: rest
    else if name = other then (name, value) :: rest
    else (other, held) :: insertEntry name value rest

/-- The mapping of some entries: names increase, and of several entries with one
name the last counts. -/
def mapping (entries : List (String × Value)) : Record :=
  .named .mapping (entries.foldl (fun sorted entry => insertEntry entry.1 entry.2 sorted) [])

structure RowNamesMismatch where
  names : Nat
  values : Nat
deriving DecidableEq, Repr

def RowNamesMismatch.message (mismatch : RowNamesMismatch) : String :=
  s!"A row with {mismatch.names} field names cannot carry {mismatch.values} values"

def namedRow (names : List String) (values : List Value) : Except RowNamesMismatch Record :=
  if names.length = values.length then .ok (.named .row (names.zip values))
  else .error ⟨names.length, values.length⟩

def NamesIncrease : List (String × Value) → Prop
  | [] => True
  | [_] => True
  | (a, _) :: (b, v) :: rest => a < b ∧ NamesIncrease ((b, v) :: rest)

theorem values_length (record : Record) : record.values.length = record.arity := by
  cases record <;> simp [values, arity]

end Record

end TableLoad
