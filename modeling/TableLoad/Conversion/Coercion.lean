import TableLoad.DataType.Basic
import TableLoad.Value.Basic

/-!
# Coercion of atomic values

Stores a value in an atomic type if the type can represent it: booleans and
numbers widen, a long narrows to an int that holds it, a decimal is written with
the digits of its column.
-/

set_option autoImplicit false

namespace TableLoad

open Number

def Value.ofBool : Bool → Int
  | true => 1
  | false => 0

/-- The value as the type stores it, if it can. -/
def coerce? : Atom → Value → Option Value
  | .boolean, .bool b => some (.bool b)
  | .int, .bool b => some (.int (Int32.ofInt (Value.ofBool b)))
  | .int, .int n => some (.int n)
  | .int, .long n =>
    if -2147483648 ≤ n.toInt ∧ n.toInt ≤ 2147483647 then some (.int (Int32.ofInt n.toInt))
    else none
  | .bigInt, .bool b => some (.long (Int64.ofInt (Value.ofBool b)))
  | .bigInt, .int n => some (.long (Int64.ofInt n.toInt))
  | .bigInt, .long n => some (.long n)
  | .float, .bool b => some (.float (if b then .one else .zero))
  | .float, .int n => some (.float (Binary32.ofInt n.toInt))
  | .float, .long n => some (.float (Binary32.ofInt n.toInt))
  | .float, .float x => some (.float x)
  | .double, .bool b => some (.double (if b then .one else .zero))
  | .double, .int n => some (.double (Binary64.ofInt n.toInt))
  | .double, .long n => some (.double (Binary64.ofInt n.toInt))
  | .double, .float x => some (.double (Binary64.ofBinary32 x))
  | .double, .double x => some (.double x)
  | .decimal precision scale, .decimal d =>
    match d.rescale? scale with
    | some d => if d.digits ≤ precision.toNat then some (.decimal d) else none
    | none => none
  | .string, .string text => some (.string text)
  | .bytes, .bytes content => some (.bytes content)
  | .date, .date d => some (.date d)
  | .time, .time t => some (.time t)
  | .timestamp, .timestamp t => some (.timestamp t)
  | .interval, .duration d => some (.duration d)
  | _, _ => none

end TableLoad
