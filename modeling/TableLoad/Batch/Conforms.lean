import TableLoad.DataType.Basic
import TableLoad.Value.Basic

/-!
# Values as columns store them

A decoded value belongs to a column exactly when it is what the column stores:
no widening, decimals at the scale of the column, rows as wide as their type.
-/

set_option autoImplicit false

namespace TableLoad

def Atom.stores : Atom → Value → Bool
  | .boolean, .bool _ => true
  | .int, .int _ => true
  | .bigInt, .long _ => true
  | .float, .float _ => true
  | .double, .double _ => true
  | .string, .string _ => true
  | .bytes, .bytes _ => true
  | .date, .date _ => true
  | .time, .time _ => true
  | .timestamp, .timestamp _ => true
  | .interval, .duration _ => true
  | .decimal precision scale, .decimal d => d.scale = scale && d.digits ≤ precision.toNat
  | _, _ => false

mutual

def conforms : DataType → Value → Bool
  | type, .null => type.nullable
  | .atom kind _, value => kind.stores value
  | .array element _, .list items => items.all fun item => conforms element item
  | .map key value _, .map entries =>
    entries.all fun entry => conforms key entry.1 && conforms value entry.2
  | .row fields _, .record r => r.arity = fields.length && conformsFields fields r.values
  | _, _ => false

def conformsFields : List (String × DataType) → List Value → Bool
  | (_, type) :: fields, item :: items => conforms type item && conformsFields fields items
  | _, _ => true

end

end TableLoad
