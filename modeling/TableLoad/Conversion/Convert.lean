import TableLoad.Conversion.Coercion
import TableLoad.Conversion.Error
import TableLoad.Inference

/-!
# Conversion of records

Turns a record into a row of a schema: values are put in the order of the
columns and stored as their types store them, down to the innermost rows.  Nulls
pass through every column.
-/

set_option autoImplicit false

namespace TableLoad

/-- Maps the items of a list in order, numbered from an index on; the first
error ends it. -/
def mapEachFrom {ε α β : Type} (convert : Nat → α → Except ε β) :
    (index : Nat) → List α → Except ε (List β)
  | _, [] => .ok []
  | index, item :: rest => do
    let item ← convert index item
    return item :: (← mapEachFrom convert (index + 1) rest)

mutual

def convertValue (record : Nat) : DataType → (path : String) → Value → Except ValidationError Value
  | _, _, .null => .ok .null
  | .array element _, path, .list items => do
    return .list (← mapEachFrom
      (fun index v => convertValue record element (indexPath path index) v) 0 items)
  | .map key value _, path, .map entries => do
    return .map (← mapEachFrom
      (fun _ entry => do
        let k ← convertValue record key (keyPath path) entry.1
        let v ← convertValue record value (valuePath path) entry.2
        return (k, v))
      0 entries)
  | .row fields _, path, .record r => do
    checkArity fields record path r
    let items ← convertFields record fields (fields.map Prod.fst) 0 path r
    return .record (.positional .row items)
  | .atom kind nullable, path, value =>
    match coerce? kind value with
    | some stored => .ok stored
    | none => .error (mismatch record path (.atom kind nullable) value)
  | type, path, value => .error (mismatch record path type value)

/-- Converts the fields of a record from a position on; `names` are the names its
values are found under. -/
def convertFields (record : Nat) :
    List (String × DataType) → (names : List String) → (position : Nat) → (path : String) →
      Record → Except ValidationError (List Value)
  | (field, type) :: fields, name :: names, position, path, r => do
    let item ← convertValue record type (fieldPath path field) (r.valueAt name position)
    return item :: (← convertFields record fields names (position + 1) path r)
  | _, _, _, _, _ => .ok []

end

def convertUnder (fields : List Field) (names : List String) (index : Nat) (record : Record) :
    Except ValidationError Row := do
  checkArity fields index "" record
  convertFields index fields names 0 "" record

def Schema.convert (schema : Schema) (index : Nat) (record : Record) :
    Except ValidationError Row :=
  convertUnder schema.fields schema.names index record

end TableLoad
