import TableLoad.Conversion.Coercion
import TableLoad.Conversion.Error
import TableLoad.Inference

/-!
# Verification of records

Checks a record against the columns of a schema without changing it.  Every
value must be a null in a column that admits nulls or a value the column's type
can represent.
-/

set_option autoImplicit false

namespace TableLoad

/-- Checks the items of a list in order, numbered from an index on. -/
def forEachFrom {ε α : Type} (check : Nat → α → Except ε Unit) :
    (index : Nat) → List α → Except ε Unit
  | _, [] => .ok ()
  | index, item :: rest => do
    check index item
    forEachFrom check (index + 1) rest

mutual

def verifyValue (record : Nat) : DataType → (path : String) → Value → Except ValidationError Unit
  | type, path, .null =>
    if type.nullable then .ok () else .error (mismatch record path type .null)
  | .array element _, path, .list items =>
    forEachFrom (fun index v => verifyValue record element (indexPath path index) v) 0 items
  | .map key value _, path, .map entries =>
    forEachFrom
      (fun _ entry => do
        verifyValue record key (keyPath path) entry.1
        verifyValue record value (valuePath path) entry.2)
      0 entries
  | .row fields _, path, .record r => do
    checkArity fields record path r
    verifyFields record fields (fields.map Prod.fst) 0 path r
  | .atom kind nullable, path, value =>
    match coerce? kind value with
    | some _ => .ok ()
    | none => .error (mismatch record path (.atom kind nullable) value)
  | type, path, value => .error (mismatch record path type value)

def verifyFields (record : Nat) :
    List (String × DataType) → (names : List String) → (position : Nat) → (path : String) →
      Record → Except ValidationError Unit
  | (field, type) :: fields, name :: names, position, path, r => do
    verifyValue record type (fieldPath path field) (r.valueAt name position)
    verifyFields record fields names (position + 1) path r
  | _, _, _, _, _ => .ok ()

end

def verifyUnder (fields : List Field) (names : List String) (index : Nat) (record : Record) :
    Except ValidationError Unit := do
  checkArity fields index "" record
  verifyFields index fields names 0 "" record

def Schema.verify (schema : Schema) (index : Nat) (record : Record) :
    Except ValidationError Unit :=
  verifyUnder schema.fields schema.names index record

end TableLoad
