import TableLoad.Schema.Basic
import TableLoad.Value.Text

/-!
# Records that do not fit

A record that does not fit a schema is refused with the number of the record,
the path of the offending field, what was expected there and what was found.
-/

set_option autoImplicit false

namespace TableLoad

structure ValidationError where
  record : Nat
  field : String
  expected : String
  actual : String
deriving DecidableEq, Repr

def ValidationError.message (error : ValidationError) : String :=
  s!"Record {error.record}: field '{error.field}' expected {error.expected}, got {error.actual}"

def fieldPath (path name : String) : String :=
  if path = "" then name else path ++ "." ++ name

def indexPath (path : String) (index : Nat) : String :=
  path ++ "[" ++ String.ofList (Digits.ofNat index) ++ "]"

def pathName (path : String) : String :=
  if path = "" then "<record>" else path

def mismatch (record : Nat) (path : String) (type : DataType) (value : Value) :
    ValidationError :=
  { record, field := pathName path, expected := type.text, actual := value.describe }

def checkArity (fields : List Field) (index : Nat) (path : String) (record : Record) :
    Except ValidationError Unit :=
  if !record.isNamed && record.arity != fields.length then
    .error
      { record := index
        field := pathName path
        expected := s!"{fields.length} fields"
        actual := s!"{record.arity} fields" }
  else .ok ()

end TableLoad
