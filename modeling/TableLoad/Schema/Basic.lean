import TableLoad.DataType.Join
import TableLoad.DataType.Text

/-!
# Schemas

A schema is a list of named columns whose names are distinct and not empty and
whose types are well formed, down to the innermost rows.
-/

set_option autoImplicit false

namespace TableLoad

inductive SchemaFault
  | duplicateField (name : String)
  | emptyFieldName
  | precisionOutOfRange (precision scale : UInt8)
  | scaleExceedsPrecision (precision scale : UInt8)
deriving DecidableEq, Repr

def SchemaFault.message : SchemaFault → String
  | .duplicateField name => s!"Duplicate field name '{name}'"
  | .emptyFieldName => "Field name must not be empty"
  | .precisionOutOfRange precision scale =>
    s!"Invalid decimal({precision}, {scale}): precision must be between 1 and {maxPrecision}"
  | .scaleExceedsPrecision precision scale =>
    s!"Invalid decimal({precision}, {scale}): scale must not exceed precision"

def Atom.check : Atom → Except SchemaFault Unit
  | .decimal precision scale =>
    if precision = 0 ∨ maxPrecision < precision.toNat then
      .error (.precisionOutOfRange precision scale)
    else if precision < scale then .error (.scaleExceedsPrecision precision scale)
    else .ok ()
  | _ => .ok ()

namespace DataType

mutual

/-- The first fault of a type, outside in and from left to right. -/
def check : DataType → Except SchemaFault Unit
  | .atom kind _ => kind.check
  | .array element _ => check element
  | .map key value _ => do
    check key
    check value
  | .row fields _ => checkFields [] fields

def checkFields (seen : List String) : List (String × DataType) → Except SchemaFault Unit
  | [] => .ok ()
  | (name, type) :: rest =>
    if name = "" then .error .emptyFieldName
    else if name ∈ seen then .error (.duplicateField name)
    else do
      check type
      checkFields (name :: seen) rest

end

end DataType

structure Schema where
  fields : List Field
  wellFormed : DataType.checkFields [] fields = .ok ()

namespace Schema

theorem eq_of_fields {s t : Schema} (equal : s.fields = t.fields) : s = t := by
  cases s
  cases t
  cases equal
  rfl

instance : DecidableEq Schema := fun s t =>
  decidable_of_iff (s.fields = t.fields) ⟨eq_of_fields, fun equal => equal ▸ rfl⟩

def ofFields (fields : List Field) : Except SchemaFault Schema :=
  match checked : DataType.checkFields [] fields with
  | .ok () => .ok ⟨fields, checked⟩
  | .error fault => .error fault

def empty : Schema := ⟨[], rfl⟩

def size (schema : Schema) : Nat :=
  schema.fields.length

def names (schema : Schema) : List String :=
  schema.fields.map Prod.fst

def types (schema : Schema) : List DataType :=
  schema.fields.map Prod.snd

/-- The columns of a row type, or the type itself as the only column. -/
def ofType (type : DataType) (name : String) : Except SchemaFault Schema :=
  match type with
  | .row fields _ => ofFields fields
  | type => ofFields [(name, type)]

def rowType (schema : Schema) : DataType :=
  .row schema.fields false

def text (schema : Schema) : String :=
  schema.rowType.text

end Schema

end TableLoad
