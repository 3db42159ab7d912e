import TableLoad.Schema.Basic
import TableLoad.Text.Quoted
import TableLoad.Value.Basic

/-!
# Schema inference

The schema of a list of records.  The first record fixes the shape, the number
and the names of the columns; every record contributes to the types.
-/

set_option autoImplicit false

namespace TableLoad

inductive InferenceError
  | emptyInput
  | shapeMismatch (record : Nat) (expected actual : Shape)
  | arityMismatch (record expected actual : Nat)
  | fieldSetMismatch (record : Nat) (expected actual : List String)
  | nameHintMismatch (names arity : Nat)
  | typeMismatch (record : Nat) (field : String) (existing found : DataType)
  | undetermined (field : String)
  | schema (fault : SchemaFault)
deriving DecidableEq

def InferenceError.message : InferenceError → String
  | .emptyInput => "Cannot infer a schema from an empty collection of elements"
  | .shapeMismatch record expected actual =>
    s!"Record {record}: expected a {expected.text} record, got a {actual.text} record"
  | .arityMismatch record expected actual =>
    s!"Record {record}: expected {expected} fields, got {actual}"
  | .fieldSetMismatch record expected actual =>
    s!"Record {record}: field names {Quoted.texts actual} differ from the first record's " ++
      Quoted.texts expected
  | .nameHintMismatch names arity =>
    s!"{names} field names were supplied but the records have {arity} fields"
  | .typeMismatch record field existing found =>
    s!"Record {record}: field '{field}' has type {found.text}, " ++
      s!"which cannot be merged with {existing.text}"
  | .undetermined field =>
    s!"Field '{field}' has no value in any record, so its type cannot be determined"
  | .schema fault => fault.message

/-- What the caller knows about the schema of some records. -/
inductive Hint
  /-- The names of the columns; types are inferred. -/
  | names (names : List String)
  /-- Every element is a single value of this type. -/
  | scalar (type : DataType)
  | schema (schema : Schema)

def scalarFieldName : String := "value"

namespace Hint

/-- A row type is a whole schema, any other type a scalar hint. -/
def ofType (type : DataType) : Except SchemaFault Hint :=
  if type.isRow then (Schema.ofType type scalarFieldName).map .schema else .ok (.scalar type)

end Hint

/-- The name of a column that has none, by its position from zero. -/
def generatedName (position : Nat) : String :=
  "_" ++ String.ofList (Digits.ofNat (position + 1))

def generatedNames (count : Nat) : List String :=
  (List.range count).map generatedName

namespace Record

/-- The names a record's values are looked up by. -/
def sourceNames (record : Record) : List String :=
  record.names?.getD (generatedNames record.arity)

end Record

/-! ## Types of values -/

def joinAt (record : Nat) (field : String) (existing found : DataType) :
    Except InferenceError DataType :=
  match existing.join? found with
  | some joined => .ok joined
  | none => .error (.typeMismatch record field existing found)

def elementPath (path : String) : String := path ++ "[]"

def keyPath (path : String) : String := path ++ "\x7bkey\x7d"

def valuePath (path : String) : String := path ++ "\x7bvalue\x7d"

def memberPath (path name : String) : String := path ++ "." ++ name

mutual

/-- The type of one value of a record; `path` names its place.  Only nulls give a
type that admits nulls. -/
def inferValue (record : Nat) (path : String) : Value → Except InferenceError DataType
  | .null => .ok (.atom .null true)
  | .bool _ => .ok (.atom .boolean false)
  | .int _ => .ok (.atom .int false)
  | .long _ => .ok (.atom .bigInt false)
  | .float _ => .ok (.atom .float false)
  | .double _ => .ok (.atom .double false)
  | .decimal d => .ok (.atom (.decimal (UInt8.ofNat d.precision) d.scale) false)
  | .string _ => .ok (.atom .string false)
  | .bytes _ => .ok (.atom .bytes false)
  | .date _ => .ok (.atom .date false)
  | .time _ => .ok (.atom .time false)
  | .timestamp _ => .ok (.atom .timestamp false)
  | .duration _ => .ok (.atom .interval false)
  | .list items => do
    let element ← inferItems record (elementPath path) .unobserved items
    return .array element false
  | .map entries => do
    let (key, value) ← inferPairs record path .unobserved .unobserved entries
    return .map key value false
  | .record (.positional _ items) => do
    return .row (← inferMembers record path 0 items) false
  | .record (.named _ entries) => do
    return .row (← inferEntries record path entries) false

def inferItems (record : Nat) (path : String) (seen : DataType) :
    List Value → Except InferenceError DataType
  | [] => .ok seen
  | v :: rest => do
    let found ← inferValue record path v
    let seen ← joinAt record path seen found
    inferItems record path seen rest

def inferPairs (record : Nat) (path : String) (key value : DataType) :
    List (Value × Value) → Except InferenceError (DataType × DataType)
  | [] => .ok (key, value)
  | (k, v) :: rest => do
    let found ← inferValue record (keyPath path) k
    let key ← joinAt record (keyPath path) key found
    let found ← inferValue record (valuePath path) v
    let value ← joinAt record (valuePath path) value found
    inferPairs record path key value rest

def inferMembers (record : Nat) (path : String) (position : Nat) :
    List Value → Except InferenceError (List Field)
  | [] => .ok []
  | v :: rest => do
    let name := generatedName position
    let type ← inferValue record (memberPath path name) v
    return (name, type) :: (← inferMembers record path (position + 1) rest)

def inferEntries (record : Nat) (path : String) :
    List (String × Value) → Except InferenceError (List Field)
  | [] => .ok []
  | (name, v) :: rest => do
    let type ← inferValue record (memberPath path name) v
    return (name, type) :: (← inferEntries record path rest)

end

/-! ## Schemas of records -/

def sortNames (names : List String) : List String :=
  names.mergeSort fun a b => a ≤ b

/-- The record has the shape, the number of values and the names of the first
one. -/
def checkShape (index : Nat) (first record : Record) : Except InferenceError Unit :=
  if first.shape ≠ record.shape then .error (.shapeMismatch index first.shape record.shape)
  else if first.arity ≠ record.arity then
    .error (.arityMismatch index first.arity record.arity)
  else
    match first.names?, record.names? with
    | some expected, some actual =>
      if sortNames expected = sortNames actual then .ok ()
      else .error (.fieldSetMismatch index (sortNames expected) (sortNames actual))
    | _, _ => .ok ()

/-- A column under inference: the name its values are found under, the name it
gets, and the type seen so far. -/
structure Column where
  source : String
  name : String
  type : DataType
deriving DecidableEq

def observeColumns (index : Nat) (record : Record) :
    (position : Nat) → List Column → Except InferenceError (List Column)
  | _, [] => .ok []
  | position, column :: rest => do
    let found ← inferValue index column.name (record.valueAt column.source position)
    let type ← joinAt index column.name column.type found
    return { column with type } :: (← observeColumns index record (position + 1) rest)

/-- Joins records into the columns, numbered from an index on. -/
def observeRecords (first : Record) :
    (index : Nat) → List Column → List Record → Except InferenceError (List Column)
  | _, columns, [] => .ok columns
  | index, columns, record :: rest => do
    checkShape index first record
    let columns ← observeColumns index record 0 columns
    observeRecords first (index + 1) columns rest

def finishColumns : List Column → Except InferenceError (List Field)
  | [] => .ok []
  | column :: rest => do
    if column.type.isResolved then
      return (column.name, column.type) :: (← finishColumns rest)
    else
      .error (.undetermined column.name)

def liftSchema {α : Type} : Except SchemaFault α → Except InferenceError α
  | .ok result => .ok result
  | .error fault => .error (.schema fault)

def outputNames (names : Option (List String)) (first : Record) :
    Except InferenceError (List String) :=
  match names with
  | none => .ok first.sourceNames
  | some names =>
    if names.length = first.arity then .ok names
    else .error (.nameHintMismatch names.length first.arity)

def freshColumns (first : Record) (names : List String) : List Column :=
  (first.sourceNames.zip names).map fun (source, name) =>
    { source, name, type := .unobserved }

/-- Infers the schema of the records, with the names of the hint if there is
one. -/
def inferRecords (names : Option (List String)) (records : List Record) :
    Except InferenceError Schema :=
  match records with
  | [] => .error .emptyInput
  | first :: _ => do
    let names ← outputNames names first
    let columns ← observeRecords first 0 (freshColumns first names) records
    let fields ← finishColumns columns
    liftSchema (Schema.ofFields fields)

/-- The schema of the records, inferred or taken from the hint. -/
def inferSchema (records : List Record) : Option Hint → Except InferenceError Schema
  | some (.schema schema) => .ok schema
  | some (.scalar type) => liftSchema (Schema.ofFields [(scalarFieldName, type)])
  | some (.names names) => inferRecords (some names) records
  | none => inferRecords none records

end TableLoad
