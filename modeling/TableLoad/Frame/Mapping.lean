import TableLoad.Conversion.Error
import TableLoad.Frame.ColumnType

/-!
# Schemas of frames

Every supported column type maps to exactly one type of a schema, so the schema
of a frame is known before any cell is read.
-/

set_option autoImplicit false

namespace TableLoad.Frame

inductive Error
  | unsupported (field : String) (type : ColumnType)
  | hintMismatch (expected actual : Nat)
  | schema (fault : SchemaFault)
  | cell (error : ValidationError)

def Error.message : Error → String
  | .unsupported field type => s!"Unsupported column type {type.text} for field '{field}'"
  | .hintMismatch expected actual =>
    s!"{expected} types were supplied but the frame has {actual} columns"
  | .schema fault => fault.message
  | .cell error => error.message

def liftSchema {α : Type} : Except SchemaFault α → Except Error α
  | .ok result => .ok result
  | .error fault => .error (.schema fault)

def scale? (scale : Int) : Option UInt8 :=
  if 0 ≤ scale ∧ scale < 256 then some (UInt8.ofNat scale.toNat) else none

mutual

def mapType (name : String) : ColumnType → Except Error DataType
  | .boolean => .ok (.atom .boolean true)
  | .int8 => .ok (.atom .int true)
  | .int16 => .ok (.atom .int true)
  | .int32 => .ok (.atom .int true)
  | .uint8 => .ok (.atom .int true)
  | .uint16 => .ok (.atom .int true)
  | .int64 => .ok (.atom .bigInt true)
  | .uint32 => .ok (.atom .bigInt true)
  | .uint64 => .ok (.atom (.decimal 20 0) true)
  | .float32 => .ok (.atom .float true)
  | .float64 => .ok (.atom .double true)
  | .decimal128 precision scale =>
    match scale? scale with
    | some scale => .ok (.atom (.decimal precision scale) true)
    | none => .error (.unsupported name (.decimal128 precision scale))
  | .utf8 => .ok (.atom .string true)
  | .largeUtf8 => .ok (.atom .string true)
  | .binary => .ok (.atom .bytes true)
  | .largeBinary => .ok (.atom .bytes true)
  | .date32 => .ok (.atom .date true)
  | .date64 => .ok (.atom .date true)
  | .time32 _ => .ok (.atom .time true)
  | .time64 _ => .ok (.atom .time true)
  | .timestamp _ _ => .ok (.atom .timestamp true)
  | .duration _ => .ok (.atom .interval true)
  | .list element type nullable => do
    return .array ((← mapType element type).withNullable nullable) true
  | .largeList element type nullable => do
    return .array ((← mapType element type).withNullable nullable) true
  | .map (.struct [(key, keyType, keyNullable), (value, valueType, valueNullable)]) => do
    let mappedKey ← mapType key keyType
    let mappedValue ← mapType value valueType
    return .map (mappedKey.withNullable keyNullable) (mappedValue.withNullable valueNullable) true
  | .struct parts => do
    return .row (← mapParts parts) true
  | type => .error (.unsupported name type)

def mapParts : List (String × ColumnType × Bool) → Except Error (List Field)
  | [] => .ok []
  | (name, type, nullable) :: rest => do
    let mapped ← mapType name type
    return (name, mapped.withNullable nullable) :: (← mapParts rest)

end

def mapColumns (columns : List Column) : Except Error Schema := do
  liftSchema (Schema.ofFields (← mapParts columns))

inductive Hint
  | schema (schema : Schema)
  /-- Other names for the columns. -/
  | names (names : List String)
  /-- Other types for the columns. -/
  | types (types : List DataType)

namespace Hint

def size : Hint → Nat
  | .schema whole => whole.size
  | .names others => others.length
  | .types others => others.length

/-- The mapped schema changed by the hint, which must have as many columns. -/
def apply (hint : Hint) (mapped : Schema) : Except Error Schema :=
  if hint.size ≠ mapped.size then .error (.hintMismatch hint.size mapped.size)
  else
    match hint with
    | .schema whole => .ok whole
    | .names others => liftSchema (Schema.ofFields (others.zip mapped.types))
    | .types others => liftSchema (Schema.ofFields (mapped.names.zip others))

end Hint

end TableLoad.Frame
