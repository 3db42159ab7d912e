import TableLoad.Text.Digits
import TableLoad.Text.Quoted

/-!
# Types of frame columns

Frames are tables stored column by column with their own, richer set of types.
-/

set_option autoImplicit false

namespace TableLoad.Frame

inductive TimeUnit
  | second
  | millisecond
  | microsecond
  | nanosecond
deriving DecidableEq, Repr

namespace TimeUnit

def perSecond : TimeUnit → Nat
  | .second => 1
  | .millisecond => 1000
  | .microsecond => 1000000
  | .nanosecond => 1000000000

def text : TimeUnit → String
  | .second => "Second"
  | .millisecond => "Millisecond"
  | .microsecond => "Microsecond"
  | .nanosecond => "Nanosecond"

end TimeUnit

/-- The type of a column.  Parts of nested types have a name, a type and a flag
that admits nulls.  A map is stored as a list of entries of any type, which is
well formed when it is a structure of a key and a value. -/
inductive ColumnType
  | boolean
  | int8
  | int16
  | int32
  | int64
  | uint8
  | uint16
  | uint32
  | uint64
  | float16
  | float32
  | float64
  | utf8
  | largeUtf8
  | utf8View
  | binary
  | largeBinary
  | binaryView
  | date32
  | date64
  | null
  | intervalYearMonth
  | decimal128 (precision : UInt8) (scale : Int)
  | decimal256 (precision : UInt8) (scale : Int)
  | time32 (unit : TimeUnit)
  | time64 (unit : TimeUnit)
  | timestamp (unit : TimeUnit) (zone : Option String)
  | duration (unit : TimeUnit)
  | fixedSizeBinary (width : Int)
  | dictionary (key value : ColumnType)
  | list (name : String) (element : ColumnType) (nullable : Bool)
  | largeList (name : String) (element : ColumnType) (nullable : Bool)
  | struct (parts : List (String × ColumnType × Bool))
  | map (entries : ColumnType)

abbrev Column := String × ColumnType × Bool

/-- The description of a named part whose type has the given text. -/
def partText (name typeText : String) (nullable : Bool) : String :=
  "Field \x7b name: " ++ Quoted.text name ++ ", data_type: " ++ typeText ++ ", nullable: " ++
    toString nullable ++ ", dict_id: 0, dict_is_ordered: false, metadata: \x7b\x7d \x7d"

mutual

def ColumnType.text : ColumnType → String
  | .boolean => "Boolean"
  | .int8 => "Int8"
  | .int16 => "Int16"
  | .int32 => "Int32"
  | .int64 => "Int64"
  | .uint8 => "UInt8"
  | .uint16 => "UInt16"
  | .uint32 => "UInt32"
  | .uint64 => "UInt64"
  | .float16 => "Float16"
  | .float32 => "Float32"
  | .float64 => "Float64"
  | .utf8 => "Utf8"
  | .largeUtf8 => "LargeUtf8"
  | .utf8View => "Utf8View"
  | .binary => "Binary"
  | .largeBinary => "LargeBinary"
  | .binaryView => "BinaryView"
  | .date32 => "Date32"
  | .date64 => "Date64"
  | .null => "Null"
  | .intervalYearMonth => "Interval(YearMonth)"
  | .decimal128 precision scale => s!"Decimal128({precision}, {scale})"
  | .decimal256 precision scale => s!"Decimal256({precision}, {scale})"
  | .time32 unit => s!"Time32({unit.text})"
  | .time64 unit => s!"Time64({unit.text})"
  | .timestamp unit none => s!"Timestamp({unit.text}, None)"
  | .timestamp unit (some zone) => s!"Timestamp({unit.text}, Some({Quoted.text zone}))"
  | .duration unit => s!"Duration({unit.text})"
  | .fixedSizeBinary width => s!"FixedSizeBinary({width})"
  | .dictionary key value => "Dictionary(" ++ key.text ++ ", " ++ value.text ++ ")"
  | .list name element nullable => "List(" ++ partText name element.text nullable ++ ")"
  | .largeList name element nullable => "LargeList(" ++ partText name element.text nullable ++ ")"
  | .struct parts => "Struct([" ++ String.intercalate ", " (partTexts parts) ++ "])"
  | .map entries => "Map(" ++ partText "entries" entries.text false ++ ", false)"

def partTexts : List (String × ColumnType × Bool) → List String
  | [] => []
  | (name, type, nullable) :: rest => partText name type.text nullable :: partTexts rest

end

end TableLoad.Frame
