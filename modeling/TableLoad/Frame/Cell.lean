import TableLoad.Frame.Mapping

/-!
# Cells of frames

Reads the cells of a frame as values.  Numbers of days, times and timestamps may
be too large for the calendar; such cells are refused with the number of their
row in the whole frame.
-/

set_option autoImplicit false

namespace TableLoad.Frame

open Calendar

inductive Cell
  | null
  | bool (b : Bool)
  | integer (n : Int)
  | float (x : Number.Binary32)
  | double (x : Number.Binary64)
  | text (text : String)
  | bytes (content : List UInt8)
  | list (items : List Cell)
  | map (entries : List (Cell × Cell))
  | struct (cells : List Cell)

/-- Where a cell stands: the row in the whole frame and the name of the
column. -/
structure Position where
  record : Nat
  field : String
deriving DecidableEq, Repr

def Position.outOfRange (position : Position) (expected : String) : Error :=
  .cell
    { record := position.record
      field := position.field
      expected
      actual := "out of range value" }

def Position.inRange (position : Position) (expected : String) (value? : Option Value) :
    Except Error Value :=
  match value? with
  | some value => .ok value
  | none => .error (position.outOfRange expected)

def timeOf? (unit : TimeUnit) (count : Int) : Option TimeOfDay :=
  let seconds := count.tdiv unit.perSecond
  let nanos := count.tmod unit.perSecond * (nanosPerSecond / unit.perSecond : Nat)
  if seconds < 0 ∨ nanos < 0 then none else TimeOfDay.of? seconds.toNat nanos.toNat

/-- A null cell is null to every type that can tell. -/
def isNullCell : ColumnType → Cell → Bool
  | .null, _ => false
  | _, .null => true
  | _, _ => false

/-- Reads the value of a cell that is not null and has no parts. -/
def readLeaf (position : Position) : ColumnType → Cell → Except Error Value
  | .boolean, .bool b => .ok (.bool b)
  | .int8, .integer n => .ok (.int (Int32.ofInt n))
  | .int16, .integer n => .ok (.int (Int32.ofInt n))
  | .int32, .integer n => .ok (.int (Int32.ofInt n))
  | .uint8, .integer n => .ok (.int (Int32.ofInt n))
  | .uint16, .integer n => .ok (.int (Int32.ofInt n))
  | .int64, .integer n => .ok (.long (Int64.ofInt n))
  | .uint32, .integer n => .ok (.long (Int64.ofInt n))
  | .uint64, .integer n =>
    position.inRange "DECIMAL" ((Decimal.of? n 0).map .decimal)
  | .float32, .float x => .ok (.float x)
  | .float64, .double x => .ok (.double x)
  | .decimal128 precision scale, .integer n =>
    match scale? scale with
    | some scale => position.inRange "DECIMAL" ((Decimal.of? n scale).map .decimal)
    | none => .error (.unsupported position.field (.decimal128 precision scale))
  | .utf8, .text text => .ok (.string text)
  | .largeUtf8, .text text => .ok (.string text)
  | .binary, .bytes content => .ok (.bytes content)
  | .largeBinary, .bytes content => .ok (.bytes content)
  | .date32, .integer n =>
    position.inRange "DATE" ((Date.ofNumber? (n + epochDay)).map .date)
  | .date64, .integer n =>
    position.inRange "DATE" ((Timestamp.ofEpochUnits? 1000 n).map fun t => .date t.date)
  | .time32 unit, .integer n => position.inRange "TIME" ((timeOf? unit n).map .time)
  | .time64 unit, .integer n => position.inRange "TIME" ((timeOf? unit n).map .time)
  | .timestamp unit _, .integer n =>
    position.inRange "TIMESTAMP" ((Timestamp.ofEpochUnits? unit.perSecond n).map .timestamp)
  | .duration unit, .integer n =>
    position.inRange "INTERVAL"
      ((Duration.ofNanos? (n * (nanosPerSecond / unit.perSecond : Nat))).map .duration)
  | type, _ => .error (.unsupported position.field type)

mutual

def readCell (position : Position) : ColumnType → Cell → Except Error Value
  | .list _ element _, .list items => do
    return .list (← items.mapM fun item => readCell position element item)
  | .largeList _ element _, .list items => do
    return .list (← items.mapM fun item => readCell position element item)
  | .map (.struct [(_, key, _), (_, value, _)]), .map entries => do
    let keys ← entries.mapM fun entry => readCell position key entry.1
    let values ← entries.mapM fun entry => readCell position value entry.2
    return .map (keys.zip values)
  | .struct parts, .struct cells => do
    return .record (.positional .row (← readCells position parts cells))
  | type, cell =>
    if isNullCell type cell then .ok .null else readLeaf position type cell

def readCells (position : Position) :
    List (String × ColumnType × Bool) → List Cell → Except Error (List Value)
  | (_, type, _) :: parts, cell :: cells => do
    let value ← readCell position type cell
    return value :: (← readCells position parts cells)
  | _, _ => .ok []

end

def readRow (record : Nat) : List Column → List Cell → Except Error Row
  | (name, type, _) :: columns, cell :: cells => do
    let value ← readCell { record, field := name } type cell
    return value :: (← readRow record columns cells)
  | _, _ => .ok []

/-- Reads the rows of one batch of a frame, the first of which has number
`first`. -/
def readBatch (columns : List Column) : (first : Nat) → List (List Cell) →
    Except Error (List Record)
  | _, [] => .ok []
  | first, cells :: rest => do
    let row ← readRow first columns cells
    return .positional .tuple row :: (← readBatch columns (first + 1) rest)

end TableLoad.Frame

namespace TableLoad

/-- A table stored by columns, its rows in batches. -/
structure Frame where
  columns : List Frame.Column
  batches : List (List (List Frame.Cell))

namespace Frame

def readBatches (columns : List Column) : (first : Nat) → List (List (List Cell)) →
    Except Error (List Record)
  | _, [] => .ok []
  | first, batch :: rest => do
    let records ← readBatch columns first batch
    return records ++ (← readBatches columns (first + batch.length) rest)

def records (frame : Frame) : Except Error (List Record) :=
  readBatches frame.columns 0 frame.batches

def schema (frame : Frame) (hint : Option Hint) : Except Error Schema := do
  let mapped ← mapColumns frame.columns
  match hint with
  | some hint => hint.apply mapped
  | none => return mapped

end Frame

end TableLoad
