import TableLoad.Source.Scalar
import TableLoad.Text.Utf8

/-!
# Delimited text

Records are lines of fields between delimiters.  A quoted field may hold
delimiters and line ends, and quotes if they are doubled.  Empty lines are
skipped, lines end with a line feed, a carriage return or both, and all records
must have as many fields as the first.
-/

set_option autoImplicit false

namespace TableLoad.Source

structure Dialect where
  delimiter : UInt8
  quote : UInt8
  hasHeader : Bool
deriving DecidableEq, Repr

namespace Dialect

def csv : Dialect := ⟨0x2c, 0x22, true⟩

def tsv : Dialect := ⟨0x09, 0x22, true⟩

end Dialect

/-! ## Fields -/

/-- Where the scan of a delimited text stands. -/
inductive Mode
  | recordStart
  | fieldStart
  | inField
  | inQuotes
  /-- After a quote inside quotes, which ends them unless a second one follows. -/
  | quoteSeen
  /-- After a carriage return that ended a record. -/
  | returnSeen
deriving DecidableEq, Repr

/-- A record in the making, newest first: the bytes of the open field and the
fields before it. -/
structure Partial where
  field : List UInt8
  fields : List (List UInt8)
deriving DecidableEq, Repr

namespace Partial

def empty : Partial := ⟨[], []⟩

def push (p : Partial) (b : UInt8) : Partial :=
  { p with field := b :: p.field }

def endField (p : Partial) : Partial :=
  ⟨[], p.field.reverse :: p.fields⟩

def record (p : Partial) : List (List UInt8) :=
  p.endField.fields.reverse

end Partial

def isLineEnd (b : UInt8) : Bool :=
  b = 0x0a || b = 0x0d

/-- How a byte moves the scan: the next mode, the record in the making and the
record that the byte ends. -/
structure Move where
  mode : Mode
  building : Partial
  ended : Option (List (List UInt8))
deriving DecidableEq, Repr

namespace Dialect

def moveInField (dialect : Dialect) (p : Partial) (b : UInt8) : Move :=
  if b = dialect.delimiter then ⟨.fieldStart, p.endField, none⟩
  else if isLineEnd b then
    ⟨if b = 0x0d then .returnSeen else .recordStart, .empty, some p.record⟩
  else ⟨.inField, p.push b, none⟩

def moveAtField (dialect : Dialect) (p : Partial) (b : UInt8) : Move :=
  if b = dialect.quote then ⟨.inQuotes, p, none⟩ else dialect.moveInField p b

def moveAtRecord (dialect : Dialect) (p : Partial) (b : UInt8) : Move :=
  if isLineEnd b then ⟨.recordStart, p, none⟩ else dialect.moveAtField p b

def move (dialect : Dialect) (p : Partial) (b : UInt8) : Mode → Move
  | .recordStart => dialect.moveAtRecord p b
  | .fieldStart => dialect.moveAtField p b
  | .inField => dialect.moveInField p b
  | .inQuotes =>
    if b = dialect.quote then ⟨.quoteSeen, p, none⟩ else ⟨.inQuotes, p.push b, none⟩
  | .quoteSeen =>
    if b = dialect.quote then ⟨.inQuotes, p.push b, none⟩ else dialect.moveInField p b
  | .returnSeen =>
    if b = 0x0a then ⟨.recordStart, p, none⟩ else dialect.moveAtRecord p b

def finalRecord (p : Partial) : Mode → List (List (List UInt8))
  | .recordStart => []
  | .returnSeen => []
  | _ => [p.record]

/-- The records of a text, scanned from some mode on. -/
def scan (dialect : Dialect) : Mode → Partial → List UInt8 → List (List (List UInt8))
  | mode, p, [] => finalRecord p mode
  | mode, p, b :: rest =>
    let next := dialect.move p b mode
    match next.ended with
    | none => scan dialect next.mode next.building rest
    | some record => record :: scan dialect next.mode next.building rest

def dropMark : List UInt8 → List UInt8
  | 0xef :: 0xbb :: 0xbf :: rest => rest
  | bytes => bytes

def fields (dialect : Dialect) (bytes : List UInt8) : List (List (List UInt8)) :=
  dialect.scan .recordStart .empty (dropMark bytes)

end Dialect

/-! ## Records -/

inductive RecordFault
  | unequalLength (expected actual : Nat)
  | invalidText (fault : Utf8.Fault)
deriving DecidableEq, Repr

inductive DelimitedError
  | header (fault : RecordFault)
  | record (index : Nat) (fault : RecordFault)
  | headerWidth (index values names : Nat)
deriving DecidableEq, Repr

def DelimitedError.message : DelimitedError → String
  | .header _ => "Failed to read header row"
  | .record index _ => s!"Failed to parse record {index}"
  | .headerWidth index values names =>
    s!"Record {index} has {values} fields but the header has {names}"

def fieldTexts : List (List UInt8) → Except RecordFault (List String)
  | [] => .ok []
  | field :: rest =>
    match Utf8.decode field with
    | .ok text => (fieldTexts rest).map (text :: ·)
    | .error fault => .error (.invalidText fault)

def recordTexts (expected : Nat) (fields : List (List UInt8)) :
    Except RecordFault (List String) :=
  if fields.length = expected then fieldTexts fields
  else .error (.unequalLength expected fields.length)

def delimitedRecord (names : Option (List String)) (index : Nat) (values : List Value) :
    Except DelimitedError Record :=
  match names with
  | none => .ok (.positional .tuple values)
  | some names =>
    match Record.namedRow names values with
    | .ok record => .ok record
    | .error mismatch => .error (.headerWidth index mismatch.values mismatch.names)

def delimitedRecords (names : Option (List String)) (expected : Nat) :
    (index : Nat) → List (List (List UInt8)) → Except DelimitedError (List Record)
  | _, [] => .ok []
  | index, fields :: rest =>
    match recordTexts expected fields with
    | .error fault => .error (.record index fault)
    | .ok texts => do
      let record ← delimitedRecord names index (texts.map parseScalar)
      return record :: (← delimitedRecords names expected (index + 1) rest)

def headerNames (fields : List (List UInt8)) : Except DelimitedError (List String) :=
  match fieldTexts fields with
  | .ok texts => .ok (texts.map Unicode.trimString)
  | .error fault => .error (.header fault)

/-- Reads the records of a delimited text: rows under the names of the header, or
tuples without one. -/
def readDelimited (dialect : Dialect) (bytes : List UInt8) :
    Except DelimitedError (List Record) :=
  match dialect.fields bytes with
  | [] => .ok []
  | first :: rest =>
    if dialect.hasHeader then do
      let names ← headerNames first
      delimitedRecords (some names) first.length 0 rest
    else
      delimitedRecords none first.length 0 (first :: rest)

end TableLoad.Source
