import TableLoad.Batch.Conforms
import TableLoad.Batch.Decode
import TableLoad.Batch.Writer
import TableLoad.Value.Text

/-!
# Reading batches

Reads the header, then frame by frame.  A missing end, a cut frame, bytes after
the end and values that do not conform to the header are all corrupt.
-/

set_option autoImplicit false

namespace TableLoad.Batch

/-- A batch being read: its schema, the bytes not yet read, the number of rows
read and whether its end has been seen. -/
structure Reader where
  schema : Schema
  rest : List UInt8
  rowsRead : Nat
  finished : Bool

def takePart (part : Part) (count : Nat) : Decoder (List UInt8) := fun bytes =>
  match splitExact count bytes with
  | some split => .ok split
  | none => .error (.truncated part)

def decodeHeader : Decoder Schema := do
  let found ← takePart .magic 4
  if found ≠ magic then throw (.badMagic found)
  let version ← takePart .version 1
  if version ≠ [formatVersion] then throw (.unsupportedVersion (version.headD 0))
  let length := ofBigEndian (← takePart .schemaLength 4)
  if maxFrameBytes < length then throw (.headerLength length)
  match Schema.ofHeader (← takePart .schemaHeader length) with
  | .ok schema => return schema
  | .error fault => throw (.header fault)

namespace Reader

def start (bytes : List UInt8) : Except Corruption Reader := do
  let (schema, rest) ← decodeHeader.run bytes
  return { schema, rest, rowsRead := 0, finished := false }

/-- The batch must have been written for the given schema. -/
def expectSchema (reader : Reader) (expected : Schema) : Except Corruption Unit :=
  if reader.schema = expected then .ok ()
  else .error (.schemaMismatch reader.schema expected)

end Reader

def decodeFields (row : Nat) : List Field → Decoder Row
  | [] => return []
  | field :: fields => do
    let value ← decodeValue
    if conforms field.2 value then
      return value :: (← decodeFields row fields)
    else throw (.nonConforming row field.1 value.describe field.2)

/-- A given number of rows, the first of which has number `row`, and the number
of the row after those that were read. -/
def decodeRows (fields : List Field) :
    (count row : Nat) → List UInt8 → Except Corruption (List Row × List UInt8) × Nat
  | 0, row, bytes => (.ok ([], bytes), row)
  | count + 1, row, bytes =>
    match decodeFields row fields bytes with
    | .error cause => (.error cause, row)
    | .ok (values, rest) =>
      match decodeRows fields count (row + 1) rest with
      | (.ok (rows, rest), next) => (.ok (values :: rows, rest), next)
      | (.error cause, next) => (.error cause, next)

/-- The rows of a whole frame and the number of the row after them. -/
def decodeFrame (fields : List Field) (row : Nat) (content : List UInt8) :
    Except Corruption (List Row) × Nat :=
  match decodeRows fields (ofBigEndian (content.take 4)) row (content.drop 4) with
  | (.error cause, next) => (.error cause, next)
  | (.ok (rows, []), next) => (.ok rows, next)
  | (.ok (_, left), next) => (.error (.unreadBytes left.length), next)

namespace Reader

/-- Reads the next frame; none at the end of the batch.  A frame that cannot be
decoded is skipped all the same. -/
def nextFrame (reader : Reader) : Except Corruption (Option (List Row)) × Reader :=
  if reader.finished then (.ok none, reader)
  else
    match splitExact 4 reader.rest with
    | none => (.error (.truncated .frameLength), { reader with rest := [] })
    | some (length, rest) =>
      let length := ofBigEndian length
      if length = 0 then
        let reader := { reader with rest := rest.drop 1, finished := true }
        if rest.isEmpty then (.ok none, reader) else (.error .trailingData, reader)
      else if length < 4 || maxFrameBytes < length then
        (.error (.frameLength length), { reader with rest })
      else
        match splitExact length rest with
        | none => (.error (.truncated .frame), { reader with rest := [] })
        | some (content, rest) =>
          match decodeFrame reader.schema.fields reader.rowsRead content with
          | (.ok rows, next) => (.ok (some rows), { reader with rest, rowsRead := next })
          | (.error cause, next) => (.error cause, { reader with rest, rowsRead := next })

def rowsWithin : (limit : Nat) → Reader → List Row × Option Corruption
  | 0, _ => ([], none)
  | limit + 1, reader =>
    match reader.nextFrame with
    | (.error cause, _) => ([], some cause)
    | (.ok none, _) => ([], none)
    | (.ok (some rows), reader) =>
      let (others, failure) := rowsWithin limit reader
      (rows ++ others, failure)

/-- The rows up to the end of the batch or the first error.  Every frame takes
more than one byte, so the limit is never reached. -/
def rows (reader : Reader) : List Row × Option Corruption :=
  reader.rowsWithin (reader.rest.length + 1)

def readAll (reader : Reader) : Except Corruption (List Row) :=
  match reader.rows with
  | (rows, none) => .ok rows
  | (_, some cause) => .error cause

end Reader

def deserialize (bytes : List UInt8) (expected : Schema) : Except Corruption (List Row) := do
  let reader ← Reader.start bytes
  reader.expectSchema expected
  reader.readAll

end TableLoad.Batch
