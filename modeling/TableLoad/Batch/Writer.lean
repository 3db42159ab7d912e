import TableLoad.Batch.Encode

/-!
# Writing batches

A batch is a header with the schema, frames of rows and an empty frame at the
end.  Rows are held back until a frame is full; a batch without its last frame
is cut short and no reader takes it for complete.
-/

set_option autoImplicit false

namespace TableLoad.Batch

def magic : List UInt8 := [0x54, 0x42, 0x52, 0x42]

def formatVersion : UInt8 := 1

def defaultBatchSize : Nat := 1000

def header (schema : Schema) : List UInt8 :=
  magic ++ formatVersion :: (lengthBytes schema.header.length ++ schema.header)

def frame (count : Nat) (content : List UInt8) : List UInt8 :=
  lengthBytes (content.length + 4) ++ (lengthBytes count ++ content)

def terminator : List UInt8 := lengthBytes 0

def encodeRow (row : Row) : List UInt8 :=
  encodeItems row

/-- A batch under construction.  Blocks are kept newest first; a block held back is a row,
or what had been written of one when it was refused. -/
structure Writer where
  schema : Schema
  batchSize : Nat
  emitted : List (List UInt8)
  pending : List (List UInt8)
  pendingBytes : Nat
  pendingRows : Nat
  flushedRows : Nat

namespace Writer

def start (schema : Schema) (batchSize : Nat) : Except Error Writer :=
  if isTooLong schema.header.length then .error (.lengthTooLong "schema header")
  else .ok
    { schema
      batchSize := max batchSize 1
      emitted := [header schema]
      pending := []
      pendingBytes := 0
      pendingRows := 0
      flushedRows := 0 }

/-- The bytes written so far; rows held back are not among them. -/
def bytes (writer : Writer) : List UInt8 :=
  writer.emitted.reverse.flatten

def rowsWritten (writer : Writer) : Nat :=
  writer.flushedRows + writer.pendingRows

/-- Writes what is held back as one frame, if there is a whole row in it. -/
def flush (writer : Writer) : Except Error Unit × Writer :=
  if writer.pendingRows = 0 then (.ok (), writer)
  else if maxFrameBytes < writer.pendingBytes + 4 then (.error .frameTooLong, writer)
  else
    let written := frame writer.pendingRows writer.pending.reverse.flatten
    (.ok (),
      { writer with
        emitted := written :: writer.emitted
        pending := []
        pendingBytes := 0
        pendingRows := 0
        flushedRows := writer.flushedRows + writer.pendingRows })

def isFull (writer : Writer) : Bool :=
  writer.batchSize ≤ writer.pendingRows || maxFrameBytes / 2 ≤ writer.pendingBytes

def hold (writer : Writer) (block : List UInt8) (rows : Nat) : Writer :=
  { writer with
    pending := block :: writer.pending
    pendingBytes := writer.pendingBytes + block.length
    pendingRows := writer.pendingRows + rows }

/-- Accepts one row; a full frame is written.  What precedes a part that is too long stays
in the frame. -/
def writeRow (writer : Writer) (row : Row) : Except Error Unit × Writer :=
  if row.length ≠ writer.schema.size then
    (.error (.corrupt (.rowWidth row.length writer.schema.size)), writer)
  else
    match itemsTooLong? row with
    | some part => (.error (.lengthTooLong part), writer.hold (tornItems row) 0)
    | none =>
      let writer := writer.hold (encodeRow row) 1
      if writer.isFull then writer.flush else (.ok (), writer)

def finish (writer : Writer) : Except Error Nat × Writer :=
  match writer.flush with
  | (.error error, writer) => (.error error, writer)
  | (.ok (), writer) =>
    (.ok writer.flushedRows, { writer with emitted := terminator :: writer.emitted })

/-- Accepts rows until one fails to be produced or written, then finishes. -/
def writeAll {ε : Type} (wrap : Error → ε) (writer : Writer) :
    List (Except ε Row) → Except ε Nat × Writer
  | [] =>
    match writer.finish with
    | (.ok count, writer) => (.ok count, writer)
    | (.error error, writer) => (.error (wrap error), writer)
  | .error error :: _ => (.error error, writer)
  | .ok row :: rest =>
    match writer.writeRow row with
    | (.ok (), writer) => writeAll wrap writer rest
    | (.error error, writer) => (.error (wrap error), writer)

end Writer

def serialize {ε : Type} (wrap : Error → ε) (schema : Schema) (batchSize : Nat)
    (rows : List (Except ε Row)) : Except ε Nat × List UInt8 :=
  match Writer.start schema batchSize with
  | .error error => (.error (wrap error), [])
  | .ok writer =>
    let (outcome, writer) := writer.writeAll wrap rows
    (outcome, writer.bytes)

end TableLoad.Batch
