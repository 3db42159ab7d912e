import TableLoad.Conversion.Converter
import TableLoad.Session.Basic

/-!
# Tables from elements

Elements become rows, the rows a batch in a scratch directory, and the engine is
asked to read it.  The engine hears nothing of elements that have no schema or do
not fit it, and the directory is gone in the end, whatever happened.
-/

set_option autoImplicit false

namespace TableLoad.Session

def withScratch {α : Type} (activity : Nat → Session Failure α) : Session Failure α := do
  let made ← onScratch Scratch.make
  let directory ← ofExcept .batch made
  cleaningUp (activity directory) fun scratch => scratch.remove directory

/-- Writes the rows of some elements to the batch file in a directory; gives their
number. -/
def writeElements (converter : Converter) (batchSize : Nat) (elements : List Record)
    (directory : Nat) : Session Failure Nat := do
  let rows := (converter.convertAll elements).map (Except.mapError .validation)
  let (outcome, bytes) := Batch.serialize .batch converter.schema batchSize rows
  onScratch fun scratch => ((), scratch.write directory bytes)
  ofExcept id outcome

def readScratch (schema : Schema) (directory : Nat) : Session Failure Table := do
  let content ← onScratch fun scratch => (scratch.content? directory, scratch)
  requestTable (.readBatchFile { path := Scratch.fileName, content } schema)

def loadElements (converter : Converter) (batchSize : Nat) (elements : List Record) :
    Session Failure Table :=
  withScratch fun directory => do
    let _ ← writeElements converter batchSize elements directory
    readScratch converter.schema directory

def fromElements (batchSize : Nat) (elements : List Record) (hint : Option Hint)
    (verify : Bool) : Session Failure Table := do
  let converter ← ofExcept .inference (converterFor elements hint verify)
  loadElements converter batchSize elements

def fromFrame (batchSize : Nat) (frame : Frame) (hint : Option Frame.Hint) :
    Session Failure Table := do
  let schema ← ofExcept .frame (frame.schema hint)
  let records ← ofExcept .frame frame.records
  loadElements (.ofSchema schema true) batchSize records

end TableLoad.Session
