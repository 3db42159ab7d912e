import TableLoad.Schema.Header
import TableLoad.Text.Utf8

/-!
# Failures of batches

Why bytes are no batch, and why a batch cannot be stored or fetched.
-/

set_option autoImplicit false

namespace TableLoad.Batch

inductive Part
  | magic
  | version
  | schemaLength
  | schemaHeader
  | frameLength
  | frame
deriving DecidableEq, Repr

def Part.text : Part → String
  | .magic => "batch magic"
  | .version => "batch version"
  | .schemaLength => "schema length"
  | .schemaHeader => "schema header"
  | .frameLength => "frame length"
  | .frame => "frame"

def maxFrameBytes : Nat := 256 * 1024 * 1024

def maxNesting : Nat := 64

/-- How bytes depart from the encoding. -/
inductive Corruption
  | badMagic (found : List UInt8)
  | unsupportedVersion (version : UInt8)
  | headerLength (bytes : Nat)
  | truncated (part : Part)
  | header (fault : HeaderFault)
  | frameLength (bytes : Nat)
  | nonConforming (row : Nat) (field found : String) (declared : DataType)
  | unreadBytes (count : Nat)
  | trailingData
  | shortValue (needed left : Nat)
  | unknownTag (tag : UInt8)
  | nestedTooDeep
  | dateOutOfRange (days : Int)
  | timeOutOfRange (seconds : Nat)
  | timestampOutOfRange (seconds : Int)
  | durationOutOfRange (seconds : Int)
  | invalidText (fault : Utf8.Fault)
  | schemaMismatch (found expected : Schema)
  | rowWidth (values fields : Nat)
deriving DecidableEq

def Corruption.message : Corruption → String
  | .badMagic found => "bad magic " ++ String.ofList (Hex.ofBytes found)
  | .unsupportedVersion version => s!"unsupported version {version}"
  | .headerLength bytes => s!"schema header of {bytes} bytes"
  | .truncated part => "truncated " ++ part.text
  | .header .malformed => "invalid schema header"
  | .header (.schema fault) => "invalid schema header: " ++ fault.message
  | .frameLength bytes => s!"frame length {bytes} out of bounds"
  | .nonConforming row field found declared =>
    s!"row {row} field '{field}' holds {found} but the header declares {declared.text}"
  | .unreadBytes count => s!"{count} unread bytes at the end of a frame"
  | .trailingData => "data after the terminator"
  | .shortValue needed left => s!"value needs {needed} bytes but the frame has {left} left"
  | .unknownTag tag => s!"unknown value tag {tag}"
  | .nestedTooDeep => s!"values nested deeper than {maxNesting} levels"
  | .dateOutOfRange days => s!"date out of range: {days}"
  | .timeOutOfRange seconds => s!"time out of range: {seconds}s"
  | .timestampOutOfRange seconds => s!"timestamp out of range: {seconds}s"
  | .durationOutOfRange seconds => s!"duration out of range: {seconds}s"
  | .invalidText fault => "invalid utf-8 string: " ++ fault.message
  | .schemaMismatch found expected =>
    s!"batch schema {found.text} does not match expected schema {expected.text}"
  | .rowWidth values fields =>
    s!"row has {values} values but the schema has {fields} fields"

inductive Error
  | corrupt (cause : Corruption)
  | lengthTooLong (part : String)
  | frameTooLong
  | noScratchDirectory
  | missingFile (path : String)
  | unreadable (part : Part)
deriving DecidableEq

def Error.message (error : Error) : String :=
  "Transport failure: " ++
    match error with
    | .corrupt cause => "Corrupt batch encoding: " ++ cause.message
    | .lengthTooLong part => s!"Length of {part} does not fit the encoding"
    | .frameTooLong => "Frame exceeds the maximum frame size"
    | .noScratchDirectory => "Failed to create temporary batch directory"
    | .missingFile path => s!"Failed to read batch file {path}"
    | .unreadable part => "Failed to read " ++ part.text

end TableLoad.Batch
