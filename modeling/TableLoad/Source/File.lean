import TableLoad.Source.Delimited
import TableLoad.Source.Format
import TableLoad.Source.JsonLines
import TableLoad.Storage.Folder

/-!
# Source files

Reads a source file as its format says.  Delimited files and JSON lines give
records, whose schema is still open; columnar files give frames.
-/

set_option autoImplicit false

namespace TableLoad.Source

inductive Data
  | records (records : List Record)
  | frame (frame : Frame)

inductive FileError
  | unreadable (path : String)
  | unopened (path : String)
  | notColumnar (path : String)
  | delimited (error : DelimitedError)
  | jsonLines (error : JsonLinesError)
deriving DecidableEq, Repr

def FileError.message : FileError → String
  | .unreadable path => s!"Failed to read {path}"
  | .unopened path => s!"Failed to open {path}"
  | .notColumnar _ => "Failed to read Parquet metadata"
  | .delimited error => error.message
  | .jsonLines error => error.message

/-- The bytes of a file; nothing is known of the bytes of a columnar file. -/
def fileBytes (folder : Folder) (path : String) : Except FileError (List UInt8) :=
  match folder.find? path with
  | some (.file (.bytes bytes)) => .ok bytes
  | _ => .error (.unreadable path)

def delimitedFile (folder : Folder) (path : String) (dialect : Dialect) :
    Except FileError Data := do
  let bytes ← fileBytes folder path
  return .records (← (readDelimited dialect bytes).mapError .delimited)

def jsonLinesFile (folder : Folder) (path : String) : Except FileError Data := do
  let bytes ← fileBytes folder path
  return .records (← (readJsonLines bytes).mapError .jsonLines)

def columnarFile (folder : Folder) (path : String) : Except FileError Data :=
  match folder.find? path with
  | none => .error (.unopened path)
  | some (.file (.columns frame)) => .ok (.frame frame)
  | some _ => .error (.notColumnar path)

def readFile (folder : Folder) (path : String) (hasHeader : Bool) :
    Format → Except FileError Data
  | .csv => delimitedFile folder path { Dialect.csv with hasHeader }
  | .tsv => delimitedFile folder path { Dialect.tsv with hasHeader }
  | .json => jsonLinesFile folder path
  | .parquet => columnarFile folder path

end TableLoad.Source
