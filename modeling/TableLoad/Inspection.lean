import TableLoad.Batch.Reader
import TableLoad.Storage.Folder

/-!
# Inspecting batch files

Reads the schema and all rows of a batch file.
-/

set_option autoImplicit false

namespace TableLoad

inductive InspectionError
  | unopened (path : String)
  | header (path : String) (error : Batch.Error)
  | rows (path : String) (error : Batch.Error)
deriving DecidableEq

namespace InspectionError

def message : InspectionError → String
  | .unopened path => s!"Failed to open {path}"
  | .header path _ => s!"Failed to read batch header of {path}"
  | .rows path _ => s!"Failed to decode rows of {path}"

def failure? : InspectionError → Option Batch.Error
  | .unopened _ => none
  | .header _ error => some error
  | .rows _ error => some error

end InspectionError

open Storage in
/-- The schema and the rows of a batch file.  A directory can be opened but not
read. -/
def inspectBatchFile (folder : Folder) (path : String) :
    Except InspectionError (Schema × List Row) :=
  match folder.find? path with
  | none => .error (.unopened path)
  | some .directory => .error (.header path (.unreadable .magic))
  | some (.file (.columns _)) => .error (.header path (.unreadable .magic))
  | some (.file (.bytes bytes)) =>
    match Batch.Reader.start bytes with
    | .error cause => .error (.header path (.corrupt cause))
    | .ok reader =>
      match reader.readAll with
      | .error cause => .error (.rows path (.corrupt cause))
      | .ok rows => .ok (reader.schema, rows)

end TableLoad
