import TableLoad.Engine.State
import TableLoad.Session.Catalog
import TableLoad.Session.Elements
import TableLoad.Source.File

/-!
# Loading files

A source file becomes a table of an engine.  The rows are fetched back, a view of
the table is registered and the rows are written to a batch file, if that is
asked for; in this order, and the first failure ends the load.
-/

set_option autoImplicit false

namespace TableLoad

structure LoadRequest where
  source : String
  /-- Told by the extension of the source unless given. -/
  format : Option Source.Format
  /-- Names for the fields, instead of their own. -/
  names : Option (List String)
  verify : Bool
  hasHeader : Bool
  view : Option String
  catalog : Option String
  database : Option String
  output : Option String

def LoadRequest.ofSource (source : String) : LoadRequest :=
  { source
    format := none
    names := none
    verify := true
    hasHeader := true
    view := none
    catalog := none
    database := none
    output := none }

structure LoadSummary where
  table : Table
  rowsLoaded : Nat
  view : Option ObjectPath
  output : Option String

inductive LoadError
  | undetected (source : String)
  | source (error : Source.FileError)
  | records (failure : Failure)
  | frame (failure : Failure)
  | session (failure : Failure)
  | createOutput (path : String)
  | writeOutput (path : String) (error : Batch.Error)

namespace LoadError

/-- What the load was about when it failed, or else the failure itself. -/
def message : LoadError → String
  | .undetected path =>
    s!"Could not detect format from file '{path}'. " ++
      "Supported extensions: .csv, .tsv, .json, .jsonl, .ndjson, .parquet"
  | .source error => error.message
  | .records _ => "Failed to create table from records"
  | .frame _ => "Failed to create table from record batches"
  | .session failure => failure.message
  | .createOutput path => s!"Failed to create {path}"
  | .writeOutput path _ => s!"Failed to write batch file {path}"

def failure? : LoadError → Option Failure
  | .undetected _ => none
  | .source _ => none
  | .records failure => some failure
  | .frame failure => some failure
  | .session failure => some failure
  | .createOutput _ => none
  | .writeOutput _ error => some (.batch error)

end LoadError

namespace Session

def sourceFormat (load : LoadRequest) : Session LoadError Source.Format :=
  match load.format with
  | some format => return format
  | none =>
    match Source.Format.detect? load.source with
    | some format => return format
    | none => throw (.undetected load.source)

def createTable (batchSize : Nat) (load : LoadRequest) :
    Source.Data → Session LoadError Table
  | .records records =>
    mapError .records (fromElements batchSize records (load.names.map .names) load.verify)
  | .frame frame =>
    mapError .frame (fromFrame batchSize frame (load.names.map .names))

def writeBatchFile (path : String) (schema : Schema) (rows : List Row) :
    Session LoadError Unit := do
  let (outcome, bytes) :=
    Batch.serialize id schema Batch.defaultBatchSize (rows.map Except.ok)
  match (← get).folder.write? path bytes with
  | none => throw (.createOutput path)
  | some folder =>
    modify fun disk => { disk with folder }
    let _ ← ofExcept (LoadError.writeOutput path) outcome

def load (batchSize : Nat) (load : LoadRequest) : Session LoadError LoadSummary := do
  let format ← sourceFormat load
  let read := Source.readFile (← get).folder load.source load.hasHeader format
  let data ← ofExcept .source read
  let table ← createTable batchSize load data
  let rows ← mapError .session (collect table.id)
  let view ← load.view.mapM fun path => mapError .session (createTemporaryView path table.id)
  if let some path := load.output then
    writeBatchFile path table.schema rows
  return { table, rowsLoaded := rows.length, view, output := load.output }

def loadThere (request : LoadRequest) : Session LoadError LoadSummary := do
  if let some catalog := request.catalog then
    mapError .session (useCatalog catalog)
  if let some database := request.database then
    mapError .session (useDatabase database)
  load Batch.defaultBatchSize request

end Session

namespace LoadRequest

/-- The engine for a load: a fresh one with the catalog and the database of the
load. -/
def engine (load : LoadRequest) : Engine :=
  if load.catalog.isSome || load.database.isSome then
    Engine.fresh.withDatabase (load.catalog.getD Engine.defaultCatalog)
      (load.database.getD Engine.defaultDatabase)
  else Engine.fresh

def run (load : LoadRequest) (disk : Disk) :
    (Except LoadError LoadSummary × Disk) × Engine :=
  (Session.loadThere load).runWith Engine.call disk load.engine

end LoadRequest

end TableLoad
