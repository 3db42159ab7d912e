import TableLoad.Path.Basic
import TableLoad.Schema.Basic
import TableLoad.Text.Hex
import TableLoad.Text.Split
import TableLoad.Value.Basic

/-!
# Talking to an engine

Requests that an engine understands, and its answers.  Tables are spoken of by
their identifiers.
-/

set_option autoImplicit false

namespace TableLoad

inductive TableId
  /-- Given out by an engine for the table that it stored after `earlier` others.
  It is known only from the engine: no text spells it. -/
  | issued (earlier : Nat)
  /-- The number that a text spells. -/
  | spelled (number : Nat)
deriving DecidableEq, Repr

namespace TableId

def number : TableId → Nat
  | .issued earlier => 0x40008000000000000001 + earlier
  | .spelled number => number

def groupSizes : List Nat := [8, 4, 4, 4, 12]

/-- Cuts a text into groups of the given sizes. -/
def groups : (sizes : List Nat) → List Char → List String
  | [], _ => []
  | size :: sizes, text => String.ofList (text.take size) :: groups sizes (text.drop size)

def text (id : TableId) : String :=
  String.intercalate "-" (groups groupSizes (Hex.fixed 32 id.number))

/-- Reads an identifier: its 32 digits, with dashes between the groups or none. -/
def ofText? (text : String) : Option TableId :=
  let parts := splitText '-' text
  let sizes := parts.map String.length
  if sizes = groupSizes ∨ sizes = [32] then
    (Hex.toNat? 0 (parts.flatMap String.toList)).map .spelled
  else none

end TableId

structure Table where
  id : TableId
  schema : Schema
deriving DecidableEq

def Table.text (table : Table) : String :=
  s!"table {table.id.text} {table.schema.text}"

structure BatchFile where
  path : String
  content : Option (List UInt8)
deriving DecidableEq, Repr

inductive Operation
  | getCurrentCatalog
  | useCatalog
  | getCurrentDatabase
  | useDatabase
  | listCatalogs
  | listDatabases
  | listTables
  | listTemporaryViews
  | lookupTable
  | createTemporaryView
  | dropTemporaryView
  | readBatchFile
  | collectTable
  | createTable
deriving DecidableEq, Repr

def Operation.text : Operation → String
  | .getCurrentCatalog => "getCurrentCatalog"
  | .useCatalog => "useCatalog"
  | .getCurrentDatabase => "getCurrentDatabase"
  | .useDatabase => "useDatabase"
  | .listCatalogs => "listCatalogs"
  | .listDatabases => "listDatabases"
  | .listTables => "listTables"
  | .listTemporaryViews => "listTemporaryViews"
  | .lookupTable => "from"
  | .createTemporaryView => "createTemporaryView"
  | .dropTemporaryView => "dropTemporaryView"
  | .readBatchFile => "readBatchFile"
  | .collectTable => "collect"
  | .createTable => "createTable"

inductive Request
  | getCurrentCatalog
  | useCatalog (name : String)
  | getCurrentDatabase
  | useDatabase (name : String)
  | listCatalogs
  | listDatabases
  | listTables
  | listTemporaryViews
  | lookupTable (path : ObjectPath)
  | createTemporaryView (path : ObjectPath) (table : TableId)
  | dropTemporaryView (path : ObjectPath)
  | readBatchFile (file : BatchFile) (schema : Schema)
  | collectTable (table : TableId)
deriving DecidableEq

def Request.operation : Request → Operation
  | .getCurrentCatalog => .getCurrentCatalog
  | .useCatalog _ => .useCatalog
  | .getCurrentDatabase => .getCurrentDatabase
  | .useDatabase _ => .useDatabase
  | .listCatalogs => .listCatalogs
  | .listDatabases => .listDatabases
  | .listTables => .listTables
  | .listTemporaryViews => .listTemporaryViews
  | .lookupTable _ => .lookupTable
  | .createTemporaryView _ _ => .createTemporaryView
  | .dropTemporaryView _ => .dropTemporaryView
  | .readBatchFile _ _ => .readBatchFile
  | .collectTable _ => .collectTable

def Request.subject? : Request → Option String
  | .useCatalog name => some name
  | .useDatabase name => some name
  | .lookupTable path => some path.text
  | .createTemporaryView path _ => some path.text
  | .dropTemporaryView path => some path.text
  | _ => none

def Request.text (request : Request) : String :=
  match request.subject? with
  | some subject => s!"{request.operation.text} {subject}"
  | none => request.operation.text

inductive Response
  | name (name : String)
  | names (names : List String)
  | table (table : Table)
  | dropped (dropped : Bool)
  | rows (rows : List Row)
  | done

def Response.kindText : Response → String
  | .name _ => "name"
  | .names _ => "names"
  | .table _ => "table"
  | .dropped _ => "dropped"
  | .rows _ => "rows"
  | .done => "done"

end TableLoad
