import TableLoad.Session.Basic

/-!
# Catalogs, tables and views of a session

Paths are resolved against what the engine reports as current, with one request
for the catalog and one for the database.
-/

set_option autoImplicit false

namespace TableLoad.Session

def currentCatalog : Session Failure String :=
  requestName .getCurrentCatalog

def currentDatabase : Session Failure String :=
  requestName .getCurrentDatabase

def useCatalog (name : String) : Session Failure Unit :=
  requestDone (.useCatalog name)

def useDatabase (name : String) : Session Failure Unit :=
  requestDone (.useDatabase name)

def listCatalogs : Session Failure (List String) :=
  requestNames .listCatalogs

def listDatabases : Session Failure (List String) :=
  requestNames .listDatabases

def listTables : Session Failure (List String) :=
  requestNames .listTables

def listTemporaryViews : Session Failure (List String) :=
  requestNames .listTemporaryViews

def resolvePath (path : String) : Session Failure ObjectPath := do
  let catalog ← currentCatalog
  let database ← currentDatabase
  ofExcept .path (ObjectPath.ofText path catalog database)

def fromPath (path : String) : Session Failure Table := do
  requestTable (.lookupTable (← resolvePath path))

def createTemporaryView (path : String) (table : TableId) : Session Failure ObjectPath := do
  let path ← resolvePath path
  requestDone (.createTemporaryView path table)
  return path

def dropTemporaryView (path : String) : Session Failure Bool := do
  request (.dropTemporaryView (← resolvePath path)) fun response =>
    match response with
    | .dropped dropped => some dropped
    | _ => none

def collect (table : TableId) : Session Failure (List Row) :=
  request (.collectTable table) fun response =>
    match response with
    | .rows rows => some rows
    | _ => none

end TableLoad.Session
