import TableLoad.Batch.Reader
import TableLoad.Engine.Failure

/-!
# An engine

A session of an engine that keeps everything in its state: catalogs of databases
of tables, temporary views, the rows of every table, and the current catalog and
database.
-/

set_option autoImplicit false

namespace TableLoad

/-- Replaces the item under a key by a function of it. -/
def adjust {α β : Type} [DecidableEq α] (key : α) (change : β → β) :
    List (α × β) → List (α × β)
  | [] => []
  | (k, item) :: rest =>
    if k = key then (k, change item) :: rest else (k, item) :: adjust key change rest

abbrev Database := List (String × TableId)

/-- The databases of a catalog; switching to the catalog switches to the default
one. -/
structure Catalog where
  defaultDatabase : String
  databases : List (String × Database)
deriving DecidableEq, Repr

namespace Catalog

def ofDatabase (database : String) : Catalog :=
  { defaultDatabase := database, databases := [(database, [])] }

def addDatabase (database : String) (catalog : Catalog) : Catalog :=
  match catalog.databases.lookup database with
  | some _ => catalog
  | none => { catalog with databases := catalog.databases ++ [(database, [])] }

end Catalog

structure StoredTable where
  schema : Schema
  rows : List Row

structure Engine where
  catalogs : List (String × Catalog)
  views : List (ObjectPath × TableId)
  tables : List (TableId × StoredTable)
  currentCatalog : String
  currentDatabase : String
  /-- Tables stored so far; identifiers are given out in order. -/
  stored : Nat

namespace Engine

def defaultCatalog : String := "default_catalog"

def defaultDatabase : String := "default_database"

def fresh : Engine :=
  { catalogs := [(defaultCatalog, .ofDatabase defaultDatabase)]
    views := []
    tables := []
    currentCatalog := defaultCatalog
    currentDatabase := defaultDatabase
    stored := 0 }

/-- Adds a database.  The first database of a new catalog is its default. -/
def withDatabase (engine : Engine) (catalog database : String) : Engine :=
  match engine.catalogs.lookup catalog with
  | some _ =>
    { engine with catalogs := adjust catalog (Catalog.addDatabase database) engine.catalogs }
  | none =>
    { engine with catalogs := engine.catalogs ++ [(catalog, .ofDatabase database)] }

/-! ## Questions -/

def database? (engine : Engine) (catalog database : String) : Option Database := do
  (← engine.catalogs.lookup catalog).databases.lookup database

def table? (engine : Engine) (id : TableId) : Option Table :=
  (engine.tables.lookup id).map fun held => { id, schema := held.schema }

/-- The table or view at a path; a view hides a table of the same path. -/
def find? (engine : Engine) (path : ObjectPath) : Option TableId :=
  match engine.views.lookup path with
  | some id => some id
  | none => (engine.database? path.catalog path.database).bind (List.lookup path.object)

def currentViews (engine : Engine) : List String :=
  (engine.views.filter fun view =>
    view.1.catalog = engine.currentCatalog && view.1.database = engine.currentDatabase).map
      fun view => view.1.object

/-- Leaves one of several equal names that stand side by side. -/
def dropRepeats : List String → List String
  | a :: b :: rest => if a = b then dropRepeats (b :: rest) else a :: dropRepeats (b :: rest)
  | names => names

def catalogNames (engine : Engine) : List String :=
  sortNames (engine.catalogs.map Prod.fst)

def databaseNames (engine : Engine) : List String :=
  match engine.catalogs.lookup engine.currentCatalog with
  | some catalog => sortNames (catalog.databases.map Prod.fst)
  | none => []

def tableNames (engine : Engine) : List String :=
  let tables := (engine.database? engine.currentCatalog engine.currentDatabase).getD []
  dropRepeats (sortNames (tables.map Prod.fst ++ engine.currentViews))

def viewNames (engine : Engine) : List String :=
  sortNames engine.currentViews

/-! ## Changes -/

def nextId (engine : Engine) : TableId :=
  .issued engine.stored

def store (engine : Engine) (schema : Schema) (rows : List Row) : Table × Engine :=
  let id := engine.nextId
  ({ id, schema },
    { engine with tables := (id, { schema, rows }) :: engine.tables, stored := engine.stored + 1 })

def registerTable (engine : Engine) (path : ObjectPath) (schema : Schema) (rows : List Row) :
    Except Failure Table × Engine :=
  match engine.database? path.catalog path.database with
  | none =>
    (.error (.refused .createTable (.unknownDatabase path.catalog path.database)), engine)
  | some tables =>
    match tables.lookup path.object with
    | some _ => (.error (.refused .createTable (.tableExists path)), engine)
    | none =>
      let (table, engine) := engine.store schema rows
      let addTable (database : Database) := database ++ [(path.object, table.id)]
      let addIn (catalog : Catalog) : Catalog :=
        { catalog with databases := adjust path.database addTable catalog.databases }
      (.ok table, { engine with catalogs := adjust path.catalog addIn engine.catalogs })

def useCatalog (engine : Engine) (name : String) : Except Failure Response × Engine :=
  match engine.catalogs.lookup name with
  | none => (.error (.refused .useCatalog (.unknownCatalog name)), engine)
  | some catalog =>
    (.ok .done,
      { engine with currentCatalog := name, currentDatabase := catalog.defaultDatabase })

def useDatabase (engine : Engine) (name : String) : Except Failure Response × Engine :=
  match engine.database? engine.currentCatalog name with
  | none =>
    (.error (.refused .useDatabase (.unknownDatabaseIn engine.currentCatalog name)), engine)
  | some _ => (.ok .done, { engine with currentDatabase := name })

def createView (engine : Engine) (path : ObjectPath) (id : TableId) :
    Except Failure Response × Engine :=
  let refuse (refusal : Refusal) : Except Failure Response × Engine :=
    (.error (.refused .createTemporaryView refusal), engine)
  match engine.tables.lookup id, engine.database? path.catalog path.database,
      engine.views.lookup path with
  | none, _, _ => refuse (.unknownTable id)
  | some _, none, _ => refuse (.unknownDatabase path.catalog path.database)
  | some _, some _, some _ => refuse (.viewExists path)
  | some _, some _, none => (.ok .done, { engine with views := (path, id) :: engine.views })

def dropView (engine : Engine) (path : ObjectPath) : Except Failure Response × Engine :=
  (.ok (.dropped (engine.views.lookup path).isSome),
    { engine with views := engine.views.filter fun view => view.1 ≠ path })

/-- Reads a batch file, which must have been written for the schema, into a new
table. -/
def readBatchFile (engine : Engine) (file : BatchFile) (schema : Schema) :
    Except Failure Response × Engine :=
  match file.content with
  | none => (.error (.batch (.missingFile file.path)), engine)
  | some bytes =>
    match Batch.deserialize bytes schema with
    | .error cause => (.error (.batch (.corrupt cause)), engine)
    | .ok rows =>
      let (table, engine) := engine.store schema rows
      (.ok (.table table), engine)

def call (engine : Engine) : Request → Except Failure Response × Engine
  | .getCurrentCatalog => (.ok (.name engine.currentCatalog), engine)
  | .getCurrentDatabase => (.ok (.name engine.currentDatabase), engine)
  | .useCatalog name => engine.useCatalog name
  | .useDatabase name => engine.useDatabase name
  | .listCatalogs => (.ok (.names engine.catalogNames), engine)
  | .listDatabases => (.ok (.names engine.databaseNames), engine)
  | .listTables => (.ok (.names engine.tableNames), engine)
  | .listTemporaryViews => (.ok (.names engine.viewNames), engine)
  | .lookupTable path =>
    match (engine.find? path).bind engine.table? with
    | some table => (.ok (.table table), engine)
    | none => (.error (.refused .lookupTable (.tableNotFound path)), engine)
  | .createTemporaryView path id => engine.createView path id
  | .dropTemporaryView path => engine.dropView path
  | .readBatchFile file schema => engine.readBatchFile file schema
  | .collectTable id =>
    match engine.tables.lookup id with
    | some held => (.ok (.rows held.rows), engine)
    | none => (.error (.refused .collectTable (.unknownTable id)), engine)

end Engine

end TableLoad
