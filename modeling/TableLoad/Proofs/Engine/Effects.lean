import TableLoad.Engine.State
import TableLoad.Proofs.Lookup

/-!
# What happens to an engine

All that an event can do to an engine is listed once, with what has to hold before it
does so.  What the engine answers about catalogs, objects, views and tables after an
event is read off this list.
-/

set_option autoImplicit false

namespace TableLoad

/-! ## Look-ups -/

section Lookups

variable {α β : Type} [DecidableEq α]

theorem lookup_adjust (key : α) (change : β → β) (items : List (α × β)) (other : α) :
    (adjust key change items).lookup other =
      if other = key then (items.lookup other).map change else items.lookup other := by
  induction items with
  | nil => simp [adjust]
  | cons entry rest ih =>
    obtain ⟨own, item⟩ := entry
    rw [adjust, lookup_cons_if own item rest]
    by_cases found : own = key
    · rw [if_pos found, lookup_cons_if]
      by_cases same : other = own
      · rw [if_pos same, if_pos same, if_pos (same.trans found), Option.map_some]
      · have different : other ≠ key := found ▸ same
        rw [if_neg same, if_neg same, if_neg different]
    · rw [if_neg found, lookup_cons_if, ih]
      by_cases same : other = own
      · have different : other ≠ key := same ▸ found
        rw [if_pos same, if_pos same, if_neg different]
      · rw [if_neg same, if_neg same]

theorem keys_adjust (key : α) (change : β → β) (items : List (α × β)) :
    (adjust key change items).map Prod.fst = items.map Prod.fst := by
  induction items with
  | nil => rfl
  | cons entry rest ih =>
    obtain ⟨own, item⟩ := entry
    rw [adjust]
    split
    · rfl
    · rw [List.map_cons, ih, List.map_cons]

end Lookups

namespace Engine

/-! ## Events -/

/-- What may happen to an engine: it is asked something, or a table is stored at
a path. -/
inductive Event
  | request (request : Request)
  | register (path : ObjectPath) (schema : Schema) (rows : List Row)

def apply (engine : Engine) : Event → Engine
  | .request request => (engine.call request).2
  | .register path schema rows => (engine.registerTable path schema rows).2

/-- The engine after some events, the first one first. -/
def after (engine : Engine) (events : List Event) : Engine :=
  events.foldl apply engine

/-! ## Objects -/

def object? (engine : Engine) (path : ObjectPath) : Option TableId :=
  (engine.database? path.catalog path.database).bind (List.lookup path.object)

def HasDatabase (engine : Engine) (catalog database : String) : Prop :=
  (engine.database? catalog database).isSome = true

def Stored (engine : Engine) (id : TableId) : Prop :=
  (engine.tables.lookup id).isSome = true

theorem find?_eq (engine : Engine) (path : ObjectPath) :
    engine.find? path = (engine.views.lookup path).or (engine.object? path) := by
  unfold find? object?
  cases engine.views.lookup path <;> rfl

def withObject (engine : Engine) (path : ObjectPath) (id : TableId) : Engine :=
  let addTable (database : Database) := database ++ [(path.object, id)]
  let addIn (catalog : Catalog) : Catalog :=
    { catalog with databases := adjust path.database addTable catalog.databases }
  { engine with catalogs := adjust path.catalog addIn engine.catalogs }

theorem database?_withObject (engine : Engine) (path : ObjectPath) (id : TableId)
    (catalog database : String) :
    (engine.withObject path id).database? catalog database =
      if catalog = path.catalog ∧ database = path.database then
        (engine.database? catalog database).map (· ++ [(path.object, id)])
      else engine.database? catalog database := by
  simp only [database?, withObject, lookup_adjust, bind]
  by_cases there : catalog = path.catalog
  · cases found : engine.catalogs.lookup catalog with
    | none => simp [there]
    | some held =>
      rw [if_pos there, Option.map_some, Option.bind_some, Option.bind_some, lookup_adjust]
      by_cases inside : database = path.database
      · rw [if_pos inside, if_pos ⟨there, inside⟩]
      · rw [if_neg inside, if_neg (fun both => inside both.2)]
  · rw [if_neg there, if_neg (fun both => there both.1)]

theorem object?_withObject (engine : Engine) (path : ObjectPath) (id : TableId)
    (placed : engine.HasDatabase path.catalog path.database) (free : engine.object? path = none)
    (other : ObjectPath) :
    (engine.withObject path id).object? other =
      if other = path then some id else engine.object? other := by
  obtain ⟨database, found⟩ := Option.isSome_iff_exists.mp placed
  have vacant : database.lookup path.object = none := by
    rw [object?, found] at free
    exact free
  rw [object?, database?_withObject]
  by_cases there : other.catalog = path.catalog ∧ other.database = path.database
  · rw [if_pos there, object?, there.1, there.2, found]
    rw [Option.map_some, Option.bind_some, Option.bind_some, List.lookup_append]
    by_cases same : other.object = path.object
    · have whole : other = path := by
        cases other
        cases path
        simp_all
      rw [if_pos whole, same, vacant, Option.none_or, List.lookup_cons_self]
    · have different : other ≠ path := by
        rintro rfl
        exact same rfl
      rw [if_neg different, lookup_cons_if, if_neg same, List.lookup_nil, Option.or_none]
  · have different : other ≠ path := by
      rintro rfl
      exact there ⟨rfl, rfl⟩
    rw [if_neg there, if_neg different, object?]

theorem defaults_withObject (engine : Engine) (path : ObjectPath) (id : TableId) (name : String) :
    ((engine.withObject path id).catalogs.lookup name).map Catalog.defaultDatabase =
      (engine.catalogs.lookup name).map Catalog.defaultDatabase := by
  rw [withObject, lookup_adjust]
  split
  · rw [Option.map_map]
    rfl
  · rfl

/-! ## Effects -/

/-- What an event may do to an engine, and what must hold for it.  A question and a
refused request do nothing. -/
inductive Effect (engine : Engine) : Event → Engine → Prop
  | nothing (event : Event) : Effect engine event engine
  | useCatalog (name : String) (catalog : Catalog)
      (found : engine.catalogs.lookup name = some catalog) :
      Effect engine (.request (.useCatalog name))
        { engine with currentCatalog := name, currentDatabase := catalog.defaultDatabase }
  | useDatabase (name : String) (found : engine.HasDatabase engine.currentCatalog name) :
      Effect engine (.request (.useDatabase name)) { engine with currentDatabase := name }
  | createView (path : ObjectPath) (id : TableId) (stored : engine.Stored id)
      (placed : engine.HasDatabase path.catalog path.database)
      (free : engine.views.lookup path = none) :
      Effect engine (.request (.createTemporaryView path id))
        { engine with views := (path, id) :: engine.views }
  | dropView (path : ObjectPath) :
      Effect engine (.request (.dropTemporaryView path))
        { engine with views := engine.views.filter fun view => view.1 ≠ path }
  | readBatch (file : BatchFile) (schema : Schema) (bytes : List UInt8) (rows : List Row)
      (present : file.content = some bytes) (read : Batch.deserialize bytes schema = .ok rows) :
      Effect engine (.request (.readBatchFile file schema)) (engine.store schema rows).2
  | register (path : ObjectPath) (schema : Schema) (rows : List Row)
      (placed : engine.HasDatabase path.catalog path.database)
      (free : engine.object? path = none) :
      Effect engine (.register path schema rows)
        ((engine.store schema rows).2.withObject path engine.nextId)

theorem registerTable_cases (engine : Engine) (path : ObjectPath) (schema : Schema)
    (rows : List Row) :
    (engine.HasDatabase path.catalog path.database ∧ engine.object? path = none ∧
      engine.registerTable path schema rows =
        (.ok (engine.store schema rows).1,
          (engine.store schema rows).2.withObject path engine.nextId)) ∨
    ((engine.HasDatabase path.catalog path.database → engine.object? path ≠ none) ∧
      ∃ refusal, engine.registerTable path schema rows =
        (.error (.refused .createTable refusal), engine)) := by
  unfold registerTable HasDatabase object?
  cases placed : engine.database? path.catalog path.database with
  | none => exact .inr ⟨nofun, _, rfl⟩
  | some tables =>
    rw [Option.bind_some]
    cases free : tables.lookup path.object with
    | none => exact .inl ⟨rfl, rfl, by simp only [free]; rfl⟩
    | some id => exact .inr ⟨fun _ => nofun, .tableExists path, by simp only [free]⟩

theorem effect_registerTable (engine : Engine) (path : ObjectPath) (schema : Schema)
    (rows : List Row) :
    Effect engine (.register path schema rows) (engine.registerTable path schema rows).2 := by
  rcases registerTable_cases engine path schema rows with ⟨placed, free, made⟩ | ⟨_, refusal, kept⟩
  · rw [made]
    exact .register path schema rows placed free
  · rw [kept]
    exact .nothing _

theorem createView_cases (engine : Engine) (path : ObjectPath) (id : TableId) :
    (engine.Stored id ∧ engine.HasDatabase path.catalog path.database ∧
      engine.views.lookup path = none ∧
      engine.createView path id = (.ok .done, { engine with views := (path, id) :: engine.views })) ∨
    ((engine.Stored id → engine.HasDatabase path.catalog path.database →
        engine.views.lookup path ≠ none) ∧
      ∃ refusal, engine.createView path id =
        (.error (.refused .createTemporaryView refusal), engine)) := by
  unfold createView Stored HasDatabase
  cases stored : engine.tables.lookup id with
  | none => exact .inr ⟨nofun, _, rfl⟩
  | some held =>
    cases placed : engine.database? path.catalog path.database with
    | none => exact .inr ⟨fun _ => nofun, _, rfl⟩
    | some tables =>
      cases free : engine.views.lookup path with
      | none => exact .inl ⟨rfl, rfl, rfl, rfl⟩
      | some view => exact .inr ⟨fun _ _ => nofun, _, rfl⟩

theorem effect_call (engine : Engine) (request : Request) :
    Effect engine (.request request) (engine.call request).2 := by
  cases request with
  | useCatalog name =>
    simp only [call, Engine.useCatalog]
    split
    · exact .nothing _
    · rename_i catalog found
      exact .useCatalog name catalog found
  | useDatabase name =>
    simp only [call, Engine.useDatabase]
    split
    · exact .nothing _
    · rename_i tables found
      exact .useDatabase name (by rw [HasDatabase, found]; rfl)
  | lookupTable path =>
    simp only [call]
    split <;> exact .nothing _
  | createTemporaryView path id =>
    rw [call]
    rcases createView_cases engine path id with ⟨stored, placed, free, made⟩ | ⟨_, refusal, kept⟩
    · rw [made]
      exact .createView path id stored placed free
    · rw [kept]
      exact .nothing _
  | dropTemporaryView path => exact .dropView path
  | readBatchFile file schema =>
    simp only [call, Engine.readBatchFile]
    split
    · exact .nothing _
    · rename_i bytes present
      split
      · exact .nothing _
      · rename_i rows read
        exact .readBatch file schema bytes rows present read
  | collectTable id =>
    simp only [call]
    split <;> exact .nothing _
  | _ => exact .nothing _

theorem effect_apply (engine : Engine) (event : Event) :
    Effect engine event (engine.apply event) := by
  cases event with
  | request request => exact effect_call engine request
  | register path schema rows => exact effect_registerTable engine path schema rows

/-! ## What an event leaves of the answers -/

section Steps

variable {engine next : Engine} {event : Event}

theorem hasDatabase_of_effect (effect : Effect engine event next) (catalog database : String) :
    next.HasDatabase catalog database ↔ engine.HasDatabase catalog database := by
  cases effect with
  | register path schema rows placed free =>
    rw [HasDatabase, database?_withObject]
    split
    · rw [Option.isSome_map]
      exact Iff.rfl
    · exact Iff.rfl
  | _ => exact Iff.rfl

theorem defaults_of_effect (effect : Effect engine event next) (name : String) :
    (next.catalogs.lookup name).map Catalog.defaultDatabase =
      (engine.catalogs.lookup name).map Catalog.defaultDatabase := by
  cases effect with
  | register path schema rows placed free => exact defaults_withObject _ path _ name
  | _ => rfl

theorem stored_store (engine : Engine) (schema : Schema) (rows : List Row) :
    (engine.store schema rows).2.Stored engine.nextId := by
  rw [Stored, store, List.lookup_cons_self]
  rfl

/-- An object stays where it is; one is put only where there is none. -/
theorem object?_of_effect (effect : Effect engine event next) (path : ObjectPath) :
    next.object? path = engine.object? path ∨
      engine.object? path = none ∧ next.object? path = some engine.nextId ∧
        next.Stored engine.nextId ∧ ∃ schema rows, event = .register path schema rows := by
  cases effect with
  | register place schema rows placed free =>
    rw [object?_withObject (engine.store schema rows).2 place _ placed free]
    by_cases same : path = place
    · rw [if_pos same, same]
      exact .inr ⟨free, rfl, stored_store engine schema rows, schema, rows, rfl⟩
    · rw [if_neg same]
      exact .inl rfl
  | _ => exact .inl rfl

/-- A view stays as it is unless it is dropped; one is created only where there is
none, of a stored table and in a database that exists. -/
theorem view_of_effect (effect : Effect engine event next) (path : ObjectPath) :
    next.views.lookup path = engine.views.lookup path ∨
      next.views.lookup path = none ∧ event = .request (.dropTemporaryView path) ∨
        ∃ id, engine.views.lookup path = none ∧ next.views.lookup path = some id ∧
          engine.Stored id ∧ engine.HasDatabase path.catalog path.database := by
  cases effect with
  | createView place id stored placed free =>
    rw [lookup_cons_if]
    by_cases same : path = place
    · rw [if_pos same, same]
      exact .inr (.inr ⟨id, free, rfl, stored, placed⟩)
    · rw [if_neg same]
      exact .inl rfl
  | dropView place =>
    rw [lookup_filter_ne]
    by_cases same : path = place
    · rw [if_pos same, same]
      exact .inr (.inl ⟨rfl, rfl⟩)
    · rw [if_neg same]
      exact .inl rfl
  | _ => exact .inl rfl

end Steps

end Engine

end TableLoad
