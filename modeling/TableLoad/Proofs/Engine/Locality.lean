import TableLoad.Proofs.Engine.Consistency

/-!
# What a call leaves alone

A call either fails and changes nothing, or does the one thing it is for.  A question
changes nothing, a switch only where the session is, a view that is created or dropped
only what is shown at its path, a new table only itself and the object it is registered
as.  Tables that are stored stay as they are.
-/

set_option autoImplicit false

namespace TableLoad

def Request.isQuestion : Request → Bool
  | .getCurrentCatalog | .getCurrentDatabase => true
  | .listCatalogs | .listDatabases | .listTables | .listTemporaryViews => true
  | .lookupTable _ | .collectTable _ => true
  | .useCatalog _ | .useDatabase _ => false
  | .createTemporaryView _ _ | .dropTemporaryView _ => false
  | .readBatchFile _ _ => false

theorem filter_ne_of_free {α β : Type} [DecidableEq α] (key : α) (items : List (α × β))
    (free : items.lookup key = none) : (items.filter fun entry => entry.1 ≠ key) = items := by
  rw [List.filter_eq_self]
  intro entry member
  have absent : key ∉ items.map Prod.fst := by
    rw [← lookup_isSome_iff_mem, free]
    exact Bool.false_ne_true
  rw [decide_eq_true_eq]
  rintro rfl
  exact absent (List.mem_map_of_mem member)

namespace Engine

/-! ## Parts of an engine -/

/-- All is the same but where the session is. -/
def SameButPlace (engine next : Engine) : Prop :=
  next =
    { engine with currentCatalog := next.currentCatalog, currentDatabase := next.currentDatabase }

/-- All is the same but the view at a path. -/
structure SameButView (path : ObjectPath) (engine next : Engine) : Prop where
  rest : next = { engine with views := next.views }
  views : ∀ other, other ≠ path → next.views.lookup other = engine.views.lookup other

/-- The catalogs and databases are the same, with the same objects but at a path. -/
structure SameButObject (path : ObjectPath) (engine next : Engine) : Prop where
  defaults : ∀ name, (next.catalogs.lookup name).map Catalog.defaultDatabase =
    (engine.catalogs.lookup name).map Catalog.defaultDatabase
  databases : ∀ catalog database,
    next.HasDatabase catalog database ↔ engine.HasDatabase catalog database
  objects : ∀ other, other ≠ path → next.object? other = engine.object? other

/-- One more table is stored, under an identifier that held none. -/
structure AddsTable (table : Table) (rows : List Row) (engine next : Engine) : Prop where
  fresh : engine.tables.lookup table.id = none
  stored : next.tables.lookup table.id = some { schema := table.schema, rows }
  others : ∀ id, id ≠ table.id → next.tables.lookup id = engine.tables.lookup id

section Calls

variable {made : List (String × String)} {engine next : Engine} {response : Response}

/-! ## Failures and questions -/

theorem call_of_failed (request : Request) (failure : Failure) :
    (engine.call request).1 = .error failure → (engine.call request).2 = engine := by
  intro failed
  cases request with
  | useCatalog name =>
    simp only [call, useCatalog] at failed ⊢
    split at failed
    · rfl
    · cases failed
  | useDatabase name =>
    simp only [call, useDatabase] at failed ⊢
    split at failed
    · rfl
    · cases failed
  | createTemporaryView path id =>
    rw [call] at failed ⊢
    rcases createView_cases engine path id with ⟨_, _, _, viewed⟩ | ⟨_, refusal, kept⟩
    · rw [viewed] at failed
      cases failed
    · rw [kept]
  | dropTemporaryView path => cases failed
  | readBatchFile file schema =>
    simp only [call, readBatchFile] at failed ⊢
    split at failed
    · rfl
    · split at failed
      · rfl
      · cases failed
  | lookupTable path =>
    simp only [call]
    split <;> rfl
  | collectTable id =>
    simp only [call]
    split <;> rfl
  | _ => rfl

theorem registerTable_of_failed (path : ObjectPath) (schema : Schema) (rows : List Row)
    (failure : Failure) :
    (engine.registerTable path schema rows).1 = .error failure →
      (engine.registerTable path schema rows).2 = engine := by
  intro failed
  rcases registerTable_cases engine path schema rows with ⟨_, _, stored⟩ | ⟨_, refusal, kept⟩
  · rw [stored] at failed
    cases failed
  · rw [kept]

theorem call_of_question (request : Request) (question : request.isQuestion = true) :
    (engine.call request).2 = engine := by
  cases request with
  | lookupTable path =>
    simp only [call]
    split <;> rfl
  | collectTable id =>
    simp only [call]
    split <;> rfl
  | useCatalog | useDatabase | createTemporaryView | dropTemporaryView | readBatchFile =>
    cases question
  | _ => rfl

/-! ## Switches -/

theorem useCatalog_local (name : String) :
    engine.call (.useCatalog name) = (.ok response, next) →
      engine.SameButPlace next ∧ next.currentCatalog = name ∧
        (engine.catalogs.lookup name).map Catalog.defaultDatabase = some next.currentDatabase := by
  intro served
  simp only [call, useCatalog] at served
  split at served
  · cases served
  · rename_i catalog found
    cases served
    exact ⟨rfl, rfl, by rw [found]; rfl⟩

theorem useDatabase_local (name : String) :
    engine.call (.useDatabase name) = (.ok response, next) →
      engine.SameButPlace next ∧ next.currentCatalog = engine.currentCatalog ∧
        next.currentDatabase = name := by
  intro served
  simp only [call, useDatabase] at served
  split at served
  · cases served
  · cases served
    exact ⟨rfl, rfl, rfl⟩

/-! ## Views -/

theorem createView_local (path : ObjectPath) (id : TableId) :
    engine.call (.createTemporaryView path id) = (.ok response, next) →
      engine.SameButView path next ∧ engine.views.lookup path = none ∧
        next.views.lookup path = some id ∧
        next.call (.dropTemporaryView path) = (.ok (.dropped true), engine) := by
  intro served
  rw [call] at served
  rcases createView_cases engine path id with ⟨_, _, free, viewed⟩ | ⟨_, refusal, kept⟩
  · rw [viewed] at served
    cases served
    have shown : ((path, id) :: engine.views).lookup path = some id := List.lookup_cons_self
    refine ⟨⟨rfl, ?_⟩, free, shown, ?_⟩
    · intro other different
      rw [lookup_cons_if, if_neg different]
    · have restored : (((path, id) :: engine.views).filter fun view => view.1 ≠ path) =
          engine.views := by
        rw [List.filter_cons_of_neg (by simp), filter_ne_of_free path engine.views free]
      simp only [call, dropView, shown, restored]
      rfl
  · rw [kept] at served
    cases served

theorem dropView_local (path : ObjectPath) :
    ∃ next, engine.call (.dropTemporaryView path) =
        (.ok (.dropped (engine.views.lookup path).isSome), next) ∧
      engine.SameButView path next ∧ next.views.lookup path = none ∧
      (engine.views.lookup path = none → next = engine) := by
  refine ⟨(engine.dropView path).2, rfl, ⟨rfl, ?_⟩, ?_, ?_⟩
  · intro other different
    rw [dropView, lookup_filter_ne, if_neg different]
  · rw [dropView, lookup_filter_ne, if_pos rfl]
  · intro free
    simp only [dropView, filter_ne_of_free path engine.views free]

/-! ## Tables -/

theorem addsTable_store (numbered : engine.Numbered) (schema : Schema) (rows : List Row) :
    AddsTable (engine.store schema rows).1 rows engine (engine.store schema rows).2 := by
  refine ⟨lookup_nextId numbered, List.lookup_cons_self, ?_⟩
  intro id different
  rw [store, lookup_cons_if]
  exact if_neg different

theorem readBatchFile_local (numbered : engine.Numbered) (file : BatchFile) (schema : Schema) :
    engine.call (.readBatchFile file schema) = (.ok response, next) →
      ∃ table bytes rows, response = .table table ∧ table.schema = schema ∧
        file.content = some bytes ∧ Batch.deserialize bytes schema = .ok rows ∧
        next = { engine with tables := next.tables, stored := next.stored } ∧
        AddsTable table rows engine next := by
  intro served
  simp only [call, readBatchFile] at served
  split at served
  · cases served
  · rename_i bytes present
    split at served
    · cases served
    · rename_i rows read
      cases served
      exact ⟨_, bytes, rows, rfl, rfl, present, read, rfl, addsTable_store numbered schema rows⟩

theorem registerTable_local (numbered : engine.Numbered) (path : ObjectPath) (schema : Schema)
    (rows : List Row) (table : Table) :
    engine.registerTable path schema rows = (.ok table, next) →
      table.schema = schema ∧
        next =
          { engine with catalogs := next.catalogs, tables := next.tables, stored := next.stored } ∧
        AddsTable table rows engine next ∧ engine.SameButObject path next ∧
        engine.object? path = none ∧ next.object? path = some table.id := by
  intro served
  have effect := effect_registerTable engine path schema rows
  rcases registerTable_cases engine path schema rows with ⟨placed, free, stored⟩ | ⟨_, refusal, kept⟩
  · rw [served] at effect
    rw [stored] at served
    cases served
    have objects := object?_withObject (engine.store schema rows).2 path engine.nextId placed free
    have adds := addsTable_store numbered schema rows
    refine ⟨rfl, rfl, ⟨adds.fresh, adds.stored, adds.others⟩, ⟨?_, ?_, ?_⟩, free, ?_⟩
    · exact defaults_of_effect effect
    · exact hasDatabase_of_effect effect
    · intro other different
      rw [objects, if_neg different]
      rfl
    · rw [objects, if_pos rfl]
      rfl
  · rw [kept] at served
    cases served

theorem table_kept (numbered : engine.Numbered) (id : TableId) (held : StoredTable)
    (stored : engine.tables.lookup id = some held) (later : List Event) :
    (engine.after later).tables.lookup id = some held := by
  obtain ⟨earlier, rfl, old⟩ := numbered id (by rw [Stored, stored]; rfl)
  rw [lookup_after engine later earlier old, stored]

end Calls

/-- Whatever happened to an engine, its calls are atomic and local.  A call that fails
changes nothing, and neither does a question.  A call that succeeds changes its own part
alone: a switch only where the session is; a view created or dropped only what is shown
at that path, so that dropping what was just created restores the engine; a batch that
is read only adds its table, under an identifier that was free, and a table that is
registered adds the object at its path too.  No stored table is ever changed or lost. -/
theorem calls_atomic_and_local (databases : List (String × String)) (events : List Event) :
    let engine := (withDatabases databases).after events
    (∀ request failure, (engine.call request).1 = .error failure →
      (engine.call request).2 = engine) ∧
    (∀ path schema rows failure, (engine.registerTable path schema rows).1 = .error failure →
      (engine.registerTable path schema rows).2 = engine) ∧
    (∀ request, request.isQuestion = true → (engine.call request).2 = engine) ∧
    (∀ name response next, engine.call (.useCatalog name) = (.ok response, next) →
      engine.SameButPlace next ∧ next.currentCatalog = name ∧
        (engine.catalogs.lookup name).map Catalog.defaultDatabase = some next.currentDatabase) ∧
    (∀ name response next, engine.call (.useDatabase name) = (.ok response, next) →
      engine.SameButPlace next ∧ next.currentCatalog = engine.currentCatalog ∧
        next.currentDatabase = name) ∧
    (∀ path id response next,
      engine.call (.createTemporaryView path id) = (.ok response, next) →
        engine.SameButView path next ∧ engine.views.lookup path = none ∧
          next.views.lookup path = some id ∧
          next.call (.dropTemporaryView path) = (.ok (.dropped true), engine)) ∧
    (∀ path, ∃ next, engine.call (.dropTemporaryView path) =
        (.ok (.dropped (engine.views.lookup path).isSome), next) ∧
      engine.SameButView path next ∧ next.views.lookup path = none ∧
      (engine.views.lookup path = none → next = engine)) ∧
    (∀ file schema response next,
      engine.call (.readBatchFile file schema) = (.ok response, next) →
        ∃ table bytes rows, response = .table table ∧ table.schema = schema ∧
          file.content = some bytes ∧ Batch.deserialize bytes schema = .ok rows ∧
          next = { engine with tables := next.tables, stored := next.stored } ∧
          AddsTable table rows engine next) ∧
    (∀ path schema rows table next, engine.registerTable path schema rows = (.ok table, next) →
      table.schema = schema ∧
        next =
          { engine with catalogs := next.catalogs, tables := next.tables, stored := next.stored } ∧
        AddsTable table rows engine next ∧ engine.SameButObject path next ∧
        engine.object? path = none ∧ next.object? path = some table.id) ∧
    (∀ id held later, engine.tables.lookup id = some held →
      (engine.after later).tables.lookup id = some held) := by
  intro engine
  have consistent : engine.Consistent (created databases) :=
    consistent_after events _ (consistent_withDatabases databases)
  have numbered := consistent.numbered
  refine ⟨call_of_failed, registerTable_of_failed, call_of_question, ?_, ?_, ?_, dropView_local,
    ?_, ?_, ?_⟩
  · intro name response next
    exact useCatalog_local name
  · intro name response next
    exact useDatabase_local name
  · intro path id response next
    exact createView_local path id
  · intro file schema response next
    exact readBatchFile_local numbered file schema
  · intro path schema rows table next
    exact registerTable_local numbered path schema rows table
  · intro id held later stored
    exact table_kept numbered id held stored later

end Engine

end TableLoad
