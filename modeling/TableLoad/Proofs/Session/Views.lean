import TableLoad.Proofs.Engine.Listings
import TableLoad.Proofs.Path.Rendering
import TableLoad.Proofs.Session.Resolving

/-!
# Views stay where they were registered

A view is found under the text of its path from wherever a session is, until it is
dropped; meanwhile it cannot be registered again.  Dropping it uncovers what it hid.
-/

set_option autoImplicit false

namespace TableLoad

namespace Engine

/-! ## What stays at a path -/

theorem object?_after (path : ObjectPath) (id : TableId) (events : List Event) :
    ∀ engine : Engine, engine.object? path = some id →
      (engine.after events).object? path = some id := by
  induction events with
  | nil =>
    intro engine found
    exact found
  | cons event rest ih =>
    intro engine found
    apply ih
    rcases object?_of_effect (effect_apply engine event) path with kept | ⟨free, _⟩
    · rw [kept, found]
    · rw [free] at found
      cases found

theorem view_after (path : ObjectPath) (id : TableId) (events : List Event) :
    ∀ engine : Engine, .request (.dropTemporaryView path) ∉ events →
      engine.views.lookup path = some id → (engine.after events).views.lookup path = some id := by
  induction events with
  | nil =>
    intro engine _ found
    exact found
  | cons event rest ih =>
    intro engine kept found
    rw [List.mem_cons, not_or] at kept
    apply ih _ kept.2
    rcases view_of_effect (effect_apply engine event) path with same | ⟨_, drop⟩ | ⟨_, free, _⟩
    · rw [same, found]
    · exact absurd drop.symm kept.1
    · rw [free] at found
      cases found

theorem view_shown_after {made : List (String × String)} {engine : Engine}
    (consistent : engine.Consistent made) (path : ObjectPath) (id : TableId)
    (view : engine.views.lookup path = some id) (events : List Event)
    (kept : .request (.dropTemporaryView path) ∉ events) :
    (engine.after events).views.lookup path = some id ∧
      (engine.after events).table? id = engine.table? id :=
  ⟨view_after path id events engine kept view,
    table?_after engine consistent.numbered id (consistent.views path id view).1 events⟩

/-- In the course of the events, the table was stored at the path. -/
def RegisteredAt (path : ObjectPath) (engine : Engine) (events : List Event)
    (table : Table) : Prop :=
  ∃ first rest schema rows, events = first ++ .register path schema rows :: rest ∧
    ((engine.after first).registerTable path schema rows).1 = .ok table

theorem registeredAt_cons {path : ObjectPath} {engine : Engine} {event : Event}
    {rest : List Event} {table : Table}
    (later : RegisteredAt path (engine.apply event) rest table) :
    RegisteredAt path engine (event :: rest) table := by
  obtain ⟨first, last, schema, rows, split, stored⟩ := later
  exact ⟨event :: first, last, schema, rows, by rw [split, List.cons_append], stored⟩

theorem object?_after_none (path : ObjectPath) (events : List Event) :
    ∀ engine : Engine, (∀ table, ¬RegisteredAt path engine events table) →
      engine.object? path = none → (engine.after events).object? path = none := by
  induction events with
  | nil =>
    intro engine _ free
    exact free
  | cons event rest ih =>
    intro engine unregistered free
    apply ih
    · intro table later
      exact unregistered table (registeredAt_cons later)
    · rcases object?_of_effect (effect_apply engine event) path with
        kept | ⟨_, new, _, schema, rows, rfl⟩
      · rw [kept, free]
      · rcases registerTable_cases engine path schema rows with
          ⟨_, _, stored⟩ | ⟨_, refusal, refused⟩
        · exact absurd ⟨[], rest, schema, rows, rfl, by rw [after, List.foldl_nil, stored]⟩
            (unregistered _)
        · rw [apply, refused, free] at new
          cases new

/-- A table that was stored at a path in the course of some events is there afterwards,
as it was stored. -/
theorem object?_after_registered {made : List (String × String)} (path : ObjectPath)
    (engine : Engine) (consistent : engine.Consistent made) (events : List Event) (table : Table)
    (registered : RegisteredAt path engine events table) :
    (engine.after events).object? path = some table.id ∧
      (engine.after events).table? table.id = some table := by
  obtain ⟨first, rest, schema, rows, rfl, stored⟩ := registered
  have there := consistent_after first engine consistent
  have whole : engine.after (first ++ .register path schema rows :: rest) =
      ((engine.after first).registerTable path schema rows).2.after rest := by
    rw [after, List.foldl_append]
    rfl
  rcases registerTable_cases (engine.after first) path schema rows with
    ⟨placed, free, made⟩ | ⟨_, refusal, refused⟩
  · have next := consistent_of_effect there
      (effect_registerTable (engine.after first) path schema rows)
    rw [made] at stored next
    cases stored
    rw [whole, made]
    constructor
    · apply object?_after
      rw [object?_withObject (Engine.store _ schema rows).2 path _ placed free, if_pos rfl]
      rfl
    · have kept := table?_after _ next.numbered (engine.after first).nextId
        (stored_store _ schema rows) rest
      refine kept.trans ?_
      rw [table?, withObject, store, lookup_cons_if, if_pos rfl]
      rfl
  · -- Nothing was stored then, but the event gave the table.
    rw [refused] at stored
    cases stored

/-! ## Views and what they hide -/

/-- In a session with the engine, the text stands for the path. -/
def StandsFor (engine : Engine) (text : String) (path : ObjectPath) : Prop :=
  ObjectPath.ofText text engine.currentCatalog engine.currentDatabase = .ok path

theorem find?_dropView (engine : Engine) (path : ObjectPath) :
    (engine.dropView path).2.find? path = engine.object? path := by
  have gone : (engine.dropView path).2.views.lookup path = none := by
    rw [dropView, lookup_filter_ne, if_pos rfl]
  rw [find?_eq, gone, Option.none_or]
  rfl

theorem filled_of_hasDatabase {databases : List (String × String)} {engine : Engine}
    (consistent : engine.Consistent (created databases))
    (named : ∀ added ∈ databases, added.1 ≠ "" ∧ added.2 ≠ "") {path : ObjectPath}
    (placed : engine.HasDatabase path.catalog path.database) (object : path.object ≠ "") :
    path.Filled := by
  have member := (consistent.databases path.catalog path.database).mp placed
  have parts : path.catalog ≠ "" ∧ path.database ≠ "" := by
    rcases List.mem_cons.mp member with first | added
    · rw [Prod.mk.injEq] at first
      rw [first.1, first.2]
      decide
    · exact named _ added
  exact ⟨parts.1, parts.2, object⟩

end Engine

namespace Session

theorem foundAt_congr {engine other : Engine} {path : ObjectPath}
    (same : (engine.find? path).bind engine.table? = (other.find? path).bind other.table?) :
    foundAt engine path = foundAt other path := by
  rw [foundAt, foundAt, same]

theorem createTemporaryView_cases (text : String) (table : TableId) (disk : Disk)
    (engine : Engine) :
    (∃ failure, runWith Engine.call (createTemporaryView text table) disk engine =
        ((.error failure, disk), engine)) ∨
      ∃ path, engine.StandsFor text path ∧ engine.Stored table ∧
        engine.HasDatabase path.catalog path.database ∧ engine.views.lookup path = none ∧
        runWith Engine.call (createTemporaryView text table) disk engine =
          ((.ok path, disk), { engine with views := (path, table) :: engine.views }) := by
  cases resolved : ObjectPath.ofText text engine.currentCatalog engine.currentDatabase with
  | error cause =>
    left
    unfold createTemporaryView
    rw [runWith_resolvePath, resolved]
    exact ⟨_, rfl⟩
  | ok path =>
    rw [runWith_createTemporaryView table disk resolved]
    rcases engine.createView_cases path table with ⟨stored, placed, free, made⟩ | ⟨_, refusal, kept⟩
    · right
      rw [made]
      exact ⟨path, resolved, stored, placed, free, rfl⟩
    · left
      rw [kept]
      exact ⟨_, rfl⟩

theorem facts_of_created {text : String} {table : TableId} {disk : Disk} {engine : Engine}
    {path : ObjectPath}
    (created : (runWith Engine.call (createTemporaryView text table) disk engine).1.1 = .ok path) :
    engine.StandsFor text path ∧ engine.Stored table ∧
      engine.HasDatabase path.catalog path.database ∧ engine.views.lookup path = none ∧
      (runWith Engine.call (createTemporaryView text table) disk engine).2 =
        { engine with views := (path, table) :: engine.views } := by
  rcases createTemporaryView_cases text table disk engine with
    ⟨failure, refused⟩ | ⟨place, stands, stored, placed, free, made⟩
  · rw [refused] at created
    cases created
  · rw [made] at created ⊢
    cases created
    exact ⟨stands, stored, placed, free, rfl⟩

section Views

variable {engine : Engine} {path : ObjectPath} {table : TableId} {written : String}

theorem runWith_fromPath_of_view (found : Table) (view : engine.views.lookup path = some table)
    (told : engine.table? table = some found) (resolved : engine.StandsFor written path)
    (disk : Disk) :
    runWith Engine.call (fromPath written) disk engine = ((.ok found, disk), engine) := by
  rw [runWith_fromPath disk resolved, foundAt, Engine.find?_eq, view, Option.some_or,
    Option.bind_some, told]

theorem runWith_create_of_view (view : engine.views.lookup path = some table)
    (resolved : engine.StandsFor written path) (other : TableId) (disk : Disk) :
    ∃ failure, runWith Engine.call (createTemporaryView written other) disk engine =
      ((.error failure, disk), engine) := by
  rw [runWith_createTemporaryView other disk resolved]
  rcases engine.createView_cases path other with ⟨_, _, free, _⟩ | ⟨_, refusal, refused⟩
  · rw [view] at free
    cases free
  · exact ⟨_, by rw [refused]; rfl⟩

theorem runWith_drop_of_view (view : engine.views.lookup path = some table)
    (resolved : engine.StandsFor written path) (disk : Disk) :
    runWith Engine.call (dropTemporaryView written) disk engine =
      ((.ok true, disk), (engine.dropView path).2) := by
  rw [runWith_dropTemporaryView disk resolved, view]
  rfl

end Views

/-! ## Dropping a view -/

section Dropping

variable {made : List (String × String)} {engine : Engine}

/-- A table that was stored behind a view comes to light when the view is dropped. -/
theorem uncovered_registered (consistent : engine.Consistent made) (path : ObjectPath)
    (later : List Engine.Event) (table : Table)
    (registered : Engine.RegisteredAt path engine later table) :
    foundAt ((engine.after later).dropView path).2 path = .ok table := by
  obtain ⟨there, told⟩ := Engine.object?_after_registered path engine consistent later table
    registered
  rw [foundAt, Engine.find?_dropView, there, Option.bind_some]
  have same : ((engine.after later).dropView path).2.table? table.id = some table := told
  rw [same]

/-- If none was, a view that is dropped late uncovers what it hid from the beginning. -/
theorem uncovered_unregistered (consistent : engine.Consistent made) (path : ObjectPath)
    (later : List Engine.Event)
    (unregistered : ∀ table, ¬Engine.RegisteredAt path engine later table) :
    foundAt ((engine.after later).dropView path).2 path =
      foundAt (engine.dropView path).2 path := by
  apply foundAt_congr
  rw [Engine.find?_dropView, Engine.find?_dropView]
  cases object : engine.object? path with
  | none => rw [Engine.object?_after_none path later engine unregistered object]; rfl
  | some id =>
    rw [Engine.object?_after path id later engine object]
    exact Engine.table?_after engine consistent.numbered id (consistent.objects path id object)
      later

end Dropping

/-- A registered view stays addressable.  In every later state in which it was not
dropped, the text of its path stands for the path, whatever is current there; by that
text, and by every other one that stands for the path, the table is found as it was
stored, no second view can be registered, and the view can be dropped.  A look-up then
gives the table that was meanwhile stored at the path, if one was, and otherwise what it
gave before the view was registered. -/
theorem registered_view_stays (databases : List (String × String))
    (named : ∀ added ∈ databases, added.1 ≠ "" ∧ added.2 ≠ "") (earlier : List Engine.Event)
    (text : String) (table : TableId) (disk : Disk) (path : ObjectPath) :
    let before := (Engine.withDatabases databases).after earlier
    let created := runWith Engine.call (createTemporaryView text table) disk before
    created.1.1 = .ok path →
      ∃ found, before.table? table = some found ∧ found.id = table ∧
        ∀ later, .request (.dropTemporaryView path) ∉ later →
          let engine := created.2.after later
          engine.StandsFor path.text path ∧
          ∀ written, engine.StandsFor written path → ∀ someDisk,
            runWith Engine.call (fromPath written) someDisk engine =
              ((.ok found, someDisk), engine) ∧
            (∀ other, ∃ failure,
              runWith Engine.call (createTemporaryView written other) someDisk engine =
                ((.error failure, someDisk), engine)) ∧
            ∃ dropped,
              runWith Engine.call (dropTemporaryView written) someDisk engine =
                ((.ok true, someDisk), dropped) ∧
              (∀ registered, Engine.RegisteredAt path created.2 later registered →
                (dropped.call (.lookupTable path)).1 = .ok (.table registered)) ∧
              ((∀ registered, ¬Engine.RegisteredAt path created.2 later registered) →
                (dropped.call (.lookupTable path)).1 = (before.call (.lookupTable path)).1) := by
  intro before created success
  have consistent : before.Consistent (Engine.created databases) :=
    Engine.consistent_after earlier _ (Engine.consistent_withDatabases databases)
  obtain ⟨resolved, stored, placed, free, viewed⟩ := facts_of_created success
  have filled := Engine.filled_of_hasDatabase consistent named placed
    (ObjectPath.object_of_ofText resolved)
  have next : created.2.Consistent (Engine.created databases) := by
    rw [viewed]
    exact Engine.consistent_of_effect consistent (.createView path table stored placed free)
  have view : created.2.views.lookup path = some table := by
    rw [viewed, lookup_cons_if, if_pos rfl]
  have hidden : foundAt (created.2.dropView path).2 path = foundAt before path := by
    apply foundAt_congr
    rw [Engine.find?_dropView, Engine.find?_eq before path, free, viewed]
    rfl
  obtain ⟨held, same⟩ := Option.isSome_iff_exists.mp stored
  have told : before.table? table = some { id := table, schema := held.schema } := by
    rw [Engine.table?, same]
    rfl
  refine ⟨_, told, rfl, ?_⟩
  intro later kept engine
  obtain ⟨still, shown⟩ := Engine.view_shown_after next path table view later kept
  have toldLater : engine.table? table = some { id := table, schema := held.schema } := by
    rw [shown, viewed]
    exact told
  refine ⟨path.ofText_text filled _ _, ?_⟩
  intro written stands someDisk
  refine ⟨runWith_fromPath_of_view _ still toldLater stands someDisk,
    fun other => runWith_create_of_view still stands other someDisk,
    _, runWith_drop_of_view still stands someDisk, ?_, ?_⟩
  · intro registered stored
    rw [call_lookupTable, uncovered_registered next path later registered stored]
    rfl
  · intro unregistered
    rw [call_lookupTable, call_lookupTable, uncovered_unregistered next path later unregistered,
      hidden]

def numbers : Schema where
  fields := [("number", .atom .int false)]
  wellFormed := rfl

def orders : ObjectPath := ⟨Engine.defaultCatalog, Engine.defaultDatabase, "orders"⟩

def todaysOrders : ObjectPath := ⟨Engine.defaultCatalog, Engine.defaultDatabase, "today's orders"⟩

def afterwards : List Engine.Event :=
  [.request (.useCatalog "warehouse"), .register todaysOrders numbers [[.int 8]]]

theorem hidden_orders_uncovered :
    let disk : Disk := ⟨.empty, .empty⟩
    let before := (Engine.withDatabases [("warehouse", "sales")]).after
      [.register orders numbers [[.int 7]]]
    let created := runWith Engine.call (createTemporaryView "`today's orders`" (.issued 0)) disk before
    let text := "default_catalog.default_database.`today's orders`"
    let engine := created.2.after afterwards
    created.1.1 = .ok todaysOrders ∧ engine.currentCatalog = "warehouse" ∧
      ∃ found, runWith Engine.call (fromPath text) disk engine = ((.ok found, disk), engine) ∧
        found.id = .issued 0 ∧
        ∃ dropped,
          runWith Engine.call (dropTemporaryView text) disk engine = ((.ok true, disk), dropped) ∧
          (dropped.call (.lookupTable todaysOrders)).1 = .ok (.table ⟨.issued 1, numbers⟩) := by
  intro disk before created text engine
  have named : ∀ added ∈ [("warehouse", "sales")], added.1 ≠ "" ∧ added.2 ≠ "" := by decide
  have success : created.1.1 = .ok todaysOrders := by
    have resolved : before.StandsFor "`today's orders`" todaysOrders := by
      have written : WrittenPath.nameText "today's orders" = "`today's orders`" := by decide +kernel
      have stands := ObjectPath.ofText_nameText "today's orders" (by decide) before.currentCatalog
        before.currentDatabase
      rw [written] at stands
      exact stands
    have run := runWith_createTemporaryView (.issued 0) disk resolved
    rw [show created = _ from run]
    rfl
  have kept : .request (.dropTemporaryView todaysOrders) ∉ afterwards := by simp [afterwards]
  have written : todaysOrders.text = text := by decide +kernel
  obtain ⟨found, _, id, later⟩ := registered_view_stays [("warehouse", "sales")] named
    [.register orders numbers [[.int 7]]] "`today's orders`" (.issued 0) disk todaysOrders success
  obtain ⟨stands, each⟩ := later afterwards kept
  rw [written] at stands
  obtain ⟨asked, _, dropped, drop, uncovered, _⟩ := each text stands disk
  refine ⟨success, rfl, found, asked, id, dropped, drop, uncovered _ ?_⟩
  exact ⟨[.request (.useCatalog "warehouse")], [], numbers, [[.int 8]], rfl, rfl⟩

end Session

end TableLoad
