import TableLoad.Proofs.Engine.Listings
import TableLoad.Proofs.Path.Rendering
import TableLoad.Proofs.Session.Resolving

/-!
# Listed names are the names that are found

A session that is told the names of the tables of its database can ask for each of
them, and what it can ask for it is told.  A name must be written as a path first.
-/

set_option autoImplicit false

namespace TableLoad.Session

section Found

variable {made : List (String × String)} {engine : Engine}

theorem foundAt_ok_iff (path : ObjectPath) (table : Table) :
    foundAt engine path = .ok table ↔ (engine.find? path).bind engine.table? = some table := by
  rw [foundAt]
  cases (engine.find? path).bind engine.table? <;> simp

theorem runWith_fromPath_here (name : String) (present : name ≠ "") (disk : Disk) :
    runWith Engine.call (fromPath (WrittenPath.nameText name)) disk engine =
      ((foundAt engine (engine.here name), disk), engine) :=
  runWith_fromPath disk (ObjectPath.ofText_nameText name present _ _)

theorem listed_iff_found (consistent : engine.Consistent made) (name : String)
    (present : name ≠ "") (disk : Disk) :
    name ∈ engine.tableNames ↔ ∃ table,
      (runWith Engine.call (fromPath (WrittenPath.nameText name)) disk engine).1.1 = .ok table := by
  rw [Engine.mem_tableNames_iff, Engine.found_iff_table consistent, runWith_fromPath_here name present]
  simp only [foundAt_ok_iff]

theorem found_table (name : String) (table : Table)
    (found : foundAt engine (engine.here name) = .ok table) :
    (∀ id, engine.views.lookup (engine.here name) = some id → engine.table? id = some table) ∧
      (engine.views.lookup (engine.here name) = none →
        ∃ id, engine.object? (engine.here name) = some id ∧ engine.table? id = some table) := by
  rw [foundAt_ok_iff, Engine.find?_eq] at found
  constructor
  · intro id view
    rwa [view, Option.some_or, Option.bind_some] at found
  · intro none
    rw [none, Option.none_or] at found
    exact Option.bind_eq_some_iff.mp found

theorem listed_view_iff_drops (name : String) (present : name ≠ "") (disk : Disk) :
    name ∈ engine.viewNames ↔ name ∈ engine.tableNames ∧
      (runWith Engine.call (dropTemporaryView (WrittenPath.nameText name)) disk engine).1.1 =
        .ok true := by
  have resolved := ObjectPath.ofText_nameText name present engine.currentCatalog
    engine.currentDatabase
  rw [runWith_dropTemporaryView disk resolved, Engine.mem_viewNames_iff, Engine.mem_tableNames_iff,
    Engine.find?_eq, Except.ok.injEq, Option.isSome_or, Bool.or_eq_true]
  constructor
  · intro view
    exact ⟨.inl view, view⟩
  · intro both
    exact both.2

end Found

/-- Whatever happened to an engine, it lists each name of the current database once and
in order, and a name is listed exactly if its table is found when asked for by that
name: the table of the view of that name if there is one, and the permanent one
otherwise.  The views it lists are the listed names under which a view can be dropped. -/
theorem listed_names_found (databases : List (String × String)) (events : List Engine.Event)
    (disk : Disk) :
    let engine := (Engine.withDatabases databases).after events
    ∃ tables views,
      runWith Engine.call listTables disk engine = ((.ok tables, disk), engine) ∧
      runWith Engine.call listTemporaryViews disk engine = ((.ok views, disk), engine) ∧
      tables.Pairwise (· < ·) ∧ views.Pairwise (· < ·) ∧
      ∀ name, name ≠ "" →
        let asked := (runWith Engine.call (fromPath (WrittenPath.nameText name)) disk engine).1.1
        (name ∈ tables ↔ ∃ table, asked = .ok table) ∧
        (∀ table, asked = .ok table →
          (∀ id, engine.views.lookup (engine.here name) = some id →
            engine.table? id = some table) ∧
          (engine.views.lookup (engine.here name) = none →
            ∃ id, engine.object? (engine.here name) = some id ∧
              engine.table? id = some table)) ∧
        (name ∈ views ↔ name ∈ tables ∧
          (runWith Engine.call (dropTemporaryView (WrittenPath.nameText name)) disk engine).1.1 =
            .ok true) := by
  intro engine
  have consistent : engine.Consistent (Engine.created databases) :=
    Engine.consistent_after events _ (Engine.consistent_withDatabases databases)
  refine ⟨engine.tableNames, engine.viewNames, runWith_listTables disk engine,
    runWith_listTemporaryViews disk engine, engine.tableNames_increases,
    Engine.viewNames_increases consistent.keyed, ?_⟩
  intro name present asked
  refine ⟨listed_iff_found consistent name present disk, ?_,
    listed_view_iff_drops name present disk⟩
  intro table found
  have answered : asked = foundAt engine (engine.here name) := by
    simp only [asked, runWith_fromPath_here name present disk]
  exact found_table name table (answered ▸ found)

def keywordEvents : List Engine.Event :=
  [.register ⟨Engine.defaultCatalog, Engine.defaultDatabase, "a.b"⟩
      ⟨[("id", .atom .int false)], rfl⟩ [[.int 7]],
    .request (.createTemporaryView ⟨Engine.defaultCatalog, Engine.defaultDatabase, "select"⟩
      (.issued 0))]

theorem keyword_view_found :
    let engine := (Engine.withDatabases []).after keywordEvents
    let disk : Disk := ⟨.empty, .empty⟩
    "select" ≠ "" ∧
      (runWith Engine.call (dropTemporaryView "`select`") disk engine).1.1 = .ok true ∧
      ∃ table, (runWith Engine.call (fromPath "`select`") disk engine).1.1 = .ok table ∧
        table.id = .issued 0 := by
  intro engine disk
  have present : "select" ≠ "" := by decide
  have written : WrittenPath.nameText "select" = "`select`" := by decide +kernel
  have viewed : engine.views.lookup (engine.here "select") = some (.issued 0) := by decide +kernel
  obtain ⟨tables, views, _, listed, _, _, each⟩ := listed_names_found [] keywordEvents disk
  obtain ⟨found, told, drops⟩ := each "select" present
  rw [written] at found told drops
  have same : engine.viewNames = views := by
    have answered := (runWith_listTemporaryViews disk engine).symm.trans listed
    exact Except.ok.inj (congrArg (fun run => run.1.1) answered)
  have member : "select" ∈ views := by
    rw [← same, Engine.mem_viewNames_iff, viewed]
    rfl
  obtain ⟨inTables, dropped⟩ := drops.mp member
  obtain ⟨table, asked⟩ := found.mp inTables
  refine ⟨present, dropped, table, asked, ?_⟩
  obtain ⟨held, _, rfl⟩ := Option.map_eq_some_iff.mp ((told table asked).1 _ viewed)
  rfl

end TableLoad.Session
