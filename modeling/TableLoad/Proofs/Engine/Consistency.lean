import TableLoad.Proofs.Engine.Tables

/-!
# Consistency of an engine

However an engine came about and whatever it was asked, it is in a database that
exists, as each of its views is, and what its objects and views stand for is stored.
The databases that exist are those it was made with, and the default database of a
catalog is the first one that was added to it.
-/

set_option autoImplicit false

namespace TableLoad

/-! ## Distinct keys -/

section Keys

variable {α β : Type} [DecidableEq α]

theorem keys_cons_nodup (key : α) (item : β) (items : List (α × β))
    (distinct : (items.map Prod.fst).Nodup) (free : items.lookup key = none) :
    (((key, item) :: items).map Prod.fst).Nodup := by
  rw [List.map_cons, List.nodup_cons, ← lookup_isSome_iff_mem, free]
  exact ⟨Bool.false_ne_true, distinct⟩

theorem keys_append_nodup (key : α) (item : β) (items : List (α × β))
    (distinct : (items.map Prod.fst).Nodup) (free : items.lookup key = none) :
    ((items ++ [(key, item)]).map Prod.fst).Nodup := by
  rw [List.map_append]
  refine List.nodup_append.mpr ⟨distinct, by simp, ?_⟩
  intro own held other last
  rw [List.mem_singleton.mp last]
  rintro rfl
  rw [← lookup_isSome_iff_mem, free] at held
  cases held

end Keys

namespace Engine

/-- A new session to which databases were added, the first one first. -/
def withDatabases (databases : List (String × String)) : Engine :=
  databases.foldl (fun engine added => engine.withDatabase added.1 added.2) fresh

/-- The catalog and the database that every session begins with, then those that are
added to it. -/
def created (databases : List (String × String)) : List (String × String) :=
  (defaultCatalog, defaultDatabase) :: databases

/-- No key stands twice, so that the lists of an engine are maps. -/
structure Keyed (engine : Engine) : Prop where
  catalogs : (engine.catalogs.map Prod.fst).Nodup
  databases : ∀ name catalog, engine.catalogs.lookup name = some catalog →
    (catalog.databases.map Prod.fst).Nodup
  objects : ∀ catalog database tables, engine.database? catalog database = some tables →
    (tables.map Prod.fst).Nodup
  views : (engine.views.map Prod.fst).Nodup
  tables : (engine.tables.map Prod.fst).Nodup

/-- What always holds of an engine that was made with some databases. -/
structure Consistent (made : List (String × String)) (engine : Engine) : Prop where
  databases : ∀ catalog database,
    engine.HasDatabase catalog database ↔ (catalog, database) ∈ made
  defaults : ∀ name,
    (engine.catalogs.lookup name).map Catalog.defaultDatabase = made.lookup name
  current : engine.HasDatabase engine.currentCatalog engine.currentDatabase
  objects : ∀ path id, engine.object? path = some id → engine.Stored id
  views : ∀ path id, engine.views.lookup path = some id →
    engine.Stored id ∧ engine.HasDatabase path.catalog path.database
  numbered : engine.Numbered
  keyed : engine.Keyed

/-! ## Adding databases -/

section Adding

variable {databases : List (String × String)} {engine : Engine}

theorem lookup_addDatabase (database : String) (catalog : Catalog) (name : String) :
    (catalog.addDatabase database).databases.lookup name =
      if name = database then some ((catalog.databases.lookup name).getD [])
      else catalog.databases.lookup name := by
  unfold Catalog.addDatabase
  cases found : catalog.databases.lookup database with
  | some tables =>
    by_cases same : name = database
    · rw [if_pos same, same, found, Option.getD_some]
    · rw [if_neg same]
  | none =>
    rw [List.lookup_append, lookup_cons_if, List.lookup_nil]
    by_cases same : name = database
    · rw [if_pos same, if_pos same, same, found]
      rfl
    · rw [if_neg same, if_neg same, Option.or_none]

theorem database?_withDatabase (engine : Engine) (catalog database other name : String) :
    (engine.withDatabase catalog database).database? other name =
      if other = catalog ∧ name = database then some ((engine.database? other name).getD [])
      else engine.database? other name := by
  unfold withDatabase
  cases found : engine.catalogs.lookup catalog with
  | some held =>
    simp only [database?, lookup_adjust, bind]
    by_cases there : other = catalog
    · rw [if_pos there, there, found, Option.map_some, Option.bind_some, Option.bind_some,
        lookup_addDatabase]
      by_cases same : name = database
      · rw [if_pos same, if_pos ⟨rfl, same⟩]
      · rw [if_neg same, if_neg (fun both => same both.2)]
    · rw [if_neg there, if_neg (fun both => there both.1)]
  | none =>
    simp only [database?, List.lookup_append, lookup_cons_if, List.lookup_nil, bind]
    by_cases there : other = catalog
    · rw [if_pos there, there, found, Option.none_or, Option.bind_some, Option.bind_none,
        Catalog.ofDatabase, lookup_cons_if, List.lookup_nil]
      by_cases same : name = database
      · rw [if_pos same, if_pos ⟨rfl, same⟩, Option.getD_none]
      · rw [if_neg same, if_neg (fun both => same both.2)]
    · rw [if_neg there, if_neg (fun both => there both.1), Option.or_none]

theorem object?_withDatabase (engine : Engine) (catalog database : String) (path : ObjectPath) :
    (engine.withDatabase catalog database).object? path = engine.object? path := by
  rw [object?, database?_withDatabase, object?]
  split
  · cases engine.database? path.catalog path.database <;> rfl
  · rfl

theorem hasDatabase_withDatabase (engine : Engine) (catalog database other name : String) :
    (engine.withDatabase catalog database).HasDatabase other name ↔
      engine.HasDatabase other name ∨ (other, name) = (catalog, database) := by
  rw [HasDatabase, database?_withDatabase, HasDatabase, Prod.mk.injEq]
  by_cases both : other = catalog ∧ name = database
  · rw [if_pos both]
    simp [both]
  · rw [if_neg both]
    simp [both]

theorem defaults_withDatabase (engine : Engine) (catalog database name : String) :
    ((engine.withDatabase catalog database).catalogs.lookup name).map Catalog.defaultDatabase =
      ((engine.catalogs.lookup name).map Catalog.defaultDatabase).or
        (if name = catalog then some database else none) := by
  have kept : ∀ held : Catalog, (held.addDatabase database).defaultDatabase =
      held.defaultDatabase := by
    intro held
    unfold Catalog.addDatabase
    split <;> rfl
  unfold withDatabase
  cases found : engine.catalogs.lookup catalog with
  | some held =>
    rw [lookup_adjust]
    by_cases same : name = catalog
    · rw [if_pos same, same, found, Option.map_some, Option.map_some, Option.map_some, kept,
        Option.some_or]
    · rw [if_neg same, if_neg same, Option.or_none]
  | none =>
    rw [List.lookup_append, lookup_cons_if, List.lookup_nil]
    by_cases same : name = catalog
    · rw [if_pos same, if_pos same, same, found]
      rfl
    · rw [if_neg same, if_neg same, Option.or_none, Option.or_none]

theorem withDatabase_eq (engine : Engine) (catalog database : String) :
    engine.withDatabase catalog database =
      { engine with catalogs := (engine.withDatabase catalog database).catalogs } := by
  unfold withDatabase
  split <;> rfl

theorem keyed_withDatabase (keyed : engine.Keyed) (catalog database : String) :
    (engine.withDatabase catalog database).Keyed := by
  have whole := withDatabase_eq engine catalog database
  constructor
  · unfold withDatabase
    cases found : engine.catalogs.lookup catalog with
    | some held =>
      rw [keys_adjust]
      exact keyed.catalogs
    | none => exact keys_append_nodup catalog _ _ keyed.catalogs found
  · intro name held
    unfold withDatabase
    cases found : engine.catalogs.lookup catalog with
    | some old =>
      rw [lookup_adjust]
      split
      · rename_i same
        rw [same, found, Option.map_some, Option.some.injEq]
        rintro rfl
        have distinct := keyed.databases catalog old found
        unfold Catalog.addDatabase
        cases absent : old.databases.lookup database with
        | some tables => exact distinct
        | none => exact keys_append_nodup database _ _ distinct absent
      · exact keyed.databases name held
    | none =>
      rw [List.lookup_append, Option.or_eq_some_iff, lookup_cons_if, List.lookup_nil]
      rintro (old | ⟨_, new⟩)
      · exact keyed.databases name held old
      · split at new
        · cases new
          simp [Catalog.ofDatabase]
        · cases new
  · intro other name tables
    rw [database?_withDatabase]
    split
    · rw [Option.some.injEq]
      rintro rfl
      cases found : engine.database? other name with
      | some tables => exact keyed.objects other name tables found
      | none => exact List.nodup_nil
    · exact keyed.objects other name tables
  · rw [whole]
    exact keyed.views
  · rw [whole]
    exact keyed.tables

theorem consistent_withDatabase {made : List (String × String)}
    (consistent : engine.Consistent made) (catalog database : String) :
    (engine.withDatabase catalog database).Consistent (made ++ [(catalog, database)]) := by
  have whole := withDatabase_eq engine catalog database
  have still : ∀ {other name}, engine.HasDatabase other name →
      (engine.withDatabase catalog database).HasDatabase other name := by
    intro other name held
    exact (hasDatabase_withDatabase engine catalog database other name).mpr (.inl held)
  constructor
  · intro other name
    rw [hasDatabase_withDatabase, consistent.databases, List.mem_append, List.mem_singleton]
  · intro name
    rw [defaults_withDatabase, consistent.defaults, List.lookup_append, lookup_cons_if,
      List.lookup_nil]
  · have here := still consistent.current
    rw [whole] at here ⊢
    exact here
  · intro path id
    rw [object?_withDatabase, whole]
    exact consistent.objects path id
  · intro path id
    rw [whole]
    intro view
    obtain ⟨stored, placed⟩ := consistent.views path id view
    have there := still placed
    rw [whole] at there
    exact ⟨stored, there⟩
  · rw [whole]
    exact consistent.numbered
  · exact keyed_withDatabase consistent.keyed catalog database

theorem consistent_fresh : fresh.Consistent [(defaultCatalog, defaultDatabase)] := by
  have only : ∀ catalog database, fresh.database? catalog database =
      if (catalog, database) = (defaultCatalog, defaultDatabase) then some [] else none := by
    intro catalog database
    simp only [database?, fresh, lookup_cons_if, List.lookup_nil, bind, Prod.mk.injEq]
    by_cases there : catalog = defaultCatalog
    · rw [if_pos there, Option.bind_some, Catalog.ofDatabase, lookup_cons_if, List.lookup_nil]
      by_cases inside : database = defaultDatabase
      · rw [if_pos inside, if_pos ⟨there, inside⟩]
      · rw [if_neg inside, if_neg (fun both => inside both.2)]
    · rw [if_neg there, Option.bind_none, if_neg (fun both => there both.1)]
  have none : ∀ path, fresh.object? path = none := by
    intro path
    rw [object?, only]
    split <;> rfl
  constructor
  · intro catalog database
    rw [HasDatabase, only, List.mem_singleton]
    split
    · simp [*]
    · simp [*]
  · intro name
    rw [fresh, lookup_cons_if, lookup_cons_if]
    split <;> rfl
  · rw [HasDatabase, only]
    rfl
  · intro path id found
    rw [none] at found
    cases found
  · intro path id found
    cases found
  · intro id stored
    cases stored
  · constructor
    · simp [fresh]
    · intro name catalog found
      rw [fresh, lookup_cons_if] at found
      split at found
      · cases found
        simp [Catalog.ofDatabase]
      · cases found
    · intro catalog database tables found
      rw [only] at found
      split at found
      · cases found
        exact List.nodup_nil
      · cases found
    · exact List.nodup_nil
    · exact List.nodup_nil

theorem consistent_added (databases : List (String × String)) :
    ∀ (made : List (String × String)) (engine : Engine), engine.Consistent made →
      (databases.foldl (fun engine added => engine.withDatabase added.1 added.2) engine).Consistent
        (made ++ databases) := by
  induction databases with
  | nil =>
    intro made engine consistent
    rwa [List.append_nil]
  | cons added rest ih =>
    intro made engine consistent
    have next := ih _ _ (consistent_withDatabase consistent added.1 added.2)
    rwa [List.append_assoc] at next

theorem consistent_withDatabases (databases : List (String × String)) :
    (withDatabases databases).Consistent (created databases) :=
  consistent_added databases _ _ consistent_fresh

end Adding

/-! ## Events -/

section Events

variable {made : List (String × String)} {engine next : Engine} {event : Event}

theorem lookup_nextId (numbered : engine.Numbered) :
    engine.tables.lookup engine.nextId = none := by
  rw [← Option.not_isSome_iff_eq_none]
  intro held
  obtain ⟨earlier, same, old⟩ := numbered _ held
  rw [nextId, TableId.issued.injEq] at same
  omega

theorem keyed_store (keyed : engine.Keyed) (numbered : engine.Numbered) (schema : Schema)
    (rows : List Row) : (engine.store schema rows).2.Keyed :=
  ⟨keyed.catalogs, keyed.databases, keyed.objects, keyed.views,
    keys_cons_nodup engine.nextId _ _ keyed.tables (lookup_nextId numbered)⟩

theorem keyed_withObject (keyed : engine.Keyed) (path : ObjectPath) (id : TableId)
    (free : engine.object? path = none) : (engine.withObject path id).Keyed := by
  refine ⟨?_, ?_, ?_, keyed.views, keyed.tables⟩
  · rw [withObject, keys_adjust]
    exact keyed.catalogs
  · intro name catalog
    rw [withObject, lookup_adjust]
    split
    · intro found
      obtain ⟨old, held, rfl⟩ := Option.map_eq_some_iff.mp found
      rw [keys_adjust]
      exact keyed.databases name old held
    · exact keyed.databases name catalog
  · intro catalog database tables
    rw [database?_withObject]
    split
    · rename_i there
      intro found
      obtain ⟨old, held, rfl⟩ := Option.map_eq_some_iff.mp found
      have vacant : old.lookup path.object = none := by
        rw [there.1, there.2] at held
        rw [object?, held] at free
        exact free
      exact keys_append_nodup path.object id old (keyed.objects catalog database old held) vacant
    · exact keyed.objects catalog database tables

theorem keyed_of_effect (keyed : engine.Keyed) (numbered : engine.Numbered)
    (effect : Effect engine event next) : next.Keyed := by
  cases effect with
  | nothing => exact keyed
  | useCatalog name catalog found =>
    exact ⟨keyed.catalogs, keyed.databases, keyed.objects, keyed.views, keyed.tables⟩
  | useDatabase name found =>
    exact ⟨keyed.catalogs, keyed.databases, keyed.objects, keyed.views, keyed.tables⟩
  | createView path id stored placed free =>
    exact ⟨keyed.catalogs, keyed.databases, keyed.objects,
      keys_cons_nodup path id _ keyed.views free, keyed.tables⟩
  | dropView path =>
    exact ⟨keyed.catalogs, keyed.databases, keyed.objects,
      keyed.views.sublist (List.filter_sublist.map Prod.fst), keyed.tables⟩
  | readBatch file schema bytes rows present read => exact keyed_store keyed numbered schema rows
  | register path schema rows placed free =>
    exact keyed_withObject (keyed_store keyed numbered schema rows) path _ free

theorem default_exists (consistent : engine.Consistent made) (name : String) (catalog : Catalog)
    (found : engine.catalogs.lookup name = some catalog) :
    engine.HasDatabase name catalog.defaultDatabase ∧
      made.lookup name = some catalog.defaultDatabase := by
  have first := consistent.defaults name
  rw [found, Option.map_some] at first
  refine ⟨?_, first.symm⟩
  obtain ⟨before, rest, split, _⟩ := List.lookup_eq_some_iff.mp first.symm
  rw [consistent.databases, split]
  exact List.mem_append_right before List.mem_cons_self

/-- Only switches change what is current, and they switch to what exists. -/
theorem current_of_effect (consistent : engine.Consistent made)
    (effect : Effect engine event next) :
    next.HasDatabase next.currentCatalog next.currentDatabase := by
  rw [hasDatabase_of_effect effect]
  cases effect with
  | useCatalog name catalog found => exact (default_exists consistent name catalog found).1
  | useDatabase name found => exact found
  | _ => exact consistent.current

theorem consistent_of_effect (consistent : engine.Consistent made)
    (effect : Effect engine event next) : next.Consistent made := by
  have grown := extends_of_effect effect
  constructor
  · intro catalog database
    rw [hasDatabase_of_effect effect]
    exact consistent.databases catalog database
  · intro name
    rw [defaults_of_effect effect]
    exact consistent.defaults name
  · exact current_of_effect consistent effect
  · intro path id found
    rcases object?_of_effect effect path with kept | ⟨_, new, stored, _⟩
    · rw [kept] at found
      exact stored_of_extends grown id (consistent.objects path id found)
    · rw [new] at found
      cases found
      exact stored
  · intro path id found
    rw [hasDatabase_of_effect effect]
    rcases view_of_effect effect path with kept | ⟨gone, _⟩ | ⟨other, _, new, stored, placed⟩
    · rw [kept] at found
      obtain ⟨stored, placed⟩ := consistent.views path id found
      exact ⟨stored_of_extends grown id stored, placed⟩
    · rw [gone] at found
      cases found
    · rw [new] at found
      cases found
      exact ⟨stored_of_extends grown id stored, placed⟩
  · exact numbered_of_extends grown consistent.numbered
  · exact keyed_of_effect consistent.keyed consistent.numbered effect

theorem consistent_after (events : List Event) :
    ∀ engine : Engine, engine.Consistent made → (engine.after events).Consistent made := by
  induction events with
  | nil =>
    intro engine consistent
    exact consistent
  | cons event rest ih =>
    intro engine consistent
    exact ih _ (consistent_of_effect consistent (effect_apply engine event))

end Events

/-- An engine that any databases were added to and that anything happened to since, is
consistent: the current catalog exists and has the current database, every catalog has
its default database, which is the first one that was added to it, what objects and
views stand for is stored, and every view is in a database that exists.  No key stands
twice in a list of the engine, so these look-ups miss nothing in it. -/
theorem engine_consistent (databases : List (String × String)) (events : List Event) :
    let engine := (withDatabases databases).after events
    engine.HasDatabase engine.currentCatalog engine.currentDatabase ∧
      (∀ name catalog, engine.catalogs.lookup name = some catalog →
        engine.HasDatabase name catalog.defaultDatabase ∧
          (created databases).lookup name = some catalog.defaultDatabase) ∧
      (∀ path id, engine.object? path = some id → engine.Stored id) ∧
      (∀ path id, engine.views.lookup path = some id →
        engine.Stored id ∧ engine.HasDatabase path.catalog path.database) ∧
      engine.Keyed := by
  intro engine
  have consistent := consistent_after events _ (consistent_withDatabases databases)
  exact ⟨consistent.current, default_exists consistent, consistent.objects, consistent.views,
    consistent.keyed⟩

end Engine

end TableLoad
