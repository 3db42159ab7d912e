import TableLoad.Load
import TableLoad.Proofs.Session.Outcomes
import TableLoad.Proofs.Session.Views

/-!
# The stages of a file load

A load reads its source, makes a table of it, fetches the rows back, registers a view
and writes an output.  All the ways in which it can end are listed once, with what has
been done to the engine and to the files by then.
-/

set_option autoImplicit false

namespace TableLoad

def LoadError.ofOutput : LoadError → Bool
  | .createOutput _ => true
  | .writeOutput _ _ => true
  | _ => false

namespace LoadRequest

def format? (request : LoadRequest) : Option Source.Format :=
  request.format.or (Source.Format.detect? request.source)

def read (request : LoadRequest) (folder : Folder) : Except LoadError Source.Data :=
  match request.format? with
  | none => .error (.undetected request.source)
  | some format =>
    (Source.readFile folder request.source request.hasHeader format).mapError .source

def loading (request : LoadRequest) : Source.Data → Loading
  | .records records => .elements records (request.names.map .names) request.verify
  | .frame frame => .batches frame (request.names.map .names)

def refused : Source.Data → Failure → LoadError
  | .records _ => .records
  | .frame _ => .frame

theorem early_of_refused (data : Source.Data) (failure : Failure) :
    (refused data failure).ofOutput = false := by
  cases data <;> rfl

theorem early_of_read {request : LoadRequest} {folder : Folder} {failure : LoadError}
    (unread : request.read folder = .error failure) : failure.ofOutput = false := by
  rw [read] at unread
  cases known : request.format? with
  | none =>
    rw [known] at unread
    cases unread
    rfl
  | some format =>
    rw [known] at unread
    simp only at unread
    cases found : Source.readFile folder request.source request.hasHeader format with
    | ok data =>
      rw [found] at unread
      cases unread
    | error cause =>
      rw [found] at unread
      cases unread
      rfl

end LoadRequest

namespace Session

/-! ## Single steps -/

section Steps

variable {σ α : Type} (answer : σ → Request → Answer × σ)

theorem runWith_sourceFormat (request : LoadRequest) (disk : Disk) (state : σ) :
    runWith answer (sourceFormat request) disk state =
      match request.format? with
      | none => ((.error (.undetected request.source), disk), state)
      | some format => ((.ok format, disk), state) := by
  unfold sourceFormat LoadRequest.format?
  cases request.format with
  | some format => rfl
  | none => cases Source.Format.detect? request.source <;> rfl

theorem runWith_writeBatchFile (path : String) (schema : Schema) (rows : List Row) (disk : Disk)
    (state : σ) :
    runWith answer (writeBatchFile path schema rows) disk state =
      match Batch.serialize id schema Batch.defaultBatchSize (rows.map Except.ok) with
      | (outcome, bytes) =>
        match disk.folder.write? path bytes with
        | none => ((.error (.createOutput path), disk), state)
        | some folder =>
          (((outcome.mapError (.writeOutput path)).map fun _ => (), { disk with folder }),
            state) := by
  unfold writeBatchFile
  cases Batch.serialize id schema Batch.defaultBatchSize (rows.map Except.ok) with
  | mk outcome bytes =>
    simp only [runWith_bind, runWith_get]
    cases disk.folder.write? path bytes with
    | none => rfl
    | some folder => cases outcome <;> rfl

theorem runWith_after_request {β : Type} (request : Request) (expected : Response → Option β)
    (next : β → Session LoadError α) (disk : Disk) (state : σ) (result : α) (after : Disk)
    (last : σ)
    (run : runWith answer (mapError .session (Session.request request expected) >>= next) disk
      state = ((.ok result, after), last)) :
    ∃ response there, runWith answer (next response) disk there = ((.ok result, after), last) := by
  rw [runWith_bind, runWith_mapError, runWith_request] at run
  cases answered : (answer state request).1 >>= understood request expected with
  | error failure =>
    rw [answered] at run
    cases run
  | ok response =>
    rw [answered] at run
    exact ⟨response, _, run⟩

end Steps

/-! ## The view and the output -/

/-- The engine after a view was registered, if one was asked for. -/
inductive Viewed (engine : Engine) (table : TableId) :
    Option String → Option ObjectPath → Engine → Prop
  | unasked : Viewed engine table none none engine
  | registered (text : String) (path : ObjectPath) (stands : engine.StandsFor text path)
      (free : engine.views.lookup path = none) :
      Viewed engine table (some text) (some path)
        { engine with views := (path, table) :: engine.views }

/-- The files after the rows were written, if that was asked for. -/
inductive Written (folder : Folder) (schema : Schema) (rows : List Row) :
    Option String → Folder → Prop
  | unasked : Written folder schema rows none folder
  | file (path : String) (count : Nat) (bytes : List UInt8) (after : Folder)
      (serialized : Batch.serialize id schema Batch.defaultBatchSize (rows.map Except.ok) =
        (.ok count, bytes))
      (put : folder.write? path bytes = some after) :
      Written folder schema rows (some path) after

def viewAsked (request : LoadRequest) (table : TableId) : Session LoadError (Option ObjectPath) :=
  request.view.mapM fun path => mapError .session (createTemporaryView path table)

def outputAsked (request : LoadRequest) (schema : Schema) (rows : List Row) :
    Session LoadError Unit :=
  match request.output with
  | some path => writeBatchFile path schema rows
  | none => return

theorem viewAsked_cases (request : LoadRequest) (table : TableId) (disk : Disk)
    (engine : Engine) :
    (∃ failure, runWith Engine.call (viewAsked request table) disk engine =
        ((.error (.session failure), disk), engine)) ∨
      ∃ view next, Viewed engine table request.view view next ∧
        runWith Engine.call (viewAsked request table) disk engine = ((.ok view, disk), next) := by
  unfold viewAsked
  cases request.view with
  | none => exact .inr ⟨none, engine, .unasked, rfl⟩
  | some text =>
    have whole : (some text).mapM (fun path =>
        (mapError .session (createTemporaryView path table) : Session LoadError ObjectPath)) =
        mapError .session (createTemporaryView text table) >>= fun path => pure (some path) := rfl
    rw [whole, runWith_bind, runWith_mapError]
    rcases createTemporaryView_cases text table disk engine with
      ⟨failure, refused⟩ | ⟨path, stands, _, _, free, made⟩
    · rw [refused]
      exact .inl ⟨failure, rfl⟩
    · rw [made]
      exact .inr ⟨some path, _, .registered text path stands free, rfl⟩

theorem outputAsked_cases {σ : Type} (answer : σ → Request → Answer × σ) (request : LoadRequest)
    (schema : Schema) (rows : List Row) (disk : Disk) (state : σ) :
    (∃ failure folder, failure.ofOutput = true ∧
        runWith answer (outputAsked request schema rows) disk state =
          ((.error failure, { disk with folder }), state)) ∨
      ∃ folder, Written disk.folder schema rows request.output folder ∧
        runWith answer (outputAsked request schema rows) disk state =
          ((.ok (), { disk with folder }), state) := by
  unfold outputAsked
  cases request.output with
  | none => exact .inr ⟨disk.folder, .unasked, rfl⟩
  | some path =>
    simp only [runWith_writeBatchFile]
    cases serialized : Batch.serialize id schema Batch.defaultBatchSize (rows.map Except.ok) with
    | mk outcome bytes =>
      dsimp only
      cases put : disk.folder.write? path bytes with
      | none => exact .inl ⟨.createOutput path, disk.folder, rfl, rfl⟩
      | some folder =>
        cases outcome with
        | error error => exact .inl ⟨.writeOutput path error, folder, rfl, rfl⟩
        | ok count => exact .inr ⟨folder, .file path count bytes folder serialized put, rfl⟩

/-! ## The table -/

section Tables

variable {batchSize : Nat} {request : LoadRequest} {disk after : Disk} {engine next : Engine}

theorem createTable_eq (batchSize : Nat) (request : LoadRequest) (data : Source.Data) :
    createTable batchSize request data =
      mapError (LoadRequest.refused data) ((request.loading data).session batchSize) := by
  cases data <;> rfl

/-- The source is read and a table is made of what it holds. -/
structure Tabled (batchSize : Nat) (request : LoadRequest) (disk : Disk) (engine : Engine)
    (data : Source.Data) (converter : Converter) (records : List Record) (table : Table)
    (after : Disk) (next : Engine) : Prop where
  read : request.read disk.folder = .ok data
  input : (request.loading data).input = .ok (converter, records)
  loaded : runWith Engine.call (loadElements converter batchSize records) disk engine =
    ((.ok table, after), next)

theorem createTable_cases (batchSize : Nat) {data : Source.Data}
    (read : request.read disk.folder = .ok data) (engine : Engine) :
    (∃ failure after, failure.ofOutput = false ∧
        runWith Engine.call (createTable batchSize request data) disk engine =
          ((.error failure, after), engine)) ∨
      ∃ converter records table after next,
        Tabled batchSize request disk engine data converter records table after next ∧
        runWith Engine.call (createTable batchSize request data) disk engine =
          ((.ok table, after), next) := by
  have early := LoadRequest.early_of_refused data
  have whole := (request.loading data).dialogue_session batchSize disk
  rw [createTable_eq, runWith_mapError, runWith_eq, whole]
  cases input : (request.loading data).input with
  | error failure => exact .inl ⟨_, disk, early failure, rfl⟩
  | ok made =>
    obtain ⟨converter, records⟩ := made
    dsimp only
    rw [← runWith_eq]
    cases loaded : runWith Engine.call (loadElements converter batchSize records) disk engine with
    | mk answered stored =>
      obtain ⟨result, swept⟩ := answered
      obtain ⟨_, ⟨failure, rfl, rfl, _⟩ | ⟨_, _, rows, _, _, _, rfl, rfl⟩⟩ :=
        loadElements_cases loaded
      · exact .inl ⟨_, swept, early failure, rfl⟩
      · exact .inr ⟨converter, records, _, swept, _, ⟨read, input, loaded⟩, rfl⟩

theorem runWith_collect_stored (schema : Schema) (rows : List Row) (disk : Disk)
    (engine : Engine) :
    runWith Engine.call (collect engine.nextId) disk (engine.store schema rows).2 =
      ((.ok rows, disk), (engine.store schema rows).2) := by
  have held : (engine.store schema rows).2.call (.collectTable engine.nextId) =
      (.ok (.rows rows), (engine.store schema rows).2) := by
    simp [Engine.call, Engine.store]
  rw [collect, runWith_request, held]
  rfl

end Tables

/-! ## Whole loads -/

section Loads

variable {batchSize : Nat} {request : LoadRequest} {disk after : Disk} {engine next : Engine}

def finish (request : LoadRequest) (table : Table) : Session LoadError LoadSummary := do
  let rows ← mapError .session (collect table.id)
  let view ← viewAsked request table.id
  outputAsked request table.schema rows
  return { table, rowsLoaded := rows.length, view, output := request.output }

theorem load_eq (batchSize : Nat) (request : LoadRequest) :
    load batchSize request =
      sourceFormat request >>= fun format =>
        (get : Session LoadError Disk) >>= fun disk =>
          ofExcept .source
              (Source.readFile disk.folder request.source request.hasHeader format) >>= fun data =>
            createTable batchSize request data >>= finish request := by
  unfold load finish viewAsked outputAsked
  cases request.output <;> rfl

theorem runWith_load {σ : Type} (answer : σ → Request → Answer × σ) (batchSize : Nat)
    (request : LoadRequest) (disk : Disk) (state : σ) :
    runWith answer (load batchSize request) disk state =
      match request.read disk.folder with
      | .error failure => ((.error failure, disk), state)
      | .ok data =>
        runWith answer (createTable batchSize request data >>= finish request) disk state := by
  rw [load_eq, runWith_bind, runWith_sourceFormat, LoadRequest.read]
  cases request.format? with
  | none => rfl
  | some format =>
    dsimp only
    rw [runWith_bind, runWith_get]
    dsimp only
    rw [runWith_ofExcept]
    cases Source.readFile disk.folder request.source request.hasHeader format <;> rfl

/-- How a load of a file ends, and what it has done to an engine of tables by then.  The
engine keeps a table that was stored, and a view of it that was registered, also if the
load fails later. -/
inductive Ending (batchSize : Nat) (request : LoadRequest) (disk : Disk) (engine : Engine) :
    Except LoadError LoadSummary → Disk → Engine → Prop
  | untabled (failure : LoadError) (after : Disk) (early : failure.ofOutput = false) :
      Ending batchSize request disk engine (.error failure) after engine
  | unviewed (schema : Schema) (rows : List Row) (failure : Failure) (after : Disk) :
      Ending batchSize request disk engine (.error (.session failure)) after
        (engine.store schema rows).2
  | unwritten (schema : Schema) (rows : List Row) (view : Option ObjectPath)
      (failure : LoadError) (after : Disk) (next : Engine)
      (viewed : Viewed (engine.store schema rows).2 engine.nextId request.view view next)
      (late : failure.ofOutput = true) :
      Ending batchSize request disk engine (.error failure) after next
  | done (data : Source.Data) (converter : Converter) (records : List Record) (rows : List Row)
      (view : Option ObjectPath) (swept : Disk) (folder : Folder) (next : Engine)
      (tabled : Tabled batchSize request disk engine data converter records
        (engine.store converter.schema rows).1 swept (engine.store converter.schema rows).2)
      (viewed : Viewed (engine.store converter.schema rows).2 engine.nextId request.view view next)
      (written : Written disk.folder converter.schema rows request.output folder) :
      Ending batchSize request disk engine
        (.ok
          { table := (engine.store converter.schema rows).1
            rowsLoaded := rows.length
            view
            output := request.output })
        { swept with folder } next

theorem ending_of_finish {data : Source.Data} {converter : Converter} {records : List Record}
    {table : Table} {swept : Disk} {stored : Engine} {outcome : Except LoadError LoadSummary}
    (tabled : Tabled batchSize request disk engine data converter records table swept stored)
    (run : runWith Engine.call (finish request table) swept stored = ((outcome, after), next)) :
    Ending batchSize request disk engine outcome after next := by
  obtain ⟨untouched, ⟨_, impossible, _⟩ | ⟨_, _, rows, _, _, _, made, kept⟩⟩ :=
    loadElements_cases tabled.loaded
  · cases impossible
  · cases made
    cases kept
    have collected := runWith_collect_stored converter.schema rows swept engine
    have own : (engine.store converter.schema rows).1.id = engine.nextId := rfl
    rw [finish, runWith_bind, runWith_mapError, own, collected] at run
    simp only [Except.mapError] at run
    rw [runWith_bind] at run
    rcases viewAsked_cases request engine.nextId swept (engine.store converter.schema rows).2 with
      ⟨failure, refused⟩ | ⟨view, viewing, viewed, registered⟩
    · rw [refused] at run
      cases run
      exact .unviewed converter.schema rows failure _
    · rw [registered] at run
      simp only [runWith_bind] at run
      rcases outputAsked_cases Engine.call request (engine.store converter.schema rows).1.schema
          rows swept viewing with ⟨failure, folder, late, failed⟩ | ⟨folder, written, put⟩
      · rw [failed] at run
        cases run
        exact .unwritten converter.schema rows view failure _ _ viewed late
      · rw [put] at run
        cases run
        rw [untouched] at written
        exact .done data converter records rows view swept folder next tabled viewed written

theorem ending_of_load {outcome : Except LoadError LoadSummary}
    (run : runWith Engine.call (load batchSize request) disk engine = ((outcome, after), next)) :
    Ending batchSize request disk engine outcome after next := by
  rw [runWith_load] at run
  cases read : request.read disk.folder with
  | error failure =>
    rw [read] at run
    cases run
    exact .untabled failure disk (LoadRequest.early_of_read read)
  | ok data =>
    rw [read] at run
    simp only [runWith_bind] at run
    rcases createTable_cases batchSize read engine with
      ⟨failure, swept, early, failed⟩ | ⟨converter, records, table, swept, stored, tabled, made⟩
    · rw [failed] at run
      cases run
      exact .untabled failure _ early
    · rw [made] at run
      exact ending_of_finish tabled run

theorem load_of_loadThere {σ : Type} (answer : σ → Request → Answer × σ) (state last : σ)
    (summary : LoadSummary)
    (run : runWith answer (loadThere request) disk state = ((.ok summary, after), last)) :
    ∃ there, runWith answer (load Batch.defaultBatchSize request) disk there =
      ((.ok summary, after), last) := by
  unfold loadThere at run
  have asked := @runWith_after_request σ LoadSummary answer Unit
  cases catalog : request.catalog with
  | none =>
    cases database : request.database with
    | none =>
      rw [catalog, database] at run
      exact ⟨state, run⟩
    | some name =>
      rw [catalog, database] at run
      obtain ⟨_, there, loading⟩ := asked _ _ _ disk state summary after last run
      exact ⟨there, loading⟩
  | some place =>
    rw [catalog] at run
    obtain ⟨_, there, rest⟩ := asked _ _ _ disk state summary after last run
    cases database : request.database with
    | none =>
      rw [database] at rest
      exact ⟨there, rest⟩
    | some name =>
      rw [database] at rest
      obtain ⟨_, inside, loading⟩ := asked _ _ _ disk there summary after last rest
      exact ⟨inside, loading⟩

end Loads

end Session

end TableLoad
