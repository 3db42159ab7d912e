import TableLoad.Inspection
import TableLoad.Proofs.Frame.Rows
import TableLoad.Proofs.Load.Stages

/-!
# The output of a load

The rows of a source go through a batch into the engine and through a second batch into
the output.  None is lost, repeated or changed on the way, so what is read of the output
are the records of the source, converted.
-/

set_option autoImplicit false

namespace TableLoad

/-! ## Files that are written -/

namespace Folder

open Storage

theorem entry_put (folder : Folder) (place other : Place) (entry : Entry) :
    Folder.entry? (folder.put place entry) other =
      if other = place then some entry else folder.entry? other := by
  rw [put, entry?, lookup_cons_if, lookup_filter_ne, entry?]
  by_cases same : other = place
  · rw [if_pos same, if_pos same, Option.some_or]
  · rw [if_neg same, if_neg same, if_neg same]

theorem walk_put (folder : Folder) (place : Place) (content : Content)
    (solid : folder.entry? place ≠ some .directory) (names : List String) :
    ∀ start, (folder.put place (.file content)).walk start names = folder.walk start names := by
  induction names with
  | nil =>
    intro start
    rfl
  | cons name rest ih =>
    intro start
    rw [walk, walk, entry_put]
    by_cases same : start = place
    · rw [if_pos same, same]
      cases found : folder.entry? place with
      | none => rfl
      | some entry =>
        cases entry with
        | file other => rfl
        | directory => exact absurd found solid
    · rw [if_neg same, ih]

/-- What is written to the path is kept: it does not lead to the null device. -/
def Keeps (folder : Folder) (path : String) : Prop :=
  folder.place? path ≠ some nullDevice

theorem place_of_write {folder after : Folder} {path : String} {bytes : List UInt8}
    (written : folder.write? path bytes = some after) :
    ∃ place, folder.place? path = some place ∧ folder.entry? place ≠ some .directory ∧
      after = if place = nullDevice then folder else folder.put place (.file (.bytes bytes)) := by
  cases leads : folder.place? path with
  | none =>
    rw [write?, leads] at written
    cases written
  | some place =>
    simp only [write?, leads, bind, Option.bind_some] at written
    refine ⟨place, rfl, ?_⟩
    split at written
    · cases written
    · rename_i solid
      cases written
      exact ⟨solid, rfl⟩

theorem find?_of_write {folder after : Folder} {path : String} {bytes : List UInt8}
    (keeps : folder.Keeps path) (written : folder.write? path bytes = some after) :
    after.find? path = some (.file (.bytes bytes)) := by
  obtain ⟨place, leads, solid, rfl⟩ := place_of_write written
  have other : place ≠ nullDevice := fun same => keeps (same ▸ leads)
  have still : (folder.put place (.file (.bytes bytes))).place? path = some place := by
    rw [← leads, place?, place?]
    simp only [walk_put folder place _ solid]
  rw [if_neg other, find?, still]
  exact (entry_put folder place place _).trans (if_pos rfl)

end Folder

/-! ## Batches that are written again -/

namespace Batch

theorem serialize_again {ε δ : Type} {wrap : Error → ε} (other : Error → δ) {schema : Schema}
    {batchSize count : Nat} {rows : List Row} {bytes : List UInt8}
    (written : serialize wrap schema batchSize (rows.map .ok) = (.ok count, bytes)) :
    serialize other schema batchSize (rows.map .ok) = (.ok count, bytes) := by
  have writable := writable_of_serialize wrap schema batchSize rows count bytes written
  have either := fun {γ : Type} (any : Error → γ) => serialize_written any schema batchSize rows
    writable.header writable.widths writable.short writable.frames
  rw [either] at written ⊢
  cases written
  rfl

end Batch

theorem inspect_of_deserialize {folder : Folder} {path : String} {bytes : List UInt8}
    {schema : Schema} {rows : List Row}
    (found : folder.find? path = some (.file (.bytes bytes)))
    (read : Batch.deserialize bytes schema = .ok rows) :
    inspectBatchFile folder path = .ok (schema, rows) := by
  rw [Batch.deserialize, bind_eq_ok_iff] at read
  obtain ⟨reader, started, read⟩ := read
  rw [bind_eq_ok_iff] at read
  obtain ⟨_, expected, read⟩ := read
  have same : reader.schema = schema := by
    by_contra different
    rw [Batch.Reader.expectSchema, if_neg different] at expected
    cases expected
  simp only [inspectBatchFile, found, started, read, same]

theorem Engine.rows_of_store {engine : Engine} {schema : Schema} {rows others : List Row}
    (same : (engine.store schema rows).2 = (engine.store schema others).2) : rows = others := by
  have tables := congrArg (fun stored => stored.tables.head?) same
  simpa [Engine.store] using tables

/-! ## The records of a source -/

def Source.Data.toRecords : Source.Data → Except Frame.Error (List Record)
  | .records own => .ok own
  | .frame own => own.records

def Source.Data.rowCount : Source.Data → Nat
  | .records own => own.length
  | .frame own => own.batches.flatten.length

theorem Source.Data.toRecords_length {data : Source.Data} {records : List Record}
    (read : data.toRecords = .ok records) : records.length = data.rowCount := by
  cases data with
  | records own =>
    cases read
    rfl
  | frame frame => exact Frame.records_length frame records read

/-- The names that the values of named records are found under: if the load renames the
columns, those that the first record carries. -/
def LoadRequest.lookupNames (request : LoadRequest) (records : List Record) (schema : Schema) :
    List String :=
  (if request.names.isSome then records.head?.bind Record.names? else none).getD schema.names

theorem unnamed_frame {frame : Frame} {records : List Record} (read : frame.records = .ok records) :
    records.head?.bind Record.names? = none := by
  cases records with
  | nil => rfl
  | cons first rest =>
    have count := Frame.records_length frame _ read
    have inside : 0 < frame.batches.flatten.length := by
      rw [← count]
      exact Nat.succ_pos _
    obtain ⟨row, found, _⟩ := Frame.record_at frame _ read 0 _ (List.getElem?_eq_getElem inside)
    cases found
    rfl

theorem converter_of_input {request : LoadRequest} {data : Source.Data} {converter : Converter}
    {records : List Record} (input : (request.loading data).input = .ok (converter, records)) :
    data.toRecords = .ok records ∧
      converter.lookupNames.length = converter.schema.fields.length ∧
      converter.lookupNames = request.lookupNames records converter.schema := by
  cases data with
  | records own =>
    simp only [LoadRequest.loading, Loading.input] at input
    cases made : converterFor own (request.names.map .names) request.verify with
    | error cause =>
      rw [made] at input
      cases input
    | ok other =>
      rw [made] at input
      cases input
      exact ⟨rfl, lookupNames_of_converterFor _ _ _ _ made,
        (converterFor_names request.names _ _ _ made).2.2⟩
  | frame frame =>
    simp only [LoadRequest.loading, Loading.input] at input
    cases mapped : frame.schema (request.names.map .names) with
    | error cause =>
      rw [mapped] at input
      cases input
    | ok schema =>
      cases read : frame.records with
      | error cause =>
        rw [mapped, read] at input
        cases input
      | ok found =>
        rw [mapped, read] at input
        cases input
        refine ⟨read, List.length_map _, ?_⟩
        rw [LoadRequest.lookupNames, unnamed_frame read, ite_self]
        rfl

/-! ## Whole loads -/

section Rows

variable {batchSize : Nat} {request : LoadRequest} {disk swept : Disk} {engine : Engine}
  {data : Source.Data} {converter : Converter} {records : List Record} {rows : List Row}

/-- The stored rows are the converted records, and the batch that they came in says so. -/
theorem Session.rows_of_tabled
    (tabled : Session.Tabled batchSize request disk engine data converter records
      (engine.store converter.schema rows).1 swept (engine.store converter.schema rows).2)
    (small : batchSize < 2 ^ 32) :
    converter.convertAll records = rows.map .ok ∧ ∃ count bytes,
      Batch.serialize Failure.batch converter.schema batchSize (rows.map .ok) =
        (.ok count, bytes) ∧ Batch.deserialize bytes converter.schema = .ok rows := by
  obtain ⟨_, named, _⟩ := converter_of_input tabled.input
  obtain ⟨others, all, stored⟩ := Session.stored_of_loaded named (fun _ => by omega) tabled.loaded
  obtain ⟨count, bytes, found, _, encoded, decoded, held⟩ := Session.batch_of_loaded tabled.loaded
  cases Engine.rows_of_store (congrArg Prod.snd stored)
  cases Engine.rows_of_store (congrArg Prod.snd held)
  rw [Session.batchOfElements_of_converted all] at encoded
  exact ⟨all, count, bytes, encoded, decoded⟩

theorem inspect_of_written {path : String} {after : Folder} {count : Nat} {bytes : List UInt8}
    (keeps : disk.folder.Keeps path)
    (written : Session.Written disk.folder converter.schema rows (some path) after)
    (encoded : Batch.serialize Failure.batch converter.schema Batch.defaultBatchSize
      (rows.map .ok) = (.ok count, bytes))
    (decoded : Batch.deserialize bytes converter.schema = .ok rows) :
    inspectBatchFile after path = .ok (converter.schema, rows) := by
  cases written with
  | file _ again others _ serialized put =>
    rw [Batch.serialize_again id encoded] at serialized
    cases serialized
    exact inspect_of_deserialize (Folder.find?_of_write keeps put) decoded

theorem row_of_record (input : (request.loading data).input = .ok (converter, records))
    (all : converter.convertAll records = rows.map .ok) (i : Nat) (record : Record)
    (found : records[i]? = some record) :
    ∃ row, rows[i]? = some row ∧ convertUnder converter.schema.fields
      (request.lookupNames records converter.schema) i record = .ok row := by
  obtain ⟨_, _, lookups⟩ := converter_of_input input
  obtain ⟨count, each⟩ := (converter.convertAll_eq_ok records rows).mp all
  have inside : i < rows.length := by
    rw [count]
    exact (List.getElem?_eq_some_iff.mp found).1
  have rowAt := List.getElem?_eq_getElem inside
  have converted := each i record rows[i] found rowAt
  obtain ⟨_, _, unverified⟩ := (convert_ok_iff converter i record rows[i]).mp converted
  rw [lookups] at unverified
  exact ⟨rows[i], rowAt, unverified⟩

end Rows

/-- A load of a file that succeeds has loaded as many rows as its source has records.  The
output, if it is kept, is read as a batch of the reported schema, and each of its rows is
what the record at its place converts to.  The format of the source, the place of the
table and its view have no part in this. -/
theorem file_load_loses_nothing (request : LoadRequest) (disk after : Disk) (engine : Engine)
    (summary : LoadSummary) (output : String) (asked : request.output = some output)
    (keeps : disk.folder.Keeps output)
    (run : request.run disk = ((.ok summary, after), engine)) :
    ∃ data records rows, request.read disk.folder = .ok data ∧ data.toRecords = .ok records ∧
      data.rowCount = summary.rowsLoaded ∧ records.length = summary.rowsLoaded ∧
      inspectBatchFile after.folder output = .ok (summary.table.schema, rows) ∧
      rows.length = summary.rowsLoaded ∧
      ∀ (i : Nat) record, records[i]? = some record → ∃ row, rows[i]? = some row ∧
        convertUnder summary.table.schema.fields
          (request.lookupNames records summary.table.schema) i record = .ok row := by
  obtain ⟨there, loaded⟩ := Session.load_of_loadThere _ _ _ _ run
  cases Session.ending_of_load loaded with
  | done data converter records rows view swept folder next tabled viewed written =>
    obtain ⟨read, _, _⟩ := converter_of_input tabled.input
    obtain ⟨all, count, bytes, encoded, decoded⟩ := Session.rows_of_tabled tabled (by decide)
    obtain ⟨many, _⟩ := (converter.convertAll_eq_ok records rows).mp all
    rw [asked] at written
    refine ⟨data, records, rows, tabled.read, read, ?_, many.symm, ?_, rfl, ?_⟩
    · exact (many.trans (Source.Data.toRecords_length read)).symm
    · exact inspect_of_written keeps written encoded decoded
    · exact row_of_record tabled.input all

def measureLoad : LoadRequest :=
  { LoadRequest.ofSource "measures.csv" with
    names := some ["size"]
    view := some "measures"
    catalog := some "shop"
    output := some "measures.tbrb" }

def measureDisk : Disk where
  folder := ⟨[({ rooted := false, names := ["measures.csv"] },
    .file (.bytes (Utf8.encode "n\n1\n2.5\n")))]⟩
  scratch := .empty

theorem measures_read_back :
    ∃ summary after engine rows, measureLoad.run measureDisk = ((.ok summary, after), engine) ∧
      summary.table.schema.names = ["size"] ∧ summary.rowsLoaded = 2 ∧
      inspectBatchFile after.folder "measures.tbrb" = .ok (summary.table.schema, rows) ∧
      rows.length = 2 := by
  have loads : (measureLoad.run measureDisk).1.1.toOption.map (fun summary =>
      summary.table.schema.names) = some ["size"] := by decide +kernel
  have count : (measureLoad.read measureDisk.folder).toOption.map Source.Data.rowCount =
      some 2 := by decide +kernel
  have keeps : measureDisk.folder.Keeps "measures.tbrb" := by
    unfold Folder.Keeps
    decide +kernel
  cases run : measureLoad.run measureDisk with
  | mk answered engine =>
    obtain ⟨outcome, after⟩ := answered
    rw [run] at loads
    cases outcome with
    | error failure => cases loads
    | ok summary =>
      obtain ⟨data, records, rows, read, _, loaded, _, found, size, _⟩ :=
        file_load_loses_nothing measureLoad measureDisk after engine summary "measures.tbrb" rfl
          keeps run
      rw [read] at count
      have two : summary.rowsLoaded = 2 := loaded.symm.trans (Option.some.inj count)
      exact ⟨summary, after, engine, rows, rfl, Option.some.inj loads, two, found,
        size.trans two⟩

end TableLoad
