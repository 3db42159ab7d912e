import TableLoad.Proofs.Frame.Rows
import TableLoad.Proofs.Session.Outcomes

/-!
# Loading frames

A frame without a hint is stored as it is read: reading gives values that conversion
leaves alone.  How the rows are divided into batches has no part in it.
-/

set_option autoImplicit false

namespace TableLoad

/-! ## Values that a column keeps -/

/-- The value is of the kinds of its type at every depth, and so is stored as it is unless
a decimal in it has too many digits.  Only that and a null that is not admitted keep it
from being verified. -/
structure KeptBy (type : DataType) (value : Value) : Prop where
  kinds : Everywhere Matches type value
  converted : ∀ index path stored, convertValue index type path value = .ok stored ↔
    Everywhere DigitsFit type value ∧ stored = value
  verified : ∀ index path, verifyValue index type path value = .ok () ↔
    Everywhere DigitsFit type value ∧ Everywhere NullAdmitted type value

theorem keptBy_of_matches (type : DataType) (value : Value)
    (kinds : Everywhere Matches type value) : KeptBy type value where
  kinds := kinds
  converted index path stored := convert_unchanged index type path value stored kinds
  verified index path := verify_iff_admitted index type path value kinds

namespace Session

theorem runWith_fromFrame (batchSize : Nat) (frame : Frame) (hint : Option Frame.Hint)
    (disk : Disk) (engine : Engine) :
    runWith Engine.call (fromFrame batchSize frame hint) disk engine =
      match frame.schema hint, frame.records with
      | .error error, _ => ((.error (.frame error), disk), engine)
      | .ok _, .error error => ((.error (.frame error), disk), engine)
      | .ok schema, .ok records =>
        runWith Engine.call (loadElements (.ofSchema schema true) batchSize records) disk engine := by
  rw [fromFrame, runWith_ofExcept]
  cases frame.schema hint with
  | error error => rfl
  | ok schema =>
    dsimp only
    rw [runWith_ofExcept]
    cases frame.records <;> rfl

/-! ## Frames without a hint -/

/-- The rows that are read of a frame are those that are stored of it.  No row is refused
but for a null that is not admitted or a decimal with too many digits, and a frame without
those is stored if it is within the limits of batches. -/
structure StoredAsRead (frame : Frame) (schema : Schema) (batchSize : Nat) (rows : List Row) :
    Prop where
  read : frame.records = .ok (rows.map (.positional .tuple))
  converted : ∀ row ∈ rows, ∀ index stored,
    schema.convert index (.positional .tuple row) = .ok stored ↔
      EverywhereIn DigitsFit schema.fields row ∧ stored = row
  verified : ∀ row ∈ rows, ∀ index, schema.verify index (.positional .tuple row) = .ok () ↔
    EverywhereIn DigitsFit schema.fields row ∧ EverywhereIn NullAdmitted schema.fields row
  stored : ∀ disk engine table after next,
    runWith Engine.call (fromFrame batchSize frame none) disk engine =
      ((.ok table, after), next) →
        table.schema = schema ∧ ∀ later someDisk,
          (runWith Engine.call (collect table.id) someDisk (next.after later)).1.1 = .ok rows
  refused : ∀ disk engine error after next,
    runWith Engine.call (fromFrame batchSize frame none) disk engine =
      ((.error (.validation error), after), next) →
        ∃ row, rows[error.record]? = some row ∧
          ¬(EverywhereIn DigitsFit schema.fields row ∧
            EverywhereIn NullAdmitted schema.fields row)
  loads : WithinLimits batchSize (.ofSchema schema true) (rows.map (.positional .tuple)) →
    (∀ row ∈ rows, EverywhereIn DigitsFit schema.fields row ∧
      EverywhereIn NullAdmitted schema.fields row) →
    ∀ disk engine, disk.scratch.available = true →
      runWith Engine.call (fromFrame batchSize frame none) disk engine =
        ((.ok (engine.store schema rows).1, disk.swept), (engine.store schema rows).2)

section StoredAsRead

variable {schema : Schema} {rows : List Row}

theorem converted_of_matches (kinds : ∀ row ∈ rows, EverywhereIn Matches schema.fields row)
    (row : Row) (member : row ∈ rows) (index : Nat) (stored : Row) :
    schema.convert index (.positional .tuple row) = .ok stored ↔
      EverywhereIn DigitsFit schema.fields row ∧ stored = row :=
  convertUnder_unchanged index schema.fields schema.names .tuple row (List.length_map _)
    (kinds row member) stored

theorem verified_of_matches (kinds : ∀ row ∈ rows, EverywhereIn Matches schema.fields row)
    (row : Row) (member : row ∈ rows) (index : Nat) :
    schema.verify index (.positional .tuple row) = .ok () ↔
      EverywhereIn DigitsFit schema.fields row ∧ EverywhereIn NullAdmitted schema.fields row :=
  verifyUnder_iff_admitted index schema.fields schema.names .tuple row (List.length_map _)
    (kinds row member)

theorem convertAll_unchanged (kinds : ∀ row ∈ rows, EverywhereIn Matches schema.fields row)
    (verifies : Bool) (others : List Row)
    (all : (Converter.ofSchema schema verifies).convertAll (rows.map (.positional .tuple)) =
      others.map .ok) : others = rows := by
  obtain ⟨count, each⟩ := (Converter.convertAll_eq_ok _ _ others).mp all
  rw [List.length_map] at count
  refine List.ext_getElem count fun i inside within => ?_
  have converted := each i (.positional .tuple rows[i]) others[i]
    (by rw [List.getElem?_map, List.getElem?_eq_getElem within, Option.map_some])
    (List.getElem?_eq_getElem inside)
  obtain ⟨_, _, unverified⟩ := (convert_ok_iff _ i _ others[i]).mp converted
  exact ((converted_of_matches kinds rows[i] (List.getElem_mem within) i others[i]).mp
    unverified).2

theorem accepted_of_matches (kinds : ∀ row ∈ rows, EverywhereIn Matches schema.fields row)
    (row : Row) (member : row ∈ rows) (index : Nat)
    (fit : EverywhereIn DigitsFit schema.fields row ∧
      EverywhereIn NullAdmitted schema.fields row) :
    (Converter.ofSchema schema true).convert index (.positional .tuple row) = .ok row := by
  have verified := (verified_of_matches kinds row member index).mpr fit
  have converted := (converted_of_matches kinds row member index row).mpr ⟨fit.1, rfl⟩
  exact (convert_ok_iff _ index _ row).mpr ⟨rfl, fun _ => verified, converted⟩

theorem storedAsRead_of_matches (frame : Frame) (batchSize : Nat)
    (mapped : frame.schema none = .ok schema)
    (few : schema.fields = [] → min batchSize rows.length < 2 ^ 32)
    (read : frame.records = .ok (rows.map (.positional .tuple)))
    (kinds : ∀ row ∈ rows, EverywhereIn Matches schema.fields row) :
    StoredAsRead frame schema batchSize rows := by
  have named : (Converter.ofSchema schema true).lookupNames.length =
      (Converter.ofSchema schema true).schema.fields.length := List.length_map _
  have load : ∀ disk engine, runWith Engine.call (fromFrame batchSize frame none) disk engine =
      runWith Engine.call (loadElements (.ofSchema schema true) batchSize
        (rows.map (.positional .tuple))) disk engine := by
    intro disk engine
    rw [runWith_fromFrame, mapped, read]
  -- The times of a frame are made from their parts, and such times are on the clock.
  have timely : Batch.rowsOffClock? rows = none := by
    have all := Frame.timely_records frame _ read
    exact (Batch.rowsOffClock_eq_none rows).mpr fun row member =>
      all _ (List.mem_map_of_mem member)
  refine ⟨read, converted_of_matches kinds, verified_of_matches kinds, ?_, ?_, ?_⟩
  · intro disk engine table after next run
    rw [load] at run
    obtain ⟨others, all, stored⟩ := stored_of_loaded named (by rwa [List.length_map]) run
    cases convertAll_unchanged kinds true others all
    cases stored
    refine ⟨rfl, fun later someDisk => ?_⟩
    exact runWith_collect _ someDisk _ rows (engine.rows_after_store schema rows later)
  · intro disk engine error after next run
    rw [load] at run
    obtain ⟨element, found, refused, _⟩ := refused_of_loaded error run
    rw [List.getElem?_map, Option.map_eq_some_iff] at found
    obtain ⟨row, rowAt, rfl⟩ := found
    refine ⟨row, rowAt, fun fit => ?_⟩
    have member := List.mem_of_getElem? rowAt
    rw [accepted_of_matches kinds row member error.record fit] at refused
    cases refused
  · intro limits fine disk engine available
    have accepted : (Converter.ofSchema schema true).Accepts (rows.map (.positional .tuple))
        rows := by
      refine (Converter.convertAll_eq_ok _ _ rows).mpr ⟨(List.length_map _).symm, ?_⟩
      intro place record row recordAt rowAt
      rw [List.getElem?_map, rowAt, Option.map_some] at recordAt
      cases recordAt
      have member := List.mem_of_getElem? rowAt
      exact accepted_of_matches kinds row member place (fine row member)
    rw [load]
    exact (runWith_loadElements_accepted rows disk engine available named limits accepted
      timely).2

end StoredAsRead

/-- Mapping and reading agree.  Every cell of a column type that maps is either out of
range or read as a value that the mapped type keeps, and so a frame that maps is either
out of range in some cell or stored as it is read. -/
theorem frame_stored_as_read :
    (∀ name type mapped, Frame.mapType name type = .ok mapped →
      ∀ (position : Frame.Position) cell, Frame.Holds type cell →
        (∃ expected, Frame.readCell position type cell = .error (position.outOfRange expected)) ∨
        ∃ value, Frame.readCell position type cell = .ok value ∧ KeptBy mapped value) ∧
    ∀ (frame : Frame) schema batchSize, frame.schema none = .ok schema → frame.WellFormed →
      (frame.columns = [] → min batchSize frame.batches.flatten.length < 2 ^ 32) →
        (∃ (position : Frame.Position) (expected : String),
          frame.records = .error (position.outOfRange expected)) ∨
        ∃ rows, StoredAsRead frame schema batchSize rows := by
  refine ⟨?_, ?_⟩
  · intro name type mapped done position cell holds
    have read := Frame.read_mapped position (Frame.mapped_of_mapType name type mapped done) cell
      holds
    cases outcome : Frame.readCell position type cell with
    | error cause =>
      rw [outcome] at read
      obtain ⟨expected, rfl⟩ := read
      exact .inl ⟨expected, rfl⟩
    | ok value =>
      rw [outcome] at read
      exact .inr ⟨value, rfl, keptBy_of_matches mapped value read⟩
  · intro frame schema batchSize mapped wellFormed few
    have read := Frame.read_records frame schema mapped wellFormed
    cases outcome : frame.records with
    | error cause =>
      rw [outcome] at read
      obtain ⟨position, expected, rfl⟩ := read
      exact .inl ⟨position, expected, rfl⟩
    | ok records =>
      rw [outcome] at read
      obtain ⟨rows, rfl, kinds⟩ := read
      refine .inr ⟨rows, storedAsRead_of_matches frame batchSize mapped ?_ outcome kinds⟩
      -- Without columns the rows take no bytes, so only their number can be too large.
      have count := Frame.records_length frame _ outcome
      have columns := Frame.mapped_of_schema frame schema mapped
      rw [List.length_map] at count
      rw [count]
      intro blank
      rw [blank] at columns
      cases same : frame.columns with
      | nil => exact few same
      | cons column others =>
        rw [same] at columns
        cases columns

def salesFrame : Frame where
  columns :=
    [("id", .uint64, false),
      ("parts", .list "item" (.struct [("amount", .decimal128 4 2, true)]) true, false)]
  batches :=
    [[[.integer 18446744073709551615, .list [.struct [.integer 1234], .null]]],
      [[.integer 0, .list [.struct [.integer 12345]]]]]

def salesSchema : Schema where
  fields :=
    [("id", .atom (.decimal 20 0) false),
      ("parts", .array (.row [("amount", .atom (.decimal 4 2) true)] true) false)]
  wellFormed := rfl

def salesRows : List Row :=
  [[.decimal ⟨18446744073709551615, 0, by decide⟩,
      .list [.record (.positional .row [.decimal ⟨1234, 2, by decide⟩]), .null]],
    [.decimal ⟨0, 0, by decide⟩, .list [.record (.positional .row [.decimal ⟨12345, 2, by decide⟩])]]]

def firstSale : Frame :=
  { salesFrame with batches := [salesFrame.batches.flatten.take 1] }

theorem firstSale_within :
    WithinLimits 1000 (.ofSchema salesSchema true) [.positional .tuple salesRows[0]] := by
  have plain : { Converter.ofSchema salesSchema true with
      verifies := false }.convertAll [.positional .tuple salesRows[0]] =
        [salesRows[0]].map .ok := rfl
  refine ⟨by decide, by decide +kernel, fun rows converted => ?_⟩
  have same : rows = [salesRows[0]] :=
    List.map_injective_iff.mpr (fun _ _ equal => Except.ok.inj equal) (converted.symm.trans plain)
  have groups : Batch.frameGroups 1000 [salesRows[0]] = [[salesRows[0]]] := rfl
  rw [same, groups]
  simp only [List.mem_singleton, forall_eq]
  exact ⟨by decide, by decide +kernel⟩

theorem sales_frame_stored_as_read :
    StoredAsRead salesFrame salesSchema 1000 salesRows ∧
      EverywhereIn DigitsFit salesSchema.fields salesRows[0] ∧
      ¬EverywhereIn DigitsFit salesSchema.fields salesRows[1] ∧
      runWith Engine.call (fromFrame 1000 firstSale none) freshDisk .fresh =
        ((.ok (Engine.fresh.store salesSchema [salesRows[0]]).1, freshDisk.swept),
          (Engine.fresh.store salesSchema [salesRows[0]]).2) := by
  have tuples : ∀ rows others : List Row,
      rows.map (Record.positional .tuple) = others.map (.positional .tuple) → rows = others :=
    fun _ _ equal =>
      List.map_injective_iff.mpr (fun _ _ same => (Record.positional.inj same).2) equal
  have unrefused : ∀ (frame : Frame) (records : List Record), frame.records = .ok records →
      ∀ (position : Frame.Position) expected,
        frame.records ≠ .error (position.outOfRange expected) := by
    intro frame records read position expected impossible
    rw [read] at impossible
    cases impossible
  have whole : salesFrame.records = .ok (salesRows.map (.positional .tuple)) := rfl
  have part : firstSale.records = .ok ([salesRows[0]].map (.positional .tuple)) := rfl
  obtain ⟨rows, stored⟩ := (frame_stored_as_read.2 salesFrame salesSchema 1000 rfl
    (by simp [Frame.WellFormed, salesFrame, Frame.HoldsParts, Frame.Holds, Frame.ColumnType.stores])
    (by simp [salesFrame])).resolve_left
      fun ⟨position, expected, out⟩ => unrefused _ _ whole position expected out
  obtain ⟨first, alone⟩ := (frame_stored_as_read.2 firstSale salesSchema 1000 rfl
    (by simp [Frame.WellFormed, firstSale, salesFrame, Frame.HoldsParts, Frame.Holds,
      Frame.ColumnType.stores])
    (by simp [firstSale, salesFrame])).resolve_left
      fun ⟨position, expected, out⟩ => unrefused _ _ part position expected out
  obtain rfl := tuples _ _ (Except.ok.inj (whole.symm.trans stored.read))
  obtain rfl := tuples _ _ (Except.ok.inj (part.symm.trans alone.read))
  have verified : salesSchema.verify 0 (.positional .tuple salesRows[0]) = .ok () := rfl
  have fine := (stored.verified salesRows[0] (List.getElem_mem _) 0).mp verified
  have refused : salesSchema.convert 1 (.positional .tuple salesRows[1]) ≠ .ok salesRows[1] := by
    intro impossible
    cases impossible
  have second := stored.converted salesRows[1] (List.getElem_mem _) 1 salesRows[1]
  refine ⟨stored, fine.1, fun fit => refused (second.mpr ⟨fit, rfl⟩), ?_⟩
  exact alone.loads firstSale_within (by simpa using fine) freshDisk .fresh rfl

/-! ## Divisions into batches -/

section Divisions

variable {batchSize : Nat} {frame : Frame} {hint : Option Frame.Hint} {disk after : Disk}
  {engine next : Engine}

theorem fromFrame_cases {outcome : Except Failure Table}
    (run : runWith Engine.call (fromFrame batchSize frame hint) disk engine =
      ((outcome, after), next)) :
    (∃ error, frame.schema hint = .error error ∧ outcome = .error (.frame error)) ∨
      ∃ schema, frame.schema hint = .ok schema ∧
        ((∃ error, frame.records = .error error ∧ outcome = .error (.frame error)) ∨
          ∃ records, frame.records = .ok records ∧
            runWith Engine.call (loadElements (.ofSchema schema true) batchSize records) disk
              engine = ((outcome, after), next)) := by
  rw [runWith_fromFrame] at run
  cases mapped : frame.schema hint with
  | error error =>
    rw [mapped] at run
    cases run
    exact .inl ⟨error, rfl, rfl⟩
  | ok schema =>
    refine .inr ⟨schema, rfl, ?_⟩
    cases read : frame.records with
    | error error =>
      rw [mapped, read] at run
      cases run
      exact .inl ⟨error, rfl, rfl⟩
    | ok records =>
      rw [mapped, read] at run
      exact .inr ⟨records, rfl, run⟩

theorem unread_of_fromFrame (error : ValidationError)
    (run : runWith Engine.call (fromFrame batchSize frame hint) disk engine =
      ((.error (.frame (.cell error)), after), next)) :
    frame.records = .error (.cell error) := by
  rcases fromFrame_cases run with ⟨cause, mapped, same⟩ | ⟨schema, _, unread | loaded⟩
  · cases same
    have known := Frame.schema_yields frame hint
    rw [mapped] at known
    exact absurd rfl (known error)
  · obtain ⟨cause, read, same⟩ := unread
    cases same
    exact read
  · obtain ⟨records, _, run⟩ := loaded
    have own : ∀ reason, Failure.batch reason ≠ .frame (.cell error) :=
      fun _ => Failure.noConfusion
    obtain ⟨_, _, _, _, _, impossible, _⟩ :=
      refused_of_batchOfElements _ own (failed_of_loaded _ own run)
    cases impossible

theorem refused_of_fromFrame (error : ValidationError)
    (run : runWith Engine.call (fromFrame batchSize frame hint) disk engine =
      ((.error (.validation error), after), next)) :
    ∃ schema records record, frame.schema hint = .ok schema ∧ frame.records = .ok records ∧
      records[error.record]? = some record ∧
      (Converter.ofSchema schema true).convert error.record record = .error error ∧
      ∀ earlier < error.record, ∀ other, records[earlier]? = some other →
        ∃ row, (Converter.ofSchema schema true).convert earlier other = .ok row := by
  rcases fromFrame_cases run with ⟨_, _, impossible⟩ | ⟨schema, mapped, unread | loaded⟩
  · cases impossible
  · obtain ⟨_, _, impossible⟩ := unread
    cases impossible
  · obtain ⟨records, read, run⟩ := loaded
    obtain ⟨record, found, refused, before⟩ := refused_of_loaded error run
    exact ⟨schema, records, record, mapped, read, found, refused, before⟩

/-- A row that does not verify or convert is the first of its kind in a frame all of whose
rows can be read, and its number in the frame is reported. -/
theorem refused_row (error : ValidationError)
    (run : runWith Engine.call (fromFrame batchSize frame hint) disk engine =
      ((.error (.validation error), after), next)) :
    ∃ schema records cells row, frame.schema hint = .ok schema ∧ frame.records = .ok records ∧
      frame.batches.flatten[error.record]? = some cells ∧
      Frame.readRow error.record frame.columns cells = .ok row ∧
      (Converter.ofSchema schema true).convert error.record (.positional .tuple row) =
        .error error ∧
      ∀ earlier < error.record, ∀ others, frame.batches.flatten[earlier]? = some others →
        ∃ other stored, Frame.readRow earlier frame.columns others = .ok other ∧
          (Converter.ofSchema schema true).convert earlier (.positional .tuple other) =
            .ok stored := by
  obtain ⟨schema, records, record, mapped, read, found, refused, before⟩ :=
    refused_of_fromFrame error run
  have count := Frame.records_length frame records read
  have inside : error.record < frame.batches.flatten.length := by
    rw [← count]
    exact (List.getElem?_eq_some_iff.mp found).1
  have cellsAt := List.getElem?_eq_getElem inside
  obtain ⟨row, rowAt, readRow⟩ := Frame.record_at frame records read error.record _ cellsAt
  rw [found] at rowAt
  cases rowAt
  refine ⟨schema, records, _, row, mapped, read, cellsAt, readRow, refused, ?_⟩
  intro earlier less others othersAt
  obtain ⟨other, otherAt, readOther⟩ := Frame.record_at frame records read earlier others othersAt
  obtain ⟨stored, fine⟩ := before earlier less _ otherAt
  exact ⟨other, stored, readOther, fine⟩

theorem collected_of_fromFrame (table : Table)
    (run : runWith Engine.call (fromFrame batchSize frame hint) disk engine =
      ((.ok table, after), next)) :
    frame.schema hint = .ok table.schema ∧ ∃ rows, ∀ later someDisk,
      (runWith Engine.call (collect table.id) someDisk (next.after later)).1.1 = .ok rows := by
  rcases fromFrame_cases run with ⟨_, _, impossible⟩ | ⟨schema, mapped, unread | loaded⟩
  · cases impossible
  · obtain ⟨_, _, impossible⟩ := unread
    cases impossible
  · obtain ⟨records, _, run⟩ := loaded
    obtain ⟨same, rows, stays⟩ := collected_of_loaded run
    rw [same]
    exact ⟨mapped, rows, stays⟩

end Divisions

/-- How the rows of a frame are divided into batches changes nothing: the same table is
made or the same failure reported, and the disk and the engine are left the same.  The
rows that are stored stay, and an error about a row carries its number in the whole frame:
it is the first that cannot be read or, once all are read, the first that is refused. -/
theorem frame_division_invisible (frame other : Frame) (batchSize : Nat)
    (hint : Option Frame.Hint) (disk : Disk) (engine : Engine)
    (columns : frame.columns = other.columns)
    (rows : frame.batches.flatten = other.batches.flatten) :
    let outcome := runWith Engine.call (fromFrame batchSize frame hint) disk engine
    runWith Engine.call (fromFrame batchSize other hint) disk engine = outcome ∧
    (∀ table, outcome.1.1 = .ok table →
      frame.schema hint = .ok table.schema ∧ ∃ stored, ∀ later someDisk,
        (runWith Engine.call (collect table.id) someDisk (outcome.2.after later)).1.1 =
          .ok stored) ∧
    (∀ error, outcome.1.1 = .error (.frame (.cell error)) →
      ∃ cells, frame.batches.flatten[error.record]? = some cells ∧
        Frame.readRow error.record frame.columns cells = .error (.cell error) ∧
        ∀ earlier < error.record, ∀ others, frame.batches.flatten[earlier]? = some others →
          ∃ row, Frame.readRow earlier frame.columns others = .ok row) ∧
    ∀ error, outcome.1.1 = .error (.validation error) →
      ∃ schema records cells row, frame.schema hint = .ok schema ∧
        frame.records = .ok records ∧ frame.batches.flatten[error.record]? = some cells ∧
        Frame.readRow error.record frame.columns cells = .ok row ∧
        (Converter.ofSchema schema true).convert error.record (.positional .tuple row) =
          .error error ∧
        ∀ earlier < error.record, ∀ others, frame.batches.flatten[earlier]? = some others →
          ∃ before stored, Frame.readRow earlier frame.columns others = .ok before ∧
            (Converter.ofSchema schema true).convert earlier (.positional .tuple before) =
              .ok stored := by
  intro outcome
  obtain ⟨schemas, records⟩ := Frame.same_of_flatten frame other columns rows
  have whole : ∀ result, outcome.1.1 = result →
      runWith Engine.call (fromFrame batchSize frame hint) disk engine =
        ((result, outcome.1.2), outcome.2) := by
    rintro _ rfl
    rfl
  refine ⟨?_, ?_, ?_, ?_⟩
  · rw [runWith_fromFrame, ← schemas hint, ← records, ← runWith_fromFrame]
  · intro table made
    exact collected_of_fromFrame table (whole _ made)
  · intro error failed
    exact Frame.unreadable_row frame error (unread_of_fromFrame error (whole _ failed))
  · intro error failed
    exact refused_row error (whole _ failed)

def dateFrame (batches : List (List (List Frame.Cell))) : Frame where
  columns := [("day", .date32, true)]
  batches

theorem late_date_numbered :
    let lateDate : ValidationError :=
      { record := 2, field := "day", expected := "DATE", actual := "out of range value" }
    let apart := dateFrame [[[.integer 0]], [], [[.null], [.integer 2147483647]]]
    let joined := dateFrame [[[.integer 0], [.null], [.integer 2147483647]]]
    (runWith Engine.call (fromFrame 1000 apart none) freshDisk .fresh).1.1 =
        .error (.frame (.cell lateDate)) ∧
      runWith Engine.call (fromFrame 1000 joined none) freshDisk .fresh =
        runWith Engine.call (fromFrame 1000 apart none) freshDisk .fresh ∧
      ∃ cells, apart.batches.flatten[2]? = some cells ∧
        Frame.readRow 2 apart.columns cells = .error (.cell lateDate) := by
  intro lateDate apart joined
  have failed : (runWith Engine.call (fromFrame 1000 apart none) freshDisk .fresh).1.1 =
      .error (.frame (.cell lateDate)) := by
    rw [runWith_fromFrame]
    rfl
  obtain ⟨same, _, numbered, _⟩ :=
    frame_division_invisible apart joined 1000 none freshDisk .fresh rfl rfl
  obtain ⟨cells, found, unread, _⟩ := numbered lateDate failed
  exact ⟨failed, same, cells, found, unread⟩

end Session

end TableLoad
