import TableLoad.Proofs.Batch.Values
import TableLoad.Proofs.Frame.Reading

/-!
# Rows of frames

The batches of a frame are read as if they were one.  Every error of reading names the
first row that cannot be read, counted over the whole frame, and every time that is read
is on the clock.
-/

set_option autoImplicit false

namespace TableLoad.Frame

/-! ## Batches -/

def readRecord (columns : List Column) (index : Nat) (cells : List Cell) :
    Except Error Record := do
  let row ← readRow index columns cells
  return .positional .tuple row

theorem readBatch_eq (columns : List Column) (first : Nat) (rows : List (List Cell)) :
    readBatch columns first rows = mapEachFrom (readRecord columns) first rows := by
  induction rows generalizing first with
  | nil => rfl
  | cons cells rest ih =>
    rw [readBatch, mapEachFrom, readRecord, ← ih (first + 1)]
    cases readRow first columns cells <;> rfl

/-- Where a batch ends does not matter. -/
theorem readBatches_eq (columns : List Column) (first : Nat) (batches : List (List (List Cell))) :
    readBatches columns first batches = readBatch columns first batches.flatten := by
  induction batches generalizing first with
  | nil => rfl
  | cons batch rest ih =>
    rw [readBatches, List.flatten_cons, ih (first + batch.length), readBatch_eq, readBatch_eq,
      readBatch_eq, mapEachFrom_append]

theorem records_eq (frame : Frame) :
    frame.records = mapEachFrom (readRecord frame.columns) 0 frame.batches.flatten := by
  rw [Frame.records, readBatches_eq, readBatch_eq]

theorem records_length (frame : Frame) (records : List Record)
    (read : frame.records = .ok records) : records.length = frame.batches.flatten.length := by
  rw [records_eq] at read
  exact (mapEachFrom_related _ (fun _ _ => True) _ (fun _ _ _ _ _ => trivial) 0 records
    read).length_eq.symm

theorem record_at (frame : Frame) (records : List Record) (read : frame.records = .ok records)
    (place : Nat) (cells : List Cell) (found : frame.batches.flatten[place]? = some cells) :
    ∃ row, records[place]? = some (.positional .tuple row) ∧
      readRow place frame.columns cells = .ok row := by
  rw [records_eq] at read
  obtain ⟨record, recordAt, made⟩ := mapEachFrom_at _ _ 0 records read place cells found
  rw [Nat.zero_add, readRecord, bind_eq_ok_iff] at made
  obtain ⟨row, unwrapped, same⟩ := made
  cases same
  exact ⟨row, recordAt, unwrapped⟩

theorem same_of_flatten (frame other : Frame) (columns : frame.columns = other.columns)
    (rows : frame.batches.flatten = other.batches.flatten) :
    (∀ hint, frame.schema hint = other.schema hint) ∧ frame.records = other.records := by
  refine ⟨fun hint => ?_, ?_⟩
  · rw [Frame.schema, Frame.schema, columns]
  · rw [records_eq, records_eq, columns, rows]

/-! ## Numbers of rows -/

def Names (record : Nat) (error : Error) : Prop :=
  ∀ cause, error = .cell cause → cause.record = record

theorem names_of_refuses (position : Position) (error : Error)
    (refused : position.Refuses error) : Names position.record error := by
  obtain ⟨expected, rfl⟩ := refused
  rintro _ ⟨⟩
  rfl

theorem names_unsupported (record : Nat) (field : String) (type : ColumnType) :
    Names record (.unsupported field type) :=
  fun _ impossible => Error.noConfusion impossible

/-- No time in the value is off the clock. -/
def Timely (value : Value) : Prop :=
  Batch.offClock? value = none

theorem timely_items (items : List Value) (timely : ∀ item ∈ items, Timely item) :
    Batch.itemsOffClock? items = none := by
  induction items with
  | nil => rfl
  | cons item rest ih =>
    rw [Batch.itemsOffClock?, timely item List.mem_cons_self,
      ih fun other member => timely other (List.mem_cons_of_mem item member)]
    rfl

theorem timely_pairs (keys values : List Value) (timelyKeys : ∀ key ∈ keys, Timely key)
    (timelyValues : ∀ value ∈ values, Timely value) : Timely (.map (keys.zip values)) := by
  show Batch.pairsOffClock? (keys.zip values) = none
  induction keys generalizing values with
  | nil => rfl
  | cons key keys ih =>
    cases values with
    | nil => rfl
    | cons value values =>
      rw [List.zip_cons_cons, Batch.pairsOffClock?, timelyKeys key List.mem_cons_self,
        timelyValues value List.mem_cons_self,
        ih values (fun other member => timelyKeys other (List.mem_cons_of_mem key member))
          fun other member => timelyValues other (List.mem_cons_of_mem value member)]
      rfl

theorem isOnClock_of_timeOf {unit : TimeUnit} {count : Int} {t : Calendar.TimeOfDay}
    (made : timeOf? unit count = some t) : t.IsOnClock := by
  unfold timeOf? at made
  dsimp only at made
  split at made
  · cases made
  · exact Calendar.TimeOfDay.isOnClock_of_made made

section Numbers

variable (position : Position)

theorem numbered_inRange {α : Type} (expected : String) (found? : Option α) (make : α → Value)
    (timely : ∀ found, found? = some found → Timely (make found)) :
    Yields (Names position.record) Timely (position.inRange expected (found?.map make)) := by
  cases found? with
  | none => exact names_of_refuses position _ ⟨expected, rfl⟩
  | some found => exact timely found rfl

theorem numbered_leaf (type : ColumnType) (cell : Cell) :
    Yields (Names position.record) Timely (readLeaf position type cell) := by
  cases type with
  | decimal128 precision scale =>
    cases cell with
    | integer n =>
      simp only [readLeaf]
      cases scale? scale with
      | none => exact names_unsupported _ _ _
      | some scale => exact numbered_inRange position _ _ _ fun _ _ => rfl
    | _ => exact names_unsupported _ _ _
  | time32 unit | time64 unit =>
    cases cell with
    | integer n =>
      exact numbered_inRange position _ _ _ fun _ made => if_pos (isOnClock_of_timeOf made)
    | _ => exact names_unsupported _ _ _
  | timestamp unit zone =>
    cases cell with
    | integer n =>
      exact numbered_inRange position _ _ _ fun _ made =>
        if_pos (Calendar.Timestamp.isOnClock_of_made made)
    | _ => exact names_unsupported _ _ _
  | _ =>
    cases cell <;>
      first
      | exact rfl
      | exact names_unsupported _ _ _
      | exact numbered_inRange position _ _ _ fun _ _ => rfl

theorem numbered_single (type : ColumnType) (cell : Cell) :
    Yields (Names position.record) Timely
      (if isNullCell type cell then .ok .null else readLeaf position type cell) := by
  cases isNullCell type cell with
  | true => exact rfl
  | false => exact numbered_leaf position type cell

mutual

theorem numbered_cell (type : ColumnType) (cell : Cell) :
    Yields (Names position.record) Timely (readCell position type cell) := by
  cases type with
  | list _ element _ | largeList _ element _ =>
    cases cell with
    | list items =>
      rw [readCell]
      refine yields_bind (yields_mapM items fun item _ => numbered_cell element item) ?_
      exact fun results timely => timely_items results timely
    | _ => exact numbered_single position _ _
  | map entries =>
    cases entries with
    | struct parts =>
      match parts with
      | [(_, key, _), (_, value, _)] =>
        cases cell with
        | map pairs =>
          -- All keys are read before the first value.
          rw [readCell]
          refine yields_bind (yields_mapM pairs fun pair _ => numbered_cell key pair.1) ?_
          intro keys timelyKeys
          refine yields_bind (yields_mapM pairs fun pair _ => numbered_cell value pair.2) ?_
          exact fun values timelyValues => timely_pairs keys values timelyKeys timelyValues
        | _ => exact numbered_single position _ _
      | [] | [(_, _, _)] | (_, _, _) :: (_, _, _) :: _ :: _ => exact numbered_single position _ _
    | _ => exact numbered_single position _ _
  | struct parts =>
    cases cell with
    | struct cells =>
      rw [readCell]
      refine yields_bind (numbered_cells parts cells) ?_
      exact fun results timely => timely
    | _ => exact numbered_single position _ _
  | _ => exact numbered_single position _ _

theorem numbered_cells : (parts : List (String × ColumnType × Bool)) → (cells : List Cell) →
    Yields (Names position.record) (fun values => Batch.itemsOffClock? values = none)
      (readCells position parts cells)
  | [], _ => rfl
  | (_, _, _) :: _, [] => rfl
  | (_, type, _) :: parts, cell :: cells => by
    rw [readCells]
    refine yields_bind (numbered_cell type cell) fun value first => ?_
    refine yields_bind (numbered_cells parts cells) fun values later => ?_
    exact Option.or_eq_none_iff.mpr ⟨first, later⟩

end

end Numbers

theorem numbered_row (record : Nat) (columns : List Column) (cells : List Cell) :
    Yields (Names record) (fun row => Batch.itemsOffClock? row = none)
      (readRow record columns cells) := by
  induction columns generalizing cells with
  | nil => exact rfl
  | cons column columns ih =>
    cases cells with
    | nil => exact rfl
    | cons cell cells =>
      rw [readRow]
      refine yields_bind (numbered_cell { record, field := column.1 } column.2.1 cell) ?_
      intro value first
      refine yields_bind (ih cells) fun values later => ?_
      exact Option.or_eq_none_iff.mpr ⟨first, later⟩

theorem numbered_record (columns : List Column) (index : Nat) (cells : List Cell) :
    Yields (Names index) (fun record => Batch.itemsOffClock? record.values = none)
      (readRecord columns index cells) := by
  rw [readRecord]
  exact yields_bind (numbered_row index columns cells) fun row timely => timely

theorem timely_records (frame : Frame) (records : List Record)
    (read : frame.records = .ok records) :
    ∀ record ∈ records, Batch.itemsOffClock? record.values = none := by
  have each : ∀ cells ∈ frame.batches.flatten, ∀ index,
      Yields (fun _ => True) (fun record => Batch.itemsOffClock? record.values = none)
        (readRecord frame.columns index cells) := fun cells _ index =>
    yields_mono (fun _ _ => trivial) (fun _ timely => timely)
      (numbered_record frame.columns index cells)
  have all := yields_mapEachFrom _ each 0
  rw [← records_eq, read] at all
  exact all

theorem unreadable_row (frame : Frame) (error : ValidationError)
    (stopped : frame.records = .error (.cell error)) :
    ∃ cells, frame.batches.flatten[error.record]? = some cells ∧
      readRow error.record frame.columns cells = .error (.cell error) ∧
      ∀ earlier < error.record, ∀ others, frame.batches.flatten[earlier]? = some others →
        ∃ row, readRow earlier frame.columns others = .ok row := by
  rw [records_eq] at stopped
  obtain ⟨place, cells, found, failed, before⟩ := mapEachFrom_stops _ _ 0 _ stopped
  rw [Nat.zero_add] at failed
  have named := numbered_record frame.columns place cells
  rw [failed] at named
  cases (named error rfl : error.record = place)
  refine ⟨cells, found, ?_, ?_⟩
  · rw [readRecord, bind_eq_error_iff] at failed
    rcases failed with unread | ⟨_, _, impossible⟩
    · exact unread
    · cases impossible
  · intro earlier less others othersAt
    obtain ⟨record, read⟩ := before earlier less others othersAt
    rw [Nat.zero_add, readRecord, bind_eq_ok_iff] at read
    obtain ⟨row, unwrapped, _⟩ := read
    exact ⟨row, unwrapped⟩

/-! ## Rows of frames that map -/

/-- Every row has one cell for each column, of the column's type. -/
def WellFormed (frame : Frame) : Prop :=
  ∀ cells ∈ frame.batches.flatten, HoldsParts frame.columns cells

def OutOfRange (error : Error) : Prop :=
  ∃ position : Position, position.Refuses error

theorem read_row (record : Nat) : {columns : List Column} → {fields : List Field} →
    MappedParts columns fields → (cells : List Cell) → HoldsParts columns cells →
      Yields OutOfRange (EverywhereIn Matches fields) (readRow record columns cells)
  | _, _, .nil, [], _ => trivial
  | _, _, .cons name nullable first later, cell :: cells, holds => by
    have head := read_mapped { record, field := name } first cell holds.1
    rw [readRow]
    refine yields_bind (yields_mono (fun _ refused => ⟨_, refused⟩) (fun _ good => good) head) ?_
    intro value good
    refine yields_bind (read_row record later cells holds.2) fun values others => ?_
    exact ⟨everywhere_matches_withNullable _ nullable value good, others⟩

theorem mapped_of_schema (frame : Frame) (schema : Schema)
    (mapped : frame.schema none = .ok schema) : MappedParts frame.columns schema.fields := by
  rw [Frame.schema, bind_eq_ok_iff] at mapped
  obtain ⟨whole, done, same⟩ := mapped
  cases same
  exact mapped_of_mapColumns frame.columns _ done

/-- A frame that maps is read, as records of values of the kinds of their columns, or
some number in it is out of range. -/
theorem read_records (frame : Frame) (schema : Schema) (mapped : frame.schema none = .ok schema)
    (wellFormed : frame.WellFormed) :
    Yields OutOfRange
      (fun records => ∃ rows : List Row, records = rows.map (.positional .tuple) ∧
        ∀ row ∈ rows, EverywhereIn Matches schema.fields row)
      frame.records := by
  have columns := mapped_of_schema frame schema mapped
  rw [records_eq]
  have each : ∀ cells ∈ frame.batches.flatten, ∀ index,
      Yields OutOfRange
        (fun record => record = .positional .tuple record.values ∧
          EverywhereIn Matches schema.fields record.values)
        (readRecord frame.columns index cells) := by
    intro cells member index
    rw [readRecord]
    refine yields_bind (read_row index columns cells (wellFormed cells member)) ?_
    exact fun row good => ⟨rfl, good⟩
  refine yields_mono (fun _ refused => refused) ?_ (yields_mapEachFrom _ each 0)
  intro records good
  refine ⟨records.map Record.values, ?_, ?_⟩
  · rw [List.map_map]
    exact (List.map_id' records).symm.trans
      (List.map_congr_left fun record member => (good record member).1)
  · intro row member
    obtain ⟨record, inside, rfl⟩ := List.mem_map.mp member
    exact (good record inside).2

end TableLoad.Frame
