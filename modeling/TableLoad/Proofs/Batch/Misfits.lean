import TableLoad.Proofs.Batch.Whole

/-!
# Rows that are not taken

A writer takes rows of any values.  A reader of what was written takes all of them
exactly if every value conforms to its column and no time in it is off the clock, and
otherwise tells the first value for which that fails, in the first such row, however the
rows were divided into frames.
-/

set_option autoImplicit false

namespace TableLoad.Batch

open Value

/-! ## The first misfit -/

/-- The value in a column is the first of the row that the columns do not take. -/
def MisfitOf (fields : List Field) (row : Row) (field : Field) (value : Value) : Prop :=
  ∃ passed later stored remaining,
    fields = passed ++ field :: later ∧ row = stored ++ value :: remaining ∧
      RowFits passed stored ∧ fits field.2 value = false

/-- All rows before the one at an index are taken, and it has a misfit. -/
def FirstMisfit (fields : List Field) (rows : List Row) (index : Nat) (field : Field)
    (value : Value) : Prop :=
  ∃ before row after,
    rows = before ++ row :: after ∧ before.length = index ∧
      (∀ earlier ∈ before, RowFits fields earlier) ∧ MisfitOf fields row field value

theorem misfit_eq_some_iff (fields : List Field) (row : Row) (field : Field) (value : Value) :
    misfit? fields row = some (field, value) ↔ MisfitOf fields row field value := by
  constructor
  · intro found
    induction fields generalizing row with
    | nil => simp [misfit?] at found
    | cons head fields ih =>
      cases row with
      | nil => simp [misfit?] at found
      | cons item row =>
        cases fit : fits head.2 item with
        | false =>
          simp only [misfit?, fit, Bool.false_eq_true, if_false, Option.some.injEq,
            Prod.mk.injEq] at found
          obtain ⟨rfl, rfl⟩ := found
          exact ⟨[], fields, [], row, rfl, rfl, .nil, fit⟩
        | true =>
          simp only [misfit?, fit, if_true] at found
          obtain ⟨passed, later, stored, remaining, rfl, rfl, good, bad⟩ := ih row found
          exact ⟨head :: passed, later, item :: stored, remaining, rfl, rfl, .cons fit good, bad⟩
  · rintro ⟨passed, later, stored, remaining, rfl, rfl, good, bad⟩
    induction good with
    | nil => simp [misfit?, bad]
    | cons fit _ ih => simpa [misfit?, fit] using ih

theorem not_firstMisfit_nil (fields : List Field) (index : Nat) (field : Field) (value : Value) :
    ¬ FirstMisfit fields [] index field value := by
  rintro ⟨before, row, after, split, _⟩
  simp at split

theorem firstMisfit_cons (fields : List Field) (row : Row) (rest : List Row) (index : Nat)
    (field : Field) (value : Value) :
    FirstMisfit fields (row :: rest) index field value ↔
      (index = 0 ∧ MisfitOf fields row field value) ∨
        ∃ later, index = later + 1 ∧ RowFits fields row ∧
          FirstMisfit fields rest later field value := by
  constructor
  · rintro ⟨before, other, after, split, rfl, earlier, misfit⟩
    cases before with
    | nil =>
      obtain ⟨rfl, rfl⟩ := List.cons.inj split
      exact .inl ⟨rfl, misfit⟩
    | cons first before =>
      obtain ⟨rfl, rfl⟩ := List.cons.inj split
      have good := earlier row List.mem_cons_self
      refine .inr ⟨before.length, rfl, good, before, other, after, rfl, rfl, ?_, misfit⟩
      intro each member
      exact earlier each (List.mem_cons_of_mem row member)
  · rintro (⟨rfl, misfit⟩ | ⟨_, rfl, good, before, other, after, rfl, rfl, earlier, misfit⟩)
    · exact ⟨[], row, rest, rfl, rfl, by simp, misfit⟩
    · refine ⟨row :: before, other, after, rfl, rfl, ?_, misfit⟩
      intro each member
      rcases List.mem_cons.mp member with rfl | inside
      · exact good
      · exact earlier each inside

theorem firstMisfit_eq_some_iff (fields : List Field) (start : Nat) (rows : List Row)
    (widths : ∀ row ∈ rows, row.length = fields.length) (found : Nat) (field : Field)
    (value : Value) :
    firstMisfit? fields start rows = some (found, field, value) ↔
      ∃ index, found = start + index ∧ FirstMisfit fields rows index field value := by
  induction rows generalizing start with
  | nil => simp [firstMisfit?, not_firstMisfit_nil]
  | cons row rest ih =>
    have later := ih (start + 1) fun other member => widths other (List.mem_cons_of_mem row member)
    have good := misfit_eq_none fields row (widths row List.mem_cons_self)
    have bad := misfit_eq_some_iff fields row field value
    simp only [firstMisfit?, firstMisfit_cons, ← good, ← bad]
    cases search : misfit? fields row with
    | none =>
      simp only [later]
      constructor
      · rintro ⟨index, rfl, misfit⟩
        exact ⟨index + 1, by omega, .inr ⟨index, rfl, trivial, misfit⟩⟩
      · rintro ⟨_, rfl, ⟨_, impossible⟩ | ⟨index, rfl, _, misfit⟩⟩
        · cases impossible
        · exact ⟨index, by omega, misfit⟩
    | some misfit =>
      simp only [Option.some.injEq, Prod.mk.injEq]
      constructor
      · rintro ⟨rfl, rfl⟩
        exact ⟨0, rfl, .inl ⟨rfl, rfl⟩⟩
      · rintro ⟨_, rfl, ⟨rfl, same⟩ | ⟨_, _, impossible, _⟩⟩
        · exact ⟨rfl, same⟩
        · cases impossible

/-! ## Frames of rows without columns -/

/-- The rows that a reader finds in a frame of rows without values: their number is
all that the frame tells. -/
def counted (group : List Row) : List Row :=
  List.replicate (group.length % 256 ^ 4) []

theorem flatMap_encodeRow_replicate (count : Nat) :
    (List.replicate count ([] : Row)).flatMap encodeRow = [] := by
  simp [encodeRow, encodeItems]

theorem fitting_counted (group : List Row) : Fitting (counted group) := by
  have bound : group.length % 256 ^ 4 < 256 ^ 4 := Nat.mod_lt _ (by decide)
  constructor
  · rw [counted, List.length_replicate]
    exact bound
  · rw [counted, flatMap_encodeRow_replicate]
    decide

theorem frameOf_counted (group : List Row) (blank : ∀ row ∈ group, row = []) :
    frameOf group = frameOf (counted group) := by
  have content : group.flatMap encodeRow = [] := by
    rw [List.eq_replicate_of_mem blank]
    exact flatMap_encodeRow_replicate group.length
  have number : lengthBytes (group.length % 256 ^ 4) = lengthBytes group.length :=
    bigEndian_mod 4 group.length
  rw [counted, frameOf, frameOf, content, flatMap_encodeRow_replicate, List.length_replicate,
    frame, frame, number]

/-- Batches of rows without columns are read whatever the number of rows. -/
theorem deserialize_blank (schema : Schema) (groups : List (List Row))
    (levels : schema.openLevels ≤ DataType.maxOpen) (size : schema.header.length ≤ maxFrameBytes)
    (columns : schema.fields = []) (blank : ∀ group ∈ groups, ∀ row ∈ group, row = []) :
    ∃ found, deserialize (batchOf schema groups) schema = .ok found := by
  have frames : groups.flatMap frameOf = (groups.map counted).flatMap frameOf := by
    rw [List.flatMap_map]
    apply List.flatMap_congr
    intro group member
    exact frameOf_counted group (blank group member)
  have fitting : ∀ group ∈ groups.map counted, Fitting group := by
    intro group member
    obtain ⟨original, _, rfl⟩ := List.mem_map.mp member
    exact fitting_counted original
  have empty : ∀ row ∈ (groups.map counted).flatten, row = [] := by
    intro row member
    obtain ⟨group, inside, found⟩ := List.mem_flatten.mp member
    obtain ⟨original, _, rfl⟩ := List.mem_map.mp inside
    exact List.eq_of_mem_replicate found
  have storable : ∀ row ∈ (groups.map counted).flatten, Storable schema.fields row := by
    intro row member
    rw [empty row member, columns]
    exact ⟨rfl, rfl, Nat.zero_le _⟩
  have conform : ∀ row ∈ (groups.map counted).flatten, RowFits schema.fields row := by
    intro row member
    rw [empty row member, columns]
    exact .nil
  have read := deserialize_written schema (groups.map counted) levels size fitting storable
  rw [(firstMisfit_eq_none schema.fields 0 _ fun row member => (storable row member).width).mpr
    conform] at read
  rw [batchOf, frames]
  exact ⟨_, read⟩

/-! ## Judging rows -/

/-- The outcome of reading rows: they are taken exactly if they all conform and no time in
them is off the clock, and otherwise the first misfit decides what is reported: a time in
it, or its row, its column and what it is. -/
structure Judged (fields : List Field) (rows : List Row)
    (outcome : Except Corruption (List Row)) : Prop where
  accepted : (∃ found, outcome = .ok found) ↔
    (∀ row ∈ rows, RowConforms fields row) ∧ rowsOffClock? rows = none
  refused : ¬ ((∀ row ∈ rows, RowConforms fields row) ∧ rowsOffClock? rows = none) →
    ∃ index field value, FirstMisfit fields rows index field value
  named : ∀ index field value, FirstMisfit fields rows index field value →
    outcome = .error ((offClock? value).getD
      (.nonConforming index field.1 value.describe field.2))

theorem judged_of_search {fields : List Field} {rows found : List Row}
    {outcome : Except Corruption (List Row)}
    (widths : ∀ row ∈ rows, row.length = fields.length)
    (search : outcome = match firstMisfit? fields 0 rows with
      | none => .ok found
      | some (index, misfit) => .error (misfitIn index misfit)) :
    Judged fields rows outcome := by
  have clean := (firstMisfit_eq_none fields 0 rows widths).trans (rowsFit_iff fields rows)
  have hit := firstMisfit_eq_some_iff fields 0 rows widths
  cases bad : firstMisfit? fields 0 rows with
  | none =>
    have fine := clean.mp bad
    rw [bad] at search
    constructor
    · exact ⟨fun _ => fine, fun _ => ⟨found, search⟩⟩
    · intro refused
      exact absurd fine refused
    · intro index field value misfit
      have other := (hit (0 + index) field value).mpr ⟨index, rfl, misfit⟩
      rw [bad] at other
      cases other
  | some first =>
    obtain ⟨number, column, content⟩ := first
    have refused : ¬ ((∀ row ∈ rows, RowConforms fields row) ∧ rowsOffClock? rows = none) := by
      intro fine
      rw [clean.mpr fine] at bad
      cases bad
    rw [bad] at search
    constructor
    · constructor
      · rintro ⟨_, taken⟩
        rw [search] at taken
        cases taken
      · intro fine
        exact absurd fine refused
    · intro _
      obtain ⟨index, _, misfit⟩ := (hit number column content).mp bad
      exact ⟨index, column, content, misfit⟩
    · intro index field value misfit
      have same := (hit (0 + index) field value).mpr ⟨index, rfl, misfit⟩
      rw [bad] at same
      cases same
      rw [search, Nat.zero_add]
      rfl

theorem count_le_bytes (rows : List Row) (some : ∀ row ∈ rows, row ≠ []) :
    rows.length ≤ (rows.flatMap encodeRow).length := by
  induction rows with
  | nil => exact Nat.le_refl 0
  | cons row rest ih =>
    have later := ih fun other member => some other (List.mem_cons_of_mem row member)
    have values : 1 ≤ row.length := List.length_pos_iff.mpr (some row List.mem_cons_self)
    have first := items_le_bytes row
    rw [List.flatMap_cons, List.length_append, List.length_cons, encodeRow]
    omega

theorem short_of_fit (groups : List (List Row))
    (fit : ∀ group ∈ groups, (group.flatMap encodeRow).length + 4 ≤ maxFrameBytes) :
    ∀ row ∈ groups.flatten, itemsTooLong? row = none := by
  have limit : maxFrameBytes < 2 ^ 32 := by decide
  intro row member
  obtain ⟨group, inside, found⟩ := List.mem_flatten.mp member
  have bytes := fit group inside
  have part := row_le group row found
  rw [encodeRow] at part
  exact itemsTooLong_of_small row (by omega)

theorem judged_batch (schema : Schema) (groups : List (List Row))
    (levels : schema.openLevels ≤ DataType.maxOpen) (size : schema.header.length ≤ maxFrameBytes)
    (widths : ∀ row ∈ groups.flatten, row.length = schema.size)
    (shallow : ∀ row ∈ groups.flatten, itemsDepth row ≤ maxNesting)
    (fit : ∀ group ∈ groups, (group.flatMap encodeRow).length + 4 ≤ maxFrameBytes) :
    Judged schema.fields groups.flatten (deserialize (batchOf schema groups) schema) := by
  by_cases columns : schema.fields = []
  · have empty : ∀ row ∈ groups.flatten, row = [] := by
      intro row member
      have none := widths row member
      rw [Schema.size, columns] at none
      exact List.length_eq_zero_iff.mp none
    have conform : ∀ row ∈ groups.flatten, RowFits schema.fields row := by
      intro row member
      rw [empty row member, columns]
      exact .nil
    have search := (firstMisfit_eq_none schema.fields 0 groups.flatten widths).mpr conform
    obtain ⟨found, read⟩ := deserialize_blank schema groups levels size columns
      fun group member row inside => empty row (List.mem_flatten.mpr ⟨group, member, inside⟩)
    apply judged_of_search widths
    rw [search, read]
  · have fitting : ∀ group ∈ groups, Fitting group := by
      intro group member
      have some : ∀ row ∈ group, row ≠ [] := by
        rintro row inside rfl
        have none := widths [] (List.mem_flatten.mpr ⟨group, member, inside⟩)
        exact columns (List.length_eq_zero_iff.mp none.symm)
      have limit : maxFrameBytes < 2 ^ 32 := by decide
      have count := count_le_bytes group some
      have bytes := fit group member
      exact ⟨by omega, bytes⟩
    have storable : ∀ row ∈ groups.flatten, Storable schema.fields row := by
      intro row member
      exact ⟨widths row member, short_of_fit groups fit row member, shallow row member⟩
    apply judged_of_search widths
    exact deserialize_written schema groups levels size fitting storable

/-- Reading what was written for rows of any values succeeds exactly if every value
conforms to its column and no time in it is off the clock.  Otherwise the first value of
which that is not true, in the first such row of the batch, is reported: its row, its
column and what it is, unless a time in it was refused before.  The same holds for every
other way to divide the rows into frames. -/
theorem written_rows_judged {ε : Type} (wrap : Error → ε) (schema : Schema) (batchSize : Nat)
    (rows : List Row) (levels : schema.openLevels ≤ DataType.maxOpen)
    (size : schema.header.length ≤ maxFrameBytes)
    (widths : ∀ row ∈ rows, row.length = schema.size)
    (shallow : ∀ row ∈ rows, itemsDepth row ≤ maxNesting)
    (fit : ∀ group ∈ frameGroups batchSize rows,
      (group.flatMap encodeRow).length + 4 ≤ maxFrameBytes) :
    (∃ bytes, serialize wrap schema batchSize (rows.map .ok) = (.ok rows.length, bytes) ∧
      Judged schema.fields rows (deserialize bytes schema)) ∧
    ∀ groups : List (List Row), groups.flatten = rows →
      (∀ group ∈ groups, (group.flatMap encodeRow).length + 4 ≤ maxFrameBytes) →
        Judged schema.fields rows (deserialize (batchOf schema groups) schema) := by
  have limit : maxFrameBytes < 2 ^ 32 := by decide
  have divided : ∀ groups : List (List Row), groups.flatten = rows →
      (∀ group ∈ groups, (group.flatMap encodeRow).length + 4 ≤ maxFrameBytes) →
        Judged schema.fields rows (deserialize (batchOf schema groups) schema) := by
    rintro groups rfl bytes
    exact judged_batch schema groups levels size widths shallow bytes
  have whole : (frameGroups batchSize rows).flatten = rows :=
    flatten_groupsFrom (fillsFrame batchSize) [] rows
  have short : ∀ row ∈ rows, itemsTooLong? row = none := by
    have all := short_of_fit (frameGroups batchSize rows) fit
    rwa [whole] at all
  refine ⟨⟨batchOf schema (frameGroups batchSize rows), ?_, ?_⟩, divided⟩
  · exact serialize_written wrap schema batchSize rows (by omega) widths short fit
  · exact divided (frameGroups batchSize rows) whole fit

def priceSchema : Schema where
  fields :=
    [("item", .atom .bigInt false), ("prices", .array (.atom (.decimal 5 2) false) true)]
  wellFormed := rfl

def mixedPrices : Value :=
  .list [.decimal ⟨19999, 2, by decide⟩, .decimal ⟨205, 1, by decide⟩]

def priceRows : List Row :=
  [[.long 1, .list [.decimal ⟨150, 2, by decide⟩]], [.long 2, .null], [.long 3, mixedPrices],
    [.string "four", .null]]

theorem mixed_prices_named :
    ∃ bytes, serialize (ε := Error) id priceSchema 2 (priceRows.map .ok) = (.ok 4, bytes) ∧
      deserialize bytes priceSchema =
        .error (.nonConforming 2 "prices" "ARRAY of 2 elements"
          (.array (.atom (.decimal 5 2) false) true)) ∧
      deserialize (batchOf priceSchema [priceRows]) priceSchema = deserialize bytes priceSchema := by
  have misfit : FirstMisfit priceSchema.fields priceRows 2
      ("prices", .array (.atom (.decimal 5 2) false) true) mixedPrices := by
    refine ⟨priceRows.take 2, [.long 3, mixedPrices], priceRows.drop 3, rfl, rfl, ?_, ?_⟩
    · have short : (⟨150, 2, by decide⟩ : Decimal).digits ≤ 5 := by decide
      simpa [priceRows, priceSchema, RowFits, fits, conforms, offClock?, itemsOffClock?,
        Atom.stores, DataType.nullable] using short
    · rw [← misfit_eq_some_iff]
      rfl
  obtain ⟨⟨bytes, written, judged⟩, divided⟩ := written_rows_judged (ε := Error) id priceSchema 2
    priceRows (by decide) (by decide +kernel) (by decide) (by decide +kernel) (by decide +kernel)
  have whole := divided [priceRows] rfl (by decide +kernel)
  have named := judged.named 2 _ _ misfit
  refine ⟨bytes, written, named, ?_⟩
  rw [named]
  exact whole.named 2 _ _ misfit

def stampSchema : Schema where
  fields := [("id", .atom .int false), ("at", .atom .timestamp true)]
  wellFormed := rfl

/-- Two rows that conform, the second with a time off the clock. -/
def stampRows : List Row :=
  [[.int 1, .null], [.int 2, .timestamp ⟨⟨738886, by decide⟩, stretchedTime⟩]]

/-- Rows that all conform can be refused, and then neither a row nor a column is named. -/
theorem stretched_stamp_unread :
    (∀ row ∈ stampRows, RowConforms stampSchema.fields row) ∧
      stampSchema.openLevels ≤ DataType.maxOpen ∧
      ∃ bytes, serialize (ε := Error) id stampSchema 1000 (stampRows.map .ok) = (.ok 2, bytes) ∧
        deserialize bytes stampSchema = .error (.timestampOutOfRange 1704153364) := by
  have levels : stampSchema.openLevels ≤ DataType.maxOpen := by decide
  have header : stampSchema.header.length ≤ maxFrameBytes := by decide +kernel
  have conform : ∀ row ∈ stampRows, RowConforms stampSchema.fields row := by
    simp [stampRows, stampSchema, RowConforms, conforms, Atom.stores, DataType.nullable]
  have groups : frameGroups 1000 stampRows = [stampRows] := rfl
  have bytes : (stampRows.flatMap encodeRow).length + 4 ≤ maxFrameBytes := by decide +kernel
  have storable : ∀ row ∈ stampRows, Storable stampSchema.fields row := fun row member =>
    storable_of_conforms stampSchema levels row (conform row member) (by
      have part := row_le stampRows row member
      have limit : maxFrameBytes < 2 ^ 32 := by decide
      omega)
  have written := serialize_written (ε := Error) id stampSchema 1000 stampRows (by decide +kernel)
    (fun row member => (storable row member).width) (fun row member => (storable row member).short)
    (by simpa [groups] using bytes)
  have read := deserialize_written stampSchema [stampRows] levels header
    (by simpa using Fitting.mk (by decide) bytes) (by simpa using storable)
  exact ⟨conform, levels, _, written, groups ▸ read⟩

end TableLoad.Batch
