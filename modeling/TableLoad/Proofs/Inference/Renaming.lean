import TableLoad.Proofs.Inference.Soundness

/-!
# Columns renamed by a hint

A names hint renames the columns, while the values of named records are still
looked up under the names the records carry.  Those names need not be distinct:
of several values under one name a look-up only finds the first, which then fills
every column of that name.
-/

set_option autoImplicit false

namespace TableLoad

/-! ## Look-ups -/

namespace Record

theorem values_of_names {record : Record} {own : List String} (carried : record.names? = some own) :
    record.values.length = own.length := by
  cases record with
  | positional shape items => simp [names?] at carried
  | named shape entries =>
    cases carried
    simp [values]

theorem valueAt_of_names {record : Record} {own : List String} (carried : record.names? = some own)
    (name : String) (position : Nat) (member : name ∈ own) :
    record.values[own.idxOf name]? = some (record.valueAt name position) := by
  cases record with
  | positional shape items => simp [names?] at carried
  | named shape entries =>
    cases carried
    have bound : (entries.map Prod.fst).idxOf name < (entries.map Prod.snd).length := by
      have first := List.idxOf_lt_length_of_mem member
      rwa [List.length_map] at first ⊢
    simp only [values, valueAt, lookup?, lookup_eq_first]
    rw [List.getElem?_eq_getElem bound, Option.getD_some]

end Record

/-! ## Rows -/

theorem convertFields_at (index : Nat) (fields : List Field) (names : List String) (position : Nat)
    (path : String) (r : Record) (items : List Value)
    (converted : convertFields index fields names position path r = .ok items) (i : Nat)
    (field : Field) (name : String) (fieldAt : fields[i]? = some field)
    (nameAt : names[i]? = some name) :
    ∃ item, items[i]? = some item ∧
      convertValue index field.2 (fieldPath path field.1) (r.valueAt name (position + i)) =
        .ok item := by
  induction fields generalizing names position items i with
  | nil => simp at fieldAt
  | cons head fields ih =>
    cases names with
    | nil => simp at nameAt
    | cons other names =>
      rw [convertFields_cons_iff] at converted
      obtain ⟨item, others, first, later, rfl⟩ := converted
      cases i with
      | zero =>
        cases fieldAt
        cases nameAt
        exact ⟨item, rfl, first⟩
      | succ i =>
        have shifted := ih names (position + 1) others later i fieldAt nameAt
        rwa [Nat.add_assoc, Nat.add_comm 1 i] at shifted

/-- Read under its own names, a record gives every column the first value of the
name. -/
theorem stored_under_name {record : Record} {own : List String} {fields : List Field} {row : Row}
    (index : Nat) (carried : record.names? = some own) (width : own.length = fields.length)
    (converted : convertFields index fields own 0 "" record = .ok row) (j : Nat) (name : String)
    (nameAt : own[j]? = some name) :
    ∃ (field : Field) (value stored : Value), fields[j]? = some field ∧
      record.values[own.idxOf name]? = some value ∧ row[j]? = some stored ∧
      convertValue index field.2 field.1 value = .ok stored := by
  have bound : j < fields.length := by
    rw [← width]
    exact (List.getElem?_eq_some_iff.mp nameAt).1
  have fieldAt := List.getElem?_eq_getElem bound
  obtain ⟨stored, storedAt, converts⟩ :=
    convertFields_at index fields own 0 "" record row converted j _ name fieldAt nameAt
  refine ⟨fields[j], record.valueAt name (0 + j), stored, fieldAt, ?_, storedAt, converts⟩
  exact Record.valueAt_of_names carried name (0 + j) (List.mem_of_getElem? nameAt)

theorem fields_of_converterFor (names : Option (List String)) (records : List Record)
    (verify : Bool) (converter : Converter)
    (made : converterFor records (names.map Hint.names) verify = .ok converter)
    (record : Record) (member : record ∈ records) (index : Nat) :
    ∃ row, converter.convert index record = .ok row ∧
      convertFields index converter.schema.fields converter.lookupNames 0 "" record = .ok row := by
  obtain ⟨_, scalar, _⟩ := converterFor_names names records verify converter made
  obtain ⟨width, fit⟩ :=
    recordFits_of_converterFor names records verify converter made record member
  obtain ⟨row, converted, _⟩ :=
    (recordFits_iff_convert converter.schema.fields converter.lookupNames index record width).mp fit
  have verified : converter.verify index record = .ok () :=
    (verifyUnder_ok_iff converter.schema.fields converter.lookupNames index record).mpr fit
  refine ⟨row, ?_, ?_⟩
  · rw [convert_ok_iff]
    exact ⟨by simp [scalar], fun _ => verified, converted⟩
  · rw [convertUnder, bind_eq_ok_iff] at converted
    obtain ⟨_, _, fields⟩ := converted
    exact fields

theorem names_of_hint {names : List String} {first : Record} {records : List Record}
    {schema : Schema} {columns : List Column}
    (inferred : Inferred (some names) first records schema columns) : schema.names = names := by
  have output := inferred.output
  simp only [outputNames] at output
  split at output
  · have same := Except.ok.inj output
    rw [Schema.names, inferred.fields, same, List.map_map]
    rfl
  · cases output

/-- Under a names hint every column of the first record's row holds the first
value under the name of its own that the record carries at that position.  So if
those names are distinct, every column holds the value at its own position. -/
theorem renamed_first_record (first : Record) (rest : List Record) (own names : List String)
    (verify : Bool) (converter : Converter) (carried : first.names? = some own)
    (made : converterFor (first :: rest) (some (.names names)) verify = .ok converter)
    (index : Nat) :
    ∃ row : Row, converter.convert index first = .ok row ∧ row.length = first.arity ∧
      converter.schema.names = names ∧
      (∀ (j : Nat) (name : String), own[j]? = some name →
        ∃ (field : Field) (value stored : Value), converter.schema.fields[j]? = some field ∧
          first.values[own.idxOf name]? = some value ∧ row[j]? = some stored ∧
          convertValue index field.2 field.1 value = .ok stored) ∧
      (own.Nodup → ∀ (j : Nat) (value : Value), first.values[j]? = some value →
        ∃ (field : Field) (stored : Value), converter.schema.fields[j]? = some field ∧
          row[j]? = some stored ∧ convertValue index field.2 field.1 value = .ok stored) := by
  obtain ⟨inferred, _, lookups⟩ :=
    converterFor_names (some names) (first :: rest) verify converter made
  obtain ⟨_, _, columns, same, how⟩ := inferred_of_inferRecords _ _ _ inferred
  cases same
  have member : first ∈ first :: rest := List.mem_cons_self
  obtain ⟨width, _⟩ :=
    recordFits_of_converterFor (some names) (first :: rest) verify converter made first member
  obtain ⟨row, accepted, converted⟩ :=
    fields_of_converterFor (some names) (first :: rest) verify converter made first member index
  have size := convertFields_length index _ _ 0 "" first row width converted
  have found : converter.lookupNames = own := by
    rw [lookups]
    simp [carried]
  rw [found] at width converted
  have each := stored_under_name index carried width converted
  refine ⟨row, accepted, ?_, names_of_hint how, each, ?_⟩
  · rw [size, ← width, ← Record.values_of_names carried, Record.values_length]
  · intro distinct j value valueAt
    have bound : j < own.length := by
      rw [← Record.values_of_names carried]
      exact (List.getElem?_eq_some_iff.mp valueAt).1
    obtain ⟨field, other, stored, fieldAt, otherAt, storedAt, converts⟩ :=
      each j own[j] (List.getElem?_eq_getElem bound)
    -- Under distinct names the first value of a name is the only one.
    rw [distinct.idxOf_getElem j bound, valueAt] at otherAt
    cases otherAt
    exact ⟨field, stored, fieldAt, storedAt, converts⟩

theorem checkShape_self (index : Nat) (record : Record) :
    checkShape index record record = .ok () := by
  cases record <;> simp [checkShape, Record.names?]

def unsortedRow : Record :=
  .named .row [("b", .int 1), ("a", .string "x")]

def unsortedConverter : Converter where
  schema := ⟨[("p", .atom .int false), ("q", .atom .string false)], rfl⟩
  lookupNames := ["b", "a"]
  verifies := false
  scalar := false

theorem renamed_unsorted_row :
    unsortedRow.names? = some ["b", "a"] ∧
      converterFor [unsortedRow] (some (.names ["p", "q"])) true = .ok unsortedConverter ∧
      ["b", "a"].Nodup ∧
      ∃ row, unsortedConverter.convert 0 unsortedRow = .ok row ∧ row[1]? = some (.string "x") := by
  have carried : unsortedRow.names? = some ["b", "a"] := rfl
  have made : converterFor [unsortedRow] (some (.names ["p", "q"])) true =
      .ok unsortedConverter := by
    simp only [converterFor, inferSchema, inferRecords, observeRecords, checkShape_self]
    rfl
  have distinct : ["b", "a"].Nodup := by decide
  obtain ⟨row, converted, _, _, _, each⟩ :=
    renamed_first_record unsortedRow [] ["b", "a"] ["p", "q"] true unsortedConverter carried made 0
  refine ⟨carried, made, distinct, row, converted, ?_⟩
  obtain ⟨field, stored, fieldAt, storedAt, converts⟩ := each distinct 1 (.string "x") rfl
  cases fieldAt
  cases converts
  exact storedAt

def twiceNamedRow : Record :=
  .named .row [("a", .int 1), ("a", .string "x")]

def twiceNamedConverter : Converter where
  schema := ⟨[("p", .atom .int false), ("q", .atom .int false)], rfl⟩
  lookupNames := ["a", "a"]
  verifies := false
  scalar := false

theorem twice_named_value_lost :
    twiceNamedRow.values[1]? = some (.string "x") ∧
      converterFor [twiceNamedRow] (some (.names ["p", "q"])) true = .ok twiceNamedConverter ∧
      twiceNamedConverter.convert 0 twiceNamedRow = .ok [.int 1, .int 1] ∧
      ∀ stored, convertValue 0 (.atom .int false) "q" (.string "x") ≠ .ok stored := by
  have made : converterFor [twiceNamedRow] (some (.names ["p", "q"])) true =
      .ok twiceNamedConverter := by
    simp only [converterFor, inferSchema, inferRecords, observeRecords, checkShape_self]
    rfl
  refine ⟨rfl, made, rfl, ?_⟩
  intro stored converts
  cases converts

end TableLoad
