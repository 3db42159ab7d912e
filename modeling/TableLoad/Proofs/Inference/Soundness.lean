import TableLoad.Proofs.Conversion.Agreement
import TableLoad.Proofs.Inference.Values

/-!
# Inferred schemas fit their records

The columns under inference only ever widen, so a value joined into a column goes
on fitting it until the end.  Every record therefore fits the finished schema,
which is why inferred schemas need no verification.
-/

set_option autoImplicit false

namespace TableLoad

open DataType

/-! ## Columns widen -/

/-- The column has the same names as before and a type that is at least as wide. -/
structure Column.Widens (before after : Column) : Prop where
  source : after.source = before.source
  name : after.name = before.name
  type : before.type.Widens after.type

namespace Column.Widens

theorem refl (column : Column) : column.Widens column :=
  ⟨rfl, rfl, .refl column.type⟩

theorem trans {first second third : Column} (early : first.Widens second)
    (late : second.Widens third) : first.Widens third where
  source := late.source.trans early.source
  name := late.name.trans early.name
  type := early.type.trans late.type

end Column.Widens

theorem widens_trans {first second third : List Column}
    (early : List.Forall₂ Column.Widens first second)
    (late : List.Forall₂ Column.Widens second third) :
    List.Forall₂ Column.Widens first third := by
  induction early generalizing third with
  | nil => exact late
  | cons widens _ ih =>
    cases late with
    | cons later rest => exact .cons (widens.trans later) (ih rest)

theorem names_of_widens {before after : List Column}
    (widened : List.Forall₂ Column.Widens before after) :
    after.map Column.source = before.map Column.source ∧
      after.map Column.name = before.map Column.name := by
  induction widened with
  | nil => exact ⟨rfl, rfl⟩
  | cons widens _ ih => simp [widens.source, widens.name, ih.1, ih.2]

def FitsColumns (columns : List Column) (position : Nat) (record : Record) : Prop :=
  ∀ i column, columns[i]? = some column → column.type.NamesDistinct →
    Fits column.type (record.valueAt column.source (position + i))

theorem observeColumns_widens (index : Nat) (record : Record) (position : Nat)
    (columns observed : List Column)
    (run : observeColumns index record position columns = .ok observed) :
    List.Forall₂ Column.Widens columns observed ∧ FitsColumns observed position record := by
  induction columns generalizing position observed with
  | nil =>
    cases run
    exact ⟨.nil, by simp [FitsColumns]⟩
  | cons column rest ih =>
    simp only [observeColumns] at run
    rw [bind_eq_ok_iff] at run
    obtain ⟨found, inferred, run⟩ := run
    rw [bind_eq_ok_iff] at run
    obtain ⟨type, join, run⟩ := run
    rw [bind_eq_ok_iff] at run
    obtain ⟨others, later, whole⟩ := run
    rw [pure_eq_ok_iff] at whole
    rw [joinAt_ok_iff] at join
    subst observed
    obtain ⟨widened, fit⟩ := ih (position + 1) others later
    obtain ⟨seenWidens, foundWidens⟩ := widens_of_join column.type found type join
    refine ⟨.cons ⟨rfl, rfl, seenWidens⟩ widened, ?_⟩
    intro i other at? distinct
    cases i with
    | zero =>
      cases at?
      apply foundWidens.keeps
      exact fits_inferred index column.name _ found inferred (foundWidens.distinct distinct)
    | succ i =>
      have shifted := fit i other (by simpa using at?) distinct
      rwa [Nat.add_assoc, Nat.add_comm 1 i] at shifted

/-! ## Records -/

def SameShape (first record : Record) : Prop :=
  record.isNamed = first.isNamed ∧ record.arity = first.arity

theorem sameShape_of_check (index : Nat) (first record : Record)
    (checked : checkShape index first record = .ok ()) : SameShape first record := by
  simp only [checkShape] at checked
  split at checked
  · cases checked
  · rename_i shapes
    split at checked
    · cases checked
    · rename_i arities
      refine ⟨?_, (not_not.mp arities).symm⟩
      have same := not_not.mp shapes
      cases first with
      | positional a items => cases record with
        | positional b others => rfl
        | named b others => cases a <;> cases b <;> simp [Record.shape] at same
      | named a items => cases record with
        | positional b others => cases a <;> cases b <;> simp [Record.shape] at same
        | named b others => rfl

theorem observeRecords_widens (first : Record) (index : Nat) (columns observed : List Column)
    (records : List Record)
    (run : observeRecords first index columns records = .ok observed) :
    List.Forall₂ Column.Widens columns observed ∧
      ∀ record ∈ records, SameShape first record ∧ FitsColumns observed 0 record := by
  induction records generalizing index columns with
  | nil =>
    cases run
    exact ⟨List.forall₂_same.mpr fun column _ => .refl column, by simp⟩
  | cons record rest ih =>
    simp only [observeRecords] at run
    rw [bind_eq_ok_iff] at run
    obtain ⟨_, checked, run⟩ := run
    rw [bind_eq_ok_iff] at run
    obtain ⟨between, step, later⟩ := run
    obtain ⟨stepWidens, stepFits⟩ := observeColumns_widens index record 0 columns between step
    obtain ⟨laterWidens, each⟩ := ih (index + 1) between later
    refine ⟨widens_trans stepWidens laterWidens, ?_⟩
    intro other member
    rcases List.mem_cons.mp member with same | inside
    · subst other
      refine ⟨sameShape_of_check index first record checked, ?_⟩
      intro i column found distinct
      obtain ⟨earlier, foundEarlier, widens⟩ := related_at laterWidens found
      rw [widens.source]
      apply widens.type.keeps
      exact stepFits i earlier foundEarlier (widens.type.distinct distinct)
    · exact each other inside

/-! ## Schemas -/

theorem sourceNames_length (record : Record) : record.sourceNames.length = record.arity := by
  cases record <;> simp [Record.sourceNames, Record.names?, Record.arity, generatedNames]

theorem outputNames_length (names : Option (List String)) (first : Record) (output : List String)
    (chosen : outputNames names first = .ok output) : output.length = first.arity := by
  cases names with
  | none =>
    cases chosen
    exact sourceNames_length first
  | some names =>
    simp only [outputNames] at chosen
    split at chosen
    · rename_i width
      cases chosen
      exact width
    · cases chosen

theorem names_of_fresh (first : Record) (output : List String)
    (width : first.sourceNames.length = output.length) :
    (freshColumns first output).map Column.source = first.sourceNames ∧
      (freshColumns first output).map Column.name = output := by
  simp only [freshColumns, List.map_map]
  constructor
  · exact List.map_fst_zip (Nat.le_of_eq width)
  · exact List.map_snd_zip (Nat.le_of_eq width.symm)

theorem finishColumns_fields (columns : List Column) (fields : List Field)
    (finished : finishColumns columns = .ok fields) :
    fields = columns.map fun column => (column.name, column.type) := by
  induction columns generalizing fields with
  | nil =>
    cases finished
    rfl
  | cons column rest ih =>
    simp only [finishColumns] at finished
    split at finished
    · rw [bind_eq_ok_iff] at finished
      obtain ⟨others, later, whole⟩ := finished
      rw [pure_eq_ok_iff] at whole
      rw [← whole, ih others later]
      rfl
    · cases finished

theorem liftSchema_ok_iff {α : Type} (outcome : Except SchemaFault α) (result : α) :
    liftSchema outcome = .ok result ↔ outcome = .ok result := by
  cases outcome <;> simp [liftSchema]

theorem fields_of_ofFields {fields : List Field} {schema : Schema}
    (made : Schema.ofFields fields = .ok schema) : schema.fields = fields := by
  unfold Schema.ofFields at made
  split at made
  · cases made
    rfl
  · cases made

/-- How a successful inference went: columns under the names the first record is
read by, in which every record's values fit. -/
structure Inferred (names : Option (List String)) (first : Record) (records : List Record)
    (schema : Schema) (columns : List Column) : Prop where
  output : outputNames names first = .ok (columns.map Column.name)
  sources : columns.map Column.source = first.sourceNames
  fields : schema.fields = columns.map fun column => (column.name, column.type)
  shapes : ∀ record ∈ records, SameShape first record
  fits : ∀ record ∈ records, FitsColumns columns 0 record

theorem inferred_of_inferRecords (names : Option (List String)) (records : List Record)
    (schema : Schema) (inferred : inferRecords names records = .ok schema) :
    ∃ first rest columns, records = first :: rest ∧
      Inferred names first records schema columns := by
  cases records with
  | nil => cases inferred
  | cons first rest =>
    simp only [inferRecords] at inferred
    rw [bind_eq_ok_iff] at inferred
    obtain ⟨output, chosen, inferred⟩ := inferred
    rw [bind_eq_ok_iff] at inferred
    obtain ⟨columns, observed, inferred⟩ := inferred
    rw [bind_eq_ok_iff] at inferred
    obtain ⟨fields, finished, made⟩ := inferred
    rw [liftSchema_ok_iff] at made
    obtain ⟨widened, each⟩ :=
      observeRecords_widens first 0 (freshColumns first output) columns (first :: rest) observed
    have width : first.sourceNames.length = output.length := by
      rw [sourceNames_length, outputNames_length names first output chosen]
    obtain ⟨sources, names⟩ := names_of_widens widened
    obtain ⟨freshSources, freshNames⟩ := names_of_fresh first output width
    refine ⟨first, rest, columns, rfl, ?_⟩
    exact
      { output := by rw [chosen, names, freshNames]
        sources := by rw [sources, freshSources]
        fields := by rw [fields_of_ofFields made, finishColumns_fields columns fields finished]
        shapes := fun record member => (each record member).1
        fits := fun record member => (each record member).2 }

/-! ## Converters -/

theorem recordFits_of_positional (fields : List Field) (names others : List String)
    (record : Record) (plain : record.isNamed = false) (width : others.length ≤ names.length)
    (fit : RecordFits fields names record) : RecordFits fields others record := by
  refine ⟨fit.1, ?_⟩
  have each := (fieldsFit_iff fields names 0 record).mp fit.2
  rw [fieldsFit_iff]
  intro i field other fieldAt otherAt
  have bound : i < names.length :=
    Nat.lt_of_lt_of_le (List.getElem?_eq_some_iff.mp otherAt).1 width
  have found := each i field names[i] fieldAt (List.getElem?_eq_getElem bound)
  cases record with
  | positional shape items => exact found
  | named shape entries => simp [Record.isNamed] at plain

/-- Every record of an inference fits the schema under the names of the first. -/
theorem recordFits_of_inferred {names : Option (List String)} {first : Record}
    {records : List Record} {schema : Schema} {columns : List Column}
    (inferred : Inferred names first records schema columns) (record : Record)
    (member : record ∈ records) : RecordFits schema.fields first.sourceNames record := by
  have distinct : ∀ column ∈ columns, column.type.NamesDistinct := by
    obtain ⟨_, _, parts⟩ := fieldsDistinct_of_check schema.fields [] schema.wellFormed
    rw [fieldsDistinct_iff, inferred.fields] at parts
    intro column inside
    exact parts _ (List.mem_map.mpr ⟨column, inside, rfl⟩)
  have width : columns.length = first.arity := by
    rw [← sourceNames_length first, ← inferred.sources, List.length_map]
  refine ⟨?_, ?_⟩
  · intro _
    rw [inferred.fields, List.length_map, width]
    exact (inferred.shapes record member).2
  · rw [fieldsFit_iff, inferred.fields, ← inferred.sources]
    intro i field name fieldAt nameAt
    simp only [List.getElem?_map, Option.map_eq_some_iff] at fieldAt nameAt
    obtain ⟨column, columnAt, rfl⟩ := fieldAt
    obtain ⟨same, sameAt, rfl⟩ := nameAt
    rw [columnAt] at sameAt
    cases sameAt
    exact inferred.fits record member i column columnAt
      (distinct column (List.mem_of_getElem? columnAt))

theorem converterFor_names (names : Option (List String)) (records : List Record)
    (verify : Bool) (converter : Converter)
    (made : converterFor records (names.map Hint.names) verify = .ok converter) :
    inferRecords names records = .ok converter.schema ∧ converter.scalar = false ∧
      converter.lookupNames =
        (if names.isSome then records.head?.bind Record.names? else none).getD
          converter.schema.names := by
  simp only [converterFor] at made
  rw [bind_eq_ok_iff] at made
  obtain ⟨schema, inferred, made⟩ := made
  cases names with
  | none =>
    cases made
    exact ⟨inferred, rfl, rfl⟩
  | some names =>
    simp only [Option.map_some] at made
    split at made
    · rename_i carried found
      cases made
      exact ⟨inferred, rfl, by simp [found]⟩
    · rename_i plain
      cases made
      exact ⟨inferred, rfl, by simp [plain, Converter.ofSchema]⟩

theorem recordFits_of_converterFor (names : Option (List String)) (records : List Record)
    (verify : Bool) (converter : Converter)
    (made : converterFor records (names.map Hint.names) verify = .ok converter)
    (record : Record) (member : record ∈ records) :
    converter.lookupNames.length = converter.schema.fields.length ∧
      RecordFits converter.schema.fields converter.lookupNames record := by
  obtain ⟨inferred, _, lookups⟩ := converterFor_names names records verify converter made
  obtain ⟨first, rest, columns, rfl, how⟩ :=
    inferred_of_inferRecords names records converter.schema inferred
  have fit := recordFits_of_inferred how record member
  have sourceWidth : first.sourceNames.length = converter.schema.fields.length := by
    rw [how.fields, ← how.sources, List.length_map, List.length_map]
  have nameWidth : converter.schema.names.length = converter.schema.fields.length := by
    simp [Schema.names]
  have sameNaming := (how.shapes record member).1
  cases carried : first.names? with
  | some names' =>
    have source : first.sourceNames = names' := by simp [Record.sourceNames, carried]
    have lookupNames : converter.lookupNames = first.sourceNames := by
      rw [lookups]
      cases names with
      | none =>
        have output := how.output
        simp only [outputNames, Except.ok.injEq] at output
        rw [Schema.names, how.fields, output]
        simp
      | some _ => simp [carried, source]
    rw [lookupNames]
    exact ⟨sourceWidth, fit⟩
  | none =>
    have lookupNames : converter.lookupNames = converter.schema.names := by
      rw [lookups]
      cases names with
      | none => rfl
      | some _ => simp [carried]
    have plain : first.isNamed = false := by
      cases first with
      | positional _ _ => rfl
      | named _ _ => simp [Record.names?] at carried
    rw [lookupNames]
    refine ⟨nameWidth, ?_⟩
    exact recordFits_of_positional converter.schema.fields first.sourceNames _ record
      (sameNaming.trans plain) (by rw [nameWidth, sourceWidth]) fit

/-- A schema inferred from records, with or without given names, admits every one
of them: each verifies and, verified, converts. -/
theorem inferred_records_verify (names : Option (List String)) (records : List Record)
    (verify : Bool) (converter : Converter)
    (made : converterFor records (names.map Hint.names) verify = .ok converter) :
    inferSchema records (names.map Hint.names) = .ok converter.schema ∧
      ∀ record ∈ records, ∀ index,
        converter.verify index record = .ok () ∧
          ∃ row, { converter with verifies := true }.convert index record = .ok row := by
  obtain ⟨inferred, scalar, _⟩ := converterFor_names names records verify converter made
  refine ⟨?_, ?_⟩
  · cases names with
    | none => exact inferred
    | some names => exact inferred
  · intro record member index
    obtain ⟨width, fit⟩ :=
      recordFits_of_converterFor names records verify converter made record member
    have verified : converter.verify index record = .ok () :=
      (verifyUnder_ok_iff converter.schema.fields converter.lookupNames index record).mpr fit
    obtain ⟨row, converted, _⟩ :=
      (recordFits_iff_convert converter.schema.fields converter.lookupNames index record
        width).mp fit
    refine ⟨verified, row, ?_⟩
    rw [convert_ok_iff]
    exact ⟨by simp [scalar], fun _ => verified, converted⟩

def complementaryRecords : List Record :=
  [.positional .tuple [.int 1, .list [.null, .bool true], .null],
    .positional .tuple
      [.long 5000000000, .list [.int 7], .record (.named .mapping [("x", .double ⟨0⟩)])]]

def complementarySchema : Schema where
  fields :=
    [("id", .atom .bigInt false), ("marks", .array (.atom .int true) false),
      ("at", .row [("x", .atom .double false)] true)]
  wellFormed := rfl

theorem complementary_records_verify :
    converterFor complementaryRecords (some (.names ["id", "marks", "at"])) false =
        .ok (.ofSchema complementarySchema false) ∧
      ∀ record ∈ complementaryRecords, ∀ index,
        (Converter.ofSchema complementarySchema false).verify index record = .ok () := by
  have made : converterFor complementaryRecords (some (.names ["id", "marks", "at"])) false =
      .ok (.ofSchema complementarySchema false) := rfl
  refine ⟨made, fun record member index => ?_⟩
  obtain ⟨_, each⟩ :=
    inferred_records_verify (some ["id", "marks", "at"]) complementaryRecords false _ made
  exact (each record member index).1

end TableLoad
