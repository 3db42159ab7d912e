import TableLoad.Proofs.Frame.Mapped

/-!
# Schemas without placeholders

Inference refuses a column of which only nulls were seen, and no column type of a frame
maps to the placeholder for such a column.  So a finished schema has a placeholder only
where the hint put it: hints are taken as they are.
-/

set_option autoImplicit false

namespace TableLoad

namespace DataType

theorem fieldsResolved_eq (fields : List Field) :
    fieldsResolved fields = (fields.map Prod.snd).all isResolved := by
  induction fields with
  | nil => rfl
  | cons field rest ih => rw [fieldsResolved, ih, List.map_cons, List.all_cons]

theorem isResolved_withNullable (type : DataType) (nullable : Bool) :
    (type.withNullable nullable).isResolved = type.isResolved := by
  cases type <;> rfl

end DataType

def Schema.isResolved (schema : Schema) : Bool :=
  DataType.fieldsResolved schema.fields

theorem Schema.isResolved_eq (schema : Schema) :
    schema.isResolved = schema.types.all DataType.isResolved :=
  DataType.fieldsResolved_eq schema.fields

def Hint.isResolved : Hint → Bool
  | .names _ => true
  | .scalar type => type.isResolved
  | .schema whole => whole.isResolved

/-! ## Records -/

theorem resolved_of_finishColumns (columns : List Column) (fields : List Field)
    (finished : finishColumns columns = .ok fields) : DataType.fieldsResolved fields = true := by
  induction columns generalizing fields with
  | nil =>
    cases finished
    rfl
  | cons column rest ih =>
    simp only [finishColumns] at finished
    split at finished
    · rename_i resolved
      rw [bind_eq_ok_iff] at finished
      obtain ⟨others, later, whole⟩ := finished
      rw [pure_eq_ok_iff] at whole
      rw [← whole, DataType.fieldsResolved, resolved, ih others later]
      rfl
    · cases finished

theorem resolved_of_inferRecords (names : Option (List String)) (records : List Record)
    (schema : Schema) (inferred : inferRecords names records = .ok schema) :
    schema.isResolved = true := by
  cases records with
  | nil => cases inferred
  | cons first rest =>
    simp only [inferRecords] at inferred
    rw [bind_eq_ok_iff] at inferred
    obtain ⟨output, _, inferred⟩ := inferred
    rw [bind_eq_ok_iff] at inferred
    obtain ⟨columns, _, inferred⟩ := inferred
    rw [bind_eq_ok_iff] at inferred
    obtain ⟨fields, finished, made⟩ := inferred
    rw [liftSchema_ok_iff] at made
    rw [Schema.isResolved, fields_of_ofFields made]
    exact resolved_of_finishColumns columns fields finished

theorem isResolved_of_inferSchema (records : List Record) (hint : Option Hint) (schema : Schema)
    (finished : inferSchema records hint = .ok schema) :
    schema.isResolved = hint.all Hint.isResolved := by
  cases hint with
  | none => exact resolved_of_inferRecords none records schema finished
  | some hint =>
    cases hint with
    | names names =>
      rw [resolved_of_inferRecords (some names) records schema finished]
      rfl
    | schema whole =>
      rw [inferSchema, Except.ok.injEq] at finished
      rw [finished]
      rfl
    | scalar type =>
      rw [inferSchema, liftSchema_ok_iff] at finished
      rw [Schema.isResolved, fields_of_ofFields finished, DataType.fieldsResolved,
        DataType.fieldsResolved, Bool.and_true]
      rfl

theorem inferSchema_of_converterFor (records : List Record) (hint : Option Hint) (verify : Bool)
    (converter : Converter) (made : converterFor records hint verify = .ok converter) :
    inferSchema records hint = .ok converter.schema := by
  rw [converterFor, bind_eq_ok_iff] at made
  obtain ⟨schema, inferred, made⟩ := made
  rw [inferred]
  cases hint with
  | none =>
    cases made
    rfl
  | some hint =>
    cases hint with
    | names names =>
      simp only at made
      split at made <;> cases made <;> rfl
    | scalar | schema =>
      cases made
      rfl

/-! ## Frames -/

namespace Frame

def Hint.isResolved : Hint → Bool
  | .schema whole => whole.isResolved
  | .names _ => true
  | .types others => others.all DataType.isResolved

theorem ne_null_of_leaf (name : String) (type : ColumnType) (kind : Atom)
    (plain : type.hasParts = false) (mapped : mapType name type = .ok (.atom kind true)) :
    kind ≠ .null := by
  cases type with
  | list | largeList | struct | map => cases plain
  | decimal128 precision scale =>
    simp only [mapType] at mapped
    split at mapped <;> cases mapped
    exact Atom.noConfusion
  | _ => cases mapped <;> exact Atom.noConfusion

mutual

theorem resolved_of_mapped : {type : ColumnType} → {mapped : DataType} → Mapped type mapped →
    mapped.isResolved = true
  | type, _, .leaf plain mapped => by
    rw [DataType.isResolved, bne_iff_ne]
    exact ne_null_of_leaf "" type _ plain (mapped "")
  | _, _, .list _ _ part | _, _, .largeList _ _ part => by
    rw [DataType.isResolved, DataType.isResolved_withNullable, resolved_of_mapped part]
  | _, _, .map _ _ _ _ first second => by
    rw [DataType.isResolved, DataType.isResolved_withNullable, DataType.isResolved_withNullable,
      resolved_of_mapped first, resolved_of_mapped second]
    rfl
  | _, _, .struct inside => by
    rw [DataType.isResolved, resolved_of_mappedParts inside]

theorem resolved_of_mappedParts : {parts : List (String × ColumnType × Bool)} →
    {fields : List Field} → MappedParts parts fields → DataType.fieldsResolved fields = true
  | _, _, .nil => rfl
  | _, _, .cons _ _ first later => by
    rw [DataType.fieldsResolved, DataType.isResolved_withNullable, resolved_of_mapped first,
      resolved_of_mappedParts later]
    rfl

end

theorem isResolved_of_apply (hint : Hint) (mapped schema : Schema)
    (resolved : mapped.isResolved = true) (finished : hint.apply mapped = .ok schema) :
    schema.isResolved = hint.isResolved := by
  unfold Hint.apply at finished
  split at finished
  · cases finished
  · rename_i width
    rw [not_not] at width
    cases hint with
    | schema whole =>
      cases finished
      rfl
    | names others =>
      have types : (others.zip mapped.types).map Prod.snd = mapped.types := by
        refine List.map_snd_zip ?_
        rw [Schema.types, List.length_map]
        exact Nat.le_of_eq width.symm
      rw [Schema.isResolved, ofFields_of_liftSchema finished, DataType.fieldsResolved_eq, types,
        ← Schema.isResolved_eq, resolved]
      rfl
    | types others =>
      have types : (mapped.names.zip others).map Prod.snd = others := by
        refine List.map_snd_zip ?_
        rw [Schema.names, List.length_map]
        exact Nat.le_of_eq width
      rw [Schema.isResolved, ofFields_of_liftSchema finished, DataType.fieldsResolved_eq, types]
      rfl

theorem isResolved_of_schema (frame : Frame) (hint : Option Hint) (schema : Schema)
    (finished : frame.schema hint = .ok schema) :
    schema.isResolved = hint.all Hint.isResolved := by
  rw [Frame.schema, bind_eq_ok_iff] at finished
  obtain ⟨mapped, done, finished⟩ := finished
  have resolved : mapped.isResolved = true :=
    resolved_of_mappedParts (mapped_of_mapColumns frame.columns mapped done)
  cases hint with
  | none =>
    cases finished
    exact resolved
  | some hint => exact isResolved_of_apply hint mapped schema resolved finished

end Frame

/-- Whatever the records or the frame, a schema that is finished holds a placeholder only
if a type of the hint does: never without a hint or with one that gives only names. -/
theorem finished_schemas_resolved (records : List Record) (hint : Option Hint) (frame : Frame)
    (frameHint : Option Frame.Hint) :
    (∀ schema, inferSchema records hint = .ok schema →
      schema.isResolved = hint.all Hint.isResolved) ∧
    (∀ verify converter, converterFor records hint verify = .ok converter →
      converter.schema.isResolved = hint.all Hint.isResolved) ∧
    ∀ schema, frame.schema frameHint = .ok schema →
      schema.isResolved = frameHint.all Frame.Hint.isResolved := by
  refine ⟨isResolved_of_inferSchema records hint, ?_, Frame.isResolved_of_schema frame frameHint⟩
  intro verify converter made
  exact isResolved_of_inferSchema records hint converter.schema
    (inferSchema_of_converterFor records hint verify converter made)

theorem placeholder_hint_taken :
    ∃ schema,
      inferSchema [.positional .tuple [.null]] (some (.scalar (.atom .null true))) = .ok schema ∧
        schema.isResolved = false := by
  refine ⟨{ fields := [(scalarFieldName, .atom .null true)], wellFormed := by decide }, ?_, ?_⟩
  · rfl
  · rfl

end TableLoad
