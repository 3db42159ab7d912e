import TableLoad.Proofs.Conversion.Joining
import TableLoad.Proofs.Inference.Mismatches
import TableLoad.Proofs.Inference.Order

/-!
# Records that are all alike

Records of one shape, one width and one list of names pass the comparison with the first
one.  What can still go wrong is in their values, which may have types that do not join or
no type at all, and in their names, which no schema has twice or leaves empty.
-/

set_option autoImplicit false

namespace TableLoad

/-- The records have the same shape, the same number of values and the same names in the
same order. -/
structure Record.Alike (a b : Record) : Prop where
  shape : a.shape = b.shape
  arity : a.arity = b.arity
  names : a.names? = b.names?

theorem checkShape_of_alike (index : Nat) {first record : Record} (alike : first.Alike record) :
    checkShape index first record = .ok () := by
  rw [checkShape_ok_iff, Record.profile, Record.profile, alike.shape, alike.arity, alike.names]

/-! ## Values -/

/-- Whatever type the value has, it is a type that a schema may have. -/
def Value.SoundlyTyped (value : Value) : Prop :=
  ∀ record path type, inferValue record path value = .ok type → type.check = .ok ()

theorem Value.soundlyTyped_of_type {value : Value} (type : DataType)
    (typed : ∀ record path, inferValue record path value = .ok type)
    (sound : type.check = .ok ()) : value.SoundlyTyped := by
  intro record path found inferred
  rw [typed, Except.ok.injEq] at inferred
  exact inferred ▸ sound

theorem Value.soundlyTyped_null : Value.null.SoundlyTyped :=
  Value.soundlyTyped_of_type (.atom .null true) (fun _ _ => rfl) rfl

theorem Record.soundlyTyped_valueAt {record : Record}
    (sound : ∀ value ∈ record.values, value.SoundlyTyped) (name : String) (position : Nat) :
    (record.valueAt name position).SoundlyTyped := by
  rw [Record.valueAt]
  cases found : record.lookup? name position with
  | none => exact Value.soundlyTyped_null
  | some value =>
    apply sound
    cases record with
    | positional shape items => exact List.mem_of_getElem? found
    | named shape entries =>
      rw [Record.lookup?, lookup_eq_first] at found
      exact List.mem_of_getElem? found

/-! ## Columns -/

def ColumnsSound (columns : List Column) : Prop :=
  ∀ column ∈ columns, column.type.check = .ok ()

theorem observeColumns_sound (index : Nat) (record : Record)
    (sound : ∀ value ∈ record.values, value.SoundlyTyped) (position : Nat)
    (columns : List Column) (before : ColumnsSound columns) :
    Yields (InferenceError.IsTypeMismatch index) ColumnsSound
      (observeColumns index record position columns) := by
  induction columns generalizing position with
  | nil => exact before
  | cons column rest ih =>
    obtain ⟨head, tail⟩ := List.forall_mem_cons.mp before
    have own : Yields (InferenceError.IsTypeMismatch index) (fun found => found.check = .ok ())
        (inferValue index column.name (record.valueAt column.source position)) :=
      yields_of_ok (inferValue_yields index column.name _)
        (record.soundlyTyped_valueAt sound column.source position index column.name)
    rw [observeColumns]
    refine yields_bind own fun found typed => ?_
    have joins : Yields (InferenceError.IsTypeMismatch index) (fun joined => joined.check = .ok ())
        (joinAt index column.name column.type found) := by
      apply yields_of_ok (joinAt_yields index column.name column.type found)
      intro joined join
      rw [joinAt_ok_iff] at join
      exact DataType.check_join column.type found joined join head typed
    refine yields_bind joins fun joined wider => ?_
    refine yields_bind (ih (position + 1) tail) fun others later => ?_
    exact List.forall_mem_cons.mpr ⟨wider, later⟩

/-- Records like the first one only fail for their types. -/
theorem observeRecords_sound (first : Record) (records : List Record)
    (alike : ∀ record ∈ records, first.Alike record)
    (sound : ∀ record ∈ records, ∀ value ∈ record.values, value.SoundlyTyped) (index : Nat)
    (columns : List Column) (before : ColumnsSound columns) :
    Yields (fun cause => ∃ record, cause.IsTypeMismatch record) ColumnsSound
      (observeRecords first index columns records) := by
  induction records generalizing index columns with
  | nil => exact before
  | cons record rest ih =>
    obtain ⟨same, others⟩ := List.forall_mem_cons.mp alike
    obtain ⟨own, later⟩ := List.forall_mem_cons.mp sound
    have step : Yields (fun cause => ∃ record, cause.IsTypeMismatch record) ColumnsSound
        (observeRecord first index columns record) := by
      rw [observeRecord, checkShape_of_alike index same]
      exact yields_mono (fun cause mismatch => ⟨index, mismatch⟩) (fun _ fine => fine)
        (observeColumns_sound index record own 0 columns before)
    rw [observeRecords_cons]
    exact yields_bind step fun seen after => ih others later (index + 1) seen after

theorem columnsSound_fresh (first : Record) (output : List String) :
    ColumnsSound (freshColumns first output) := by
  intro column member
  obtain ⟨names, _, rfl⟩ := List.mem_map.mp member
  rfl

/-! ## Schemas -/

theorem finishColumns_sound (columns : List Column) (sound : ColumnsSound columns) :
    Yields (fun cause => ∃ field, cause = .undetermined field)
      (fun fields => ∀ field ∈ fields, field.2.check = .ok ()) (finishColumns columns) := by
  induction columns with
  | nil => exact fun _ member => absurd member List.not_mem_nil
  | cons column rest ih =>
    obtain ⟨own, later⟩ := List.forall_mem_cons.mp sound
    rw [finishColumns]
    split
    · refine yields_bind (ih later) fun fields fine => ?_
      exact List.forall_mem_cons.mpr ⟨own, fine⟩
    · exact ⟨column.name, rfl⟩

def SchemaFault.IsOfNames (fault : SchemaFault) : Prop :=
  fault = .emptyFieldName ∨ ∃ name, fault = .duplicateField name

theorem checkFields_yields (fields : List Field) (sound : ∀ field ∈ fields, field.2.check = .ok ())
    (seen : List String) :
    Yields SchemaFault.IsOfNames (fun _ => True) (DataType.checkFields seen fields) := by
  induction fields generalizing seen with
  | nil => trivial
  | cons field rest ih =>
    obtain ⟨name, type⟩ := field
    obtain ⟨own, later⟩ := List.forall_mem_cons.mp sound
    rw [DataType.checkFields]
    split
    · exact .inl rfl
    · split
      · exact .inr ⟨name, rfl⟩
      · rw [own]
        exact ih later (name :: seen)

/-- What can go wrong with records that are all alike and have values of sound types. -/
def InferenceError.IsOfAlike (cause : InferenceError) : Prop :=
  cause = .emptyInput ∨ (∃ record, cause.IsTypeMismatch record) ∨
    (∃ field, cause = .undetermined field) ∨ ∃ fault, cause = .schema fault ∧ fault.IsOfNames

theorem ofFields_yields (fields : List Field) (sound : ∀ field ∈ fields, field.2.check = .ok ()) :
    Yields InferenceError.IsOfAlike (fun _ => True) (liftSchema (Schema.ofFields fields)) := by
  have checked := checkFields_yields fields sound []
  unfold Schema.ofFields
  split
  · trivial
  · rename_i fault failed
    rw [failed] at checked
    exact .inr (.inr (.inr ⟨fault, rfl, checked⟩))

theorem inferSchema_of_alike (records : List Record)
    (alike : ∀ a ∈ records, ∀ b ∈ records, a.Alike b)
    (sound : ∀ record ∈ records, ∀ value ∈ record.values, value.SoundlyTyped) :
    Yields InferenceError.IsOfAlike (fun _ => True) (inferSchema records none) := by
  cases records with
  | nil => exact .inl rfl
  | cons first rest =>
    have seen := observeRecords_sound first (first :: rest) (alike first List.mem_cons_self) sound 0
      (freshColumns first first.sourceNames) (columnsSound_fresh first first.sourceNames)
    have named : outputNames none first = .ok first.sourceNames := rfl
    rw [inferSchema, inferRecords_of_observed named]
    refine yields_bind (yields_mono ?_ (fun _ fine => fine) seen) fun columns fine => ?_
    · exact fun cause mismatch => .inr (.inl mismatch)
    have finished := finishColumns_sound columns fine
    refine yields_bind (yields_mono ?_ (fun _ fine => fine) finished) ofFields_yields
    exact fun cause undetermined => .inr (.inr (.inl undetermined))

end TableLoad
