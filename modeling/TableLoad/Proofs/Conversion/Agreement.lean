import TableLoad.Batch.Conforms
import TableLoad.Conversion.Converter
import TableLoad.Proofs.Conversion.Fitting
import TableLoad.Proofs.Value.Decimal

/-!
# Verification, conversion and conformance agree

Three separate recursions judge a record: verification before conversion, the
conversion itself, and the reader's test of the stored values.  They accept the
same records: one verifies exactly when it converts to a row that conforms.
-/

set_option autoImplicit false

namespace TableLoad

/-! ## Stored values -/

theorem stores_of_coerce {kind : Atom} {value stored : Value}
    (coerced : coerce? kind value = some stored) : kind.stores stored = true := by
  cases kind with
  | decimal precision scale =>
    cases value with
    | decimal d =>
      simp only [coerce?] at coerced
      cases rescaled : d.rescale? scale with
      | none => simp [rescaled] at coerced
      | some e =>
        simp only [rescaled] at coerced
        split at coerced
        · rename_i fits
          rw [← Option.some.inj coerced]
          simp [Atom.stores, ((d.rescale_eq_some_iff e scale).mp rescaled).2.2.1, fits]
        · cases coerced
    | _ => simp [coerce?] at coerced
  | int =>
    cases value with
    | long n =>
      simp only [coerce?] at coerced
      split at coerced
      · rw [← Option.some.inj coerced]
        rfl
      · cases coerced
    | bool b | int n =>
      rw [← Option.some.inj coerced]
      rfl
    | _ => simp [coerce?] at coerced
  | _ =>
    cases value <;> simp [coerce?] at coerced <;> rw [← coerced] <;> rfl

theorem not_stores_null (kind : Atom) : kind.stores .null = false := by
  cases kind <;> rfl

theorem conforms_null (type : DataType) : conforms type .null = type.nullable := by
  cases type <;> simp [conforms]

theorem conforms_of_stores {kind : Atom} {value : Value} (nullable : Bool)
    (stored : kind.stores value = true) : conforms (.atom kind nullable) value = true := by
  cases value with
  | null => simp [not_stores_null] at stored
  | _ => simpa [conforms] using stored

theorem conformsFields_iff (fields : List Field) (items : List Value)
    (width : items.length = fields.length) :
    conformsFields fields items = true ↔
      List.Forall₂ (fun field item => conforms field.2 item = true) fields items := by
  induction fields generalizing items with
  | nil =>
    have empty : items = [] := by simpa using width
    simp [empty, conformsFields]
  | cons field fields ih =>
    cases items with
    | nil => simp at width
    | cons item items =>
      have tail := ih items (by simpa using width)
      simp only [conformsFields, Bool.and_eq_true, tail, List.forall₂_cons]

/-! ## Conversion -/

theorem convertValue_null (index : Nat) (type : DataType) (path : String) :
    convertValue index type path .null = .ok .null := by
  cases type <;> simp [convertValue]

theorem convertValue_null_of_fits (index : Nat) (type : DataType) (path : String)
    (fit : Fits type .null) :
    ∃ stored, convertValue index type path .null = .ok stored ∧ conforms type stored = true := by
  refine ⟨.null, convertValue_null index type path, ?_⟩
  rw [conforms_null]
  exact (fits_null type).mp fit

theorem fits_null_of_conforming (index : Nat) (type : DataType) (path : String) (stored : Value)
    (converted : convertValue index type path .null = .ok stored)
    (good : conforms type stored = true) : Fits type .null := by
  rw [convertValue_null] at converted
  cases converted
  rw [conforms_null] at good
  exact (fits_null type).mpr good

theorem convertValue_atom (index : Nat) (kind : Atom) (nullable : Bool) (path : String)
    (value stored : Value) (present : value ≠ .null) :
    convertValue index (.atom kind nullable) path value = .ok stored ↔
      coerce? kind value = some stored := by
  cases coerced : coerce? kind value <;> cases value <;> simp_all [convertValue]

def convertEntry (index : Nat) (key held : DataType) (path : String) (entry : Value × Value) :
    Except ValidationError (Value × Value) := do
  let k ← convertValue index key (keyPath path) entry.1
  let v ← convertValue index held (valuePath path) entry.2
  return (k, v)

theorem convertEntry_ok_iff (index : Nat) (key held : DataType) (path : String)
    (entry result : Value × Value) :
    convertEntry index key held path entry = .ok result ↔
      convertValue index key (keyPath path) entry.1 = .ok result.1 ∧
        convertValue index held (valuePath path) entry.2 = .ok result.2 := by
  rw [convertEntry, bind_eq_ok_iff]
  constructor
  · rintro ⟨k, first, later⟩
    rw [bind_eq_ok_iff] at later
    obtain ⟨v, second, pair⟩ := later
    rw [pure_eq_ok_iff] at pair
    subst result
    exact ⟨first, second⟩
  · rintro ⟨first, second⟩
    refine ⟨result.1, first, ?_⟩
    rw [bind_eq_ok_iff]
    exact ⟨result.2, second, rfl⟩

theorem convertValue_list_iff (index : Nat) (element : DataType) (nullable : Bool)
    (path : String) (items : List Value) (stored : Value) :
    convertValue index (.array element nullable) path (.list items) = .ok stored ↔
      ∃ results, mapEachFrom (fun position item =>
          convertValue index element (indexPath path position) item) 0 items = .ok results ∧
        .list results = stored := by
  simp only [convertValue]
  rw [bind_eq_ok_iff]
  simp only [pure_eq_ok_iff]

theorem convertValue_map_iff (index : Nat) (key held : DataType) (nullable : Bool)
    (path : String) (entries : List (Value × Value)) (stored : Value) :
    convertValue index (.map key held nullable) path (.map entries) = .ok stored ↔
      ∃ results, mapEachFrom (fun _ => convertEntry index key held path) 0 entries =
          .ok results ∧ .map results = stored := by
  simp only [convertValue]
  rw [bind_eq_ok_iff]
  simp only [pure_eq_ok_iff]
  rfl

theorem convertValue_record_iff (index : Nat) (fields : List Field) (nullable : Bool)
    (path : String) (r : Record) (stored : Value) :
    convertValue index (.row fields nullable) path (.record r) = .ok stored ↔
      checkArity fields index path r = .ok () ∧
        ∃ items, convertFields index fields (fields.map Prod.fst) 0 path r = .ok items ∧
          .record (.positional .row items) = stored := by
  simp only [convertValue]
  rw [bind_eq_ok_iff]
  constructor
  · rintro ⟨_, checked, later⟩
    rw [bind_eq_ok_iff] at later
    obtain ⟨items, parts, whole⟩ := later
    exact ⟨checked, items, parts, (pure_eq_ok_iff _ _).mp whole⟩
  · rintro ⟨checked, items, parts, whole⟩
    refine ⟨(), checked, ?_⟩
    rw [bind_eq_ok_iff]
    exact ⟨items, parts, (pure_eq_ok_iff _ _).mpr whole⟩

theorem convertFields_cons_iff (index : Nat) (field : String) (type : DataType)
    (fields : List Field) (name : String) (names : List String) (position : Nat)
    (path : String) (r : Record) (items : List Value) :
    convertFields index ((field, type) :: fields) (name :: names) position path r = .ok items ↔
      ∃ item others,
        convertValue index type (fieldPath path field) (r.valueAt name position) = .ok item ∧
          convertFields index fields names (position + 1) path r = .ok others ∧
            item :: others = items := by
  simp only [convertFields]
  rw [bind_eq_ok_iff]
  constructor
  · rintro ⟨item, first, later⟩
    rw [bind_eq_ok_iff] at later
    obtain ⟨others, rest, whole⟩ := later
    exact ⟨item, others, first, rest, (pure_eq_ok_iff _ _).mp whole⟩
  · rintro ⟨item, others, first, rest, whole⟩
    refine ⟨item, first, ?_⟩
    rw [bind_eq_ok_iff]
    exact ⟨others, rest, (pure_eq_ok_iff _ _).mpr whole⟩

theorem convertFields_length (index : Nat) :
    (fields : List Field) → (names : List String) → (position : Nat) → (path : String) →
      (r : Record) → (items : List Value) → names.length = fields.length →
      convertFields index fields names position path r = .ok items →
      items.length = fields.length
  | [], names, position, path, r, items, _, converted => by
    cases names <;> simp [convertFields] at converted <;> simp [← converted]
  | field :: fields, [], position, path, r, items, named, converted => by
    simp at named
  | (field, type) :: fields, name :: names, position, path, r, items, named, converted => by
    rw [convertFields_cons_iff] at converted
    obtain ⟨item, others, _, later, whole⟩ := converted
    have rest := convertFields_length index fields names (position + 1) path r others
      (by simpa using named) later
    simp [← whole, rest]

mutual

theorem convertValue_of_fits (index : Nat) :
    (type : DataType) → (path : String) → (value : Value) → Fits type value →
      ∃ stored, convertValue index type path value = .ok stored ∧
        conforms type stored = true
  | .atom kind nullable, path, value, fit => by
    by_cases absent : value = .null
    · subst value
      exact convertValue_null_of_fits index _ path fit
    · rw [fits_atom kind nullable value absent] at fit
      obtain ⟨stored, coerced⟩ := Option.isSome_iff_exists.mp fit
      exact ⟨stored, (convertValue_atom index kind nullable path value stored absent).mpr coerced,
        conforms_of_stores nullable (stores_of_coerce coerced)⟩
  | .array element nullable, path, value, fit => by
    cases value with
    | null => exact convertValue_null_of_fits index _ path fit
    | list items =>
      simp only [Fits] at fit
      obtain ⟨stored, converted, related⟩ := mapEachFrom_total
        (fun position v => convertValue index element (indexPath path position) v)
        (fun _ w => conforms element w = true) items
        (fun item member position =>
          convertValue_of_fits index element (indexPath path position) item (fit item member)) 0
      refine ⟨.list stored, ?_, ?_⟩
      · rw [convertValue_list_iff]
        exact ⟨stored, converted, rfl⟩
      · simp only [conforms, List.all_eq_true]
        intro item member
        obtain ⟨_, _, good⟩ := exists_left_of_related related member
        exact good
    | _ => simp [Fits] at fit
  | .map key held nullable, path, value, fit => by
    cases value with
    | null => exact convertValue_null_of_fits index _ path fit
    | map entries =>
      simp only [Fits] at fit
      obtain ⟨stored, converted, related⟩ := mapEachFrom_total
        (fun _ => convertEntry index key held path)
        (fun _ stored => conforms key stored.1 = true ∧ conforms held stored.2 = true) entries
        (fun entry member _ => by
          obtain ⟨keyFits, valueFits⟩ := fit entry member
          obtain ⟨k, first, goodKey⟩ := convertValue_of_fits index key (keyPath path) entry.1 keyFits
          obtain ⟨v, second, goodValue⟩ :=
            convertValue_of_fits index held (valuePath path) entry.2 valueFits
          exact ⟨(k, v), (convertEntry_ok_iff ..).mpr ⟨first, second⟩, goodKey, goodValue⟩) 0
      refine ⟨.map stored, ?_, ?_⟩
      · rw [convertValue_map_iff]
        exact ⟨stored, converted, rfl⟩
      · simp only [conforms, List.all_eq_true, Bool.and_eq_true]
        intro entry member
        obtain ⟨_, _, good⟩ := exists_left_of_related related member
        exact good
    | _ => simp [Fits] at fit
  | .row fields nullable, path, value, fit => by
    cases value with
    | null => exact convertValue_null_of_fits index _ path fit
    | record r =>
      obtain ⟨width, parts⟩ := (fits_row fields nullable r).mp fit
      obtain ⟨items, converted, related⟩ :=
        convertFields_of_fits index fields (fields.map Prod.fst) 0 path r (by simp) parts
      refine ⟨.record (.positional .row items), ?_, ?_⟩
      · rw [convertValue_record_iff]
        exact ⟨(checkArity_ok_iff fields index path r).mpr width, items, converted, rfl⟩
      · have size : items.length = fields.length := related.length_eq.symm
        have all := (conformsFields_iff fields items size).mpr related
        simp [conforms, Record.arity, Record.values, size, all]
    | _ => simp [Fits] at fit

theorem convertFields_of_fits (index : Nat) :
    (fields : List Field) → (names : List String) → (position : Nat) → (path : String) →
      (r : Record) → names.length = fields.length → FieldsFit fields names position r →
      ∃ items, convertFields index fields names position path r = .ok items ∧
        List.Forall₂ (fun field item => conforms field.2 item = true) fields items
  | [], names, position, path, r, _, _ => ⟨[], by simp [convertFields], .nil⟩
  | field :: fields, [], position, path, r, named, _ => by simp at named
  | (field, type) :: fields, name :: names, position, path, r, named, fit => by
    simp only [FieldsFit] at fit
    obtain ⟨item, first, good⟩ :=
      convertValue_of_fits index type (fieldPath path field) (r.valueAt name position) fit.1
    obtain ⟨items, later, related⟩ :=
      convertFields_of_fits index fields names (position + 1) path r (by simpa using named) fit.2
    refine ⟨item :: items, ?_, .cons good related⟩
    rw [convertFields_cons_iff]
    exact ⟨item, items, first, later, rfl⟩

end

mutual

/-- A value whose conversion conforms fits: the reader refuses every null that
verification refuses. -/
theorem fits_of_conforming (index : Nat) :
    (type : DataType) → (path : String) → (value stored : Value) →
      convertValue index type path value = .ok stored → conforms type stored = true →
      Fits type value
  | .atom kind nullable, path, value, stored, converted, good => by
    by_cases absent : value = .null
    · subst value
      exact fits_null_of_conforming index _ path stored converted good
    · rw [convertValue_atom index kind nullable path value stored absent] at converted
      rw [fits_atom kind nullable value absent, converted]
      rfl
  | .array element nullable, path, value, stored, converted, good => by
    cases value with
    | null => exact fits_null_of_conforming index _ path stored converted good
    | list items =>
      rw [convertValue_list_iff] at converted
      obtain ⟨results, mapped, rfl⟩ := converted
      simp only [conforms, List.all_eq_true] at good
      -- Conversion keeps the places, so whatever is known of a result is known of its item.
      have related := mapEachFrom_related _
        (fun item result => conforms element result = true → Fits element item) items
        (fun item _ position result step =>
          fits_of_conforming index element (indexPath path position) item result step)
        0 results mapped
      simp only [Fits]
      intro item member
      obtain ⟨result, inside, fit⟩ := exists_right_of_related related member
      exact fit (good result inside)
    | _ => simp [convertValue] at converted
  | .map key held nullable, path, value, stored, converted, good => by
    cases value with
    | null => exact fits_null_of_conforming index _ path stored converted good
    | map entries =>
      rw [convertValue_map_iff] at converted
      obtain ⟨results, mapped, rfl⟩ := converted
      simp only [conforms, List.all_eq_true, Bool.and_eq_true] at good
      have related := mapEachFrom_related _
        (fun (entry result : Value × Value) =>
          conforms key result.1 = true ∧ conforms held result.2 = true →
            Fits key entry.1 ∧ Fits held entry.2) entries
        (fun entry _ _ result step both => by
          obtain ⟨first, second⟩ := (convertEntry_ok_iff ..).mp step
          exact ⟨fits_of_conforming index key (keyPath path) entry.1 result.1 first both.1,
            fits_of_conforming index held (valuePath path) entry.2 result.2 second both.2⟩)
        0 results mapped
      simp only [Fits]
      intro entry member
      obtain ⟨result, inside, fit⟩ := exists_right_of_related related member
      exact fit (good result inside)
    | _ => simp [convertValue] at converted
  | .row fields nullable, path, value, stored, converted, good => by
    cases value with
    | null => exact fits_null_of_conforming index _ path stored converted good
    | record r =>
      rw [convertValue_record_iff] at converted
      obtain ⟨checked, items, parts, rfl⟩ := converted
      simp only [conforms, Record.arity, Record.values, Bool.and_eq_true] at good
      rw [fits_row]
      refine ⟨(checkArity_ok_iff fields index path r).mp checked, ?_⟩
      exact fieldsFit_of_conforming index fields (fields.map Prod.fst) 0 path r items
        (by simp) parts ((conformsFields_iff fields items (of_decide_eq_true good.1)).mp good.2)
    | _ => simp [convertValue] at converted

theorem fieldsFit_of_conforming (index : Nat) :
    (fields : List Field) → (names : List String) → (position : Nat) → (path : String) →
      (r : Record) → (items : List Value) → names.length = fields.length →
      convertFields index fields names position path r = .ok items →
      List.Forall₂ (fun field item => conforms field.2 item = true) fields items →
      FieldsFit fields names position r
  | [], names, position, path, r, items, _, _, _ => by simp [FieldsFit]
  | field :: fields, [], position, path, r, items, named, _, _ => by simp at named
  | (field, type) :: fields, name :: names, position, path, r, items, named, converted, good => by
    rw [convertFields_cons_iff] at converted
    obtain ⟨item, others, first, later, rfl⟩ := converted
    rw [List.forall₂_cons] at good
    simp only [FieldsFit]
    exact ⟨fits_of_conforming index type (fieldPath path field) (r.valueAt name position) item
        first good.1,
      fieldsFit_of_conforming index fields names (position + 1) path r others
        (by simpa using named) later good.2⟩

end

/-! ## Whole records -/

/-- The values of a row are what its columns store. -/
def RowConforms (fields : List Field) (row : Row) : Prop :=
  List.Forall₂ (fun field value => conforms field.2 value = true) fields row

theorem recordFits_iff_convert (fields : List Field) (names : List String) (index : Nat)
    (record : Record) (named : names.length = fields.length) :
    RecordFits fields names record ↔
      ∃ row, convertUnder fields names index record = .ok row ∧ RowConforms fields row := by
  constructor
  · rintro ⟨width, fit⟩
    obtain ⟨row, converted, good⟩ :=
      convertFields_of_fits index fields names 0 "" record named fit
    refine ⟨row, ?_, good⟩
    have arity := (checkArity_ok_iff fields index "" record).mpr width
    simp [convertUnder, arity, converted, bind, Except.bind]
  · rintro ⟨row, converted, good⟩
    rw [convertUnder, bind_eq_ok_iff] at converted
    obtain ⟨_, checked, converted⟩ := converted
    exact ⟨(checkArity_ok_iff fields index "" record).mp checked,
      fieldsFit_of_conforming index fields names 0 "" record row named converted good⟩

/-- A record verifies exactly when it converts to a row that the reader takes:
nothing verified is refused later, and nothing is stored that would not verify. -/
theorem verify_iff_convert_conforms (schema : Schema) (index : Nat) (record : Record) :
    schema.verify index record = .ok () ↔
      ∃ row, schema.convert index record = .ok row ∧ RowConforms schema.fields row := by
  rw [Schema.verify, Schema.convert, verifyUnder_ok_iff]
  exact recordFits_iff_convert schema.fields schema.names index record (by simp [Schema.names])

/-- A converter accepts an element that is no named record where a single value is
due, that verifies if elements are verified, and that converts. -/
theorem convert_ok_iff (converter : Converter) (index : Nat) (record : Record) (row : Row) :
    converter.convert index record = .ok row ↔
      (converter.scalar && record.isNamed) = false ∧
        (converter.verifies = true → converter.verify index record = .ok ()) ∧
          convertUnder converter.schema.fields converter.lookupNames index record = .ok row := by
  cases named : converter.scalar && record.isNamed with
  | true => simp [Converter.convert, named, throw, throwThe, MonadExceptOf.throw, bind, Except.bind]
  | false =>
    cases verifies : converter.verifies with
    | false => simp [Converter.convert, named, verifies]
    | true =>
      simp only [Converter.convert, named, verifies, Bool.false_eq_true, if_false, if_true]
      rw [bind_eq_ok_iff]
      constructor
      · rintro ⟨_, verified, converted⟩
        exact ⟨trivial, fun _ => verified, converted⟩
      · rintro ⟨_, verified, converted⟩
        exact ⟨(), verified trivial, converted⟩

theorem verified_convert_iff (converter : Converter)
    (named : converter.lookupNames.length = converter.schema.fields.length) (index : Nat)
    (record : Record) (row : Row) :
    { converter with verifies := true }.convert index record = .ok row ↔
      { converter with verifies := false }.convert index record = .ok row ∧
        RowConforms converter.schema.fields row := by
  rw [convert_ok_iff, convert_ok_iff]
  have verify_iff : ({ converter with verifies := true } : Converter).verify index record = .ok () ↔
      RecordFits converter.schema.fields converter.lookupNames record :=
    verifyUnder_ok_iff converter.schema.fields converter.lookupNames index record
  have fit_iff := recordFits_iff_convert converter.schema.fields converter.lookupNames index
    record named
  constructor
  · rintro ⟨single, verified, converted⟩
    obtain ⟨other, same, good⟩ := fit_iff.mp (verify_iff.mp (verified rfl))
    have equal : row = other := Except.ok.inj (converted.symm.trans same)
    exact ⟨⟨single, by simp, converted⟩, equal ▸ good⟩
  · rintro ⟨⟨single, _, converted⟩, good⟩
    exact ⟨single, fun _ => verify_iff.mpr (fit_iff.mpr ⟨row, converted, good⟩), converted⟩

end TableLoad
