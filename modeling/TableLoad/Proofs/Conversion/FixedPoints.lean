import TableLoad.Proofs.Conversion.Unchanged

/-!
# Converted rows stay as they are

Whatever conversion makes is of the kinds of its type at every depth, and no decimal in it
has too many digits.  So conversion leaves it alone, and verification takes it exactly if
it takes what it was made of.
-/

set_option autoImplicit false

namespace TableLoad

/-- The value is as the type stores it, at every depth, nulls apart. -/
structure Settled (type : DataType) (value : Value) : Prop where
  kinds : Everywhere Matches type value
  digits : Everywhere DigitsFit type value

structure SettledIn (fields : List Field) (items : List Value) : Prop where
  kinds : EverywhereIn Matches fields items
  digits : EverywhereIn DigitsFit fields items

theorem settledIn_cons {field : String} {type : DataType} {fields : List Field} {item : Value}
    {items : List Value} (first : Settled type item) (rest : SettledIn fields items) :
    SettledIn ((field, type) :: fields) (item :: items) :=
  ⟨⟨first.kinds, rest.kinds⟩, first.digits, rest.digits⟩

theorem settled_null (type : DataType) : Settled type .null := by
  have digits := ((convert_null_unchanged 0 type "" .null).mp (convertValue_null 0 type "")).1
  refine ⟨?_, digits⟩
  rw [everywhere_null]
  cases type <;> trivial

theorem settled_of_stores (kind : Atom) (nullable : Bool) (value : Value)
    (stored : kind.stores value = true) : Settled (.atom kind nullable) value := by
  suffices Matches (.atom kind nullable) value ∧ DigitsFit (.atom kind nullable) value from
    ⟨(everywhere_atom kind nullable value).mpr this.1,
      (everywhere_atom kind nullable value).mpr this.2⟩
  cases kind with
  | decimal precision scale =>
    cases value with
    | decimal d =>
      simp only [Atom.stores, Bool.and_eq_true, decide_eq_true_eq] at stored
      exact stored
    | _ => cases stored
  | _ =>
    refine ⟨?_, trivial⟩
    cases value with
    | null => trivial
    | _ => exact stored

theorem settled_converted_null (index : Nat) (type : DataType) (path : String) :
    Yields (fun _ => True) (Settled type) (convertValue index type path .null) := by
  rw [convertValue_null]
  exact settled_null type

theorem settled_converted_atom (index : Nat) (kind : Atom) (nullable : Bool) (path : String)
    (value : Value) (present : value ≠ .null) :
    Yields (fun _ => True) (Settled (.atom kind nullable))
      (convertValue index (.atom kind nullable) path value) := by
  cases converted : convertValue index (.atom kind nullable) path value with
  | error cause => trivial
  | ok stored =>
    rw [convertValue_atom index kind nullable path value stored present] at converted
    exact settled_of_stores kind nullable stored (stores_of_coerce converted)

mutual

theorem settled_converted (index : Nat) : (type : DataType) → (path : String) →
    (value : Value) → Yields (fun _ => True) (Settled type) (convertValue index type path value)
  | .atom kind nullable, path, value => by
    by_cases absent : value = .null
    · rw [absent]
      exact settled_converted_null index _ path
    · exact settled_converted_atom index kind nullable path value absent
  | .array element nullable, path, value => by
    cases value with
    | null => exact settled_converted_null index _ path
    | list items =>
      rw [convertValue]
      refine yields_bind (yields_mapEachFrom items (fun item _ position =>
        settled_converted index element (indexPath path position) item) 0) fun results settled => ?_
      exact ⟨⟨trivial, fun item member => (settled item member).kinds⟩,
        trivial, fun item member => (settled item member).digits⟩
    | _ => trivial
  | .map key held nullable, path, value => by
    cases value with
    | null => exact settled_converted_null index _ path
    | map entries =>
      have each : ∀ entry ∈ entries, ∀ _ : Nat, Yields (fun _ => True)
          (fun stored : Value × Value => Settled key stored.1 ∧ Settled held stored.2)
          (convertEntry index key held path entry) := by
        intro entry _ _
        rw [convertEntry]
        refine yields_bind (settled_converted index key (keyPath path) entry.1) fun k first => ?_
        refine yields_bind (settled_converted index held (valuePath path) entry.2) ?_
        exact fun v second => ⟨first, second⟩
      rw [convertValue]
      refine yields_bind (yields_mapEachFrom entries each 0) fun results settled => ?_
      refine ⟨⟨trivial, fun entry member => ?_⟩, trivial, fun entry member => ?_⟩
      · exact ⟨(settled entry member).1.kinds, (settled entry member).2.kinds⟩
      · exact ⟨(settled entry member).1.digits, (settled entry member).2.digits⟩
    | _ => trivial
  | .row fields nullable, path, value => by
    cases value with
    | null => exact settled_converted_null index _ path
    | record r =>
      have arity : Yields (fun _ => True) (fun _ => True) (checkArity fields index path r) := by
        cases checkArity fields index path r <;> trivial
      rw [convertValue]
      refine yields_bind arity fun _ _ => ?_
      refine yields_bind
        (settled_convertFields index fields (fields.map Prod.fst) 0 path r (List.length_map _)) ?_
      intro items settled
      exact ⟨⟨trivial, settled.kinds⟩, trivial, settled.digits⟩
    | _ => trivial

theorem settled_convertFields (index : Nat) : (fields : List Field) → (names : List String) →
    (position : Nat) → (path : String) → (r : Record) → names.length = fields.length →
      Yields (fun _ => True) (SettledIn fields)
        (convertFields index fields names position path r)
  | [], [], _, _, _, _ => ⟨trivial, trivial⟩
  | (field, type) :: fields, name :: names, position, path, r, named => by
    rw [convertFields]
    refine yields_bind
      (settled_converted index type (fieldPath path field) (r.valueAt name position)) ?_
    intro item first
    refine yields_bind
      (settled_convertFields index fields names (position + 1) path r (Nat.succ.inj named)) ?_
    exact fun items rest => settledIn_cons first rest

end

theorem settledIn_of_convertUnder (fields : List Field) (names : List String) (index : Nat)
    (record : Record) (row : Row) (named : names.length = fields.length)
    (converted : convertUnder fields names index record = .ok row) : SettledIn fields row := by
  have parts := settled_convertFields index fields names 0 "" record named
  rw [convertUnder, bind_eq_ok_iff] at converted
  obtain ⟨_, _, made⟩ := converted
  rw [made] at parts
  exact parts

theorem verify_iff_of_converted (schema : Schema) (index number : Nat) (record : Record)
    (row : Row) (converted : schema.convert index record = .ok row) :
    schema.verify number record = .ok () ↔ RowConforms schema.fields row := by
  rw [Schema.verify, verifyUnder_ok_iff,
    recordFits_iff_convert schema.fields schema.names index record (List.length_map _)]
  constructor
  · intro fit
    obtain ⟨found, same, good⟩ := fit
    cases converted.symm.trans same
    exact good
  · intro good
    exact ⟨row, converted, good⟩

/-- A converted row, carried by position in any shape, is converted to itself under any
number.  It verifies exactly if the record that it was made of does. -/
theorem converted_row_stays (schema : Schema) (index : Nat) (record : Record) (row : Row)
    (converted : schema.convert index record = .ok row) (form : Positional) (again : Nat) :
    schema.convert again (.positional form row) = .ok row ∧
      ∀ other, schema.verify again (.positional form row) = .ok () ↔
        schema.verify other record = .ok () := by
  have named : schema.names.length = schema.fields.length := List.length_map _
  have settled := settledIn_of_convertUnder schema.fields schema.names index record row named
    converted
  have stays : schema.convert again (.positional form row) = .ok row :=
    (convertUnder_unchanged again schema.fields schema.names form row named settled.kinds row).mpr
      ⟨settled.digits, rfl⟩
  refine ⟨stays, fun other => ?_⟩
  rw [verify_iff_of_converted schema again again _ row stays,
    verify_iff_of_converted schema index other record row converted]

def readings : Schema where
  fields :=
    [("device", .row [("name", .atom .string false), ("on", .atom .double true)] false),
      ("prices", .map (.atom .bigInt true) (.array (.atom (.decimal 6 3) false) true) false)]
  wellFormed := rfl

/-- Keys of several kinds, prices of several scales and one that is missing, and a device
without a name. -/
def patchyReading : Record :=
  .named .row
    [("prices", .map
      [(.bool true, .list [.decimal ⟨125, 1, by decide⟩, .null]), (.int 7, .list []),
        (.long 7, .null)]),
      ("device", .record (.named .mapping [("on", .bool true)]))]

def patchyRow : Row :=
  [.record (.positional .row [.null, .double .one]),
    .map [(.long 1, .list [.decimal ⟨12500, 3, by decide⟩, .null]), (.long 7, .list []),
      (.long 7, .null)]]

theorem patchy_reading_stays :
    readings.convert 3 patchyReading = .ok patchyRow ∧
      (∀ form again, readings.convert again (.positional form patchyRow) = .ok patchyRow) ∧
      ¬readings.verify 0 (.positional .tuple patchyRow) = .ok () := by
  have converted : readings.convert 3 patchyReading = .ok patchyRow := rfl
  refine ⟨converted, fun form again => ?_, ?_⟩
  · exact (converted_row_stays readings 3 patchyReading patchyRow converted form again).1
  · rw [(converted_row_stays readings 3 patchyReading patchyRow converted .tuple 0).2 3]
    intro impossible
    cases impossible

end TableLoad
